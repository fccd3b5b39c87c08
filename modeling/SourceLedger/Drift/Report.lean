import SourceLedger.Drift.Facts

/-!
# Drift between two versions

Versions are compared by full name, never by position. A name that only the new version has was
added, a name that only the old version has was removed, and a name that both have was modified if
its text differs. What a modification is about is decided by the first fact that differs, in the
order tree, signature, imports, calls, names; equal trees mean that only the layout changed. A
renamed component is a removal and an addition.

`compare` goes over the new version and then over the old one, each in the order of names. On the
way it lists the changes, counts, and classifies the names of the new version; in the end it sorts
the changes by name. Where a list of facts has a name twice, the later entry counts.
-/

namespace SourceLedger

/-- A change of one component. -/
structure DriftChange where
  qualifiedName : String
  kind : ChangeKind
  category : DriftCategory
  /-- How much the change matters. -/
  severity : Severity
  oldValue : Option String
  newValue : Option String
  deriving DecidableEq, Repr, Inhabited

/-- How many components were added, removed, modified and left alone. -/
structure DriftSummary where
  added : Nat := 0
  removed : Nat := 0
  modified : Nat := 0
  unchanged : Nat := 0
  deriving DecidableEq, Repr, Inhabited

namespace DriftSummary

/-- Whether anything changed. -/
def hasDrift (summary : DriftSummary) : Bool :=
  0 < summary.added + summary.removed + summary.modified

/-- The counts in one line. -/
def describe (summary : DriftSummary) : String :=
  s!"+{summary.added} -{summary.removed} ~{summary.modified} ={summary.unchanged}"

end DriftSummary

/-- The result of comparing two versions. -/
structure DriftReport where
  /-- The changes, in the order of names. -/
  changes : List DriftChange := []
  summary : DriftSummary := {}
  /-- What became of each name of the new version, in the order of names. -/
  classification : List (String × ChangeKind) := []
  deriving DecidableEq, Repr, Inhabited

namespace DriftReport

/-- What became of a name. Names that the new version does not have count as removed. -/
def changeFor (report : DriftReport) (qualifiedName : String) : ChangeKind :=
  (report.classification.lookup qualifiedName).getD .removed

/-- The weightiest severity among the changes. -/
def highestSeverity? (report : DriftReport) : Option Severity :=
  match report.changes with
  | [] => none
  | first :: rest => some (rest.foldl (fun highest change => highest.max change.severity)
      first.severity)

/-- The report in words. -/
def describe (report : DriftReport) : String :=
  let summary := report.summary
  s!"{summary.added} added, {summary.removed} removed, {summary.modified} modified, " ++
    s!"{summary.unchanged} unchanged" ++
    report.highestSeverity?.elim "" fun severity => s!"; highest severity {severity.name}"

end DriftReport

namespace Drift

/-- The facts under a name, the last of them where there are several. -/
def lookup? (facts : List ComponentFacts) (qualifiedName : String) : Option ComponentFacts :=
  facts.reverse.find? (·.qualifiedName == qualifiedName)

/-- The names in a list of facts. -/
def names (facts : List ComponentFacts) : List String :=
  facts.map (·.qualifiedName)

/-- The facts that count, one entry for each name, in the order of names. -/
def byName (facts : List ComponentFacts) : List ComponentFacts :=
  (KeySet.ofList (names facts)).toList.filterMap (lookup? facts)

/-- What a modification is about. -/
def modificationCategory (old new : ComponentFacts) : DriftCategory :=
  if old.structureHash = new.structureHash then .formattingOnly
  else if old.signature ≠ new.signature then .signatureChanged
  else if old.imports ≠ new.imports then .importsChanged
  else if old.calls ≠ new.calls then .callsChanged
  else if old.symbols ≠ new.symbols then .symbolsChanged
  else .bodyChanged

/-- The change of a component that both versions have. The values shown are the signatures where
these differ, and the digests of the text otherwise. -/
def modification (old new : ComponentFacts) : DriftChange :=
  let category := modificationCategory old new
  let (oldValue, newValue) :=
    if category = .signatureChanged then (old.signature, new.signature)
    else (some old.contentHash, some new.contentHash)
  { qualifiedName := new.qualifiedName
    kind := .modified
    category
    severity := category.severity
    oldValue, newValue }

/-- The change of a component that only the new version has. -/
def addition (new : ComponentFacts) : DriftChange :=
  let category := if new.kind = .importing then .importAdded else .componentAdded
  { qualifiedName := new.qualifiedName
    kind := .added
    category
    severity := category.severity
    oldValue := none
    newValue := some new.contentHash }

/-- The change of a component that only the old version has. -/
def removal (old : ComponentFacts) : DriftChange :=
  let category := if old.kind = .importing then .importRemoved else .componentRemoved
  { qualifiedName := old.qualifiedName
    kind := .removed
    category
    severity := category.severity
    oldValue := some old.contentHash
    newValue := none }

/-- Enters what became of a name in a classification, in its place in the order of names and over
an entry that the name has. -/
def insertClass (name : String) (kind : ChangeKind) :
    List (String × ChangeKind) → List (String × ChangeKind)
  | [] => [(name, kind)]
  | first :: rest =>
    if name < first.1 then (name, kind) :: first :: rest
    else if name = first.1 then (name, kind) :: rest
    else first :: insertClass name kind rest

/-- The report after a component of the new version. -/
def takeNew (old : List ComponentFacts) (report : DriftReport) (current : ComponentFacts) :
    DriftReport :=
  let name := current.qualifiedName
  match lookup? old name with
  | none =>
    { changes := report.changes ++ [addition current]
      summary := { report.summary with added := report.summary.added + 1 }
      classification := insertClass name .added report.classification }
  | some previous =>
    if previous.contentHash = current.contentHash then
      { report with
        summary := { report.summary with unchanged := report.summary.unchanged + 1 }
        classification := insertClass name .unchanged report.classification }
    else
      { changes := report.changes ++ [modification previous current]
        summary := { report.summary with modified := report.summary.modified + 1 }
        classification := insertClass name .modified report.classification }

/-- The report after a component of the old version. One that the new version has too has been
reported on. -/
def takeOld (new : List ComponentFacts) (report : DriftReport) (previous : ComponentFacts) :
    DriftReport :=
  if (lookup? new previous.qualifiedName).isSome then report
  else
    { report with
      changes := report.changes ++ [removal previous]
      summary := { report.summary with removed := report.summary.removed + 1 } }

/-- Puts a change in its place in the order of names, before those of the same name. -/
def insertChange (change : DriftChange) : List DriftChange → List DriftChange
  | [] => [change]
  | first :: rest =>
    if change.qualifiedName ≤ first.qualifiedName then change :: first :: rest
    else first :: insertChange change rest

/-- The changes in the order of names. Those of the same name stay in their order. -/
def sortChanges (changes : List DriftChange) : List DriftChange :=
  changes.foldr insertChange []

/-- The drift from one version to the next. -/
def compare (old new : List ComponentFacts) : DriftReport :=
  let report := (byName old).foldl (takeOld new) ((byName new).foldl (takeNew old) {})
  { report with changes := sortChanges report.changes }

/-- The report on a first version, which has nothing to drift from. All its components count as
added, but nothing is listed or counted as a change. -/
def baseline (new : List ComponentFacts) : DriftReport :=
  { classification := (KeySet.ofList (names new)).toList.map (·, .added) }

end Drift

end SourceLedger
