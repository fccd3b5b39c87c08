import SourceLedger.Ledger
import SourceLedger.Text.Size
import SourceLedger.Text.Slice
import SourceLedger.Text.Timestamp

/-!
# Results in words

What a command shows to a reader: one line a fact, details indented below what they belong to, and
digests cut to their first twelve characters.
-/

namespace SourceLedger.Display

/-- The beginning of a digest, or all of it if it is short. -/
def shortHash (hash : String) : String :=
  (Text.slice? hash 0 12).getD hash

/-- The sign of a kind of change. -/
def changeMark : ChangeKind → String
  | .added => "+"
  | .removed => "-"
  | .modified => "~"
  | .unchanged => "="

/-- A failure and what lies behind it. -/
def failure (heading : String) (failure : Failure) : List String :=
  s!"{heading}: {failure.message}" :: failure.causes.map ("  caused by: " ++ ·)

/-- The result of ingesting a file. -/
def ingestion (path : String) : Except Failure IngestReport → List String
  | .ok report =>
    [s!"Ingested {path} v{report.versionNumber} ({report.componentCount} components)",
      s!"  Drift: {report.drift.describe}"] ++
    if 0 < report.missingSegments then
      [s!"  Warning: {report.missingSegments} components stored without source text"]
    else []
  | .error e => failure s!"Failed {path}" e

/-- The result of a verification. -/
def verification (path : String) (outcome : VerifyOutcome) : List String :=
  let verdict (agrees : Bool) : String := if agrees then "match" else "differs"
  [s!"{outcome.status.describe} {path} v{outcome.versionNumber}",
    s!"  Raw: {shortHash outcome.rawHash} ({verdict outcome.rawMatch})",
    match outcome.treeHash with
    | some hash => s!"  Tree: {shortHash hash} ({verdict outcome.treeMatch})"
    | none => "  Tree: rebuilt source does not parse"]

/-- A component, with its signature below it. -/
def component (row : ComponentRecord) : List String :=
  let indent := String.ofList (List.replicate (2 * (row.depth + 1)) ' ')
  let heading := s!"{indent}{row.kind.name} {row.qualifiedName} L{row.firstLine}-{row.lastLine} "
  (heading ++ shortHash row.committedHash) ::
  (row.signature.map fun signature => s!"{indent}  {signature}").toList

/-- The components of a file, in the order in which they stand in the source. -/
def components (path : String) (rows : List ComponentRecord) : List String :=
  let inSource (x y : ComponentRecord) : Bool :=
    x.firstLine < y.firstLine || (x.firstLine == y.firstLine && x.depth ≤ y.depth)
  s!"Components of {path} ({rows.length} components)" ::
    (rows.mergeSort inSource).flatMap component

/-- The drift of a version. -/
def drift (path : String) (number : Nat) (summary : DriftSummary) (events : List EventRow) :
    List String :=
  s!"Drift {path} v{number}: {summary.describe}" ::
  if events.isEmpty then ["  no changes"]
  else events.map fun event =>
    s!"  {changeMark event.kind} {event.qualifiedName} {event.category.name} " ++
      s!"[{event.severity.name}]"

/-- The versions of a file. -/
def versions (path : String) (rows : List VersionRow) : List String :=
  if rows.isEmpty then [s!"{path} has not been ingested"]
  else
    s!"Versions of {path}" :: rows.flatMap fun row =>
      [s!"  v{row.number} {Text.Timestamp.describe row.createdAt} {shortHash row.rawHash} " ++
        s!"{row.componentCount} components",
        s!"      {row.changeSummary}"]

/-- The history of a name. -/
def history (path qualifiedName : String) (entries : List HistoryEntry) : List String :=
  if entries.isEmpty then [s!"{qualifiedName} never appeared in {path}"]
  else
    s!"History of {qualifiedName} in {path}" :: entries.map fun entry =>
      s!"  {changeMark entry.change} v{entry.versionNumber} {entry.resolution.name} committed " ++
        s!"{shortHash entry.committedHash} at {Text.Timestamp.describe entry.committedAt}"

/-- The statistics of a store. -/
def statistics (database : String) (size : Option Nat) (numbers : Statistics) : List String :=
  let shownSize := size.elim "size unknown" Text.Size.describe
  ["Canon Store Statistics",
    "",
    s!"  Database: {database} ({shownSize})",
    "",
    s!"  Files: {numbers.files}",
    s!"  Versions: {numbers.versions}",
    s!"  Components: {numbers.live} live, {numbers.components} stored"] ++
  numbers.ranking.map (fun (kind, count) => s!"    {kind.name}: {count}") ++
  ["",
    s!"  Drift events: {numbers.events}",
    s!"  Equivalence proofs: {numbers.proofs} ({numbers.failedProofs} failed)"]

end SourceLedger.Display
