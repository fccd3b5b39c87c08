import SourceLedger.Drift.Report
import SourceLedger.Identity
import SourceLedger.Store.Query

/-!
# Writing a version

An extraction becomes the next version of its file. First everything is staged: which file and
which previous version there are, the identity of every component, the drift from the previous
version, and from these the rows to be added. Then the rows are checked against the rules of the
tables, and only if none is broken are they all added at once. A refused version leaves no trace.
-/

namespace SourceLedger

/-- The result of an ingestion. -/
structure IngestReport where
  path : String
  fileId : Int
  versionId : Nat
  versionNumber : Nat
  componentCount : Nat
  drift : DriftSummary
  missingSegments : Nat
  deriving DecidableEq, Repr, Inhabited

/-- What a stored use of a name counts as in a comparison. One with an unknown word counts as
nothing. -/
def StoredSymbol.key? (symbol : StoredSymbol) : Option String := do
  return symbolKey symbol.name (← ScopeKind.ofName? symbol.scope)
    (← AccessKind.ofName? symbol.access)

/-- A use of a name that was written counts as itself. -/
theorem StoredSymbol.key?_stored (id : Int) (symbol : SymbolUse) :
    (symbol.stored id).key? = some symbol.key := by
  simp [key?, SymbolUse.stored, SymbolUse.key, ScopeKind.ofName?_name, AccessKind.ofName?_name]

namespace Store

variable (store : Store)

/-- What a version recorded about the identity of its components. -/
def identityTable (versionId : Nat) : IdentityTable :=
  (store.history.filter (·.versionId == versionId)).map fun row =>
    (row.qualifiedName,
      ⟨row.componentId, row.contentHash, row.structureHash, row.committedHash, row.committedAt⟩)

/-- The facts of a stored component. A kind that is not in the vocabulary counts as a block, and
uses of names with unknown words are left out. -/
def factsOfRow (row : StoredComponent) : ComponentFacts where
  qualifiedName := row.qualifiedName
  kind := (ComponentKind.ofName? row.kind).getD .block
  contentHash := row.contentHash
  structureHash := row.structureHash
  signature := row.signature
  calls := .ofList ((store.callsOf row.id).map (·.callee))
  imports := .ofList ((store.importsOf row.id).map (·.key))
  symbols := .ofList ((Owned.select row.id store.symbols).filterMap (·.key?))

/-- The facts of a stored version, in the order in which its components were written. -/
def facts (versionId : Nat) : List ComponentFacts :=
  (store.componentRows versionId).map store.factsOfRow

/-- Adds an event, unless the version has one for that name. -/
def addEvent (fileId : Int) (versionId : Nat) (previousId : Option Nat) (now : Int) (store : Store)
    (change : DriftChange) : Store :=
  if store.events.any fun row =>
      row.versionId == versionId && row.qualifiedName == change.qualifiedName then store
  else
    { store with
      events := store.events ++
        [⟨store.events.length + 1, fileId, versionId, previousId, change.qualifiedName,
          change.kind, change.category, change.severity, change.oldValue, change.newValue, now⟩] }

/-- Adds the events of a version, each name once. -/
def addEvents (fileId : Int) (versionId : Nat) (previousId : Option Nat) (now : Int)
    (changes : List DriftChange) : Store :=
  changes.foldl (addEvent fileId versionId previousId now) store

end Store

/-- A version that is about to be written. -/
structure Staging where
  extraction : Extraction
  now : Int
  fileId : Int
  /-- When the file was ingested for the first time. -/
  createdAt : Int
  previous : Option VersionRow
  versionId : Nat
  identities : IdentityTable
  drift : DriftReport
  /-- The number of component rows that are there before. -/
  componentBase : Nat
  /-- The number of history rows that are there before. -/
  historyBase : Nat

/-- Everything that writing an extraction as the next version of its file needs to know. There is
no file if the path is new. -/
def Store.stage (store : Store) (file : Option FileRecord) (extraction : Extraction) (now : Int) :
    Staging :=
  let previous := file.bind fun file => store.latestVersion? file.id
  { extraction, now, previous
    fileId := file.elim (nextId (store.files.map (·.id))) (·.id)
    createdAt := file.elim now (·.createdAt)
    versionId := store.versions.length + 1
    identities := previous.elim [] fun version => store.identityTable version.id
    drift := previous.elim (Drift.baseline extraction.facts) fun version =>
      Drift.compare (store.facts version.id) extraction.facts
    componentBase := store.components.length
    historyBase := store.history.length }

namespace Staging

variable (staging : Staging)

/-- The number of the new version. -/
def versionNumber : Nat :=
  staging.previous.elim 1 (·.number + 1)

/-- The row that the component at some position gets. -/
def rowId (position : Nat) : Nat :=
  staging.componentBase + position + 1

/-- The row of the new version. -/
def version : VersionRow where
  id := staging.versionId
  fileId := staging.fileId
  number := staging.versionNumber
  previousId := staging.previous.map (·.id)
  rawHash := staging.extraction.rawHash
  treeHash := staging.extraction.treeHash
  sizeBytes := staging.extraction.sizeBytes
  componentCount := staging.extraction.components.length
  changeSummary := if staging.previous.isSome then staging.drift.describe else "initial version"
  createdAt := staging.now

/-- The identity of a component. -/
def identity (component : Component) : ResolvedIdentity :=
  staging.identities.resolveComponent staging.now component

/-- The row of the component at some position. -/
def componentRow (component : Component) (position : Nat) : ComponentRecord :=
  let identity := staging.identity component
  { id := staging.rowId position
    fileId := staging.fileId
    versionId := staging.versionId
    parentId := component.parent.map staging.rowId
    kind := component.kind
    name := component.name
    qualifiedName := component.qualifiedName
    orderIndex := component.orderIndex
    depth := component.depth
    firstLine := component.firstLine
    lastLine := component.lastLine
    contentHash := component.contentHash
    structureHash := component.structureHash
    committedHash := identity.committedHash
    committedAt := identity.committedAt
    signature := component.signature
    resolution := identity.resolution }

/-- The history row of the component at some position. -/
def historyRow (component : Component) (position : Nat) : HistoryRow :=
  let identity := staging.identity component
  { id := staging.historyBase + position + 1
    componentId := staging.rowId position
    fileId := staging.fileId
    versionId := staging.versionId
    qualifiedName := component.qualifiedName
    change := staging.drift.changeFor component.qualifiedName
    resolution := identity.resolution
    contentHash := component.contentHash
    structureHash := component.structureHash
    committedHash := identity.committedHash
    committedAt := identity.committedAt
    recordedAt := staging.now }

/-- The component rows. -/
def componentRows : List StoredComponent :=
  staging.extraction.components.zipIdx.map fun (component, position) =>
    (staging.componentRow component position).stored

/-- The history rows. -/
def historyRows : List HistoryRow :=
  staging.extraction.components.zipIdx.map fun (component, position) =>
    staging.historyRow component position

/-- The rows of the stored texts. -/
def segmentRows : List (Owned Segment) :=
  staging.extraction.components.zipIdx.map fun (component, position) =>
    ⟨staging.rowId position, component.segment⟩

/-- Facts whose owners are positions become facts whose owners are rows. -/
def factRows {α : Type} (facts : List (Owned α)) : List (Owned α) :=
  facts.map fun owned => ⟨staging.rowId owned.owner, owned.fact⟩

/-- Facts become rows that are numbered from some number on. -/
def numberedRows {α β : Type} (stored : Int → α → β) (first : Int) (facts : List (Owned α)) :
    List (Owned β) :=
  (staging.factRows facts).zipIdx.map fun (owned, position) =>
    ⟨owned.owner, stored (first + position) owned.fact⟩

/-- The rows of the decorators. -/
def decoratorRows : List (Owned Decorator) :=
  staging.factRows staging.extraction.decorators

/-- The report on the ingestion. -/
def report : IngestReport where
  path := staging.extraction.path
  fileId := staging.fileId
  versionId := staging.versionId
  versionNumber := staging.versionNumber
  componentCount := staging.extraction.components.length
  drift := staging.drift.summary
  missingSegments := staging.extraction.missingSegments

/-- The file row for the new version: a new one, or the old one brought up to date. -/
def fileRow : FileRecord where
  id := staging.fileId
  path := staging.extraction.path
  rawHash := staging.extraction.rawHash
  treeHash := staging.extraction.treeHash
  sizeBytes := staging.extraction.sizeBytes
  createdAt := staging.createdAt
  updatedAt := staging.now

end Staging

/-- The first of some new rows whose key is taken by an older row or by a new one before it. -/
def firstClash? {α β : Type} [BEq β] (key : α → β) : (present added : List α) → Option α
  | _, [] => none
  | present, row :: rest =>
    if present.any (key · == key row) then some row else firstClash? key (row :: present) rest

namespace Staging

variable (staging : Staging)

/-- A component that stands before its parent. -/
def orphan? : Option Failure :=
  (staging.extraction.components.zipIdx.find? fun (component, position) =>
    component.parent.any (position ≤ ·)).map fun (component, _) =>
      .internal (s!"component {component.qualifiedName} refers to parent " ++
        s!"{component.parent.getD 0} before it was written")

/-- A fact about a component that is not there. -/
def strayFact? : Option Failure :=
  let count := staging.extraction.components.length
  let stray {α : Type} (facts : List (Owned α)) : Bool := facts.any fun owned => count ≤ owned.owner
  if stray staging.extraction.symbols || stray staging.extraction.calls ||
      stray staging.extraction.imports || stray staging.extraction.globals ||
      stray staging.extraction.decorators then
    some (.internal "a fact refers to a component that was not written")
  else none

/-- The rule of the tables that a staged version breaks, if there is one. -/
def fault? (store : Store) : Option Failure :=
  let notUnique {α : Type} (columns : String) (clash : Option α) : Option Failure :=
    clash.map fun _ => .database (.notUnique columns)
  (notUnique "file_versions.file_id, file_versions.version_number"
    (firstClash? (fun row => (row.fileId, row.number)) store.versions [staging.version]))
  <|> staging.orphan?
  <|> notUnique "components.version_id, components.qualified_name"
    (firstClash? (fun row => (row.versionId, row.qualifiedName)) store.components
      staging.componentRows)
  <|> notUnique "index 'idx_components_sibling_order'"
    (firstClash? (fun row => (row.versionId, row.parentId.getD 0, row.orderIndex))
      store.components staging.componentRows)
  <|> staging.strayFact?
  <|> notUnique "decorators.component_id, decorators.position"
    (firstClash? (fun row => (row.owner, row.fact.position)) store.decorators
      staging.decoratorRows)

end Staging

namespace Store

/-- The files with the row of one path put in its place, or at the end if it is new. -/
def putFile (files : List StoredFile) (staging : Staging) : List StoredFile :=
  if files.any (·.id == staging.fileId) then
    files.map fun file => if file.id = staging.fileId then staging.fileRow.stored else file
  else files ++ [staging.fileRow.stored]

/-- Adds all rows of a staged version. -/
def commit (store : Store) (staging : Staging) : Store :=
  let extraction := staging.extraction
  let added : Store :=
    { files := putFile store.files staging
      versions := store.versions ++ [staging.version]
      components := store.components ++ staging.componentRows
      segments := store.segments ++ staging.segmentRows
      symbols := store.symbols ++
        staging.numberedRows SymbolUse.stored (nextId (store.symbols.map (·.fact.id)))
          extraction.symbols
      calls := store.calls ++ staging.factRows extraction.calls
      imports := store.imports ++ staging.factRows extraction.imports
      globals := store.globals ++
        staging.numberedRows GlobalAccess.stored (nextId (store.globals.map (·.fact.id)))
          extraction.globals
      decorators := store.decorators ++ staging.decoratorRows
      history := store.history ++ staging.historyRows
      events := store.events
      proofs := store.proofs }
  added.addEvents staging.fileId staging.versionId (staging.previous.map (·.id)) staging.now
    staging.drift.changes

/-- Writes an extraction as the next version of its file. -/
def write (store : Store) (extraction : Extraction) (now : Int) :
    Except Failure (IngestReport × Store) := do
  let file ← (store.file? extraction.path).mapError .database
  let staging := store.stage file extraction now
  match staging.fault? store with
  | some failure => .error failure
  | none => .ok (staging.report, store.commit staging)

end Store

end SourceLedger
