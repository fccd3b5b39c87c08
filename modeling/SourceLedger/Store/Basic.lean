import SourceLedger.Fact
import SourceLedger.Store.Datum

/-!
# The store

A store is a handful of tables. Files have one row a path; every ingestion adds a version, the
components of that version with their texts and facts, one history row a component, and the events
by which the version differs from the one before; every verification adds a proof. Rows are
numbered from one in the order in which they are written, and facts refer to the row of their
component.

Words of the vocabulary are stored as texts. Rows that can be changed from outside keep texts for
words and cells for numbers, and are read with `FileRow.read`, `ComponentRow.read`,
`StoredSymbol.read`, `StoredGlobal.read` and `ProofRow.read`, which refuse unknown words and foreign
cells; what is written reads back (`read_stored`). Ids of such rows are integers, since they can be
changed too, and the rows of a table are kept in the order of their ids.
-/

namespace SourceLedger

/-- Reads a stored word, which stands in a column counted from zero. -/
def readWord {α : Type} (column : Nat) (what : String) (ofName? : String → Option α)
    (text : String) : Except DatabaseFault α :=
  match ofName? text with
  | some word => .ok word
  | none => .error (.unknownWord column what text)

/-- The id of the next row of a table whose rows have some ids, in order. -/
def nextId (ids : List Int) : Int :=
  ids.getLast?.getD 0 + 1

/-- A tracked file. `ν` and `τ` are what its size and its times are given as: cells in the store,
numbers outside. -/
structure FileRow (ν τ : Type) where
  id : Int
  path : String
  rawHash : String
  treeHash : String
  sizeBytes : ν
  createdAt : τ
  updatedAt : τ
  deriving DecidableEq, Repr, Inhabited

/-- A file as it is stored. -/
abbrev StoredFile := FileRow (Cell Nat) (Cell Int)

/-- A file as it is read. -/
abbrev FileRecord := FileRow Nat Int

namespace FileRow

/-- A file as it is written. -/
def stored (row : FileRecord) : StoredFile :=
  { row with
    sizeBytes := .value row.sizeBytes
    createdAt := .value row.createdAt
    updatedAt := .value row.updatedAt }

/-- Reads a file. -/
def read (row : StoredFile) : Except DatabaseFault FileRecord := do
  let sizeBytes ← row.sizeBytes.read 4 "size_bytes"
  let createdAt ← row.createdAt.read 5 "created_at"
  let updatedAt ← row.updatedAt.read 6 "updated_at"
  return { row with sizeBytes, createdAt, updatedAt }

/-- A file that was written reads back. -/
theorem read_stored (row : FileRecord) : row.stored.read = .ok row := by
  simp [stored, read, bind, Except.bind, pure, Except.pure]

end FileRow

/-- A version of a file. -/
structure VersionRow where
  id : Nat
  fileId : Int
  /-- Versions of a file are counted from one. -/
  number : Nat
  previousId : Option Nat
  rawHash : String
  treeHash : String
  sizeBytes : Nat
  componentCount : Nat
  changeSummary : String
  createdAt : Int
  deriving DecidableEq, Repr, Inhabited

/-- A component of a version. `κ` and `ρ` are what its kind and its resolution are given as, `ν`
and `τ` what its numbers and its time are: texts and cells in the store, words of the vocabulary and
numbers outside. -/
structure ComponentRow (κ ρ ν τ : Type) where
  id : Nat
  fileId : Int
  versionId : Nat
  parentId : Option Nat
  kind : κ
  name : String
  qualifiedName : String
  orderIndex : ν
  depth : ν
  firstLine : ν
  lastLine : ν
  contentHash : String
  structureHash : String
  committedHash : String
  committedAt : τ
  signature : Option String
  resolution : ρ
  deriving DecidableEq, Repr, Inhabited

/-- A component as it is stored. -/
abbrev StoredComponent := ComponentRow String String (Cell Nat) (Cell Int)

/-- A component as it is read. -/
abbrev ComponentRecord := ComponentRow ComponentKind Resolution Nat Int

namespace ComponentRow

/-- A component as it is written. -/
def stored (row : ComponentRecord) : StoredComponent :=
  { row with
    kind := row.kind.name
    orderIndex := .value row.orderIndex
    depth := .value row.depth
    firstLine := .value row.firstLine
    lastLine := .value row.lastLine
    committedAt := .value row.committedAt
    resolution := row.resolution.name }

/-- Reads a component. -/
def read (row : StoredComponent) : Except DatabaseFault ComponentRecord := do
  let kind ← readWord 4 "component kind" ComponentKind.ofName? row.kind
  let orderIndex ← row.orderIndex.read 7 "order_index"
  let depth ← row.depth.read 8 "depth"
  let firstLine ← row.firstLine.read 9 "start_line"
  let lastLine ← row.lastLine.read 10 "end_line"
  let committedAt ← row.committedAt.read 14 "committed_at"
  let resolution ← readWord 16 "identity resolution" Resolution.ofName? row.resolution
  return { row with kind, orderIndex, depth, firstLine, lastLine, committedAt, resolution }

/-- A component that was written reads back. -/
theorem read_stored (row : ComponentRecord) : row.stored.read = .ok row := by
  simp [stored, read, readWord, ComponentKind.ofName?_name, Resolution.ofName?_name, bind,
    Except.bind, pure, Except.pure]

end ComponentRow

/-- A use of a name as it is stored. -/
structure StoredSymbol where
  id : Int
  name : String
  scope : String
  access : String
  level : Cell Nat
  line : Cell Nat
  typeText : Option String
  deriving DecidableEq, Repr, Inhabited

/-- A use of a name as it is written in a row. -/
def SymbolUse.stored (id : Int) (symbol : SymbolUse) : StoredSymbol :=
  ⟨id, symbol.name, symbol.scope.name, symbol.access.name, .value symbol.level, .value symbol.line,
    symbol.typeText⟩

namespace StoredSymbol

/-- Reads a use of a name. -/
def read (symbol : StoredSymbol) : Except DatabaseFault SymbolUse := do
  let scope ← readWord 2 "symbol scope" ScopeKind.ofName? symbol.scope
  let access ← readWord 3 "access kind" AccessKind.ofName? symbol.access
  let level ← symbol.level.read 4 "scope_level"
  let line ← symbol.line.read 5 "line"
  return ⟨symbol.name, scope, access, level, line, symbol.typeText⟩

/-- A use of a name that was written reads back. -/
theorem read_stored (id : Int) (symbol : SymbolUse) : (symbol.stored id).read = .ok symbol := by
  simp [SymbolUse.stored, read, readWord, ScopeKind.ofName?_name, AccessKind.ofName?_name, bind,
    Except.bind, pure, Except.pure]

end StoredSymbol

/-- A change of a global variable as it is stored. -/
structure StoredGlobal where
  id : Int
  name : String
  access : String
  line : Cell Nat
  deriving DecidableEq, Repr, Inhabited

/-- A change of a global variable as it is written in a row. -/
def GlobalAccess.stored (id : Int) (access : GlobalAccess) : StoredGlobal :=
  ⟨id, access.name, access.access.name, .value access.line⟩

namespace StoredGlobal

/-- Reads a change of a global variable. -/
def read (row : StoredGlobal) : Except DatabaseFault GlobalAccess := do
  let access ← readWord 2 "access kind" AccessKind.ofName? row.access
  let line ← row.line.read 3 "line"
  return ⟨row.name, access, line⟩

/-- A change of a global variable that was written reads back. -/
theorem read_stored (id : Int) (access : GlobalAccess) : (access.stored id).read = .ok access := by
  simp [GlobalAccess.stored, read, readWord, AccessKind.ofName?_name, bind, Except.bind, pure,
    Except.pure]

end StoredGlobal

/-- What a version recorded about one of its components. -/
structure HistoryRow where
  id : Nat
  componentId : Nat
  fileId : Int
  versionId : Nat
  qualifiedName : String
  change : ChangeKind
  resolution : Resolution
  contentHash : String
  structureHash : String
  committedHash : String
  committedAt : Int
  recordedAt : Int
  deriving DecidableEq, Repr, Inhabited

/-- A difference of a version from the one before. -/
structure EventRow where
  id : Nat
  fileId : Int
  versionId : Nat
  previousId : Option Nat
  qualifiedName : String
  kind : ChangeKind
  category : DriftCategory
  severity : Severity
  oldValue : Option String
  newValue : Option String
  detectedAt : Int
  deriving DecidableEq, Repr, Inhabited

/-- The record of a verification. `σ` is what its status is given as. -/
structure ProofRow (σ : Type) where
  id : Nat
  fileId : Int
  versionId : Nat
  recordedRawHash : String
  rebuiltRawHash : String
  recordedTreeHash : String
  /-- There is none where the rebuilt text does not parse. -/
  rebuiltTreeHash : Option String
  rawMatch : Bool
  treeMatch : Bool
  matched : Bool
  status : σ
  verifiedAt : Int
  deriving DecidableEq, Repr, Inhabited

/-- The verdict of a verification and the kind of mismatch, as they are stored. -/
structure StoredStatus where
  verdict : String
  mismatch : Option String
  deriving DecidableEq, Repr, Inhabited

/-- A status written out. -/
def VerifyStatus.stored (status : VerifyStatus) : StoredStatus :=
  ⟨status.verdict, status.mismatch⟩

/-- A proof as it is stored. -/
abbrev StoredProof := ProofRow StoredStatus

/-- A proof as it is read. -/
abbrev ProofRecord := ProofRow VerifyStatus

namespace ProofRow

/-- A proof with its status written out. -/
def stored (row : ProofRecord) : StoredProof :=
  { row with status := row.status.stored }

/-- Reads a proof. -/
def read (row : StoredProof) : Except DatabaseFault ProofRecord := do
  let ofVerdict (verdict : String) := VerifyStatus.ofStored? verdict row.status.mismatch
  let status ← readWord 10 "verification status" ofVerdict row.status.verdict
  return { row with status }

/-- A proof that was written reads back. -/
theorem read_stored (row : ProofRecord) : row.stored.read = .ok row := by
  simp [stored, read, readWord, VerifyStatus.stored, VerifyStatus.ofStored?_stored, bind,
    Except.bind, pure, Except.pure]

end ProofRow

/-- The tables. Versions, history, events and proofs are ledgers, to which rows are only added. -/
structure Store where
  files : List StoredFile := []
  versions : List VersionRow := []
  components : List StoredComponent := []
  segments : List (Owned Segment) := []
  symbols : List (Owned StoredSymbol) := []
  calls : List (Owned CallSite) := []
  imports : List (Owned ImportRecord) := []
  globals : List (Owned StoredGlobal) := []
  decorators : List (Owned Decorator) := []
  history : List HistoryRow := []
  events : List EventRow := []
  proofs : List StoredProof := []
  deriving DecidableEq, Repr, Inhabited

end SourceLedger
