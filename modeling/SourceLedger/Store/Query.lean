import SourceLedger.Store.Basic

/-!
# Reading a store

What the store holds about files, versions and components. Lists come in a fixed order: files by
path, versions and history from the oldest, components by depth and then in the order of their
parents and siblings, events by version and then by name.
-/

namespace SourceLedger

/-- A history row together with the number of its version. -/
structure HistoryEntry extends HistoryRow where
  versionNumber : Nat
  deriving DecidableEq, Repr, Inhabited

/-- Whether a component is listed before another: by depth, then by parent, where no parent comes
first, then by position among siblings. -/
def ComponentRow.listedBefore (x y : StoredComponent) : Bool :=
  let key (row : StoredComponent) : List Datum :=
    [row.depth.datum, .integer (row.parentId.getD 0), row.orderIndex.datum]
  Datum.leList (key x) (key y)

/-- Whether an event is listed before another: by version, then by name. -/
def EventRow.listedBefore (x y : EventRow) : Bool :=
  x.versionId < y.versionId || (x.versionId == y.versionId && x.qualifiedName ≤ y.qualifiedName)

namespace Store

variable (store : Store)

/-- The row of the file with a path. -/
def fileRow? (path : String) : Option StoredFile :=
  store.files.find? (·.path == path)

/-- The file with a path. -/
def file? (path : String) : Except DatabaseFault (Option FileRecord) :=
  (store.fileRow? path).mapM (·.read)

/-- The file with an id. -/
def fileById? (id : Int) : Except DatabaseFault (Option FileRecord) :=
  (store.files.find? (·.id == id)).mapM (·.read)

/-- All files, in the order of their paths. -/
def filesByPath : Except DatabaseFault (List FileRecord) :=
  (store.files.mergeSort fun x y => x.path ≤ y.path).mapM (·.read)

/-- The versions of a file, from the oldest. -/
def versionsOf (fileId : Int) : List VersionRow :=
  store.versions.filter (·.fileId == fileId)

/-- The versions of the file with a path. -/
def versionsAt (path : String) : List VersionRow :=
  (store.fileRow? path).elim [] fun file => store.versionsOf file.id

/-- The version of a file that was written last. -/
def latestVersion? (fileId : Int) : Option VersionRow :=
  (store.versionsOf fileId).getLast?

/-- A version of a file by its number, or the latest one. -/
def version? (fileId : Int) (number : Option Nat) : Option VersionRow :=
  match number with
  | some number => (store.versionsOf fileId).find? (·.number == number)
  | none => store.latestVersion? fileId

/-- The component rows of a version, in the order in which they were written. -/
def componentRows (versionId : Nat) : List StoredComponent :=
  store.components.filter (·.versionId == versionId)

/-- The components of a version, parents before children. -/
def componentsOf (versionId : Nat) : Except DatabaseFault (List ComponentRecord) :=
  ((store.componentRows versionId).mergeSort ComponentRow.listedBefore).mapM (·.read)

/-- The component of a version with a qualified name. -/
def component? (versionId : Nat) (qualifiedName : String) :
    Except DatabaseFault (Option ComponentRecord) :=
  ((store.componentRows versionId).find? (·.qualifiedName == qualifiedName)).mapM (·.read)

/-- The stored text of a component. -/
def segment? (componentId : Nat) : Option Segment :=
  (store.segments.find? (·.owner == componentId)).map (·.fact)

/-- The stored texts of the components at top level, in order. -/
def topLevelSegments (versionId : Nat) : List Segment :=
  let rows := (store.componentRows versionId).filter (·.parentId.isNone)
  (rows.mergeSort fun x y => x.orderIndex.datum.le y.orderIndex.datum).filterMap fun row =>
    store.segment? row.id

/-- The uses of names in a component. -/
def symbolsOf (componentId : Nat) : Except DatabaseFault (List SymbolUse) :=
  (Owned.select componentId store.symbols).mapM (·.read)

/-- The calls in a component. -/
def callsOf (componentId : Nat) : List CallSite :=
  Owned.select componentId store.calls

/-- The imports in a component. -/
def importsOf (componentId : Nat) : List ImportRecord :=
  Owned.select componentId store.imports

/-- The changes of global variables in a component. -/
def globalsOf (componentId : Nat) : Except DatabaseFault (List GlobalAccess) :=
  (Owned.select componentId store.globals).mapM (·.read)

/-- The decorators of a component, in the order of their positions. -/
def decoratorsOf (componentId : Nat) : List Decorator :=
  (Owned.select componentId store.decorators).mergeSort fun x y => x.position ≤ y.position

/-- What the versions of a file recorded about a name, from the oldest. -/
def historyOf (fileId : Int) (qualifiedName : String) : List HistoryEntry :=
  let rows := store.history.filter fun row =>
    row.fileId == fileId && row.qualifiedName == qualifiedName
  rows.filterMap fun row =>
    (store.versions.find? (·.id == row.versionId)).map fun version => ⟨row, version.number⟩

/-- The events of a file, of one version or of all. -/
def eventsOf (fileId : Int) (versionId : Option Nat) : List EventRow :=
  (store.events.filter fun row =>
    row.fileId == fileId && versionId.all (row.versionId == ·)).mergeSort EventRow.listedBefore

/-- The proofs of a file, from the oldest. -/
def proofsOf (fileId : Int) : Except DatabaseFault (List ProofRecord) :=
  (store.proofs.filter (·.fileId == fileId)).mapM (·.read)

/-- The file with a path, which has to be there. -/
def requireFile (path : String) : Except Failure FileRecord :=
  match store.file? path with
  | .ok (some file) => .ok file
  | .ok none => .error (.unknownFile path)
  | .error fault => .error (.database fault)

/-- A version of the file with a path, which has to be there. -/
def requireVersion (path : String) (number : Option Nat) : Except Failure VersionRow := do
  let file ← store.requireFile path
  match store.version? file.id number, number with
  | some version, _ => .ok version
  | none, some number => .error (.unknownFile s!"{path} has no version {number}")
  | none, none => .error (.unknownFile path)

/-- The text of a version, put together from its stored pieces. -/
def rebuilt (versionId : Nat) : String :=
  Segment.join (store.topLevelSegments versionId)

end Store

end SourceLedger
