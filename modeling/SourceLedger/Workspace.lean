import SourceLedger.Disk
import SourceLedger.Ledger
import SourceLedger.Settings
import SourceLedger.Store.Edit
import SourceLedger.Text.Utf8

/-!
# Workspaces

A workspace is a disk seen from a directory at a point in time. Stores are opened in it by their
settings, which are looked for under the root of the workspace, and files are ingested from it.
Time goes on with every operation, so no two operations happen at the same time.
-/

namespace SourceLedger

/-- A disk, the directory that relative paths start from, and the time. -/
structure Workspace where
  disk : Disk
  directory : Place
  clock : Int
  /-- The number of the store that is kept open between operations. -/
  held : Option Nat := none
  deriving Inhabited

/-- A store that was opened: its number on the disk, and the settings it was opened with. -/
structure Handle where
  number : Nat
  settings : Settings
  deriving DecidableEq, Repr, Inhabited

namespace Workspace

variable (workspace : Workspace)

/-- Reads the settings file at a path. -/
def loadSettings (path : String) : Except Failure Settings :=
  match workspace.disk.read workspace.directory path with
  | .error fault => .error (.io fault.message)
  | .ok bytes =>
    match Text.Utf8.decode bytes with
    | .ok text => Settings.load path text
    | .error _ => .error (.io "stream did not contain valid UTF-8")

/-- The settings of the workspace with some root, which are the defaults if it has no settings
file. -/
def settingsAt (root : String) : Except Failure Settings :=
  let path := Settings.path root
  let found := (workspace.disk.locate workspace.directory path).toOption
  if found.any workspace.disk.isFile then
    (workspace.loadSettings path).map fun settings => { settings with root }
  else .ok { root }

/-- The place that a path leads to when nothing on the way is looked up. -/
def placeOf (path : String) : Place :=
  Path.follow (if Path.isAbsolute path then [] else workspace.directory) (Path.steps path)

/-- Bytes that stand for no database yet. -/
def isUnwritten (content : ByteArray) : Bool :=
  content.size ≤ 1

/-- Whether a place can hold a database at all: files with longer names are kept beside it, and
its path has to leave room for theirs. -/
def checkDatabase (disk : Disk) (path : String) (place : Place) : Except Failure Unit :=
  let name := place.getLast?.getD ""
  let refuse (reason : String) : Except Failure Unit :=
    .error (.storeUnavailable s!"{path}: {reason}")
  if path.toList.contains '\x00' then
    refuse s!"nul byte found in provided data at position: {nulPosition path}"
  else if disk.isDirectory place || Disk.isLongName name ||
      504 < (Path.ofPlace place).utf8ByteSize then
    refuse s!"unable to open database file: {path}"
  else if 247 < name.utf8ByteSize then refuse "unable to open database file"
  else .ok ()
where
  nulPosition (path : String) : Nat :=
    (String.ofList (path.toList.takeWhile (· ≠ '\x00'))).utf8ByteSize

/-- The place of a database, with an empty store made there if it is new. A directory in its place
and a file that is no database are refused. -/
def prepareStore (disk : Disk) (path : String) (place : Place) : Except Failure (Nat × Disk) := do
  checkDatabase disk path place
  let made := (disk.stores.length, disk.addStore place {})
  match disk.entry? place with
  | some (.store number) => return (number, disk)
  | some (.file content) =>
    if isUnwritten content then return made
    else .error (.storeUnavailable s!"{path}: file is not a database")
  | _ => return made

/-- Opens the store that settings describe, and makes it if it is not there. Directories that were
made for it stay if that fails. -/
def openStore (settings : Settings) : Except Failure Handle × Workspace :=
  let path := settings.databasePath
  match workspace.disk.createParent workspace.directory path with
  | (.error fault, disk) =>
    (.error (.storeUnavailable s!"cannot create {(Path.parent? path).getD path}: {fault.message}"),
      { workspace with disk })
  | (.ok _, disk) =>
    match prepareStore disk path (workspace.placeOf path) with
    | .ok (number, disk) => (.ok ⟨number, settings⟩, { workspace with disk })
    | .error failure => (.error failure, { workspace with disk })

/-- Keeps a store open until the next one is. -/
def hold (handle : Handle) : Workspace :=
  { workspace with held := some handle.number }

/-- Closes the store that is kept open. -/
def release : Workspace :=
  { workspace with held := none }

/-- Writes a file. A store that is kept open is not harmed by what is written over its database: its
rows are kept beside it and written back when it is closed. -/
def writeFile (path : String) (content : ByteArray) : Except DiskFault Unit × Workspace :=
  let isHeld := match workspace.disk.entry? (workspace.placeOf path) with
    | some (.store number) => workspace.held = some number
    | _ => false
  if isHeld && 0 < content.size then (.ok (), workspace)
  else
    let (written, disk) := workspace.disk.write workspace.directory path content
    (written, { workspace with disk })

/-- The settings of the workspace that a path leads to, which has to be there. -/
def discover (path : String) : Except Failure Settings := do
  let root ← (workspace.disk.locate workspace.directory path).mapError fun _ =>
    .io s!"workspace root not found: {path}"
  workspace.settingsAt (Path.ofPlace root)

/-- The store that was opened. -/
def storeOf (handle : Handle) : Store :=
  workspace.disk.store handle.number

/-- The workspace with another state of a store. -/
def putStore (handle : Handle) (store : Store) : Workspace :=
  { workspace with disk := workspace.disk.putStore handle.number store }

/-- Carries out an operation on a store at the present time. Time goes on either way. -/
def update {α : Type} (handle : Handle)
    (operation : Store → Int → Except Failure (α × Store)) : Except Failure α × Workspace :=
  let later := { workspace with clock := workspace.clock + 1 }
  match operation (workspace.storeOf handle) workspace.clock with
  | .ok (result, store) => (.ok result, later.putStore handle store)
  | .error failure => (.error failure, later)

/-- Carries out an edit from outside on whatever is in the place of the database of a store that
was opened. If nothing is there, an empty file is made. -/
def editFile (handle : Handle) (edit : Edit) : Except EditFault Nat × Workspace :=
  let place := workspace.placeOf handle.settings.databasePath
  let disk := workspace.disk
  match disk.entry? place with
  | some (.store number) =>
    match (disk.store number).edit edit with
    | .ok (store, count) => (.ok count, { workspace with disk := disk.putStore number store })
    | .error fault => (.error fault, workspace)
  | some (.file content) =>
    (.error (if isUnwritten content then .noSuchTable edit.tableName else .notADatabase), workspace)
  | _ =>
    (.error (.noSuchTable edit.tableName),
      { workspace with disk := disk.put place (.file ByteArray.empty) })

/-- The text of a source file. -/
def readSource (path : String) : Except Failure String :=
  match workspace.disk.read workspace.directory path with
  | .error .notFound => .error (.fileNotFound path)
  | .error fault => .error (.io fault.message)
  | .ok bytes =>
    (Text.Utf8.decode bytes).mapError fun fault =>
      .unparsable path s!"source is not valid UTF-8: {fault.message}"

/-- Ingests a text. -/
def ingestText (parse : Parser) (handle : Handle) (path text : String) :
    Except Failure IngestReport × Workspace :=
  workspace.update handle fun store now =>
    store.ingest parse handle.settings.options path text now

/-- Ingests a file. -/
def ingestFile (parse : Parser) (handle : Handle) (path : String) :
    Except Failure IngestReport × Workspace :=
  match workspace.readSource path with
  | .ok text => workspace.ingestText parse handle path text
  | .error failure => (.error failure, workspace)

/-- Ingests files one after another. One that fails does not stop the others. -/
def ingestFiles (parse : Parser) (handle : Handle) (workspace : Workspace) :
    List String → List (String × Except Failure IngestReport) × Workspace
  | [] => ([], workspace)
  | path :: rest =>
    let (result, workspace) := workspace.ingestFile parse handle path
    let (results, workspace) := ingestFiles parse handle workspace rest
    ((path, result) :: results, workspace)

end Workspace

end SourceLedger
