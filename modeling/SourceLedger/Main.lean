import SourceLedger.Journal
import Std.Time.DateTime.Timestamp

/-!
# The program

Reads the files that a call is about, carries the call out and keeps the journal of the store. The
syntax tree of a source file is expected beside it, as a listing in a file of the same name with
`.tree` at the end.
-/

namespace SourceLedger.Program

/-- The time in nanoseconds. -/
def now : IO Int := do
  return (← Std.Time.Timestamp.now).toNanosecondsSinceUnixEpoch.toInt

/-- Takes over what the real disk has on the way to a path. -/
def load (directory : Place) (disk : Disk) (path : String) : IO Disk := do
  let root ← IO.currentDir
  let start := if Path.isAbsolute path then [] else directory
  let place := Path.follow start (Path.steps path)
  (List.range (place.length + 1)).foldlM (fun disk count => do
    let here := place.take count
    let real := root / Path.ofPlace here
    if count = 0 then return disk
    else if ← real.isDir then return disk.put here .directory
    else if ← real.pathExists then return disk.put here (.file (← IO.FS.readBinFile real))
    else return disk) disk

/-- The files that a command reads. -/
def operands : Command → List String
  | .ingest files => files
  | _ => []

/-- The listing beside a source file. -/
def listing (path : String) : IO (List Syntax.Entry) := do
  let real := (← IO.currentDir) / (path ++ ".tree")
  if ← real.pathExists then
    let text ← IO.FS.readFile real
    return (Syntax.Entry.listingOfText? text).getD []
  else return []

/-- Shows an answer. -/
def respond (response : Response) : IO UInt32 := do
  IO.print response.output.text
  for line in response.complaints do IO.eprintln line
  return response.exitCode.toUInt32

/-- The journal at a place, if a file is there that holds one. -/
def journalAt (disk : Disk) (place : Place) : Option (Journal × Nat) :=
  match disk.entry? place with
  | some (.file content) => do
    let journal ← Journal.parse? (← String.fromUTF8? content)
    return (journal, content.size)
  | _ => none

/-- The entries that a command adds to the journal. -/
def entriesOf (handle : Handle) (workspace : Workspace) (command : Command) : IO Journal :=
  (command.operations handle workspace).zipIdx.mapM fun (operation, position) => do
    let listing ← match operation with
      | .ingest _ path _ => listing path
      | _ => pure []
    return ⟨operation, workspace.clock + position, listing⟩

/-- Carries out a call with settings that are known. -/
def execute (invocation : Invocation) (settings : Settings) (workspace : Workspace) :
    IO UInt32 := do
  let path := settings.databasePath
  let place := Path.follow [] (Path.steps path)
  let disk ← load workspace.directory workspace.disk path
  let found := journalAt disk place
  let disk := found.elim disk fun (journal, _) => disk.addStore place journal.replay
  match { workspace with disk }.openStore settings with
  | (.error failure, _) => respond (.ofFailure failure)
  | (.ok handle, workspace) =>
    let (journal, size) := found.getD ([], 0)
    let entries ← entriesOf handle workspace invocation.command
    let parse := Parser.ofSources (Journal.sources (entries ++ journal))
    let (response, _) := invocation.command.run parse invocation.json (some size) handle workspace
    if let some parent := Path.parent? path then IO.FS.createDirAll parent
    IO.FS.writeFile path (Journal.render (journal ++ entries))
    respond response

end SourceLedger.Program

open SourceLedger in
/-- Runs the program. -/
def main (arguments : List String) : IO UInt32 := do
  match Invocation.parse arguments with
  | .error misuse => Program.respond (.ofMisuse misuse)
  | .ok invocation =>
    let current := (← IO.currentDir).toString
    let directory := Path.steps current
    let root := invocation.workspace.getD current
    let paths := root :: Settings.path root :: Program.operands invocation.command
    let disk ← paths.foldlM (Program.load directory) {}
    let workspace : Workspace := ⟨disk, directory, ← Program.now, none⟩
    match invocation.settings workspace with
    | .error failure => Program.respond (.ofFailure failure)
    | .ok settings => Program.execute invocation settings workspace
