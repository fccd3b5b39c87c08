import SourceLedger.Command.Arguments
import SourceLedger.Command.Display
import SourceLedger.Report
import SourceLedger.Workspace

/-!
# Running a command

A command opens the store of its workspace, carries out what it was asked to do, and answers with
an exit code, an output and complaints. The output is lines for a reader, or one JSON value if
that was asked for. A command that cannot be carried out says why and outputs nothing.
-/

namespace SourceLedger

/-- What a command outputs. -/
inductive Output where
  | lines (rows : List String)
  | json (value : Json)
  deriving Repr, Inhabited

/-- The text of an output. -/
def Output.text : Output → String
  | .lines rows => String.join (rows.map (· ++ "\n"))
  | .json value => value.render ++ "\n"

/-- What a command answers. -/
structure Response where
  exitCode : Nat := 0
  output : Output
  /-- The lines of complaint. -/
  complaints : List String := []
  deriving Repr, Inhabited

namespace Response

/-- The answer of a command that failed. -/
def ofFailure (failure : Failure) : Response where
  exitCode := failure.exitCode
  output := .lines []
  complaints := Display.failure "error" failure

/-- The answer to a call that was misused, with the usage in front of a reader. -/
def ofMisuse : Misuse → Response
  | .usage => ⟨2, .lines [], ["error: the arguments do not fit", "", usage]⟩
  | .value reason =>
    ⟨2, .lines [], [s!"error: {reason}", "", "For more information, try '--help'."]⟩
  | .askedForHelp =>
    ⟨0, .lines ([usage, "", "Commands:"] ++ commands ++ ["", "Options:"] ++ options), []⟩
  | .askedForVersion behind =>
    ⟨0, .lines [String.intercalate "-" ("canon" :: (behind.map Verb.name).toList) ++ " 0.1.0"], []⟩
where
  usage : String := "Usage: canon [OPTIONS] <COMMAND>"
  commands : List String := [
    "  ingest <FILES>...                      Ingest source files as new versions",
    "  verify <FILE>                          Rebuild the latest version and compare it",
    "  components <FILE> [--version <N>]      List the components of a file",
    "  drift <FILE> [--version <N>]           Show the drift of a version of a file",
    "  versions <FILE>                        List the versions of a file",
    "  history <FILE> <QUALIFIED_NAME>        Show the history of one component",
    "  stats                                  Show store statistics"]
  options : List String := [
    "  -w, --workspace <WORKSPACE>            Workspace root (defaults to the current directory)",
    "      --database <DATABASE>              Database path, instead of the one in the settings",
    "      --json                             Print results as JSON",
    "  -v, --verbose                          Accepted for convenience; results are the same"]

/-- An answer in words or as JSON. -/
def report (asJson : Bool) (lines : List String) (json : Json) : Response :=
  { output := if asJson then .json json else .lines lines }

end Response

/-- One ingested file as JSON: its path, and the report or the failure. -/
def ingestionJson (path : String) (result : Except Failure IngestReport) : Json :=
  match result with
  | .ok report => .record [("path", .text path), ("report", report.json)]
  | .error failure => .record [("path", .text path), ("error", .text failure.message)]

/-- The exit code of several ingestions: that of the last failure. -/
def ingestionsExitCode (results : List (String × Except Failure IngestReport)) : Nat :=
  results.foldl (fun code (_, result) =>
    match result with
    | .ok _ => code
    | .error failure => failure.exitCode) 0

namespace Command

/-- Answers a question about a store. -/
def ask {α : Type} (workspace : Workspace) (question : Except Failure α)
    (answer : α → Response) : Response × Workspace :=
  match question with
  | .ok result => (answer result, workspace)
  | .error failure => (.ofFailure failure, workspace)

/-- The version that drift is shown of: the one that was named, or the latest. -/
def driftVersion (store : Store) (file : String) (version : Option Nat) : Except Failure Nat :=
  match version, (store.versionsAt file).getLast? with
  | some number, _ => .ok number
  | none, some row => .ok row.number
  | none, none => .error (.unknownFile file)

/-- Detects the drift of a version again and shows its events. -/
def runDrift (json : Bool) (handle : Handle) (workspace : Workspace) (file : String)
    (version : Option Nat) : Response × Workspace :=
  match driftVersion (workspace.storeOf handle) file version with
  | .error failure => (.ofFailure failure, workspace)
  | .ok number =>
    let (result, workspace) := workspace.update handle fun store now =>
      store.detect file (some number) now
    match result with
    | .error failure => (.ofFailure failure, workspace)
    | .ok report =>
      ask workspace ((workspace.storeOf handle).listEvents file (some number)) fun events =>
        .report json (Display.drift file number report.summary events)
          (.record [("version_number", .nat number), ("summary", report.summary.json),
            ("events", .list (events.map EventRow.json))])

/-- Carries out a command on an open store, whose database may have a known size. -/
def run (parse : Parser) (json : Bool) (size : Option Nat) (handle : Handle)
    (workspace : Workspace) : Command → Response × Workspace
  | ingest files =>
    let (results, workspace) := workspace.ingestFiles parse handle files
    let response : Response := .report json
      (results.flatMap fun (path, result) => Display.ingestion path result)
      (.list (results.map fun (path, result) => ingestionJson path result))
    ({ response with exitCode := ingestionsExitCode results }, workspace)
  | verify file =>
    let (result, workspace) := workspace.update handle fun store now =>
      store.verify parse file now
    ask workspace result fun outcome =>
      { Response.report json (Display.verification file outcome) outcome.json with
        exitCode := if outcome.matched then 0 else 1 }
  | components file version =>
    ask workspace ((workspace.storeOf handle).listComponents file version) fun rows =>
      .report json (Display.components file rows) (.list (rows.map ComponentRow.json))
  | drift file version => runDrift json handle workspace file version
  | versions file =>
    let rows := (workspace.storeOf handle).versionsAt file
    (.report json (Display.versions file rows) (.list (rows.map VersionRow.json)), workspace)
  | history file name =>
    ask workspace ((workspace.storeOf handle).listHistory file name) fun entries =>
      .report json (Display.history file name entries) (.list (entries.map HistoryEntry.json))
  | stats =>
    let database := handle.settings.databasePath
    let statistics := (workspace.storeOf handle).statistics
    (.report json (Display.statistics database size statistics)
      (.record ([("database", .text database), ("size_bytes", .nat? size)] ++ statistics.fields)),
      workspace)

end Command

namespace Invocation

/-- The settings that a call is carried out with. -/
def settings (invocation : Invocation) (workspace : Workspace) : Except Failure Settings := do
  let root := invocation.workspace.getD (Path.ofPlace workspace.directory)
  let settings ← workspace.discover root
  return { settings with database := invocation.database.getD settings.database }

/-- Carries out a call. `size` tells the size of a database. -/
def run (parse : Parser) (size : Handle → Option Nat) (invocation : Invocation)
    (workspace : Workspace) : Response × Workspace :=
  match invocation.settings workspace with
  | .error failure => (.ofFailure failure, workspace)
  | .ok settings =>
    match workspace.openStore settings with
    | (.error failure, workspace) => (.ofFailure failure, workspace)
    | (.ok handle, workspace) =>
      invocation.command.run parse invocation.json (size handle) handle workspace

end Invocation

end SourceLedger
