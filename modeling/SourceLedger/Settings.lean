import SourceLedger.Extraction.Basic
import SourceLedger.Failure
import SourceLedger.Path
import SourceLedger.Yaml.Document
import SourceLedger.Yaml.Writer

/-!
# Settings of a workspace

A workspace may have a settings file, a YAML mapping in which every entry may be left out. It says
where the database is, how duplicate names are treated and whether uses of local names are
recorded. The values may also be given as a list, in this order and without their names.
`Settings.parse` reads such a document and `Settings.render` writes it. The root of the workspace
is known from elsewhere and is not written down.
-/

namespace SourceLedger

/-- The settings of a workspace. -/
structure Settings where
  /-- Where the database is, seen from the root of the workspace. -/
  database : String := ".canon/canon.db"
  duplicateNames : DuplicatePolicy := .suffix
  recordReads : Bool := true
  /-- The root of the workspace. -/
  root : String := "."
  deriving DecidableEq, Repr, Inhabited

namespace Settings

/-- The settings file of a workspace. -/
def path (root : String) : String :=
  Path.join (Path.join root ".canon") "config.yaml"

/-- Where the database is. -/
def databasePath (settings : Settings) : String :=
  Path.join settings.root settings.database

/-- What the settings say about extracting. -/
def options (settings : Settings) : ExtractOptions :=
  ⟨settings.duplicateNames, settings.recordReads⟩

/-- The settings with one entry of a document taken over. -/
def withEntry (settings : Settings) (key : String) (value : Yaml.Scalar) :
    Except String Settings :=
  match key with
  | "database" => .ok { settings with database := value.text }
  | "duplicate-names" =>
    match value.variant?.bind DuplicatePolicy.ofName? with
    | some duplicateNames => .ok { settings with duplicateNames }
    | none => .error s!"duplicate-names: neither suffix nor reject: {value.text}"
  | "record-reads" =>
    match value.bool? with
    | some recordReads => .ok { settings with recordReads }
    | none => .error s!"record-reads: not a truth value: {value.text}"
  | _ => .error s!"unknown entry: {key}"

/-- The settings with the entries of a document taken over. `seen` are the keys that were there
before; no key may come twice. -/
def withEntries (settings : Settings) (seen : List String) :
    List (String × Yaml.Scalar) → Except String Settings
  | [] => .ok settings
  | (key, value) :: rest =>
    if seen.contains key then .error s!"entry given twice: {key}"
    else do (← settings.withEntry key value).withEntries (key :: seen) rest

/-- The keys of the entries, in the order in which a list gives their values. -/
def keys : List String :=
  ["database", "duplicate-names", "record-reads"]

/-- Reads a settings document. -/
def parse (text : String) : Except String Settings :=
  match Yaml.readFlat text with
  | some (.mapping entries) =>
    withEntries {} [] (entries.map fun (key, value) => (key.text, value))
  | some (.list values) =>
    if keys.length < values.length then .error "too many values"
    else withEntries {} [] (keys.zip values)
  | none => .error "neither a mapping nor a list of scalars"

/-- Writes a settings document. -/
def render (settings : Settings) : String :=
  s!"database: {Yaml.writeText settings.database}" ++
    s!"duplicate-names: {settings.duplicateNames.name}\n" ++
    s!"record-reads: {settings.recordReads}\n"

/-- Reads the document that stands in the file at `path`. -/
def load (path text : String) : Except Failure Settings :=
  (parse text).mapError fun reason => .settings s!"{path}: {reason}"

end Settings

end SourceLedger
