import SourceLedger.Store.Datum

/-!
# Tables and their columns

The tables of the database that can be changed row by row from outside, with the names and kinds of
their columns. Every table has a column `id` for the number of a row, which has three more names
(`Table.column?`). A column for texts keeps a text as it is; in all others a text becomes a number
if it spells one.
-/

namespace SourceLedger

/-- A table that can be edited by column. -/
inductive Table where
  | files
  | versions
  | components
  | symbols
  | globals
  | history
  | events
  | proofs
  deriving DecidableEq, Repr, Inhabited

/-- What a column holds. -/
inductive ColumnKind where
  /-- The number of the row. -/
  | id
  | text
  | number
  /-- The number of a row of a table. -/
  | reference (table : Table)
  deriving DecidableEq, Repr, Inhabited

/-- A column of a table. -/
structure Column where
  name : String
  kind : ColumnKind
  /-- Whether it may be empty. -/
  optional : Bool := false
  deriving DecidableEq, Repr, Inhabited

namespace Column

/-- The column with the number of the row. -/
def id : Column :=
  { name := "id", kind := .id }

/-- A column for texts. -/
def text (name : String) : Column :=
  { name, kind := .text }

/-- A column for numbers. -/
def number (name : String) : Column :=
  { name, kind := .number }

/-- A column for the numbers of rows of a table. -/
def reference (name : String) (table : Table) : Column :=
  { name, kind := .reference table }

/-- The same column, but it may be empty. -/
def orEmpty (column : Column) : Column :=
  { column with optional := true }

end Column

namespace Table

/-- All tables. -/
def all : List Table :=
  [files, versions, components, symbols, globals, history, events, proofs]

/-- The name of a table in the database. -/
def name : Table → String
  | files => "files"
  | versions => "file_versions"
  | components => "components"
  | symbols => "symbols"
  | globals => "global_accesses"
  | history => "component_history"
  | events => "drift_events"
  | proofs => "equivalence_proofs"

/-- Reads the name of a table. -/
def ofName? (text : String) : Option Table :=
  all.find? (·.name == text)

/-- Reading the name of a table gives the table back. -/
theorem ofName?_name (table : Table) : ofName? table.name = some table := by
  cases table <;> decide

/-- Ledgers are tables to which rows are only added. -/
def isLedger : Table → Bool
  | versions | history | events | proofs => true
  | _ => false

/-- The columns of a table. -/
def columns : Table → List Column
  | files =>
    [.id, .text "path", .text "raw_hash", .text "tree_hash", .number "size_bytes",
      .number "created_at", .number "updated_at"]
  | versions =>
    [.id, .reference "file_id" files, .number "version_number",
      (Column.reference "previous_version_id" versions).orEmpty, .text "raw_hash",
      .text "tree_hash", .number "size_bytes", .number "component_count", .text "change_summary",
      .number "created_at"]
  | components =>
    [.id, .reference "file_id" files, .reference "version_id" versions,
      (Column.reference "parent_id" components).orEmpty, .text "kind", .text "name",
      .text "qualified_name", .number "order_index", .number "depth", .number "start_line",
      .number "end_line", .number "start_byte", .number "end_byte", .text "content_hash",
      .text "structure_hash", .text "committed_hash", .number "committed_at",
      (Column.text "signature").orEmpty, .text "resolution"]
  | symbols =>
    [.id, .reference "component_id" components, .text "name", .text "scope", .text "access",
      .number "scope_level", .number "line", (Column.text "type_annotation").orEmpty]
  | globals =>
    [.id, .reference "component_id" components, .text "name", .text "access", .number "line"]
  | history =>
    [.id, .reference "component_id" components, .reference "file_id" files,
      .reference "version_id" versions, .text "qualified_name", .text "drift", .text "resolution",
      .text "content_hash", .text "structure_hash", .text "committed_hash",
      .number "committed_at", .number "recorded_at"]
  | events =>
    [.id, .reference "file_id" files, .reference "version_id" versions,
      (Column.reference "previous_version_id" versions).orEmpty, .text "qualified_name",
      .text "kind", .text "category", .text "severity", (Column.text "old_value").orEmpty,
      (Column.text "new_value").orEmpty, .number "detected_at"]
  | proofs =>
    [.id, .reference "file_id" files, .reference "version_id" versions,
      .text "original_raw_hash", .text "rebuilt_raw_hash", .text "original_tree_hash",
      (Column.text "rebuilt_tree_hash").orEmpty, .number "raw_match", .number "tree_match",
      .number "matched", .text "status", (Column.text "mismatch").orEmpty, .number "verified_at"]

/-- The column of a table with a name. The number of a row goes by other names too. -/
def column? (table : Table) (name : String) : Option Column :=
  if ["rowid", "oid", "_rowid_"].contains name then some .id
  else table.columns.find? (·.name == name)

end Table

end SourceLedger
