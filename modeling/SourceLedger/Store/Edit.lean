import SourceLedger.Store.Basic
import SourceLedger.Store.Table

/-!
# Edits from outside

Someone with access to the database can change rows without asking the ledger. The database keeps
its rules all the same: rows of the ledgers are neither changed nor deleted, what must not be
missing is not, numbers, names and places of rows stay unique, and rows that others refer to stay.
An edit that breaks a rule changes nothing (`Store.edit`).

Where several rules are broken, the complaint is about the first in this order: the column has to
exist; the number of a row has to be an integer; the table must not be a ledger; the value must not
be missing; the changed rows, one after another, have to stay unique; no reference may dangle. If
no row is chosen, only the first of these rules applies.
-/

namespace SourceLedger

/-- Why an edit is refused. -/
inductive EditFault where
  /-- There is no database with such a table. -/
  | noSuchTable (name : String)
  /-- What is in the place of the database is something else. -/
  | notADatabase
  | noSuchColumn (column : String)
  /-- The number of a row would not be an integer. -/
  | notAnInteger
  /-- A row of a ledger would be changed or deleted. -/
  | appendOnly (table : Table)
  | missing (table : Table) (column : String)
  | notUnique (columns : String)
  /-- A row would refer to a row that is not there. -/
  | danglingReference
  deriving DecidableEq, Repr

/-- The wording of a refusal. -/
def EditFault.message : EditFault → String
  | noSuchTable name => s!"no such table: {name}"
  | notADatabase => "file is not a database"
  | noSuchColumn column => s!"no such column: {column}"
  | notAnInteger => "datatype mismatch"
  | appendOnly table => s!"{table.name} is append-only"
  | missing table column => s!"NOT NULL constraint failed: {table.name}.{column}"
  | notUnique columns => (DatabaseFault.notUnique columns).message
  | danglingReference => DatabaseFault.danglingReference.message

/-- A new value for a column of a table. -/
structure Change where
  table : Table
  column : Column
  /-- There is none if the column is emptied. -/
  value : Option String
  deriving DecidableEq, Repr, Inhabited

namespace Change

/-- The new value in the database. An empty reference counts as zero. -/
def datum (change : Change) : Datum :=
  match change.value, change.column.kind with
  | none, _ => .integer 0
  | some value, .text => .text value
  | some value, _ => .ofText value

/-- The new value as the number of a row. -/
def number (change : Change) : Int :=
  change.datum.integer?.getD 0

/-- The number of the row that is referred to from now on, if there is one. -/
def target? (change : Change) : Option Nat :=
  change.value.map fun _ => change.number.toNat

/-- Whether a value that is no integer would become the number of a row. -/
def isMismatch (change : Change) : Bool :=
  change.column.kind = .id && (change.value.isNone || change.datum.integer?.isNone)

/-- What is wrong with the change whatever the rows are. -/
def fault? (change : Change) : Option EditFault :=
  if change.isMismatch then some .notAnInteger
  else if change.table.isLedger then some (.appendOnly change.table)
  else if change.value.isNone && !change.column.optional then
    some (.missing change.table change.column.name)
  else none

end Change

/-- A key that no two rows of a table share. -/
structure UniqueRule (α : Type) where
  /-- How a complaint names the rule. -/
  label : String
  /-- The columns that make up the key. -/
  columns : List String
  /-- The values of a row in these columns. -/
  key : α → List Datum

namespace UniqueRule

variable {α : Type}

/-- The key of a row after a change. -/
def keyAfter (rule : UniqueRule α) (change : Change) (row : α) : List Datum :=
  (rule.columns.zip (rule.key row)).map fun (column, datum) =>
    if column = change.column.name then change.datum else datum

/-- The first rule that is broken when the chosen rows are changed one after another. The rows in
front have been treated, the last of them first. -/
def firstBroken? (rules : List (UniqueRule α)) (change : Change) (chosen : α → Bool) :
    (front rows : List α) → Option (UniqueRule α)
  | _, [] => none
  | front, row :: rest =>
    let present (rule : UniqueRule α) : List (List Datum) :=
      front.map (fun other =>
        if chosen other then rule.keyAfter change other else rule.key other) ++
      rest.map rule.key
    let broken := rules.find? fun rule =>
      chosen row && rule.columns.contains change.column.name &&
        (present rule).contains (rule.keyAfter change row)
    broken <|> firstBroken? rules change chosen (row :: front) rest

end UniqueRule

/-- What an edit has to know about the rows of a table. -/
structure TableForm (α : Type) where
  table : Table
  number : α → Int
  /-- The text by which rows are chosen. -/
  key : α → String
  rules : List (UniqueRule α)
  /-- Carries out a change of a row. -/
  put : Change → α → α

namespace TableForm

/-- The rule that no two rows have the same number. -/
def numberRule {α : Type} (table : Table) (number : α → Int) : UniqueRule α where
  label := s!"{table.name}.id"
  columns := ["id"]
  key row := [.integer (number row)]

/-- Files are chosen by path. -/
def files : TableForm StoredFile where
  table := .files
  number := (·.id)
  key := (·.path)
  rules := [
    numberRule .files (·.id),
    { label := "files.path", columns := ["path"], key := fun row => [.text row.path] }]
  put change row :=
    match change.column.name, change.value with
    | "id", _ => { row with id := change.number }
    | "path", some path => { row with path }
    | "raw_hash", some rawHash => { row with rawHash }
    | "tree_hash", some treeHash => { row with treeHash }
    | "size_bytes", _ => { row with sizeBytes := .size change.datum }
    | "created_at", _ => { row with createdAt := .time change.datum }
    | "updated_at", _ => { row with updatedAt := .time change.datum }
    | _, _ => row

/-- Components are chosen by qualified name. Their numbers stay, since their texts refer to them. -/
def components : TableForm StoredComponent where
  table := .components
  number := fun row => row.id
  key := (·.qualifiedName)
  rules := [
    numberRule .components fun row => row.id,
    { label := "index 'idx_components_sibling_order'"
      columns := ["version_id", "parent_id", "order_index"]
      key := fun row =>
        [.integer row.versionId, .integer (row.parentId.getD 0), row.orderIndex.datum] },
    { label := "components.version_id, components.qualified_name"
      columns := ["version_id", "qualified_name"]
      key := fun row => [.integer row.versionId, .text row.qualifiedName] }]
  put change row :=
    match change.column.name, change.value with
    | "file_id", _ => { row with fileId := change.number }
    | "version_id", _ => { row with versionId := change.number.toNat }
    | "parent_id", _ => { row with parentId := change.target? }
    | "kind", some kind => { row with kind }
    | "name", some name => { row with name }
    | "qualified_name", some qualifiedName => { row with qualifiedName }
    | "order_index", _ => { row with orderIndex := .count change.datum }
    | "depth", _ => { row with depth := .count change.datum }
    | "start_line", _ => { row with firstLine := .count change.datum }
    | "end_line", _ => { row with lastLine := .count change.datum }
    | "content_hash", some contentHash => { row with contentHash }
    | "structure_hash", some structureHash => { row with structureHash }
    | "committed_hash", some committedHash => { row with committedHash }
    | "committed_at", _ => { row with committedAt := .time change.datum }
    | "signature", signature => { row with signature }
    | "resolution", some resolution => { row with resolution }
    | _, _ => row

/-- Uses of names are chosen by name. -/
def symbols : TableForm (Owned StoredSymbol) where
  table := .symbols
  number := (·.fact.id)
  key := (·.fact.name)
  rules := [numberRule .symbols (·.fact.id)]
  put change row :=
    let fact := row.fact
    match change.column.name, change.value with
    | "id", _ => { row with fact := { fact with id := change.number } }
    | "component_id", _ => { row with owner := change.number.toNat }
    | "name", some name => { row with fact := { fact with name } }
    | "scope", some scope => { row with fact := { fact with scope } }
    | "access", some access => { row with fact := { fact with access } }
    | "scope_level", _ => { row with fact := { fact with level := .count change.datum } }
    | "line", _ => { row with fact := { fact with line := .count change.datum } }
    | "type_annotation", typeText => { row with fact := { fact with typeText } }
    | _, _ => row

/-- Changes of global variables are chosen by name. -/
def globals : TableForm (Owned StoredGlobal) where
  table := .globals
  number := (·.fact.id)
  key := (·.fact.name)
  rules := [numberRule .globals (·.fact.id)]
  put change row :=
    let fact := row.fact
    match change.column.name, change.value with
    | "id", _ => { row with fact := { fact with id := change.number } }
    | "component_id", _ => { row with owner := change.number.toNat }
    | "name", some name => { row with fact := { fact with name } }
    | "access", some access => { row with fact := { fact with access } }
    | "line", _ => { row with fact := { fact with line := .count change.datum } }
    | _, _ => row

end TableForm

/-- Replaces every occurrence of a piece of text. An empty piece occurs nowhere. -/
def replacePiece (piece replacement : List Char) : (skip : Nat) → List Char → List Char
  | _, [] => []
  | skip + 1, _ :: rest => replacePiece piece replacement skip rest
  | 0, c :: rest =>
    if !piece.isEmpty && piece.isPrefixOf (c :: rest) then
      replacement ++ replacePiece piece replacement (piece.length - 1) rest
    else c :: replacePiece piece replacement 0 rest

/-- Whether a piece of text occurs in a text. -/
def containsPiece (piece : List Char) : List Char → Bool
  | [] => piece.isEmpty
  | c :: rest => piece.isPrefixOf (c :: rest) || containsPiece piece rest

/-- An edit from outside. -/
inductive Edit where
  /-- Replaces a piece of text in all stored texts of components that have it. -/
  | replaceText (piece replacement : String)
  /-- Sets a column of a table, in all rows or in those whose key is `only`. -/
  | setColumn (table : Table) (column : String) (value only : Option String)
  /-- Deletes all rows of a table. -/
  | clear (table : Table)
  /-- Adds a file that has no version. -/
  | insertFile (path rawHash treeHash : String) (sizeBytes : Nat) (now : Int)
  /-- Adds a proof of any content, whose number is not taken over. -/
  | insertProof (proof : StoredProof)
  deriving DecidableEq, Repr

/-- The name of the table that an edit is about. -/
def Edit.tableName : Edit → String
  | replaceText .. => "source_segments"
  | setColumn table .. | clear table => table.name
  | insertFile .. => Table.files.name
  | insertProof _ => Table.proofs.name

namespace Store

variable (store : Store)

/-- Whether a table that can be referred to has a row with a number. -/
def hasRow (table : Table) (number : Int) : Bool :=
  match table with
  | .files => store.files.any (·.id == number)
  | .versions => store.versions.any fun row => row.id == number
  | .components => store.components.any fun row => row.id == number
  | _ => false

/-- Whether a row of another table refers to the row of a table with a number. -/
def isReferenced (table : Table) (number : Int) : Bool :=
  match table with
  | .files =>
    store.versions.any (·.fileId == number) || store.components.any (·.fileId == number) ||
      store.history.any (·.fileId == number) || store.events.any (·.fileId == number) ||
      store.proofs.any (·.fileId == number)
  | .components => store.segments.any fun row => row.owner == number
  | _ => false

/-- Whether a change of the rows with some numbers leaves a reference to a row that is not
there. -/
def leavesDangling (change : Change) (numbers : List Int) : Bool :=
  match change.column.kind, change.value with
  | .reference table, some _ => !change.datum.integer?.any (store.hasRow table)
  | .id, _ => numbers.any fun number =>
      number != change.number && store.isReferenced change.table number
  | _, _ => false

/-- Changes a column in the rows whose key is `only`, or in all, and counts these. -/
def changeRows {α : Type} (form : TableForm α) (change : Change) (only : Option String)
    (rows : List α) : Except EditFault (List α × Nat) :=
  let chosen (row : α) : Bool := only.all (form.key row == ·)
  let touched := rows.filter chosen
  let changed := rows.map fun row => if chosen row then form.put change row else row
  if touched.isEmpty then .ok (rows, 0)
  else
    match change.fault?, UniqueRule.firstBroken? form.rules change chosen [] rows with
    | some fault, _ => .error fault
    | none, some rule => .error (.notUnique rule.label)
    | none, none =>
      if store.leavesDangling change (touched.map form.number) then .error .danglingReference
      else .ok (changed.mergeSort fun x y => form.number x ≤ form.number y, touched.length)

/-- A change of a ledger, which is refused if it touches a row. -/
def changeLedger (change : Change) (touched : Bool) : Except EditFault (Store × Nat) :=
  if touched then .error (change.fault?.getD (.appendOnly change.table)) else .ok (store, 0)

/-- Sets a column of a table, in all rows or in those whose key is `only`, and counts the rows.
Versions are chosen by number and proofs by verdict. -/
def setColumn (table : Table) (column : String) (value only : Option String) :
    Except EditFault (Store × Nat) :=
  match table.column? column with
  | none => .error (.noSuchColumn column)
  | some column =>
    let change : Change := ⟨table, column, value⟩
    let isChosen (key : String) : Bool := only.all (key == ·)
    match table with
    | .files =>
      (store.changeRows .files change only store.files).map fun (files, count) =>
        ({ store with files }, count)
    | .components =>
      (store.changeRows .components change only store.components).map fun (components, count) =>
        ({ store with components }, count)
    | .symbols =>
      (store.changeRows .symbols change only store.symbols).map fun (symbols, count) =>
        ({ store with symbols }, count)
    | .globals =>
      (store.changeRows .globals change only store.globals).map fun (globals, count) =>
        ({ store with globals }, count)
    | .versions =>
      store.changeLedger change <| store.versions.any fun row =>
        only.all fun text => Datum.ofText text == .integer row.number
    | .history =>
      store.changeLedger change (store.history.any fun row => isChosen row.qualifiedName)
    | .events =>
      store.changeLedger change (store.events.any fun row => isChosen row.qualifiedName)
    | .proofs =>
      store.changeLedger change (store.proofs.any fun row => isChosen row.status.verdict)

/-- Deletes all rows of a table that is not a ledger, unless other rows refer to them. -/
def clearRows {α : Type} (form : TableForm α) (rows : List α) : Except EditFault Nat :=
  if rows.any fun row => store.isReferenced form.table (form.number row) then
    .error .danglingReference
  else .ok rows.length

/-- Deletes all rows of a ledger, which is refused unless there are none. -/
def clearLedger {α : Type} (table : Table) (rows : List α) : Except EditFault (Store × Nat) :=
  if rows.isEmpty then .ok (store, 0) else .error (.appendOnly table)

/-- Deletes all rows of a table, and counts them. -/
def clear (table : Table) : Except EditFault (Store × Nat) :=
  match table with
  | .files => (store.clearRows .files store.files).map ({ store with files := [] }, ·)
  | .components =>
    (store.clearRows .components store.components).map ({ store with components := [] }, ·)
  | .symbols => (store.clearRows .symbols store.symbols).map ({ store with symbols := [] }, ·)
  | .globals => (store.clearRows .globals store.globals).map ({ store with globals := [] }, ·)
  | .versions => store.clearLedger table store.versions
  | .history => store.clearLedger table store.history
  | .events => store.clearLedger table store.events
  | .proofs => store.clearLedger table store.proofs

/-- Replaces a piece of text in all stored texts of components, and counts those that have it. A
piece that is empty or starts with a NUL is counted and left as it is. -/
def replaceText (piece replacement : String) : Store × Nat :=
  let has (owned : Owned Segment) : Bool := containsPiece piece.toList owned.fact.text.toList
  let replaced (text : String) : String :=
    if piece.toList.head? = some '\x00' then text
    else String.ofList (replacePiece piece.toList replacement.toList 0 text.toList)
  let change (owned : Owned Segment) : Owned Segment :=
    { owned with fact := { owned.fact with text := replaced owned.fact.text } }
  let segments := store.segments.map fun owned => if has owned then change owned else owned
  ({ store with segments },
    (store.segments.filter has).length)

/-- Adds a file that has no version. -/
def insertFile (path rawHash treeHash : String) (sizeBytes : Nat) (now : Int) :
    Except EditFault Store :=
  if store.files.any (·.path == path) then .error (.notUnique "files.path")
  else
    let row : FileRecord :=
      ⟨nextId (store.files.map (·.id)), path, rawHash, treeHash, sizeBytes, now, now⟩
    .ok { store with files := store.files ++ [row.stored] }

/-- Adds a proof of any content, for a file and a version that are there. -/
def insertProof (proof : StoredProof) : Except EditFault Store :=
  if store.hasRow .files proof.fileId && store.hasRow .versions proof.versionId then
    .ok { store with proofs := store.proofs ++ [{ proof with id := store.proofs.length + 1 }] }
  else .error .danglingReference

/-- Carries out an edit from outside, and counts the rows that it touches. -/
def edit : Edit → Except EditFault (Store × Nat)
  | .replaceText piece replacement => .ok (store.replaceText piece replacement)
  | .setColumn table column value only => store.setColumn table column value only
  | .clear table => store.clear table
  | .insertFile path rawHash treeHash sizeBytes now =>
    (store.insertFile path rawHash treeHash sizeBytes now).map (·, 1)
  | .insertProof proof => (store.insertProof proof).map (·, 1)

end Store

end SourceLedger
