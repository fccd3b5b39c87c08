/-!
# Failures

Everything that can go wrong, by cause. Some causes lie in the source that was offered, some in
the store or the file system, some in how the ledger was asked. `Failure.message` words them,
`Failure.causes` lists what lies behind a failure, outermost first, and `Failure.exitCode` is the
status with which a command that fails this way ends.
-/

namespace SourceLedger

/-- What the database objected to. -/
inductive DatabaseFault where
  /-- A stored word that is not in the vocabulary, in a column counted from zero. -/
  | unknownWord (column : Nat) (what value : String)
  /-- A value of the wrong type, in a column counted from zero. -/
  | wrongType (type : String) (column : Nat) (name : String)
  /-- An integer that is too small or too large for a column counted from zero. -/
  | outOfRange (value : Int) (column : Nat)
  /-- A uniqueness rule that a row would break. -/
  | notUnique (columns : String)
  /-- A row that refers to a row that is not there. -/
  | danglingReference
  deriving DecidableEq, Repr

namespace DatabaseFault

/-- The complaint about an unknown word. -/
def unknownWordMessage (what value : String) : String :=
  s!"Unknown {what} '{value}' in database. Database may be corrupted or from a newer version."

/-- The wording of a database fault. -/
def message : DatabaseFault → String
  | unknownWord column what value =>
    s!"Conversion error from type Text at index: {column}, {unknownWordMessage what value}"
  | wrongType type column name => s!"Invalid column type {type} at index: {column}, name: {name}"
  | outOfRange value column => s!"Integer {value} out of range at index {column}"
  | notUnique columns => s!"UNIQUE constraint failed: {columns}"
  | danglingReference => "FOREIGN KEY constraint failed"

/-- The chain of causes that a database fault stands for, itself first. -/
def causes : DatabaseFault → List String
  | unknownWord column what value =>
    [(unknownWord column what value).message, unknownWordMessage what value]
  | fault => [fault.message]

end DatabaseFault

/-- A failed operation. -/
inductive Failure where
  /-- The source has no complete syntax tree. -/
  | unparsable (path reason : String)
  /-- Two definitions have the same qualified name and the policy is to refuse that. -/
  | ambiguousName (path qualifiedName : String)
  /-- There is no file to ingest. -/
  | fileNotFound (path : String)
  /-- The ledger knows nothing under the given path, version or id. -/
  | unknownFile (subject : String)
  /-- The store cannot be reached. -/
  | storeUnavailable (reason : String)
  /-- The store was reached and refused. -/
  | database (fault : DatabaseFault)
  /-- The file system refused. -/
  | io (reason : String)
  /-- The settings cannot be read. -/
  | settings (reason : String)
  /-- A promise between parts of the ledger was broken. -/
  | internal (reason : String)
  deriving DecidableEq, Repr

namespace Failure

/-- The wording of a failure. -/
def message : Failure → String
  | unparsable path reason => s!"cannot parse {path}: {reason}"
  | ambiguousName path qualifiedName =>
    s!"ambiguous identity in {path}: `{qualifiedName}` is defined more than once"
  | fileNotFound path => s!"file not found: {path}"
  | unknownFile subject => s!"file has not been ingested: {subject}"
  | storeUnavailable reason => s!"store unavailable: {reason}"
  | database fault => s!"database error: {fault.message}"
  | io reason => s!"I/O error: {reason}"
  | settings reason => s!"configuration error: {reason}"
  | internal reason => s!"internal error: {reason}"

/-- What lies behind a failure, outermost first. -/
def causes : Failure → List String
  | database fault => fault.causes
  | io reason => [reason]
  | _ => []

/-- The exit status of a command that fails this way. -/
def exitCode : Failure → Nat
  | fileNotFound _ => 2
  | unparsable .. | ambiguousName .. => 3
  | storeUnavailable _ | database _ => 4
  | _ => 1

/-- Failures that are mended by editing the source. -/
def isInputFault : Failure → Bool
  | unparsable .. | ambiguousName .. | fileNotFound _ => true
  | _ => false

end Failure

end SourceLedger
