/-!
# The vocabulary of the ledger

Small closed sets of words: what a component is, how a name is used, how a component came by its
identity, what a change is and how much it matters, how a verification ended, and how duplicate
names are treated. Every word has one written form, and reading a written form gives the word back
(`ofName?_name`).
-/

namespace SourceLedger

/-- What a component of a source file is. -/
inductive ComponentKind where
  | function
  | method
  | classDef
  | importing
  | assignment
  | expression
  | block
  deriving DecidableEq, Repr, Inhabited

namespace ComponentKind

/-- All kinds, in the order in which they are listed. -/
def all : List ComponentKind :=
  [function, method, classDef, importing, assignment, expression, block]

/-- The written form of a kind. -/
def name : ComponentKind → String
  | function => "function"
  | method => "method"
  | classDef => "class"
  | importing => "import"
  | assignment => "assignment"
  | expression => "expression"
  | block => "block"

/-- Reads a kind. -/
def ofName? (text : String) : Option ComponentKind :=
  all.find? (·.name == text)

/-- Reading the written form of a kind gives the kind back. -/
theorem ofName?_name (kind : ComponentKind) : ofName? kind.name = some kind := by
  cases kind <;> decide

/-- Functions, methods and classes carry a name of their own; other components are named after
what they contain. -/
def isNamedDefinition : ComponentKind → Bool
  | function | method | classDef => true
  | _ => false

end ComponentKind

/-- Where a name lives: it is bound in a function or a module, or it is a place inside another
value, a member or an element. -/
inductive ScopeKind where
  | parameter
  | localName
  | globalName
  | member
  | subscript
  deriving DecidableEq, Repr, Inhabited

namespace ScopeKind

/-- All scopes. -/
def all : List ScopeKind :=
  [parameter, localName, globalName, member, subscript]

/-- The written form of a scope. -/
def name : ScopeKind → String
  | parameter => "parameter"
  | localName => "local"
  | globalName => "global"
  | member => "attribute"
  | subscript => "subscript"

/-- Reads a scope. -/
def ofName? (text : String) : Option ScopeKind :=
  all.find? (·.name == text)

/-- Reading the written form of a scope gives the scope back. -/
theorem ofName?_name (scope : ScopeKind) : ofName? scope.name = some scope := by
  cases scope <;> decide

end ScopeKind

/-- What is done with a name. -/
inductive AccessKind where
  | read
  | write
  | delete
  | both
  deriving DecidableEq, Repr, Inhabited

namespace AccessKind

/-- All accesses. -/
def all : List AccessKind :=
  [read, write, delete, both]

/-- The written form of an access. -/
def name : AccessKind → String
  | read => "read"
  | write => "write"
  | delete => "delete"
  | both => "both"

/-- Reads an access. -/
def ofName? (text : String) : Option AccessKind :=
  all.find? (·.name == text)

/-- Reading the written form of an access gives the access back. -/
theorem ofName?_name (access : AccessKind) : ofName? access.name = some access := by
  cases access <;> decide

/-- Every access but a read changes what the name stands for. -/
def isMutation (access : AccessKind) : Bool :=
  access != read

end AccessKind

/-- How a component of a new version relates to the version before: it continues a component of
the same name, or begins anew. -/
inductive Resolution where
  | adopt
  | new
  deriving DecidableEq, Repr, Inhabited

namespace Resolution

/-- All resolutions. -/
def all : List Resolution :=
  [adopt, new]

/-- The written form of a resolution. -/
def name : Resolution → String
  | adopt => "adopt"
  | new => "new"

/-- Reads a resolution. -/
def ofName? (text : String) : Option Resolution :=
  all.find? (·.name == text)

/-- Reading the written form of a resolution gives the resolution back. -/
theorem ofName?_name (resolution : Resolution) : ofName? resolution.name = some resolution := by
  cases resolution <;> decide

end Resolution

/-- What became of a component between two versions. -/
inductive ChangeKind where
  | added
  | removed
  | modified
  | unchanged
  deriving DecidableEq, Repr, Inhabited

namespace ChangeKind

/-- All kinds of change. -/
def all : List ChangeKind :=
  [added, removed, modified, unchanged]

/-- The written form of a kind of change. -/
def name : ChangeKind → String
  | added => "added"
  | removed => "removed"
  | modified => "modified"
  | unchanged => "unchanged"

/-- Reads a kind of change. -/
def ofName? (text : String) : Option ChangeKind :=
  all.find? (·.name == text)

/-- Reading the written form of a kind of change gives it back. -/
theorem ofName?_name (change : ChangeKind) : ofName? change.name = some change := by
  cases change <;> decide

end ChangeKind

/-- How much a change matters. -/
inductive Severity where
  | info
  | low
  | medium
  | high
  deriving DecidableEq, Repr, Inhabited

namespace Severity

/-- All severities, lightest first. -/
def all : List Severity :=
  [info, low, medium, high]

/-- The written form of a severity. -/
def name : Severity → String
  | info => "info"
  | low => "low"
  | medium => "medium"
  | high => "high"

/-- Reads a severity. -/
def ofName? (text : String) : Option Severity :=
  all.find? (·.name == text)

/-- Reading the written form of a severity gives the severity back. -/
theorem ofName?_name (severity : Severity) : ofName? severity.name = some severity := by
  cases severity <;> decide

/-- The position of a severity in the order of significance. -/
def rank : Severity → Nat
  | info => 0
  | low => 1
  | medium => 2
  | high => 3

/-- The weightier of two severities. -/
def max (x y : Severity) : Severity :=
  if x.rank ≤ y.rank then y else x

/-- Severities in order of significance, lightest first. -/
def sort (values : List Severity) : List Severity :=
  values.mergeSort fun x y => x.rank ≤ y.rank

end Severity

/-- What a drift event is about. -/
inductive DriftCategory where
  | componentAdded
  | componentRemoved
  | importAdded
  | importRemoved
  | formattingOnly
  | signatureChanged
  | importsChanged
  | callsChanged
  | symbolsChanged
  | bodyChanged
  deriving DecidableEq, Repr, Inhabited

namespace DriftCategory

/-- All categories. -/
def all : List DriftCategory :=
  [componentAdded, componentRemoved, importAdded, importRemoved, formattingOnly, signatureChanged,
   importsChanged, callsChanged, symbolsChanged, bodyChanged]

/-- The written form of a category. -/
def name : DriftCategory → String
  | componentAdded => "component_added"
  | componentRemoved => "component_removed"
  | importAdded => "import_added"
  | importRemoved => "import_removed"
  | formattingOnly => "formatting_only"
  | signatureChanged => "signature_changed"
  | importsChanged => "imports_changed"
  | callsChanged => "calls_changed"
  | symbolsChanged => "symbols_changed"
  | bodyChanged => "body_changed"

/-- Reads a category. -/
def ofName? (text : String) : Option DriftCategory :=
  all.find? (·.name == text)

/-- Reading the written form of a category gives the category back. -/
theorem ofName?_name (category : DriftCategory) : ofName? category.name = some category := by
  cases category <;> decide

/-- How much a change of this category matters. -/
def severity : DriftCategory → Severity
  | signatureChanged | componentRemoved => .high
  | callsChanged | importsChanged | importRemoved | componentAdded => .medium
  | symbolsChanged | bodyChanged | importAdded => .low
  | formattingOnly => .info

end DriftCategory

/-- How rebuilding a version from its stored pieces compares with what was recorded. -/
inductive VerifyStatus where
  | pass
  | formattingDrift
  | structuralDrift
  deriving DecidableEq, Repr, Inhabited

namespace VerifyStatus

/-- All statuses. -/
def all : List VerifyStatus :=
  [pass, formattingDrift, structuralDrift]

/-- The name of a status in reports. -/
def name : VerifyStatus → String
  | pass => "pass"
  | formattingDrift => "formatting_drift"
  | structuralDrift => "structural_drift"

/-- The verdict stored for a status; both kinds of drift share one. -/
def verdict : VerifyStatus → String
  | pass => "PASS"
  | formattingDrift | structuralDrift => "DRIFT_DETECTED"

/-- The kind of mismatch stored beside the verdict. -/
def mismatch : VerifyStatus → Option String
  | pass => none
  | formattingDrift => some "formatting_only"
  | structuralDrift => some "structural"

/-- Reads a stored verdict and mismatch. -/
def ofStored? (verdict : String) (mismatch : Option String) : Option VerifyStatus :=
  all.find? fun status => status.verdict == verdict && status.mismatch == mismatch

/-- Reading what is stored for a status gives the status back. -/
theorem ofStored?_stored (status : VerifyStatus) :
    ofStored? status.verdict status.mismatch = some status := by
  cases status <;> decide

/-- A status follows from whether the bytes and the syntax tree of the rebuilt text agree with
the record. A differing tree is structural whatever the bytes say. -/
def ofMatches (rawMatch treeMatch : Bool) : VerifyStatus :=
  if !treeMatch then structuralDrift
  else if rawMatch then pass
  else formattingDrift

/-- The verdict with the kind of mismatch in parentheses. -/
def describe (status : VerifyStatus) : String :=
  match status.mismatch with
  | some kind => s!"{status.verdict} ({kind})"
  | none => status.verdict

end VerifyStatus

/-- What to do when a second function, method or class takes a name that is in use: tell the two
apart by a number, or refuse the file. -/
inductive DuplicatePolicy where
  | suffix
  | reject
  deriving DecidableEq, Repr, Inhabited

namespace DuplicatePolicy

/-- All policies. -/
def all : List DuplicatePolicy :=
  [suffix, reject]

/-- The written form of a policy. -/
def name : DuplicatePolicy → String
  | suffix => "suffix"
  | reject => "reject"

/-- Reads a policy. -/
def ofName? (text : String) : Option DuplicatePolicy :=
  all.find? (·.name == text)

/-- Reading the written form of a policy gives the policy back. -/
theorem ofName?_name (policy : DuplicatePolicy) : ofName? policy.name = some policy := by
  cases policy <;> decide

end DuplicatePolicy

end SourceLedger
