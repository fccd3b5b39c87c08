import SourceLedger.Vocabulary

/-!
# Facts about components

What a component does with names, what it calls, what it imports, which globals it changes and
how it is decorated. A fact does not say whose it is; `Owned` ties it to a component, by position
inside an extraction and by row inside a store.
-/

namespace SourceLedger

/-- A use of a name. -/
structure SymbolUse where
  name : String
  scope : ScopeKind
  access : AccessKind
  /-- The number of named definitions around the use, its own component included. -/
  level : Nat
  line : Nat
  typeText : Option String
  deriving DecidableEq, Repr, Inhabited

/-- A call, with the called expression in layout-free form. -/
structure CallSite where
  callee : String
  line : Nat
  deriving DecidableEq, Repr, Inhabited

/-- One imported module or name. -/
structure ImportRecord where
  /-- The dotted path of the module, without the dots of a relative import. -/
  modulePath : String
  /-- The imported name for a `from` import; `*` stands for all names. -/
  name : Option String
  asName : Option String
  /-- The number of leading dots of a relative import. -/
  level : Nat
  isFrom : Bool
  line : Nat
  deriving DecidableEq, Repr, Inhabited

/-- The part of a dotted path in front of its first dot. -/
def firstPart (path : String) : String :=
  String.ofList (path.toList.takeWhile (· ≠ '.'))

/-- The name an import binds: its alias, else the imported name, else the first part of the
module's path. -/
def ImportRecord.boundName (record : ImportRecord) : String :=
  match record.asName with
  | some asName => asName
  | none =>
    match record.name with
    | some name => name
    | none => firstPart record.modulePath

/-- A change of a global variable from inside a function. -/
structure GlobalAccess where
  name : String
  access : AccessKind
  line : Nat
  deriving DecidableEq, Repr, Inhabited

/-- A decorator of a definition. -/
structure Decorator where
  position : Nat
  name : String
  text : String
  line : Nat
  deriving DecidableEq, Repr, Inhabited

/-- A fact together with the component it belongs to. -/
structure Owned (α : Type) where
  owner : Nat
  fact : α
  deriving DecidableEq, Repr, Inhabited

/-- The facts of one component, in order. -/
def Owned.select {α : Type} (owner : Nat) (facts : List (Owned α)) : List α :=
  (facts.filter (·.owner == owner)).map (·.fact)

/-- The stored text of a component and of the gaps around it. -/
structure Segment where
  leading : String
  text : String
  trailing : String
  deriving DecidableEq, Repr, Inhabited

/-- A segment as it stood in its file. -/
def Segment.assembled (segment : Segment) : String :=
  segment.leading ++ segment.text ++ segment.trailing

/-- The text that consecutive segments make up. -/
def Segment.join (segments : List Segment) : String :=
  String.join (segments.map assembled)

end SourceLedger
