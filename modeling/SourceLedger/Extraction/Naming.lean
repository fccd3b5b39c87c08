import SourceLedger.Extraction.Basic

/-!
# Giving names

Components get their full names in order: a parent's full name, a dot and the component's own
name. Names need not be unique in a source, so a name that is taken already gets a number behind
it, counted from two. For each name the last number tried is remembered, and the search for the
next one begins behind it. Under the policy to refuse duplicates, a second function, method or
class with the same unnumbered name ends the naming.

Components also get their position among the children of their parent here.
-/

namespace SourceLedger.Naming

/-- The mark between a name and its number. -/
def numberMark : String := "#"

/-- A name with a number behind it. -/
def numbered (base : String) (number : Nat) : String :=
  base ++ numberMark ++ toString number

/-- What is known after some components have been named. -/
structure State where
  /-- The components named so far. -/
  done : List Component := []
  /-- The last number tried for a name that was taken. -/
  counters : List (String × Nat) := []
  /-- The unnumbered names of the functions, methods and classes so far. -/
  definitions : List String := []
  deriving Repr, Inhabited

namespace State

/-- The full names that are taken. -/
def taken (state : State) : List String :=
  state.done.map (·.qualifiedName)

/-- The last number tried for a name; a name that stands alone counts as the first. -/
def counter (state : State) (base : String) : Nat :=
  (state.counters.lookup base).getD 1

/-- The number of components so far with a given parent. -/
def siblings (state : State) (parent : Option Nat) : Nat :=
  state.done.countP (·.parent == parent)

/-- The full name of a component, not yet numbered. -/
def base (state : State) (component : Component) : String :=
  match component.parent with
  | none => component.name
  | some parent =>
    (state.done[parent]?.elim "" (·.qualifiedName)) ++ "." ++ component.name

end State

/-- The first number behind `last` that makes a free name. Among `tries` numbers in a row one is
free as soon as there are more of them than taken names. -/
def freeNumber (taken : List String) (base : String) : (tries last : Nat) → Nat
  | 0, last => last + 1
  | tries + 1, last =>
    if numbered base (last + 1) ∈ taken then freeNumber taken base tries (last + 1)
    else last + 1

/-- The state after one more component, or the unnumbered name that is refused. -/
def step (policy : DuplicatePolicy) (state : State) (component : Component) :
    Except String State :=
  let base := state.base component
  let isDefinition := component.kind.isNamedDefinition
  if isDefinition ∧ policy = .reject ∧ base ∈ state.definitions then .error base
  else
    let definitions := if isDefinition then base :: state.definitions else state.definitions
    let orderIndex := state.siblings component.parent
    if base ∈ state.taken then
      let number := freeNumber state.taken base state.done.length (state.counter base)
      let component := { component with qualifiedName := numbered base number, orderIndex }
      .ok { done := state.done ++ [component]
            counters := (base, number) :: state.counters
            definitions }
    else
      let component := { component with qualifiedName := base, orderIndex }
      .ok { state with done := state.done ++ [component], definitions }

/-- Names components one after another. -/
def run (policy : DuplicatePolicy) : State → List Component → Except String State
  | state, [] => .ok state
  | state, component :: rest =>
    match step policy state component with
    | .ok state => run policy state rest
    | .error base => .error base

/-- Components with their full names and positions, or the name that the policy refuses. -/
def assign (policy : DuplicatePolicy) (components : List Component) :
    Except String (List Component) :=
  (run policy {} components).map (·.done)

end SourceLedger.Naming
