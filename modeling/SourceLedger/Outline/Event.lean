import SourceLedger.Fact
import SourceLedger.Outline.Heading
import SourceLedger.Syntax.Canonical

/-!
# Events of an outline

Reading a syntax tree from top to bottom gives a list of events: components open and close, and
between that names are bound, used and declared, functions are called and modules imported. An
event says what stands in the source; what it means, which depends on where it occurs, is left to
whoever follows the events.
-/

namespace SourceLedger.Outline

open Syntax (Node)

/-- What is known of a component when it opens. -/
structure Opening where
  form : Form
  name : String
  signature : Option String
  /-- The line of the definition itself, below its decorators. -/
  nameLine : Nat
  start : Nat
  stop : Nat
  firstLine : Nat
  lastLine : Nat
  /-- The canonical form of the component's tree. -/
  canonical : String
  /-- The text before the component, the component and the text behind it; `none` where the bytes
  cannot be cut out. -/
  leading : Option String
  text : Option String
  trailing : Option String
  deriving DecidableEq, Repr, Inhabited

/-- What happens at one place of a source. -/
inductive Event where
  /-- A component opens. -/
  | enter (opening : Opening)
  /-- The component opened last closes. -/
  | leave
  /-- A decorator stands in front of the definition. -/
  | decorate (decorator : Decorator)
  /-- A parameter is bound. -/
  | parameter (name : String) (typeText : Option String) (line : Nat)
  /-- A bare name is assigned, updated or deleted. -/
  | bind (name : String) (access : AccessKind) (typeText : Option String) (line : Nat)
  /-- A place inside another value is assigned, updated or deleted. -/
  | store (place : String) (scope : ScopeKind) (access : AccessKind) (typeText : Option String)
    (line : Nat)
  /-- A bare name is used. -/
  | mention (name : String) (line : Nat)
  /-- A name is declared to be global. -/
  | declareGlobal (name : String)
  /-- A name is declared to belong to an enclosing function. -/
  | declareNonlocal (name : String)
  /-- A function is called. -/
  | call (site : CallSite)
  /-- A module or name is imported. -/
  | imports (record : ImportRecord)
  deriving DecidableEq, Repr, Inhabited

/-- The gaps around a component, which only components at top level own. -/
structure Gaps where
  leading : Option String
  trailing : Option String
  deriving DecidableEq, Repr, Inhabited

/-- A component without gaps of its own. -/
def Gaps.empty : Gaps :=
  ⟨some "", some ""⟩

/-- The opening of the component that a node makes up. -/
def openingOf (reading : Reading) (gaps : Gaps) (node : Node) : Opening :=
  let definition := definitionOf node
  let form := Form.ofNode definition
  { form
    name := componentName reading form definition
    signature := signature? reading form definition (decoratorsOf node)
    nameLine := reading.line definition
    start := node.start
    stop := node.stop
    firstLine := reading.line node
    lastLine := reading.lastLine node
    canonical := node.canonical reading.source
    leading := gaps.leading
    text := reading.text? node
    trailing := gaps.trailing }

end SourceLedger.Outline
