import SourceLedger.Syntax.Compact
import SourceLedger.Syntax.Construct

/-!
# Headings of components

What a component is called and what its signature is can be read off its definition or statement
alone. A definition carries its name; an import is named after its module, an assignment after its
target, a bare call after the function, and every other statement after its keyword. The signature
of a definition is its decorators followed by its parameters and return type, or by its bases, all
without layout.
-/

namespace SourceLedger.Outline

open Syntax (Node Construct)

/-- How nodes are read: the text that their bytes are cut from, and the lines they stand on. -/
structure Reading where
  source : String
  lines : Text.LineMap
  deriving Inhabited

namespace Reading

/-- The text of a node, if its bytes can be cut out. -/
def text? (reading : Reading) (node : Node) : Option String :=
  node.text? reading.source

/-- The text of a node without layout. -/
def compact (reading : Reading) (node : Node) : String :=
  node.compact reading.source

/-- The text, without layout, of the first child in a role. -/
def compactChild? (reading : Reading) (node : Node) (role : String) : Option String :=
  (node.child? role).map reading.compact

/-- The line on which a node begins. -/
def line (reading : Reading) (node : Node) : Nat :=
  reading.lines.firstLine node.start

/-- The last line that a node covers. -/
def lastLine (reading : Reading) (node : Node) : Nat :=
  reading.lines.lastLine node.start node.stop

end Reading

/-- The forms of component. A function inside a class body becomes a method, so the form is less
than the kind of the component. -/
inductive Form where
  | function
  | classDef
  | importing
  | assignment
  | expression
  | block
  deriving DecidableEq, Repr, Inhabited

/-- The form of a definition or statement. -/
def Form.ofNode (node : Node) : Form :=
  match node.construct with
  | .functionDefinition => .function
  | .classDefinition => .classDef
  | .importStatement | .importFromStatement | .futureImportStatement => .importing
  | .expressionStatement => if node.isAssignmentStatement then .assignment else .expression
  | _ => .block

/-- Functions and classes carry a name of their own. -/
def Form.isNamedDefinition : Form → Bool
  | .function | .classDef => true
  | _ => false

/-- The definition or statement that a component is about: what stands below the decorators, if
there are any. -/
def definitionOf (node : Node) : Node :=
  if node.construct = .decoratedDefinition then (node.child? "definition").getD node else node

/-- The decorators in front of a component. -/
def decoratorsOf (node : Node) : List Node :=
  if node.construct = .decoratedDefinition then
    node.namedChildren.filter (·.construct == .decorator)
  else []

/-- Decorators are smaller than what they decorate. -/
@[grind →]
theorem size_lt_of_mem_decoratorsOf {node decorator : Node}
    (h : decorator ∈ decoratorsOf node) : decorator.size < node.size := by
  unfold decoratorsOf at h
  split at h
  · exact Node.size_lt_of_mem_namedChildren (List.mem_filter.1 h).1
  · simp at h

/-- The name of a statement after its keyword: `if_statement` is called `if`. -/
def keywordName (kind : String) : String :=
  let ending := "_statement".toList
  if ending.isSuffixOf kind.toList then
    String.ofList (kind.toList.take (kind.toList.length - ending.length))
  else kind

/-- The name of an import after the modules it takes from. -/
def importName (reading : Reading) (statement : Node) : String :=
  match statement.construct with
  | .importStatement =>
    let modules := (statement.childrenIn "name").map fun child =>
      if child.construct = .aliasedImport then reading.compact ((child.child? "name").getD child)
      else reading.compact child
    "import:" ++ ",".intercalate modules
  | .futureImportStatement => "from:__future__"
  | _ => "from:" ++ (reading.compactChild? statement "module_name").getD ""

/-- The name of an expression after the function that it calls. -/
def expressionName (reading : Reading) (statement : Node) : String :=
  match statement.firstNamed? with
  | some expression =>
    if expression.construct = .call then
      (reading.compactChild? expression "function").elim "expr" ("expr:" ++ ·)
    else "expr"
  | none => "expr"

/-- The name that the form of a definition or statement gives it, if there is one. -/
def formName? (reading : Reading) (form : Form) (node : Node) : Option String :=
  match form with
  | .function | .classDef => node.childText? "name" reading.source
  | .importing => some (importName reading node)
  | .assignment => node.firstNamed?.bind (reading.compactChild? · "left")
  | .expression => some (expressionName reading node)
  | .block => some (keywordName node.kind)

/-- The name of the component of a definition or statement. Where its form gives no name, or an
empty one, it is named after its keyword. -/
def componentName (reading : Reading) (form : Form) (node : Node) : String :=
  match formName? reading form node with
  | some name => if name.isEmpty then keywordName node.kind else name
  | none => keywordName node.kind

/-- The part of a signature that the definition itself gives. -/
def ownSignature (reading : Reading) (form : Form) (node : Node) : List String :=
  match form with
  | .function =>
    let parameters := (reading.compactChild? node "parameters").getD "()"
    match reading.compactChild? node "return_type" with
    | some type => [parameters ++ "->" ++ type]
    | none => [parameters]
  | .classDef => (reading.compactChild? node "superclasses").toList
  | _ => []

/-- The signature of a definition under its decorators. Other components have none, and neither
has a class without decorators and bases. -/
def signature? (reading : Reading) (form : Form) (node : Node) (decorators : List Node) :
    Option String :=
  if form.isNamedDefinition then
    match decorators.map reading.compact ++ ownSignature reading form node with
    | [] => none
    | parts => some (" ".intercalate parts)
  else none

end SourceLedger.Outline
