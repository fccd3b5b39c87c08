import SourceLedger.Outline.Event
import SourceLedger.Outline.Imports

/-!
# The trace of a tree

`moduleEvents` reads a whole tree into its list of events. Every statement at top level opens a
component; so does every definition, wherever it stands, and every assignment directly in a class
body. All other nodes are visited for what they bind, use, call and import.

The reading is a recursion over the tree in which some steps stay at a node and only change what
is done with it. The order of these steps at one node is `bind`, `walk`, `component`, `contents`,
`visit`, and from each of them the way on is either further right in this row or down the tree.
-/

namespace SourceLedger.Outline

open Syntax (Node Construct)

/-- The name that a parameter binds, as a node. A starred parameter binds the name behind the
star. -/
def parameterName? (parameter : Node) : Option Node :=
  let name := match parameter.construct with
    | .identifier | .listSplatPattern | .dictionarySplatPattern => some parameter
    | .typedParameter => parameter.firstNamed?
    | .defaultParameter | .typedDefaultParameter => parameter.child? "name"
    | _ => none
  name.bind fun name => match name.construct with
    | .listSplatPattern | .dictionarySplatPattern => name.firstNamed?
    | _ => some name

/-- The type that a parameter is annotated with. -/
def parameterType? (parameter : Node) : Option Node :=
  match parameter.construct with
  | .typedParameter | .typedDefaultParameter => parameter.child? "type"
  | _ => none

/-- The default value of a parameter, as a row of at most one node. -/
def parameterDefault (parameter : Node) : List Node :=
  match parameter.construct with
  | .defaultParameter | .typedDefaultParameter => parameter.firstIn "value"
  | _ => []

/-- The event of a parameter that binds a name. -/
def parameterEvents (reading : Reading) (parameter : Node) : List Event :=
  match (parameterName? parameter).bind reading.text? with
  | some name =>
    [.parameter name ((parameterType? parameter).map reading.compact) (reading.line parameter)]
  | none => []

/-- The event of a call. -/
def callEvents (reading : Reading) (call : Node) : List Event :=
  match reading.compactChild? call "function" with
  | some callee => [.call ⟨callee, reading.line call⟩]
  | none => []

/-- The events of a `global` or `nonlocal` statement. -/
def declareEvents (reading : Reading) (declare : String → Event) (statement : Node) :
    List Event :=
  ((statement.namedChildren.filter (·.construct == .identifier)).filterMap reading.text?).map
    declare

/-- The event of a bare name that is used. -/
def mentionEvents (reading : Reading) (name : Node) : List Event :=
  match reading.text? name with
  | some text => [.mention text (reading.line name)]
  | none => []

/-- The event of a bare name that is bound, updated or deleted. -/
def bindEvents (reading : Reading) (access : AccessKind) (typeText : Option String)
    (name : Node) : List Event :=
  match reading.text? name with
  | some text => [.bind text access typeText (reading.line name)]
  | none => []

/-- The event of a decorator with its expression. The decorator is named after what is called, if
it is a call. -/
def decoratorEvent (reading : Reading) (position : Nat) (decorator expression : Node) : Event :=
  let callee :=
    if expression.construct = .call then (expression.child? "function").getD expression
    else expression
  .decorate
    ⟨position, reading.compact callee, (reading.text? expression).getD "", reading.line decorator⟩

/-- A default value is smaller than its parameter. -/
@[grind →]
theorem size_lt_of_mem_parameterDefault {parameter value : Node}
    (h : value ∈ parameterDefault parameter) : value.size < parameter.size := by
  unfold parameterDefault at h
  split at h
  · exact Node.size_lt_of_mem_firstIn h
  · exact Node.size_lt_of_mem_firstIn h
  · simp at h

/-- A numbered decorator is smaller than what it decorates. -/
@[grind →]
theorem size_lt_of_mem_zipIdx_decoratorsOf {node : Node} {numbered : Node × Nat}
    (h : numbered ∈ (decoratorsOf node).zipIdx) : numbered.1.size < node.size :=
  size_lt_of_mem_decoratorsOf (List.fst_mem_of_mem_zipIdx h)

/-- The expression of a decorator is smaller than the decorator. -/
@[grind →]
theorem size_lt_of_mem_firstNamed? {decorator expression : Node}
    (h : expression ∈ decorator.firstNamed?.toList) : expression.size < decorator.size :=
  Node.size_lt_of_firstNamed? (Option.mem_toList.1 h)

mutual

/-- The events of a target that is bound, updated or deleted. -/
def bind (reading : Reading) (access : AccessKind) (typeText : Option String) (target : Node) :
    List Event :=
  match target.construct with
  | .identifier => bindEvents reading access typeText target
  | .member =>
    .store (reading.compact target) .member access typeText (reading.line target) ::
      (target.firstIn "object").attach.flatMap fun object => walk reading object.1
  | .subscript =>
    ((target.firstIn "value").attach.flatMap fun value =>
      .store (reading.compact value.1) .subscript access typeText (reading.line target) ::
        walk reading value.1) ++
      (target.childrenIn "subscript").attach.flatMap fun index => walk reading index.1
  | .targetGroup | .listSplatPattern | .asPatternTarget =>
    target.namedChildren.attach.flatMap fun part => bind reading access none part.1
  | _ => walk reading target
termination_by 5 * target.size + 4
decreasing_by all_goals grind

/-- The events of a node. Extras have none. -/
def walk (reading : Reading) (node : Node) : List Event :=
  if node.extra then []
  else if node.construct.isDefinition then component reading .empty node
  else visit reading node
termination_by 5 * node.size + 3
decreasing_by all_goals grind

/-- The events of a component. -/
def component (reading : Reading) (gaps : Gaps) (node : Node) : List Event :=
  let decorators := (decoratorsOf node).zipIdx.attach.flatMap fun decorator =>
    decorator.1.1.firstNamed?.toList.attach.flatMap fun expression =>
      decoratorEvent reading decorator.1.2 decorator.1.1 expression.1 ::
        walk reading expression.1
  let inside :=
    if node.construct = .decoratedDefinition then
      (node.firstIn "definition").attach.flatMap fun definition =>
        if definition.1.construct = .decoratedDefinition then walk reading definition.1
        else contents reading definition.1
    else contents reading node
  .enter (openingOf reading gaps node) :: decorators ++ inside ++ [.leave]
termination_by 5 * node.size + 2
decreasing_by all_goals grind

/-- The events inside an undecorated definition or statement. -/
def contents (reading : Reading) (node : Node) : List Event :=
  match Form.ofNode node with
  | .function =>
    ((node.firstIn "parameters").attach.flatMap fun row =>
      row.1.namedChildren.attach.flatMap fun parameter =>
        ((parameterDefault parameter.1).attach.flatMap fun value => walk reading value.1) ++
          parameterEvents reading parameter.1) ++
      (node.firstIn "body").attach.flatMap fun body => walk reading body.1
  | .classDef =>
    ((node.firstIn "superclasses").attach.flatMap fun bases => walk reading bases.1) ++
      (node.firstIn "body").attach.flatMap fun body =>
        body.1.namedChildren.attach.flatMap fun statement =>
          if statement.1.construct.isDefinition || statement.1.isAssignmentStatement then
            component reading .empty statement.1
          else walk reading statement.1
  | _ => if node.extra then [] else visit reading node
termination_by 5 * node.size + 1
decreasing_by all_goals grind

/-- The events of a node that opens no component. -/
def visit (reading : Reading) (node : Node) : List Event :=
  match node.construct with
  | .call =>
    callEvents reading node ++
      node.namedChildren.attach.flatMap fun part => walk reading part.1
  | .assignment =>
    ((node.firstIn "right").attach.flatMap fun value => walk reading value.1) ++
      (node.firstIn "left").attach.flatMap fun target =>
        bind reading .write (reading.compactChild? node "type") target.1
  | .augmentedAssignment =>
    ((node.firstIn "right").attach.flatMap fun value => walk reading value.1) ++
      (node.firstIn "left").attach.flatMap fun target => bind reading .both none target.1
  | .forStatement | .forInClause =>
    (node.namedChildrenMarking "left").attach.flatMap fun part =>
      if part.1.1 then bind reading .write none part.1.2 else walk reading part.1.2
  | .asPattern =>
    (node.namedChildrenMarking "alias").attach.flatMap fun part =>
      if part.1.1 || part.1.2.construct == .asPatternTarget then bind reading .write none part.1.2
      else walk reading part.1.2
  | .namedExpression =>
    ((node.firstIn "value").attach.flatMap fun value => walk reading value.1) ++
      (node.firstIn "name").attach.flatMap fun target => bind reading .write none target.1
  | .deleteStatement =>
    node.namedChildren.attach.flatMap fun target => bind reading .delete none target.1
  | .globalStatement => declareEvents reading .declareGlobal node
  | .nonlocalStatement => declareEvents reading .declareNonlocal node
  | .importStatement | .importFromStatement | .futureImportStatement =>
    (importRecords reading node).map .imports
  | .identifier => mentionEvents reading node
  | .member => (node.firstIn "object").attach.flatMap fun object => walk reading object.1
  | .keywordArgument => (node.firstIn "value").attach.flatMap fun value => walk reading value.1
  | .lambda => (node.firstIn "body").attach.flatMap fun body => walk reading body.1
  | _ => node.namedChildren.attach.flatMap fun part => walk reading part.1
termination_by 5 * node.size
decreasing_by all_goals grind

end

/-- The events of the statements of a module, of which the text before `cursor` is already told.
Each statement owns the gap in front of it, and the last one also the rest of the text. -/
def statementEvents (reading : Reading) : (cursor : Nat) → List Node → List Event
  | _, [] => []
  | cursor, [last] =>
    component reading
      ⟨Text.slice? reading.source cursor last.start,
        Text.slice? reading.source last.stop reading.source.utf8ByteSize⟩ last
  | cursor, statement :: rest =>
    component reading ⟨Text.slice? reading.source cursor statement.start, some ""⟩ statement ++
      statementEvents reading statement.stop rest

/-- The opening of the single component of a file that has text but no statement. -/
def moduleOpening (reading : Reading) (root : Node) : Opening :=
  { form := .block
    name := "module"
    signature := none
    nameLine := reading.line root
    start := root.start
    stop := root.stop
    firstLine := reading.line root
    lastLine := reading.lastLine root
    canonical := root.canonical reading.source
    leading := Text.slice? reading.source 0 root.start
    text := reading.text? root
    trailing := Text.slice? reading.source root.stop reading.source.utf8ByteSize }

/-- The events of a whole file. -/
def moduleEvents (reading : Reading) (root : Node) : List Event :=
  match root.namedChildren with
  | [] =>
    if reading.source.isEmpty then [] else [.enter (moduleOpening reading root), .leave]
  | statements => statementEvents reading 0 statements

end SourceLedger.Outline
