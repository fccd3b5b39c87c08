import SourceLedger.Proofs.Scoping

/-!
# How deep the reading of a tree goes

A tree is read by functions that call one another. Most calls go on to a node further down, some
stay at a node and change what is done with it: what is bound may be walked, what is walked may be a
component, and a component has contents. There is no way back in this row, so between two calls that
go down there are at most three that stay, and the reading of a file has no more calls under way at
a time than four for each level of its tree.

The only way back is a decorated definition in which nothing is decorated. Its component would be
its own contents, and the reading would not come to an end.

## Main definitions

* `Call` is a call of one of the functions, and `Call.deeds` is what it does, in order.
* `Call.events?` are the events of a call if only so many calls may be under way.
* `Node.IsDecorating` says that there is something behind the decorators.

## Main statements

* `Call.events_eq` is the reading of a tree call by call.
* `Call.Makes.descends` says how calls go on.
* `reading_within_height` bounds the depth of the reading of a file.
* `Call.events?_eq_none` is the reading that does not come to an end.
-/

namespace SourceLedger.Syntax.Node

mutual

/-- A part of a tree is no higher than the tree. -/
theorem height_le_of_mem_preorder (node : Node) {part : Node} (h : part ∈ node.preorder) :
    part.height ≤ node.height := by
  cases node with
  | mk attributes children =>
    rw [preorder] at h
    rcases List.mem_cons.1 h with rfl | h
    · exact Nat.le_refl _
    · have := height_le_of_mem_preorderOfAll children h
      rw [height]
      omega

theorem height_le_of_mem_preorderOfAll (row : List Node) {part : Node}
    (h : part ∈ preorderOfAll row) : part.height ≤ heightOfAll row := by
  cases row with
  | nil => simp [preorderOfAll] at h
  | cons first rest =>
    rw [preorderOfAll] at h
    rw [heightOfAll]
    rcases List.mem_append.1 h with h | h
    · have := height_le_of_mem_preorder first h
      omega
    · have := height_le_of_mem_preorderOfAll rest h
      omega

end

/-- A part lies below a node. -/
def IsBelow (part node : Node) : Prop :=
  part ∈ preorderOfAll node.children

section Below

variable {part child node : Node}

theorem isBelow_of_child (h : child ∈ node.children) : child.IsBelow node :=
  mem_preorderOfAll h (mem_preorder_self child)

theorem isBelow_of_grandchild (h : child ∈ node.children) (hpart : part ∈ child.children) :
    part.IsBelow node :=
  mem_preorderOfAll h (mem_preorder_of_child hpart (mem_preorder_self part))

theorem IsBelow.mem_preorder (h : part.IsBelow node) : part ∈ node.preorder := by
  cases node with
  | mk attributes children =>
    rw [preorder]
    exact List.mem_cons_of_mem _ h

/-- What lies below a node is less high. -/
theorem IsBelow.height_lt (h : part.IsBelow node) : part.height < node.height := by
  cases node with
  | mk attributes children =>
    have := height_le_of_mem_preorderOfAll children h
    rw [height]
    omega

theorem height_pos (node : Node) : 0 < node.height := by
  cases node with
  | mk attributes children =>
    rw [height]
    omega

end Below

/-- There is something behind the decorators, if there are any. -/
def IsDecorating (node : Node) : Prop :=
  node.construct = .decoratedDefinition → (node.child? "definition").isSome

instance (node : Node) : Decidable node.IsDecorating :=
  inferInstanceAs (Decidable (_ → _))

/-- What is decorated is a child. -/
theorem definitionOf_mem_children {node : Node} (h : node.IsDecorating)
    (hdecorated : node.construct = .decoratedDefinition) :
    Outline.definitionOf node ∈ node.children := by
  obtain ⟨definition, hdefinition⟩ := Option.isSome_iff_exists.1 (h hdecorated)
  rw [Outline.definitionOf, if_pos hdecorated, hdefinition]
  exact mem_children_of_child? hdefinition

end SourceLedger.Syntax.Node

namespace SourceLedger.Outline

open Syntax (Node Construct)

/-- A call of one of the functions that read a tree, with the node that it is given. -/
inductive Call where
  /-- A whole file is read. -/
  | file (root : Node)
  /-- A component opens, whatever the node is. -/
  | component (gaps : Gaps) (node : Node)
  /-- A decorator of the component that is open. -/
  | decorator (position : Nat) (node : Node)
  /-- The inside of a function. -/
  | function (node : Node)
  /-- The inside of a class. -/
  | classDef (node : Node)
  /-- The row of parameters of a function. -/
  | parameters (row : Node)
  /-- A node of any kind. -/
  | walk (node : Node)
  /-- A target is bound, updated or deleted. -/
  | bind (access : AccessKind) (typeText : Option String) (target : Node)

/-- Something that a call does: it tells an event, or makes another call. -/
inductive Deed where
  | tell (event : Event)
  | make (call : Call)

/-- The events of something that a call does, if `events` answers the calls. -/
def Deed.answer (events : Call → Option (List Event)) : Deed → Option (List Event)
  | tell event => some [event]
  | make call => events call

/-- Some events are told. -/
def told (events : List Event) : List Deed :=
  events.map .tell

/-- A call is made for each of some nodes. -/
def made (call : Node → Call) (nodes : List Node) : List Deed :=
  nodes.map fun node => .make (call node)

section Deeds

variable (reading : Reading)

/-- The calls for the statements of a module, of which the text before `cursor` is already told. -/
def statementCalls : (cursor : Nat) → List Node → List Call
  | _, [] => []
  | cursor, [last] =>
    [.component
      ⟨Text.slice? reading.source cursor last.start,
        Text.slice? reading.source last.stop reading.source.utf8ByteSize⟩ last]
  | cursor, statement :: rest =>
    .component ⟨Text.slice? reading.source cursor statement.start, some ""⟩ statement ::
      statementCalls statement.stop rest

/-- The call for what stands behind the decorators of a component. -/
def insideCall (definition : Node) : Call :=
  match Form.ofNode definition with
  | .function => .function definition
  | .classDef => .classDef definition
  | _ => .walk definition

/-- The call for a statement in the body of a class. -/
def memberCall (statement : Node) : Call :=
  if statement.construct.isDefinition || statement.isAssignmentStatement then
    .component .empty statement
  else .walk statement

/-- The call for a child that may be a target. -/
def markedCall (isTarget : Bool) (child : Node) : Call :=
  if isTarget then .bind .write none child else .walk child

/-- What is done at a node that opens no component. -/
def visitDeeds (node : Node) : List Deed :=
  match node.construct with
  | .call => told (callEvents reading node) ++ made .walk node.namedChildren
  | .assignment =>
    made .walk (node.firstIn "right") ++
      made (.bind .write (reading.compactChild? node "type")) (node.firstIn "left")
  | .augmentedAssignment =>
    made .walk (node.firstIn "right") ++ made (.bind .both none) (node.firstIn "left")
  | .forStatement | .forInClause =>
    (node.namedChildrenMarking "left").map fun child => .make (markedCall child.1 child.2)
  | .asPattern =>
    (node.namedChildrenMarking "alias").map fun child =>
      .make (markedCall (child.1 || child.2.construct == .asPatternTarget) child.2)
  | .namedExpression =>
    made .walk (node.firstIn "value") ++ made (.bind .write none) (node.firstIn "name")
  | .deleteStatement => made (.bind .delete none) node.namedChildren
  | .globalStatement => told (declareEvents reading .declareGlobal node)
  | .nonlocalStatement => told (declareEvents reading .declareNonlocal node)
  | .importStatement | .importFromStatement | .futureImportStatement =>
    told ((importRecords reading node).map .imports)
  | .identifier => told (mentionEvents reading node)
  | .member => made .walk (node.firstIn "object")
  | .keywordArgument => made .walk (node.firstIn "value")
  | .lambda => made .walk (node.firstIn "body")
  | _ => made .walk node.namedChildren

/-- What is done to a target that is bound, updated or deleted. -/
def bindDeeds (access : AccessKind) (typeText : Option String) (target : Node) : List Deed :=
  match target.construct with
  | .identifier => told (bindEvents reading access typeText target)
  | .member =>
    .tell (.store (reading.compact target) .member access typeText (reading.line target)) ::
      made .walk (target.firstIn "object")
  | .subscript =>
    ((target.firstIn "value").flatMap fun value =>
      [.tell (.store (reading.compact value) .subscript access typeText (reading.line target)),
        .make (.walk value)]) ++
      made .walk (target.childrenIn "subscript")
  | .targetGroup | .listSplatPattern | .asPatternTarget =>
    made (.bind access none) target.namedChildren
  | _ => [.make (.walk target)]

/-- The events of a decorator. -/
def decorationEvents (position : Nat) (node : Node) : List Event :=
  node.firstNamed?.toList.flatMap fun expression =>
    decoratorEvent reading position node expression :: walk reading expression

/-- The events of the row of parameters of a function. -/
def rowEvents (row : Node) : List Event :=
  row.namedChildren.flatMap fun parameter =>
    (parameterDefault parameter).flatMap (walk reading) ++ parameterEvents reading parameter

/-- The events of a statement in the body of a class. -/
def memberEvents (statement : Node) : List Event :=
  if statement.construct.isDefinition || statement.isAssignmentStatement then
    component reading .empty statement
  else walk reading statement

namespace Call

/-- What a call does, in order. A decorated node without definition is its own definition. -/
def deeds : Call → List Deed
  | file root =>
    match root.namedChildren with
    | [] =>
      if reading.source.isEmpty then [] else told [.enter (moduleOpening reading root), .leave]
    | statements => (statementCalls reading 0 statements).map .make
  | component gaps node =>
    .tell (.enter (openingOf reading gaps node)) ::
      ((decoratorsOf node).zipIdx.map fun numbered => .make (.decorator numbered.2 numbered.1)) ++
      [.make (insideCall (definitionOf node)), .tell .leave]
  | decorator position node =>
    node.firstNamed?.toList.flatMap fun expression =>
      [.tell (decoratorEvent reading position node expression), .make (.walk expression)]
  | function node =>
    made .parameters (node.firstIn "parameters") ++ made .walk (node.firstIn "body")
  | classDef node =>
    made .walk (node.firstIn "superclasses") ++
      (node.firstIn "body").flatMap fun body => made memberCall body.namedChildren
  | parameters row =>
    row.namedChildren.flatMap fun parameter =>
      made .walk (parameterDefault parameter) ++ told (parameterEvents reading parameter)
  | walk node =>
    if node.extra then []
    else if node.construct.isDefinition then [.make (.component .empty node)]
    else visitDeeds reading node
  | bind access typeText target => bindDeeds reading access typeText target

/-- The events of a call, if no more than `limit` calls may be under way at a time. -/
def events? : (limit : Nat) → Call → Option (List Event)
  | 0, _ => none
  | limit + 1, call =>
    ((call.deeds reading).mapM (Deed.answer (events? limit))).map List.flatten

/-- The events of a call. -/
def events : Call → List Event
  | file root => moduleEvents reading root
  | component gaps node => Outline.component reading gaps node
  | decorator position node => decorationEvents reading position node
  | function node =>
    (node.firstIn "parameters").flatMap (rowEvents reading) ++
      (node.firstIn "body").flatMap (Outline.walk reading)
  | classDef node =>
    (node.firstIn "superclasses").flatMap (Outline.walk reading) ++
      (node.firstIn "body").flatMap fun body => body.namedChildren.flatMap (memberEvents reading)
  | parameters row => rowEvents reading row
  | walk node => Outline.walk reading node
  | bind access typeText target => Outline.bind reading access typeText target

/-- The node that a call is given. -/
def node : Call → Node
  | file node | component _ node | decorator _ node | function node | classDef node
  | parameters node | walk node | bind _ _ node => node

/-- The place of a call in the row of calls that stay at a node. -/
def rank : Call → Nat
  | file _ | bind .. => 0
  | walk node => if node.construct.isDefinition then 1 else 3
  | component .. => 2
  | decorator .. | function _ | classDef _ | parameters _ => 3

/-- How many calls may be under way from a call on. -/
def bound (call : Call) : Nat :=
  4 * call.node.height - call.rank

/-- One call makes another. -/
def Makes (call callee : Call) : Prop :=
  .make callee ∈ call.deeds reading

/-- There is something behind all decorators that a call may meet. -/
def IsSound (call : Call) : Prop :=
  ∀ node ∈ call.node.preorder, node.IsDecorating

end Call

/-- The events of something that a call does. -/
def Deed.events : Deed → List Event
  | tell event => [event]
  | make call => call.events reading

end Deeds

section Events

variable {reading : Reading}

@[simp]
theorem Deed.events_tell (event : Event) : (tell event).events reading = [event] := rfl

@[simp]
theorem Deed.events_make (call : Call) : (make call).events reading = call.events reading := rfl

@[simp]
theorem flatMap_told (events : List Event) :
    (told events).flatMap (Deed.events reading) = events := by
  simp [told, List.flatMap_map]

@[simp]
theorem flatMap_made (call : Node → Call) (nodes : List Node) :
    (made call nodes).flatMap (Deed.events reading) =
      nodes.flatMap fun node => (call node).events reading := by
  simp [made, List.flatMap_map]

namespace Call

@[simp]
theorem events_component (gaps : Gaps) (node : Node) :
    (component gaps node).events reading = Outline.component reading gaps node := rfl

@[simp]
theorem events_decorator (position : Nat) (node : Node) :
    (decorator position node).events reading = decorationEvents reading position node := rfl

@[simp]
theorem events_parameters (row : Node) :
    (parameters row).events reading = rowEvents reading row := rfl

@[simp]
theorem events_walk (node : Node) : (walk node).events reading = Outline.walk reading node := rfl

@[simp]
theorem events_bind (access : AccessKind) (typeText : Option String) (target : Node) :
    (bind access typeText target).events reading = Outline.bind reading access typeText target :=
  rfl

end Call

@[simp]
theorem events_markedCall (isTarget : Bool) (child : Node) :
    (markedCall isTarget child).events reading =
      if isTarget then bind reading .write none child else walk reading child := by
  cases isTarget <;> rfl

@[simp]
theorem events_memberCall (statement : Node) :
    (memberCall statement).events reading = memberEvents reading statement := by
  rw [memberCall, memberEvents]
  split <;> rfl

theorem flatMap_visitDeeds (node : Node) :
    (visitDeeds reading node).flatMap (Deed.events reading) = visit reading node := by
  rw [visitDeeds, visit]
  simp only [List.flatMap_subtype, List.unattach_attach]
  generalize node.construct = construct
  split <;> simp [List.flatMap_map]

theorem flatMap_bindDeeds (access : AccessKind) (typeText : Option String) (target : Node) :
    (bindDeeds reading access typeText target).flatMap (Deed.events reading) =
      bind reading access typeText target := by
  rw [bindDeeds, bind]
  simp only [List.flatMap_subtype, List.unattach_attach]
  generalize target.construct = construct
  split <;> simp [List.flatMap_assoc]

/-- The events of the statements of a module come from a call for each. -/
theorem flatMap_statementCalls (cursor : Nat) (statements : List Node) :
    (statementCalls reading cursor statements).flatMap (Call.events reading) =
      statementEvents reading cursor statements := by
  fun_induction statementCalls reading cursor statements with
  | case1 => rfl
  | case2 cursor last => simp [statementEvents, Call.events]
  | case3 cursor statement rest hrest ih =>
    rw [List.flatMap_cons, ih, statementEvents]
    · rfl
    · exact hrest

/-- Definitions without decorators have the form of a function or of a class. -/
theorem isDefinition_eq_false {definition : Node} (h : definition.construct ≠ .decoratedDefinition)
    (hfunction : Form.ofNode definition ≠ .function)
    (hclassDef : Form.ofNode definition ≠ .classDef) :
    definition.construct.isDefinition = false := by
  revert h hfunction hclassDef
  rw [Form.ofNode]
  cases definition.construct <;> simp [Construct.isDefinition]

/-- What stands behind no decorators has its contents read by a single call. -/
theorem events_insideCall {definition : Node} (h : definition.construct ≠ .decoratedDefinition) :
    (insideCall definition).events reading = contents reading definition := by
  have hwalk (hfunction : Form.ofNode definition ≠ .function)
      (hclassDef : Form.ofNode definition ≠ .classDef) :
      walk reading definition = if definition.extra then [] else visit reading definition := by
    rw [walk, isDefinition_eq_false h hfunction hclassDef]
    rfl
  rw [insideCall, contents]
  simp only [List.flatMap_subtype, List.unattach_attach]
  cases hform : Form.ofNode definition with
  | function => rfl
  | classDef => rfl
  | _ => exact hwalk (by simp [hform]) (by simp [hform])

theorem events_insideCall_definitionOf {node : Node} (h : node.IsDecorating) :
    (insideCall (definitionOf node)).events reading = insideEvents reading node := by
  by_cases hdecorated : node.construct = .decoratedDefinition
  · obtain ⟨definition, hdefinition⟩ := Option.isSome_iff_exists.1 (h hdecorated)
    rw [insideEvents, if_pos hdecorated, definitionOf, if_pos hdecorated, Node.firstIn, hdefinition]
    simp only [Option.getD_some, Option.toList_some, List.flatMap_cons, List.flatMap_nil,
      List.append_nil]
    by_cases hinner : definition.construct = .decoratedDefinition
    · have hform : Form.ofNode definition = .block := by rw [Form.ofNode, hinner]
      rw [if_pos hinner, insideCall, hform]
      rfl
    · rw [if_neg hinner]
      exact events_insideCall hinner
  · rw [insideEvents, if_neg hdecorated, definitionOf, if_neg hdecorated]
    exact events_insideCall hdecorated

/-- The events of a call are those of what it does. -/
theorem Call.events_eq {call : Call} (h : call.node.IsDecorating) :
    call.events reading = (call.deeds reading).flatMap (Deed.events reading) := by
  cases call with
  | file root =>
    rw [events, moduleEvents, deeds]
    generalize root.namedChildren = statements
    cases statements with
    | nil => simp [apply_ite (List.flatMap (Deed.events reading))]
    | cons first rest =>
      simp only [List.flatMap_map, Deed.events_make]
      exact (flatMap_statementCalls 0 (first :: rest)).symm
  | component gaps node =>
    have hinside : (insideCall (definitionOf node)).events reading = insideEvents reading node :=
      events_insideCall_definitionOf h
    rw [events_component, component_eq, ← hinside, deeds, decorations]
    simp [List.flatMap_map, decorationEvents]
  | decorator position node =>
    simp [decorationEvents, deeds, List.flatMap_assoc]
  | function node => simp [events, deeds]
  | classDef node =>
    rw [events, deeds]
    simp [List.flatMap_assoc]
  | parameters row => simp [rowEvents, deeds, List.flatMap_assoc]
  | walk node =>
    rw [events_walk, Outline.walk, deeds]
    split
    · rfl
    · split
      · simp
      · exact (flatMap_visitDeeds node).symm
  | bind access typeText target => exact (flatMap_bindDeeds access typeText target).symm

end Events

section Descent

variable {reading : Reading} {node : Node} {nodes : List Node} {callee : Call}

@[simp]
theorem make_notMem_told (events : List Event) : Deed.make callee ∉ told events := by
  simp [told]

/-- Calls that are made for some nodes are given these nodes. -/
theorem node_mem_of_made {call : Node → Call} (hcall : ∀ node, (call node).node = node)
    (h : .make callee ∈ made call nodes) : callee.node ∈ nodes := by
  obtain ⟨node, hnode, heq⟩ := List.mem_map.1 h
  obtain rfl : call node = callee := by simpa using heq
  rwa [hcall]

theorem node_mem_of_walked (h : .make callee ∈ made .walk nodes) : callee.node ∈ nodes :=
  node_mem_of_made (fun _ => rfl) h

theorem node_mem_of_bound {access : AccessKind} {typeText : Option String}
    (h : .make callee ∈ made (.bind access typeText) nodes) : callee.node ∈ nodes :=
  node_mem_of_made (fun _ => rfl) h

@[simp]
theorem node_markedCall (isTarget : Bool) (child : Node) :
    (markedCall isTarget child).node = child := by
  cases isTarget <;> rfl

@[simp]
theorem node_memberCall (statement : Node) : (memberCall statement).node = statement := by
  rw [memberCall]
  split <;> rfl

@[simp]
theorem node_insideCall (definition : Node) : (insideCall definition).node = definition := by
  rw [insideCall]
  split <;> rfl

/-- At a node that opens no component only its children are gone on to. -/
theorem node_mem_of_visitDeeds (h : .make callee ∈ visitDeeds reading node) :
    callee.node ∈ node.children := by
  have hmarked {role} {isTarget : Bool × Node → Bool} (h : .make callee ∈
      (node.namedChildrenMarking role).map fun child =>
        Deed.make (markedCall (isTarget child) child.2)) : callee.node ∈ node.children := by
    obtain ⟨child, hchild, heq⟩ := List.mem_map.1 h
    obtain rfl : markedCall (isTarget child) child.2 = callee := by simpa using heq
    rw [node_markedCall]
    exact Node.mem_children_of_mem_namedChildrenMarking hchild
  rw [visitDeeds] at h
  split at h
  all_goals
    first
    | exact hmarked h
    | grind [make_notMem_told, node_mem_of_walked, node_mem_of_bound,
        Node.mem_children_of_mem_firstIn, Node.mem_children_of_mem_namedChildren]

/-- A target goes on to its children, or is walked. -/
theorem node_mem_of_bindDeeds {access : AccessKind} {typeText : Option String}
    (h : .make callee ∈ bindDeeds reading access typeText node) :
    callee.node ∈ node.children ∨ callee = .walk node := by
  rw [bindDeeds] at h
  split at h
  · exact absurd h (make_notMem_told _)
  · have h : .make callee ∈ made .walk (node.firstIn "object") := by simpa using h
    exact .inl (Node.mem_children_of_mem_firstIn (node_mem_of_walked h))
  · rcases List.mem_append.1 h with h | h
    · obtain ⟨value, hvalue, h⟩ := List.mem_flatMap.1 h
      obtain rfl : callee = .walk value := by simpa using h
      exact .inl (Node.mem_children_of_mem_firstIn hvalue)
    · exact .inl (Node.mem_children_of_mem_childrenIn (node_mem_of_walked h))
  iterate 3
    · exact .inl (Node.mem_children_of_mem_namedChildren (node_mem_of_bound h))
  · exact .inr (by simpa using h)

/-- The calls for statements open components for them. -/
theorem node_mem_of_statementCalls {cursor : Nat} {statements : List Node}
    (h : callee ∈ statementCalls reading cursor statements) : callee.node ∈ statements := by
  fun_induction statementCalls reading cursor statements with
  | case1 => simp at h
  | case2 cursor last =>
    obtain rfl := List.mem_singleton.1 h
    exact List.mem_singleton_self last
  | case3 cursor statement rest hrest ih =>
    rcases List.mem_cons.1 h with rfl | h
    · exact List.mem_cons_self
    · exact List.mem_cons_of_mem _ (ih h)

/-- What stands behind no decorators is read at the end of the row. -/
theorem rank_insideCall {definition : Node} (h : definition.construct ≠ .decoratedDefinition) :
    (insideCall definition).rank = 3 := by
  have hwalk (hfunction : Form.ofNode definition ≠ .function)
      (hclassDef : Form.ofNode definition ≠ .classDef) : (Call.walk definition).rank = 3 := by
    rw [Call.rank, isDefinition_eq_false h hfunction hclassDef]
    rfl
  rw [insideCall]
  cases hform : Form.ofNode definition with
  | function => rfl
  | classDef => rfl
  | _ => exact hwalk (by simp [hform]) (by simp [hform])

namespace Call

variable {call : Call}

/-- Whatever is called is below, or comes later in the row of calls that stay. -/
theorem Makes.descends (h : call.node.IsDecorating) (hmakes : call.Makes reading callee) :
    callee.node.IsBelow call.node ∨
      callee.node = call.node ∧ call.rank < callee.rank := by
  rw [Makes] at hmakes
  cases call with
  | file root =>
    refine .inl (Node.isBelow_of_child (Node.mem_children_of_mem_namedChildren ?_))
    rw [deeds] at hmakes
    split at hmakes
    · split at hmakes <;> simp at hmakes
    · obtain ⟨made, hmade, heq⟩ := List.mem_map.1 hmakes
      obtain rfl : made = callee := by simpa using heq
      exact node_mem_of_statementCalls hmade
  | component gaps node =>
    have hcases : (∃ numbered ∈ (decoratorsOf node).zipIdx,
        callee = decorator numbered.2 numbered.1) ∨ callee = insideCall (definitionOf node) := by
      simpa [deeds, eq_comm] using hmakes
    obtain ⟨numbered, hnumbered, rfl⟩ | rfl := hcases
    · exact .inl (Node.isBelow_of_child
        (Node.mem_children_of_mem_decoratorsOf (List.fst_mem_of_mem_zipIdx hnumbered)))
    · rw [node_insideCall]
      by_cases hdecorated : node.construct = .decoratedDefinition
      · exact .inl (Node.isBelow_of_child (Node.definitionOf_mem_children h hdecorated))
      · rw [definitionOf, if_neg hdecorated, rank_insideCall hdecorated]
        exact .inr ⟨rfl, Nat.lt_succ_self 2⟩
  | decorator position node =>
    obtain ⟨expression, hexpression, hmakes⟩ := List.mem_flatMap.1 hmakes
    obtain rfl : callee = walk expression := by simpa using hmakes
    exact .inl (Node.isBelow_of_child
      (Node.mem_children_of_firstNamed? (Option.mem_toList.1 hexpression)))
  | function node =>
    rcases List.mem_append.1 hmakes with hmakes | hmakes
    · have hrow : callee.node ∈ node.firstIn "parameters" := node_mem_of_made (fun _ => rfl) hmakes
      exact .inl (Node.isBelow_of_child (Node.mem_children_of_mem_firstIn hrow))
    · have hbody : callee.node ∈ node.firstIn "body" := node_mem_of_walked hmakes
      exact .inl (Node.isBelow_of_child (Node.mem_children_of_mem_firstIn hbody))
  | classDef node =>
    rcases List.mem_append.1 hmakes with hmakes | hmakes
    · have hbases : callee.node ∈ node.firstIn "superclasses" := node_mem_of_walked hmakes
      exact .inl (Node.isBelow_of_child (Node.mem_children_of_mem_firstIn hbases))
    · obtain ⟨body, hbody, hmakes⟩ := List.mem_flatMap.1 hmakes
      have hmember : callee.node ∈ body.namedChildren := node_mem_of_made node_memberCall hmakes
      exact .inl (Node.isBelow_of_grandchild (Node.mem_children_of_mem_firstIn hbody)
        (Node.mem_children_of_mem_namedChildren hmember))
  | parameters row =>
    obtain ⟨parameter, hparameter, hmakes⟩ := List.mem_flatMap.1 hmakes
    have hmakes := (List.mem_append.1 hmakes).resolve_right (make_notMem_told _)
    have hvalue : callee.node ∈ parameterDefault parameter := node_mem_of_walked hmakes
    exact .inl (Node.isBelow_of_grandchild (Node.mem_children_of_mem_namedChildren hparameter)
      (mem_children_of_mem_parameterDefault hvalue))
  | walk node =>
    rw [deeds] at hmakes
    split at hmakes
    · simp at hmakes
    · split at hmakes
      · obtain rfl : callee = component .empty node := by simpa using hmakes
        exact .inr ⟨rfl, by simp [rank, *]⟩
      · exact .inl (Node.isBelow_of_child (node_mem_of_visitDeeds hmakes))
  | bind access typeText target =>
    rcases node_mem_of_bindDeeds hmakes with hcallee | rfl
    · exact .inl (Node.isBelow_of_child hcallee)
    · refine .inr ⟨rfl, ?_⟩
      rw [rank, rank]
      split <;> omega

theorem IsSound.isDecorating (h : call.IsSound) : call.node.IsDecorating :=
  h call.node (Node.mem_preorder_self call.node)

theorem rank_le (call : Call) : call.rank ≤ 3 := by
  cases call with
  | walk node =>
    rw [rank]
    split <;> omega
  | _ => simp [rank]

/-- From one call to the next fewer calls may follow. -/
theorem Makes.bound_lt (h : call.node.IsDecorating) (hmakes : call.Makes reading callee) :
    callee.bound < call.bound := by
  have hcall := call.rank_le
  have hcallee := callee.rank_le
  have hhigh := callee.node.height_pos
  rw [bound, bound]
  rcases hmakes.descends h with hbelow | ⟨hnode, hrank⟩
  · have := hbelow.height_lt
    omega
  · rw [hnode] at hhigh ⊢
    omega

/-- Whatever is called is given a node of the tree. -/
theorem Makes.isSound (h : call.IsSound) (hmakes : call.Makes reading callee) :
    callee.IsSound := by
  intro node hnode
  rcases hmakes.descends h.isDecorating with hbelow | ⟨heq, -⟩
  · exact h node (Node.mem_preorder_trans call.node hbelow.mem_preorder hnode)
  · exact h node (heq ▸ hnode)

end Call

end Descent

section Answers

variable {α β : Type} {f : α → Option β} {g : α → β} {xs : List α}

/-- Where everything is answered, the answers are put together. -/
theorem mapM_eq_some_map (h : ∀ x ∈ xs, f x = some (g x)) : xs.mapM f = some (xs.map g) := by
  induction xs with
  | nil => rfl
  | cons x rest ih =>
    obtain ⟨hx, hrest⟩ := List.forall_mem_cons.1 h
    rw [List.mapM_cons, hx, ih hrest]
    rfl

/-- Where one thing is not answered, nothing is. -/
theorem mapM_eq_none {x : α} (hmem : x ∈ xs) (hx : f x = none) : xs.mapM f = none := by
  induction xs with
  | nil => simp at hmem
  | cons y rest ih =>
    rw [List.mapM_cons]
    rcases List.mem_cons.1 hmem with rfl | hmem
    · rw [hx]
      rfl
    · rw [ih hmem]
      cases f y <;> rfl

end Answers

namespace Call

variable {reading : Reading} {call callee : Call}

theorem bound_pos (call : Call) : 0 < call.bound := by
  have hrank := call.rank_le
  have hhigh := call.node.height_pos
  rw [bound]
  omega

/-- Calls that are under way at a time are no more than the bound of the first. -/
theorem length_lt_bound (h : call.IsSound) {calls : List Call}
    (hcalls : (call :: calls).IsChain (Makes reading)) : calls.length < call.bound := by
  induction calls generalizing call with
  | nil => exact call.bound_pos
  | cons callee rest ih =>
    obtain ⟨hmakes, hrest⟩ := List.isChain_cons_cons.1 hcalls
    have hlength := ih (hmakes.isSound h) hrest
    have hbound := hmakes.bound_lt h.isDecorating
    rw [List.length_cons]
    omega

/-- A call has all its events if as many calls may be under way as its bound says. -/
theorem events?_eq_some (h : call.IsSound) {limit : Nat} (hlimit : call.bound ≤ limit) :
    call.events? reading limit = some (call.events reading) := by
  induction limit generalizing call with
  | zero => exact absurd call.bound_pos (by omega)
  | succ limit ih =>
    have hdeeds : ∀ deed ∈ call.deeds reading,
        deed.answer (events? reading limit) = some (deed.events reading) := by
      intro deed hdeed
      cases deed with
      | tell event => rfl
      | make callee =>
        have hbound := Makes.bound_lt h.isDecorating hdeed
        exact ih (Makes.isSound h hdeed) (by omega)
    rw [events?, mapM_eq_some_map hdeeds, events_eq h.isDecorating, List.flatMap_def]
    rfl

/-- Where one of the calls that are made does not return, the call does not return either. -/
theorem Makes.events?_eq_none (hmakes : call.Makes reading callee) {limit : Nat}
    (hcallee : callee.events? reading limit = none) : call.events? reading (limit + 1) = none := by
  have hdeeds : (call.deeds reading).mapM (Deed.answer (events? reading limit)) = none :=
    mapM_eq_none hmakes hcallee
  rw [events?, hdeeds]
  rfl

/-- Without a definition behind the decorators the reading does not come to an end, however many
calls may be under way. -/
theorem events?_eq_none {node : Node} (hdecorated : node.construct = .decoratedDefinition)
    (hextra : node.extra = false) (hnone : node.child? "definition" = none) (limit : Nat)
    (gaps : Gaps) : (component gaps node).events? reading limit = none := by
  have hwalk (gaps : Gaps) : (component gaps node).Makes reading (walk node) := by
    have hinside : insideCall (definitionOf node) = walk node := by
      rw [definitionOf, if_pos hdecorated, hnone, insideCall, Form.ofNode, Option.getD_none,
        hdecorated]
    simp [Makes, deeds, hinside]
  have hcomponent : (walk node).Makes reading (component .empty node) := by
    simp [Makes, deeds, hextra, hdecorated, Construct.isDefinition]
  -- The component and the walk of the node call each other, so neither returns.
  have hneither : (∀ gaps, (component gaps node).events? reading limit = none) ∧
      (walk node).events? reading limit = none := by
    induction limit with
    | zero => exact ⟨fun _ => rfl, rfl⟩
    | succ limit ih =>
      obtain ⟨hopened, hwalked⟩ := ih
      exact ⟨fun gaps => (hwalk gaps).events?_eq_none hwalked,
        hcomponent.events?_eq_none (hopened .empty)⟩
  exact hneither.1 gaps

end Call

/-- The reading of a file comes to an end, and never has more calls under way at a time than four
for each level of its tree, if there is something behind all decorators. -/
theorem reading_within_height (reading : Reading) (root : Node)
    (h : ∀ node ∈ root.preorder, node.IsDecorating) :
    (∀ calls, (Call.file root :: calls).IsChain (Call.Makes reading) →
      (Call.file root :: calls).length ≤ 4 * root.height) ∧
    ∀ limit, 4 * root.height ≤ limit →
      (Call.file root).events? reading limit = some (moduleEvents reading root) := by
  have hsound : (Call.file root).IsSound := h
  have hbound : (Call.file root).bound = 4 * root.height := rfl
  refine ⟨?_, ?_⟩
  · intro calls hcalls
    show calls.length < 4 * root.height
    exact hbound ▸ Call.length_lt_bound hsound hcalls
  · intro limit hlimit
    exact Call.events?_eq_some hsound (hbound ▸ hlimit)

/-- The tree of the function `f(b=c)`, decorated with `@a`, whose body is `d[e] = g`. -/
def decoratedRoot : Node :=
  .mk { kind := "module", start := 0, stop := 28 } [
    .mk { kind := "decorated_definition", start := 0, stop := 27 } [
      .mk { kind := "decorator", start := 0, stop := 2 } [
        .mk { kind := "identifier", start := 1, stop := 2 } []],
      .mk { kind := "function_definition", role := "definition", start := 3, stop := 27 } [
        .mk { kind := "identifier", role := "name", start := 7, stop := 8 } [],
        .mk { kind := "parameters", role := "parameters", start := 8, stop := 13 } [
          .mk { kind := "default_parameter", start := 9, stop := 12 } [
            .mk { kind := "identifier", role := "name", start := 9, stop := 10 } [],
            .mk { kind := "identifier", role := "value", start := 11, stop := 12 } []]],
        .mk { kind := "block", role := "body", start := 19, stop := 27 } [
          .mk { kind := "expression_statement", start := 19, stop := 27 } [
            .mk { kind := "assignment", start := 19, stop := 27 } [
              .mk { kind := "subscript", role := "left", start := 19, stop := 23 } [
                .mk { kind := "identifier", role := "value", start := 19, stop := 20 } [],
                .mk { kind := "identifier", role := "subscript", start := 21, stop := 22 } []],
              .mk { kind := "identifier", role := "right", start := 26, stop := 27 } []]]]]]]

/-- The text of the decorated function. -/
def decoratedReading : Reading where
  source := "@a\ndef f(b=c):\n    d[e] = g\n"
  lines := .ofText "@a\ndef f(b=c):\n    d[e] = g\n"

/-- The tree of the decorated function has eight levels. -/
theorem reading_within_height_decorated :
    (∀ node ∈ decoratedRoot.preorder, node.IsDecorating) ∧ decoratedRoot.height = 8 ∧
      (∀ calls, (Call.file decoratedRoot :: calls).IsChain (Call.Makes decoratedReading) →
        (Call.file decoratedRoot :: calls).length ≤ 32) ∧
      (Call.file decoratedRoot).events? decoratedReading 32 =
        some (moduleEvents decoratedReading decoratedRoot) := by
  have hdecorating : ∀ node ∈ decoratedRoot.preorder, node.IsDecorating := by decide
  have hheight : decoratedRoot.height = 8 := rfl
  obtain ⟨hcalls, hevents⟩ := reading_within_height decoratedReading decoratedRoot hdecorating
  exact ⟨hdecorating, hheight, hcalls, hevents 32 (Nat.le_of_eq rfl)⟩

end SourceLedger.Outline
