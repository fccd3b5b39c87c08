import SourceLedger.Extraction.Recorder
import SourceLedger.Proofs.Nesting

/-!
# Where events are met

Every event is met at some node of the tree. A component that opens inside another one opens at a
definition, unless it stands directly in the body of a class. What is met between the opening and
the end of a component is met at nodes of the component.

## Main definitions

* `Event.IsMetAt` says what an event tells about the node at which it is met.
* `Sighted` is a stretch of events that are met inside a component.

## Main statements

* `sighted_walk` says that the events of any node are met inside it.
* `component_eq_sighted` says the same of all that is met inside a component.
-/

namespace SourceLedger.Outline

open Syntax (Node Construct)

/-- The names that a `global` or `nonlocal` statement lists. -/
def declaredNames (reading : Reading) (statement : Node) : List String :=
  (statement.namedChildren.filter (·.construct == .identifier)).filterMap reading.text?

/-- What an event tells about the node at which it is met. Bare names and places are bound there and
never read, and names are declared by a statement that lists them. -/
def Event.IsMetAt (reading : Reading) (node : Node) : Event → Prop
  | .enter _ | .leave => False
  | .bind _ access _ _ => access ≠ .read
  | .store _ scope access _ _ => scope ≠ .globalName ∧ access ≠ .read
  | .declareGlobal name =>
    node.construct = .globalStatement ∧ name ∈ declaredNames reading node
  | .declareNonlocal name =>
    node.construct = .nonlocalStatement ∧ name ∈ declaredNames reading node
  | _ => True

/-- An event does not pass off a use of a name as a binding, or a place as a global variable. -/
def Event.Writes : Event → Prop
  | .bind _ access _ _ => access ≠ .read
  | .store _ scope access _ _ => scope ≠ .globalName ∧ access ≠ .read
  | _ => True

/-- The form of the component that a node makes up. -/
def formOf (node : Node) : Form :=
  Form.ofNode (definitionOf node)

/-- A stretch of events that are met inside a component, which opened at `root` and has a namespace
of the kind `scope`. -/
inductive Sighted (reading : Reading) : (root : Node) → Scope → List Event → Prop
  | nil (root : Node) (scope : Scope) : Sighted reading root scope []
  | single {root node : Node} {scope : Scope} {event : Event} {rest : List Event}
      (hnode : node ∈ root.preorder) (hevent : event.IsMetAt reading node)
      (hrest : Sighted reading root scope rest) : Sighted reading root scope (event :: rest)
  | component {root part : Node} {scope : Scope} {inside rest : List Event}
      (hpart : part ∈ root.preorder) (hopens : part.construct.isDefinition ∨ scope = .classBody)
      (hinside : Sighted reading part ((formOf part).scope (some scope)) inside)
      (hrest : Sighted reading root scope rest) :
      Sighted reading root scope
        (.enter (openingOf reading .empty part) :: (inside ++ .leave :: rest))

namespace Sighted

variable {reading : Reading} {root : Node} {scope : Scope}

theorem append {xs ys : List Event} (hx : Sighted reading root scope xs)
    (hy : Sighted reading root scope ys) : Sighted reading root scope (xs ++ ys) := by
  induction hx with
  | nil => exact hy
  | single hnode hevent _ ih => exact .single hnode hevent (ih hy)
  | component hpart hopens hinside _ _ ih =>
    rw [List.cons_append, List.append_assoc, List.cons_append]
    exact .component hpart hopens hinside (ih hy)

theorem ofNode {events : List Event} (h : ∀ event ∈ events, event.IsMetAt reading root) :
    Sighted reading root scope events := by
  induction events with
  | nil => exact .nil root scope
  | cons event rest ih =>
    obtain ⟨hevent, hrest⟩ := List.forall_mem_cons.1 h
    exact .single root.mem_preorder_self hevent (ih hrest)

theorem flatMap {α : Type} {xs : List α} {events : α → List Event}
    (h : ∀ x ∈ xs, Sighted reading root scope (events x)) :
    Sighted reading root scope (xs.flatMap events) := by
  induction xs with
  | nil => exact .nil root scope
  | cons x rest ih =>
    obtain ⟨hx, hrest⟩ := List.forall_mem_cons.1 h
    rw [List.flatMap_cons]
    exact hx.append (ih hrest)

/-- What is met inside a child is met inside its parent. -/
theorem ofChild {child : Node} {events : List Event} (hchild : child ∈ root.children)
    (h : Sighted reading child scope events) : Sighted reading root scope events := by
  induction h with
  | nil => exact .nil _ _
  | single hnode hevent _ ih =>
    exact .single (Node.mem_preorder_of_child hchild hnode) hevent (ih hchild)
  | component hpart hopens hinside _ _ ih =>
    exact .component (Node.mem_preorder_of_child hchild hpart) hopens hinside (ih hchild)

end Sighted

section Single

variable {reading : Reading} {node : Node}

theorem isMetAt_of_mem_parameterEvents {place : Node} :
    ∀ event ∈ parameterEvents reading node, event.IsMetAt reading place := by
  unfold parameterEvents
  split <;> simp [Event.IsMetAt]

theorem isMetAt_of_mem_callEvents :
    ∀ event ∈ callEvents reading node, event.IsMetAt reading node := by
  unfold callEvents
  split <;> simp [Event.IsMetAt]

theorem isMetAt_of_mem_mentionEvents :
    ∀ event ∈ mentionEvents reading node, event.IsMetAt reading node := by
  unfold mentionEvents
  split <;> simp [Event.IsMetAt]

theorem isMetAt_of_mem_bindEvents {access : AccessKind} {typeText : Option String}
    (haccess : access ≠ .read) :
    ∀ event ∈ bindEvents reading access typeText node, event.IsMetAt reading node := by
  unfold bindEvents
  split <;> simp [Event.IsMetAt, haccess]

theorem isMetAt_of_mem_declareEvents {declare : String → Event}
    (h : ∀ name ∈ declaredNames reading node, (declare name).IsMetAt reading node) :
    ∀ event ∈ declareEvents reading declare node, event.IsMetAt reading node := by
  intro event hevent
  obtain ⟨name, hname, rfl⟩ := List.mem_map.1 hevent
  exact h name hname

theorem isMetAt_of_mem_imports {records : List ImportRecord} :
    ∀ event ∈ records.map Event.imports, event.IsMetAt reading node := by
  intro event hevent
  obtain ⟨record, _, rfl⟩ := List.mem_map.1 hevent
  trivial

end Single

/-- Decorators are met inside a component if their expressions are. -/
theorem sighted_decorations {reading : Reading} {root : Node} {scope : Scope}
    {decorators : List Node}
    (h : ∀ decorator ∈ decorators, ∀ expression, decorator.firstNamed? = some expression →
      Sighted reading root scope (walk reading expression)) (first : Nat) :
    Sighted reading root scope (decorations reading first decorators) := by
  refine .flatMap fun decorator hdecorator => .flatMap fun expression hexpression => ?_
  refine .single root.mem_preorder_self trivial ?_
  exact h decorator.1 (List.fst_mem_of_mem_zipIdx hdecorator) expression
    (Option.mem_toList.1 hexpression)

mutual

/-- The events of a target are met inside it. -/
theorem sighted_bind (reading : Reading) {access : AccessKind} (haccess : access ≠ .read)
    (typeText : Option String) (target : Node) (scope : Scope) :
    Sighted reading target scope (bind reading access typeText target) := by
  rw [bind]
  split
  · exact .ofNode (isMetAt_of_mem_bindEvents haccess)
  · exact .single target.mem_preorder_self ⟨by decide, haccess⟩ (.flatMap fun object _ =>
      (sighted_walk reading object.1 scope).ofChild (Node.mem_children_of_mem_firstIn object.2))
  · refine .append (.flatMap fun value _ => ?_) (.flatMap fun index _ => ?_)
    · exact .single target.mem_preorder_self ⟨by decide, haccess⟩
        ((sighted_walk reading value.1 scope).ofChild (Node.mem_children_of_mem_firstIn value.2))
    · exact (sighted_walk reading index.1 scope).ofChild
        (Node.mem_children_of_mem_childrenIn index.2)
  iterate 3
    · exact .flatMap fun part _ => (sighted_bind reading haccess none part.1 scope).ofChild
        (Node.mem_children_of_mem_namedChildren part.2)
  · exact sighted_walk reading target scope
termination_by 5 * target.size + 4
decreasing_by all_goals grind

/-- The events of a node are met inside it. -/
theorem sighted_walk (reading : Reading) (node : Node) (scope : Scope) :
    Sighted reading node scope (walk reading node) := by
  rw [walk]
  split
  · exact .nil node scope
  · split
    · rename_i hdefinition
      obtain ⟨inside, heq, hinside⟩ := component_eq_sighted reading .empty node (some scope)
      rw [heq]
      exact .component node.mem_preorder_self (.inl hdefinition) hinside (.nil node scope)
    · exact sighted_visit reading node scope
termination_by 5 * node.size + 3
decreasing_by all_goals grind

/-- The events of a component are its opening, what is met inside it, and its end. -/
theorem component_eq_sighted (reading : Reading) (gaps : Gaps) (node : Node)
    (enclosing : Option Scope) :
    ∃ inside, component reading gaps node =
        .enter (openingOf reading gaps node) :: (inside ++ [.leave]) ∧
      Sighted reading node ((formOf node).scope enclosing) inside := by
  refine ⟨_, component_eq reading gaps node, .append (sighted_decorations ?_ 0) ?_⟩
  · intro decorator hdecorator expression hexpression
    refine .ofChild (Node.mem_children_of_mem_decoratorsOf hdecorator) ?_
    exact (sighted_walk reading expression _).ofChild (Node.mem_children_of_firstNamed? hexpression)
  · unfold insideEvents formOf definitionOf
    split
    · -- Below the decorators stands the definition that gives the component its form.
      refine .flatMap fun definition hdefinition =>
        .ofChild (Node.mem_children_of_mem_firstIn hdefinition) ?_
      rw [Option.mem_toList.1 hdefinition, Option.getD_some]
      split
      · exact sighted_walk reading definition _
      · exact sighted_contents reading definition fun hclass => by rw [hclass]; rfl
    · exact sighted_contents reading node fun hclass => by rw [hclass]; rfl
termination_by 5 * node.size + 2
decreasing_by all_goals grind

/-- The events inside a definition or statement are met inside it, where a class is a namespace of
its own. -/
theorem sighted_contents (reading : Reading) (node : Node) {scope : Scope}
    (hscope : Form.ofNode node = .classDef → scope = .classBody) :
    Sighted reading node scope (contents reading node) := by
  rw [contents]
  split
  · refine .append (.flatMap fun row _ => .ofChild (Node.mem_children_of_mem_firstIn row.2)
      (.flatMap fun parameter _ => .ofChild (Node.mem_children_of_mem_namedChildren parameter.2)
        (.append (.flatMap fun value _ => ?_) (.ofNode isMetAt_of_mem_parameterEvents))))
      (.flatMap fun body _ => ?_)
    · exact (sighted_walk reading value.1 scope).ofChild
        (mem_children_of_mem_parameterDefault value.2)
    · exact (sighted_walk reading body.1 scope).ofChild (Node.mem_children_of_mem_firstIn body.2)
  · rename_i hclass
    refine .append (.flatMap fun bases _ => ?_) (.flatMap fun body _ =>
      .ofChild (Node.mem_children_of_mem_firstIn body.2) (.flatMap fun statement _ =>
        .ofChild (Node.mem_children_of_mem_namedChildren statement.2) ?_))
    · exact (sighted_walk reading bases.1 scope).ofChild (Node.mem_children_of_mem_firstIn bases.2)
    · split
      · obtain ⟨inside, heq, hinside⟩ :=
          component_eq_sighted reading .empty statement.1 (some scope)
        rw [heq]
        exact .component statement.1.mem_preorder_self (.inr (hscope hclass)) hinside
          (.nil statement.1 scope)
      · exact sighted_walk reading statement.1 scope
  · split
    · exact .nil node scope
    · exact sighted_visit reading node scope
termination_by 5 * node.size + 1
decreasing_by all_goals grind

/-- The events of a node that opens no component are met inside it. -/
theorem sighted_visit (reading : Reading) (node : Node) (scope : Scope) :
    Sighted reading node scope (visit reading node) := by
  rw [visit]
  split
  · refine .append (.ofNode isMetAt_of_mem_callEvents) (.flatMap fun part _ => ?_)
    exact (sighted_walk reading part.1 scope).ofChild
      (Node.mem_children_of_mem_namedChildren part.2)
  · refine .append (.flatMap fun value _ => ?_) (.flatMap fun target _ => ?_)
    · exact (sighted_walk reading value.1 scope).ofChild (Node.mem_children_of_mem_firstIn value.2)
    · exact (sighted_bind reading (by decide) _ target.1 scope).ofChild
        (Node.mem_children_of_mem_firstIn target.2)
  · refine .append (.flatMap fun value _ => ?_) (.flatMap fun target _ => ?_)
    · exact (sighted_walk reading value.1 scope).ofChild (Node.mem_children_of_mem_firstIn value.2)
    · exact (sighted_bind reading (by decide) none target.1 scope).ofChild
        (Node.mem_children_of_mem_firstIn target.2)
  iterate 3
    · refine .flatMap fun part _ =>
        .ofChild (Node.mem_children_of_mem_namedChildrenMarking part.2) ?_
      split
      · exact sighted_bind reading (by decide) none part.1.2 scope
      · exact sighted_walk reading part.1.2 scope
  · refine .append (.flatMap fun value _ => ?_) (.flatMap fun target _ => ?_)
    · exact (sighted_walk reading value.1 scope).ofChild (Node.mem_children_of_mem_firstIn value.2)
    · exact (sighted_bind reading (by decide) none target.1 scope).ofChild
        (Node.mem_children_of_mem_firstIn target.2)
  · exact .flatMap fun target _ => (sighted_bind reading (by decide) none target.1 scope).ofChild
      (Node.mem_children_of_mem_namedChildren target.2)
  iterate 2
    · rename_i hconstruct
      exact .ofNode (isMetAt_of_mem_declareEvents fun _ hname => ⟨hconstruct, hname⟩)
  iterate 3
    · exact .ofNode isMetAt_of_mem_imports
  · exact .ofNode isMetAt_of_mem_mentionEvents
  iterate 3
    · exact .flatMap fun part _ => (sighted_walk reading part.1 scope).ofChild
        (Node.mem_children_of_mem_firstIn part.2)
  · exact .flatMap fun part _ => (sighted_walk reading part.1 scope).ofChild
      (Node.mem_children_of_mem_namedChildren part.2)
termination_by 5 * node.size
decreasing_by all_goals grind

end

theorem Event.IsMetAt.writes {reading : Reading} {node : Node} {event : Event}
    (h : event.IsMetAt reading node) : event.Writes := by
  cases event with
  | bind | store => exact h
  | _ => trivial

theorem Sighted.writes {reading : Reading} {root : Node} {scope : Scope} {events : List Event}
    (h : Sighted reading root scope events) : ∀ event ∈ events, event.Writes := by
  induction h with
  | nil => simp
  | single _ hevent _ ih => exact List.forall_mem_cons.2 ⟨hevent.writes, ih⟩
  | component _ _ _ _ ihinside ihrest =>
    refine List.forall_mem_cons.2 ⟨trivial, List.forall_mem_append.2 ⟨ihinside, ?_⟩⟩
    exact List.forall_mem_cons.2 ⟨trivial, ihrest⟩

theorem writes_component (reading : Reading) (gaps : Gaps) (node : Node) :
    ∀ event ∈ component reading gaps node, event.Writes := by
  obtain ⟨inside, heq, hinside⟩ := component_eq_sighted reading gaps node none
  rw [heq]
  refine List.forall_mem_cons.2 ⟨trivial, List.forall_mem_append.2 ⟨hinside.writes, ?_⟩⟩
  simp [Event.Writes]

theorem writes_statementEvents (reading : Reading) (cursor : Nat) (statements : List Node) :
    ∀ event ∈ statementEvents reading cursor statements, event.Writes := by
  induction statements generalizing cursor with
  | nil => exact List.forall_mem_nil _
  | cons statement rest ih =>
    cases rest with
    | nil => exact writes_component reading _ statement
    | cons next rest =>
      exact List.forall_mem_append.2 ⟨writes_component reading _ statement, ih statement.stop⟩

/-- No event of a file passes off a use of a name as a binding, or a place as a global variable. -/
theorem writes_moduleEvents (reading : Reading) (root : Node) :
    ∀ event ∈ moduleEvents reading root, event.Writes := by
  unfold moduleEvents
  split
  · split
    · simp
    · simp [Event.Writes]
  · exact writes_statementEvents reading 0 _

end SourceLedger.Outline
