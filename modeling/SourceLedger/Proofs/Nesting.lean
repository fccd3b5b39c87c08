import SourceLedger.Outline.Trace

/-!
# Nesting of events

The events of a node form a nested stretch: a component that opens in the stretch closes in it
again, and the decorators that stand directly in the stretch have increasing positions. Whoever
follows the events therefore finds the same components open behind the stretch as before it.

## Main statements

* `component_eq_nested` splits the events of a component into its opening, a nested stretch and
  its end.
* `nested_walk` says that the events of any node are nested and decorate nothing outside.
-/

namespace SourceLedger.Outline

open Syntax (Node Construct)

/-- Events that neither open nor close a component and do not decorate one. -/
def Event.isPlain : Event → Bool
  | .enter _ | .leave | .decorate _ => false
  | _ => true

/-- A stretch of events, read off the parts of `root`, in which components close after they have
opened. The decorators directly in the stretch have increasing positions, none of them before
`low` and all of them before `high`. -/
inductive Nested (reading : Reading) (root : Node) : (low high : Nat) → List Event → Prop
  | nil (low : Nat) : Nested reading root low low []
  | plain {low high : Nat} {event : Event} {rest : List Event} (hplain : event.isPlain)
      (hrest : Nested reading root low high rest) : Nested reading root low high (event :: rest)
  | decorate {low high : Nat} {decorator : Decorator} {rest : List Event}
      (hlow : low ≤ decorator.position)
      (hrest : Nested reading root (decorator.position + 1) high rest) :
      Nested reading root low high (.decorate decorator :: rest)
  | component {low high count : Nat} {part : Node} {inside rest : List Event}
      (hpart : part ∈ root.preorder) (hinside : Nested reading root 0 count inside)
      (hrest : Nested reading root low high rest) :
      Nested reading root low high
        (.enter (openingOf reading .empty part) :: (inside ++ .leave :: rest))

end SourceLedger.Outline

namespace SourceLedger.Syntax.Node

/-- A tree is the first of its nodes. -/
theorem mem_preorder_self (node : Node) : node ∈ node.preorder := by
  cases node with
  | mk attributes children => simp [preorder]

/-- The nodes of a member of a row are nodes of the row. -/
theorem mem_preorderOfAll {part node : Node} {row : List Node} (hnode : node ∈ row)
    (hpart : part ∈ node.preorder) : part ∈ preorderOfAll row := by
  induction row with
  | nil => simp at hnode
  | cons first rest ih =>
    rw [preorderOfAll, List.mem_append]
    rcases List.mem_cons.1 hnode with rfl | hnode
    · exact Or.inl hpart
    · exact Or.inr (ih hnode)

/-- The nodes of a child are nodes of its parent. -/
theorem mem_preorder_of_child {part child node : Node} (hchild : child ∈ node.children)
    (hpart : part ∈ child.preorder) : part ∈ node.preorder := by
  cases node with
  | mk attributes children =>
    rw [preorder]
    exact List.mem_cons_of_mem _ (mem_preorderOfAll hchild hpart)

/-- A decorator is a child of what it decorates. -/
theorem mem_children_of_mem_decoratorsOf {node decorator : Node}
    (h : decorator ∈ Outline.decoratorsOf node) : decorator ∈ node.children := by
  unfold Outline.decoratorsOf at h
  split at h
  · exact mem_children_of_mem_namedChildren (List.mem_filter.1 h).1
  · simp at h

end SourceLedger.Syntax.Node

namespace SourceLedger.Outline

open Syntax (Node Construct)

namespace Nested

variable {reading : Reading} {root : Node} {low mid high n : Nat}

/-- Neighbouring stretches join. -/
theorem append {xs ys : List Event} (hx : Nested reading root low mid xs)
    (hy : Nested reading root mid high ys) : Nested reading root low high (xs ++ ys) := by
  induction hx with
  | nil => exact hy
  | plain hplain _ ih => exact .plain hplain (ih hy)
  | decorate hlow _ ih => exact .decorate hlow (ih hy)
  | component hpart hinside _ _ ih =>
    rw [List.cons_append, List.append_assoc, List.cons_append]
    exact .component hpart hinside (ih hy)

/-- Plain events are nested. -/
theorem ofPlain {events : List Event} (h : ∀ event ∈ events, event.isPlain) :
    Nested reading root n n events := by
  induction events with
  | nil => exact .nil n
  | cons event rest ih =>
    obtain ⟨hevent, hrest⟩ := List.forall_mem_cons.1 h
    exact .plain hevent (ih hrest)

/-- Stretches without decorators of their own join, however many there are. -/
theorem flatMap {α : Type} {xs : List α} {events : α → List Event}
    (h : ∀ x ∈ xs, Nested reading root n n (events x)) :
    Nested reading root n n (xs.flatMap events) := by
  induction xs with
  | nil => exact .nil n
  | cons x rest ih =>
    obtain ⟨hx, hrest⟩ := List.forall_mem_cons.1 h
    rw [List.flatMap_cons]
    exact hx.append (ih hrest)

/-- What is read off a tree is read off any tree around it. -/
theorem mono {part : Node} {events : List Event}
    (hroot : ∀ node ∈ part.preorder, node ∈ root.preorder)
    (h : Nested reading part low high events) : Nested reading root low high events := by
  induction h with
  | nil => exact .nil _
  | plain hplain _ ih => exact .plain hplain ih
  | decorate hlow _ ih => exact .decorate hlow ih
  | component hpart _ _ ihinside ihrest =>
    exact .component (hroot _ hpart) ihinside ihrest

/-- What is read off a child is read off its parent. -/
theorem ofChild {child : Node} {events : List Event} (hchild : child ∈ root.children)
    (h : Nested reading child low high events) : Nested reading root low high events :=
  h.mono fun _ hnode => Node.mem_preorder_of_child hchild hnode

end Nested

/-- A default value is a child of its parameter. -/
theorem mem_children_of_mem_parameterDefault {parameter value : Node}
    (h : value ∈ parameterDefault parameter) : value ∈ parameter.children := by
  unfold parameterDefault at h
  split at h
  · exact Node.mem_children_of_mem_firstIn h
  · exact Node.mem_children_of_mem_firstIn h
  · simp at h

section Plain

variable {reading : Reading} {node : Node}

theorem isPlain_of_mem_parameterEvents :
    ∀ event ∈ parameterEvents reading node, event.isPlain := by
  unfold parameterEvents
  split <;> simp [Event.isPlain]

theorem isPlain_of_mem_callEvents : ∀ event ∈ callEvents reading node, event.isPlain := by
  unfold callEvents
  split <;> simp [Event.isPlain]

theorem isPlain_of_mem_mentionEvents : ∀ event ∈ mentionEvents reading node, event.isPlain := by
  unfold mentionEvents
  split <;> simp [Event.isPlain]

theorem isPlain_of_mem_bindEvents {access : AccessKind} {typeText : Option String} :
    ∀ event ∈ bindEvents reading access typeText node, event.isPlain := by
  unfold bindEvents
  split <;> simp [Event.isPlain]

theorem isPlain_of_mem_declareEvents {declare : String → Event}
    (h : ∀ name, (declare name).isPlain) :
    ∀ event ∈ declareEvents reading declare node, event.isPlain := by
  intro event hevent
  obtain ⟨name, _, rfl⟩ := List.mem_map.1 hevent
  exact h name

theorem isPlain_of_mem_imports {records : List ImportRecord} :
    ∀ event ∈ records.map Event.imports, event.isPlain := by
  intro event hevent
  obtain ⟨record, _, rfl⟩ := List.mem_map.1 hevent
  rfl

end Plain

/-- The events of some decorators, numbered from `first` on. A decorator without an expression has
no events but keeps its number. -/
def decorations (reading : Reading) (first : Nat) (decorators : List Node) : List Event :=
  (decorators.zipIdx first).flatMap fun decorator =>
    decorator.1.firstNamed?.toList.flatMap fun expression =>
      decoratorEvent reading decorator.2 decorator.1 expression :: walk reading expression

/-- Decorators are nested if their expressions are. -/
theorem nested_decorations {reading : Reading} {root : Node} {decorators : List Node}
    (h : ∀ decorator ∈ decorators, ∀ expression, decorator.firstNamed? = some expression →
      ∀ n, Nested reading root n n (walk reading expression)) (first : Nat) :
    ∃ high, Nested reading root first high (decorations reading first decorators) := by
  -- Numbers that are not used leave gaps, so the stretch of the rest may begin too early.
  suffices hlow : ∀ low, low ≤ first →
      ∃ high, Nested reading root low high (decorations reading first decorators) from
    hlow first (Nat.le_refl first)
  induction decorators generalizing first with
  | nil => exact fun low _ => ⟨low, .nil low⟩
  | cons decorator rest ih =>
    intro low hlow
    obtain ⟨hdecorator, hrest⟩ := List.forall_mem_cons.1 h
    rw [decorations, List.zipIdx_cons, List.flatMap_cons, ← decorations]
    cases hexpression : decorator.firstNamed? with
    | none => exact ih hrest (first + 1) low (by omega)
    | some expression =>
      obtain ⟨high, hhigh⟩ := ih hrest (first + 1) (first + 1) (Nat.le_refl _)
      have hwalk := hdecorator expression hexpression (first + 1)
      refine ⟨high, ?_⟩
      simp only [Option.toList_some, List.flatMap_cons, List.flatMap_nil, List.append_nil]
      exact .decorate hlow (hwalk.append hhigh)

/-- The events inside a component, behind its decorators. -/
def insideEvents (reading : Reading) (node : Node) : List Event :=
  if node.construct = .decoratedDefinition then
    (node.firstIn "definition").flatMap fun definition =>
      if definition.construct = .decoratedDefinition then walk reading definition
      else contents reading definition
  else contents reading node

/-- The events of a component, part by part. -/
theorem component_eq (reading : Reading) (gaps : Gaps) (node : Node) :
    component reading gaps node =
      .enter (openingOf reading gaps node) ::
        (decorations reading 0 (decoratorsOf node) ++ insideEvents reading node ++ [.leave]) := by
  rw [component]
  simp only [List.flatMap_subtype, List.unattach_attach]
  rfl

mutual

/-- The events of a target are nested. -/
theorem nested_bind (reading : Reading) (access : AccessKind) (typeText : Option String)
    (target : Node) (n : Nat) :
    Nested reading target n n (bind reading access typeText target) := by
  rw [bind]
  split
  · exact .ofPlain isPlain_of_mem_bindEvents
  · exact .plain rfl (.flatMap fun object _ =>
      (nested_walk reading object.1 n).ofChild (Node.mem_children_of_mem_firstIn object.2))
  · refine .append (.flatMap fun value _ => .plain rfl ?_) (.flatMap fun index _ => ?_)
    · exact (nested_walk reading value.1 n).ofChild (Node.mem_children_of_mem_firstIn value.2)
    · exact (nested_walk reading index.1 n).ofChild
        (Node.mem_children_of_mem_childrenIn index.2)
  iterate 3
    · exact .flatMap fun part _ => (nested_bind reading access none part.1 n).ofChild
        (Node.mem_children_of_mem_namedChildren part.2)
  · exact nested_walk reading target n
termination_by 5 * target.size + 4
decreasing_by all_goals grind

/-- The events of a node are nested. -/
theorem nested_walk (reading : Reading) (node : Node) (n : Nat) :
    Nested reading node n n (walk reading node) := by
  rw [walk]
  split
  · exact .nil n
  · split
    · obtain ⟨count, inside, heq, hinside⟩ := component_eq_nested reading .empty node
      rw [heq]
      exact .component (Node.mem_preorder_self node) hinside (.nil n)
    · exact nested_visit reading node n
termination_by 5 * node.size + 3
decreasing_by all_goals grind

/-- The events of a component are its opening, a nested stretch and its end. -/
theorem component_eq_nested (reading : Reading) (gaps : Gaps) (node : Node) :
    ∃ count inside, component reading gaps node =
        .enter (openingOf reading gaps node) :: (inside ++ [.leave]) ∧
      Nested reading node 0 count inside := by
  have hexpressions : ∀ decorator ∈ decoratorsOf node, ∀ expression,
      decorator.firstNamed? = some expression →
        ∀ n, Nested reading node n n (walk reading expression) := by
    intro decorator hdecorator expression hexpression n
    refine .ofChild (Node.mem_children_of_mem_decoratorsOf hdecorator) ?_
    exact (nested_walk reading expression n).ofChild (Node.mem_children_of_firstNamed? hexpression)
  obtain ⟨count, hdecorations⟩ := nested_decorations hexpressions 0
  refine ⟨count, _, component_eq reading gaps node, hdecorations.append ?_⟩
  unfold insideEvents
  split
  · refine .flatMap fun definition hdefinition =>
      .ofChild (Node.mem_children_of_mem_firstIn hdefinition) ?_
    split
    · exact nested_walk reading definition count
    · exact nested_contents reading definition count
  · exact nested_contents reading node count
termination_by 5 * node.size + 2
decreasing_by all_goals grind

/-- The events inside a definition or statement are nested. -/
theorem nested_contents (reading : Reading) (node : Node) (n : Nat) :
    Nested reading node n n (contents reading node) := by
  rw [contents]
  split
  · refine .append (.flatMap fun row _ => .ofChild (Node.mem_children_of_mem_firstIn row.2)
      (.flatMap fun parameter _ => .ofChild (Node.mem_children_of_mem_namedChildren parameter.2)
        ?_)) (.flatMap fun body _ => ?_)
    · have hdefault : Nested reading parameter.1 n n
          ((parameterDefault parameter.1).attach.flatMap fun value => walk reading value.1) :=
        .flatMap fun value _ => (nested_walk reading value.1 n).ofChild
          (mem_children_of_mem_parameterDefault value.2)
      exact hdefault.append (.ofPlain isPlain_of_mem_parameterEvents)
    · exact (nested_walk reading body.1 n).ofChild (Node.mem_children_of_mem_firstIn body.2)
  · refine .append (.flatMap fun bases _ => ?_) (.flatMap fun body _ =>
      .ofChild (Node.mem_children_of_mem_firstIn body.2) (.flatMap fun statement _ =>
        .ofChild (Node.mem_children_of_mem_namedChildren statement.2) ?_))
    · exact (nested_walk reading bases.1 n).ofChild (Node.mem_children_of_mem_firstIn bases.2)
    · split
      · obtain ⟨count, inside, heq, hinside⟩ := component_eq_nested reading .empty statement.1
        rw [heq]
        exact .component (Node.mem_preorder_self statement.1) hinside (.nil n)
      · exact nested_walk reading statement.1 n
  · split
    · exact .nil n
    · exact nested_visit reading node n
termination_by 5 * node.size + 1
decreasing_by all_goals grind

/-- The events of a node that opens no component are nested. -/
theorem nested_visit (reading : Reading) (node : Node) (n : Nat) :
    Nested reading node n n (visit reading node) := by
  rw [visit]
  split
  · refine .append (.ofPlain isPlain_of_mem_callEvents) (.flatMap fun part _ => ?_)
    exact (nested_walk reading part.1 n).ofChild (Node.mem_children_of_mem_namedChildren part.2)
  · refine .append (.flatMap fun value _ => ?_) (.flatMap fun target _ => ?_)
    · exact (nested_walk reading value.1 n).ofChild (Node.mem_children_of_mem_firstIn value.2)
    · exact (nested_bind reading .write _ target.1 n).ofChild
        (Node.mem_children_of_mem_firstIn target.2)
  · refine .append (.flatMap fun value _ => ?_) (.flatMap fun target _ => ?_)
    · exact (nested_walk reading value.1 n).ofChild (Node.mem_children_of_mem_firstIn value.2)
    · exact (nested_bind reading .both none target.1 n).ofChild
        (Node.mem_children_of_mem_firstIn target.2)
  iterate 2
    · refine .flatMap fun part _ =>
        .ofChild (Node.mem_children_of_mem_namedChildrenMarking part.2) ?_
      split
      · exact nested_bind reading .write none part.1.2 n
      · exact nested_walk reading part.1.2 n
  · refine .flatMap fun part _ =>
      .ofChild (Node.mem_children_of_mem_namedChildrenMarking part.2) ?_
    split
    · exact nested_bind reading .write none part.1.2 n
    · exact nested_walk reading part.1.2 n
  · refine .append (.flatMap fun value _ => ?_) (.flatMap fun target _ => ?_)
    · exact (nested_walk reading value.1 n).ofChild (Node.mem_children_of_mem_firstIn value.2)
    · exact (nested_bind reading .write none target.1 n).ofChild
        (Node.mem_children_of_mem_firstIn target.2)
  · exact .flatMap fun target _ => (nested_bind reading .delete none target.1 n).ofChild
      (Node.mem_children_of_mem_namedChildren target.2)
  · exact .ofPlain (isPlain_of_mem_declareEvents fun _ => rfl)
  · exact .ofPlain (isPlain_of_mem_declareEvents fun _ => rfl)
  iterate 3
    · exact .ofPlain isPlain_of_mem_imports
  · exact .ofPlain isPlain_of_mem_mentionEvents
  iterate 3
    · exact .flatMap fun part _ => (nested_walk reading part.1 n).ofChild
        (Node.mem_children_of_mem_firstIn part.2)
  · exact .flatMap fun part _ => (nested_walk reading part.1 n).ofChild
      (Node.mem_children_of_mem_namedChildren part.2)
termination_by 5 * node.size
decreasing_by all_goals grind

end

end SourceLedger.Outline
