import SourceLedger.Proofs.Increment

/-!
# Frames along a walk

The events of a file come one after another, and each of them comes in a certain situation: it is
met at a node of the component that is open innermost, or a component opens, or one closes. What
holds at the beginning and is kept by every event that may come next holds all along.

A frame has a component. Where decorators stand in front of functions and classes only, the
namespace of a frame is that of a function exactly if its component is a function or a method, and
that of the module only if its component stands at top level and is no definition.

## Main definitions

* `Recorder.Comes` says which events may come next.
* `Recorder.Unfolds` is a row of events each of which may come next.
* `Frame.Fits` relates a frame to its component.

## Main statements

* `Recorder.unfolds_moduleEvents` says that the events of a file unfold.
* `Recorder.exists_fits` finds the component of every frame.
-/

namespace SourceLedger.Syntax.Node

mutual

/-- The nodes of a node of a tree are nodes of the tree. -/
theorem mem_preorder_trans (root : Node) {part node : Node} (hpart : part ∈ root.preorder)
    (hnode : node ∈ part.preorder) : node ∈ root.preorder := by
  cases root with
  | mk attributes children =>
    rw [preorder] at hpart
    rcases List.mem_cons.1 hpart with rfl | hbelow
    · exact hnode
    · rw [preorder]
      exact List.mem_cons_of_mem _ (mem_preorderOfAll_trans children hbelow hnode)

theorem mem_preorderOfAll_trans (row : List Node) {part node : Node}
    (hpart : part ∈ preorderOfAll row) (hnode : node ∈ part.preorder) :
    node ∈ preorderOfAll row := by
  cases row with
  | nil => simp [preorderOfAll] at hpart
  | cons first rest =>
    rw [preorderOfAll, List.mem_append] at hpart ⊢
    rcases hpart with hfirst | hrest
    · exact .inl (mem_preorder_trans first hfirst hnode)
    · exact .inr (mem_preorderOfAll_trans rest hrest hnode)

end

end SourceLedger.Syntax.Node

namespace SourceLedger.Outline

open Syntax (Node Construct)

/-- Decorators stand in front of a function or a class. -/
def DecoratesDefinition (node : Node) : Prop :=
  node.construct = .decoratedDefinition → ∃ definition ∈ node.child? "definition",
    definition.construct = .functionDefinition ∨ definition.construct = .classDefinition

instance (node : Node) : Decidable (DecoratesDefinition node) :=
  inferInstanceAs (Decidable (_ → ∃ definition ∈ _, _))

theorem formOf_of_isDefinition {node : Node} (h : node.construct.isDefinition)
    (hdecorates : DecoratesDefinition node) :
    formOf node = .function ∨ formOf node = .classDef := by
  have hform {definition : Node} (hdefinition : definition.construct = .functionDefinition ∨
      definition.construct = .classDefinition) :
      Form.ofNode definition = .function ∨ Form.ofNode definition = .classDef := by
    unfold Form.ofNode
    rcases hdefinition with hfunction | hclass
    · exact .inl (by rw [hfunction])
    · exact .inr (by rw [hclass])
  unfold formOf definitionOf
  by_cases hdecorated : node.construct = .decoratedDefinition
  · obtain ⟨definition, hchild, hdefinition⟩ := hdecorates hdecorated
    rw [if_pos hdecorated, hchild, Option.getD_some]
    exact hform hdefinition
  · rw [if_neg hdecorated]
    refine hform ?_
    cases hconstruct : node.construct <;> simp_all [Construct.isDefinition]

end SourceLedger.Outline

namespace SourceLedger

open Outline (DecoratesDefinition Event Form Gaps Opening Reading Sighted component formOf
  moduleEvents openingOf statementEvents)
open Syntax (Node)

namespace Recorder

section Walk

variable (reading : Reading) (recordReads : Bool) (root : Node)

/-- The component at a position opened at a node. -/
def OpenedAt (past : List Event) (position : Nat) (node : Node) : Prop :=
  ∃ before gaps, before ++ [.enter (openingOf reading gaps node)] <+: past ∧
    (run recordReads {} before).findings.components.length = position

/-- An event may come next: it is met inside the component that is open innermost, or a component
opens at top level or below others, or one closes. -/
inductive Comes (past : List Event) : Event → Prop
  | met {frame : Frame} {definition node : Node} {event : Event}
      (hframe : (run recordReads {} past).stack.head? = some frame)
      (hopened : OpenedAt reading recordReads past frame.component definition)
      (hnode : node ∈ definition.preorder) (hevent : event.IsMetAt reading node) :
      Comes past event
  | atTop {opening : Opening} (hstack : (run recordReads {} past).stack = []) :
      Comes past (.enter opening)
  | below {frame : Frame} {part : Node}
      (hframe : (run recordReads {} past).stack.head? = some frame) (hpart : part ∈ root.preorder)
      (hopens : part.construct.isDefinition ∨ frame.scope = .classBody) :
      Comes past (.enter (openingOf reading .empty part))
  | closes : Comes past .leave

/-- Events each of which may come behind those before it. -/
inductive Unfolds : (past events : List Event) → Prop
  | nil (past : List Event) : Unfolds past []
  | cons {past rest : List Event} {event : Event}
      (hevent : Comes reading recordReads root past event)
      (hrest : Unfolds (past ++ [event]) rest) : Unfolds past (event :: rest)

end Walk

variable {reading : Reading} {recordReads : Bool} {root : Node} {past : List Event}

theorem OpenedAt.mono {more : List Event} {position : Nat} {node : Node}
    (h : OpenedAt reading recordReads past position node) (hmore : past <+: more) :
    OpenedAt reading recordReads more position node := by
  obtain ⟨before, gaps, hbefore, hposition⟩ := h
  exact ⟨before, gaps, hbefore.trans hmore, hposition⟩

namespace Unfolds

theorem append {xs ys : List Event} (hx : Unfolds reading recordReads root past xs)
    (hy : Unfolds reading recordReads root (past ++ xs) ys) :
    Unfolds reading recordReads root past (xs ++ ys) := by
  induction hx with
  | nil => simpa using hy
  | cons hevent _ ih => exact .cons hevent (ih (by simpa using hy))

/-- What every event that may come next keeps holds all along. -/
theorem keeps {P : List Event → Prop} {events : List Event}
    (h : Unfolds reading recordReads root past events) (hpast : P past)
    (hkeeps : ∀ past event, P past → Comes reading recordReads root past event →
      P (past ++ [event])) : P (past ++ events) := by
  induction h with
  | nil => simpa using hpast
  | cons hevent _ ih =>
    have hrest := ih (hkeeps _ _ hpast hevent)
    rwa [List.append_assoc] at hrest

theorem upTo {before events : List Event} {event : Event}
    (h : Unfolds reading recordReads root past events) (hbegins : before ++ [event] <+: events) :
    Unfolds reading recordReads root past before ∧
      Comes reading recordReads root (past ++ before) event := by
  induction h generalizing before with
  | nil => simp at hbegins
  | @cons past rest first hfirst _ ih =>
    cases before with
    | nil =>
      obtain ⟨rfl, _⟩ := List.cons_prefix_cons.1 hbegins
      exact ⟨.nil past, by simpa using hfirst⟩
    | cons other before =>
      obtain ⟨rfl, hrest⟩ := List.cons_prefix_cons.1 hbegins
      obtain ⟨hbefore, hevent⟩ := ih hrest
      exact ⟨.cons hfirst hbefore, by simpa using hevent⟩

end Unfolds

/-- An event that opens and closes nothing leaves the frames as they are. -/
theorem bare_stack_step {event : Event} {node : Node} (h : event.IsMetAt reading node)
    (recorder : Recorder) :
    (recorder.step recordReads event).stack.map Frame.bare = recorder.stack.map Frame.bare := by
  rw [step_eq]
  cases event with
  | enter | leave => exact h.elim
  | _ =>
    obtain ⟨findings, _ | ⟨frame, below⟩⟩ := recorder
    · rfl
    · simp [following]

/-- A component that opens has a frame of its own. -/
theorem bare_stack_enter (recorder : Recorder) (opening : Opening) :
    (recorder.step recordReads (.enter opening)).stack.map Frame.bare =
      frameOf opening recorder.findings.components.length recorder.stack.head? ::
        recorder.stack.map Frame.bare := by
  rw [step_eq]
  obtain ⟨findings, _ | ⟨frame, below⟩⟩ := recorder
  · rfl
  · simp only [following, List.map_cons, List.modifyHead_cons, Frame.bare_next]
    rfl

theorem exists_head? {recorder : Recorder} {top : Frame} {below : List Frame}
    (h : recorder.stack.map Frame.bare = top :: below) :
    ∃ frame, recorder.stack.head? = some frame ∧ frame.bare = top := by
  obtain ⟨findings, _ | ⟨frame, frames⟩⟩ := recorder
  · simp at h
  · exact ⟨frame, rfl, (List.cons.inj h).1⟩

/-- A component that opens and closes again unfolds if all unfolds that is met inside it. -/
theorem unfolds_component {opening : Opening} {frames : List Frame} (inside : List Event)
    (henter : Comes reading recordReads root past (.enter opening))
    (hstack : (run recordReads {} past).stack.map Frame.bare = frames)
    (hinside : ∀ top, (run recordReads {} (past ++ [.enter opening])).stack.map Frame.bare =
        top :: frames →
      top = frameOf opening (run recordReads {} past).findings.components.length
        (run recordReads {} past).stack.head? →
      Unfolds reading recordReads root (past ++ [.enter opening]) inside ∧
        (run recordReads {} (past ++ [.enter opening] ++ inside)).stack.map Frame.bare =
          top :: frames) :
    Unfolds reading recordReads root past (.enter opening :: (inside ++ [.leave])) ∧
      (run recordReads {} (past ++ .enter opening :: (inside ++ [.leave]))).stack.map Frame.bare =
        frames := by
  obtain ⟨hunfolds, hafter⟩ := hinside _ (by rw [run_concat, bare_stack_enter, hstack]) rfl
  refine ⟨.cons henter (hunfolds.append (.cons .closes (.nil _))), ?_⟩
  have hsplit : past ++ .enter opening :: (inside ++ [.leave]) =
      past ++ [.enter opening] ++ inside ++ [.leave] := by simp
  rw [hsplit, run_concat]
  change ((run recordReads {} (past ++ [.enter opening] ++ inside)).stack.tail).map Frame.bare = _
  rw [List.map_tail, hafter, List.tail_cons]

/-- What is met inside a component unfolds, and leaves the frames as they are. -/
theorem unfolds_sighted {definition : Node} {scope : Scope} {events : List Event}
    (h : Sighted reading definition scope events) {top : Frame} {below : List Frame}
    (hstack : (run recordReads {} past).stack.map Frame.bare = top :: below)
    (hscope : top.scope = scope)
    (hopened : OpenedAt reading recordReads past top.component definition)
    (hroot : definition ∈ root.preorder) :
    Unfolds reading recordReads root past events ∧
      (run recordReads {} (past ++ events)).stack.map Frame.bare = top :: below := by
  induction h generalizing past top below with
  | nil => exact ⟨.nil past, by simpa using hstack⟩
  | @single definition node scope event rest hnode hevent _ ih =>
    obtain ⟨frame, hframe, rfl⟩ := exists_head? hstack
    have hnext : (run recordReads {} (past ++ [event])).stack.map Frame.bare =
        frame.bare :: below := by
      rw [run_concat, bare_stack_step hevent, hstack]
    obtain ⟨hrest, hafter⟩ := ih hnext hscope (hopened.mono (List.prefix_append _ _)) hroot
    rw [List.append_assoc] at hafter
    exact ⟨.cons (.met hframe hopened hnode hevent) hrest, hafter⟩
  | @component definition part scope inside rest hpart hopens _ _ ihinside ihrest =>
    obtain ⟨frame, hframe, rfl⟩ := exists_head? hstack
    obtain rfl : frame.scope = scope := hscope
    have henter : Comes reading recordReads root past (.enter (openingOf reading .empty part)) :=
      .below hframe (root.mem_preorder_trans hroot hpart) hopens
    obtain ⟨hcomponent, hclosed⟩ := unfolds_component inside henter hstack (by
      rintro top htop rfl
      exact ihinside htop (by rw [hframe]; rfl) ⟨past, .empty, List.prefix_rfl, rfl⟩
        (root.mem_preorder_trans hroot hpart))
    obtain ⟨hrest, hafter⟩ := ihrest hclosed rfl (hopened.mono (List.prefix_append _ _)) hroot
    have hsplit : Event.enter (openingOf reading .empty part) :: (inside ++ .leave :: rest) =
        .enter (openingOf reading .empty part) :: (inside ++ [.leave]) ++ rest := by simp
    rw [hsplit]
    refine ⟨hcomponent.append hrest, ?_⟩
    rwa [List.append_assoc] at hafter

/-- A statement at top level unfolds, and leaves nothing open. -/
theorem unfolds_statement (gaps : Gaps) {node : Node} (hnode : node ∈ root.preorder)
    (hstack : (run recordReads {} past).stack = []) :
    Unfolds reading recordReads root past (component reading gaps node) ∧
      (run recordReads {} (past ++ component reading gaps node)).stack = [] := by
  obtain ⟨inside, heq, hinside⟩ := Outline.component_eq_sighted reading gaps node none
  have hbare : (run recordReads {} past).stack.map Frame.bare = [] := by rw [hstack]; rfl
  obtain ⟨hunfolds, hafter⟩ := unfolds_component inside (.atTop hstack) hbare (by
    rintro top htop rfl
    exact unfolds_sighted hinside htop (by rw [hstack]; rfl)
      ⟨past, gaps, List.prefix_rfl, rfl⟩ hnode)
  rw [heq]
  exact ⟨hunfolds, List.map_eq_nil_iff.1 hafter⟩

theorem unfolds_statements {statements : List Node}
    (hstatements : ∀ statement ∈ statements, statement ∈ root.preorder) (cursor : Nat)
    (hstack : (run recordReads {} past).stack = []) :
    Unfolds reading recordReads root past (statementEvents reading cursor statements) := by
  induction statements generalizing past cursor with
  | nil => exact .nil past
  | cons statement rest ih =>
    obtain ⟨hstatement, hrest⟩ := List.forall_mem_cons.1 hstatements
    cases rest with
    | nil => exact (unfolds_statement _ hstatement hstack).1
    | cons next rest =>
      obtain ⟨hunfolds, hafter⟩ := unfolds_statement
        ⟨Text.slice? reading.source cursor statement.start, some ""⟩ hstatement hstack
      exact hunfolds.append (ih hrest statement.stop hafter)

/-- The events of a file unfold. -/
theorem unfolds_moduleEvents (reading : Reading) (recordReads : Bool) (root : Node) :
    Unfolds reading recordReads root [] (moduleEvents reading root) := by
  have hstatements : ∀ statement ∈ root.namedChildren, statement ∈ root.preorder :=
    fun statement hstatement => Node.mem_preorder_of_child
      (Node.mem_children_of_mem_namedChildren hstatement) statement.mem_preorder_self
  unfold moduleEvents
  split
  · split
    · exact .nil []
    · exact .cons (.atTop rfl) (.cons .closes (.nil _))
  · exact unfolds_statements hstatements 0 rfl

end Recorder

/-- Functions and methods. -/
def ComponentKind.isFunction : ComponentKind → Bool
  | .function | .method => true
  | _ => false

/-- Where a component is a definition, stands at top level or in the body of a class, its
namespace is that of a function exactly if it is one, and that of the module only if nothing is
around it. -/
theorem Outline.Form.fits {form : Form} {enclosing : Option Scope}
    (h : form = .function ∨ form = .classDef ∨ ∀ scope ∈ enclosing, scope = .classBody) :
    (form.scope enclosing = .functionBody ↔ (form.kind enclosing).isFunction) ∧
      (form.scope enclosing = .moduleBody →
        enclosing = none ∧ (form.kind enclosing).isNamedDefinition = false) := by
  cases form with
  | function =>
    by_cases hclass : enclosing = some .classBody
    · simp [Form.scope, Form.kind, hclass, ComponentKind.isFunction]
    · simp [Form.scope, Form.kind, hclass, ComponentKind.isFunction]
  | classDef => simp [Form.scope, Form.kind, ComponentKind.isFunction]
  | _ =>
    have hclass : ∀ scope ∈ enclosing, scope = .classBody := by simpa using h
    cases enclosing with
    | none =>
      simp [Form.scope, Form.kind, ComponentKind.isFunction, ComponentKind.isNamedDefinition]
    | some scope =>
      obtain rfl := hclass scope rfl
      simp [Form.scope, Form.kind, ComponentKind.isFunction]

/-- The namespace of a frame is what its component says. Outside of definitions components stand at
top level only. -/
structure Frame.Fits (frame : Frame) (component : Component) : Prop where
  function : frame.scope = .functionBody ↔ component.kind.isFunction
  module : frame.scope = .moduleBody →
    component.parent = none ∧ component.kind.isNamedDefinition = false

namespace Recorder

variable {reading : Reading} {recordReads : Bool} {root : Node} {past : List Event}

theorem Comes.writes {event : Event} (h : Comes reading recordReads root past event) :
    event.Writes := by
  cases h with
  | met _ _ _ hevent => exact hevent.writes
  | atTop | below | closes => trivial

/-- What neither opens nor closes a component is met inside one. -/
theorem Comes.exists_met {event : Event} (h : Comes reading recordReads root past event)
    (hplain : event.isPlain) :
    ∃ frame definition node, (run recordReads {} past).stack.head? = some frame ∧
      OpenedAt reading recordReads past frame.component definition ∧
      node ∈ definition.preorder ∧ event.IsMetAt reading node := by
  cases h with
  | met hframe hopened hnode hevent => exact ⟨_, _, _, hframe, hopened, hnode, hevent⟩
  | atTop | below | closes => exact absurd hplain Bool.false_ne_true

/-- What opens is a definition, or stands at top level or in the body of a class. -/
theorem Comes.enter {opening : Opening}
    (h : Comes reading recordReads root past (.enter opening))
    (hdecorates : ∀ node ∈ root.preorder, DecoratesDefinition node) :
    opening.form = .function ∨ opening.form = .classDef ∨
      ∀ top ∈ (run recordReads {} past).stack.head?, top.scope = .classBody := by
  cases h with
  | met _ _ _ hevent => exact hevent.elim
  | atTop hstack => exact .inr (.inr (by simp [hstack]))
  | below hframe hpart hopens =>
    rcases hopens with hdefinition | hclass
    · exact (Outline.formOf_of_isDefinition hdefinition (hdecorates _ hpart)).imp_right .inl
    · refine .inr (.inr fun top htop => ?_)
      obtain rfl := Option.some.inj (hframe.symm.trans htop)
      exact hclass

theorem fits_frameOf {opening : Opening} {top : Option Frame} (position : Nat)
    (h : opening.form = .function ∨ opening.form = .classDef ∨
      ∀ frame ∈ top, frame.scope = .classBody) :
    (frameOf opening position top).Fits (componentOf opening top) := by
  have hform : opening.form = .function ∨ opening.form = .classDef ∨
      ∀ scope ∈ top.map (·.scope), scope = .classBody := by simpa using h
  obtain ⟨hfunction, hmodule⟩ := Outline.Form.fits hform
  refine ⟨hfunction, fun hscope => ?_⟩
  obtain ⟨htop, hnamed⟩ := hmodule hscope
  exact ⟨by simpa [componentOf] using htop, hnamed⟩

/-- Every frame has a component that it fits. -/
theorem exists_fits {events : List Event} (h : Unfolds reading recordReads root [] events)
    (hdecorates : ∀ node ∈ root.preorder, DecoratesDefinition node) :
    ∀ frame ∈ (run recordReads {} events).stack, ∃ component,
      (run recordReads {} events).findings.components[frame.component]? = some component ∧
        frame.Fits component := by
  refine h.keeps (P := fun past => ∀ frame ∈ (run recordReads {} past).stack, ∃ component,
    (run recordReads {} past).findings.components[frame.component]? = some component ∧
      frame.Fits component) (by simp [run]) ?_
  intro past event hpast hcomes frame hframe
  rw [run_concat, step_eq] at hframe ⊢
  have hkept {position : Nat} {component : Component}
      (hcomponent : (run recordReads {} past).findings.components[position]? = some component) :
      ((run recordReads {} past).findings ++
        increment recordReads (run recordReads {} past).stack.head? event).components[position]? =
          some component := by
    rw [Findings.append_def, Findings.append, List.getElem?_append_left
      (List.getElem?_eq_some_iff.1 hcomponent).1]
    exact hcomponent
  rcases mem_following hframe with hold | ⟨top, htop, rfl⟩ | ⟨opening, rfl, rfl⟩
  · obtain ⟨component, hcomponent, hfits⟩ := hpast frame hold
    exact ⟨component, hkept hcomponent, hfits⟩
  · obtain ⟨component, hcomponent, hfits⟩ := hpast top (List.mem_of_mem_head? htop)
    refine ⟨component, hkept (by rwa [Frame.component_next]), ?_, ?_⟩
    · rw [Frame.scope_next]
      exact hfits.function
    · rw [Frame.scope_next]
      exact hfits.module
  · refine ⟨_, ?_, fits_frameOf _ (hcomes.enter hdecorates)⟩
    simp [Findings.append_def, Findings.append, increment, frameOf]

end Recorder

end SourceLedger
