import SourceLedger.Proofs.Increment
import SourceLedger.Proofs.Layers

/-!
# Levels of names

Every use of a name is written down with the number of definitions around it. A frame carries this
number from the component around it to the component that it stands for, so that the number can be
read off the components afterwards: it counts the functions, methods and classes among the owner of
the use and all components around the owner.

## Main definitions

* `enclosing` lists a component and those around it.
* `Recorder.IsLeveled` says that levels, of frames and of uses, count definitions.

## Main statements

* `Recorder.IsLeveled.step` and `Recorder.IsLeveled.run` keep the levels along a run.
* `Recorder.stack_run_moduleEvents` closes what the events of a file open.
* `Extraction.staged_wellFormed` collects what holds before names are given.
-/

namespace SourceLedger

open Outline (Event Opening Reading component moduleEvents statementEvents)
open Syntax (Node)

/-- The component at a position and those around it, innermost first. A parent stands before its
children. -/
def enclosing (components : List Component) (position : Nat) : List Component :=
  match components[position]? with
  | none => []
  | some component =>
    match component.parent with
    | none => [component]
    | some parent =>
      if _hbefore : parent < position then component :: enclosing components parent
      else [component]
termination_by position

/-- The number of functions, methods and classes among a component and those around it. -/
def levelOf (components : List Component) (position : Nat) : Nat :=
  (enclosing components position).countP (·.kind.isNamedDefinition)

section Enclosing

variable {components : List Component} {position : Nat}

/-- More components behind a component are not around it. -/
theorem enclosing_append (h : position < components.length) (more : List Component) :
    enclosing (components ++ more) position = enclosing components position := by
  induction position using Nat.strongRecOn with
  | ind position ih =>
    rw [enclosing, enclosing, List.getElem?_append_left h, List.getElem?_eq_getElem h]
    cases habove : components[position].parent with
    | none => simp only [habove]
    | some parent =>
      by_cases hbefore : parent < position
      · simp only [habove, dif_pos hbefore, ih parent hbefore (Nat.lt_trans hbefore h)]
      · simp only [habove, dif_neg hbefore]

theorem levelOf_append (h : position < components.length) (more : List Component) :
    levelOf (components ++ more) position = levelOf components position := by
  rw [levelOf, enclosing_append h, levelOf]

/-- Around a component that comes last are those around its parent. -/
theorem enclosing_concat (added : Component)
    (hparent : ∀ parent ∈ added.parent, parent < components.length) :
    enclosing (components ++ [added]) components.length =
      added :: added.parent.elim [] (enclosing components) := by
  rw [enclosing, List.getElem?_concat_length]
  cases habove : added.parent with
  | none => simp only [habove, Option.elim_none]
  | some parent =>
    have hlt := hparent parent habove
    simp only [habove, dif_pos hlt, enclosing_append hlt, Option.elim_some]

end Enclosing

/-- A function is a named definition inside a class, too. -/
theorem Outline.Form.isNamedDefinition_kind (form : Outline.Form) (enclosing : Option Scope) :
    (form.kind enclosing).isNamedDefinition = form.isNamedDefinition := by
  cases form with
  | function =>
    by_cases hclass : enclosing = some .classBody
    · simp [kind, hclass, ComponentKind.isNamedDefinition, isNamedDefinition]
    · simp [kind, hclass, ComponentKind.isNamedDefinition, isNamedDefinition]
  | _ => rfl

/-- A use of a name has the level of the frame in which it is written down. -/
theorem Frame.level_of_symbol? {recordReads : Bool} {frame : Frame} {event : Event}
    {symbol : SymbolUse} (h : frame.symbol? recordReads event = some symbol) :
    symbol.level = frame.level := by
  cases event with
  | parameter | store =>
    obtain rfl := Option.some.inj h
    rfl
  | mention name line =>
    obtain ⟨_, hsome⟩ := Option.ite_none_right_eq_some.1 h
    obtain ⟨scope, _, rfl⟩ := Option.map_eq_some_iff.1 hsome
    rfl
  | _ =>
    simp only [symbol?] at h
    obtain ⟨binding, _, rfl⟩ := Option.map_eq_some_iff.1 h
    rfl

@[simp]
theorem Frame.level_next (frame : Frame) (event : Event) :
    (frame.next event).level = frame.level := by
  have hbare := congrArg Frame.level (frame.bare_next event)
  exact hbare

namespace Recorder

/-- The levels of what is open and of what was written down count the definitions around. -/
structure IsLeveled (recorder : Recorder) : Prop where
  frames : ∀ frame ∈ recorder.stack,
    frame.level = levelOf recorder.findings.components frame.component
  symbols : ∀ symbol ∈ recorder.findings.symbols,
    symbol.fact.level = levelOf recorder.findings.components symbol.owner

theorem isLeveled_empty : IsLeveled {} := by
  constructor <;> simp

/-- The frame of a component that opens counts one more than the frame below it, if the component
is a definition. -/
theorem levelOf_componentOf {components : List Component} (opening : Opening)
    {parent : Option Frame}
    (hparent : ∀ frame ∈ parent, frame.component < components.length ∧
      frame.level = levelOf components frame.component) :
    levelOf (components ++ [componentOf opening parent]) components.length =
      (frameOf opening components.length parent).level := by
  have hkind : (componentOf opening parent).kind.isNamedDefinition =
      opening.form.isNamedDefinition := opening.form.isNamedDefinition_kind _
  rw [levelOf, enclosing_concat, List.countP_cons, hkind]
  · cases parent with
    | none => simp [componentOf, frameOf]
    | some frame =>
      have hlevel := (hparent frame rfl).2
      simp [componentOf, frameOf, hlevel, levelOf]
  · intro above habove
    obtain ⟨frame, hframe, rfl⟩ := Option.map_eq_some_iff.1 habove
    exact (hparent frame hframe).1

/-- An event keeps the levels. -/
theorem IsLeveled.step {recorder : Recorder} (h : recorder.IsLeveled) (hsound : recorder.IsSound)
    (recordReads : Bool) (event : Event) : (recorder.step recordReads event).IsLeveled := by
  rw [step_eq]
  have hkept {position : Nat} (hposition : position < recorder.findings.components.length) :
      levelOf (recorder.findings ++ increment recordReads recorder.stack.head? event).components
        position = levelOf recorder.findings.components position :=
    levelOf_append hposition _
  have hopen {frame : Frame} (hframe : frame ∈ recorder.stack.head?) :
      frame.component < recorder.findings.components.length ∧
        frame.level = levelOf recorder.findings.components frame.component :=
    ⟨hsound.frames frame (List.mem_of_mem_head? hframe),
      h.frames frame (List.mem_of_mem_head? hframe)⟩
  constructor
  · intro frame hframe
    obtain hold | ⟨top, htop, rfl⟩ | ⟨opening, rfl, rfl⟩ := mem_following hframe
    · exact (h.frames frame hold).trans (hkept (hsound.frames frame hold)).symm
    · obtain ⟨hlt, hlevel⟩ := hopen htop
      rw [Frame.level_next, Frame.component_next, hlevel]
      exact (hkept hlt).symm
    · exact (levelOf_componentOf opening fun frame hframe => hopen hframe).symm
  · intro symbol hsymbol
    rcases List.mem_append.1 hsymbol with hold | hnew
    · exact (h.symbols symbol hold).trans (hkept (hsound.symbols symbol hold)).symm
    · obtain ⟨frame, hframe, hnoted⟩ := List.mem_flatMap.1 hnew
      obtain ⟨fact, hfact, rfl⟩ := List.mem_map.1 hnoted
      obtain ⟨hlt, hlevel⟩ := hopen (Option.mem_toList.1 hframe)
      rw [Frame.level_of_symbol? (Option.mem_toList.1 hfact), hlevel]
      exact (hkept hlt).symm

/-- Events, in whatever order, keep the levels. -/
theorem IsLeveled.run {recorder : Recorder} (h : recorder.IsLeveled) (hsound : recorder.IsSound)
    (recordReads : Bool) (events : List Event) : (recorder.run recordReads events).IsLeveled := by
  induction events generalizing recorder with
  | nil => exact h
  | cons event rest ih => exact ih (h.step hsound recordReads event) (hsound.step recordReads event)

/-- The statements of a file close what they open. -/
theorem stack_run_statements {recorder : Recorder} (h : recorder.stack = []) (recordReads : Bool)
    (reading : Reading) (cursor : Nat) (statements : List Node) :
    (recorder.run recordReads (statementEvents reading cursor statements)).stack = [] := by
  fun_induction statementEvents reading cursor statements generalizing recorder with
  | case1 => exact h
  | case2 cursor last => exact (run_component h recordReads reading _ last).1
  | case3 cursor statement rest _ ih =>
    rw [run_append]
    exact ih (run_component h recordReads reading _ statement).1

/-- Nothing is open behind the events of a file. -/
theorem stack_run_moduleEvents (recordReads : Bool) (reading : Reading) (root : Node) :
    (run recordReads {} (moduleEvents reading root)).stack = [] := by
  unfold moduleEvents
  split
  · split
    · rfl
    · rfl
  · exact stack_run_statements rfl recordReads reading 0 _

end Recorder

namespace Extraction

/-- Before names are given an extraction is well formed already. Parents stand before their
children, which lie one level deeper, and every fact belongs to a component that is there. The
decorators of each component are in the order of their positions. The level of a use of a name
counts the definitions among the component that it belongs to and those around it. Nothing is left
open. -/
theorem staged_wellFormed (path source : String) (tree : Syntax.Tree) (options : ExtractOptions) :
    let extraction := staged path source tree options.recordReads
    extraction.IsArena ∧
      (∀ component ∈ extraction.components, component.parent = none → component.depth = 0) ∧
      (∀ component ∈ extraction.components, ∀ parent, component.parent = some parent →
        ∃ outer, extraction.components[parent]? = some outer ∧
          component.depth = outer.depth + 1) ∧
      Recorder.DecoratorsOrdered extraction.decorators ∧
      (∀ symbol ∈ extraction.symbols, symbol.fact.level =
        (enclosing extraction.components symbol.owner).countP (·.kind.isNamedDefinition)) ∧
      (Recorder.run options.recordReads {}
        (moduleEvents ⟨source, tree.lines⟩ tree.root)).stack = [] := by
  intro extraction
  have hlayered : AreLayered extraction.components :=
    (Recorder.isLayered_empty.run options.recordReads _).toAreLayered
  have hleveled := Recorder.isLeveled_empty.run Recorder.isSound_empty options.recordReads
    (moduleEvents ⟨source, tree.lines⟩ tree.root)
  exact ⟨isArena_staged, hlayered.top, hlayered.below, decoratorsOrdered_staged, hleveled.symbols,
    Recorder.stack_run_moduleEvents options.recordReads _ tree.root⟩

end Extraction

end SourceLedger
