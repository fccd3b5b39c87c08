import SourceLedger.Proofs.Arena

/-!
# Layers of components

The components that are open form a chain, each one level below the next one. While a component is
open, all that opens lies deeper, so it is the last one of its level. What opens below it next has
it as its parent. Hence the components of one level stand in the order of their parents.

## Main definitions

* `AreLayered` says how deep components lie, and in which order those of one level stand.
* `Recorder.IsLayered` adds what is true of the frames that are open.

## Main statements

* `Recorder.IsLayered.step` and `Recorder.IsLayered.run` keep the layers along a run.
* `areLayered_extract` finds them in every extraction.
-/

namespace SourceLedger

open Outline (Event Opening)

/-- A component lies one level below its parent, and those without parent lie at level zero. Of two
components of one level, the parent of the first does not stand behind that of the second. -/
structure AreLayered (components : List Component) : Prop where
  top : ∀ component ∈ components, component.parent = none → component.depth = 0
  below : ∀ component ∈ components, ∀ parent, component.parent = some parent →
    ∃ outer, components[parent]? = some outer ∧ component.depth = outer.depth + 1
  ordered : components.Pairwise fun first second => first.depth = second.depth →
    ∀ parent, first.parent = some parent → ∀ other, second.parent = some other → parent ≤ other

/-- Layers do not depend on names. -/
theorem areLayered_map_unnamed {components : List Component} :
    AreLayered (components.map Component.unnamed) ↔ AreLayered components := by
  have hbelow (component : Component) : (∀ parent, component.parent = some parent →
      ∃ outer, (components.map Component.unnamed)[parent]? = some outer ∧
        component.depth = outer.depth + 1) ↔
      ∀ parent, component.parent = some parent →
        ∃ outer, components[parent]? = some outer ∧ component.depth = outer.depth + 1 := by
    refine forall_congr' fun parent => forall_congr' fun _ => ?_
    rw [List.getElem?_map]
    cases components[parent]? with
    | none => simp
    | some outer => simp [Component.unnamed]
  constructor
  · rintro ⟨htop, hall, hordered⟩
    rw [List.forall_mem_map] at htop hall
    exact ⟨htop, fun component hcomponent => (hbelow component).1 (hall component hcomponent),
      List.pairwise_map.1 hordered⟩
  · rintro ⟨htop, hall, hordered⟩
    refine ⟨List.forall_mem_map.2 htop, List.forall_mem_map.2 fun component hcomponent => ?_,
      List.pairwise_map.2 hordered⟩
    exact (hbelow component).2 (hall component hcomponent)

namespace Recorder

/-- The findings are layered, inner frames lie deeper than outer ones, and what stands behind the
component of an open frame lies deeper than that. -/
structure IsLayered (recorder : Recorder) : Prop extends
    AreLayered recorder.findings.components where
  frames : ∀ frame ∈ recorder.stack, ∃ component,
    recorder.findings.components[frame.component]? = some component ∧
      component.depth = frame.depth
  chain : recorder.stack.Pairwise fun inner outer => outer.depth < inner.depth
  last : ∀ frame ∈ recorder.stack, ∀ (position : Nat) (component : Component),
    recorder.findings.components[position]? = some component →
      frame.component < position → frame.depth < component.depth

theorem isLayered_empty : IsLayered {} := by
  refine { top := ?_, below := ?_, ordered := .nil, frames := ?_, chain := .nil, last := ?_ }
  all_goals simp

/-- Layers do not depend on the names that are bound. -/
theorem IsLayered.congr {before after : Recorder} (h : before.IsLayered)
    (hcomponents : after.findings.components = before.findings.components)
    (hstack : after.stack.map Frame.bare = before.stack.map Frame.bare) : after.IsLayered := by
  have hframe : ∀ frame ∈ after.stack, ∃ old ∈ before.stack,
      old.component = frame.component ∧ old.depth = frame.depth := by
    intro frame hframe
    have hbare : frame.bare ∈ before.stack.map Frame.bare := hstack ▸ List.mem_map_of_mem hframe
    obtain ⟨old, hold, heq⟩ := List.mem_map.1 hbare
    have hcomponent : old.component = frame.component := by
      rw [← Frame.bare_component, heq, Frame.bare_component]
    have hdepth : old.bare.depth = frame.bare.depth := by rw [heq]
    exact ⟨old, hold, hcomponent, hdepth⟩
  refine { top := ?_, below := ?_, ordered := ?_, frames := ?_, chain := ?_, last := ?_ }
  · rw [hcomponents]
    exact h.top
  · rw [hcomponents]
    exact h.below
  · rw [hcomponents]
    exact h.ordered
  · intro frame hmem
    obtain ⟨old, hold, hcomponent, hdepth⟩ := hframe frame hmem
    rw [hcomponents, ← hcomponent, ← hdepth]
    exact h.frames old hold
  · have hdepths : after.stack.map Frame.depth = before.stack.map Frame.depth := by
      have hboth := congrArg (List.map Frame.depth) hstack
      rwa [List.map_map, List.map_map] at hboth
    have hchain : (after.stack.map Frame.depth).Pairwise fun inner outer => outer < inner := by
      rw [hdepths]
      exact List.pairwise_map.2 h.chain
    exact List.pairwise_map.1 hchain
  · intro frame hmem position component hat hlt
    obtain ⟨old, hold, hcomponent, hdepth⟩ := hframe frame hmem
    rw [hcomponents] at hat
    rw [← hdepth]
    exact h.last old hold position component hat (hcomponent ▸ hlt)

/-- A component that closes leaves the layers as they are. -/
theorem IsLayered.leave {recorder : Recorder} (h : recorder.IsLayered) :
    IsLayered { recorder with stack := recorder.stack.tail } where
  toAreLayered := h.toAreLayered
  frames frame hframe := h.frames frame (List.mem_of_mem_tail hframe)
  chain := h.chain.tail
  last frame hframe := h.last frame (List.mem_of_mem_tail hframe)

/-- The frame of a component that opens lies below all that are open. -/
theorem IsLayered.depth_lt {recorder : Recorder} (h : recorder.IsLayered) :
    ∀ frame ∈ recorder.stack, frame.depth < recorder.stack.head?.elim 0 (·.depth + 1) := by
  intro frame hframe
  cases hstack : recorder.stack with
  | nil => simp [hstack] at hframe
  | cons top outer =>
    have hchain := h.chain
    rw [hstack] at hframe hchain
    rcases List.mem_cons.1 hframe with rfl | hframe
    · exact Nat.lt_succ_self _
    · exact Nat.lt_succ_of_lt ((List.pairwise_cons.1 hchain).1 frame hframe)

/-- A component that opens below the innermost one is the last one of its layer. -/
theorem IsLayered.push {recorder : Recorder} (h : recorder.IsLayered) (opening : Opening)
    {parent : Option Frame} (hbare : parent.map Frame.bare = recorder.stack.head?.map Frame.bare) :
    (recorder.push opening parent).IsLayered := by
  let added := componentOf opening parent
  have hcomponents : (recorder.push opening parent).findings.components =
      recorder.findings.components ++ [added] := rfl
  have hdepth : added.depth = recorder.stack.head?.elim 0 (·.depth + 1) := by
    have hsame := congrArg (Option.elim · 0 (·.depth + 1)) hbare
    rwa [Option.elim_map, Option.elim_map] at hsame
  have hparent : added.parent = recorder.stack.head?.map (·.component) := by
    have hsame := congrArg (Option.map (·.component)) hbare
    rwa [Option.map_map, Option.map_map] at hsame
  have hkept {position : Nat} {component : Component}
      (hat : recorder.findings.components[position]? = some component) :
      (recorder.findings.components ++ [added])[position]? = some component := by
    rw [List.getElem?_append_left (List.getElem?_eq_some_iff.1 hat).1, hat]
  refine { top := ?_, below := ?_, ordered := ?_, frames := ?_, chain := ?_, last := ?_ }
  · rw [hcomponents, List.forall_mem_append, List.forall_mem_singleton]
    refine ⟨h.top, fun hnone => ?_⟩
    rw [hparent, Option.map_eq_none_iff] at hnone
    rw [hdepth, hnone]
    rfl
  · rw [hcomponents, List.forall_mem_append, List.forall_mem_singleton]
    constructor
    · intro component hcomponent above habove
      obtain ⟨outer, houter, hlevel⟩ := h.below component hcomponent above habove
      exact ⟨outer, hkept houter, hlevel⟩
    · intro above habove
      obtain ⟨top, htop, rfl⟩ := Option.map_eq_some_iff.1 (hparent.symm.trans habove)
      obtain ⟨outer, houter, hlevel⟩ := h.frames top (List.mem_of_mem_head? htop)
      refine ⟨outer, hkept houter, ?_⟩
      rw [hdepth, htop, hlevel]
      rfl
  · rw [hcomponents]
    refine List.pairwise_append.2 ⟨h.ordered, List.pairwise_singleton .., ?_⟩
    intro first hfirst second hsecond hsame above habove other hother
    obtain rfl := List.mem_singleton.1 hsecond
    obtain ⟨top, htop, rfl⟩ := Option.map_eq_some_iff.1 (hparent.symm.trans hother)
    obtain ⟨outer, houter, hlevel⟩ := h.below first hfirst above habove
    -- Were the parent of the first behind the open component, it would lie deeper than that.
    refine Nat.le_of_not_lt fun hlt => ?_
    have hdeeper := h.last top (List.mem_of_mem_head? htop) above outer houter hlt
    rw [hdepth, htop, Option.elim_some, hlevel] at hsame
    omega
  · intro frame hframe
    rcases List.mem_cons.1 hframe with rfl | hframe
    · exact ⟨added, by simp [Recorder.push, frameOf, added], rfl⟩
    · obtain ⟨component, hat, hlevel⟩ := h.frames frame hframe
      exact ⟨component, hkept hat, hlevel⟩
  · refine List.pairwise_cons.2 ⟨fun frame hframe => ?_, h.chain⟩
    exact Nat.lt_of_lt_of_eq (h.depth_lt frame hframe) hdepth.symm
  · intro frame hframe position component hat hlt
    rw [hcomponents] at hat
    have hlength : position < (recorder.findings.components ++ [added]).length :=
      (List.getElem?_eq_some_iff.1 hat).1
    rw [List.length_append, List.length_singleton] at hlength
    rcases List.mem_cons.1 hframe with rfl | hframe
    · simp only [frameOf] at hlt
      omega
    · by_cases hold : position < recorder.findings.components.length
      · rw [List.getElem?_append_left hold] at hat
        exact h.last frame hframe position component hat hlt
      · rw [List.getElem?_append_right (by omega), List.getElem?_singleton] at hat
        split at hat
        · obtain rfl := Option.some.inj hat
          exact Nat.lt_of_lt_of_eq (h.depth_lt frame hframe) hdepth.symm
        · simp at hat

/-- An event keeps the layers. -/
theorem IsLayered.step {recorder : Recorder} (h : recorder.IsLayered) (recordReads : Bool)
    (event : Event) : (recorder.step recordReads event).IsLayered := by
  by_cases hplain : event.isPlain
  · have hnotes := recorder.notes_step recordReads hplain
    exact h.congr hnotes.components hnotes.stack
  cases event with
  | enter opening =>
    obtain ⟨noted, hnoted, heq⟩ := recorder.openComponent_eq opening
    have hlayers := h.congr hnoted.components hnoted.stack
    have hhead := congrArg List.head? hnoted.stack
    rw [List.head?_map, List.head?_map] at hhead
    rw [Recorder.step, heq]
    exact hlayers.push opening hhead.symm
  | leave => exact h.leave
  | decorate decorator =>
    simp only [Recorder.step, addDecorator]
    split
    · exact h
    · exact h.congr rfl rfl
  | _ => exact absurd rfl hplain

theorem IsLayered.run {recorder : Recorder} (h : recorder.IsLayered) (recordReads : Bool)
    (events : List Event) : (recorder.run recordReads events).IsLayered := by
  induction events generalizing recorder with
  | nil => exact h
  | cons event rest ih => exact ih (h.step recordReads event)

end Recorder

/-- Every extraction is layered. -/
theorem areLayered_extract {path text : String} {tree : Syntax.Tree} {options : ExtractOptions}
    {extraction : Extraction} (h : extract path text tree options = .ok extraction) :
    AreLayered extraction.components := by
  rw [← areLayered_map_unnamed, (isTaken_extract h).components, areLayered_map_unnamed]
  exact (Recorder.isLayered_empty.run options.recordReads _).toAreLayered

end SourceLedger
