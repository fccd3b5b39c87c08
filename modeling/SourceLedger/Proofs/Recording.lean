import SourceLedger.Extraction.Recorder
import SourceLedger.Proofs.Nesting

/-!
# What recording leaves behind

A recorder that follows events keeps an arena: parents stand before their children and every fact
belongs to a component that is there. Along a nested stretch it comes back to the components that
were open before, everything it opens lies below them, and the decorators of each component have
increasing positions.

## Main definitions

* `Recorder.Notes` relates a recorder to one that has written down more facts about the component
  on top, and nothing else.
* `Findings.IsArena` says that parents stand first and facts have owners.

## Main statements

* `Recorder.notes_step` and `Recorder.openComponent_eq` say what one event does.
* `Recorder.IsSound.run` and `Recorder.extends_run` say what a run of events does.
-/

namespace SourceLedger

open Outline (Event Nested Opening Reading)

/-- The facts `after` are those before and further ones of one owner. -/
def Owned.Adds {α : Type} (owner : Option Nat) (before after : List (Owned α)) : Prop :=
  ∃ new, after = before ++ new ∧ ∀ fact ∈ new, some fact.owner = owner

/-- The owners of some facts are among the first `bound` components. -/
def Owned.Below {α : Type} (bound : Nat) (facts : List (Owned α)) : Prop :=
  ∀ fact ∈ facts, fact.owner < bound

theorem Owned.Below.mono {α : Type} {bound bound' : Nat} {facts : List (Owned α)}
    (h : Below bound facts) (hle : bound ≤ bound') : Below bound' facts :=
  fun fact hfact => Nat.lt_of_lt_of_le (h fact hfact) hle

namespace Owned.Adds

variable {α : Type} {owner : Option Nat} {xs ys zs : List (Owned α)}

theorem refl : Adds owner xs xs :=
  ⟨[], by simp, by simp⟩

theorem single {fact : Owned α} (h : some fact.owner = owner) : Adds owner xs (xs ++ [fact]) :=
  ⟨[fact], rfl, by simpa using h⟩

theorem trans (hx : Adds owner xs ys) (hy : Adds owner ys zs) : Adds owner xs zs := by
  obtain ⟨new, rfl, hnew⟩ := hx
  obtain ⟨more, rfl, hmore⟩ := hy
  refine ⟨new ++ more, List.append_assoc .., ?_⟩
  intro fact hfact
  rcases List.mem_append.1 hfact with hfact | hfact
  · exact hnew fact hfact
  · exact hmore fact hfact

/-- Facts of an owner below a bound keep owners below it. -/
theorem below {bound : Nat} (h : Adds owner xs ys) (hxs : Below bound xs)
    (howner : ∀ position, owner = some position → position < bound) : Below bound ys := by
  obtain ⟨new, rfl, hnew⟩ := h
  intro fact hfact
  rcases List.mem_append.1 hfact with hfact | hfact
  · exact hxs fact hfact
  · exact howner fact.owner (hnew fact hfact).symm

end Owned.Adds

/-- The frame without the names that are bound in it. -/
def Frame.bare (frame : Frame) : Frame :=
  { frame with parameters := [], locals := [], globals := [] }

@[simp]
theorem Frame.bare_component (frame : Frame) : frame.bare.component = frame.component :=
  rfl

namespace Recorder

/-- The component that is open innermost. -/
def current? (recorder : Recorder) : Option Nat :=
  recorder.stack.head?.map (·.component)

/-- More facts are known about the innermost component, and nothing else has changed. -/
structure Notes (before after : Recorder) : Prop where
  stack : after.stack.map Frame.bare = before.stack.map Frame.bare
  components : after.findings.components = before.findings.components
  missing : after.findings.missingSegments = before.findings.missingSegments
  decorators : after.findings.decorators = before.findings.decorators
  symbols : Owned.Adds before.current? before.findings.symbols after.findings.symbols
  calls : Owned.Adds before.current? before.findings.calls after.findings.calls
  imports : Owned.Adds before.current? before.findings.imports after.findings.imports
  globals : Owned.Adds before.current? before.findings.globals after.findings.globals

/-- Stacks of the same frames have the same component on top. -/
theorem current?_eq {before after : Recorder}
    (h : after.stack.map Frame.bare = before.stack.map Frame.bare) :
    after.current? = before.current? := by
  have hhead := congrArg (fun frames => frames.head?.map Frame.component) h
  simpa [current?, List.head?_map, Function.comp_def, Frame.bare] using hhead

namespace Notes

theorem refl (recorder : Recorder) : Notes recorder recorder :=
  ⟨rfl, rfl, rfl, rfl, .refl, .refl, .refl, .refl⟩

theorem trans {first second third : Recorder} (h : Notes first second)
    (h' : Notes second third) : Notes first third := by
  have hcurrent := current?_eq h.stack
  exact
    { stack := h'.stack.trans h.stack
      components := h'.components.trans h.components
      missing := h'.missing.trans h.missing
      decorators := h'.decorators.trans h.decorators
      symbols := h.symbols.trans (hcurrent ▸ h'.symbols)
      calls := h.calls.trans (hcurrent ▸ h'.calls)
      imports := h.imports.trans (hcurrent ▸ h'.imports)
      globals := h.globals.trans (hcurrent ▸ h'.globals) }

end Notes

section Steps

variable (recorder : Recorder)

/-- Writing down a use of a name notes it. -/
theorem notes_addSymbol {frame : Frame} (hframe : some frame.component = recorder.current?)
    (name : String) (scope : ScopeKind) (access : AccessKind) (typeText : Option String)
    (line : Nat) : Notes recorder (recorder.addSymbol frame name scope access typeText line) :=
  { Notes.refl recorder with symbols := .single hframe }

/-- New names in the innermost frame do not change which frames there are. -/
theorem notes_setTop {frame top : Frame} {below : List Frame}
    (hstack : recorder.stack = top :: below) (hbare : frame.bare = top.bare) :
    Notes recorder (recorder.setTop frame) :=
  { Notes.refl recorder with
    stack := by simp [setTop, hstack, hbare] }

/-- A name that is bound anew is noted and taken into the innermost frame. -/
theorem notes_setTop_addSymbol {frame top : Frame} {below : List Frame}
    (hstack : recorder.stack = top :: below) (hbare : frame.bare = top.bare) (name : String)
    (scope : ScopeKind) (access : AccessKind) (typeText : Option String) (line : Nat) :
    Notes recorder ((recorder.setTop frame).addSymbol frame name scope access typeText line) := by
  refine (recorder.notes_setTop hstack hbare).trans (notes_addSymbol _ ?_ ..)
  simp [current?, setTop]

theorem notes_bindName (name : String) (access : AccessKind) (typeText : Option String)
    (line : Nat) : Notes recorder (recorder.bindName name access typeText line) := by
  unfold bindName
  split
  · exact .refl recorder
  · rename_i top below hstack
    have htop : some top.component = recorder.current? := by simp [current?, hstack]
    split
    · exact recorder.notes_addSymbol htop ..
    · exact recorder.notes_addSymbol htop ..
    · split
      · exact { Notes.refl recorder with symbols := .single htop, globals := .single htop }
      · refine recorder.notes_setTop_addSymbol hstack ?_ ..
        split <;> rfl

theorem notes_bindParameter (name : String) (typeText : Option String) (line : Nat) :
    Notes recorder (recorder.bindParameter name typeText line) := by
  unfold bindParameter
  split
  · exact .refl recorder
  · rename_i top below hstack
    exact recorder.notes_setTop_addSymbol hstack (by rfl) ..

theorem notes_mentionName (name : String) (line : Nat) :
    Notes recorder (recorder.mentionName name line) := by
  unfold mentionName
  split
  · exact .refl recorder
  · rename_i top below hstack
    have htop : some top.component = recorder.current? := by simp [current?, hstack]
    split
    · split
      · exact recorder.notes_addSymbol htop ..
      · split
        · exact recorder.notes_addSymbol htop ..
        · exact .refl recorder
    · exact .refl recorder

theorem notes_addImport (record : ImportRecord) : Notes recorder (recorder.addImport record) := by
  unfold addImport
  split
  · exact .refl recorder
  · rename_i top below hstack
    have htop : some top.component = recorder.current? := by simp [current?, hstack]
    split
    · have hbind := recorder.notes_bindName (importedAs record) .write none record.line
      exact { hbind with imports := hbind.imports.trans (.single htop) }
    · exact { Notes.refl recorder with imports := .single htop }

/-- A plain event only notes facts about the innermost component. -/
theorem notes_step (recordReads : Bool) {event : Event} (h : event.isPlain) :
    Notes recorder (recorder.step recordReads event) := by
  have hstore {frame : Frame} {below : List Frame} (hstack : recorder.stack = frame :: below) :
      some frame.component = recorder.current? := by simp [current?, hstack]
  cases event with
  | enter | leave | decorate => simp [Event.isPlain] at h
  | parameter name typeText line => exact recorder.notes_bindParameter name typeText line
  | bind name access typeText line => exact recorder.notes_bindName name access typeText line
  | store place scope access typeText line =>
    simp only [step, storePlace]
    split
    · exact .refl recorder
    · rename_i hstack
      exact recorder.notes_addSymbol (hstore hstack) ..
  | mention name line =>
    simp only [step]
    split
    · exact recorder.notes_mentionName name line
    · exact .refl recorder
  | declareGlobal name =>
    simp only [step, declareGlobal]
    split
    · exact .refl recorder
    · rename_i hstack
      exact recorder.notes_setTop hstack rfl
  | declareNonlocal name =>
    simp only [step, declareNonlocal]
    split
    · exact .refl recorder
    · rename_i hstack
      exact recorder.notes_setTop hstack rfl
  | call site =>
    simp only [step, addCall]
    split
    · exact .refl recorder
    · rename_i hstack
      exact { Notes.refl recorder with calls := .single (hstore hstack) }
  | imports record => exact recorder.notes_addImport record

end Steps

/-- The recorder with a component opened below a parent. -/
def push (recorder : Recorder) (opening : Opening) (parent : Option Frame) : Recorder where
  findings :=
    { recorder.findings with
      components := recorder.findings.components ++ [componentOf opening parent]
      missingSegments := recorder.findings.missingSegments + missingIn opening }
  stack := frameOf opening recorder.findings.components.length parent :: recorder.stack

/-- A component that opens may first bind its name, which is a note, and is then put on top. -/
theorem openComponent_eq (recorder : Recorder) (opening : Opening) :
    ∃ noted, Notes recorder noted ∧
      recorder.openComponent opening = noted.push opening recorder.stack.head? := by
  by_cases h : opening.form.isNamedDefinition ∧
      recorder.stack.head?.map (·.scope) = some .functionBody
  · refine ⟨_, recorder.notes_bindName opening.name .write none opening.nameLine, ?_⟩
    simp only [openComponent, if_pos h, push]
  · refine ⟨recorder, .refl recorder, ?_⟩
    simp only [openComponent, if_neg h, push]

end Recorder

/-- Parents stand before their children, and every fact belongs to a component that is there. -/
structure Findings.IsArena (findings : Findings) : Prop where
  parents : ∀ (position : Nat) (component : Component),
    findings.components[position]? = some component →
      ∀ parent, component.parent = some parent → parent < position
  symbols : Owned.Below findings.components.length findings.symbols
  calls : Owned.Below findings.components.length findings.calls
  imports : Owned.Below findings.components.length findings.imports
  globals : Owned.Below findings.components.length findings.globals
  decorators : Owned.Below findings.components.length findings.decorators

namespace Recorder

/-- The findings are an arena, and what is open is part of it. -/
structure IsSound (recorder : Recorder) : Prop extends recorder.findings.IsArena where
  frames : ∀ frame ∈ recorder.stack, frame.component < recorder.findings.components.length

theorem isSound_empty : IsSound {} := by
  constructor
  · constructor <;> simp [Owned.Below]
  · simp

/-- The innermost component of a sound recorder is there. -/
theorem IsSound.current_lt {recorder : Recorder} (h : recorder.IsSound) {position : Nat}
    (hposition : recorder.current? = some position) :
    position < recorder.findings.components.length := by
  obtain ⟨frame, hframe, rfl⟩ := Option.map_eq_some_iff.1 hposition
  exact h.frames frame (List.mem_of_mem_head? hframe)

/-- Stacks of the same frames have the same components. -/
theorem component_lt_of_bare {before after : List Frame} {bound : Nat}
    (h : after.map Frame.bare = before.map Frame.bare)
    (hbefore : ∀ frame ∈ before, frame.component < bound) :
    ∀ frame ∈ after, frame.component < bound := by
  intro frame hframe
  have hbare : frame.bare ∈ before.map Frame.bare := h ▸ List.mem_map_of_mem hframe
  obtain ⟨old, hold, heq⟩ := List.mem_map.1 hbare
  have hcomponent : old.component = frame.component := by
    simpa using congrArg Frame.component heq
  exact hcomponent ▸ hbefore old hold

/-- Notes keep a recorder sound. -/
theorem Notes.isSound {before after : Recorder} (h : Notes before after)
    (hbefore : before.IsSound) : after.IsSound := by
  have hlength := congrArg List.length h.components
  have howner : ∀ position, before.current? = some position →
      position < before.findings.components.length := fun _ hposition =>
    hbefore.current_lt hposition
  refine { parents := ?_, frames := ?_, symbols := ?_, calls := ?_, imports := ?_, globals := ?_,
           decorators := ?_ }
  · rw [h.components]
    exact hbefore.parents
  · rw [hlength]
    exact h.symbols.below hbefore.symbols howner
  · rw [hlength]
    exact h.calls.below hbefore.calls howner
  · rw [hlength]
    exact h.imports.below hbefore.imports howner
  · rw [hlength]
    exact h.globals.below hbefore.globals howner
  · rw [hlength, h.decorators]
    exact hbefore.decorators
  · rw [hlength]
    exact component_lt_of_bare h.stack hbefore.frames

/-- Opening a component below the innermost one keeps a recorder sound. -/
theorem IsSound.push {recorder : Recorder} (h : recorder.IsSound) (opening : Opening)
    {parent : Option Frame} (hparent : parent.map (·.component) = recorder.current?) :
    (recorder.push opening parent).IsSound := by
  have hlength : (recorder.push opening parent).findings.components.length =
      recorder.findings.components.length + 1 := by simp [Recorder.push]
  refine { parents := ?_, frames := ?_, symbols := ?_, calls := ?_, imports := ?_, globals := ?_,
           decorators := ?_ }
  · intro position component hcomponent above habove
    simp only [Recorder.push, List.getElem?_append, List.getElem?_singleton] at hcomponent
    split at hcomponent
    · exact h.parents position component hcomponent above habove
    · split at hcomponent
      · obtain rfl := Option.some.inj hcomponent
        have habove_lt := h.current_lt (hparent.symm.trans habove)
        omega
      · simp at hcomponent
  · exact hlength ▸ h.symbols.mono (Nat.le_succ _)
  · exact hlength ▸ h.calls.mono (Nat.le_succ _)
  · exact hlength ▸ h.imports.mono (Nat.le_succ _)
  · exact hlength ▸ h.globals.mono (Nat.le_succ _)
  · exact hlength ▸ h.decorators.mono (Nat.le_succ _)
  · rw [hlength]
    intro frame hframe
    rcases List.mem_cons.1 hframe with rfl | hframe
    · exact Nat.lt_succ_self _
    · exact Nat.lt_succ_of_lt (h.frames frame hframe)

/-- Whatever the event, a recorder stays sound. -/
theorem IsSound.step {recorder : Recorder} (h : recorder.IsSound) (recordReads : Bool)
    (event : Event) : (recorder.step recordReads event).IsSound := by
  by_cases hplain : event.isPlain
  · exact (recorder.notes_step recordReads hplain).isSound h
  cases event with
  | enter opening =>
    obtain ⟨noted, hnoted, heq⟩ := recorder.openComponent_eq opening
    rw [Recorder.step, heq]
    exact (hnoted.isSound h).push opening (current?_eq hnoted.stack).symm
  | leave =>
    exact { h with frames := fun frame hframe => h.frames frame (List.mem_of_mem_tail hframe) }
  | decorate decorator =>
    simp only [Recorder.step, addDecorator]
    split
    · exact h
    · rename_i top below hstack
      have htop : top.component < recorder.findings.components.length :=
        h.frames top (by simp [hstack])
      refine { h with decorators := ?_ }
      exact fun fact hfact => (List.mem_append.1 hfact).elim (h.decorators fact) (by simp_all)
  | _ => exact absurd rfl hplain

/-- Events, in whatever order, leave an arena behind. -/
theorem IsSound.run {recorder : Recorder} (h : recorder.IsSound) (recordReads : Bool)
    (events : List Event) : (recorder.run recordReads events).IsSound := by
  induction events generalizing recorder with
  | nil => exact h
  | cons event rest ih => exact ih (h.step recordReads event)

/-- How many texts are missing at an event. -/
def missingAt : Event → Nat
  | .enter opening => missingIn opening
  | _ => 0

/-- How many texts are missing at some events. -/
def missingOver : List Event → Nat
  | [] => 0
  | event :: rest => missingAt event + missingOver rest

theorem missingOver_append (first second : List Event) :
    missingOver (first ++ second) = missingOver first + missingOver second := by
  induction first with
  | nil => simp [missingOver]
  | cons event rest ih => rw [List.cons_append, missingOver, missingOver, ih, Nat.add_assoc]

theorem missingSegments_step (recordReads : Bool) (recorder : Recorder) (event : Event) :
    (recorder.step recordReads event).findings.missingSegments =
      recorder.findings.missingSegments + missingAt event := by
  by_cases hplain : event.isPlain
  · rw [(recorder.notes_step recordReads hplain).missing]
    cases event <;> simp_all [missingAt, Event.isPlain]
  cases event with
  | enter opening =>
    obtain ⟨noted, hnoted, heq⟩ := recorder.openComponent_eq opening
    rw [step, heq, ← hnoted.missing]
    rfl
  | leave => rfl
  | decorate decorator =>
    simp only [step, addDecorator]
    split <;> rfl
  | _ => exact absurd rfl hplain

/-- The missing texts of a run are those of its openings. -/
theorem missingSegments_run (recordReads : Bool) (recorder : Recorder) (events : List Event) :
    (recorder.run recordReads events).findings.missingSegments =
      recorder.findings.missingSegments + missingOver events := by
  induction events generalizing recorder with
  | nil => rfl
  | cons event rest ih =>
    rw [run, List.foldl_cons, ← run, ih, missingSegments_step, missingOver, Nat.add_assoc]

/-- A run of two stretches is a run of the first and then of the second. -/
theorem run_append (recordReads : Bool) (recorder : Recorder) (first second : List Event) :
    recorder.run recordReads (first ++ second) =
      (recorder.run recordReads first).run recordReads second :=
  List.foldl_append

theorem run_cons (recordReads : Bool) (recorder : Recorder) (event : Event)
    (rest : List Event) :
    recorder.run recordReads (event :: rest) =
      (recorder.step recordReads event).run recordReads rest :=
  rfl

/-- The same components are open, and the new ones among all components lie below others. -/
structure Extends (before after : Recorder) : Prop where
  stack : after.stack.map Frame.bare = before.stack.map Frame.bare
  components : ∃ new, after.findings.components = before.findings.components ++ new ∧
    ∀ component ∈ new, component.parent.isSome

namespace Extends

theorem refl (recorder : Recorder) : Extends recorder recorder :=
  ⟨rfl, [], by simp, by simp⟩

theorem trans {first second third : Recorder} (h : Extends first second)
    (h' : Extends second third) : Extends first third := by
  obtain ⟨hstack, new, hnew, hparents⟩ := h
  obtain ⟨hstack', new', hnew', hparents'⟩ := h'
  refine ⟨hstack'.trans hstack, new ++ new', ?_, ?_⟩
  · rw [hnew', hnew, List.append_assoc]
  · intro component hcomponent
    exact (List.mem_append.1 hcomponent).elim (hparents component) (hparents' component)

/-- Something is open as long as it was before. -/
theorem stack_ne_nil {before after : Recorder} (h : Extends before after)
    (hbefore : before.stack ≠ []) : after.stack ≠ [] := by
  intro hafter
  have hmap := h.stack
  rw [hafter] at hmap
  exact hbefore (by simpa using hmap.symm)

end Extends

theorem Notes.extends {before after : Recorder} (h : Notes before after) :
    Extends before after :=
  ⟨h.stack, [], by simp [h.components], by simp⟩

@[simp]
theorem components_openComponent (recorder : Recorder) (opening : Opening) :
    (recorder.openComponent opening).findings.components =
      recorder.findings.components ++ [componentOf opening recorder.stack.head?] := by
  obtain ⟨noted, hnoted, heq⟩ := recorder.openComponent_eq opening
  rw [heq, push, hnoted.components]

@[simp]
theorem decorators_openComponent (recorder : Recorder) (opening : Opening) :
    (recorder.openComponent opening).findings.decorators = recorder.findings.decorators := by
  obtain ⟨noted, hnoted, heq⟩ := recorder.openComponent_eq opening
  rw [heq, push, hnoted.decorators]

@[simp]
theorem current?_openComponent (recorder : Recorder) (opening : Opening) :
    (recorder.openComponent opening).current? = some recorder.findings.components.length := by
  obtain ⟨noted, hnoted, heq⟩ := recorder.openComponent_eq opening
  rw [heq, current?, push, hnoted.components]
  rfl

/-- A component that opens is one more that is open. -/
@[simp]
theorem length_stack_openComponent (recorder : Recorder) (opening : Opening) :
    (recorder.openComponent opening).stack.length = recorder.stack.length + 1 := by
  obtain ⟨noted, hnoted, heq⟩ := recorder.openComponent_eq opening
  have hlength := congrArg List.length hnoted.stack
  simp only [List.length_map] at hlength
  rw [heq, push, List.length_cons, hlength]

theorem stack_openComponent_ne_nil (recorder : Recorder) (opening : Opening) :
    (recorder.openComponent opening).stack ≠ [] :=
  List.ne_nil_of_length_pos (by simp)

/-- A component below others, from its opening to its end, extends what was there before. -/
theorem Extends.ofComponent {before after : Recorder} {opening : Opening}
    (hbefore : before.stack ≠ []) (hinside : Extends (before.openComponent opening) after) :
    Extends before { after with stack := after.stack.tail } := by
  obtain ⟨noted, hnoted, heq⟩ := before.openComponent_eq opening
  rw [heq] at hinside
  obtain ⟨hstack, new, hnew, hparents⟩ := hinside
  refine ⟨?_, componentOf opening before.stack.head? :: new, ?_, ?_⟩
  · rw [List.map_tail, hstack, ← hnoted.stack]
    rfl
  · simp [hnew, push, hnoted.components]
  · intro component hcomponent
    rcases List.mem_cons.1 hcomponent with rfl | hcomponent
    · obtain ⟨frame, below, hframe⟩ := List.exists_cons_of_ne_nil hbefore
      simp [componentOf, hframe]
    · exact hparents component hcomponent

/-- A nested stretch comes back to the components that were open before it. -/
theorem extends_run {reading : Reading} {root : Syntax.Node} {low high : Nat}
    {events : List Event} (hevents : Nested reading root low high events) (recordReads : Bool)
    {recorder : Recorder} (hstack : recorder.stack ≠ []) :
    Extends recorder (recorder.run recordReads events) := by
  induction hevents generalizing recorder with
  | nil => exact .refl recorder
  | plain hplain _ ih =>
    have hstep := (recorder.notes_step recordReads hplain).extends
    exact hstep.trans (ih (hstep.stack_ne_nil hstack))
  | @decorate _ _ decorator _ _ _ ih =>
    have hstep : Extends recorder (recorder.step recordReads (.decorate decorator)) := by
      simp only [step, addDecorator]
      split
      · exact .refl recorder
      · exact ⟨rfl, [], by simp, by simp⟩
    exact hstep.trans (ih (hstep.stack_ne_nil hstack))
  | @component _ _ _ part _ _ _ _ _ ihinside ihrest =>
    have hopen := recorder.stack_openComponent_ne_nil (Outline.openingOf reading .empty part)
    have hinside := Extends.ofComponent hstack (ihinside hopen)
    rw [run_cons, run_append, run_cons]
    exact hinside.trans (ihrest (hinside.stack_ne_nil hstack))

/-- The decorators of one component stand in the order of their positions. -/
def DecoratorsOrdered (decorators : List (Owned Decorator)) : Prop :=
  decorators.Pairwise fun x y => x.owner = y.owner → x.fact.position < y.fact.position

/-- What a stretch of events did to the decorators, if `top` was open innermost and `count`
components were there: those of each component are in order, those of `top` are in front of
`bound`, and new ones belong to `top` or to new components. -/
structure Decorated (before : List (Owned Decorator)) (count top bound : Nat)
    (after : List (Owned Decorator)) : Prop where
  ordered : DecoratorsOrdered after
  front : ∀ owned ∈ after, owned.owner = top → owned.fact.position < bound
  new : ∀ owned ∈ after, owned ∈ before ∨ owned.owner = top ∨ count ≤ owned.owner

namespace Decorated

variable {before after last : List (Owned Decorator)} {count count' top bound low : Nat}

/-- One more decorator of the innermost component, behind those that it has. -/
theorem decorate (hordered : DecoratorsOrdered before)
    (hfront : ∀ owned ∈ before, owned.owner = top → owned.fact.position < low)
    {decorator : Decorator} (hlow : low ≤ decorator.position) :
    Decorated before count top (decorator.position + 1) (before ++ [⟨top, decorator⟩]) := by
  refine ⟨List.pairwise_append.2 ⟨hordered, by simp, ?_⟩, ?_, ?_⟩
  · intro x hx y hy howner
    obtain rfl := List.mem_singleton.1 hy
    exact Nat.lt_of_lt_of_le (hfront x hx howner) hlow
  · intro owned howned howner
    rcases List.mem_append.1 howned with howned | howned
    · have := hfront owned howned howner
      omega
    · obtain rfl := List.mem_singleton.1 howned
      exact Nat.lt_succ_self _
  · intro owned howned
    rcases List.mem_append.1 howned with howned | howned
    · exact Or.inl howned
    · obtain rfl := List.mem_singleton.1 howned
      exact Or.inr (Or.inl rfl)

/-- A stretch after another. -/
theorem trans (h : Decorated before count top low after)
    (h' : Decorated after count' top bound last) (hcount : count ≤ count') :
    Decorated before count top bound last := by
  refine ⟨h'.ordered, h'.front, fun owned howned => ?_⟩
  rcases h'.new owned howned with howned | howner | howner
  · exact h.new owned howned
  · exact Or.inr (Or.inl howner)
  · exact Or.inr (Or.inr (Nat.le_trans hcount howner))

/-- What happened inside a new component, seen from the component around it. -/
theorem leave (h : Decorated before (count + 1) count bound after) (htop : top < count)
    (hfront : ∀ owned ∈ before, owned.owner = top → owned.fact.position < low) :
    Decorated before count top low after := by
  refine ⟨h.ordered, fun owned howned howner => ?_, fun owned howned => ?_⟩
  · rcases h.new owned howned with howned | howner' | howner'
    · exact hfront owned howned howner
    · omega
    · omega
  · rcases h.new owned howned with howned | howner | howner
    · exact Or.inl howned
    · exact Or.inr (Or.inr (Nat.le_of_eq howner.symm))
    · exact Or.inr (Or.inr (Nat.le_of_succ_le howner))

end Decorated

/-- Along a nested stretch the decorators of every component come in the order of their
positions. -/
theorem decorated_run {reading : Reading} {root : Syntax.Node} {low high : Nat}
    {events : List Event} (hevents : Nested reading root low high events) (recordReads : Bool)
    {recorder : Recorder} (hsound : recorder.IsSound) {top : Nat}
    (htop : recorder.current? = some top)
    (hordered : DecoratorsOrdered recorder.findings.decorators)
    (hfront : ∀ owned ∈ recorder.findings.decorators, owned.owner = top →
      owned.fact.position < low) :
    Decorated recorder.findings.decorators recorder.findings.components.length top high
      (recorder.run recordReads events).findings.decorators := by
  induction hevents generalizing recorder top with
  | nil => exact ⟨hordered, hfront, fun owned howned => Or.inl howned⟩
  | plain hplain _ ih =>
    have hstep := recorder.notes_step recordReads hplain
    have hrest := ih (hstep.isSound hsound) ((current?_eq hstep.stack).trans htop)
      (hstep.decorators ▸ hordered) (hstep.decorators ▸ hfront)
    rw [hstep.decorators, hstep.components] at hrest
    exact hrest
  | @decorate _ _ decorator _ hlow _ ih =>
    obtain ⟨frame, hframe, rfl⟩ := Option.map_eq_some_iff.1 htop
    obtain ⟨below, hstack⟩ := List.head?_eq_some_iff.1 hframe
    have hstep : recorder.step recordReads (.decorate decorator) = { recorder with
        findings.decorators :=
          recorder.findings.decorators ++ [⟨frame.component, decorator⟩] } := by
      simp only [step, addDecorator, hstack]
    have hdecorate : Decorated recorder.findings.decorators recorder.findings.components.length
        frame.component (decorator.position + 1) (recorder.findings.decorators ++ _) :=
      .decorate hordered hfront hlow
    have hsound' := hsound.step recordReads (.decorate decorator)
    rw [run_cons]
    rw [hstep] at hsound' ⊢
    exact hdecorate.trans (ih hsound' htop hdecorate.ordered hdecorate.front) (Nat.le_refl _)
  | @component low _ _ part inside rest _ hinside _ ihinside ihrest =>
    have hnonempty : recorder.stack ≠ [] := by
      intro hnil
      simp [current?, hnil] at htop
    have htop_lt := hsound.current_lt htop
    let opened := recorder.openComponent (Outline.openingOf reading .empty part)
    have hopened : opened.IsSound := hsound.step recordReads (.enter _)
    -- A new component has no decorators yet.
    have hinside' := ihinside hopened (recorder.current?_openComponent _)
      (by simpa [opened] using hordered) (by
        intro owned howned howner
        have := hsound.decorators owned (by simpa [opened] using howned)
        omega)
    simp only [opened, decorators_openComponent, components_openComponent, List.length_append,
      List.length_singleton] at hinside'
    have hleave := hinside'.leave htop_lt hfront
    have hextends := Extends.ofComponent hnonempty (extends_run hinside recordReads
      (recorder.stack_openComponent_ne_nil (Outline.openingOf reading .empty part)))
    have hclosed := (hopened.run recordReads inside).step recordReads .leave
    have hcount : recorder.findings.components.length ≤
        (opened.run recordReads inside).findings.components.length := by
      obtain ⟨new, hnew, _⟩ := hextends.components
      exact (congrArg List.length hnew).symm ▸ by simp
    rw [run_cons, run_append, run_cons]
    exact hleave.trans (ihrest hclosed ((current?_eq hextends.stack).trans htop) hleave.ordered
      hleave.front) hcount

end Recorder

end SourceLedger
