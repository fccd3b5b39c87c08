import SourceLedger.Extraction

/-!
# Names are unique and nothing else changes

Naming goes through the components in order. Each step gives one component a name that no earlier
component has, and the number of its earlier siblings as its position. What else there is in a
component stays as it was, and only the policy to refuse duplicates can end the naming early.

## Main statements

* `freeNumber_not_mem` says that the search for a number finds a free name.
* `step_ok` says what one step does, and `isNamed_run` what holds after all of them.
* `assign_ok` collects what a list of named components looks like.
* `assign_map` says that naming commutes with changes that it does not notice.
-/

namespace SourceLedger

/-- A component as it was before it got its name and position. -/
def Component.unnamed (component : Component) : Component :=
  { component with qualifiedName := "", orderIndex := 0 }

@[simp]
theorem Component.unnamed_parent (component : Component) :
    component.unnamed.parent = component.parent :=
  rfl

/-- Lists that differ in names and positions only have the same components in the same places, up to
their names and positions. -/
theorem Component.exists_getElem?_of_unnamed {first second : List Component}
    (h : first.map unnamed = second.map unnamed) {position : Nat} {component : Component}
    (hcomponent : first[position]? = some component) :
    ∃ other, second[position]? = some other ∧ other.unnamed = component.unnamed := by
  have hat := congrArg (·[position]?) h
  simp only [List.getElem?_map, hcomponent, Option.map_some] at hat
  exact Option.map_eq_some_iff.1 hat.symm

namespace Naming

/-- Different numbers make different names. -/
theorem numbered_injective (base : String) {m n : Nat} (h : numbered base m = numbered base n) :
    m = n := by
  have hdigits : m.repr = n.repr := (String.append_right_inj (base ++ numberMark)).1 h
  have hparsed := congrArg (fun digits => Nat.ofDigitChars 10 digits.toList 0) hdigits
  simpa using hparsed

section FreeNumber

variable (taken : List String) (base : String)

/-- The search goes upwards from the last number. -/
theorem lt_freeNumber (tries last : Nat) : last < freeNumber taken base tries last := by
  induction tries generalizing last with
  | zero => exact Nat.lt_succ_self last
  | succ tries ih =>
    unfold freeNumber
    split
    · exact Nat.lt_of_succ_lt (ih (last + 1))
    · exact Nat.lt_succ_self last

/-- Numbers that the search passes over are taken. -/
theorem mem_of_lt_freeNumber {tries last number : Nat} (hlast : last < number)
    (hnumber : number < freeNumber taken base tries last) : numbered base number ∈ taken := by
  induction tries generalizing last with
  | zero =>
    simp only [freeNumber] at hnumber
    omega
  | succ tries ih =>
    unfold freeNumber at hnumber
    split at hnumber
    · rename_i htaken
      by_cases hnext : number = last + 1
      · exact hnext ▸ htaken
      · exact ih (by omega) hnumber
    · omega

/-- The search stops at a free name unless it runs out of tries. -/
theorem freeNumber_not_mem_or (tries last : Nat) :
    numbered base (freeNumber taken base tries last) ∉ taken ∨
      freeNumber taken base tries last = last + tries + 1 := by
  induction tries generalizing last with
  | zero => exact Or.inr rfl
  | succ tries ih =>
    unfold freeNumber
    split
    · rcases ih (last + 1) with hfree | hend
      · exact Or.inl hfree
      · exact Or.inr (by omega)
    · rename_i hfree
      exact Or.inl hfree

/-- With as many tries as there are taken names the search finds a free one. -/
theorem freeNumber_not_mem {tries : Nat} (htries : taken.length ≤ tries) (last : Nat) :
    numbered base (freeNumber taken base tries last) ∉ taken := by
  intro hmem
  have hend := (freeNumber_not_mem_or taken base tries last).resolve_left (not_not_intro hmem)
  -- Otherwise more names than there are would be taken: all those that were tried.
  let tried := (List.range (tries + 1)).map fun k => numbered base (last + 1 + k)
  have hnodup : tried.Nodup := by
    refine List.Pairwise.map _ ?_ List.nodup_range
    intro i j hij hname
    exact hij (by have := numbered_injective base hname; omega)
  have hsubset : tried ⊆ taken := by
    intro name hname
    obtain ⟨k, hk, rfl⟩ := List.mem_map.1 hname
    have hk := List.mem_range.1 hk
    by_cases hlast : k = tries
    · have hfree : last + 1 + k = freeNumber taken base tries last := by omega
      exact hfree ▸ hmem
    · have hbefore : last + 1 + k < freeNumber taken base tries last := by omega
      exact mem_of_lt_freeNumber taken base (by omega) hbefore
  have hlength := hnodup.length_le_of_subset hsubset
  simp only [tried, List.length_map, List.length_range] at hlength
  omega

end FreeNumber

/-- A step names its component with a free name and counts its earlier siblings. -/
theorem step_ok {policy : DuplicatePolicy} {state after : State} {component : Component}
    (h : step policy state component = .ok after) :
    ∃ qualifiedName, qualifiedName ∉ state.taken ∧ after.done = state.done ++
      [{ component with qualifiedName, orderIndex := state.siblings component.parent }] := by
  simp only [step] at h
  split at h
  · simp at h
  · split at h
    · obtain rfl := Except.ok.inj h
      exact ⟨_, freeNumber_not_mem _ _ (by simp [State.taken]) _, rfl⟩
    · rename_i hfree
      obtain rfl := Except.ok.inj h
      exact ⟨_, hfree, rfl⟩

/-- A step only fails where duplicates are refused. -/
theorem step_error {policy : DuplicatePolicy} {state : State} {component : Component}
    {base : String} (h : step policy state component = .error base) : policy = .reject := by
  simp only [step] at h
  split at h
  · rename_i hrefused
    exact hrefused.2.1
  · split at h <;> simp at h

/-- What named components look like: no two share a name, and the position of each is the number
of earlier components with the same parent. -/
structure IsNamed (components : List Component) : Prop where
  unique : (components.map (·.qualifiedName)).Nodup
  positions : ∀ (place : Nat) (component : Component), components[place]? = some component →
    component.orderIndex = (components.take place).countP (·.parent == component.parent)

theorem isNamed_nil : IsNamed [] :=
  ⟨List.nodup_nil, by simp⟩

/-- What holds of every component and those before it, and of one more, holds of all together. -/
theorem forall_take_concat {P : List Component → Component → Prop} {components : List Component}
    {last : Component}
    (h : ∀ (place : Nat) (component : Component), components[place]? = some component →
      P (components.take place) component) (hlast : P components last) :
    ∀ (place : Nat) (component : Component), (components ++ [last])[place]? = some component →
      P ((components ++ [last]).take place) component := by
  intro place component hcomponent
  rw [List.getElem?_append] at hcomponent
  split at hcomponent
  · rename_i hlt
    rw [List.take_append_of_le_length (Nat.le_of_lt hlt)]
    exact h place component hcomponent
  · rename_i hge
    rw [List.getElem?_singleton] at hcomponent
    split at hcomponent
    · rename_i hplace
      obtain rfl := Option.some.inj hcomponent
      have hlength : place = components.length := by omega
      rw [hlength, List.take_left]
      exact hlast
    · simp at hcomponent

/-- One more component with a free name and its place among its siblings. -/
theorem IsNamed.concat {components : List Component} (h : IsNamed components)
    {component : Component} (hname : component.qualifiedName ∉ components.map (·.qualifiedName))
    (hplace : component.orderIndex = components.countP (·.parent == component.parent)) :
    IsNamed (components ++ [component]) := by
  constructor
  · rw [List.map_append, List.nodup_append]
    refine ⟨h.unique, by simp, ?_⟩
    rintro old hold new hnew rfl
    rw [List.map_singleton, List.mem_singleton] at hnew
    exact hname (hnew ▸ hold)
  · exact forall_take_concat
      (P := fun earlier other => other.orderIndex = earlier.countP (·.parent == other.parent))
      h.positions hplace

/-- A step leaves named components behind. -/
theorem isNamed_step {policy : DuplicatePolicy} {state after : State} {component : Component}
    (hstate : IsNamed state.done) (h : step policy state component = .ok after) :
    IsNamed after.done ∧
      after.done.map Component.unnamed =
        state.done.map Component.unnamed ++ [component.unnamed] := by
  obtain ⟨qualifiedName, hfree, hdone⟩ := step_ok h
  rw [hdone]
  refine ⟨hstate.concat hfree rfl, ?_⟩
  rw [List.map_append]
  rfl

/-- All steps together leave named components behind, in the order in which they came. -/
theorem isNamed_run {policy : DuplicatePolicy} {components : List Component}
    {state after : State} (hstate : IsNamed state.done)
    (h : run policy state components = .ok after) :
    IsNamed after.done ∧
      after.done.map Component.unnamed =
        state.done.map Component.unnamed ++ components.map Component.unnamed := by
  induction components generalizing state with
  | nil =>
    obtain rfl := Except.ok.inj h
    exact ⟨hstate, by simp⟩
  | cons component rest ih =>
    unfold run at h
    split at h
    · rename_i next hnext
      obtain ⟨hnamed, hunnamed⟩ := isNamed_step hstate hnext
      obtain ⟨hafter, hall⟩ := ih hnamed h
      refine ⟨hafter, ?_⟩
      rw [hall, hunnamed, List.append_assoc]
      rfl
    · simp at h

/-- Naming only fails where duplicates are refused. -/
theorem run_error {policy : DuplicatePolicy} {components : List Component} {state : State}
    {base : String} (h : run policy state components = .error base) : policy = .reject := by
  induction components generalizing state with
  | nil => simp [run] at h
  | cons component rest ih =>
    unfold run at h
    split at h
    · exact ih h
    · rename_i hstep
      exact step_error hstep

/-- Components that were given names are named, and otherwise as they were. -/
theorem assign_ok {policy : DuplicatePolicy} {components named : List Component}
    (h : assign policy components = .ok named) :
    IsNamed named ∧ named.map Component.unnamed = components.map Component.unnamed := by
  unfold assign at h
  cases hrun : run policy {} components with
  | error base => simp [hrun, Except.map] at h
  | ok after =>
    obtain rfl : after.done = named := by simpa [hrun, Except.map] using h
    simpa using isNamed_run isNamed_nil hrun

theorem assign_error {policy : DuplicatePolicy} {components : List Component} {base : String}
    (h : assign policy components = .error base) : policy = .reject := by
  unfold assign at h
  cases hrun : run policy {} components with
  | error refused => exact run_error hrun
  | ok after => simp [hrun, Except.map] at h

/-- Later siblings have later positions. -/
theorem IsNamed.siblings_ordered {components : List Component} (h : IsNamed components) :
    components.Pairwise fun x y => x.parent = y.parent → x.orderIndex < y.orderIndex := by
  refine List.pairwise_iff_getElem.2 fun i j hi hj hij hparent => ?_
  rw [h.positions i _ (List.getElem?_eq_getElem hi), h.positions j _ (List.getElem?_eq_getElem hj),
    hparent]
  calc (components.take i).countP (·.parent == components[j].parent)
      < (components.take (i + 1)).countP (·.parent == components[j].parent) := by
        rw [List.take_succ_eq_append_getElem hi, List.countP_append]
        simp [hparent]
    _ ≤ (components.take j).countP (·.parent == components[j].parent) :=
        (List.take_sublist_take_left hij).countP_le

/-- A change of components that naming does not notice. It keeps what naming looks at, and may be
made before or after a name is given. -/
structure IsUnnoticed (change : Component → Component) : Prop where
  parent : ∀ component, (change component).parent = component.parent
  kind : ∀ component, (change component).kind = component.kind
  name : ∀ component, (change component).name = component.name
  named : ∀ component qualifiedName orderIndex,
    change { component with qualifiedName, orderIndex } =
      { change component with qualifiedName, orderIndex }

/-- A state as if it had named changed components. -/
def State.map (change : Component → Component) (state : State) : State :=
  { state with done := state.done.map change }

section Unnoticed

variable {change : Component → Component} (h : IsUnnoticed change)
include h

theorem IsUnnoticed.qualifiedName (component : Component) :
    (change component).qualifiedName = component.qualifiedName := by
  have hsame := congrArg Component.qualifiedName
    (h.named component component.qualifiedName component.orderIndex)
  exact hsame

theorem State.taken_map (state : State) : (state.map change).taken = state.taken := by
  simp [taken, State.map, Function.comp_def, h.qualifiedName]

theorem State.siblings_map (state : State) (parent : Option Nat) :
    (state.map change).siblings parent = state.siblings parent := by
  simp [siblings, State.map, List.countP_map, Function.comp_def, h.parent]

theorem State.base_map (state : State) (component : Component) :
    (state.map change).base (change component) = state.base component := by
  unfold base
  rw [h.parent, h.name]
  cases component.parent with
  | none => rfl
  | some parent =>
    dsimp only [State.map]
    rw [List.getElem?_map]
    cases state.done[parent]? with
    | none => rfl
    | some done => simp only [Option.map_some, Option.elim_some, h.qualifiedName]

theorem step_map (policy : DuplicatePolicy) (state : State) (component : Component) :
    step policy (state.map change) (change component) =
      (step policy state component).map (State.map change) := by
  have hlength : (state.map change).done.length = state.done.length := List.length_map _
  have hcounter (base : String) : (state.map change).counter base = state.counter base := rfl
  have hdefinitions : (state.map change).definitions = state.definitions := rfl
  have hdone (qualifiedName : String) (orderIndex : Nat) :
      (state.done ++ [{ component with qualifiedName, orderIndex }]).map change =
        state.done.map change ++ [{ change component with qualifiedName, orderIndex }] := by
    rw [List.map_append, List.map_singleton, h.named]
  simp only [step, State.base_map h, State.taken_map h, State.siblings_map h, h.kind, h.parent,
    hlength, hcounter, hdefinitions]
  by_cases hrefused : component.kind.isNamedDefinition = true ∧ policy = .reject ∧
      state.base component ∈ state.definitions
  · rw [if_pos hrefused, if_pos hrefused]
    rfl
  · rw [if_neg hrefused, if_neg hrefused]
    by_cases htaken : state.base component ∈ state.taken
    · rw [if_pos htaken, if_pos htaken]
      simp only [Except.map, State.map, hdone, h.parent, h.kind]
    · rw [if_neg htaken, if_neg htaken]
      simp only [Except.map, State.map, hdone, h.parent, h.kind]

theorem run_map (policy : DuplicatePolicy) (state : State) (components : List Component) :
    run policy (state.map change) (components.map change) =
      (run policy state components).map (State.map change) := by
  induction components generalizing state with
  | nil => rfl
  | cons component rest ih =>
    rw [List.map_cons, run, run, step_map h]
    cases step policy state component with
    | ok next => exact ih next
    | error base => rfl

/-- Naming commutes with changes that it does not notice. -/
theorem assign_map (policy : DuplicatePolicy) (components : List Component) :
    assign policy (components.map change) =
      (assign policy components).map (List.map change) := by
  have hrun := run_map h policy {} components
  rw [show State.map change {} = {} from rfl] at hrun
  rw [assign, assign, hrun]
  cases run policy {} components with
  | ok state => rfl
  | error base => rfl

end Unnoticed

end Naming

end SourceLedger
