import Mathlib.Data.List.Induction
import Mathlib.Order.Bounds.Basic
import SourceLedger.Proofs.Arena

/-!
# Duplicates get the least free number

A name that is taken gets a number behind it. The search for the number does not begin at two but
behind the last number that was tried for the same name. All numbers up to that one are still
taken, since names are never given back, so the search finds the least free number nevertheless.

## Main definitions

* `Naming.IsBase` is the name that a component would have if it were not taken.
* `Naming.TakesFree` says which name a component gets behind the names of others.

## Main statements

* `Naming.isLeast_freeNumber` says that the search finds the least free number.
* `Naming.takesFree_step` and `Naming.takesFree_run` follow the numbers that are passed over.
* `Extraction.named_least_free` collects what naming does where no duplicate is refused.
-/

namespace SourceLedger

namespace Naming

/-- The name of a component before it is numbered: its own name, behind the full name of its
parent and a dot if it has one. -/
def IsBase (named : List Component) (component : Component) (base : String) : Prop :=
  match component.parent with
  | none => base = component.name
  | some parent =>
    ∃ above, named[parent]? = some above ∧ base = above.qualifiedName ++ "." ++ component.name

/-- A name is taken as it is if it is free, and otherwise with the least number from two on that
makes it free. -/
def TakesFree (taken : List String) (base name : String) : Prop :=
  (base ∉ taken → name = base) ∧
    (base ∈ taken → ∃ number, IsLeast {n | 2 ≤ n ∧ numbered base n ∉ taken} number ∧
      name = numbered base number)

/-- If all numbers from two up to the last one tried are taken, the search behind it finds the
least free number. -/
theorem isLeast_freeNumber {taken : List String} {base : String} {tries last : Nat}
    (htries : taken.length ≤ tries) (hlast : 1 ≤ last)
    (hpassed : ∀ number, 2 ≤ number → number ≤ last → numbered base number ∈ taken) :
    IsLeast {n | 2 ≤ n ∧ numbered base n ∉ taken} (freeNumber taken base tries last) := by
  have hbehind := lt_freeNumber taken base tries last
  refine ⟨⟨by omega, freeNumber_not_mem taken base htries last⟩, ?_⟩
  rintro number ⟨htwo, hfree⟩
  by_contra hlt
  refine hfree ?_
  by_cases hle : number ≤ last
  · exact hpassed number htwo hle
  · exact mem_of_lt_freeNumber taken base (Nat.lt_of_not_le hle) (Nat.lt_of_not_le hlt)

namespace State

/-- All numbers that were tried for a name are taken. -/
structure IsCounted (state : State) : Prop where
  one_le : ∀ base, 1 ≤ state.counter base
  passed : ∀ base number, 2 ≤ number → number ≤ state.counter base →
    numbered base number ∈ state.taken

theorem isCounted_empty : IsCounted {} := by
  have hcounter (base : String) : counter {} base = 1 := rfl
  refine ⟨fun base => Nat.le_of_eq (hcounter base).symm, fun base number htwo hle => ?_⟩
  rw [hcounter] at hle
  omega

theorem counter_cons (state : State) (done : List Component) (definitions : List String)
    (base other : String) (number : Nat) :
    counter ⟨done, (base, number) :: state.counters, definitions⟩ other =
      if other = base then number else state.counter other := by
  by_cases hsame : other = base
  · simp [counter, hsame]
  · have hbeq : (other == base) = false := by simpa using hsame
    simp [counter, List.lookup_cons, hbeq, hsame]

end State

/-- A step names its component with what is free, and remembers no number that is not taken. -/
theorem takesFree_step {policy : DuplicatePolicy} {state after : State} {component : Component}
    (h : step policy state component = .ok after) (hcounted : state.IsCounted) :
    after.IsCounted ∧ ∃ qualifiedName,
      TakesFree state.taken (state.base component) qualifiedName ∧ after.done = state.done ++
        [{ component with qualifiedName, orderIndex := state.siblings component.parent }] := by
  simp only [step] at h
  split at h
  · simp at h
  split at h
  · rename_i htaken
    obtain rfl := Except.ok.inj h
    have htries : state.taken.length ≤ state.done.length := by simp [State.taken]
    have hleast := isLeast_freeNumber htries (hcounted.one_le _)
      (hcounted.passed (state.base component))
    refine ⟨⟨fun base => ?_, fun base number htwo hle => ?_⟩, _,
      ⟨fun hfree => absurd htaken hfree, fun _ => ⟨_, hleast, rfl⟩⟩, rfl⟩
    · rw [State.counter_cons]
      split
      · exact Nat.le_of_succ_le hleast.1.1
      · exact hcounted.one_le base
    · -- The number that is given is taken from now on, and smaller ones were taken before.
      rw [State.counter_cons] at hle
      simp only [State.taken, List.map_append, List.map_singleton, List.mem_append,
        List.mem_singleton]
      split at hle
      · rename_i hsame
        subst hsame
        by_cases hgiven : number = freeNumber state.taken (state.base component)
            state.done.length (state.counter (state.base component))
        · exact .inr (congrArg _ hgiven)
        · by_contra hfree
          exact hgiven (Nat.le_antisymm hle (hleast.2 ⟨htwo, fun hmem => hfree (.inl hmem)⟩))
      · exact .inl (hcounted.passed base number htwo hle)
  · rename_i hfree
    obtain rfl := Except.ok.inj h
    refine ⟨⟨hcounted.one_le, fun base number htwo hle => ?_⟩, _,
      ⟨fun _ => rfl, fun htaken => absurd htaken hfree⟩, rfl⟩
    simp only [State.taken, List.map_append, List.mem_append]
    exact .inl (hcounted.passed base number htwo hle)

/-- A component is named with what is free behind components that are named. -/
def TakesFreeBehind (earlier : List Component) (component : Component) : Prop :=
  ∃ base, IsBase earlier component base ∧
    TakesFree (earlier.map (·.qualifiedName)) base component.qualifiedName

/-- Every component took what was free behind the components before it. -/
def IsLeastNamed (components : List Component) : Prop :=
  ∀ (place : Nat) (component : Component), components[place]? = some component →
    TakesFreeBehind (components.take place) component

/-- The parents of components stand before them, and before all further ones. -/
def ParentsBefore (first : Nat) (components : List Component) : Prop :=
  ∀ (place : Nat) (component : Component), components[place]? = some component →
    ∀ parent, component.parent = some parent → parent < first + place

theorem ParentsBefore.tail {first : Nat} {component : Component} {rest : List Component}
    (h : ParentsBefore first (component :: rest)) : ParentsBefore (first + 1) rest := by
  intro place other hother parent hparent
  have hlt := h (place + 1) other hother parent hparent
  omega

/-- The base that a step uses is made of the name of a parent that is there. -/
theorem isBase_iff {state : State} {component : Component} {base : String}
    (hparent : ∀ parent, component.parent = some parent → parent < state.done.length) :
    IsBase state.done component base ↔ base = state.base component := by
  cases hsome : component.parent with
  | none => simp [IsBase, State.base, hsome]
  | some parent =>
    have hlt := hparent parent hsome
    simp [IsBase, State.base, hsome, hlt]

/-- All steps together give every component what is free behind those before it. -/
theorem takesFree_run {policy : DuplicatePolicy} {components : List Component}
    {state after : State} (hcounted : state.IsCounted) (hstate : IsLeastNamed state.done)
    (hparents : ParentsBefore state.done.length components)
    (h : run policy state components = .ok after) : IsLeastNamed after.done := by
  induction components generalizing state with
  | nil =>
    obtain rfl := Except.ok.inj h
    exact hstate
  | cons component rest ih =>
    unfold run at h
    split at h
    · rename_i next hnext
      obtain ⟨hcounted', name, hname, hdone⟩ := takesFree_step hnext hcounted
      refine ih hcounted' ?_ ?_ h
      · rw [hdone]
        refine forall_take_concat (P := TakesFreeBehind) hstate
          ⟨state.base component, ?_, hname⟩
        exact (isBase_iff (hparents 0 component rfl)).2 rfl
      · rw [hdone, List.length_append, List.length_singleton]
        exact hparents.tail
    · simp at h

theorem IsBase.mono {named more : List Component} {component : Component} {base : String}
    (h : IsBase named component base) (hmore : named <+: more) : IsBase more component base := by
  unfold IsBase at h ⊢
  split at h
  · exact h
  · obtain ⟨above, habove, hbase⟩ := h
    obtain ⟨rest, rfl⟩ := hmore
    have hlt := (List.getElem?_eq_some_iff.1 habove).1
    exact ⟨above, by rw [List.getElem?_append_left hlt, habove], hbase⟩

/-- Components that were given names took what was free, if parents stand before their children. -/
theorem isLeastNamed_assign {policy : DuplicatePolicy} {components named : List Component}
    (hparents : ParentsBefore 0 components) (h : assign policy components = .ok named) :
    IsLeastNamed named := by
  unfold assign at h
  cases hrun : run policy {} components with
  | error base => simp [hrun, Except.map] at h
  | ok after =>
    obtain rfl : after.done = named := by simpa [hrun, Except.map] using h
    exact takesFree_run State.isCounted_empty (by simp [IsLeastNamed]) hparents hrun

/-- The positions of the children of a parent are all numbers below their count, in order. -/
theorem IsNamed.orderIndices {components : List Component} (h : IsNamed components)
    (parent : Option Nat) :
    (components.filter (·.parent == parent)).map (·.orderIndex) =
      List.range (components.filter (·.parent == parent)).length := by
  have hpositions := h.positions
  clear h
  -- From the end: the last component counts its siblings among those before it.
  induction components using List.reverseRecOn with
  | nil => rfl
  | append_singleton front last ih =>
    have hfront := ih fun place component hcomponent => by
      have hlt := (List.getElem?_eq_some_iff.1 hcomponent).1
      have hsame := hpositions place component (by rw [List.getElem?_append_left hlt, hcomponent])
      rwa [List.take_append_of_le_length (Nat.le_of_lt hlt)] at hsame
    have hlast := hpositions front.length last (by simp)
    rw [List.take_left, List.countP_eq_length_filter] at hlast
    rw [List.filter_append, List.map_append, hfront]
    by_cases hparent : last.parent = parent
    · subst hparent
      simp [hlast, List.range_succ]
    · simp [hparent]

end Naming

namespace Extraction

/-- Where duplicates are not refused, naming always succeeds. No two names are the same. A
component is named after its parent and itself, and if an earlier component has that name, it gets
the least number from two on that no earlier component has. Its position is the number of earlier
components with the same parent, so siblings are counted from zero without a gap. Nothing else in
the extraction changes. -/
theorem named_least_free (extraction : Extraction)
    (hparents : ∀ (place : Nat) (component : Component),
      extraction.components[place]? = some component →
        ∀ parent, component.parent = some parent → parent < place) :
    ∃ result, extraction.named .suffix = .ok result ∧
      (result.components.map (·.qualifiedName)).Nodup ∧
      (∀ (place : Nat) (component : Component), result.components[place]? = some component →
        (∃ base, Naming.IsBase result.components component base ∧
          Naming.TakesFree ((result.components.take place).map (·.qualifiedName)) base
            component.qualifiedName) ∧
        component.orderIndex =
          (result.components.take place).countP (·.parent == component.parent)) ∧
      (∀ parent, (result.components.filter (·.parent == parent)).map (·.orderIndex) =
        List.range (result.components.filter (·.parent == parent)).length) ∧
      result.components.map Component.unnamed = extraction.components.map Component.unnamed ∧
      result = { extraction with components := result.components } := by
  cases hassign : Naming.assign .suffix extraction.components with
  | error base => exact absurd (Naming.assign_error hassign) (by decide)
  | ok components =>
    have hresult : extraction.named .suffix = .ok { extraction with components } := by
      rw [named, hassign]
    obtain ⟨hnamed, hunnamed⟩ := Naming.assign_ok hassign
    refine ⟨_, hresult, hnamed.unique, fun place component hcomponent => ⟨?_, ?_⟩,
      hnamed.orderIndices, hunnamed, rfl⟩
    · have hbefore : Naming.ParentsBefore 0 extraction.components := by
        simpa [Naming.ParentsBefore] using hparents
      obtain ⟨base, hbase, hfree⟩ :=
        Naming.isLeastNamed_assign hbefore hassign place component hcomponent
      exact ⟨base, hbase.mono (List.take_prefix _ _), hfree⟩
    · exact hnamed.positions place component hcomponent

/-- A class with two members, and targets outside that have the names of these. The names are full
of dots and marks, so that components of different parents clash. -/
def clashing : Extraction where
  components :=
    [⟨none, .classDef, "A", "", 0, 0, 1, 3, 0, 9, "", "", none, default⟩,
      ⟨some 0, .assignment, "x", "", 0, 1, 2, 2, 2, 4, "", "", none, default⟩,
      ⟨some 0, .assignment, "x", "", 0, 1, 3, 3, 5, 9, "", "", none, default⟩,
      ⟨none, .assignment, "A.x#3", "", 0, 0, 4, 4, 10, 14, "", "", none, default⟩,
      ⟨none, .assignment, "A.x", "", 0, 0, 5, 5, 15, 18, "", "", none, default⟩]
  path := "a.py"
  rawHash := ""
  treeHash := ""
  sizeBytes := 18

theorem named_least_free_clashing :
    ∃ result, clashing.named .suffix = .ok result ∧
      result.components.map (·.qualifiedName) = ["A", "A.x", "A.x#2", "A.x#3", "A.x#4"] ∧
      (result.components.map (·.qualifiedName)).Nodup ∧
      result.components.map (·.orderIndex) = [0, 0, 1, 1, 2] := by
  have hparents : ∀ place (hplace : place < clashing.components.length),
      ∀ parent, clashing.components[place].parent = some parent → parent < place := by
    decide
  obtain ⟨result, hresult, hunique, _⟩ := named_least_free clashing (by
    intro place component hcomponent
    obtain ⟨hplace, rfl⟩ := List.getElem?_eq_some_iff.1 hcomponent
    exact hparents place hplace)
  have hnames : (clashing.named .suffix).toOption.map (fun named =>
      (named.components.map (·.qualifiedName), named.components.map (·.orderIndex))) =
        some (["A", "A.x", "A.x#2", "A.x#3", "A.x#4"], [0, 0, 1, 1, 2]) := by
    decide +kernel
  rw [hresult] at hnames
  obtain ⟨hnames, horder⟩ := Prod.mk.inj (Option.some.inj hnames)
  exact ⟨result, hresult, hnames, hunique, horder⟩

end Extraction

end SourceLedger
