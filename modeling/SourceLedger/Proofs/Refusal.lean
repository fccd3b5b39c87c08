import SourceLedger.Proofs.Suffixes

/-!
# Which duplicates are refused

Naming can refuse duplicates instead of numbering them. It then remembers the unnumbered names of
the functions, methods and classes it has met, apart from the names that are taken, and ends at the
first of them that comes a second time. Up to there it does what numbering does, so whether it ends,
and where, can be read off the names that numbering gives.

## Main definitions

* `Naming.DefinesAt` is the unnumbered name of a function, method or class at a place.
* `Naming.RepeatsAt` says that such a name comes again.

## Main statements

* `Naming.step_reject` compares one step with and without refusing.
* `Naming.State.Knows.step` follows the names that are remembered.
* `Naming.run_reject` compares whole runs.
* `Extraction.refused_iff_repeated` says when naming refuses, and which name.
-/

namespace SourceLedger

namespace Naming

variable {named rest components : List Component} {component : Component} {base : String}
  {place : Nat} {state after : State}

/-- The component at a place is a function, a method or a class, and this is its name before it is
numbered. -/
def DefinesAt (named : List Component) (place : Nat) (base : String) : Prop :=
  ∃ component, named[place]? = some component ∧
    component.kind ∈ [.function, .method, .classDef] ∧ IsBase named component base

/-- A function, method or class has the same unnumbered name as one before it. -/
def RepeatsAt (named : List Component) (place : Nat) (base : String) : Prop :=
  DefinesAt named place base ∧ ∃ earlier < place, DefinesAt named earlier base

theorem isNamedDefinition_iff {kind : ComponentKind} :
    kind.isNamedDefinition ↔ kind ∈ [.function, .method, .classDef] := by
  cases kind <;> decide

/-- Components that are named later do not change the base of one whose parent is there. -/
theorem isBase_append (hparent : ∀ parent, component.parent = some parent → parent < named.length) :
    IsBase (named ++ rest) component base ↔ IsBase named component base := by
  unfold IsBase
  split
  · exact Iff.rfl
  · rename_i parent hsome
    rw [List.getElem?_append_left (hparent parent hsome)]

theorem DefinesAt.lt_length (h : DefinesAt named place base) : place < named.length := by
  obtain ⟨component, hcomponent, _⟩ := h
  exact (List.getElem?_eq_some_iff.1 hcomponent).1

theorem definesAt_append (hparents : ∀ component ∈ named, ∀ parent,
      component.parent = some parent → parent < named.length) (hplace : place < named.length) :
    DefinesAt (named ++ rest) place base ↔ DefinesAt named place base := by
  unfold DefinesAt
  rw [List.getElem?_append_left hplace]
  refine exists_congr fun component => and_congr_right fun hcomponent => and_congr_right fun _ => ?_
  exact isBase_append (hparents component (List.mem_of_getElem? hcomponent))

/-- What the component defines that comes next. -/
theorem definesAt_next {qualifiedName : String} {orderIndex : Nat}
    (hparent : ∀ parent, component.parent = some parent → parent < state.done.length) :
    DefinesAt (state.done ++ { component with qualifiedName, orderIndex } :: rest)
        state.done.length base ↔
      component.kind.isNamedDefinition ∧ base = state.base component := by
  unfold DefinesAt
  rw [List.getElem?_append_right (Nat.le_refl _), Nat.sub_self, List.getElem?_cons_zero]
  constructor
  · rintro ⟨_, hsome, hkind, hbase⟩
    obtain rfl := Option.some.inj hsome
    exact ⟨isNamedDefinition_iff.2 hkind, (isBase_iff hparent).1 ((isBase_append hparent).1 hbase)⟩
  · rintro ⟨hkind, hbase⟩
    exact ⟨_, rfl, isNamedDefinition_iff.1 hkind,
      (isBase_append hparent).2 ((isBase_iff hparent).2 hbase)⟩

/-- A step that refuses duplicates does what one that numbers them does, unless the name of a
definition is remembered. -/
theorem step_reject (state : State) (component : Component) :
    step .reject state component =
      if component.kind.isNamedDefinition ∧ state.base component ∈ state.definitions then
        .error (state.base component)
      else step .suffix state component := by
  by_cases hrefused :
      component.kind.isNamedDefinition ∧ state.base component ∈ state.definitions
  · rw [if_pos hrefused]
    simp [step, hrefused]
  · rw [if_neg hrefused]
    simp [step, hrefused]

theorem definitions_step {policy : DuplicatePolicy}
    (h : step policy state component = .ok after) :
    base ∈ after.definitions ↔
      component.kind.isNamedDefinition ∧ base = state.base component ∨
        base ∈ state.definitions := by
  simp only [step] at h
  split at h
  · simp at h
  · by_cases hdefinition : component.kind.isNamedDefinition
    all_goals
      split at h
      all_goals
        obtain rfl := Except.ok.inj h
        simp [hdefinition]

/-- A state knows the functions, methods and classes that are done: it remembers exactly their
unnumbered names. -/
structure State.Knows (state : State) : Prop where
  parents : ∀ component ∈ state.done, ∀ parent, component.parent = some parent →
    parent < state.done.length
  definitions : ∀ base, base ∈ state.definitions ↔ ∃ place, DefinesAt state.done place base

theorem State.knows_empty : State.Knows {} :=
  ⟨by simp, by simp [DefinesAt]⟩

theorem State.Knows.definesAt_before (hknows : state.Knows) :
    (∃ earlier < state.done.length, DefinesAt (state.done ++ rest) earlier base) ↔
      base ∈ state.definitions := by
  rw [hknows.definitions]
  constructor
  · rintro ⟨earlier, hlt, hdefines⟩
    exact ⟨earlier, (definesAt_append hknows.parents hlt).1 hdefines⟩
  · rintro ⟨earlier, hdefines⟩
    exact ⟨earlier, hdefines.lt_length,
      (definesAt_append hknows.parents hdefines.lt_length).2 hdefines⟩

theorem State.Knows.step {policy : DuplicatePolicy} (hknows : state.Knows)
    (hparent : ∀ parent, component.parent = some parent → parent < state.done.length)
    (h : step policy state component = .ok after) : after.Knows := by
  obtain ⟨qualifiedName, _, hdone⟩ := step_ok h
  constructor
  · intro other hother parent hsome
    rw [hdone, List.mem_append, List.mem_singleton] at hother
    rw [hdone, List.length_append, List.length_singleton]
    rcases hother with hother | rfl
    · exact Nat.lt_succ_of_lt (hknows.parents other hother parent hsome)
    · exact Nat.lt_succ_of_lt (hparent parent hsome)
  · intro base
    rw [definitions_step h, hdone]
    constructor
    · rintro (hlast | hbefore)
      · exact ⟨_, (definesAt_next hparent).2 hlast⟩
      · obtain ⟨earlier, _, hdefines⟩ := hknows.definesAt_before.2 hbefore
        exact ⟨earlier, hdefines⟩
    · rintro ⟨place, hdefines⟩
      have hlt := hdefines.lt_length
      rw [List.length_append, List.length_singleton] at hlt
      by_cases hlast : place = state.done.length
      · rw [hlast] at hdefines
        exact .inl ((definesAt_next hparent).1 hdefines)
      · exact .inr (hknows.definesAt_before.1 ⟨place, by omega, hdefines⟩)

/-- The next component repeats a name exactly if it is a definition whose name is remembered. -/
theorem State.Knows.repeatsAt_next (hknows : state.Knows) {qualifiedName : String}
    {orderIndex : Nat}
    (hparent : ∀ parent, component.parent = some parent → parent < state.done.length) :
    RepeatsAt (state.done ++ { component with qualifiedName, orderIndex } :: rest)
        state.done.length base ↔
      (component.kind.isNamedDefinition ∧ base = state.base component) ∧
        base ∈ state.definitions := by
  rw [RepeatsAt, definesAt_next hparent, hknows.definesAt_before]

theorem prefix_run {policy : DuplicatePolicy} (h : run policy state components = .ok after) :
    state.done <+: after.done := by
  induction components generalizing state with
  | nil =>
    obtain rfl := Except.ok.inj h
    exact List.prefix_refl _
  | cons component rest ih =>
    unfold run at h
    split at h
    · rename_i next hnext
      obtain ⟨_, _, hdone⟩ := step_ok hnext
      have hnext' : state.done <+: next.done := hdone ▸ List.prefix_append _ _
      exact hnext'.trans (ih h)
    · simp at h

/-- Where numbering ends well, refusing does the same unless a name is repeated, and otherwise ends
with the name that is repeated first. -/
theorem run_reject (hknows : state.Knows) (hparents : ParentsBefore state.done.length components)
    (h : run .suffix state components = .ok after) :
    (run .reject state components = .ok after ∧
        ∀ place base, state.done.length ≤ place → ¬ RepeatsAt after.done place base) ∨
      ∃ place base, run .reject state components = .error base ∧ RepeatsAt after.done place base ∧
        ∀ other name, state.done.length ≤ other → RepeatsAt after.done other name →
          place ≤ other := by
  induction components generalizing state with
  | nil =>
    obtain rfl := Except.ok.inj h
    refine .inl ⟨rfl, fun place base hle hrepeats => ?_⟩
    exact Nat.not_lt_of_le hle hrepeats.1.lt_length
  | cons component rest ih =>
    unfold run at h
    split at h
    · rename_i next hnext
      have hparent : ∀ parent, component.parent = some parent → parent < state.done.length :=
        hparents 0 component rfl
      obtain ⟨qualifiedName, _, hdone⟩ := step_ok hnext
      obtain ⟨more, hmore⟩ := prefix_run h
      rw [hdone, List.append_assoc, List.singleton_append] at hmore
      have hhere (base : String) : RepeatsAt after.done state.done.length base ↔
          (component.kind.isNamedDefinition ∧ base = state.base component) ∧
            base ∈ state.definitions := by
        rw [← hmore]
        exact hknows.repeatsAt_next hparent
      by_cases hrefused :
          component.kind.isNamedDefinition ∧ state.base component ∈ state.definitions
      · refine .inr ⟨state.done.length, state.base component, ?_, ?_, fun _ _ hle _ => hle⟩
        · rw [run, step_reject, if_pos hrefused]
        · exact (hhere _).2 ⟨⟨hrefused.1, rfl⟩, hrefused.2⟩
      · have hrun : run .reject state (component :: rest) = run .reject next rest := by
          rw [run, step_reject, if_neg hrefused, hnext]
        have hlength : next.done.length = state.done.length + 1 := by simp [hdone]
        -- The next component repeats nothing, so what repeats a name stands behind it.
        have hbehind {other : Nat} {name : String} (hle : state.done.length ≤ other)
            (hrepeats : RepeatsAt after.done other name) : next.done.length ≤ other := by
          by_contra hlt
          obtain rfl : other = state.done.length := by omega
          obtain ⟨⟨hdefinition, rfl⟩, hmem⟩ := (hhere name).1 hrepeats
          exact hrefused ⟨hdefinition, hmem⟩
        rw [hrun]
        rcases ih (hknows.step hparent hnext) (hlength ▸ hparents.tail) h with
          ⟨hok, hnone⟩ | ⟨place, base, herror, hrepeats, hleast⟩
        · refine .inl ⟨hok, fun place base hle hrepeats => ?_⟩
          exact hnone place base (hbehind hle hrepeats) hrepeats
        · refine .inr ⟨place, base, herror, hrepeats, fun other name hle hother => ?_⟩
          exact hleast other name (hbehind hle hother) hother
    · simp at h

end Naming

namespace Extraction

/-- Refusing duplicates, read off the names that numbering gives. Naming refuses an extraction
exactly if two functions, methods or classes have the same name before it is numbered, and then the
name it reports is that of the first one that repeats an earlier one. Otherwise it gives the same
names and positions as numbering does. -/
theorem refused_iff_repeated (extraction : Extraction)
    (hparents : ∀ (place : Nat) (component : Component),
      extraction.components[place]? = some component →
        ∀ parent, component.parent = some parent → parent < place) :
    ∃ result, extraction.named .suffix = .ok result ∧
      ((∃ failure, extraction.named .reject = .error failure) ↔
        ∃ place base, Naming.RepeatsAt result.components place base) ∧
      (∀ failure, extraction.named .reject = .error failure →
        ∃ place base, failure = .ambiguousName extraction.path base ∧
          Naming.RepeatsAt result.components place base ∧
          IsLeast {other | ∃ name, Naming.RepeatsAt result.components other name} place) ∧
      ((¬ ∃ place base, Naming.RepeatsAt result.components place base) →
        extraction.named .reject = .ok result) := by
  cases hrun : Naming.run .suffix {} extraction.components with
  | error base => exact absurd (Naming.run_error hrun) (by decide)
  | ok after =>
    have hnumbered :
        extraction.named .suffix = .ok { extraction with components := after.done } := by
      simp [named, Naming.assign, hrun, Except.map]
    refine ⟨_, hnumbered, ?_⟩
    have hbefore : Naming.ParentsBefore 0 extraction.components := by
      simpa [Naming.ParentsBefore] using hparents
    rcases Naming.run_reject Naming.State.knows_empty hbefore hrun with
      ⟨hok, hnone⟩ | ⟨place, base, herror, hrepeats, hleast⟩
    · have hsame : extraction.named .reject = .ok { extraction with components := after.done } := by
        simp [named, Naming.assign, hok, Except.map]
      have hnever : ¬ ∃ place base, Naming.RepeatsAt after.done place base := by
        rintro ⟨place, base, hrepeats⟩
        exact hnone place base (Nat.zero_le _) hrepeats
      rw [hsame]
      exact ⟨by simp [hnever], by simp, fun _ => rfl⟩
    · have hrefused : extraction.named .reject = .error (.ambiguousName extraction.path base) := by
        simp [named, Naming.assign, herror, Except.map]
      rw [hrefused]
      refine ⟨⟨fun _ => ⟨place, base, hrepeats⟩, fun _ => ⟨_, rfl⟩⟩, fun failure hfailure => ?_, ?_⟩
      · refine ⟨place, base, (Except.error.inj hfailure).symm, hrepeats, ⟨base, hrepeats⟩, ?_⟩
        rintro other ⟨name, hother⟩
        exact hleast other name (Nat.zero_le _) hother
      · intro hnever
        exact absurd ⟨place, base, hrepeats⟩ hnever

/-- A target and two functions of one name, and a class with a method of that name. -/
def redefined : Extraction where
  components :=
    [⟨none, .assignment, "g", "", 0, 0, 1, 1, 0, 5, "", "", none, default⟩,
      ⟨none, .classDef, "A", "", 0, 0, 2, 3, 6, 30, "", "", none, default⟩,
      ⟨some 1, .method, "g", "", 0, 1, 3, 3, 20, 30, "", "", none, default⟩,
      ⟨none, .function, "g", "", 0, 0, 4, 4, 31, 45, "", "", none, default⟩,
      ⟨none, .function, "g", "", 0, 0, 5, 5, 46, 60, "", "", none, default⟩]
  path := "a.py"
  rawHash := ""
  treeHash := ""
  sizeBytes := 60

theorem refused_iff_repeated_redefined :
    ∃ result place, redefined.named .suffix = .ok result ∧
      result.components.map (·.qualifiedName) = ["g", "A", "A.g", "g#2", "g#3"] ∧
      redefined.named .reject = .error (.ambiguousName "a.py" "g") ∧
      Naming.RepeatsAt result.components place "g" ∧
      IsLeast {other | ∃ name, Naming.RepeatsAt result.components other name} place := by
  have hparents : ∀ place (hplace : place < redefined.components.length),
      ∀ parent, redefined.components[place].parent = some parent → parent < place := by
    decide
  obtain ⟨result, hresult, _, hrefused, _⟩ := refused_iff_repeated redefined (by
    intro place component hcomponent
    obtain ⟨hplace, rfl⟩ := List.getElem?_eq_some_iff.1 hcomponent
    exact hparents place hplace)
  have hnames : (redefined.named .suffix).toOption.map (·.components.map (·.qualifiedName)) =
      some ["g", "A", "A.g", "g#2", "g#3"] := by
    decide +kernel
  have herror : redefined.named .reject = .error (.ambiguousName "a.py" "g") := by
    decide +kernel
  obtain ⟨place, base, hfailure, hrepeats, hleast⟩ := hrefused _ herror
  obtain rfl : "g" = base := (Failure.ambiguousName.inj hfailure).2
  rw [hresult] at hnames
  exact ⟨result, place, hresult, Option.some.inj hnames, herror, hrepeats, hleast⟩

end Extraction

end SourceLedger
