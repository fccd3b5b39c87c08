import Mathlib.Data.List.Nodup
import SourceLedger.Drift.Report

/-!
# What becomes of one name

What a comparison says about a name depends on the facts that the two versions have under it, and
on nothing else. `change?_cases` says once what can become of a name; what is said of all the
changes of a report follows from it.

## Main definitions

* `Drift.classify` says what became of a component with these facts before and after.
* `Drift.change?` is the change of such a component, if there is one.

## Main statements

* `Drift.isSome_lookup?_iff` and `Drift.lookup?_of_mem` say what is found under a name.
* `Drift.change?_cases` takes a change apart.
* `Drift.name_of_change?`, `Drift.kind_of_change?` and `Drift.severity_of_change?` read a change.
-/

namespace SourceLedger

/-- Lists in strict order with the same members are equal. -/
theorem eq_of_pairwise_of_mem_iff {α : Type} {r : α → α → Prop} (hr : ∀ x y, r x y → ¬ r y x)
    {first second : List α} (hfirst : first.Pairwise r) (hsecond : second.Pairwise r)
    (h : ∀ x, x ∈ first ↔ x ∈ second) : first = second := by
  have hnodup {members : List α} (hmembers : members.Pairwise r) : members.Nodup := by
    refine hmembers.imp ?_
    rintro x _ hx rfl
    exact hr x x hx hx
  refine List.Perm.eq_of_pairwise (fun x y _ _ hxy hyx => absurd hyx (hr x y hxy)) hfirst hsecond ?_
  exact (List.perm_ext_iff_of_nodup (hnodup hfirst) (hnodup hsecond)).2 h

namespace KeySet

/-- A set lists each member once. -/
theorem nodup (keys : KeySet) : keys.toList.Nodup := by
  refine List.Pairwise.imp (fun hlt heq => ?_) keys.sorted
  rw [heq] at hlt
  exact String.lt_irrefl _ hlt

/-- A set has as many members as a list of them without repetitions. -/
theorem length_toList {keys : KeySet} {members : List String} (hmembers : members.Nodup)
    (h : ∀ key, key ∈ keys ↔ key ∈ members) : keys.toList.length = members.length :=
  ((List.perm_ext_iff_of_nodup keys.nodup hmembers).2 h).length_eq

/-- Lists with the same members make the same set. -/
theorem ofList_congr {first second : List String} (h : ∀ key, key ∈ first ↔ key ∈ second) :
    ofList first = ofList second := by
  have hlisting : (ofList first).toList = (ofList second).toList := by
    refine eq_of_pairwise_of_mem_iff (fun _ _ => String.lt_asymm) (ofList first).sorted
      (ofList second).sorted fun key => ?_
    rw [← mem_iff, ← mem_iff, mem_ofList, mem_ofList]
    exact h key
  cases hfirst : ofList first
  cases hsecond : ofList second
  simp_all

end KeySet

namespace Drift

/-- What became of a component with these facts before and after. -/
def classify : (old new : Option ComponentFacts) → ChangeKind
  | some old, some new => if old.contentHash = new.contentHash then .unchanged else .modified
  | none, some _ => .added
  | _, none => .removed

/-- The change, if any, between facts before and after. -/
def change? : (old new : Option ComponentFacts) → Option DriftChange
  | some old, some new =>
    if old.contentHash = new.contentHash then none else some (modification old new)
  | none, some new => some (addition new)
  | some old, none => some (removal old)
  | none, none => none

section Lookup

variable {facts old new : List ComponentFacts} {name : String}

/-- Every name in a list of facts has an entry. -/
theorem exists_lookup? (h : name ∈ names facts) : ∃ fact, lookup? facts name = some fact := by
  obtain ⟨fact, hfact, rfl⟩ := List.mem_map.1 h
  refine Option.isSome_iff_exists.1 (List.find?_isSome.2 ⟨fact, ?_, by simp⟩)
  exact List.mem_reverse.2 hfact

/-- An entry has the name it is found under. -/
theorem name_of_lookup? {fact : ComponentFacts} (h : lookup? facts name = some fact) :
    fact.qualifiedName = name := by
  simpa using List.find?_some h

theorem mem_of_lookup? {fact : ComponentFacts} (h : lookup? facts name = some fact) :
    fact ∈ facts :=
  List.mem_reverse.1 (List.mem_of_find?_eq_some h)

/-- A name has an entry exactly if it is in the list. -/
theorem isSome_lookup?_iff : (lookup? facts name).isSome ↔ name ∈ names facts := by
  constructor
  · intro h
    obtain ⟨fact, hfact⟩ := Option.isSome_iff_exists.1 h
    rw [← name_of_lookup? hfact]
    exact List.mem_map_of_mem (mem_of_lookup? hfact)
  · intro h
    obtain ⟨fact, hfact⟩ := exists_lookup? h
    rw [hfact]
    rfl

theorem lookup?_eq_none_iff : lookup? facts name = none ↔ name ∉ names facts := by
  rw [← isSome_lookup?_iff, Option.not_isSome_iff_eq_none]

/-- Where no name is repeated, every entry is found under its name. -/
theorem lookup?_of_mem (hnames : (names facts).Nodup) {fact : ComponentFacts}
    (hfact : fact ∈ facts) : lookup? facts fact.qualifiedName = some fact := by
  obtain ⟨other, hother⟩ := exists_lookup? (List.mem_map_of_mem hfact)
  have hsame := name_of_lookup? hother
  rw [hother, List.inj_on_of_nodup_map hnames (mem_of_lookup? hother) hfact hsame]

theorem mem_all_iff : name ∈ (KeySet.ofList (names old ++ names new)).toList ↔
    name ∈ names old ∨ name ∈ names new := by
  rw [← KeySet.mem_iff, KeySet.mem_ofList, List.mem_append]

/-- One of the versions has facts under every name that is compared. -/
theorem isSome_of_mem_all (h : name ∈ (KeySet.ofList (names old ++ names new)).toList) :
    (lookup? old name).isSome ∨ (lookup? new name).isSome :=
  (mem_all_iff.1 h).imp isSome_lookup?_iff.2 isSome_lookup?_iff.2

end Lookup

section OneName

variable {before after : Option ComponentFacts} {change : DriftChange}

@[simp]
theorem modification_qualifiedName (old new : ComponentFacts) :
    (modification old new).qualifiedName = new.qualifiedName :=
  rfl

@[simp]
theorem modification_kind (old new : ComponentFacts) : (modification old new).kind = .modified :=
  rfl

theorem modification_category (old new : ComponentFacts) :
    (modification old new).category = modificationCategory old new :=
  rfl

theorem modificationCategory_eq_formattingOnly_iff {old new : ComponentFacts} :
    modificationCategory old new = .formattingOnly ↔ old.structureHash = new.structureHash := by
  by_cases hsame : old.structureHash = new.structureHash
  · simp [modificationCategory, hsame]
  · refine ⟨fun hcategory => ?_, fun h => absurd h hsame⟩
    -- Each of the other branches gives a category of its own.
    simp only [modificationCategory, if_neg hsame] at hcategory
    split_ifs at hcategory

/-- A change is an addition, a removal, or a modification of facts with different texts. -/
theorem change?_cases (h : change? before after = some change) :
    (∃ new, before = none ∧ after = some new ∧ change = addition new) ∨
      (∃ old, before = some old ∧ after = none ∧ change = removal old) ∨
      ∃ old new, before = some old ∧ after = some new ∧ old.contentHash ≠ new.contentHash ∧
        change = modification old new := by
  cases before with
  | none =>
    cases after with
    | none => simp [change?] at h
    | some new => exact .inl ⟨new, rfl, rfl, (Option.some.inj h).symm⟩
  | some old =>
    cases after with
    | none => exact .inr (.inl ⟨old, rfl, rfl, (Option.some.inj h).symm⟩)
    | some new =>
      by_cases hsame : old.contentHash = new.contentHash
      · simp [change?, hsame] at h
      · rw [change?, if_neg hsame] at h
        exact .inr (.inr ⟨old, new, rfl, rfl, hsame, (Option.some.inj h).symm⟩)

theorem kind_of_change? (h : change? before after = some change) :
    change.kind = classify before after := by
  obtain ⟨new, rfl, rfl, rfl⟩ | ⟨old, rfl, rfl, rfl⟩ | ⟨old, new, rfl, rfl, hne, rfl⟩ :=
    change?_cases h
  · rfl
  · rfl
  · rw [modification_kind, classify, if_neg hne]

/-- A change is as severe as its category. -/
theorem severity_of_change? (h : change? before after = some change) :
    change.severity = change.category.severity := by
  obtain ⟨new, _, _, rfl⟩ | ⟨old, _, _, rfl⟩ | ⟨old, new, _, _, _, rfl⟩ := change?_cases h
  · rfl
  · rfl
  · rfl

/-- A name that a version has is without a change exactly if it is unchanged. -/
theorem change?_eq_none_iff (h : before.isSome ∨ after.isSome) :
    change? before after = none ↔ classify before after = .unchanged := by
  cases before with
  | none =>
    obtain ⟨new, rfl⟩ := Option.isSome_iff_exists.1 (h.resolve_left (by simp))
    simp [change?, classify]
  | some old =>
    cases after with
    | none => simp [change?, classify]
    | some new =>
      by_cases hsame : old.contentHash = new.contentHash <;> simp [change?, classify, hsame]

/-- A name is added, modified or unchanged exactly if the new version has it. -/
theorem classify_mem_new (before after : Option ComponentFacts) :
    classify before after ∈ [.added, .modified, .unchanged] ↔ after.isSome := by
  cases before with
  | none => cases after <;> simp [classify]
  | some before =>
    cases after with
    | none => simp [classify]
    | some after =>
      by_cases hsame : before.contentHash = after.contentHash <;> simp [classify, hsame]

/-- A name of one of the versions is removed, modified or unchanged exactly if the old version has
it. -/
theorem classify_mem_old (h : before.isSome ∨ after.isSome) :
    classify before after ∈ [.removed, .modified, .unchanged] ↔ before.isSome := by
  cases before with
  | none =>
    obtain ⟨after, rfl⟩ := Option.isSome_iff_exists.1 (h.resolve_left (by simp))
    simp [classify]
  | some before =>
    cases after with
    | none => simp [classify]
    | some after =>
      by_cases hsame : before.contentHash = after.contentHash <;> simp [classify, hsame]

theorem classify_eq_added_iff {after : ComponentFacts} :
    classify before (some after) = .added ↔ before = none := by
  cases before with
  | none => simp [classify]
  | some before =>
    by_cases hsame : before.contentHash = after.contentHash <;> simp [classify, hsame]

theorem classify_ne_removed {after : ComponentFacts} :
    classify before (some after) ≠ .removed := by
  have hmem := (classify_mem_new before (some after)).2 rfl
  intro hremoved
  rw [hremoved] at hmem
  exact absurd hmem (by decide)

theorem classify_eq_unchanged_iff {after : ComponentFacts} :
    classify before (some after) = .unchanged ↔
      ∃ prior, before = some prior ∧ prior.contentHash = after.contentHash := by
  cases before with
  | none => simp [classify]
  | some before =>
    by_cases hsame : before.contentHash = after.contentHash <;> simp [classify, hsame]

/-- A modification is one of facts that the old version has, and its category tells whether the
trees are equal. -/
theorem exists_of_modified {after : ComponentFacts} (h : change? before (some after) = some change)
    (hkind : change.kind = .modified) :
    ∃ prior, before = some prior ∧
      (change.category = .formattingOnly ↔ prior.structureHash = after.structureHash) := by
  obtain ⟨new, _, _, rfl⟩ | ⟨old, _, _, rfl⟩ | ⟨old, new, rfl, hnew, _, rfl⟩ := change?_cases h
  · exact absurd hkind (by simp [addition])
  · exact absurd hkind (by simp [removal])
  · obtain rfl := Option.some.inj hnew
    exact ⟨old, rfl, by rw [modification_category, modificationCategory_eq_formattingOnly_iff]⟩

end OneName

section Found

variable {old new : List ComponentFacts} {name : String} {change : DriftChange}

/-- A change is about the name under which the facts were found. -/
theorem name_of_change? (h : change? (lookup? old name) (lookup? new name) = some change) :
    change.qualifiedName = name := by
  obtain ⟨after, _, hnew, rfl⟩ | ⟨before, hold, _, rfl⟩ | ⟨before, after, _, hnew, _, rfl⟩ :=
    change?_cases h
  · exact name_of_lookup? hnew
  · exact name_of_lookup? hold
  · rw [modification_qualifiedName]
    exact name_of_lookup? hnew

end Found

end Drift

end SourceLedger
