import Mathlib.Data.List.Forall2
import Mathlib.Data.List.Rotate
import SourceLedger.Proofs.Comparison

/-!
# Symmetries of a comparison

A comparison sees two lists of facts through their look-ups, so the order of the components in a
version does not matter as long as their names are different. And it is fair to both versions: seen
from the new version to the old one, what was added is removed, what was removed is added, and a
modification is about the same thing with its values exchanged.

## Main definitions

* `DriftChange.Mirrors` relates a change to the change that takes it back.
* `ChangeKind.mirror` is the kind of that change.

## Main statements

* `Drift.compare_congr` says that a comparison depends on the look-ups only.
* `Drift.compare_order_independent` changes the order of components.
* `Drift.mirrors_change?` exchanges the versions for one name.
* `Drift.compare_mirrored` exchanges the versions.
-/

namespace SourceLedger

/-- A change and the change back. -/
inductive DriftChange.Mirrors : DriftChange → DriftChange → Prop
  | componentAdded (name value : String) :
    Mirrors
      ⟨name, .added, .componentAdded, DriftCategory.componentAdded.severity, none, some value⟩
      ⟨name, .removed, .componentRemoved, DriftCategory.componentRemoved.severity, some value, none⟩
  | importAdded (name value : String) :
    Mirrors ⟨name, .added, .importAdded, DriftCategory.importAdded.severity, none, some value⟩
      ⟨name, .removed, .importRemoved, DriftCategory.importRemoved.severity, some value, none⟩
  | componentRemoved (name value : String) :
    Mirrors
      ⟨name, .removed, .componentRemoved, DriftCategory.componentRemoved.severity, some value, none⟩
      ⟨name, .added, .componentAdded, DriftCategory.componentAdded.severity, none, some value⟩
  | importRemoved (name value : String) :
    Mirrors ⟨name, .removed, .importRemoved, DriftCategory.importRemoved.severity, some value, none⟩
      ⟨name, .added, .importAdded, DriftCategory.importAdded.severity, none, some value⟩
  | modified (name : String) (category : DriftCategory) (severity : Severity)
      (before after : Option String) :
    Mirrors ⟨name, .modified, category, severity, before, after⟩
      ⟨name, .modified, category, severity, after, before⟩

/-- What became of a component, seen from the new version to the old one. -/
def ChangeKind.mirror : ChangeKind → ChangeKind
  | .added => .removed
  | .removed => .added
  | .modified => .modified
  | .unchanged => .unchanged

theorem ChangeKind.mirror_eq_iff {kind other : ChangeKind} :
    kind.mirror = other ↔ kind = other.mirror := by
  cases kind <;> cases other <;> decide

namespace DriftChange.Mirrors

variable {change other : DriftChange}

theorem qualifiedName (h : change.Mirrors other) : other.qualifiedName = change.qualifiedName := by
  cases h <;> rfl

theorem symm (h : change.Mirrors other) : other.Mirrors change := by
  cases h with
  | componentAdded name value => exact .componentRemoved name value
  | importAdded name value => exact .importRemoved name value
  | componentRemoved name value => exact .componentAdded name value
  | importRemoved name value => exact .importAdded name value
  | modified name category severity before after =>
    exact .modified name category severity after before

theorem severity (h : change.Mirrors other) (hkind : change.kind = .modified) :
    other.severity = change.severity := by
  cases h with
  | modified => rfl
  | _ => simp at hkind

end DriftChange.Mirrors

namespace Drift

section Order

variable {facts other old old' new new' : List ComponentFacts}

theorem mem_names_congr (h : ∀ name, lookup? other name = lookup? facts name) (name : String) :
    name ∈ names other ↔ name ∈ names facts := by
  rw [← isSome_lookup?_iff, h, isSome_lookup?_iff]

/-- A comparison depends on what is found under the names only. -/
theorem compare_congr (hold : ∀ name, lookup? old' name = lookup? old name)
    (hnew : ∀ name, lookup? new' name = lookup? new name) :
    compare old' new' = compare old new := by
  have hall :
      KeySet.ofList (names old' ++ names new') = KeySet.ofList (names old ++ names new) := by
    refine KeySet.ofList_congr fun name => ?_
    rw [List.mem_append, List.mem_append, mem_names_congr hold, mem_names_congr hnew]
  have hnames : KeySet.ofList (names new') = KeySet.ofList (names new) :=
    KeySet.ofList_congr (mem_names_congr hnew)
  simp only [compare_eq_survey, survey, counts, count, hall, hnames, hold, hnew]

/-- Where no name is repeated, the order of the entries does not matter for what is found. -/
theorem lookup?_perm (hnames : (names facts).Nodup) (hperm : other.Perm facts) (name : String) :
    lookup? other name = lookup? facts name := by
  have hsame : (names other).Perm (names facts) := hperm.map _
  cases hfact : lookup? facts name with
  | none =>
    rw [lookup?_eq_none_iff] at hfact ⊢
    intro hmem
    exact hfact (hsame.mem_iff.1 hmem)
  | some fact =>
    rw [← name_of_lookup? hfact]
    exact lookup?_of_mem (hsame.nodup_iff.2 hnames) (hperm.mem_iff.2 (mem_of_lookup? hfact))

/-- The order of components does not matter: versions in which no name is repeated give the same
report in any order, and a version has not drifted from itself in another order. -/
theorem compare_order_independent (hold : (names old).Nodup) (hnew : (names new).Nodup)
    (hold' : old'.Perm old) (hnew' : new'.Perm new) :
    compare old' new' = compare old new ∧
      (compare old old').changes = [] ∧ (compare old old').summary = ⟨0, 0, 0, old.length⟩ := by
  refine ⟨compare_congr (lookup?_perm hold hold') (lookup?_perm hnew hnew'), ?_⟩
  have hself : compare old old' = compare old old :=
    compare_congr (fun _ => rfl) (lookup?_perm hold hold')
  rw [hself]
  exact ⟨changes_compare_self old, summary_compare_self hold⟩

/-- An import and two functions, one of which calls the other. -/
def outlined : List ComponentFacts :=
  [⟨"import:os", .importing, "a1", "b1", none, ∅, .ofList ["os"], ∅⟩,
    ⟨"f", .function, "a2", "b2", some "(x)", .ofList ["g"], ∅, .ofList ["x:parameter:write"]⟩,
    ⟨"g", .function, "a3", "b3", some "()", ∅, ∅, ∅⟩]

/-- The import is gone, the caller has another parameter, and there is a class. -/
def revised : List ComponentFacts :=
  [⟨"f", .function, "a4", "b4", some "(x,y)", .ofList ["g"], ∅, .ofList ["x:parameter:write"]⟩,
    ⟨"g", .function, "a3", "b3", some "()", ∅, ∅, ∅⟩,
    ⟨"A", .classDef, "a5", "b5", none, ∅, ∅, ∅⟩]

theorem compare_order_independent_rotated :
    compare (outlined.rotate 1) revised.reverse = compare outlined revised ∧
      (compare outlined revised).summary = ⟨1, 1, 1, 1⟩ ∧
      (compare outlined (outlined.rotate 1)).changes = [] ∧
      (compare outlined (outlined.rotate 1)).summary = ⟨0, 0, 0, 3⟩ := by
  obtain ⟨hsame, hchanges, hsummary⟩ :=
    compare_order_independent (by decide : (names outlined).Nodup)
      (by decide : (names revised).Nodup) (List.rotate_perm outlined 1) (List.reverse_perm revised)
  exact ⟨hsame, by decide +kernel, hchanges, hsummary⟩

end Order

section Exchange

variable {old new : List ComponentFacts}

theorem modificationCategory_comm (before after : ComponentFacts) :
    modificationCategory after before = modificationCategory before after := by
  simp only [modificationCategory, ne_eq, eq_comm (a := after.structureHash),
    eq_comm (a := after.signature), eq_comm (a := after.imports), eq_comm (a := after.calls),
    eq_comm (a := after.symbols)]

theorem mirrors_addition (fact : ComponentFacts) : (addition fact).Mirrors (removal fact) := by
  by_cases himport : fact.kind = .importing
  · simp only [addition, removal, if_pos himport]
    exact .importAdded _ _
  · simp only [addition, removal, if_neg himport]
    exact .componentAdded _ _

theorem mirrors_modification {before after : ComponentFacts}
    (hname : before.qualifiedName = after.qualifiedName) :
    (modification before after).Mirrors (modification after before) := by
  simp only [modification, modificationCategory_comm before after, hname]
  by_cases hsignature : modificationCategory before after = .signatureChanged
  · rw [if_pos hsignature, if_pos hsignature]
    exact .modified _ _ _ _ _
  · rw [if_neg hsignature, if_neg hsignature]
    exact .modified _ _ _ _ _

/-- The change of a name and its change back. -/
theorem mirrors_change? (old new : List ComponentFacts) (name : String) :
    Option.Rel DriftChange.Mirrors (change? (lookup? old name) (lookup? new name))
      (change? (lookup? new name) (lookup? old name)) := by
  cases hold : lookup? old name with
  | none =>
    cases lookup? new name with
    | none => exact .none
    | some after => exact .some (mirrors_addition after)
  | some before =>
    cases hnew : lookup? new name with
    | none => exact .some (mirrors_addition before).symm
    | some after =>
      by_cases hsame : before.contentHash = after.contentHash
      · rw [change?, change?, if_pos hsame, if_pos hsame.symm]
        exact .none
      · rw [change?, change?, if_neg hsame, if_neg (Ne.symm hsame)]
        exact .some (mirrors_modification
          ((name_of_lookup? hold).trans (name_of_lookup? hnew).symm))

theorem forall₂_filterMap {α β : Type} {r : β → β → Prop} {f g : α → Option β}
    (h : ∀ x, Option.Rel r (f x) (g x)) (members : List α) :
    List.Forall₂ r (members.filterMap f) (members.filterMap g) := by
  induction members with
  | nil => exact .nil
  | cons x rest ih =>
    have hx := h x
    rw [List.filterMap_cons, List.filterMap_cons]
    generalize f x = y at hx
    generalize g x = z at hx
    cases hx with
    | none => exact ih
    | some hyz => exact .cons hyz ih

theorem classify_exchange {before after : Option ComponentFacts}
    (h : before.isSome ∨ after.isSome) :
    classify after before = (classify before after).mirror := by
  cases before with
  | none =>
    obtain ⟨new, rfl⟩ := Option.isSome_iff_exists.1 (h.resolve_left (by simp))
    rfl
  | some old =>
    cases after with
    | none => rfl
    | some new =>
      by_cases hsame : old.contentHash = new.contentHash
      · rw [classify, classify, if_pos hsame, if_pos hsame.symm]
        rfl
      · rw [classify, classify, if_neg hsame, if_neg (Ne.symm hsame)]
        rfl

theorem count_exchange (old new : List ComponentFacts) (kind : ChangeKind) :
    count new old (KeySet.ofList (names old ++ names new)).toList kind =
      count old new (KeySet.ofList (names old ++ names new)).toList kind.mirror := by
  refine List.countP_congr fun name hname => ?_
  rw [classify_exchange (isSome_of_mem_all hname), beq_iff_eq, beq_iff_eq, ChangeKind.mirror_eq_iff]

/-- A comparison is fair to both versions. With the versions exchanged, what was added counts as
removed and the other way round, as much is modified and unchanged, and the changes of the same
names stand in the same order, each taking back its counterpart. -/
theorem compare_mirrored (old new : List ComponentFacts) :
    (compare new old).summary =
        { added := (compare old new).summary.removed
          removed := (compare old new).summary.added
          modified := (compare old new).summary.modified
          unchanged := (compare old new).summary.unchanged } ∧
      (compare new old).changes.map (·.qualifiedName) =
        (compare old new).changes.map (·.qualifiedName) ∧
      List.Forall₂ (fun change other => change.Mirrors other ∧
          (change.kind = .modified → other.severity = change.severity))
        (compare old new).changes (compare new old).changes := by
  have hall : KeySet.ofList (names new ++ names old) = KeySet.ofList (names old ++ names new) := by
    refine KeySet.ofList_congr fun name => ?_
    rw [List.mem_append, List.mem_append, or_comm]
  have hmirrors :
      List.Forall₂ DriftChange.Mirrors (compare old new).changes (compare new old).changes := by
    rw [changes_compare, changes_compare, hall]
    exact forall₂_filterMap (mirrors_change? old new) _
  refine ⟨?_, ?_, hmirrors.imp fun _ _ h => ⟨h, h.severity⟩⟩
  · simp only [counts_compare, counts, hall, count_exchange]
    rfl
  · symm
    rw [← List.forall₂_eq_eq_eq, List.forall₂_map_left_iff, List.forall₂_map_right_iff]
    exact hmirrors.imp fun _ _ h => h.qualifiedName.symm

end Exchange

end Drift

end SourceLedger
