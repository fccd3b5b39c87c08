import Mathlib.Data.List.Dedup
import SourceLedger.Proofs.Passes

/-!
# Comparing versions

The order of the changes of a comparison, their kinds and the counts of its report follow from what
is said of one name.

## Main statements

* `Drift.mem_changes_compare` and `Drift.changes_compare_sorted` describe the list of changes.
* `DriftReport.changeFor_compare` says what became of a name of the new version.
* `Drift.summary_compare`, `Drift.summary_compare_new` and `Drift.summary_compare_old` add up the
  counts of a comparison.
* `Drift.summary_compare_beginning` compares facts with others that begin with them.
* `Drift.changes_compare_self` and `Drift.summary_compare_self` compare facts with themselves.
-/

namespace SourceLedger

namespace Drift

section Changes

variable {old new : List ComponentFacts} {name : String} {change : DriftChange}

/-- Changes are listed in the order of names, each name once. -/
theorem changes_compare_sorted (old new : List ComponentFacts) :
    (compare old new).changes.Pairwise fun x y => x.qualifiedName < y.qualifiedName := by
  rw [changes_compare]
  exact changes_sorted (KeySet.sorted _)

/-- The changes of a comparison are those of the names that a version has. -/
theorem mem_changes_compare :
    change ∈ (compare old new).changes ↔
      change? (lookup? old change.qualifiedName) (lookup? new change.qualifiedName) =
        some change := by
  rw [changes_compare]
  constructor
  · intro hchange
    obtain ⟨name, _, hname⟩ := List.mem_filterMap.1 hchange
    rw [name_of_change? hname]
    exact hname
  · intro hchange
    refine List.mem_filterMap.2 ⟨change.qualifiedName, ?_, hchange⟩
    rw [mem_all_iff, ← isSome_lookup?_iff, ← isSome_lookup?_iff]
    by_contra habsent
    simp only [not_or, Option.not_isSome_iff_eq_none] at habsent
    rw [habsent.1, habsent.2] at hchange
    exact absurd hchange (by simp [change?])

end Changes

section Counts

variable {facts old new : List ComponentFacts}

/-- As many names of a set have facts as there are names in the facts, if the set has them all. -/
theorem countP_lookup? {members : List String} (hmembers : members.Nodup)
    (h : ∀ name ∈ names facts, name ∈ members) :
    members.countP (fun name => (lookup? facts name).isSome) = (names facts).dedup.length := by
  have hperm :
      (members.filter fun name => (lookup? facts name).isSome).Perm (names facts).dedup := by
    refine (List.perm_ext_iff_of_nodup (hmembers.filter _) (List.nodup_dedup _)).2 fun name => ?_
    rw [List.mem_filter, isSome_lookup?_iff, List.mem_dedup]
    exact ⟨And.right, fun hname => ⟨h name hname, hname⟩⟩
  rw [List.countP_eq_length_filter, hperm.length_eq]

/-- Counts of different kinds of change add up to the names of which any of them became. -/
theorem count_add_add {first second third : ChangeKind} (h : [first, second, third].Nodup)
    (old new : List ComponentFacts) (members : List String) :
    count old new members first + count old new members second + count old new members third =
      members.countP fun name =>
        decide (classify (lookup? old name) (lookup? new name) ∈ [first, second, third]) := by
  unfold count
  induction members with
  | nil => rfl
  | cons name rest ih =>
    simp only [List.countP_cons, ← ih]
    generalize classify (lookup? old name) (lookup? new name) = kind
    -- The name counts for one of the kinds at most.
    simp only [List.nodup_cons, List.mem_cons, List.not_mem_nil, or_false, not_or] at h
    obtain ⟨⟨hsecond, hthird⟩, hother, _⟩ := h
    by_cases hfirst : kind = first
    · subst hfirst
      simp [hsecond, hthird]
      omega
    · by_cases heq : kind = second
      · subst heq
        simp [hfirst, hother]
        omega
      · by_cases hlast : kind = third
        · subst hlast
          simp [hfirst, heq]
          omega
        · simp [hfirst, heq, hlast]

/-- There are as many changes of a kind as names of which it became. -/
theorem countP_changes_compare {kind : ChangeKind} (hkind : kind ≠ .unchanged) :
    (compare old new).changes.countP (·.kind == kind) =
      count old new (KeySet.ofList (names old ++ names new)).toList kind := by
  rw [changes_compare, List.countP_filterMap]
  refine List.countP_congr fun name hname => ?_
  cases hchange : change? (lookup? old name) (lookup? new name) with
  | none =>
    rw [(change?_eq_none_iff (isSome_of_mem_all hname)).1 hchange]
    simp [hkind.symm]
  | some change =>
    simp [kind_of_change? hchange]

/-- There are as many changes as the counts of a report say. -/
theorem length_changes_compare (old new : List ComponentFacts) :
    (compare old new).changes.length = (compare old new).summary.added +
      (compare old new).summary.removed + (compare old new).summary.modified := by
  rw [changes_compare, counts_compare, counts, List.length_filterMap_eq_countP]
  refine Eq.trans ?_ (count_add_add (by decide) old new _).symm
  refine List.countP_congr fun name hname => ?_
  rw [← Option.ne_none_iff_isSome, Ne, change?_eq_none_iff (isSome_of_mem_all hname)]
  cases classify (lookup? old name) (lookup? new name) <;> decide

/-- The counts of a report add up to the names of both versions. -/
theorem summary_compare (old new : List ComponentFacts) :
    (compare old new).summary.added + (compare old new).summary.removed +
        (compare old new).summary.modified + (compare old new).summary.unchanged =
      (names old ++ names new).dedup.length := by
  have hlength : (KeySet.ofList (names old ++ names new)).toList.length =
      (names old ++ names new).dedup.length :=
    KeySet.length_toList (List.nodup_dedup _) fun name => by
      rw [KeySet.mem_ofList, List.mem_dedup]
  rw [counts_compare, counts]
  refine (congrArg (· + _) (count_add_add (by decide) old new _)).trans ?_
  rw [← hlength, List.length_eq_countP_add_countP
    fun name => classify (lookup? old name) (lookup? new name) == .unchanged, Nat.add_comm]
  refine congrArg (_ + ·) (List.countP_congr fun name _ => ?_)
  cases classify (lookup? old name) (lookup? new name) <;> decide

/-- The names of the new version are added, modified or unchanged. -/
theorem summary_compare_new (old new : List ComponentFacts) :
    (compare old new).summary.added + (compare old new).summary.modified +
      (compare old new).summary.unchanged = (names new).dedup.length := by
  rw [counts_compare, counts]
  refine (count_add_add (by decide) old new _).trans ?_
  rw [List.countP_congr fun name _ => (decide_eq_true_iff.trans (classify_mem_new _ _))]
  exact countP_lookup? (KeySet.nodup _) fun name hname => mem_all_iff.2 (.inr hname)

/-- The names of the old version are removed, modified or unchanged. -/
theorem summary_compare_old (old new : List ComponentFacts) :
    (compare old new).summary.removed + (compare old new).summary.modified +
      (compare old new).summary.unchanged = (names old).dedup.length := by
  rw [counts_compare, counts]
  refine (count_add_add (by decide) old new _).trans ?_
  rw [List.countP_congr fun name hname =>
    (decide_eq_true_iff.trans (classify_mem_old (isSome_of_mem_all hname)))]
  exact countP_lookup? (KeySet.nodup _) fun name hname => mem_all_iff.2 (.inl hname)

end Counts

section Beginning

variable {old new facts : List ComponentFacts} {name : String}

theorem classify_self (fact : ComponentFacts) : classify (some fact) (some fact) = .unchanged :=
  if_pos rfl

theorem change?_self (fact : Option ComponentFacts) : change? fact fact = none := by
  cases fact with
  | none => rfl
  | some fact => exact if_pos rfl

/-- Where facts begin with others, the names of the others are unchanged and all the rest are
added. -/
theorem classify_beginning (hnames : (names new).Nodup) (h : old <+: new)
    (hname : name ∈ (KeySet.ofList (names old ++ names new)).toList) :
    classify (lookup? old name) (lookup? new name) = .added ∨
      classify (lookup? old name) (lookup? new name) = .unchanged := by
  by_cases hmem : name ∈ names old
  · obtain ⟨fact, hfact, rfl⟩ := List.mem_map.1 hmem
    rw [lookup?_of_mem hnames (h.subset hfact),
      lookup?_of_mem (hnames.sublist (h.sublist.map _)) hfact, classify_self]
    exact .inr rfl
  · obtain ⟨fact, hfact⟩ := exists_lookup? ((mem_all_iff.1 hname).resolve_left hmem)
    rw [lookup?_eq_none_iff.2 hmem, hfact]
    exact .inl rfl

theorem summary_compare_beginning (hnames : (names new).Nodup) (h : old <+: new) :
    (compare old new).summary = ⟨new.length - old.length, 0, 0, old.length⟩ := by
  have hnone {kind : ChangeKind} (hadded : kind ≠ .added) (hunchanged : kind ≠ .unchanged) :
      count old new (KeySet.ofList (names old ++ names new)).toList kind = 0 := by
    refine List.countP_eq_zero.2 fun name hname => ?_
    rcases classify_beginning hnames h hname with hclass | hclass
    · simp [hclass, hadded.symm]
    · simp [hclass, hunchanged.symm]
  have hremoved : (compare old new).summary.removed = 0 := by
    rw [counts_compare]
    exact hnone (by decide) (by decide)
  have hmodified : (compare old new).summary.modified = 0 := by
    rw [counts_compare]
    exact hnone (by decide) (by decide)
  have hbefore := summary_compare_old old new
  have hafter := summary_compare_new old new
  have hold : (names old).Nodup := hnames.sublist (h.sublist.map _)
  rw [hold.dedup, names, List.length_map] at hbefore
  rw [hnames.dedup, names, List.length_map] at hafter
  have hunchanged : (compare old new).summary.unchanged = old.length := by omega
  have hadded : (compare old new).summary.added = new.length - old.length := by omega
  rw [← hadded, ← hunchanged]
  exact congrArg₂ (DriftSummary.mk _ · · _) hremoved hmodified

/-- Facts have no changes from themselves. -/
theorem changes_compare_self (facts : List ComponentFacts) :
    (compare facts facts).changes = [] := by
  simp [changes_compare, change?_self]

/-- All components are unchanged when facts are compared with themselves. -/
theorem summary_compare_self (h : (names facts).Nodup) :
    (compare facts facts).summary = ⟨0, 0, 0, facts.length⟩ := by
  rw [summary_compare_beginning h List.prefix_rfl, Nat.sub_self]

end Beginning

end Drift

/-- What became of a name that the new version has. -/
theorem DriftReport.changeFor_compare {old new : List ComponentFacts} {name : String}
    (h : name ∈ Drift.names new) :
    (Drift.compare old new).changeFor name =
      Drift.classify (Drift.lookup? old name) (Drift.lookup? new name) := by
  have hmem : name ∈ (KeySet.ofList (Drift.names new)).toList := KeySet.mem_ofList.2 h
  rw [changeFor, Drift.classification_compare, List.lookup_graph _ hmem]
  rfl

/-- The names of an extraction's facts are those of its components. -/
theorem Findings.names_facts (findings : Findings) :
    Drift.names findings.facts = findings.components.map (·.qualifiedName) := by
  rw [Drift.names, facts, List.map_map]
  conv_rhs => rw [← List.zipIdx_map_fst 0 findings.components, List.map_map]
  rfl

end SourceLedger
