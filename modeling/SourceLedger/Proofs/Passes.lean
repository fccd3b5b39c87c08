import Mathlib.Data.List.Sort
import SourceLedger.Proofs.Entries

/-!
# A comparison in one pass

A comparison goes over the new version, then over what only the old version has, and sorts in the
end. The same report comes from going once over the names of both versions, in order, and this form
is the one to reason about: every name stands on its own.

The passes are taken apart into steps. A step adds what `change?` says of a name to the changes,
counts the name as `classify` says, and the first pass enters it in the classification, whose names
all come before it. The names of the two passes are, in another order, the names of both versions.

## Main definitions

* `Drift.survey` is the report in one pass.

## Main statements

* `Drift.takeNew_eq` and `Drift.takeOld_eq` are the steps, `Drift.foldl_takeNew` and
  `Drift.foldl_takeOld` the passes.
* `Drift.compare_eq_survey` says that both forms give the same report, and
  `Drift.changes_compare`, `Drift.counts_compare` and `Drift.classification_compare` say it of the
  parts of a report.
-/

namespace SourceLedger

namespace DriftSummary

/-- The counts with one more name of which some kind of change became. -/
def tally (summary : DriftSummary) : ChangeKind → DriftSummary
  | .added => { summary with added := summary.added + 1 }
  | .removed => { summary with removed := summary.removed + 1 }
  | .modified => { summary with modified := summary.modified + 1 }
  | .unchanged => { summary with unchanged := summary.unchanged + 1 }

end DriftSummary

namespace Drift

/-- The number of names of which some kind of change became. -/
def count (old new : List ComponentFacts) (names : List String) (kind : ChangeKind) : Nat :=
  names.countP fun name => classify (lookup? old name) (lookup? new name) == kind

/-- The numbers of names of which each kind of change became. -/
def counts (old new : List ComponentFacts) (names : List String) : DriftSummary where
  added := count old new names .added
  removed := count old new names .removed
  modified := count old new names .modified
  unchanged := count old new names .unchanged

/-- The drift from one version to the next, in one pass over the names of both. -/
def survey (old new : List ComponentFacts) : DriftReport :=
  let all := (KeySet.ofList (names old ++ names new)).toList
  { changes := all.filterMap fun name => change? (lookup? old name) (lookup? new name)
    summary := counts old new all
    classification := (KeySet.ofList (names new)).toList.map fun name =>
      (name, classify (lookup? old name) (lookup? new name)) }

variable {old new : List ComponentFacts} {name : String} {report : DriftReport}

section Steps

/-- A name that comes after all names of a classification is entered at the end. -/
theorem insertClass_of_forall_lt (kind : ChangeKind)
    {classes : List (String × ChangeKind)} (h : ∀ entry ∈ classes, entry.1 < name) :
    insertClass name kind classes = classes ++ [(name, kind)] := by
  induction classes with
  | nil => rfl
  | cons first rest ih =>
    have hfirst := h first (by simp)
    have hne : name ≠ first.1 := fun heq => String.lt_irrefl _ (heq ▸ hfirst)
    rw [insertClass, if_neg (String.lt_asymm hfirst), if_neg hne,
      ih fun entry hentry => h entry (by simp [hentry])]
    rfl

/-- The step of the first pass: what is said of a name is added, counted and entered. -/
theorem takeNew_eq (old : List ComponentFacts) {current : ComponentFacts}
    (hcurrent : lookup? new name = some current)
    (hbefore : ∀ entry ∈ report.classification, entry.1 < name) :
    takeNew old report current =
      { changes := report.changes ++ (change? (lookup? old name) (lookup? new name)).toList
        summary := report.summary.tally (classify (lookup? old name) (lookup? new name))
        classification :=
          report.classification ++ [(name, classify (lookup? old name) (lookup? new name))] } := by
  obtain rfl := name_of_lookup? hcurrent
  rw [takeNew, hcurrent]
  cases lookup? old current.qualifiedName with
  | none => simp [change?, classify, DriftSummary.tally, insertClass_of_forall_lt _ hbefore]
  | some previous =>
    by_cases hsame : previous.contentHash = current.contentHash <;>
      simp [change?, classify, DriftSummary.tally, insertClass_of_forall_lt _ hbefore, hsame]

/-- The step of the second pass: a name that the new version has is left out, and what is said of
any other is added and counted. -/
theorem takeOld_eq {previous : ComponentFacts} (hprevious : lookup? old name = some previous)
    (report : DriftReport) :
    takeOld new report previous =
      if (lookup? new name).isSome then report
      else
        { report with
          changes := report.changes ++ (change? (lookup? old name) (lookup? new name)).toList
          summary := report.summary.tally (classify (lookup? old name) (lookup? new name)) } := by
  obtain rfl := name_of_lookup? hprevious
  rw [takeOld, hprevious]
  cases lookup? new previous.qualifiedName with
  | none => simp [change?, classify, DriftSummary.tally]
  | some current => simp

end Steps

section Runs

variable {members : List String}

/-- The first pass over some names. All names of the classification come before them, so they are
entered one after another at the end. -/
theorem foldl_takeNew (hmembers : ∀ name ∈ members, name ∈ names new)
    (hsorted : members.Pairwise (· < ·))
    (hbefore : ∀ entry ∈ report.classification, ∀ name ∈ members, entry.1 < name) :
    (members.filterMap (lookup? new)).foldl (takeNew old) report =
      { changes := report.changes ++
          members.filterMap fun name => change? (lookup? old name) (lookup? new name)
        summary := members.foldl (fun summary name =>
          summary.tally (classify (lookup? old name) (lookup? new name))) report.summary
        classification := report.classification ++ members.map fun name =>
          (name, classify (lookup? old name) (lookup? new name)) } := by
  induction members generalizing report with
  | nil => simp
  | cons name rest ih =>
    obtain ⟨hfirst, hrest⟩ := List.pairwise_cons.1 hsorted
    obtain ⟨current, hcurrent⟩ := exists_lookup? (hmembers name (by simp))
    have hstep := takeNew_eq old hcurrent fun entry hentry =>
      hbefore entry hentry name (by simp)
    rw [List.filterMap_cons_some hcurrent, List.foldl_cons, hstep,
      ih (fun other hother => hmembers other (by simp [hother])) hrest]
    · simp [List.filterMap_eq_flatMap_toList]
    · intro entry hentry other hother
      rcases List.mem_append.1 hentry with hentry | hentry
      · exact hbefore entry hentry other (by simp [hother])
      · obtain rfl := List.mem_singleton.1 hentry
        exact hfirst other hother

/-- The second pass over some names. -/
theorem foldl_takeOld (hmembers : ∀ name ∈ members, name ∈ names old) (report : DriftReport) :
    (members.filterMap (lookup? old)).foldl (takeOld new) report =
      let dropped := members.filter fun name => (lookup? new name).isNone
      { changes := report.changes ++
          dropped.filterMap fun name => change? (lookup? old name) (lookup? new name)
        summary := dropped.foldl (fun summary name =>
          summary.tally (classify (lookup? old name) (lookup? new name))) report.summary
        classification := report.classification } := by
  induction members generalizing report with
  | nil => simp
  | cons name rest ih =>
    obtain ⟨previous, hprevious⟩ := exists_lookup? (hmembers name (by simp))
    rw [List.filterMap_cons_some hprevious, List.foldl_cons, takeOld_eq hprevious,
      ih fun other hother => hmembers other (by simp [hother])]
    cases hnew : lookup? new name with
    | none => simp [hnew, List.filterMap_eq_flatMap_toList]
    | some current => simp [hnew]

/-- Counting names one after another is counting the names of each kind. -/
theorem foldl_tally (members : List String) (summary : DriftSummary) :
    members.foldl (fun summary name =>
        summary.tally (classify (lookup? old name) (lookup? new name))) summary =
      { added := summary.added + count old new members .added
        removed := summary.removed + count old new members .removed
        modified := summary.modified + count old new members .modified
        unchanged := summary.unchanged + count old new members .unchanged } := by
  induction members generalizing summary with
  | nil => rfl
  | cons name rest ih =>
    rw [List.foldl_cons, ih]
    simp only [count, List.countP_cons]
    cases classify (lookup? old name) (lookup? new name) <;>
      simp [DriftSummary.tally] <;> omega

end Runs

section Whole

/-- The names of the first pass and those that the second pass takes up are the names of both
versions, each once. -/
theorem perm_names (old new : List ComponentFacts) :
    ((KeySet.ofList (names new)).toList ++
        (KeySet.ofList (names old)).toList.filter fun name => (lookup? new name).isNone).Perm
      (KeySet.ofList (names old ++ names new)).toList := by
  have hnodup : ((KeySet.ofList (names new)).toList ++
      (KeySet.ofList (names old)).toList.filter fun name => (lookup? new name).isNone).Nodup := by
    refine List.nodup_append.2 ⟨KeySet.nodup _, (KeySet.nodup _).filter _, ?_⟩
    rintro name hname other hother rfl
    have hnone := (List.mem_filter.1 hother).2
    rw [Option.isNone_iff_eq_none, lookup?_eq_none_iff] at hnone
    exact hnone (KeySet.mem_ofList.1 hname)
  refine (List.perm_ext_iff_of_nodup hnodup (KeySet.nodup _)).2 fun name => ?_
  rw [List.mem_append, List.mem_filter, mem_all_iff, Option.isNone_iff_eq_none,
    lookup?_eq_none_iff, ← KeySet.mem_iff, ← KeySet.mem_iff, KeySet.mem_ofList, KeySet.mem_ofList]
  by_cases hname : name ∈ names new <;> simp [hname]

/-- Changes in the order of names are of different names. -/
theorem nodup_names {changes : List DriftChange}
    (h : changes.Pairwise fun x y => x.qualifiedName < y.qualifiedName) :
    (changes.map (·.qualifiedName)).Nodup :=
  List.pairwise_map.2 (h.imp String.ne_of_lt)

theorem sortChanges_eq_insertionSort (changes : List DriftChange) :
    sortChanges changes = changes.insertionSort fun x y => x.qualifiedName ≤ y.qualifiedName := by
  have hinsert (change : DriftChange) (sorted : List DriftChange) : insertChange change sorted =
      sorted.orderedInsert (fun x y => x.qualifiedName ≤ y.qualifiedName) change := by
    induction sorted with
    | nil => rfl
    | cons first rest ih => rw [insertChange, List.orderedInsert_cons, ih]
  induction changes with
  | nil => rfl
  | cons first rest ih =>
    rw [List.insertionSort_cons, ← ih, ← hinsert]
    rfl

/-- Changes that are in another order than that of their names are sorted into it. -/
theorem sortChanges_of_perm {changes sorted : List DriftChange} (hperm : changes.Perm sorted)
    (hsorted : sorted.Pairwise fun x y => x.qualifiedName < y.qualifiedName) :
    sortChanges changes = sorted := by
  let le (x y : DriftChange) : Prop := x.qualifiedName ≤ y.qualifiedName
  have : Std.Total le := ⟨fun x y => String.le_total x.qualifiedName y.qualifiedName⟩
  have : IsTrans DriftChange le := ⟨fun _ _ _ => String.le_trans⟩
  have hall : (changes.insertionSort le).Perm sorted := (List.perm_insertionSort le _).trans hperm
  have hle : sorted.Pairwise le := hsorted.imp fun hlt => String.not_lt.1 (String.lt_asymm hlt)
  rw [sortChanges_eq_insertionSort]
  -- Equal names belong to one change, so the order of names leaves no choice.
  refine List.Perm.eq_of_pairwise (fun x y hx hy hxy hyx => ?_) (List.pairwise_insertionSort le _)
    hle hall
  exact List.inj_on_of_nodup_map (nodup_names hsorted) (hall.mem_iff.1 hx) hy
    (String.le_antisymm hxy hyx)

/-- What is said of names in increasing order is in the order of names. -/
theorem changes_sorted {members : List String} (hsorted : members.Pairwise (· < ·)) :
    (members.filterMap fun name => change? (lookup? old name) (lookup? new name)).Pairwise
      fun x y => x.qualifiedName < y.qualifiedName := by
  refine List.pairwise_filterMap.2 (hsorted.imp ?_)
  intro first second hlt x hx y hy
  rw [name_of_change? hx, name_of_change? hy]
  exact hlt

/-- Both passes and the sorting make the report of the one pass. -/
theorem compare_eq_survey (old new : List ComponentFacts) : compare old new = survey old new := by
  have hperm := perm_names old new
  rw [compare, byName, byName,
    foldl_takeNew (fun _ => KeySet.mem_ofList.1) (KeySet.sorted _) (by simp),
    foldl_takeOld fun _ => KeySet.mem_ofList.1]
  simp only [List.nil_append, ← List.filterMap_append, ← List.foldl_append]
  rw [sortChanges_of_perm (hperm.filterMap _) (changes_sorted (KeySet.sorted _)), foldl_tally]
  simp only [count, hperm.countP_eq, Nat.zero_add]
  rfl

theorem changes_compare (old new : List ComponentFacts) :
    (compare old new).changes = (KeySet.ofList (names old ++ names new)).toList.filterMap
      fun name => change? (lookup? old name) (lookup? new name) :=
  congrArg DriftReport.changes (compare_eq_survey old new)

theorem counts_compare (old new : List ComponentFacts) :
    (compare old new).summary = counts old new (KeySet.ofList (names old ++ names new)).toList :=
  congrArg DriftReport.summary (compare_eq_survey old new)

theorem classification_compare (old new : List ComponentFacts) :
    (compare old new).classification = (KeySet.ofList (names new)).toList.map
      fun name => (name, classify (lookup? old name) (lookup? new name)) :=
  congrArg DriftReport.classification (compare_eq_survey old new)

end Whole

end Drift

end SourceLedger
