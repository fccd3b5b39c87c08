import Mathlib.Data.Finset.Card
import SourceLedger.Proofs.ByteOrder
import SourceLedger.Proofs.Comparison

/-!
# What a drift report says

The rules of a report, said without looking anything up: which entry of a list counts for a name,
what becomes of a name, and what is written down about it. A comparison follows the rules, and they
leave no choice: a report that follows them is the one that the comparison makes.

## Main definitions

* `Drift.IsEntry` is the entry that counts for a name.
* `Drift.Becomes` says what becomes of a name between two versions.
* `Drift.differences` lists what differs between two trees.
* `Drift.IsReport` collects the rules of a report.

## Main statements

* `Drift.becomes_iff` ties the rules to the look-ups of a comparison.
* `Drift.IsReport.unique` says that two reports on the same versions are equal.
* `Drift.report_determined` says that a comparison makes the one report that follows the rules.
-/

namespace SourceLedger

attribute [ext] DriftChange DriftReport

namespace Drift

variable {facts old new : List ComponentFacts} {name : String} {kind : ChangeKind}
  {report other : DriftReport}

/-- The entry that counts for a name: the last one that has it. -/
def IsEntry (facts : List ComponentFacts) (name : String) (fact : ComponentFacts) : Prop :=
  ∃ front back, facts = front ++ fact :: back ∧ fact.qualifiedName = name ∧ name ∉ names back

/-- What becomes of a name: it is added if only the new version has it, removed if only the old
version has it, and otherwise modified or unchanged, as the texts are different or equal. -/
inductive Becomes (old new : List ComponentFacts) (name : String) : ChangeKind → Prop
  | added : name ∉ names old → name ∈ names new → Becomes old new name .added
  | removed : name ∈ names old → name ∉ names new → Becomes old new name .removed
  | modified {before after : ComponentFacts} : IsEntry old name before → IsEntry new name after →
      before.contentHash ≠ after.contentHash → Becomes old new name .modified
  | unchanged {before after : ComponentFacts} : IsEntry old name before → IsEntry new name after →
      before.contentHash = after.contentHash → Becomes old new name .unchanged

/-- What differs between facts with different trees, in the order in which it matters. -/
def differences (before after : ComponentFacts) : List DriftCategory :=
  (if before.signature = after.signature then [] else [.signatureChanged]) ++
    (if before.imports = after.imports then [] else [.importsChanged]) ++
    (if before.calls = after.calls then [] else [.callsChanged]) ++
    (if before.symbols = after.symbols then [] else [.symbolsChanged])

/-- What is written down about a modification. -/
structure IsModification (before after : ComponentFacts) (change : DriftChange) : Prop where
  layout : change.category = .formattingOnly ↔ before.structureHash = after.structureHash
  category : before.structureHash ≠ after.structureHash →
    change.category = (differences before after).headD .bodyChanged
  signatures : change.category = .signatureChanged →
    change.oldValue = before.signature ∧ change.newValue = after.signature
  digests : change.category ≠ .signatureChanged →
    change.oldValue = some before.contentHash ∧ change.newValue = some after.contentHash

/-- The rules of a report on what happened between two versions. -/
structure IsReport (old new : List ComponentFacts) (report : DriftReport) : Prop where
  /-- Changes stand in the order of the bytes of their names, each name once. -/
  sorted : report.changes.Pairwise fun x y =>
    Text.bytes x.qualifiedName < Text.bytes y.qualifiedName
  /-- A name is listed with what became of it, unless it is unchanged. -/
  listed : ∀ name kind,
    (∃ change ∈ report.changes, change.qualifiedName = name ∧ change.kind = kind) ↔
      Becomes old new name kind ∧ kind ≠ .unchanged
  unlisted : ∀ name, name ∈ names old ∨ name ∈ names new →
    ((∀ change ∈ report.changes, change.qualifiedName ≠ name) ↔ Becomes old new name .unchanged)
  additions : ∀ change ∈ report.changes, change.kind = .added →
    ∃ after, IsEntry new change.qualifiedName after ∧
      change.category = (if after.kind = .importing then .importAdded else .componentAdded) ∧
      change.oldValue = none ∧ change.newValue = some after.contentHash
  removals : ∀ change ∈ report.changes, change.kind = .removed →
    ∃ before, IsEntry old change.qualifiedName before ∧
      change.category = (if before.kind = .importing then .importRemoved else .componentRemoved) ∧
      change.oldValue = some before.contentHash ∧ change.newValue = none
  modifications : ∀ change ∈ report.changes, change.kind = .modified →
    ∃ before after, IsEntry old change.qualifiedName before ∧
      IsEntry new change.qualifiedName after ∧ IsModification before after change
  severities : ∀ change ∈ report.changes, change.severity = change.category.severity
  /-- Each name of the new version is classified once, as what became of it. -/
  classes_sorted : report.classification.Pairwise fun x y => Text.bytes x.1 < Text.bytes y.1
  classes : ∀ name kind, (name, kind) ∈ report.classification ↔
    name ∈ names new ∧ Becomes old new name kind
  /-- The summary counts the changes of each kind, and the names that are unchanged. -/
  summary : report.summary =
    { added := report.changes.countP (·.kind == .added)
      removed := report.changes.countP (·.kind == .removed)
      modified := report.changes.countP (·.kind == .modified)
      unchanged := report.classification.countP (·.2 == .unchanged) }

theorem lookup?_eq_some_iff {fact : ComponentFacts} :
    lookup? facts name = some fact ↔ IsEntry facts name fact := by
  rw [lookup?, List.find?_eq_some_iff_append]
  constructor
  · rintro ⟨hname, back, front, hfacts, hback⟩
    refine ⟨front.reverse, back.reverse, ?_, by simpa using hname, ?_⟩
    · rw [← List.reverse_reverse facts, hfacts]
      simp
    · intro hmem
      obtain ⟨later, hlater, hsame⟩ := List.mem_map.1 hmem
      have := hback later (List.mem_reverse.1 hlater)
      simp [hsame] at this
  · rintro ⟨front, back, rfl, hname, hback⟩
    refine ⟨by simpa using hname, back.reverse, front.reverse, by simp, fun later hlater => ?_⟩
    have hne : later.qualifiedName ≠ name := by
      rintro rfl
      exact hback (List.mem_map_of_mem (List.mem_reverse.1 hlater))
    simp [hne]

theorem IsEntry.unique {fact other : ComponentFacts} (h : IsEntry facts name fact)
    (hother : IsEntry facts name other) : fact = other := by
  rw [← lookup?_eq_some_iff] at h hother
  exact Option.some.inj (h.symm.trans hother)

/-- What becomes of a name is what a comparison finds out about it. -/
theorem becomes_iff : Becomes old new name kind ↔
    (name ∈ names old ∨ name ∈ names new) ∧
      classify (lookup? old name) (lookup? new name) = kind := by
  constructor
  · intro h
    cases h with
    | added hold hnew =>
      obtain ⟨after, hafter⟩ := exists_lookup? hnew
      rw [lookup?_eq_none_iff.2 hold, hafter]
      exact ⟨.inr hnew, rfl⟩
    | removed hold hnew =>
      obtain ⟨before, hbefore⟩ := exists_lookup? hold
      rw [lookup?_eq_none_iff.2 hnew, hbefore]
      exact ⟨.inl hold, rfl⟩
    | modified hold hnew hne =>
      rw [← lookup?_eq_some_iff] at hold hnew
      refine ⟨.inl (isSome_lookup?_iff.1 (by rw [hold]; rfl)), ?_⟩
      rw [hold, hnew, classify, if_neg hne]
    | unchanged hold hnew hsame =>
      rw [← lookup?_eq_some_iff] at hold hnew
      refine ⟨.inl (isSome_lookup?_iff.1 (by rw [hold]; rfl)), ?_⟩
      rw [hold, hnew, classify, if_pos hsame]
  · rintro ⟨hname, rfl⟩
    cases hold : lookup? old name with
    | none =>
      have hnew := hname.resolve_left (lookup?_eq_none_iff.1 hold)
      obtain ⟨after, hafter⟩ := exists_lookup? hnew
      rw [hafter]
      exact .added (lookup?_eq_none_iff.1 hold) hnew
    | some before =>
      cases hnew : lookup? new name with
      | none =>
        exact .removed (isSome_lookup?_iff.1 (by rw [hold]; rfl)) (lookup?_eq_none_iff.1 hnew)
      | some after =>
        rw [lookup?_eq_some_iff] at hold hnew
        rw [classify]
        split
        · rename_i hsame
          exact .unchanged hold hnew hsame
        · rename_i hne
          exact .modified hold hnew hne

section Compare

theorem modificationCategory_of_ne {before after : ComponentFacts}
    (h : before.structureHash ≠ after.structureHash) :
    modificationCategory before after = (differences before after).headD .bodyChanged := by
  simp only [modificationCategory, if_neg h, differences, ite_not]
  by_cases hsignature : before.signature = after.signature
  · by_cases himports : before.imports = after.imports
    · by_cases hcalls : before.calls = after.calls
      · by_cases hsymbols : before.symbols = after.symbols
        · simp [hsignature, himports, hcalls, hsymbols]
        · simp [hsignature, himports, hcalls, hsymbols]
      · simp [hsignature, himports, hcalls]
    · simp [hsignature, himports]
  · simp [hsignature]

theorem isModification_modification (before after : ComponentFacts) :
    IsModification before after (modification before after) := by
  constructor
  · rw [modification_category, modificationCategory_eq_formattingOnly_iff]
  · rw [modification_category]
    exact modificationCategory_of_ne
  · intro hcategory
    rw [modification_category] at hcategory
    simp [modification, hcategory]
  · intro hcategory
    rw [modification_category] at hcategory
    simp [modification, hcategory]

theorem exists_change_iff :
    (∃ change ∈ (compare old new).changes, change.qualifiedName = name ∧ change.kind = kind) ↔
      Becomes old new name kind ∧ kind ≠ .unchanged := by
  rw [becomes_iff]
  constructor
  · rintro ⟨change, hchange, rfl, rfl⟩
    have hfound := mem_changes_compare.1 hchange
    rw [changes_compare] at hchange
    obtain ⟨name, hname, hsome⟩ := List.mem_filterMap.1 hchange
    obtain rfl := name_of_change? hsome
    rw [kind_of_change? hfound]
    refine ⟨⟨mem_all_iff.1 hname, rfl⟩, fun hunchanged => ?_⟩
    rw [(change?_eq_none_iff (isSome_of_mem_all hname)).2 hunchanged] at hfound
    exact absurd hfound (by simp)
  · rintro ⟨⟨hname, rfl⟩, hne⟩
    have hall := isSome_of_mem_all (mem_all_iff.2 hname)
    obtain ⟨change, hchange⟩ :=
      Option.ne_none_iff_exists'.1 fun hnone => hne ((change?_eq_none_iff hall).1 hnone)
    have hsame := name_of_change? hchange
    refine ⟨change, mem_changes_compare.2 ?_, hsame, kind_of_change? hchange⟩
    rw [hsame]
    exact hchange

theorem not_exists_change_iff (hname : name ∈ names old ∨ name ∈ names new) :
    (∀ change ∈ (compare old new).changes, change.qualifiedName ≠ name) ↔
      Becomes old new name .unchanged := by
  rw [becomes_iff]
  constructor
  · intro hnone
    refine ⟨hname, ?_⟩
    by_contra hne
    obtain ⟨change, hchange, hsame, _⟩ :=
      exists_change_iff.2 ⟨becomes_iff.2 ⟨hname, rfl⟩, hne⟩
    exact hnone change hchange hsame
  · rintro ⟨_, hunchanged⟩ change hchange rfl
    obtain ⟨hbecomes, hne⟩ := exists_change_iff.1 ⟨change, hchange, rfl, rfl⟩
    exact hne ((becomes_iff.1 hbecomes).2.symm.trans hunchanged)

theorem mem_classification_compare :
    (name, kind) ∈ (compare old new).classification ↔
      name ∈ names new ∧ Becomes old new name kind := by
  rw [becomes_iff, classification_compare]
  constructor
  · intro hmem
    obtain ⟨_, hname, hpair⟩ := List.mem_map.1 hmem
    obtain ⟨rfl, rfl⟩ := Prod.mk.inj hpair
    have hnew := KeySet.mem_ofList.1 hname
    exact ⟨hnew, .inr hnew, rfl⟩
  · rintro ⟨hname, _, rfl⟩
    exact List.mem_map.2 ⟨name, KeySet.mem_ofList.2 hname, rfl⟩

/-- Names that are unchanged are names of the new version. -/
theorem countP_classification_compare :
    (compare old new).classification.countP (·.2 == .unchanged) =
      (compare old new).summary.unchanged := by
  rw [classification_compare, counts_compare, List.countP_map]
  change _ = List.countP _ _
  rw [List.countP_eq_length_filter, List.countP_eq_length_filter]
  refine List.Perm.length_eq ((List.perm_ext_iff_of_nodup ((KeySet.nodup _).filter _)
    ((KeySet.nodup _).filter _)).2 fun name => ?_)
  rw [List.mem_filter, List.mem_filter, mem_all_iff, ← KeySet.mem_iff, KeySet.mem_ofList]
  refine ⟨fun h => ⟨.inr h.1, h.2⟩, fun h => ⟨?_, h.2⟩⟩
  have hmem := (classify_mem_new (lookup? old name) (lookup? new name)).1
  rw [← isSome_lookup?_iff]
  exact hmem (by simp [beq_iff_eq.1 h.2])

/-- A comparison follows the rules of a report. -/
theorem isReport_compare (old new : List ComponentFacts) : IsReport old new (compare old new) where
  sorted := (changes_compare_sorted old new).imp Text.bytes_lt_bytes
  listed name kind := exists_change_iff
  unlisted name hname := not_exists_change_iff hname
  additions change hchange hkind := by
    obtain ⟨after, _, hnew, heq⟩ | ⟨_, _, _, heq⟩ | ⟨_, _, _, _, _, heq⟩ :=
      change?_cases (mem_changes_compare.1 hchange)
    · refine ⟨after, lookup?_eq_some_iff.1 hnew, ?_⟩
      rw [heq]
      exact ⟨rfl, rfl, rfl⟩
    · simp [heq, removal] at hkind
    · simp [heq] at hkind
  removals change hchange hkind := by
    obtain ⟨_, _, _, heq⟩ | ⟨before, hold, _, heq⟩ | ⟨_, _, _, _, _, heq⟩ :=
      change?_cases (mem_changes_compare.1 hchange)
    · simp [heq, addition] at hkind
    · refine ⟨before, lookup?_eq_some_iff.1 hold, ?_⟩
      rw [heq]
      exact ⟨rfl, rfl, rfl⟩
    · simp [heq] at hkind
  modifications change hchange hkind := by
    obtain ⟨_, _, _, heq⟩ | ⟨_, _, _, heq⟩ | ⟨before, after, hold, hnew, _, heq⟩ :=
      change?_cases (mem_changes_compare.1 hchange)
    · simp [heq, addition] at hkind
    · simp [heq, removal] at hkind
    · refine ⟨before, after, lookup?_eq_some_iff.1 hold, lookup?_eq_some_iff.1 hnew, ?_⟩
      rw [heq]
      exact isModification_modification before after
  severities change hchange := severity_of_change? (mem_changes_compare.1 hchange)
  classes_sorted := by
    rw [classification_compare]
    refine List.pairwise_map.2 ((KeySet.ofList (names new)).sorted.imp ?_)
    exact Text.bytes_lt_bytes
  classes name kind := mem_classification_compare
  summary := by
    rw [countP_changes_compare (by decide), countP_changes_compare (by decide),
      countP_changes_compare (by decide), countP_classification_compare, counts_compare]
    rfl

end Compare

section Unique

theorem IsModification.unique {before after : ComponentFacts} {change twin : DriftChange}
    (h : IsModification before after change) (htwin : IsModification before after twin) :
    change.category = twin.category ∧ change.oldValue = twin.oldValue ∧
      change.newValue = twin.newValue := by
  have hcategory : change.category = twin.category := by
    by_cases hsame : before.structureHash = after.structureHash
    · rw [h.layout.2 hsame, htwin.layout.2 hsame]
    · rw [h.category hsame, htwin.category hsame]
  refine ⟨hcategory, ?_⟩
  by_cases hsignature : change.category = .signatureChanged
  · obtain ⟨hold, hnew⟩ := h.signatures hsignature
    obtain ⟨hold', hnew'⟩ := htwin.signatures (hcategory ▸ hsignature)
    exact ⟨hold.trans hold'.symm, hnew.trans hnew'.symm⟩
  · obtain ⟨hold, hnew⟩ := h.digests hsignature
    obtain ⟨hold', hnew'⟩ := htwin.digests (hcategory ▸ hsignature)
    exact ⟨hold.trans hold'.symm, hnew.trans hnew'.symm⟩

/-- A change of one report is a change of any other on the same versions. -/
theorem IsReport.mem_changes (h : IsReport old new report) (hother : IsReport old new other)
    {change : DriftChange} (hchange : change ∈ report.changes) : change ∈ other.changes := by
  obtain ⟨hbecomes, hne⟩ := (h.listed _ _).1 ⟨change, hchange, rfl, rfl⟩
  obtain ⟨twin, htwin, hname, hkind⟩ := (hother.listed _ _).2 ⟨hbecomes, hne⟩
  suffices hsame : change.category = twin.category ∧ change.oldValue = twin.oldValue ∧
      change.newValue = twin.newValue by
    obtain ⟨hcategory, hold, hnew⟩ := hsame
    have hseverity : twin.severity = change.severity := by
      rw [hother.severities twin htwin, h.severities change hchange, hcategory]
    have heq : twin = change :=
      DriftChange.ext hname hkind hcategory.symm hseverity hold.symm hnew.symm
    exact heq ▸ htwin
  cases hcase : change.kind with
  | added =>
    obtain ⟨after, hentry, hcategory, hold, hnew⟩ := h.additions change hchange hcase
    obtain ⟨after', hentry', hcategory', hold', hnew'⟩ :=
      hother.additions twin htwin (hkind.trans hcase)
    obtain rfl := hentry.unique (hname ▸ hentry')
    exact ⟨hcategory.trans hcategory'.symm, hold.trans hold'.symm, hnew.trans hnew'.symm⟩
  | removed =>
    obtain ⟨before, hentry, hcategory, hold, hnew⟩ := h.removals change hchange hcase
    obtain ⟨before', hentry', hcategory', hold', hnew'⟩ :=
      hother.removals twin htwin (hkind.trans hcase)
    obtain rfl := hentry.unique (hname ▸ hentry')
    exact ⟨hcategory.trans hcategory'.symm, hold.trans hold'.symm, hnew.trans hnew'.symm⟩
  | modified =>
    obtain ⟨before, after, hold, hnew, hrules⟩ := h.modifications change hchange hcase
    obtain ⟨before', after', hold', hnew', hrules'⟩ :=
      hother.modifications twin htwin (hkind.trans hcase)
    obtain rfl := hold.unique (hname ▸ hold')
    obtain rfl := hnew.unique (hname ▸ hnew')
    exact hrules.unique hrules'
  | unchanged => exact absurd hcase hne

/-- The rules leave no choice. -/
theorem IsReport.unique (h : IsReport old new report) (hother : IsReport old new other) :
    report = other := by
  have hchanges : report.changes = other.changes :=
    eq_of_pairwise_of_mem_iff (fun _ _ => List.lt_asymm) h.sorted hother.sorted
      fun _ => ⟨h.mem_changes hother, hother.mem_changes h⟩
  have hclasses : report.classification = other.classification :=
    eq_of_pairwise_of_mem_iff (fun _ _ => List.lt_asymm) h.classes_sorted hother.classes_sorted
      fun ⟨name, kind⟩ => (h.classes name kind).trans (hother.classes name kind).symm
  have hsummary : report.summary = other.summary := by
    rw [h.summary, hother.summary, hchanges, hclasses]
  exact DriftReport.ext hchanges hsummary hclasses

end Unique

/-- The report of a comparison is the one that follows the rules: changes stand in the order of
bytes, one for each name that only one version has or whose text is different, with the category
and the values that the facts call for; the names of the new version are classified accordingly; and
the summary counts. The counts add up to the names of both versions, of the new and of the old. -/
theorem report_determined (old new : List ComponentFacts) :
    (∀ report, IsReport old new report ↔ report = compare old new) ∧
      (compare old new).summary.added + (compare old new).summary.removed +
          (compare old new).summary.modified + (compare old new).summary.unchanged =
        ((names old).toFinset ∪ (names new).toFinset).card ∧
      (compare old new).summary.added + (compare old new).summary.modified +
        (compare old new).summary.unchanged = (names new).toFinset.card ∧
      (compare old new).summary.removed + (compare old new).summary.modified +
        (compare old new).summary.unchanged = (names old).toFinset.card := by
  refine ⟨fun report => ⟨fun h => ?_, ?_⟩, ?_, ?_, ?_⟩
  · exact h.unique (isReport_compare old new)
  · rintro rfl
    exact isReport_compare old new
  · rw [summary_compare, ← List.toFinset_append, List.card_toFinset]
  · rw [summary_compare_new, List.card_toFinset]
  · rw [summary_compare_old, List.card_toFinset]

end Drift

end SourceLedger
