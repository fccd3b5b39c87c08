import SourceLedger.Proofs.Detection
import SourceLedger.Proofs.Integrity

/-!
# Detecting drift in any store

A store whose rows were changed from outside may have other drift than its events say, and events
for names whose drift is gone. Whatever is stored, detection only adds: a change of a name without
an event gets one, and an event that is there stays, even if the change is of another category by
now. The added events are not read by detection, so the next one finds the same and adds nothing.

## Main statements

* `Store.sorted_driftOf` puts the changes of any two stored versions in the order of names.
* `Store.detect_idempotent` says what a detection adds, and that the next adds nothing.
-/

namespace SourceLedger

namespace Store

variable {store : Store}

/-- Whatever is stored, the changes of a version are in the order of names. -/
theorem sorted_driftOf (store : Store) (version : VersionRow) :
    (store.driftOf version).changes.Pairwise fun x y => x.qualifiedName < y.qualifiedName := by
  rw [driftOf]
  split
  · exact Drift.changes_compare_sorted _ _
  · exact .nil

theorem nodup_driftOf (store : Store) (version : VersionRow) :
    ((store.driftOf version).changes.map (·.qualifiedName)).Nodup :=
  Drift.nodup_names (store.sorted_driftOf version)

/-- A version has one event for a name if no two events are for the same. -/
theorem HasEvent.existsUnique {versionId : Nat} {name : String}
    (h : store.HasEvent versionId name)
    (hunique : (store.events.map fun row => (row.versionId, row.qualifiedName)).Nodup) :
    ∃! row, row ∈ store.events ∧ row.versionId = versionId ∧ row.qualifiedName = name := by
  obtain ⟨row, hrow, hversion, hname⟩ := h
  refine ⟨row, ⟨hrow, hversion, hname⟩, fun other ⟨hother, hversion', hname'⟩ => ?_⟩
  exact List.inj_on_of_nodup_map hunique hother hrow (by simp [hversion, hname, hversion', hname'])

/-- Every change has its event once the missing ones are added. -/
theorem hasEvent_addEvents (store : Store) (fileId : Int) (versionId : Nat)
    (previousId : Option Nat) (now : Int) {changes : List DriftChange}
    (hnames : (changes.map (·.qualifiedName)).Nodup)
    {change : DriftChange} (hchange : change ∈ changes) :
    (store.addEvents fileId versionId previousId now changes).HasEvent versionId
      change.qualifiedName := by
  obtain ⟨added, hadded, hrows⟩ :=
    exists_addEvents_eq store fileId versionId previousId now hnames
  rw [hadded]
  by_cases hevent : store.HasEvent versionId change.qualifiedName
  · obtain ⟨row, hrow, hsame⟩ := hevent
    exact ⟨row, List.mem_append_left _ hrow, hsame⟩
  · have hmem : change.event fileId versionId previousId now ∈ added.map EventRow.unnumbered := by
      rw [hrows]
      exact List.mem_map_of_mem (List.mem_filter.2 ⟨hchange, by simpa using hevent⟩)
    obtain ⟨row, hrow, hsame⟩ := List.mem_map.1 hmem
    exact ⟨row, List.mem_append_right _ hrow, congrArg EventRow.versionId hsame,
      congrArg EventRow.qualifiedName hsame⟩

/-- A detection in any store keeps what is there, and adds one event for each change of a name for
which the version has none, in the order of names. Every change has exactly one event then, and
detecting the drift of the version again finds the same and adds nothing. -/
theorem detect_idempotent {store after : Store} {fileId : Int} {number : Option Nat} {now : Int}
    {report : DriftReport}
    (hunique : (store.events.map fun row => (row.versionId, row.qualifiedName)).Nodup)
    (h : store.detectDrift fileId number now = .ok (report, after)) :
    ∃ version added, store.version? fileId number = some version ∧
      after = { store with events := store.events ++ added } ∧
      added.map EventRow.unnumbered =
        (report.changes.filter fun change =>
          ¬store.HasEvent version.id change.qualifiedName).map
            (·.event fileId version.id version.previousId now) ∧
      (added.Pairwise fun x y => x.qualifiedName < y.qualifiedName) ∧
      (after.events.map fun row => (row.versionId, row.qualifiedName)).Nodup ∧
      (∀ change ∈ report.changes, ∃! row, row ∈ after.events ∧
        row.versionId = version.id ∧ row.qualifiedName = change.qualifiedName) ∧
      ∀ again later, store.version? fileId again = some version →
        after.detectDrift fileId again later = .ok (report, after) := by
  rw [detectDrift] at h
  cases hversion : store.version? fileId number with
  | none => simp [hversion] at h
  | some version =>
    rw [hversion] at h
    obtain ⟨rfl, rfl⟩ := Prod.mk.inj (Except.ok.inj h)
    have hnames := store.nodup_driftOf version
    have hnodup : ((store.addEvents fileId version.id version.previousId now
        (store.driftOf version).changes).events.map fun row =>
          (row.versionId, row.qualifiedName)).Nodup := nodup_addEvents hunique
    have hall : ∀ change ∈ (store.driftOf version).changes,
        (store.addEvents fileId version.id version.previousId now
          (store.driftOf version).changes).HasEvent version.id change.qualifiedName :=
      fun change => hasEvent_addEvents store fileId version.id version.previousId now hnames
    obtain ⟨added, hadded, hrows⟩ :=
      exists_addEvents_eq store fileId version.id version.previousId now hnames
    refine ⟨version, added, rfl, hadded, hrows, ?_, hnodup, fun change hchange =>
      (hall change hchange).existsUnique hnodup, fun again later hagain => ?_⟩
    · -- The names of the added events are those of some of the changes.
      have hsorted := (store.sorted_driftOf version).filter fun change =>
        ¬store.HasEvent version.id change.qualifiedName
      have hadded : (added.map EventRow.unnumbered).Pairwise fun x y =>
          x.qualifiedName < y.qualifiedName := by
        rw [hrows]
        exact List.pairwise_map.2 hsorted
      exact (List.pairwise_map (f := EventRow.unnumbered)).1 hadded
    · have hfound : (store.addEvents fileId version.id version.previousId now
          (store.driftOf version).changes).version? fileId again = some version := by
        rw [hadded]
        exact hagain
      have hdrift : (store.addEvents fileId version.id version.previousId now
          (store.driftOf version).changes).driftOf version = store.driftOf version := by
        rw [hadded]
        rfl
      rw [detectDrift, hfound]
      simp only [hdrift, addEvents_of_present hall]

/-- The store `reinstated` after one of its components was renamed in all versions from outside. -/
def renamed : Store :=
  { reinstated with
    components := reinstated.components.map fun row =>
      if row.qualifiedName = "é" then { row with qualifiedName := "g" } else row }

/-- The removal of the renamed component has an event under its old name, and gets one under its
new name. -/
theorem detect_idempotent_renamed :
    ∃ report after added,
      (renamed.events.map fun row => (row.versionId, row.qualifiedName)) =
        [(2, "expr:f"), (2, "é"), (3, "expr:f"), (3, "é")] ∧
      renamed.detectDrift 1 (some 2) 4 = .ok (report, after) ∧
      report.changes.map (·.qualifiedName) = ["expr:f", "g"] ∧
      after.events = renamed.events ++ added ∧ added.map (·.qualifiedName) = ["g"] ∧
      ∀ later, after.detectDrift 1 (some 2) later = .ok (report, after) := by
  have hevents : (renamed.events.map fun row => (row.versionId, row.qualifiedName)) =
      [(2, "expr:f"), (2, "é"), (3, "expr:f"), (3, "é")] := by
    decide +kernel
  have hcomputed : (renamed.detectDrift 1 (some 2) 4).toOption.map (fun found =>
      (found.1.changes.map (·.qualifiedName), found.2.events.map (·.qualifiedName))) =
      some (["expr:f", "g"], ["expr:f", "é", "expr:f", "é", "g"]) := by
    decide +kernel
  obtain ⟨⟨report, after⟩, hdetected, hcomputed⟩ := Option.map_eq_some_iff.1 hcomputed
  obtain ⟨hchanges, hnames⟩ := Prod.mk.inj hcomputed
  have hdetect := eq_ok_of_toOption hdetected
  obtain ⟨version, added, hversion, hafter, _, _, _, _, hagain⟩ :=
    detect_idempotent (by rw [hevents]; decide) hdetect
  refine ⟨report, after, added, hevents, hdetect, hchanges, by rw [hafter], ?_,
    fun later => hagain _ later hversion⟩
  have hold : renamed.events.map (·.qualifiedName) = ["expr:f", "é", "expr:f", "é"] := by
    have hsnd := congrArg (List.map Prod.snd) hevents
    rwa [List.map_map] at hsnd
  rw [hafter, List.map_append, hold] at hnames
  exact (List.append_right_inj ["expr:f", "é", "expr:f", "é"]).1 hnames

end Store

end SourceLedger
