import SourceLedger.Proofs.Comparison
import SourceLedger.Proofs.Provenance

/-!
# Detecting drift later

The drift of a version is found when the version is written, from the facts of its extraction. Later
it is found again from stored rows. As these hold the same facts, the same drift is found at any
time; every change already has its event, so nothing is added.

## Main definitions

* `Staging.eventRows` are the events that a version is written with.
* `Store.HasEvent` says that a version has an event for a name.

## Main statements

* `Store.exists_addEvents_eq` says which events are added.
* `Chronicle.eventRows` finds the events of a store in its snapshots.
* `Chronicle.driftOf` finds the drift of a version again.
* `Store.detect_same_drift` says what detection finds at any time.
-/

namespace SourceLedger

/-- An event without its number. -/
def EventRow.unnumbered (row : EventRow) : EventRow :=
  { row with id := 0 }

/-- The event of a change of a version, without its number. -/
def DriftChange.event (fileId : Int) (versionId : Nat) (previousId : Option Nat) (now : Int)
    (change : DriftChange) : EventRow where
  id := 0
  fileId := fileId
  versionId := versionId
  previousId := previousId
  qualifiedName := change.qualifiedName
  kind := change.kind
  category := change.category
  severity := change.severity
  oldValue := change.oldValue
  newValue := change.newValue
  detectedAt := now

/-- The events that a version is written with, without their numbers. -/
def Staging.eventRows (staging : Staging) : List EventRow :=
  staging.drift.changes.map
    (·.event staging.fileId staging.versionId (staging.previous.map (·.id)) staging.now)

namespace Store

variable {store : Store} {fileId : Int} {versionId : Nat} {previousId : Option Nat} {now : Int}
  {changes : List DriftChange}

/-- A version has an event for a name. -/
def HasEvent (store : Store) (versionId : Nat) (name : String) : Prop :=
  ∃ row ∈ store.events, row.versionId = versionId ∧ row.qualifiedName = name

instance (store : Store) (versionId : Nat) (name : String) :
    Decidable (store.HasEvent versionId name) :=
  inferInstanceAs (Decidable (∃ row ∈ store.events, _ ∧ _))

theorem any_events_iff {name : String} :
    (store.events.any fun row => row.versionId == versionId && row.qualifiedName == name) = true ↔
      store.HasEvent versionId name := by
  simp [HasEvent]

/-- What is there for a name stays as it is. -/
theorem addEvent_of_hasEvent {change : DriftChange}
    (h : store.HasEvent versionId change.qualifiedName) :
    store.addEvent fileId versionId previousId now change = store :=
  if_pos (any_events_iff.2 h)

/-- A name without an event gets one, and no other name does. -/
theorem exists_addEvent_eq {change : DriftChange}
    (h : ¬store.HasEvent versionId change.qualifiedName) (fileId : Int) (previousId : Option Nat)
    (now : Int) :
    ∃ row, addEvent fileId versionId previousId now store change =
        { store with events := store.events ++ [row] } ∧
      row.unnumbered = change.event fileId versionId previousId now :=
  ⟨_, if_neg (mt any_events_iff.1 h), rfl⟩

/-- Of changes whose names differ, those get an event whose names have none, in order. -/
theorem exists_addEvents_eq (store : Store) (fileId : Int) (versionId : Nat)
    (previousId : Option Nat) (now : Int) (hnames : (changes.map (·.qualifiedName)).Nodup) :
    ∃ added, store.addEvents fileId versionId previousId now changes =
        { store with events := store.events ++ added } ∧
      added.map EventRow.unnumbered =
        (changes.filter fun change => ¬store.HasEvent versionId change.qualifiedName).map
          (·.event fileId versionId previousId now) := by
  induction changes generalizing store with
  | nil => exact ⟨[], by simp [addEvents], rfl⟩
  | cons change rest ih =>
    obtain ⟨hfirst, hrest⟩ := List.nodup_cons.1 hnames
    rw [addEvents, List.foldl_cons, ← addEvents]
    by_cases hevent : store.HasEvent versionId change.qualifiedName
    · rw [addEvent_of_hasEvent hevent, List.filter_cons_of_neg (by simpa using hevent)]
      exact ih store hrest
    · obtain ⟨row, hadd, hrow⟩ := exists_addEvent_eq hevent fileId previousId now
      obtain ⟨added, hadded, hrows⟩ := ih { store with events := store.events ++ [row] } hrest
      -- The event that was added is for a name that none of the others has.
      have hothers : ∀ other ∈ rest,
          ({ store with events := store.events ++ [row] } : Store).HasEvent versionId
            other.qualifiedName ↔ store.HasEvent versionId other.qualifiedName := by
        intro other hother
        have hname : row.qualifiedName ≠ other.qualifiedName := by
          intro hname
          have hchange : row.qualifiedName = change.qualifiedName :=
            congrArg EventRow.qualifiedName hrow
          exact hfirst (List.mem_map.2 ⟨other, hother, hname.symm.trans hchange⟩)
        simp [HasEvent, or_and_right, exists_or, hname]
      rw [hadd, hadded, List.filter_cons_of_pos (by simpa using hevent)]
      refine ⟨row :: added, by simp, ?_⟩
      rw [List.map_cons, List.map_cons, hrow, hrows]
      exact congrArg (_ :: List.map _ ·) (List.filter_congr fun other hother => by
        simp only [hothers other hother])

/-- Changes of names that have no event yet all get one. -/
theorem addEvents_of_fresh (hnames : (changes.map (·.qualifiedName)).Nodup)
    (hfresh : ∀ change ∈ changes, ¬store.HasEvent versionId change.qualifiedName) :
    (store.addEvents fileId versionId previousId now changes).events.map EventRow.unnumbered =
      store.events.map EventRow.unnumbered ++
        changes.map (·.event fileId versionId previousId now) := by
  obtain ⟨added, hadded, hrows⟩ :=
    exists_addEvents_eq store fileId versionId previousId now hnames
  rw [List.filter_eq_self.2 fun change hchange => by simpa using hfresh change hchange] at hrows
  rw [hadded, List.map_append, hrows]

/-- Changes of names that all have an event add nothing. -/
theorem addEvents_of_present
    (h : ∀ change ∈ changes, store.HasEvent versionId change.qualifiedName) :
    store.addEvents fileId versionId previousId now changes = store := by
  induction changes with
  | nil => rfl
  | cons change rest ih =>
    rw [addEvents, List.foldl_cons, ← addEvents, addEvent_of_hasEvent (h change (by simp))]
    exact ih fun other hother => h other (by simp [hother])

end Store

namespace Chronicle

variable {log : List Snapshot} {store : Store} {snapshot : Snapshot}

/-- The drift of a stored version is the drift it was written with. -/
theorem driftOf (h : Chronicle log store) (hsnapshot : snapshot ∈ log) :
    store.driftOf snapshot.version = snapshot.drift := by
  have hfacts : store.facts snapshot.version.id = snapshot.extraction.facts := h.facts hsnapshot
  rcases h.first_or_follows hsnapshot with hfirst | ⟨old, hold, hfollows⟩
  · have hprevious : snapshot.version.previousId = none := by
      simp [Staging.version, hfirst.previous]
    rw [Store.driftOf, hprevious, hfirst.drift, hfacts]
  · have hprevious : snapshot.version.previousId = some old.versionId := by
      simp [Staging.version, hfollows.previous]
    rw [Store.driftOf, hprevious, hfollows.drift, hfacts]
    exact congrArg (Drift.compare · _) (h.facts hold)

/-- The changes of a version are in the order of names. -/
theorem sorted_changes (h : Chronicle log store) (hsnapshot : snapshot ∈ log) :
    snapshot.drift.changes.Pairwise fun x y => x.qualifiedName < y.qualifiedName := by
  rcases h.first_or_follows hsnapshot with hfirst | ⟨_, _, hfollows⟩
  · rw [hfirst.drift]
    exact .nil
  · rw [hfollows.drift]
    exact Drift.changes_compare_sorted _ _

/-- No name is listed twice among the changes of a version. -/
theorem nodup_changes (h : Chronicle log store) (hsnapshot : snapshot ∈ log) :
    (snapshot.drift.changes.map (·.qualifiedName)).Nodup :=
  Drift.nodup_names (h.sorted_changes hsnapshot)

/-- A store in which the events of all snapshots are there has nothing to detect. -/
theorem addEvents_driftOf (h : Chronicle log store)
    (hevents : store.events.map EventRow.unnumbered = log.flatMap (·.eventRows))
    (hsnapshot : snapshot ∈ log) (fileId : Int) (now : Int) :
    store.addEvents fileId snapshot.version.id snapshot.version.previousId now
      (store.driftOf snapshot.version).changes = store := by
  refine Store.addEvents_of_present fun change hchange => ?_
  rw [h.driftOf hsnapshot] at hchange
  have hmem : change.event snapshot.fileId snapshot.versionId (snapshot.previous.map (·.id))
      snapshot.now ∈ store.events.map EventRow.unnumbered := by
    rw [hevents]
    exact List.mem_flatMap.2 ⟨snapshot, hsnapshot, List.mem_map_of_mem hchange⟩
  obtain ⟨row, hrow, hsame⟩ := List.mem_map.1 hmem
  exact ⟨row, hrow, congrArg EventRow.versionId hsame, congrArg EventRow.qualifiedName hsame⟩

/-- The events of a store are those that its versions were written with, in order. -/
theorem eventRows (h : Chronicle log store) :
    store.events.map EventRow.unnumbered = log.flatMap (·.eventRows) := by
  induction h with
  | empty => rfl
  | @write log store file snapshot hpast hfile hstaged ih =>
    have hafter := hpast.write snapshot hfile hstaged
    have hfresh : ∀ row ∈ store.events, row.versionId ≠ snapshot.versionId := by
      intro row hrow
      obtain ⟨version, hversion, _, hid, _⟩ := hpast.events.2 row hrow
      rw [hpast.tables.versions] at hversion
      obtain ⟨old, hold, rfl⟩ := List.mem_map.1 hversion
      have hprecedes := (List.pairwise_append.1 hafter.apart).2.2 old hold snapshot (by simp)
      rw [hid]
      exact Nat.ne_of_lt hprecedes.1
    rw [List.flatMap_append, List.flatMap_singleton, ← ih]
    refine Store.addEvents_of_fresh (hafter.nodup_changes (by simp)) ?_
    rintro change - ⟨row, hrow, hversion, -⟩
    exact hfresh row hrow hversion
  | prove _ _ _ _ _ ih => exact ih
  | @detect log store id number version hpast now hversion ih =>
    have hmem := (Store.mem_of_version? hversion).1
    rw [hpast.tables.versions] at hmem
    obtain ⟨snapshot, hsnapshot, rfl⟩ := List.mem_map.1 hmem
    rw [hpast.addEvents_driftOf ih hsnapshot]
    exact ih

/-- Detecting the drift of a version finds the drift it was written with, and adds nothing. -/
theorem detect_ok (h : Chronicle log store) (hsnapshot : snapshot ∈ log) {number : Option Nat}
    (hversion : store.requireVersion snapshot.extraction.path number = .ok snapshot.version)
    (now : Int) :
    store.detect snapshot.extraction.path number now = .ok (snapshot.drift, store) := by
  obtain ⟨file, hfile, _⟩ := h.requireFile_of_mem hsnapshot
  have hfound : store.version? file.id number = some snapshot.version := by
    simp only [Store.requireVersion, hfile, bind, Except.bind] at hversion
    split at hversion
    · rename_i hfound
      rw [hfound, Except.ok.inj hversion]
    · simp at hversion
    · simp at hversion
  simp only [Store.detect, hfile, bind, Except.bind, Store.detectDrift, hfound]
  rw [h.addEvents_driftOf h.eventRows hsnapshot, h.driftOf hsnapshot]

end Chronicle

namespace Store

/-- Every version of a store was written from an extraction, and its stored facts are those of the
extraction. Detecting its drift at any time finds the drift that was found when it was written, and
leaves the store as it is. Without a number, the drift of the version of the path with the greatest
number is found. -/
theorem detect_same_drift {store : Store} (h : store.Reachable) :
    (∀ version ∈ store.versions, ∃ snapshot, store.HasWritten snapshot ∧
      snapshot.version = version) ∧
    ∀ snapshot, store.HasWritten snapshot →
      store.facts snapshot.versionId = snapshot.extraction.facts ∧
      (∀ now, store.detect snapshot.extraction.path (some snapshot.versionNumber) now =
        .ok (snapshot.drift, store)) ∧
      ∃ latest, store.HasWritten latest ∧
        latest.extraction.path = snapshot.extraction.path ∧
        (∀ other, store.HasWritten other → other.extraction.path = snapshot.extraction.path →
          other.versionNumber ≤ latest.versionNumber) ∧
        ∀ now, store.detect snapshot.extraction.path none now = .ok (latest.drift, store) := by
  refine ⟨fun version hversion => h.exists_written hversion, fun snapshot hwritten => ?_⟩
  refine ⟨?_, ?_, ?_⟩
  · obtain ⟨log, hlog, hsnapshot⟩ := hwritten.chronicle
    exact hlog.facts hsnapshot
  · obtain ⟨log, hlog, hsnapshot⟩ := hwritten.chronicle
    exact hlog.detect_ok hsnapshot (hlog.requireVersion_number hsnapshot)
  · obtain ⟨latest, hlatest, hpath, hversion, hgreatest⟩ := hwritten.exists_latest h
    refine ⟨latest, hlatest, hpath, hgreatest, ?_⟩
    obtain ⟨log, hlog, hmem⟩ := hlatest.chronicle
    rw [← hpath] at hversion ⊢
    exact hlog.detect_ok hmem hversion

theorem detect_same_drift_reinstated :
    ∃ snapshot, reinstated.Reachable ∧ reinstated.HasWritten snapshot ∧
      snapshot.versionNumber = 3 ∧
      reinstated.facts snapshot.versionId = snapshot.extraction.facts ∧
      reinstated.detect "a.py" (some 3) 4 = .ok (snapshot.drift, reinstated) := by
  obtain ⟨snapshot, hwritten, hpath, hnumber, _⟩ := written_reinstated
  obtain ⟨hfacts, hdetect, _⟩ := (detect_same_drift reachable_reinstated).2 snapshot hwritten
  have hdetected := hdetect 4
  rw [hpath, hnumber] at hdetected
  exact ⟨snapshot, reachable_reinstated, hwritten, hnumber, hfacts, hdetected⟩

end Store

end SourceLedger
