import Mathlib.Data.Finset.Basic
import Mathlib.Data.Finset.Dedup
import SourceLedger.Proofs.Detection
import SourceLedger.Proofs.Readback

/-!
# The ledger of differences

The events of a version are the changes from the version before, each once and in the order of
names. So they can be replayed: on the names of the first version, the events of all later versions
lead from version to version, and never add a name that is there or touch one that is not. The
counts of a report add up to the components of both versions.

## Main definitions

* `DriftChange.apply?` and `Drift.replay?` apply changes to a set of names.
* `Store.namesAt` and `Store.eventsUpTo` are the names of a version and the events up to a version.

## Main statements

* `Drift.replay?_compare` replays the changes between two versions.
* `Chronicle.listEvents` lists the events of a version.
* `Store.events_are_differences` says what the events of a path are over a whole run.
-/

namespace SourceLedger

/-- The change that an event records. -/
def EventRow.change (row : EventRow) : DriftChange :=
  ⟨row.qualifiedName, row.kind, row.category, row.severity, row.oldValue, row.newValue⟩

/-- The names after a change. A name is added where it is not there, and is removed or modified
where it is there; otherwise the change cannot happen. -/
def DriftChange.apply? (names : Finset String) (change : DriftChange) : Option (Finset String) :=
  match change.kind with
  | .added =>
    if change.qualifiedName ∈ names then none else some (insert change.qualifiedName names)
  | .removed =>
    if change.qualifiedName ∈ names then some (names.erase change.qualifiedName) else none
  | .modified => if change.qualifiedName ∈ names then some names else none
  | .unchanged => none

namespace Drift

/-- The names after changes, one after another. -/
def replay? (names : Finset String) (changes : List DriftChange) : Option (Finset String) :=
  changes.foldlM DriftChange.apply? names

theorem replay?_append (names : Finset String) (first second : List DriftChange) :
    replay? names (first ++ second) = (replay? names first).bind (replay? · second) :=
  List.foldlM_append

variable {old : List ComponentFacts} {start : Finset String}

/-- What a comparison says of one name can happen to names that have the name as the old version
does, and then they have it as the new version does. -/
theorem replay?_change? (new : List ComponentFacts) {name : String}
    (h : name ∈ start ↔ name ∈ names old) :
    ∃ final, replay? start (change? (lookup? old name) (lookup? new name)).toList = some final ∧
      ∀ x, x ∈ final ↔ if x = name then x ∈ names new else x ∈ start := by
  rw [← isSome_lookup?_iff] at h
  have hnew : (lookup? new name).isSome ↔ name ∈ names new := isSome_lookup?_iff
  cases hafter : lookup? new name with
  | none =>
    rw [hafter] at hnew
    have habsent : name ∉ names new := by simpa using hnew
    cases hbefore : lookup? old name with
    | none =>
      have hnot : name ∉ start := by simpa [hbefore] using h
      refine ⟨start, rfl, fun x => ?_⟩
      by_cases hx : x = name
      · simp [hx, hnot, habsent]
      · simp [hx]
    | some before =>
      have hmem : before.qualifiedName ∈ start := by
        rw [name_of_lookup? hbefore]
        simpa [hbefore] using h
      refine ⟨start.erase before.qualifiedName, ?_, fun x => ?_⟩
      · simp [replay?, change?, removal, DriftChange.apply?, hmem]
      · rw [name_of_lookup? hbefore, Finset.mem_erase]
        by_cases hx : x = name
        · simp [hx, habsent]
        · simp [hx]
  | some after =>
    have hpresent : name ∈ names new := by simpa [hafter] using hnew
    cases hbefore : lookup? old name with
    | none =>
      have hnot : after.qualifiedName ∉ start := by
        rw [name_of_lookup? hafter]
        simpa [hbefore] using h
      refine ⟨insert after.qualifiedName start, ?_, fun x => ?_⟩
      · simp [replay?, change?, addition, DriftChange.apply?, hnot]
      · rw [name_of_lookup? hafter, Finset.mem_insert]
        by_cases hx : x = name
        · simp [hx, hpresent]
        · simp [hx]
    | some before =>
      have hmem : name ∈ start := by simpa [hbefore] using h
      refine ⟨start, ?_, fun x => ?_⟩
      · rw [change?]
        split
        · rfl
        · simp [replay?, DriftChange.apply?, name_of_lookup? hafter, hmem]
      · by_cases hx : x = name
        · simp [hx, hmem, hpresent]
        · simp [hx]

/-- Changes of different names do not get in each other's way. -/
theorem replay?_changes (new : List ComponentFacts) {members : List String}
    (hmembers : members.Nodup) (h : ∀ name ∈ members, name ∈ start ↔ name ∈ names old) :
    ∃ final, replay? start
        (members.filterMap fun name => change? (lookup? old name) (lookup? new name)) =
          some final ∧
      ∀ x, x ∈ final ↔ if x ∈ members then x ∈ names new else x ∈ start := by
  induction members generalizing start with
  | nil => exact ⟨start, rfl, by simp⟩
  | cons name rest ih =>
    obtain ⟨hname, hrest⟩ := List.nodup_cons.1 hmembers
    obtain ⟨middle, hfirst, hmiddle⟩ := replay?_change? new (h name (by simp))
    have hkept : ∀ other ∈ rest, other ∈ middle ↔ other ∈ names old := by
      intro other hother
      have hne : other ≠ name := fun heq => hname (heq ▸ hother)
      rw [hmiddle, if_neg hne]
      exact h other (by simp [hother])
    obtain ⟨final, hreplay, hfinal⟩ := ih hrest hkept
    refine ⟨final, ?_, fun x => ?_⟩
    · rw [List.filterMap_eq_flatMap_toList, List.flatMap_cons, ← List.filterMap_eq_flatMap_toList,
        replay?_append, hfirst]
      exact hreplay
    · rw [hfinal]
      by_cases hx : x ∈ rest
      · simp [hx]
      · by_cases heq : x = name
        · simp [hname, hmiddle, heq]
        · simp [hx, hmiddle, heq]

/-- Replaying the changes from one version to the next leads from the names of the one to the names
of the other. -/
theorem replay?_compare (old new : List ComponentFacts) :
    replay? (names old).toFinset (compare old new).changes = some (names new).toFinset := by
  have hstart (name : String) : name ∈ (names old).toFinset ↔ name ∈ names old := List.mem_toFinset
  obtain ⟨final, hreplay, hfinal⟩ :=
    replay?_changes new (KeySet.ofList (names old ++ names new)).nodup fun name _ => hstart name
  rw [changes_compare]
  refine hreplay.trans (congrArg some ?_)
  ext name
  rw [hfinal, List.mem_toFinset, List.mem_toFinset]
  split
  · rfl
  · rename_i hnone
    rw [mem_all_iff, not_or] at hnone
    simp [hnone.1, hnone.2]

end Drift

namespace Store

variable (store : Store) (path : String)

/-- The names of a version of a path. -/
def namesAt (number : Nat) : Except Failure (Finset String) := do
  let components ← store.listComponents path (some number)
  return (components.map (·.qualifiedName)).toFinset

/-- The events of a path from the second version to some version, in order. -/
def eventsUpTo (number : Nat) : Except Failure (List EventRow) := do
  let batches ← (List.range' 2 (number - 1)).mapM fun i => store.listEvents path (some i)
  return batches.flatten

end Store

namespace Chronicle

variable {log : List Snapshot} {store : Store} {snapshot old : Snapshot}

/-- Changes are in the order of names, so their events are in order before they are sorted. -/
theorem sorted_eventRows (h : Chronicle log store) (hsnapshot : snapshot ∈ log) :
    snapshot.eventRows.Pairwise fun x y => x.listedBefore y := by
  refine List.pairwise_map.2 ((h.sorted_changes hsnapshot).imp fun hlt => ?_)
  have hle := String.not_lt.1 (String.lt_asymm hlt)
  simp [EventRow.listedBefore, DriftChange.event, hle]

/-- The events of a version are listed as they were written. -/
theorem listEvents (h : Chronicle log store) (hsnapshot : snapshot ∈ log) :
    ∃ events, store.listEvents snapshot.extraction.path (some snapshot.versionNumber) = .ok events ∧
      events.map EventRow.unnumbered = snapshot.eventRows := by
  obtain ⟨file, hfile, hid⟩ := h.requireFile_of_mem hsnapshot
  let events := store.events.filter fun row =>
    row.fileId == snapshot.fileId && row.versionId == snapshot.versionId
  have hrows : events.map EventRow.unnumbered = snapshot.eventRows := by
    have hfilter := List.filter_map (f := EventRow.unnumbered) (l := store.events)
      (p := fun row => row.fileId == snapshot.fileId && row.versionId == snapshot.versionId)
    refine hfilter.symm.trans ?_
    rw [h.eventRows, filter_flatMap_of_apart h.apart hsnapshot]
    · refine List.filter_eq_self.2 fun row hrow => ?_
      obtain ⟨change, _, rfl⟩ := List.mem_map.1 hrow
      simp [DriftChange.event]
    · intro other _ hapart row hrow
      obtain ⟨change, _, rfl⟩ := List.mem_map.1 hrow
      have hne : other.versionId ≠ snapshot.versionId := by
        rcases hapart with hapart | hapart
        · exact Nat.ne_of_lt hapart.1
        · exact Nat.ne_of_gt hapart.1
      simp [DriftChange.event, hne]
  have hsorted := h.sorted_eventRows hsnapshot
  rw [← hrows, List.pairwise_map] at hsorted
  refine ⟨events, ?_, hrows⟩
  simp only [Store.listEvents, hfile, h.requireVersion_number hsnapshot, bind, Except.bind, pure,
    Except.pure, Store.eventsOf, hid]
  exact congrArg Except.ok (List.mergeSort_of_pairwise hsorted)

/-- The events of a version record its changes, in order. -/
theorem listEvents_changes (h : Chronicle log store) (hsnapshot : snapshot ∈ log) :
    ∃ events, store.listEvents snapshot.extraction.path (some snapshot.versionNumber) = .ok events ∧
      events.map (·.change) = snapshot.drift.changes := by
  obtain ⟨events, hevents, hrows⟩ := h.listEvents hsnapshot
  refine ⟨events, hevents, ?_⟩
  have hchanges := congrArg (List.map EventRow.change) hrows
  rw [List.map_map, Staging.eventRows, List.map_map] at hchanges
  exact hchanges.trans (List.map_id _)

/-- The names of a version are those of the facts of its extraction. -/
theorem namesAt (h : Chronicle log store) (hsnapshot : snapshot ∈ log) :
    store.namesAt snapshot.extraction.path snapshot.versionNumber =
      .ok (Drift.names snapshot.extraction.facts).toFinset := by
  have hcomponents : store.componentsOf snapshot.version.id = .ok _ := h.componentsOf hsnapshot
  simp only [Store.namesAt, Store.listComponents, h.requireVersion_number hsnapshot, bind,
    Except.bind, hcomponents, Except.mapError, pure, Except.pure, Except.ok.injEq]
  rw [Findings.names_facts, ← snapshot.map_name_records]
  exact List.toFinset_eq_of_perm _ _ ((List.mergeSort_perm _ _).map _)

theorem eventsUpTo_first (hfirst : snapshot.IsFirst) (path : String) :
    store.eventsUpTo path snapshot.versionNumber = .ok [] := by
  rw [hfirst.versionNumber]
  rfl

/-- The events up to a version are those up to the version before, and then its own. -/
theorem eventsUpTo_follows (h : Chronicle log store) (hold : old ∈ log)
    (hfollows : snapshot.Follows old) {before events : List EventRow}
    (hbefore : store.eventsUpTo old.extraction.path old.versionNumber = .ok before)
    (hevents : store.listEvents snapshot.extraction.path (some snapshot.versionNumber) =
      .ok events) :
    store.eventsUpTo snapshot.extraction.path snapshot.versionNumber = .ok (before ++ events) := by
  have hone := h.one_le_versionNumber hold
  have hrange : List.range' 2 (snapshot.versionNumber - 1) =
      List.range' 2 (old.versionNumber - 1) ++ [snapshot.versionNumber] := by
    have hlength : snapshot.versionNumber - 1 = (old.versionNumber - 1) + 1 := by
      rw [hfollows.versionNumber]
      omega
    have hlast : 2 + (old.versionNumber - 1) = snapshot.versionNumber := by
      rw [hfollows.versionNumber]
      omega
    rw [hlength, List.range'_1_concat, hlast]
  rw [← hfollows.path] at hbefore
  rw [Store.eventsUpTo] at hbefore ⊢
  rw [hrange, List.mapM_append]
  cases hbatches : (List.range' 2 (old.versionNumber - 1)).mapM fun i =>
      store.listEvents snapshot.extraction.path (some i) with
  | error failure => simp [hbatches, bind, Except.bind] at hbefore
  | ok batches =>
    have hflatten : batches.flatten = before := by
      rw [hbatches] at hbefore
      exact Except.ok.inj hbefore
    simp [hevents, bind, Except.bind, pure, Except.pure, hflatten]

/-- The events up to a version lead from the names of the first version to its names. -/
theorem replay?_eventsUpTo (h : Chronicle log store) (hsnapshot : snapshot ∈ log) :
    ∃ events initial,
      store.eventsUpTo snapshot.extraction.path snapshot.versionNumber = .ok events ∧
      store.namesAt snapshot.extraction.path 1 = .ok initial ∧
      Drift.replay? initial (events.map (·.change)) =
        some (Drift.names snapshot.extraction.facts).toFinset := by
  -- By induction on the number; each version replays its own changes behind those before it.
  induction hnumber : snapshot.versionNumber generalizing snapshot with
  | zero =>
    have := h.one_le_versionNumber hsnapshot
    omega
  | succ number ih =>
    rw [← hnumber]
    rcases h.first_or_follows hsnapshot with hfirst | ⟨old, hold, hfollows⟩
    · have hnames := h.namesAt hsnapshot
      rw [hfirst.versionNumber] at hnames
      exact ⟨[], _, eventsUpTo_first hfirst _, hnames, rfl⟩
    · have hprevious : old.versionNumber = number := by
        have := hfollows.versionNumber
        omega
      obtain ⟨before, initial, hbefore, hinitial, hreplay⟩ := ih hold hprevious
      obtain ⟨events, hevents, hchanges⟩ := h.listEvents_changes hsnapshot
      rw [← hprevious] at hbefore
      refine ⟨before ++ events, initial, h.eventsUpTo_follows hold hfollows hbefore hevents, ?_, ?_⟩
      · rw [hfollows.path]
        exact hinitial
      · rw [List.map_append, Drift.replay?_append, hreplay, hchanges, hfollows.drift]
        exact Drift.replay?_compare _ _

/-- The counts of a report add up to the components of the version and of the one before. -/
theorem summary_follows (hfollows : snapshot.Follows old) :
    snapshot.drift.summary.added + snapshot.drift.summary.modified +
        snapshot.drift.summary.unchanged = snapshot.version.componentCount ∧
      snapshot.drift.summary.removed + snapshot.drift.summary.modified +
        snapshot.drift.summary.unchanged = old.version.componentCount := by
  have hlength (other : Snapshot) :
      (Drift.names other.extraction.facts).dedup.length = other.version.componentCount := by
    rw [Findings.names_facts, (wellFormed_extract other.extracted).named.unique.dedup]
    exact List.length_map _
  rw [hfollows.drift, Drift.summary_compare_new, Drift.summary_compare_old]
  exact ⟨hlength snapshot, hlength old⟩

end Chronicle

namespace Store

/-- The events of a path are the differences between its versions. The first version has none; those
of a later one are the changes from the version before, each once and in order. Replaying the events
up to a version leads from the names of the first version to the names of that one, and each change
can happen when it does. In the report on the ingestion of a later version, the counts add up to the
components of that version and of the version before. -/
theorem events_are_differences {store : Store} (h : store.Reachable) (path : String) :
    (∀ number version, store.requireVersion path (some number) = .ok version →
      ∃ events, store.listEvents path (some number) = .ok events ∧
        (number = 1 → events = []) ∧
        (2 ≤ number → ∃ previous, store.requireVersion path (some (number - 1)) = .ok previous ∧
          events.map (·.change) =
            (Drift.compare (store.facts previous.id) (store.facts version.id)).changes ∧
          ∀ row ∈ events, row.severity = row.category.severity)) ∧
    (∀ number version, store.requireVersion path (some number) = .ok version →
      ∃ events initial final, store.eventsUpTo path number = .ok events ∧
        store.namesAt path 1 = .ok initial ∧ store.namesAt path number = .ok final ∧
        Drift.replay? initial (events.map (·.change)) = some final) ∧
    ∀ snapshot, store.HasWritten snapshot → snapshot.extraction.path = path →
      2 ≤ snapshot.report.versionNumber →
      ∃ version previous,
        store.requireVersion path (some snapshot.report.versionNumber) = .ok version ∧
        store.requireVersion path (some (snapshot.report.versionNumber - 1)) = .ok previous ∧
        snapshot.report.drift.added + snapshot.report.drift.modified +
          snapshot.report.drift.unchanged = version.componentCount ∧
        snapshot.report.drift.removed + snapshot.report.drift.modified +
          snapshot.report.drift.unchanged = previous.componentCount := by
  obtain ⟨log, hlog⟩ := h.chronicle
  refine ⟨?_, ?_, ?_⟩
  · intro number version hversion
    obtain ⟨snapshot, hsnapshot, rfl, rfl, hnumber⟩ := hlog.of_requireVersion hversion
    obtain rfl := hnumber number rfl
    obtain ⟨events, hevents, hchanges⟩ := hlog.listEvents_changes hsnapshot
    refine ⟨events, hevents, ?_, ?_⟩
    · intro hone
      rw [(hlog.isFirst_of_versionNumber hsnapshot hone).drift] at hchanges
      exact List.map_eq_nil_iff.1 hchanges
    · intro htwo
      obtain ⟨old, hold, hfollows, hprevious⟩ := hlog.follows_of_versionNumber hsnapshot htwo
      rw [hfollows.drift] at hchanges
      refine ⟨old.version, hprevious, ?_, fun row hrow => ?_⟩
      · rw [hchanges, ← hlog.facts hold, ← hlog.facts hsnapshot]
        rfl
      · have hchange := hchanges ▸ List.mem_map_of_mem hrow
        exact Drift.severity_of_change? (Drift.mem_changes_compare.1 hchange)
  · intro number version hversion
    obtain ⟨snapshot, hsnapshot, rfl, rfl, hnumber⟩ := hlog.of_requireVersion hversion
    obtain rfl := hnumber number rfl
    obtain ⟨events, initial, hevents, hinitial, hreplay⟩ := hlog.replay?_eventsUpTo hsnapshot
    exact ⟨events, initial, _, hevents, hinitial, hlog.namesAt hsnapshot, hreplay⟩
  · rintro snapshot hwritten rfl hnumber
    obtain ⟨log, hlog, hsnapshot⟩ := hwritten.chronicle
    obtain ⟨old, _, hfollows, hprevious⟩ := hlog.follows_of_versionNumber hsnapshot hnumber
    exact ⟨snapshot.version, old.version, hlog.requireVersion_number hsnapshot, hprevious,
      Chronicle.summary_follows hfollows⟩

theorem events_are_differences_reinstated :
    ∃ snapshot version previous events initial final,
      reinstated.Reachable ∧ reinstated.HasWritten snapshot ∧
      snapshot.extraction.path = "a.py" ∧ snapshot.report.versionNumber = 3 ∧
      reinstated.requireVersion "a.py" (some 3) = .ok version ∧
      reinstated.requireVersion "a.py" (some 2) = .ok previous ∧
      reinstated.eventsUpTo "a.py" 3 = .ok events ∧
      reinstated.namesAt "a.py" 1 = .ok initial ∧ reinstated.namesAt "a.py" 3 = .ok final ∧
      Drift.replay? initial (events.map (·.change)) = some final ∧
      snapshot.report.drift.added + snapshot.report.drift.modified +
        snapshot.report.drift.unchanged = version.componentCount ∧
      snapshot.report.drift.removed + snapshot.report.drift.modified +
        snapshot.report.drift.unchanged = previous.componentCount := by
  obtain ⟨snapshot, hwritten, hpath, hnumber, _⟩ := written_reinstated
  have hthree : snapshot.report.versionNumber = 3 := hnumber
  obtain ⟨_, hreplay, hreport⟩ := events_are_differences reachable_reinstated "a.py"
  obtain ⟨version, previous, hversion, hprevious, hcounts⟩ :=
    hreport snapshot hwritten hpath (by omega)
  rw [hthree] at hversion hprevious
  obtain ⟨events, initial, final, hevents, hinitial, hfinal, hreplayed⟩ :=
    hreplay 3 version hversion
  exact ⟨snapshot, version, previous, events, initial, final, reachable_reinstated, hwritten, hpath,
    hthree, hversion, hprevious, hevents, hinitial, hfinal, hreplayed, hcounts⟩

end Store

end SourceLedger
