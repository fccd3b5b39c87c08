import Mathlib.Algebra.BigOperators.Group.Finset.Basic
import Mathlib.Algebra.GroupWithZero.Nat
import Mathlib.Algebra.Order.BigOperators.Group.Finset
import SourceLedger.Proofs.Differences
import SourceLedger.Proofs.Lineage
import SourceLedger.Proofs.Growth

/-!
# Statistics and history

The statistics of a store are counted from its tables. They agree with what happened in the run that
led to it: with the ingestions that succeeded, the drift that these reported, and the outcomes of
verifications. What counts as live are the components of the last snapshot of every path.

## Main definitions

* `Store.Recount` follows a run and lists its ingestions and its verifications.
* `Snapshot.heads` are the last snapshots of all paths.
* `Statistics.AgreesWith` compares statistics with a run.

## Main statements

* `Store.Recount.chronicle` finds the chronicle and the proofs of a run.
* `Chronicle.perm_heads` finds the last snapshot of every file.
* `Chronicle.liveCount_eq` counts the live components of a kind.
* `Store.statistics_agree` compares all statistics with the run.
-/

namespace SourceLedger

open Snapshot (chapter latest?)

/-- The number of elements is the sum of their counts, over any keys that they are all among. -/
theorem sum_map_count {α : Type} [DecidableEq α] {keys xs : List α} (hkeys : keys.Nodup)
    (h : ∀ x ∈ xs, x ∈ keys) : (keys.map fun key => xs.count key).sum = xs.length := by
  have hsum := Multiset.sum_count_eq_card (s := keys.toFinset) (m := (xs : Multiset α))
    fun x hx => List.mem_toFinset.2 (h x hx)
  rw [List.sum_toFinset _ hkeys] at hsum
  simpa using hsum

/-- A sum over some members is a sum over all, in which the others count nothing. -/
theorem sum_map_filter {α : Type} (xs : List α) (p : α → Bool) (f : α → Nat) :
    ((xs.filter p).map f).sum = (xs.map fun x => if p x then f x else 0).sum := by
  induction xs with
  | nil => rfl
  | cons x rest ih => cases hx : p x <;> simp [hx, ih]

theorem sum_map_filterMap {α β : Type} (xs : List α) (g : α → Option β) (f : β → Nat) :
    ((xs.filterMap g).map f).sum = (xs.map fun x => (g x).elim 0 f).sum := by
  induction xs with
  | nil => rfl
  | cons x rest ih => cases hx : g x <;> simp [hx, ih]

/-- A table that leaves out what counts nothing still gives the count of every key. -/
theorem lookup_filter_pos {α : Type} [DecidableEq α] (f : α → Nat) {keys : List α} {key : α}
    (hkey : key ∈ keys) :
    (((keys.map fun key => (key, f key)).filter (0 < ·.2)).lookup key).getD 0 = f key := by
  suffices h : ∀ keys : List α, (((keys.map fun key => (key, f key)).filter (0 < ·.2)).lookup
      key).getD 0 = if key ∈ keys then f key else 0 by
    rw [h, if_pos hkey]
  intro keys
  induction keys with
  | nil => rfl
  | cons first rest ih =>
    rw [List.map_cons, List.filter_cons]
    by_cases hsame : key = first
    · subst hsame
      by_cases hpos : 0 < f key
      · simp [hpos]
      · have hzero : f key = 0 := by omega
        simpa [hzero] using ih
    · have hne : (key == first) = false := by simpa using hsame
      split
      · simpa [List.lookup_cons, hne, hsame] using ih
      · simpa [hsame] using ih

theorem ComponentKind.name_inj {kind other : ComponentKind} :
    kind.name = other.name ↔ kind = other := by
  refine ⟨fun hname => ?_, congrArg _⟩
  rw [← Option.some_inj, ← ComponentKind.ofName?_name, hname, ComponentKind.ofName?_name]

theorem Staging.map_kind_records (staging : Staging) :
    staging.records.map (·.kind) = staging.extraction.components.map (·.kind) :=
  staging.map_rows staging.componentRow fun _ _ => rfl

/-- The outcome of a verification, if that is what an operation answers. -/
def Outcome.verification? : Outcome → Option VerifyOutcome
  | .verified outcome => some outcome
  | _ => none

namespace Store

/-- A run from an empty store, with the ingestions in it that succeeded and the outcomes of its
verifications. Besides operations on paths a run may verify files by their number. -/
inductive Recount : (ingested : List Ingestion) → (verified : List VerifyOutcome) → Store → Prop
  | empty : Recount [] [] {}
  | perform {ingested : List Ingestion} {verified : List VerifyOutcome} {store : Store}
      (h : Recount ingested verified store) (parse : Parser) (operation : Operation) (now : Int) :
      Recount (ingested ++ (operation.ingestion? now (store.perform parse operation now).1).toList)
        (verified ++ (store.perform parse operation now).1.verification?.toList)
        (store.perform parse operation now).2
  | verifyFile {ingested : List Ingestion} {verified : List VerifyOutcome} {store : Store}
      (h : Recount ingested verified store) (parse : Parser) (fileId : Int) (now : Int) :
      Recount ingested
        (verified ++
          (store.settle .verified (verifyFile parse store fileId now)).1.verification?.toList)
        (store.settle .verified (verifyFile parse store fileId now)).2

variable {store : Store}

/-- A verification adds a proof with the verdict of its outcome, or fails and adds nothing. -/
theorem proofs_settle {result : Except Failure (VerifyOutcome × Store)} (now : Int)
    (h : ∀ outcome after, result = .ok (outcome, after) →
      ∃ version, after = store.addProof version outcome now) :
    (store.settle .verified result).2.proofs.map (·.matched) =
      store.proofs.map (·.matched) ++
        (store.settle .verified result).1.verification?.toList.map (·.matched) := by
  match result with
  | .error failure => simp [settle, Outcome.verification?]
  | .ok (outcome, after) =>
    obtain ⟨version, rfl⟩ := h outcome after rfl
    simp [settle, Outcome.verification?, addProof, ProofRow.stored]

/-- An operation adds a proof if it is a verification that succeeds, and none otherwise. -/
theorem proofs_perform (store : Store) (parse : Parser) (operation : Operation) (now : Int) :
    (store.perform parse operation now).2.proofs.map (·.matched) =
      store.proofs.map (·.matched) ++
        (store.perform parse operation now).1.verification?.toList.map (·.matched) := by
  cases operation with
  | ingest options path text =>
    cases hresult : store.ingest parse options path text now with
    | error failure => simp [perform, hresult, settle, Outcome.verification?]
    | ok result =>
      obtain ⟨report, after⟩ := result
      obtain ⟨_, _, _, _, _, _, rfl⟩ := ingest_ok hresult
      simp only [perform, hresult, settle]
      rw [commit_eq]
      simp [Outcome.verification?]
  | verify path =>
    refine proofs_settle now fun outcome after hresult => ?_
    obtain ⟨_, _, version, _, _, _, _, hafter⟩ := verify_ok hresult
    exact ⟨version, hafter⟩
  | detect path number =>
    cases hresult : store.detect path number now with
    | error failure => simp [perform, hresult, settle, Outcome.verification?]
    | ok result =>
      obtain ⟨report, after⟩ := result
      obtain ⟨_, _, _, _, _, rfl⟩ := detect_ok hresult
      simp only [perform, hresult, settle]
      rw [addEvents_eq]
      simp [Outcome.verification?]

/-- The chronicle of a run lists what was ingested, and its proofs have the verdicts of what was
verified. -/
theorem Recount.chronicle {ingested : List Ingestion} {verified : List VerifyOutcome}
    (h : Recount ingested verified store) :
    ∃ log, Chronicle log store ∧ ingested = log.map (·.ingestion) ∧
      store.proofs.map (·.matched) = verified.map (·.matched) := by
  induction h with
  | empty => exact ⟨[], .empty, rfl, rfl⟩
  | perform _ parse operation now ih =>
    obtain ⟨log, hlog, rfl, hproofs⟩ := ih
    obtain ⟨new, hnew, hingested, _⟩ := hlog.perform parse operation now
    refine ⟨log ++ new, hnew, ?_, ?_⟩
    · rw [hingested, List.map_append]
    · rw [proofs_perform, hproofs, List.map_append]
  | @verifyFile _ _ store _ parse fileId now ih =>
    obtain ⟨log, hlog, hingested, hproofs⟩ := ih
    refine ⟨log, ?_, hingested, ?_⟩
    · cases hresult : SourceLedger.Store.verifyFile parse store fileId now with
      | error failure => exact hlog
      | ok result =>
        obtain ⟨outcome, after⟩ := result
        obtain ⟨file, version, hfile, hversion, rfl, rfl⟩ := verifyFile_ok hresult
        exact hlog.prove parse now hfile hversion
    · rw [proofs_settle now, hproofs, List.map_append]
      intro outcome after hresult
      obtain ⟨_, version, _, _, _, hafter⟩ := verifyFile_ok hresult
      exact ⟨version, hafter⟩

end Store

namespace Snapshot

/-- Whether a snapshot is the last one of its path. -/
def isHead (log : List Snapshot) (snapshot : Snapshot) : Bool :=
  (latest? log snapshot.extraction.path).any (·.versionId == snapshot.versionId)

/-- The last snapshots of all paths. -/
def heads (log : List Snapshot) : List Snapshot :=
  log.filter (isHead log)

/-- The kinds of the components of the last snapshots of all paths. -/
def liveKinds (log : List Snapshot) : List ComponentKind :=
  (heads log).flatMap fun snapshot => snapshot.extraction.components.map (·.kind)

end Snapshot

open Snapshot (isHead heads liveKinds)

namespace Chronicle

variable {log : List Snapshot} {store : Store} {snapshot last : Snapshot} {path : String}

theorem nodup_log (h : Chronicle log store) : log.Nodup :=
  h.apart.imp fun hprecedes heq => by
    subst heq
    exact absurd hprecedes.1 (Nat.lt_irrefl _)

theorem eq_of_versionId (h : Chronicle log store) (hsnapshot : snapshot ∈ log) (hlast : last ∈ log)
    (hid : last.versionId = snapshot.versionId) : last = snapshot := by
  have hids : (log.map (·.versionId)).Nodup :=
    List.pairwise_map.2 (h.apart.imp fun hprecedes => Nat.ne_of_lt hprecedes.1)
  exact List.inj_on_of_nodup_map hids hlast hsnapshot hid

theorem isHead_iff (h : Chronicle log store) (hsnapshot : snapshot ∈ log) :
    isHead log snapshot ↔ latest? log snapshot.extraction.path = some snapshot := by
  rw [isHead, Option.any_eq_true]
  constructor
  · rintro ⟨last, hlast, hid⟩
    rw [hlast, h.eq_of_versionId hsnapshot (Snapshot.mem_of_latest? hlast).1 (beq_iff_eq.1 hid)]
  · intro hlatest
    exact ⟨snapshot, hlatest, beq_iff_eq.2 rfl⟩

/-- The last snapshots are those that the files of a store were written for. -/
theorem perm_heads (h : Chronicle log store) :
    (store.files.filterMap fun row => latest? log row.path).Perm (heads log) := by
  refine (List.perm_ext_iff_of_nodup ?_ (h.nodup_log.filter _)).2 fun snapshot => ?_
  · -- Different paths have different last snapshots.
    have hpaths : (store.files.map (·.path)).filterMap (latest? log) =
        store.files.filterMap fun row => latest? log row.path := by
      rw [List.filterMap_map]
      rfl
    rw [← hpaths]
    refine h.files.paths.filterMap fun path other last hlast hother => ?_
    rw [← (Snapshot.mem_of_latest? hlast).2, ← (Snapshot.mem_of_latest? hother).2]
  · rw [List.mem_filterMap, List.mem_filter]
    constructor
    · rintro ⟨row, _, hlast⟩
      obtain ⟨hmem, hpath⟩ := Snapshot.mem_of_latest? hlast
      rw [← hpath] at hlast
      exact ⟨hmem, (h.isHead_iff hmem).2 hlast⟩
    · rintro ⟨hmem, hhead⟩
      have hpath : snapshot.extraction.path ∈ store.files.map (·.path) :=
        h.mem_paths_iff.2 ⟨snapshot, hmem, rfl⟩
      obtain ⟨row, hrow, hsame⟩ := List.mem_map.1 hpath
      exact ⟨row, hrow, hsame ▸ (h.isHead_iff hmem).1 hhead⟩

/-- The latest version of a file is that of the last snapshot of its path. -/
theorem latestVersion?_of_file (h : Chronicle log store) {row : StoredFile}
    (hrow : row ∈ store.files) :
    store.latestVersion? row.id = (latest? log row.path).map (·.version) := by
  obtain ⟨last, hlast, hsame⟩ := h.exists_latest?_of_file hrow
  have hid : row.id = last.fileId := by rw [hsame]; rfl
  rw [hlast, hid]
  exact h.latestVersion?_of_latest? hlast

/-- The last snapshot of a path has as its number how many there are. -/
theorem number_latest (h : Chronicle log store) (path : String) :
    (latest? log path).elim 0 (·.versionNumber) = (chapter log path).length := by
  cases hlatest : latest? log path with
  | none =>
    rw [List.getLast?_eq_none_iff.1 hlatest]
    rfl
  | some last =>
    obtain ⟨before, after, hlog, hchapter⟩ := Snapshot.latest?_split hlatest
    have hnumber := h.versionNumber hlog
    rw [(Snapshot.mem_of_latest? hlatest).2] at hnumber
    rw [hchapter, List.length_append, List.length_singleton]
    exact hnumber

theorem sum_latest_number (h : Chronicle log store) :
    (store.files.map fun row => (store.latestVersion? row.id).elim 0 (·.number)).sum =
      log.length := by
  have hcount : (store.files.map fun row => (store.latestVersion? row.id).elim 0 (·.number)) =
      (store.files.map (·.path)).map fun path =>
        (log.map fun snapshot => snapshot.extraction.path).count path := by
    rw [List.map_map]
    refine List.map_congr_left fun row hrow => ?_
    rw [h.latestVersion?_of_file hrow, Option.elim_map]
    refine (h.number_latest row.path).trans ?_
    rw [Function.comp_apply, List.count_eq_countP, List.countP_map, List.countP_eq_length_filter]
    rfl
  rw [hcount, sum_map_count h.files.paths, List.length_map]
  intro path hpath
  obtain ⟨snapshot, hsnapshot, rfl⟩ := List.mem_map.1 hpath
  exact h.mem_paths_iff.2 ⟨snapshot, hsnapshot, rfl⟩

theorem length_files (h : Chronicle log store) :
    store.files.length = (log.map fun snapshot => snapshot.extraction.path).dedup.length := by
  have hperm : (store.files.map (·.path)).Perm
      (log.map fun snapshot => snapshot.extraction.path).dedup := by
    refine (List.perm_ext_iff_of_nodup h.files.paths (List.nodup_dedup _)).2 fun path => ?_
    rw [h.mem_paths_iff, List.mem_dedup, List.mem_map]
  rw [← List.length_map, hperm.length_eq]

theorem length_components (h : Chronicle log store) :
    store.components.length = (store.versions.map (·.componentCount)).sum := by
  rw [h.tables.components, h.tables.versions, List.length_flatMap, List.map_map]
  refine congrArg List.sum (List.map_congr_left fun snapshot _ => ?_)
  exact snapshot.length_componentRows

theorem isLive_componentRow (h : Chronicle log store) (hsnapshot : snapshot ∈ log)
    {row : StoredComponent} (hrow : row ∈ snapshot.componentRows) :
    store.isLive row = isHead log snapshot := by
  obtain ⟨⟨component, position⟩, _, rfl⟩ := List.mem_map.1 hrow
  have hlatest := h.latestVersion? hsnapshot
  change (store.latestVersion? snapshot.fileId).any (·.id == snapshot.versionId) = _
  rw [hlatest, Option.any_map]
  rfl

/-- The live components of a kind are those of the last snapshots. -/
theorem liveCount_eq (h : Chronicle log store) (kind : ComponentKind) :
    store.liveCount kind = (liveKinds log).count kind := by
  have hkinds (snapshot : Snapshot) : snapshot.componentRows.countP (·.kind == kind.name) =
      (snapshot.extraction.components.map (·.kind)).count kind := by
    rw [Staging.componentRows_eq_map_stored, List.countP_map, ← snapshot.map_kind_records,
      List.count_eq_countP, List.countP_map]
    refine List.countP_congr fun row _ => ?_
    simp [ComponentRow.stored, ComponentKind.name_inj]
  rw [Store.liveCount, ← List.countP_eq_length_filter, h.tables.components, List.countP_flatMap,
    liveKinds, List.count_eq_countP, List.countP_flatMap, heads, sum_map_filter]
  refine congrArg List.sum (List.map_congr_left fun snapshot hsnapshot => ?_)
  rw [Function.comp_apply, List.countP_congr fun row hrow => by
    rw [h.isLive_componentRow hsnapshot hrow]]
  split
  · rename_i hhead
    simpa [hhead, List.count_eq_countP] using hkinds snapshot
  · rename_i hhead
    simp [hhead]

/-- What is summed up over the files of a store is summed up over the last snapshots. -/
theorem sum_latest (h : Chronicle log store) (f : Snapshot → Nat) :
    (store.files.map fun row => (latest? log row.path).elim 0 f).sum =
      ((heads log).map f).sum := by
  rw [← sum_map_filterMap, (h.perm_heads.map f).sum_eq]

/-- The components of the latest versions are those of the last snapshots. -/
theorem sum_latest_componentCount (h : Chronicle log store) :
    (store.files.map fun row => (store.latestVersion? row.id).elim 0 (·.componentCount)).sum =
      (liveKinds log).length := by
  rw [liveKinds, List.length_flatMap, List.map_congr_left fun row hrow => by
    rw [h.latestVersion?_of_file hrow, Option.elim_map]]
  refine (h.sum_latest _).trans (congrArg List.sum (List.map_congr_left fun snapshot _ => ?_))
  simp [Staging.version]

/-- The components of the files can be listed, and those of a kind are counted among the last
snapshots. -/
theorem exists_listings (h : Chronicle log store) :
    ∃ listings, List.Forall₂ (fun row listing => store.listComponents row.path none = .ok listing)
        store.files listings ∧
      ∀ kind, listings.flatten.countP (·.kind == kind) = (liveKinds log).count kind := by
  let listing (snapshot : Snapshot) : List ComponentRecord :=
    snapshot.records.mergeSort fun x y => x.stored.listedBefore y.stored
  refine ⟨store.files.map fun row => (latest? log row.path).elim [] listing, ?_, fun kind => ?_⟩
  · rw [List.forall₂_map_right_iff, List.forall₂_same]
    intro row hrow
    obtain ⟨last, hlast, _⟩ := h.exists_latest?_of_file hrow
    have hcomponents := h.componentsOf (Snapshot.mem_of_latest? hlast).1
    simp only [Store.listComponents, h.requireVersion hlast, bind, Except.bind, hlast]
    exact congrArg (Except.mapError Failure.database) hcomponents
  · have hcount (snapshot : Snapshot) : (listing snapshot).countP (·.kind == kind) =
        (snapshot.extraction.components.map (·.kind)).count kind := by
      rw [(List.mergeSort_perm _ _).countP_eq, ← snapshot.map_kind_records, List.count_eq_countP,
        List.countP_map]
      rfl
    rw [List.countP_flatten, List.map_map, liveKinds, List.count_flatMap]
    refine Eq.trans (congrArg List.sum (List.map_congr_left fun row _ => ?_)) (h.sum_latest _)
    rw [Function.comp_apply]
    cases latest? log row.path with
    | none => rfl
    | some last => exact hcount last

/-- A first version has no events, and a later one as many as the report on it counts changes. -/
theorem length_eventRows (h : Chronicle log store) (hsnapshot : snapshot ∈ log) :
    snapshot.eventRows.length =
      if 1 < snapshot.versionNumber then
        snapshot.drift.summary.added + snapshot.drift.summary.removed +
          snapshot.drift.summary.modified
      else 0 := by
  rw [Staging.eventRows, List.length_map]
  rcases h.first_or_follows hsnapshot with hfirst | ⟨old, hold, hfollows⟩
  · rw [hfirst.drift, hfirst.versionNumber]
    rfl
  · have hone := h.one_le_versionNumber hold
    rw [if_pos (by rw [hfollows.versionNumber]; omega), hfollows.drift]
    exact Drift.length_changes_compare _ _

theorem length_events (h : Chronicle log store) :
    store.events.length = (((log.map (·.ingestion)).filter (1 < ·.report.versionNumber)).map
      fun ingestion => ingestion.report.drift.added + ingestion.report.drift.removed +
        ingestion.report.drift.modified).sum := by
  have hlength := congrArg List.length h.eventRows
  rw [List.length_map, List.length_flatMap] at hlength
  rw [hlength, sum_map_filter, List.map_map]
  refine congrArg List.sum (List.map_congr_left fun snapshot hsnapshot => ?_)
  rw [h.length_eventRows hsnapshot]
  simp [Snapshot.ingestion, Staging.report]

end Chronicle

/-- The statistics of a store agree with the run that led to it, in which some texts were ingested
and some versions were verified. -/
structure Statistics.AgreesWith (statistics : Statistics) (store : Store)
    (ingested : List Ingestion) (verified : List VerifyOutcome) : Prop where
  /-- A file for each path that was ingested. -/
  files : statistics.files = (ingested.map (·.path)).dedup.length
  /-- A version for each ingestion. -/
  versions : statistics.versions = ingested.length
  /-- The versions of a file are as many as the number of its latest version says. -/
  latest : statistics.versions =
    (store.files.map fun file => (store.latestVersion? file.id).elim 0 (·.number)).sum
  components : statistics.components = (store.versions.map (·.componentCount)).sum
  /-- Live are the components that the latest versions of all files list. -/
  liveByKind : ∃ listings,
    List.Forall₂ (fun file listing => store.listComponents file.path none = .ok listing)
      store.files listings ∧
    ∀ kind, (statistics.liveByKind.lookup kind).getD 0 =
      listings.flatten.countP (·.kind == kind)
  live : statistics.live =
    (store.files.map fun file => (store.latestVersion? file.id).elim 0 (·.componentCount)).sum
  /-- An event for each change that was reported of a version after the first. -/
  events : statistics.events = ((ingested.filter (1 < ·.report.versionNumber)).map
    fun ingestion => ingestion.report.drift.added + ingestion.report.drift.removed +
      ingestion.report.drift.modified).sum
  /-- A proof for each verification. -/
  proofs : statistics.proofs = verified.length
  failedProofs : statistics.failedProofs = (verified.filter (·.status ≠ .pass)).length

namespace Store

variable {store : Store}

theorem live_statistics (store : Store) :
    store.statistics.live = (ComponentKind.all.map store.liveCount).sum := by
  have hsum : store.statistics.live = (store.statistics.liveByKind.map (·.2)).sum := by
    rw [Statistics.live, List.sum_eq_foldl, List.foldl_map]
  rw [hsum, statistics, sum_map_filter, List.map_map]
  refine congrArg List.sum (List.map_congr_left fun kind _ => ?_)
  by_cases hpos : 0 < store.liveCount kind
  · simp [hpos]
  · have hzero : store.liveCount kind = 0 := by omega
    simp [hzero]

/-- After any run from the empty store, its statistics agree with what happened in the run. -/
theorem statistics_agree {ingested : List Ingestion} {verified : List VerifyOutcome}
    (h : Recount ingested verified store) :
    store.statistics.AgreesWith store ingested verified := by
  obtain ⟨log, hlog, rfl, hproofs⟩ := h.chronicle
  have hversions : store.statistics.versions = log.length := by
    rw [statistics, hlog.tables.versions, List.length_map]
  have hkinds (kind : ComponentKind) : kind ∈ ComponentKind.all := by cases kind <;> decide
  constructor
  case files =>
    rw [List.map_map]
    exact hlog.length_files
  case versions => rw [hversions, List.length_map]
  case latest => rw [hversions, hlog.sum_latest_number]
  case components => exact hlog.length_components
  case liveByKind =>
    obtain ⟨listings, hlistings, hcounts⟩ := hlog.exists_listings
    refine ⟨listings, hlistings, fun kind => ?_⟩
    rw [hcounts, ← hlog.liveCount_eq]
    exact lookup_filter_pos store.liveCount (hkinds kind)
  case live =>
    have hall : ComponentKind.all.Nodup := by decide
    rw [live_statistics, hlog.sum_latest_componentCount,
      ← sum_map_count hall fun kind _ => hkinds kind]
    exact congrArg List.sum (List.map_congr_left fun kind _ => hlog.liveCount_eq kind)
  case events => exact hlog.length_events
  case proofs =>
    have hlength := congrArg List.length hproofs
    rwa [List.length_map, List.length_map] at hlength
  case failedProofs =>
    have hfailed := congrArg (fun verdicts => (verdicts.filter (!·)).length) hproofs
    simp only [List.filter_map, List.length_map, Function.comp_def] at hfailed
    refine hfailed.trans (congrArg List.length (List.filter_congr fun outcome _ => ?_))
    simp [VerifyOutcome.matched]

/-- A store in which a version was verified, and a path that was never ingested was not. -/
def verifiedTwice : Store :=
  ((reinstated.perform sampleParser (.verify "a.py") 4).2.perform sampleParser (.verify "b.py") 5).2

theorem statistics_agree_verified :
    ∃ ingested verified, Recount ingested verified verifiedTwice ∧
      verifiedTwice.statistics.AgreesWith verifiedTwice ingested verified ∧
      verifiedTwice.statistics.versions = 3 ∧ verifiedTwice.statistics.proofs = 1 := by
  have hrun := ((((Recount.empty.perform sampleParser (.ingest {} "a.py" Extraction.accentedText)
    1).perform sampleParser (.ingest {} "a.py" "") 2).perform sampleParser
      (.ingest {} "a.py" Extraction.accentedText) 3).perform sampleParser (.verify "a.py")
        4).perform sampleParser (.verify "b.py") 5
  have hcounts : verifiedTwice.statistics.versions = 3 ∧ verifiedTwice.statistics.proofs = 1 := by
    decide +kernel
  exact ⟨_, _, hrun, statistics_agree hrun, hcounts⟩

end Store

end SourceLedger
