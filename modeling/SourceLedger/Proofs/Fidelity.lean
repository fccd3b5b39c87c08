import SourceLedger.Proofs.Ingestion

/-!
# Fidelity of a store

The text that was ingested last under a path can be put together again from what is stored, whatever
was ingested, verified and detected before and after, under this path and others. So the path passes
its verification.

## Main statements

* `Chronicle.rebuilt` puts a version together from its stored texts.
* `Store.verify_passes` says what is found under a path after any run.
-/

namespace SourceLedger

open Snapshot (chapter latest?)

/-- Counts are in order as values of the database. -/
theorem Datum.le_of_lt {m n : Nat} (h : m < n) :
    ((Cell.value m).datum).le ((Cell.value n).datum) = true := by
  simp only [Datum.le, Cell.datum, Datum.scaled?, decide_eq_true_eq]
  have hle : (m : Int) ≤ n := by omega
  exact Int.mul_le_mul_of_nonneg_right hle (Int.natCast_nonneg _)

namespace Chronicle

variable {log : List Snapshot} {store : Store} {snapshot : Snapshot}

/-- The rows at top level, put in the order of their positions, are those of the components at top
level. -/
theorem topLevelRows (h : Chronicle log store) (hsnapshot : snapshot ∈ log) :
    ((store.componentRows snapshot.versionId).filter (·.parentId.isNone)).mergeSort
        (fun x y => x.orderIndex.datum.le y.orderIndex.datum) =
      (snapshot.extraction.components.zipIdx.filter (·.1.parent.isNone)).map
        fun placed => (snapshot.componentRow placed.1 placed.2).stored := by
  -- Components at top level are siblings, so their rows are in order before they are sorted.
  have hordered := (wellFormed_extract snapshot.extracted).named.siblings_ordered
  have hsorted : (snapshot.componentRows.filter (·.parentId.isNone)).Pairwise
      fun x y => x.orderIndex.datum.le y.orderIndex.datum := by
    refine List.pairwise_filter.2 (snapshot.pairwise_rows
      (fun component position => (snapshot.componentRow component position).stored) hordered ?_)
    intro component position later position' hlt hfirst hsecond
    refine Datum.le_of_lt (hlt ?_)
    have hnone : component.parent = none := by
      simpa [ComponentRow.stored, Staging.componentRow] using hfirst
    have hnone' : later.parent = none := by
      simpa [ComponentRow.stored, Staging.componentRow] using hsecond
    rw [hnone, hnone']
  rw [h.componentRows hsnapshot, List.mergeSort_of_pairwise hsorted, Staging.componentRows,
    List.filter_map]
  refine congrArg _ (List.filter_congr fun placed _ => ?_)
  simp [ComponentRow.stored, Staging.componentRow]

/-- The stored texts at top level are those of the components at top level. -/
theorem topLevelSegments (h : Chronicle log store) (hsnapshot : snapshot ∈ log) :
    store.topLevelSegments snapshot.versionId =
      (snapshot.extraction.components.filter (·.parent.isNone)).map (·.segment) := by
  have htop : snapshot.extraction.components.filter (·.parent.isNone) =
      (snapshot.extraction.components.zipIdx.filter (·.1.parent.isNone)).map Prod.fst := by
    have hfst := List.filter_map (f := Prod.fst) (p := fun component : Component =>
      component.parent.isNone) (l := snapshot.extraction.components.zipIdx)
    rw [List.zipIdx_map_fst] at hfst
    exact hfst
  rw [Store.topLevelSegments, h.topLevelRows hsnapshot, htop, List.map_map, List.filterMap_map,
    ← List.filterMap_eq_map]
  refine List.filterMap_congr fun placed hplaced => ?_
  exact h.segment? hsnapshot (List.mem_zipIdx_iff_getElem?.1 (List.mem_filter.1 hplaced).1)

/-- A version put together from its stored texts is what the extraction makes up. -/
theorem rebuilt (h : Chronicle log store) (hsnapshot : snapshot ∈ log) :
    store.rebuilt snapshot.versionId = snapshot.extraction.reconstruct :=
  congrArg Segment.join (h.topLevelSegments hsnapshot)

variable {path : String}

theorem requireFile (h : Chronicle log store) (hlatest : latest? log path = some snapshot) :
    store.requireFile path = .ok snapshot.fileRow := by
  rw [Store.requireFile, h.file?, hlatest]
  rfl

/-- The latest version of a path is the one that was written last. -/
theorem requireVersion (h : Chronicle log store) (hlatest : latest? log path = some snapshot) :
    store.requireVersion path none = .ok snapshot.version := by
  have hversion : store.version? snapshot.fileRow.id none = some snapshot.version :=
    h.latestVersion?_of_latest? hlatest
  simp only [Store.requireVersion, h.requireFile hlatest, bind, Except.bind, hversion]

/-- The latest text of a path is put together from the stored texts of its last snapshot. -/
theorem reconstruct (h : Chronicle log store) (hlatest : latest? log path = some snapshot) :
    store.reconstruct path = .ok snapshot.extraction.reconstruct := by
  simp only [Store.reconstruct, h.requireVersion hlatest, bind, Except.bind, pure, Except.pure]
  exact congrArg Except.ok (h.rebuilt (Snapshot.mem_of_latest? hlatest).1)

/-- The file of a path is found by its number too. -/
theorem fileById? (h : Chronicle log store) (hlatest : latest? log path = some snapshot) :
    store.fileById? snapshot.fileId = .ok (some snapshot.fileRow) := by
  have hrow := h.files.rows path
  rw [hlatest] at hrow
  have hmem : snapshot.fileRow.stored ∈ store.files := List.mem_of_find?_eq_some hrow
  have hfound : store.files.find? (·.id == snapshot.fileId) = some snapshot.fileRow.stored := by
    rw [← List.head?_filter]
    exact congrArg List.head? (filter_key_eq_singleton h.files.nodup_ids hmem)
  simp [Store.fileById?, hfound, FileRow.read_stored, Functor.map, Except.map]

/-- A path that was ingested is verified. -/
theorem verify (h : Chronicle log store) (hlatest : latest? log path = some snapshot)
    (parse : Parser) (now : Int) :
    store.verify parse path now =
      .ok (store.examine parse snapshot.fileRow snapshot.version,
        store.addProof snapshot.version (store.examine parse snapshot.fileRow snapshot.version)
          now) := by
  have hfile : store.fileById? snapshot.fileRow.id = .ok (some snapshot.fileRow) :=
    h.fileById? hlatest
  have hversion : store.latestVersion? snapshot.fileRow.id = some snapshot.version :=
    h.latestVersion?_of_latest? hlatest
  simp only [Store.verify, h.requireFile hlatest, bind, Except.bind, Store.verifyFile, hfile,
    hversion]

end Chronicle

namespace Snapshot

variable (snapshot : Snapshot)

/-- The digests of a snapshot are those of its text and of its tree, which has no faults. -/
theorem digests :
    snapshot.tree.root.attributes.hasFault = false ∧
      snapshot.extraction.rawHash = digest snapshot.text ∧
      snapshot.extraction.treeHash = digest (snapshot.tree.root.canonical snapshot.text) := by
  obtain ⟨hfault, hnamed⟩ := extract_ok snapshot.extracted
  rw [(Extraction.named_ok hnamed).2.2]
  exact ⟨hfault, rfl, rfl⟩

/-- A snapshot of which nothing is missing makes up its text. -/
theorem reconstruct_eq_text (h : snapshot.extraction.missingSegments = 0) :
    snapshot.extraction.reconstruct = snapshot.text := by
  obtain ⟨hmissing, htext⟩ := Extraction.reconstruct_named (extract_ok snapshot.extracted).2
  rw [htext, Extraction.reconstruct_staged (hmissing ▸ h)]

end Snapshot

/-- A version of which nothing is missing has the digests that were recorded. -/
theorem Chronicle.examine {log : List Snapshot} {store : Store} {snapshot : Snapshot}
    {parse : Parser} (h : Chronicle log store) (hsnapshot : snapshot ∈ log)
    (htree : snapshot.tree = parse snapshot.text)
    (hwhole : snapshot.extraction.missingSegments = 0) :
    (store.examine parse snapshot.fileRow snapshot.version).rawMatch = true ∧
      (store.examine parse snapshot.fileRow snapshot.version).treeMatch = true := by
  obtain ⟨hfault, hraw, htreeHash⟩ := snapshot.digests
  rw [htree] at hfault htreeHash
  have htext : store.rebuilt snapshot.version.id = snapshot.text :=
    (h.rebuilt hsnapshot).trans (snapshot.reconstruct_eq_text hwhole)
  have hrawHash : snapshot.version.rawHash = digest snapshot.text := hraw
  have htreeDigest : treeDigest snapshot.fileRow.path snapshot.text (parse snapshot.text) =
      .ok snapshot.version.treeHash := by
    rw [treeDigest, checkTree, hfault, Staging.version, htreeHash]
    rfl
  refine ⟨?_, ?_⟩
  · simp only [Store.examine, htext, hrawHash, beq_self_eq_true]
  · simp only [Store.examine, htext, htreeDigest, Except.toOption, beq_self_eq_true]

namespace Store

/-- After any run from the empty store, a path whose last successful ingestion has lost nothing
gives the ingested text back, and passes its verification with the number of that ingestion. -/
theorem verify_passes (parse : Parser) (journal : List (Operation × Int)) (path : String)
    {ingestion : Ingestion}
    (hlast : ((ingestions parse {} journal).filter (·.path == path)).getLast? = some ingestion)
    (hwhole : ingestion.report.missingSegments = 0) (now : Int) :
    (replay parse {} journal).reconstruct path = .ok ingestion.text ∧
      ∃ outcome after, (replay parse {} journal).verify parse path now = .ok (outcome, after) ∧
        outcome.rawMatch = true ∧ outcome.treeMatch = true ∧ outcome.matched = true ∧
        outcome.status = .pass ∧ outcome.versionNumber = ingestion.report.versionNumber := by
  obtain ⟨log, hlog, hingestions, htrees⟩ := chronicle_replay parse journal
  -- The last ingestion of the path left the last snapshot of the path.
  obtain ⟨snapshot, hlatest, rfl⟩ := Snapshot.latest?_of_ingestions hingestions hlast
  have hmem := (Snapshot.mem_of_latest? hlatest).1
  obtain ⟨hraw, htree⟩ := hlog.examine hmem (htrees snapshot hmem) hwhole
  have hstatus : ((replay parse {} journal).examine parse snapshot.fileRow
      snapshot.version).status = .pass := by
    rw [VerifyOutcome.status, hraw, htree]
    rfl
  refine ⟨?_, _, _, hlog.verify hlatest parse now, hraw, htree, ?_, hstatus, rfl⟩
  · rw [hlog.reconstruct hlatest, snapshot.reconstruct_eq_text hwhole]
    rfl
  · rw [VerifyOutcome.matched, hstatus]
    rfl

theorem verify_passes_accented :
    ∃ store outcome after, store = replay (fun _ => Extraction.accentedTree) {}
        [(.ingest {} "a.py" Extraction.accentedText, 1), (.detect "b.py" none, 2)] ∧
      store.reconstruct "a.py" = .ok Extraction.accentedText ∧
      store.verify (fun _ => Extraction.accentedTree) "a.py" 3 = .ok (outcome, after) ∧
      outcome.status = .pass := by
  obtain ⟨extraction, hextract, hwhole⟩ := Extraction.extract_accented
  have hingested := ingestions_cons_ingest
    (Chronicle.empty.ingest_ok (fun _ => Extraction.accentedTree) hextract 1)
    [(.detect "b.py" none, 2)]
  obtain ⟨hreconstruct, outcome, after, hverify, _, _, _, hstatus, _⟩ :=
    verify_passes (fun _ => Extraction.accentedTree)
      [(.ingest {} "a.py" Extraction.accentedText, 1), (.detect "b.py" none, 2)] "a.py"
      (by rw [hingested]; rfl) hwhole 3
  exact ⟨_, outcome, after, rfl, hreconstruct, hverify, hstatus⟩

end Store

end SourceLedger
