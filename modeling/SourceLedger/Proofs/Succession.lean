import Mathlib.Data.List.Nodup
import SourceLedger.Proofs.Tables

/-!
# The succession of versions

The snapshots of a path follow each other. The row of the path is that of the last one, all of them
have the same file, and each is staged on the one before: it knows its version, its identities, and
its drift from it.

## Main definitions

* `Snapshot.chapter` and `Snapshot.latest?` are the snapshots of a path and the last of them.

## Main statements

* `Chronicle.file?` and `Chronicle.latestVersion?` find what a store holds under a path.
* `Chronicle.stage_eq` says what the next version of a path is staged on.
* `Chronicle.versionNumber` counts the versions of a path from one.
-/

namespace SourceLedger

namespace Snapshot

/-- The snapshots of a path, from the oldest. -/
def chapter (log : List Snapshot) (path : String) : List Snapshot :=
  log.filter (·.extraction.path == path)

/-- The snapshot of a path that was written last. -/
def latest? (log : List Snapshot) (path : String) : Option Snapshot :=
  (chapter log path).getLast?

variable {log : List Snapshot} {snapshot : Snapshot} {path : String}

theorem latest?_concat_self (log : List Snapshot) (snapshot : Snapshot) :
    latest? (log ++ [snapshot]) snapshot.extraction.path = some snapshot := by
  simp [latest?, chapter]

theorem latest?_concat_other (log : List Snapshot) (h : path ≠ snapshot.extraction.path) :
    latest? (log ++ [snapshot]) path = latest? log path := by
  simp [latest?, chapter, h.symm]

theorem mem_of_latest? (h : latest? log path = some snapshot) :
    snapshot ∈ log ∧ snapshot.extraction.path = path := by
  have hmem : snapshot ∈ chapter log path := List.mem_of_getLast? h
  simpa [chapter] using hmem

/-- A path that was written has a last snapshot. -/
theorem exists_latest? (h : snapshot ∈ log) :
    ∃ last, latest? log snapshot.extraction.path = some last := by
  have hmem : snapshot ∈ chapter log snapshot.extraction.path := by simp [chapter, h]
  exact ⟨_, List.getLast?_eq_some_getLast (List.ne_nil_of_mem hmem)⟩

/-- Behind the last snapshot of a path there is none. -/
theorem latest?_split (h : latest? log path = some snapshot) :
    ∃ before after, log = before ++ snapshot :: after ∧
      chapter log path = chapter before path ++ [snapshot] := by
  obtain ⟨front, hfront⟩ := List.getLast?_eq_some_iff.1 h
  obtain ⟨before, rest, rfl, hbefore, hrest⟩ := List.filter_eq_append_iff.1 hfront
  obtain ⟨others, after, rfl, hothers, _, _⟩ := List.filter_eq_cons_iff.1 hrest
  refine ⟨before ++ others, after, by simp, ?_⟩
  rw [hfront, chapter, List.filter_append, List.filter_eq_nil_iff.2 hothers, List.append_nil,
    hbefore]

/-- The last ingestion of a path is that of its last snapshot. -/
theorem latest?_of_ingestions {ingestions : List Ingestion} {ingestion : Ingestion}
    (hingestions : ingestions = log.map (·.ingestion))
    (hlast : (ingestions.filter (·.path == path)).getLast? = some ingestion) :
    ∃ snapshot, latest? log path = some snapshot ∧ snapshot.ingestion = ingestion := by
  rw [hingestions, List.filter_map, List.getLast?_map] at hlast
  exact Option.map_eq_some_iff.1 hlast

end Snapshot

open Snapshot (chapter latest?)

namespace Store

variable {files : List StoredFile} {old row : StoredFile}

/-- Only the row of a path has its number. -/
theorem path_eq_of_id_eq (hids : (files.map (·.id)).Nodup)
    (hold : files.find? (·.path == row.path) = some old) (hid : old.id = row.id)
    {file : StoredFile} (hfile : file ∈ files) (hsame : file.id = row.id) :
    file.path = row.path := by
  have heq : file = old :=
    List.inj_on_of_nodup_map hids hfile (List.mem_of_find?_eq_some hold) (hsame.trans hid.symm)
  rw [heq]
  simpa using List.find?_some hold

/-- Replacing the row of a path keeps all paths. -/
theorem map_path_replace (hids : (files.map (·.id)).Nodup)
    (hold : files.find? (·.path == row.path) = some old) (hid : old.id = row.id) :
    (files.map fun file => if file.id = row.id then row else file).map (·.path) =
      files.map (·.path) := by
  rw [List.map_map]
  refine List.map_congr_left fun file hfile => ?_
  dsimp only [Function.comp_apply]
  split
  · rename_i hsame
    exact (path_eq_of_id_eq hids hold hid hfile hsame).symm
  · rfl

/-- Replacing the row of a path changes what is found under that path, and nothing else. -/
theorem find?_replace (hids : (files.map (·.id)).Nodup)
    (hold : files.find? (·.path == row.path) = some old) (hid : old.id = row.id)
    (path : String) :
    (files.map fun file => if file.id = row.id then row else file).find? (·.path == path) =
      if path = row.path then some row else files.find? (·.path == path) := by
  -- The row that is put in has the path of the row it replaces, so the same places match.
  have hkeep : files.filter ((fun file : StoredFile => file.path == path) ∘
      fun file => if file.id = row.id then row else file) = files.filter (·.path == path) := by
    refine List.filter_congr fun file hfile => ?_
    dsimp only [Function.comp_apply]
    split
    · rename_i hsame
      rw [path_eq_of_id_eq hids hold hid hfile hsame]
    · rfl
  rw [List.find?_map, ← List.head?_filter, hkeep, List.head?_filter]
  by_cases hother : path = row.path
  · rw [if_pos hother, hother, hold, Option.map_some, if_pos hid]
  · rw [if_neg hother]
    cases hfound : files.find? (·.path == path) with
    | none => rfl
    | some file =>
      have hfile : file.path = path := by simpa using List.find?_some hfound
      have hdifferent : file.id ≠ row.id := fun hsame => hother (hfile.symm.trans
        (path_eq_of_id_eq hids hold hid (List.mem_of_find?_eq_some hfound) hsame))
      rw [Option.map_some, if_neg hdifferent]

end Store

/-- The files of a store that has written some snapshots. -/
structure Files (log : List Snapshot) (store : Store) : Prop where
  /-- Files are numbered from one. -/
  ids : store.files.map (·.id) =
    (List.range store.files.length).map fun place : Nat => (place : Int) + 1
  /-- No path has two rows. -/
  paths : (store.files.map (·.path)).Nodup
  /-- The row of a path is that of its last snapshot. -/
  rows : ∀ path, store.fileRow? path = (latest? log path).map (·.fileRow.stored)
  /-- All snapshots of a path have the file of the last one. -/
  same : ∀ snapshot ∈ log, ∀ last, latest? log snapshot.extraction.path = some last →
    snapshot.fileId = last.fileId

namespace Files

variable {log : List Snapshot} {store : Store}

theorem nodup_ids (h : Files log store) : (store.files.map (·.id)).Nodup := by
  rw [h.ids]
  refine List.Nodup.map (fun x y hxy => ?_) List.nodup_range
  have hsame : (x : Int) + 1 = (y : Int) + 1 := hxy
  omega

theorem nextId_eq (h : Files log store) :
    nextId (store.files.map (·.id)) = (store.files.length : Int) + 1 := by
  rw [h.ids, nextId, List.getLast?_map, List.getLast?_range]
  split
  · simp [*]
  · simp only [Option.map_some, Option.getD_some]
    omega

/-- The next file gets a number that no file has. -/
theorem nextId_not_mem (h : Files log store) :
    nextId (store.files.map (·.id)) ∉ store.files.map (·.id) := by
  rw [h.nextId_eq, h.ids]
  intro hmem
  obtain ⟨place, hplace, hid⟩ := List.mem_map.1 hmem
  have := List.mem_range.1 hplace
  omega

theorem file? (h : Files log store) (path : String) :
    store.file? path = .ok ((latest? log path).map (·.fileRow)) := by
  rw [Store.file?, h.rows]
  cases latest? log path with
  | none => rfl
  | some last => simp [FileRow.read_stored, Functor.map, Except.map]

/-- The file that the next version of a path gets. -/
theorem fileId_stage (store : Store) (latest : Option Snapshot) (extraction : Extraction)
    (now : Int) :
    (store.stage (latest.map (·.fileRow)) extraction now).fileId =
      latest.elim (nextId (store.files.map (·.id))) (·.fileId) := by
  cases latest <;> rfl

variable {snapshot old : Snapshot}

/-- The snapshots of a path keep their file when the path gets another one of that file. -/
theorem same_concat (h : Files log store)
    (hsame : ∀ old, latest? log snapshot.extraction.path = some old →
      snapshot.fileId = old.fileId) :
    ∀ earlier ∈ log ++ [snapshot], ∀ last,
      latest? (log ++ [snapshot]) earlier.extraction.path = some last →
        earlier.fileId = last.fileId := by
  intro earlier hearlier last hlast
  -- For the path of the new snapshot that is the last one; for other paths nothing changes.
  by_cases hpath : earlier.extraction.path = snapshot.extraction.path
  · rw [hpath, Snapshot.latest?_concat_self] at hlast
    obtain rfl := Option.some.inj hlast
    rcases List.mem_append.1 hearlier with hearlier | hearlier
    · obtain ⟨old, hold⟩ := Snapshot.exists_latest? hearlier
      rw [h.same earlier hearlier old hold, hsame old (hpath ▸ hold)]
    · rw [List.mem_singleton.1 hearlier]
  · rw [Snapshot.latest?_concat_other log hpath] at hlast
    rcases List.mem_append.1 hearlier with hearlier | hearlier
    · exact h.same earlier hearlier last hlast
    · exact absurd (by rw [List.mem_singleton.1 hearlier]) hpath

/-- A path that is new gets a row behind all others. -/
theorem add (h : Files log store) (hlatest : latest? log snapshot.extraction.path = none)
    (hid : snapshot.fileId = nextId (store.files.map (·.id))) :
    Files (log ++ [snapshot]) (store.commit snapshot.toStaging) := by
  have hput : Store.putFile store.files snapshot.toStaging =
      store.files ++ [snapshot.fileRow.stored] := by
    refine if_neg fun hany => h.nextId_not_mem ?_
    obtain ⟨row, hrow, hsame⟩ := List.any_eq_true.1 hany
    rw [← hid, ← beq_iff_eq.1 hsame]
    exact List.mem_map_of_mem hrow
  rw [Store.commit_eq, hput]
  refine ⟨?_, ?_, fun path => ?_, h.same_concat (by simp [hlatest])⟩
  · rw [List.map_append, h.ids, List.length_append, List.length_singleton, List.range_succ,
      List.map_append]
    refine congrArg _ (congrArg (fun id => [id]) ?_)
    exact hid.trans h.nextId_eq
  · have hnone := h.rows snapshot.extraction.path
    rw [hlatest] at hnone
    rw [List.map_append, List.map_singleton]
    refine h.paths.append (List.nodup_singleton _) (List.disjoint_singleton.2 fun hmem => ?_)
    obtain ⟨row, hrow, hpath⟩ := List.mem_map.1 hmem
    exact List.find?_eq_none.1 hnone row hrow (beq_iff_eq.2 hpath)
  · have hrow := h.rows path
    rw [Store.fileRow?] at hrow ⊢
    rw [List.find?_append, hrow]
    by_cases hpath : path = snapshot.extraction.path
    · rw [hpath, hlatest, Snapshot.latest?_concat_self]
      simp [FileRow.stored, Staging.fileRow]
    · rw [Snapshot.latest?_concat_other log hpath]
      have hother : (snapshot.fileRow.stored.path == path) = false := by
        simpa [FileRow.stored, Staging.fileRow] using Ne.symm hpath
      simp [hother]

/-- A path that is there gets another row in its place. -/
theorem replace (h : Files log store) (hlatest : latest? log snapshot.extraction.path = some old)
    (hid : snapshot.fileId = old.fileId) :
    Files (log ++ [snapshot]) (store.commit snapshot.toStaging) := by
  have hold : store.files.find? (·.path == snapshot.fileRow.stored.path) =
      some old.fileRow.stored := by
    have hrow := h.rows snapshot.extraction.path
    rw [hlatest] at hrow
    exact hrow
  have hput : Store.putFile store.files snapshot.toStaging =
      store.files.map fun file =>
        if file.id = snapshot.fileRow.stored.id then snapshot.fileRow.stored else file := by
    refine if_pos (List.any_eq_true.2 ⟨_, List.mem_of_find?_eq_some hold, ?_⟩)
    exact beq_iff_eq.2 hid.symm
  have hids : (store.files.map fun file =>
      if file.id = snapshot.fileRow.stored.id then snapshot.fileRow.stored else file).map (·.id) =
      store.files.map (·.id) := by
    rw [List.map_map]
    refine List.map_congr_left fun file _ => ?_
    dsimp only [Function.comp_apply]
    split
    · rename_i hsame
      exact hsame.symm
    · rfl
  rw [Store.commit_eq, hput]
  refine ⟨?_, ?_, fun path => ?_, h.same_concat ?_⟩
  · rw [hids, List.length_map]
    exact h.ids
  · rw [Store.map_path_replace h.nodup_ids hold hid.symm]
    exact h.paths
  · have hrow := h.rows path
    rw [Store.fileRow?] at hrow ⊢
    rw [Store.find?_replace h.nodup_ids hold hid.symm, hrow]
    by_cases hpath : path = snapshot.extraction.path
    · rw [hpath, Snapshot.latest?_concat_self]
      exact if_pos rfl
    · rw [Snapshot.latest?_concat_other log hpath]
      exact if_neg hpath
  · rw [hlatest]
    rintro _ ⟨⟩
    exact hid

end Files

/-- The files of a store are those of its snapshots. -/
theorem Chronicle.files {log : List Snapshot} {store : Store} (h : Chronicle log store) :
    Files log store := by
  induction h with
  | empty => exact ⟨rfl, .nil, fun _ => rfl, by simp⟩
  | @write log store file snapshot _ hfile hstaged ih =>
    rw [ih.file?, Except.ok.injEq] at hfile
    have hid := congrArg Staging.fileId hstaged
    rw [← hfile, Files.fileId_stage] at hid
    cases hlatest : latest? log snapshot.extraction.path with
    | none =>
      rw [hlatest] at hid
      exact ih.add hlatest hid
    | some old =>
      rw [hlatest] at hid
      exact ih.replace hlatest hid
  | prove _ _ _ _ _ ih => exact ⟨ih.ids, ih.paths, ih.rows, ih.same⟩
  | detect _ _ _ ih =>
    rw [Store.addEvents_eq]
    exact ⟨ih.ids, ih.paths, ih.rows, ih.same⟩

namespace Chronicle

variable {log before after : List Snapshot} {store : Store} {snapshot other : Snapshot}

/-- What is found under a path is the row of its last snapshot. -/
theorem file? (h : Chronicle log store) (path : String) :
    store.file? path = .ok ((latest? log path).map (·.fileRow)) :=
  h.files.file? path

/-- Snapshots have the same file exactly if they have the same path. -/
theorem fileId_eq_iff (h : Chronicle log store) (hsnapshot : snapshot ∈ log)
    (hother : other ∈ log) :
    snapshot.fileId = other.fileId ↔ snapshot.extraction.path = other.extraction.path := by
  obtain ⟨last, hlast⟩ := Snapshot.exists_latest? hsnapshot
  obtain ⟨last', hlast'⟩ := Snapshot.exists_latest? hother
  rw [h.files.same snapshot hsnapshot last hlast, h.files.same other hother last' hlast']
  constructor
  · -- The rows of the two paths have the same number, so they are the same row.
    intro hsame
    have hrow := h.files.rows snapshot.extraction.path
    have hrow' := h.files.rows other.extraction.path
    rw [hlast] at hrow
    rw [hlast'] at hrow'
    have heq : last.fileRow.stored = last'.fileRow.stored :=
      List.inj_on_of_nodup_map h.files.nodup_ids (List.mem_of_find?_eq_some hrow)
        (List.mem_of_find?_eq_some hrow') hsame
    rw [← (Snapshot.mem_of_latest? hlast).2, ← (Snapshot.mem_of_latest? hlast').2]
    exact congrArg FileRow.path heq
  · intro hpath
    rw [hpath, hlast', Option.some.injEq] at hlast
    rw [hlast]

/-- The versions of a file are those of the snapshots of its path. -/
theorem versionsOf (h : Chronicle log store) (hsnapshot : snapshot ∈ log) :
    store.versionsOf snapshot.fileId =
      (chapter log snapshot.extraction.path).map (·.version) := by
  rw [Store.versionsOf, h.tables.versions, List.filter_map, chapter]
  refine congrArg _ (List.filter_congr fun other hother => ?_)
  rw [Bool.eq_iff_iff, Function.comp_apply, beq_iff_eq, beq_iff_eq]
  exact h.fileId_eq_iff hother hsnapshot

theorem latestVersion? (h : Chronicle log store) (hsnapshot : snapshot ∈ log) :
    store.latestVersion? snapshot.fileId =
      (latest? log snapshot.extraction.path).map (·.version) := by
  rw [Store.latestVersion?, h.versionsOf hsnapshot, List.getLast?_map, latest?]

/-- The latest version of a path is that of its last snapshot. -/
theorem latestVersion?_of_latest? (h : Chronicle log store) {path : String}
    (hlatest : latest? log path = some snapshot) :
    store.latestVersion? snapshot.fileId = some snapshot.version := by
  obtain ⟨hmem, rfl⟩ := Snapshot.mem_of_latest? hlatest
  rw [h.latestVersion? hmem, hlatest]
  rfl

/-- The next version of a path is staged on the last snapshot of the path. -/
theorem stage_eq (h : Chronicle log store) (extraction : Extraction) (now : Int) :
    store.stage ((latest? log extraction.path).map (·.fileRow)) extraction now =
      { extraction, now
        fileId := (latest? log extraction.path).elim (nextId (store.files.map (·.id))) (·.fileId)
        createdAt := (latest? log extraction.path).elim now (·.createdAt)
        previous := (latest? log extraction.path).map (·.version)
        versionId := log.length + 1
        identities := (latest? log extraction.path).elim [] (·.recorded)
        drift := (latest? log extraction.path).elim (Drift.baseline extraction.facts) fun old =>
          Drift.compare old.extraction.facts extraction.facts
        componentBase := (log.flatMap (·.componentRows)).length
        historyBase := (log.flatMap (·.historyRows)).length } := by
  have hversions : store.versions.length = log.length := by simp [h.tables.versions]
  cases hlatest : latest? log extraction.path with
  | none =>
    rw [← h.tables.components, ← h.tables.history, ← hversions]
    rfl
  | some old =>
    -- All that is read of the version before is read from the block of its snapshot.
    have hold := (Snapshot.mem_of_latest? hlatest).1
    have hprevious : (some old.fileRow).bind (fun file => store.latestVersion? file.id) =
        some old.version := h.latestVersion?_of_latest? hlatest
    have hidentities : store.identityTable old.version.id = old.recorded := h.identityTable hold
    have hfacts : store.facts old.version.id = old.extraction.facts := h.facts hold
    rw [← h.tables.components, ← h.tables.history, ← hversions]
    simp only [Store.stage, Option.map_some, hprevious, Option.elim_some, hidentities, hfacts]
    rfl

/-- A snapshot was staged on the snapshot of its path before it. -/
theorem staged (h : Chronicle log store) (hlog : log = before ++ snapshot :: after) :
    snapshot.previous = (latest? before snapshot.extraction.path).map (·.version) ∧
      snapshot.createdAt =
        (latest? before snapshot.extraction.path).elim snapshot.now (·.createdAt) ∧
      snapshot.identities = (latest? before snapshot.extraction.path).elim [] (·.recorded) ∧
      snapshot.drift =
        (latest? before snapshot.extraction.path).elim
          (Drift.baseline snapshot.extraction.facts) fun old =>
            Drift.compare old.extraction.facts snapshot.extraction.facts := by
  obtain ⟨past, file, hpast, hfile, hstaged⟩ := h.past hlog
  rw [hpast.file?, Except.ok.injEq] at hfile
  rw [← hfile, hpast.stage_eq] at hstaged
  exact ⟨congrArg Staging.previous hstaged, congrArg Staging.createdAt hstaged,
    congrArg Staging.identities hstaged, congrArg Staging.drift hstaged⟩

/-- The versions of a path are numbered from one. -/
theorem versionNumber (h : Chronicle log store) (hlog : log = before ++ snapshot :: after) :
    snapshot.versionNumber = (chapter before snapshot.extraction.path).length + 1 := by
  -- Each number is one more than that of the snapshot before, which has fewer before it.
  induction hcount : before.length using Nat.strongRecOn generalizing before snapshot after with
  | ind count ih =>
    rw [Staging.versionNumber, (h.staged hlog).1]
    cases hlatest : latest? before snapshot.extraction.path with
    | none =>
      rw [List.getLast?_eq_none_iff.1 hlatest]
      rfl
    | some old =>
      obtain ⟨earlier, later, hbefore, hchapter⟩ := Snapshot.latest?_split hlatest
      have hold : log = earlier ++ old :: (later ++ snapshot :: after) := by
        rw [hlog, hbefore, List.append_assoc, List.cons_append]
      have hfewer : earlier.length < count := by
        rw [← hcount, hbefore]
        simp
      have hnumber := ih earlier.length hfewer hold rfl
      rw [(Snapshot.mem_of_latest? hlatest).2] at hnumber
      rw [hchapter, List.length_append, List.length_singleton, ← hnumber]
      rfl

end Chronicle

end SourceLedger
