import Mathlib.Data.List.Induction
import SourceLedger.Proofs.Provenance

/-!
# The lineage of a file

The versions of a file are a chain. They are numbered from one without a gap, each but the first
refers to the one before, and each counts its own rows. The row of the file is brought up to date
with the last version and keeps the time of the first. Every path that was ever ingested has one
row, whose number stays the same.

## Main definitions

* `Store.segmentRows` are the stored texts of a version.
* `Store.IsChained` says that a file has a number of versions that form a chain.

## Main statements

* `Chronicle.map_number_chapter` numbers the versions of a path.
* `Chronicle.createdAt_of_chapter` gives the time of the first version of a path.
* `Chronicle.isChained` finds the chain of a path.
* `Store.version_chain` says what holds of all files of a store, and what operations keep.
-/

namespace SourceLedger

open Snapshot (chapter latest?)

namespace Store

variable (store : Store)

/-- The stored texts of the components of a version. -/
def segmentRows (versionId : Nat) : List (Owned Segment) :=
  store.segments.filter fun row => (store.componentRows versionId).any (·.id == row.owner)

/-- A file has a chain of so many versions, and its row agrees with the first and the last. -/
structure IsChained (file : FileRecord) (count : Nat) : Prop where
  nonempty : 1 ≤ count
  numbers : (store.versionsOf file.id).map (·.number) = List.range' 1 count
  /-- The first version has none before it. -/
  first : ∀ version ∈ store.versionsOf file.id, version.number = 1 → version.previousId = none
  /-- A later version refers to the one with the number before. -/
  previous : ∀ version ∈ store.versionsOf file.id, 1 < version.number →
    ∃ previous ∈ store.versionsOf file.id,
      previous.number + 1 = version.number ∧ version.previousId = some previous.id
  /-- Every version counts its components, which all have a text and a history row. -/
  counts : ∀ version ∈ store.versionsOf file.id,
    (store.componentRows version.id).length = version.componentCount ∧
      (store.segmentRows version.id).length = version.componentCount ∧
      (store.history.filter (·.versionId == version.id)).length = version.componentCount
  latest : ∃ version ∈ store.versionsOf file.id, version.number = count ∧
    file.rawHash = version.rawHash ∧ file.treeHash = version.treeHash ∧
    file.sizeBytes = version.sizeBytes ∧ file.updatedAt = version.createdAt
  created : ∃ version ∈ store.versionsOf file.id, version.number = 1 ∧
    file.createdAt = version.createdAt

end Store

theorem Snapshot.chapter_concat (log : List Snapshot) (snapshot : Snapshot) (path : String) :
    chapter (log ++ [snapshot]) path =
      chapter log path ++ if snapshot.extraction.path = path then [snapshot] else [] := by
  by_cases hpath : snapshot.extraction.path = path <;> simp [chapter, hpath]

namespace Chronicle

variable {log : List Snapshot} {store later : Store} {snapshot old : Snapshot} {path : String}

/-- The versions of a path are numbered from one, in order. -/
theorem map_number_chapter (h : Chronicle log store) (path : String) :
    (chapter log path).map (·.versionNumber) = List.range' 1 (chapter log path).length := by
  have hnumber : ∀ before snapshot after, log = before ++ snapshot :: after →
      snapshot.versionNumber = (chapter before snapshot.extraction.path).length + 1 :=
    fun _ _ _ hlog => h.versionNumber hlog
  clear h
  -- From the end of the log: what comes before the last snapshot decides its number.
  induction log using List.reverseRecOn with
  | nil => rfl
  | append_singleton front last ih =>
    have hlast := hnumber front last [] rfl
    have hfront := ih fun before snapshot after hsplit =>
      hnumber before snapshot (after ++ [last]) (by simp [hsplit])
    rw [Snapshot.chapter_concat, List.map_append, hfront]
    split
    · rename_i hpath
      subst hpath
      rw [List.map_singleton, hlast, List.length_append, List.length_singleton,
        List.range'_1_concat, Nat.add_comm 1]
    · simp

/-- The first version of a path gives all versions of the path its time as the time of the file. -/
theorem createdAt_of_chapter (h : Chronicle log store) (hsnapshot : snapshot ∈ log) :
    ∃ first ∈ log, first.extraction.path = snapshot.extraction.path ∧ first.versionNumber = 1 ∧
      snapshot.createdAt = first.now := by
  -- By induction on the number; a version takes the time over from the one before.
  induction hnumber : snapshot.versionNumber generalizing snapshot with
  | zero =>
    have := h.one_le_versionNumber hsnapshot
    omega
  | succ number ih =>
    obtain ⟨before, after, hlog⟩ := List.append_of_mem hsnapshot
    obtain ⟨hprevious, hcreated, _⟩ := h.staged hlog
    cases hlatest : latest? before snapshot.extraction.path with
    | none =>
      rw [hlatest] at hprevious hcreated
      refine ⟨snapshot, hsnapshot, rfl, ?_, hcreated⟩
      rw [Staging.versionNumber, hprevious]
      rfl
    | some old =>
      rw [hlatest] at hprevious hcreated
      obtain ⟨hold, hpath⟩ := Snapshot.mem_of_latest? hlatest
      have hfollows : snapshot.versionNumber = old.versionNumber + 1 := by
        rw [Staging.versionNumber, hprevious]
        rfl
      obtain ⟨first, hfirst, hsame, hone, htime⟩ :=
        ih (by simp [hlog, hold] : old ∈ log) (by omega)
      exact ⟨first, hfirst, hsame.trans hpath, hone, hcreated.trans htime⟩

theorem segmentRows (h : Chronicle log store) (hsnapshot : snapshot ∈ log) :
    store.segmentRows snapshot.versionId = snapshot.segmentRows := by
  rw [Store.segmentRows, h.componentRows hsnapshot, h.tables.segments,
    filter_flatMap_of_apart h.apart hsnapshot]
  · refine List.filter_eq_self.2 fun row hrow => ?_
    obtain ⟨⟨component, position⟩, hplaced, rfl⟩ := List.mem_map.1 hrow
    refine List.any_eq_true.2 ⟨(snapshot.componentRow component position).stored, ?_, ?_⟩
    · exact List.mem_map.2 ⟨(component, position), hplaced, rfl⟩
    · exact beq_iff_eq.2 rfl
  · intro other _ hapart row hrow
    obtain ⟨⟨component, position⟩, hplaced, rfl⟩ := List.mem_map.1 hrow
    refine List.any_eq_false.2 fun mine hmine hsame => ?_
    obtain ⟨⟨own, place⟩, hown, rfl⟩ := List.mem_map.1 hmine
    have hrows : snapshot.rowId place = other.rowId position := beq_iff_eq.1 hsame
    -- The rows of another snapshot come all before or all behind.
    have hplace : place < snapshot.extraction.components.length := by
      simpa using List.snd_lt_of_mem_zipIdx hown
    have hposition : position < other.extraction.components.length := by
      simpa using List.snd_lt_of_mem_zipIdx hplaced
    rcases hapart with hapart | hapart
    · have := hapart.rowId_lt hposition place
      omega
    · have := hapart.rowId_lt hplace position
      omega

theorem counts (h : Chronicle log store) (hsnapshot : snapshot ∈ log) :
    (store.componentRows snapshot.version.id).length = snapshot.version.componentCount ∧
      (store.segmentRows snapshot.version.id).length = snapshot.version.componentCount ∧
      (store.history.filter (·.versionId == snapshot.version.id)).length =
        snapshot.version.componentCount := by
  refine ⟨?_, ?_, ?_⟩
  · exact (congrArg List.length (h.componentRows hsnapshot)).trans (by simp [Staging.version])
  · exact (congrArg List.length (h.segmentRows hsnapshot)).trans
      (by simp [Staging.segmentRows, Staging.version])
  · exact (congrArg List.length (h.historyRows hsnapshot)).trans
      (by simp [Staging.historyRows, Staging.version])

/-- The row of the last snapshot of a path has the chain of the path. -/
theorem isChained (h : Chronicle log store) (hlatest : latest? log path = some snapshot) :
    store.IsChained snapshot.fileRow (chapter log path).length := by
  obtain ⟨hsnapshot, rfl⟩ := Snapshot.mem_of_latest? hlatest
  have hversions : store.versionsOf snapshot.fileRow.id =
      (chapter log snapshot.extraction.path).map (·.version) := h.versionsOf hsnapshot
  have hmem {other : Snapshot} (hother : other ∈ log)
      (hpath : other.extraction.path = snapshot.extraction.path) :
      other.version ∈ store.versionsOf snapshot.fileRow.id := by
    rw [hversions]
    exact List.mem_map_of_mem (List.mem_filter.2 ⟨hother, beq_iff_eq.2 hpath⟩)
  have hsnapshots : ∀ version ∈ store.versionsOf snapshot.fileRow.id, ∃ other ∈ log,
      other.extraction.path = snapshot.extraction.path ∧ other.version = version := by
    intro version hversion
    rw [hversions] at hversion
    obtain ⟨other, hother, rfl⟩ := List.mem_map.1 hversion
    obtain ⟨hother, hpath⟩ := List.mem_filter.1 hother
    exact ⟨other, hother, beq_iff_eq.1 hpath, rfl⟩
  constructor
  case nonempty => exact List.length_pos_of_mem (List.mem_of_getLast? hlatest)
  case numbers =>
    rw [hversions, List.map_map]
    exact h.map_number_chapter _
  case first =>
    intro version hversion hnumber
    obtain ⟨other, hother, _, rfl⟩ := hsnapshots version hversion
    simp [Staging.version, (h.isFirst_of_versionNumber hother hnumber).previous]
  case previous =>
    intro version hversion hnumber
    obtain ⟨other, hother, hpath, rfl⟩ := hsnapshots version hversion
    obtain ⟨old, hold, hfollows, _⟩ := h.follows_of_versionNumber hother hnumber
    refine ⟨old.version, hmem hold (hfollows.path.symm.trans hpath), ?_, ?_⟩
    · exact hfollows.versionNumber.symm
    · simp [Staging.version, hfollows.previous]
  case counts =>
    intro version hversion
    obtain ⟨other, hother, _, rfl⟩ := hsnapshots version hversion
    exact h.counts hother
  case latest =>
    obtain ⟨before, after, hlog, hchapter⟩ := Snapshot.latest?_split hlatest
    refine ⟨snapshot.version, hmem hsnapshot rfl, ?_, rfl, rfl, rfl, rfl⟩
    rw [hchapter, List.length_append, List.length_singleton]
    exact h.versionNumber hlog
  case created =>
    obtain ⟨first, hfirst, hpath, hone, htime⟩ := h.createdAt_of_chapter hsnapshot
    exact ⟨first.version, hmem hfirst hpath, hone, htime⟩

theorem mem_paths_iff (h : Chronicle log store) :
    path ∈ store.files.map (·.path) ↔ ∃ snapshot ∈ log, snapshot.extraction.path = path := by
  have hrow := h.files.rows path
  constructor
  · intro hpath
    obtain ⟨row, hmem, hsame⟩ := List.mem_map.1 hpath
    have hfound : (store.fileRow? path).isSome :=
      List.find?_isSome.2 ⟨row, hmem, beq_iff_eq.2 hsame⟩
    rw [hrow, Option.isSome_map] at hfound
    obtain ⟨last, hlast⟩ := Option.isSome_iff_exists.1 hfound
    exact ⟨last, Snapshot.mem_of_latest? hlast⟩
  · rintro ⟨snapshot, hsnapshot, rfl⟩
    obtain ⟨last, hlast⟩ := Snapshot.exists_latest? hsnapshot
    rw [hlast] at hrow
    refine List.mem_map.2 ⟨_, List.mem_of_find?_eq_some hrow, ?_⟩
    exact (Snapshot.mem_of_latest? hlast).2

/-- Every row of a file is that of the last snapshot of its path. -/
theorem exists_latest?_of_file (h : Chronicle log store) {row : StoredFile}
    (hrow : row ∈ store.files) :
    ∃ last, latest? log row.path = some last ∧ row = last.fileRow.stored := by
  obtain ⟨snapshot, hsnapshot, hpath⟩ := h.mem_paths_iff.1 (List.mem_map_of_mem hrow)
  obtain ⟨last, hlast⟩ := Snapshot.exists_latest? hsnapshot
  rw [hpath] at hlast
  have hfound := h.files.rows row.path
  rw [hlast] at hfound
  refine ⟨last, hlast, ?_⟩
  refine List.inj_on_of_nodup_map h.files.paths hrow (List.mem_of_find?_eq_some hfound) ?_
  exact (Snapshot.mem_of_latest? hlast).2.symm

/-- A path keeps its row number whatever is written later. -/
theorem fileId_reaches (h : Chronicle log store) (hlater : store.Reaches later)
    {row : StoredFile} (hrow : row ∈ store.files) :
    ∃ after, later.fileRow? row.path = some after ∧ after.id = row.id := by
  obtain ⟨new, hnew⟩ := h.reaches hlater
  obtain ⟨last, hlast, rfl⟩ := h.exists_latest?_of_file hrow
  obtain ⟨hmem, hpath⟩ := Snapshot.mem_of_latest? hlast
  have hafter : last ∈ log ++ new := List.mem_append_left _ hmem
  obtain ⟨final, hfinal⟩ := Snapshot.exists_latest? hafter
  have hfound := hnew.files.rows last.extraction.path
  rw [hfinal] at hfound
  refine ⟨final.fileRow.stored, ?_, ?_⟩
  · exact hfound
  · exact (hnew.files.same last hafter final hfinal).symm

end Chronicle

namespace Store

/-- In every store that operations lead to, every file has a chain of versions that its row agrees
with. No path has two rows. Running a journal leaves rows for the paths that had one and for those
that it ingests with success, and for no others; and a path keeps the number of its row for ever. -/
theorem version_chain {store : Store} (h : store.Reachable) :
    (∀ row ∈ store.files, ∃ (file : FileRecord) (count : Nat),
      row = file.stored ∧ store.IsChained file count) ∧
    (store.files.map (·.path)).Nodup ∧
    (∀ parse journal path, path ∈ (store.replay parse journal).files.map (·.path) ↔
      path ∈ store.files.map (·.path) ∨
        ∃ ingestion ∈ store.ingestions parse journal, ingestion.path = path) ∧
    ∀ later, store.Reaches later → ∀ row ∈ store.files,
      ∃ after, later.fileRow? row.path = some after ∧ after.id = row.id := by
  obtain ⟨log, hlog⟩ := h.chronicle
  refine ⟨?_, hlog.files.paths, ?_, fun later hlater row hrow => hlog.fileId_reaches hlater hrow⟩
  · intro row hrow
    obtain ⟨last, hlast, rfl⟩ := hlog.exists_latest?_of_file hrow
    exact ⟨last.fileRow, _, rfl, hlog.isChained hlast⟩
  · intro parse journal path
    obtain ⟨new, hnew, hingestions, _⟩ := hlog.replay parse journal
    rw [hnew.mem_paths_iff, hlog.mem_paths_iff, hingestions]
    simp only [List.mem_append, List.mem_map, or_and_right, exists_or]
    refine or_congr Iff.rfl ⟨?_, ?_⟩
    · rintro ⟨snapshot, hsnapshot, hpath⟩
      exact ⟨_, ⟨snapshot, hsnapshot, rfl⟩, hpath⟩
    · rintro ⟨_, ⟨snapshot, hsnapshot, rfl⟩, hpath⟩
      exact ⟨snapshot, hsnapshot, hpath⟩

theorem version_chain_reinstated :
    ∃ file, reinstated.Reachable ∧ reinstated.file? "a.py" = .ok (some file) ∧
      reinstated.IsChained file 3 := by
  have hcount : (reinstated.fileRow? "a.py").map (fun row =>
      (reinstated.versionsOf row.id).length) = some 3 := by
    decide +kernel
  obtain ⟨row, hrow, hlength⟩ := Option.map_eq_some_iff.1 hcount
  obtain ⟨file, count, rfl, hchained⟩ :=
    (version_chain reachable_reinstated).1 row (List.mem_of_find?_eq_some hrow)
  have hthree : count = 3 := by
    have hnumbers := congrArg List.length hchained.numbers
    rw [List.length_map, List.length_range'] at hnumbers
    exact hnumbers.symm.trans hlength
  refine ⟨file, reachable_reinstated, ?_, hthree ▸ hchained⟩
  simp [file?, hrow, FileRow.read_stored, Functor.map, Except.map]

end Store

end SourceLedger
