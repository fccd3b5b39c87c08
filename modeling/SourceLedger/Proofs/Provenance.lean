import Mathlib.Logic.Relation
import SourceLedger.Proofs.Fidelity

/-!
# Where versions come from

Every version of a store was written when some text was ingested, into the store as it was then.
From there operations led on to the store as it is now. The versions of a path are found under their
numbers, and each but the first was staged on the one with the number before.

## Main definitions

* `Store.Reaches` holds of two stores if operations lead from one to the other.
* `Store.HasWritten` says that a snapshot was written in the past of a store.
* `Snapshot.Follows` and `Snapshot.IsFirst` say what a snapshot was staged on.

## Main statements

* `Store.Reachable.exists_written` finds the snapshot of every version of a store.
* `Store.HasWritten.chronicle` puts a snapshot into the chronicle of a store.
* `Chronicle.requireVersion_number` finds the version of a snapshot under its number.
* `Chronicle.first_or_follows` says what every snapshot was staged on.
* `Store.HasWritten.exists_latest` finds the snapshot of the latest version of a path.
-/

namespace SourceLedger

open Snapshot (chapter latest?)

namespace Store

/-- An operation makes one store of another. The parser may give a text another tree at every
operation. -/
def Step (store after : Store) : Prop :=
  ∃ (parse : Parser) (operation : Operation) (now : Int),
    after = (store.perform parse operation now).2

/-- Operations lead from one store to another. -/
def Reaches : Store → Store → Prop :=
  Relation.ReflTransGen Step

/-- A store has written a snapshot: the text of the snapshot was ingested into a store that was
there before, where the snapshot was staged, and operations led on from there. -/
def HasWritten (store : Store) (snapshot : Snapshot) : Prop :=
  ∃ (before after : Store) (parse : Parser) (file : Option FileRecord),
    before.Reachable ∧ parse snapshot.text = snapshot.tree ∧
      before.file? snapshot.extraction.path = .ok file ∧
      snapshot.toStaging = before.stage file snapshot.extraction snapshot.now ∧
      before.ingest parse snapshot.options snapshot.extraction.path snapshot.text snapshot.now =
        .ok (snapshot.report, after) ∧
      after.Reaches store

variable {store after : Store} {snapshot : Snapshot}

theorem HasWritten.step (h : store.HasWritten snapshot) (hstep : store.Step after) :
    after.HasWritten snapshot := by
  obtain ⟨before, written, parse, file, hbefore, htree, hfile, hstaged, hingest, hreaches⟩ := h
  exact ⟨before, written, parse, file, hbefore, htree, hfile, hstaged, hingest,
    hreaches.tail hstep⟩

/-- What an ingestion that succeeds has written. -/
theorem exists_written_of_ingest (h : store.Reachable) {parse : Parser} {options : ExtractOptions}
    {path text : String} {now : Int} {report : IngestReport}
    (hingest : store.ingest parse options path text now = .ok (report, after)) :
    ∃ snapshot, after.HasWritten snapshot ∧ snapshot.report = report ∧ snapshot.text = text ∧
      extract path text (parse text) options = .ok snapshot.extraction ∧
      after.versions = store.versions ++ [snapshot.version] := by
  obtain ⟨extraction, file, hextract, hfile, _, rfl, rfl⟩ := ingest_ok hingest
  obtain rfl := path_of_extract hextract
  let snapshot : Snapshot := ⟨store.stage file extraction now, text, parse text, options, hextract⟩
  refine ⟨snapshot, ⟨store, _, parse, file, h, rfl, hfile, rfl, hingest, .refl⟩, rfl, rfl,
    hextract, ?_⟩
  rw [commit_eq]

/-- A version is there before an operation, or the operation wrote it. -/
theorem version_origin (h : store.Reachable) (parse : Parser) (operation : Operation) (now : Int)
    {version : VersionRow} (hversion : version ∈ (store.perform parse operation now).2.versions) :
    version ∈ store.versions ∨
      ∃ snapshot, (store.perform parse operation now).2.HasWritten snapshot ∧
        snapshot.version = version := by
  cases operation with
  | ingest options path text =>
    cases hresult : store.ingest parse options path text now with
    | error failure =>
      simp only [perform, hresult, settle] at hversion
      exact .inl hversion
    | ok result =>
      obtain ⟨report, after⟩ := result
      obtain ⟨snapshot, hwritten, _, _, _, hversions⟩ := exists_written_of_ingest h hresult
      simp only [perform, hresult, settle] at hversion ⊢
      rw [hversions] at hversion
      rcases List.mem_append.1 hversion with hold | hnew
      · exact .inl hold
      · exact .inr ⟨snapshot, hwritten, (List.mem_singleton.1 hnew).symm⟩
  | verify path =>
    left
    cases hresult : store.verify parse path now with
    | error failure => simpa only [perform, hresult, settle] using hversion
    | ok result =>
      obtain ⟨outcome, after⟩ := result
      obtain ⟨_, _, _, _, _, _, _, rfl⟩ := verify_ok hresult
      simpa only [perform, hresult, settle, addProof] using hversion
  | detect path number =>
    left
    cases hresult : store.detect path number now with
    | error failure => simpa only [perform, hresult, settle] using hversion
    | ok result =>
      obtain ⟨report, after⟩ := result
      obtain ⟨_, _, _, _, _, rfl⟩ := detect_ok hresult
      simp only [perform, hresult, settle] at hversion
      rw [addEvents_eq] at hversion
      exact hversion

/-- Every version of a store was written at some time. -/
theorem Reachable.exists_written (h : store.Reachable) {version : VersionRow}
    (hversion : version ∈ store.versions) :
    ∃ snapshot, store.HasWritten snapshot ∧ snapshot.version = version := by
  induction h with
  | empty => simp at hversion
  | perform h parse operation now ih =>
    rcases version_origin h parse operation now hversion with hold | hnew
    · obtain ⟨snapshot, hwritten, hsame⟩ := ih hold
      exact ⟨snapshot, hwritten.step ⟨parse, operation, now, rfl⟩, hsame⟩
    · exact hnew

end Store

namespace Chronicle

variable {log : List Snapshot} {store later : Store}

/-- Operations only add to the chronicle. -/
theorem reaches (h : Chronicle log store) (hlater : store.Reaches later) :
    ∃ new, Chronicle (log ++ new) later := by
  induction hlater with
  | refl => exact ⟨[], by simpa using h⟩
  | tail _ hstep ih =>
    obtain ⟨parse, operation, now, rfl⟩ := hstep
    obtain ⟨new, hnew⟩ := ih
    obtain ⟨added, hadded, _⟩ := hnew.perform parse operation now
    exact ⟨new ++ added, by rwa [← List.append_assoc]⟩

end Chronicle

/-- A snapshot that a store has written is in a chronicle of the store. -/
theorem Store.HasWritten.chronicle {store : Store} {snapshot : Snapshot}
    (h : store.HasWritten snapshot) : ∃ log, Chronicle log store ∧ snapshot ∈ log := by
  obtain ⟨before, after, parse, file, hbefore, htree, hfile, hstaged, hingest, hreaches⟩ := h
  obtain ⟨log, hlog⟩ := hbefore.chronicle
  have hextract : extract snapshot.extraction.path snapshot.text (parse snapshot.text)
      snapshot.options = .ok snapshot.extraction := by
    rw [htree]
    exact snapshot.extracted
  have hafter : after = before.commit snapshot.toStaging := by
    rw [hlog.ingest_ok parse hextract] at hingest
    rw [hlog.file?, Except.ok.injEq] at hfile
    rw [hstaged, ← hfile]
    exact (Prod.mk.inj (Except.ok.inj hingest)).2.symm
  obtain ⟨new, hnew⟩ := (hlog.write snapshot hfile hstaged).reaches (hafter ▸ hreaches)
  exact ⟨log ++ [snapshot] ++ new, hnew, by simp⟩

namespace Snapshot

/-- A snapshot was staged on another one, the last of its path before it. -/
structure Follows (new old : Snapshot) : Prop where
  path : new.extraction.path = old.extraction.path
  previous : new.previous = some old.version
  identities : new.identities = old.recorded
  drift : new.drift = Drift.compare old.extraction.facts new.extraction.facts

/-- A snapshot is the first of its path. -/
structure IsFirst (snapshot : Snapshot) : Prop where
  previous : snapshot.previous = none
  identities : snapshot.identities = []
  drift : snapshot.drift = Drift.baseline snapshot.extraction.facts

variable {new old snapshot : Snapshot}

/-- The number of a version is one more than that of the version before. -/
theorem Follows.versionNumber (h : new.Follows old) :
    new.versionNumber = old.versionNumber + 1 := by
  rw [Staging.versionNumber, h.previous]
  rfl

theorem IsFirst.versionNumber (h : snapshot.IsFirst) : snapshot.versionNumber = 1 := by
  rw [Staging.versionNumber, h.previous]
  rfl

end Snapshot

namespace Chronicle

variable {log : List Snapshot} {store : Store} {snapshot other : Snapshot} {path : String}

/-- Every snapshot is the first of its path or was staged on the one before. -/
theorem first_or_follows (h : Chronicle log store) (hsnapshot : snapshot ∈ log) :
    snapshot.IsFirst ∨ ∃ old ∈ log, snapshot.Follows old := by
  obtain ⟨before, after, hlog⟩ := List.append_of_mem hsnapshot
  obtain ⟨hprevious, _, hidentities, hdrift⟩ := h.staged hlog
  cases hlatest : latest? before snapshot.extraction.path with
  | none =>
    rw [hlatest] at hprevious hidentities hdrift
    exact .inl ⟨hprevious, hidentities, hdrift⟩
  | some old =>
    rw [hlatest] at hprevious hidentities hdrift
    obtain ⟨hold, hpath⟩ := Snapshot.mem_of_latest? hlatest
    exact .inr ⟨old, by simp [hlog, hold], hpath.symm, hprevious, hidentities, hdrift⟩

theorem one_le_versionNumber (h : Chronicle log store) (hsnapshot : snapshot ∈ log) :
    1 ≤ snapshot.versionNumber := by
  rcases h.first_or_follows hsnapshot with hfirst | ⟨old, _, hfollows⟩
  · exact Nat.le_of_eq hfirst.versionNumber.symm
  · rw [hfollows.versionNumber]
    omega

/-- A path has one snapshot with a number. -/
theorem eq_of_versionNumber (h : Chronicle log store) (hsnapshot : snapshot ∈ log)
    (hother : other ∈ log) (hpath : snapshot.extraction.path = other.extraction.path)
    (hnumber : snapshot.versionNumber = other.versionNumber) : snapshot = other := by
  have hnodup := h.versionNumbers
  rw [h.tables.versions, List.map_map] at hnodup
  refine List.inj_on_of_nodup_map hnodup hsnapshot hother ?_
  exact Prod.ext ((h.fileId_eq_iff hsnapshot hother).2 hpath) hnumber

/-- The file of a path that was written. -/
theorem requireFile_of_mem (h : Chronicle log store) (hsnapshot : snapshot ∈ log) :
    ∃ file, store.requireFile snapshot.extraction.path = .ok file ∧
      file.id = snapshot.fileId := by
  obtain ⟨last, hlast⟩ := Snapshot.exists_latest? hsnapshot
  refine ⟨last.fileRow, h.requireFile hlast, ?_⟩
  exact (h.files.same snapshot hsnapshot last hlast).symm

/-- A version is found under its number. -/
theorem version?_number (h : Chronicle log store) (hsnapshot : snapshot ∈ log) :
    store.version? snapshot.fileId (some snapshot.versionNumber) = some snapshot.version := by
  have hmem : snapshot.version ∈ store.versionsOf snapshot.fileId := by
    rw [h.versionsOf hsnapshot]
    exact List.mem_map_of_mem (by simp [chapter, hsnapshot])
  change (store.versionsOf snapshot.fileId).find? (·.number == snapshot.versionNumber) = _
  cases hfound : (store.versionsOf snapshot.fileId).find? (·.number == snapshot.versionNumber) with
  | none =>
    have hnot := List.find?_eq_none.1 hfound _ hmem
    exact absurd (beq_iff_eq.2 rfl) hnot
  | some version =>
    -- The version that is found belongs to a snapshot of the path with the same number.
    have hnumber : version.number = snapshot.versionNumber := by simpa using List.find?_some hfound
    have hversion := List.mem_of_find?_eq_some hfound
    rw [h.versionsOf hsnapshot] at hversion
    obtain ⟨other, hother, rfl⟩ := List.mem_map.1 hversion
    obtain ⟨hother, hpath⟩ := List.mem_filter.1 hother
    rw [h.eq_of_versionNumber hother hsnapshot (by simpa using hpath) hnumber]

theorem requireVersion_number (h : Chronicle log store) (hsnapshot : snapshot ∈ log) :
    store.requireVersion snapshot.extraction.path (some snapshot.versionNumber) =
      .ok snapshot.version := by
  obtain ⟨file, hfile, hid⟩ := h.requireFile_of_mem hsnapshot
  have hversion := h.version?_number hsnapshot
  rw [← hid] at hversion
  simp only [Store.requireVersion, hfile, bind, Except.bind, hversion]

/-- The version with number one is the first. -/
theorem isFirst_of_versionNumber (h : Chronicle log store) (hsnapshot : snapshot ∈ log)
    (hnumber : snapshot.versionNumber = 1) : snapshot.IsFirst := by
  rcases h.first_or_follows hsnapshot with hfirst | ⟨old, hold, hfollows⟩
  · exact hfirst
  · have := h.one_le_versionNumber hold
    have := hfollows.versionNumber
    omega

/-- A later version follows the one with the number before. -/
theorem follows_of_versionNumber (h : Chronicle log store) (hsnapshot : snapshot ∈ log)
    (hnumber : 2 ≤ snapshot.versionNumber) :
    ∃ old ∈ log, snapshot.Follows old ∧
      store.requireVersion snapshot.extraction.path (some (snapshot.versionNumber - 1)) =
        .ok old.version := by
  rcases h.first_or_follows hsnapshot with hfirst | ⟨old, hold, hfollows⟩
  · have := hfirst.versionNumber
    omega
  · refine ⟨old, hold, hfollows, ?_⟩
    rw [hfollows.versionNumber, Nat.add_sub_cancel, hfollows.path]
    exact h.requireVersion_number hold

/-- A version that is found under a path is that of a snapshot of the path. -/
theorem of_requireVersion (h : Chronicle log store) {number : Option Nat} {version : VersionRow}
    (hversion : store.requireVersion path number = .ok version) :
    ∃ snapshot ∈ log, snapshot.extraction.path = path ∧ snapshot.version = version ∧
      ∀ n, number = some n → snapshot.versionNumber = n := by
  cases hlatest : latest? log path with
  | none =>
    have hnone : store.requireFile path = .error (.unknownFile path) := by
      rw [Store.requireFile, h.file?, hlatest]
      rfl
    simp [Store.requireVersion, hnone, bind, Except.bind] at hversion
  | some last =>
    obtain ⟨hlast, hpath⟩ := Snapshot.mem_of_latest? hlatest
    have hfound : store.version? last.fileId number = some version := by
      simp only [Store.requireVersion, h.requireFile hlatest, bind, Except.bind] at hversion
      split at hversion
      · rename_i found hfound
        rw [← Except.ok.inj hversion]
        exact hfound
      · simp at hversion
      · simp at hversion
    have hmem : version ∈ store.versionsOf last.fileId := by
      obtain ⟨hmem, hid⟩ := Store.mem_of_version? hfound
      simp [Store.versionsOf, hmem, hid]
    rw [h.versionsOf hlast] at hmem
    obtain ⟨snapshot, hsnapshot, rfl⟩ := List.mem_map.1 hmem
    obtain ⟨hsnapshot, hsame⟩ := List.mem_filter.1 hsnapshot
    refine ⟨snapshot, hsnapshot, (beq_iff_eq.1 hsame).trans hpath, rfl, ?_⟩
    rintro n rfl
    exact beq_iff_eq.1 (List.find?_some (p := fun row : VersionRow => row.number == n) hfound)

/-- The latest version of a path has the greatest number. -/
theorem versionNumber_le_latest (h : Chronicle log store) (hsnapshot : snapshot ∈ log)
    {version : VersionRow}
    (hversion : store.requireVersion snapshot.extraction.path none = .ok version) :
    snapshot.versionNumber ≤ version.number := by
  obtain ⟨last, hlast⟩ := Snapshot.exists_latest? hsnapshot
  obtain rfl := Except.ok.inj (hversion.symm.trans (h.requireVersion hlast))
  obtain ⟨before, after, hlog, hchapter⟩ := Snapshot.latest?_split hlast
  have hnumber : last.versionNumber =
      (chapter before snapshot.extraction.path).length + 1 := by
    rw [h.versionNumber hlog, (Snapshot.mem_of_latest? hlast).2]
  have hmem : snapshot ∈ chapter log snapshot.extraction.path := by simp [chapter, hsnapshot]
  rw [hchapter, List.mem_append, List.mem_singleton] at hmem
  rcases hmem with hearlier | rfl
  · -- Fewer snapshots of the path come before an earlier one.
    obtain ⟨first, rest, rfl⟩ := List.append_of_mem (List.mem_filter.1 hearlier).1
    have hfirst := h.versionNumber (hlog.trans (List.append_assoc _ _ _))
    have hmore : (chapter (first ++ snapshot :: rest) snapshot.extraction.path).length =
        (chapter first snapshot.extraction.path).length +
          ((chapter rest snapshot.extraction.path).length + 1) := by
      simp [chapter]
    change _ ≤ last.versionNumber
    omega
  · exact Nat.le_refl _

end Chronicle

namespace Store

variable {store : Store} {snapshot : Snapshot} {path : String}

/-- A version that is found under a path was written for the path. -/
theorem Reachable.exists_written_of_requireVersion (h : store.Reachable) {number : Option Nat}
    {version : VersionRow} (hversion : store.requireVersion path number = .ok version) :
    ∃ snapshot, store.HasWritten snapshot ∧ snapshot.extraction.path = path ∧
      snapshot.version = version := by
  obtain ⟨log, hlog⟩ := h.chronicle
  obtain ⟨found, hfound, _, hsame, _⟩ := hlog.of_requireVersion hversion
  have hmem : version ∈ store.versions := by
    rw [hlog.tables.versions, ← hsame]
    exact List.mem_map_of_mem hfound
  obtain ⟨snapshot, hwritten, rfl⟩ := h.exists_written hmem
  obtain ⟨log, hlog, hsnapshot⟩ := hwritten.chronicle
  obtain ⟨other, hother, rfl, hversion, _⟩ := hlog.of_requireVersion hversion
  refine ⟨snapshot, hwritten, ?_, rfl⟩
  exact (hlog.fileId_eq_iff hsnapshot hother).1 (congrArg VersionRow.fileId hversion).symm

/-- A path that was written has a latest version. -/
theorem HasWritten.exists_latest (hwritten : store.HasWritten snapshot) (h : store.Reachable) :
    ∃ latest, store.HasWritten latest ∧
      latest.extraction.path = snapshot.extraction.path ∧
      store.requireVersion snapshot.extraction.path none = .ok latest.version ∧
      ∀ other, store.HasWritten other → other.extraction.path = snapshot.extraction.path →
        other.versionNumber ≤ latest.versionNumber := by
  obtain ⟨log, hlog, hsnapshot⟩ := hwritten.chronicle
  obtain ⟨last, hlast⟩ := Snapshot.exists_latest? hsnapshot
  have hversion := hlog.requireVersion hlast
  obtain ⟨latest, hlatest, hpath, hsame⟩ := h.exists_written_of_requireVersion hversion
  rw [← hsame] at hversion
  refine ⟨latest, hlatest, hpath, hversion, fun other hother hsame => ?_⟩
  obtain ⟨log, hlog, hmem⟩ := hother.chronicle
  rw [← hsame] at hversion
  exact hlog.versionNumber_le_latest hmem hversion

/-- The tree of the empty text. -/
def emptyTree : Syntax.Tree where
  root := .mk { kind := "module", start := 0, stop := 0 } []
  lines := .ofText ""

/-- A parser for the empty text and `Extraction.accentedText`. -/
def sampleParser : Parser := fun text =>
  if text = "" then emptyTree else Extraction.accentedTree

/-- A store in which the components of a text were ingested and removed. -/
def removed : Store :=
  replay sampleParser {}
    [(.ingest {} "a.py" Extraction.accentedText, 1), (.ingest {} "a.py" "", 2)]

/-- A store in which components that had been removed were ingested again. -/
def reinstated : Store :=
  (removed.perform sampleParser (.ingest {} "a.py" Extraction.accentedText) 3).2

theorem reachable_removed : removed.Reachable :=
  (Reachable.empty.perform _ _ _).perform _ _ _

theorem reachable_reinstated : reinstated.Reachable :=
  reachable_removed.perform _ _ _

theorem eq_ok_of_toOption {ε α : Type} {result : Except ε α} {value : α}
    (h : result.toOption = some value) : result = .ok value := by
  cases result with
  | error failure => simp [Except.toOption] at h
  | ok found => exact congrArg Except.ok (Option.some.inj h)

/-- The third version of `reinstated` has two components. -/
theorem written_reinstated :
    ∃ snapshot, reinstated.HasWritten snapshot ∧ snapshot.extraction.path = "a.py" ∧
      snapshot.versionNumber = 3 ∧ snapshot.extraction.components.length = 2 := by
  have hcounts : (removed.ingest sampleParser {} "a.py" Extraction.accentedText 3).toOption.map
      (fun result => (result.1.versionNumber, result.1.componentCount)) = some (3, 2) := by
    decide +kernel
  obtain ⟨⟨report, after⟩, hresult, hcounts⟩ := Option.map_eq_some_iff.1 hcounts
  obtain ⟨hnumber, hlength⟩ := Prod.mk.inj hcounts
  have hingest := eq_ok_of_toOption hresult
  have hafter : reinstated = after := by
    rw [reinstated, perform, hingest]
    rfl
  obtain ⟨snapshot, hwritten, rfl, _, hextract, _⟩ :=
    exists_written_of_ingest reachable_removed hingest
  exact ⟨snapshot, hafter ▸ hwritten, path_of_extract hextract, hnumber, hlength⟩

end Store

end SourceLedger
