import SourceLedger.Proofs.Account
import SourceLedger.Proofs.Lineage

/-!
# Paths are isolated from each other

What can be observed of a path depends on the operations on the path alone. An operation on another
path leaves the story of the path and its proofs as they are. An operation on the path itself reads
no more than these: two stores in which the path has the same story and the same proofs give the
same answer, up to the numbers of rows, and are again two such stores. So runs that agree in the
operations on a path give the same answers and the same account of it.

## Main definitions

* `Outcome.Agrees` compares what operations answer, up to the numbers of rows.
* `Store.outcomesAt` lists what the operations on a path answer in a run.
* `Operation.SameAt` compares journals by their operations on a path.
* `Store.MatchesAt` compares stores by what operations on a path read.

## Main statements

* `Chronicle.perform_other` is the step of one store with an operation on another path.
* `Store.MatchesAt.perform` is the step of two stores with an operation on the path.
* `Store.MatchesAt.run` follows from the two for whole runs.
* `Store.paths_isolated` says that other paths cannot be observed.
-/

namespace SourceLedger

open Snapshot (chapter latest? story)

/-! ### Answers up to the numbers of rows -/

/-- A report without the number of its file. Its version has the number that the file counts. -/
def IngestReport.unnumbered (report : IngestReport) : IngestReport :=
  { report with fileId := 0, versionId := report.versionNumber }

/-- The outcome of a verification without the number of its file. -/
def VerifyOutcome.unnumbered (outcome : VerifyOutcome) : VerifyOutcome :=
  { outcome with fileId := 0 }

/-- The failure to detect the drift of a version that is not there shows the number of the file. -/
def Failure.noVersion (fileId : Int) (wanted : String) : Failure :=
  .unknownFile s!"file {fileId} has no version {wanted}"

/-- Two answers are the same up to the numbers of rows. -/
inductive Outcome.Agrees : Outcome → Outcome → Prop
  | ingested {report other : IngestReport} (h : report.unnumbered = other.unnumbered) :
      Agrees (.ingested report) (.ingested other)
  | verified {outcome other : VerifyOutcome} (h : outcome.unnumbered = other.unnumbered) :
      Agrees (.verified outcome) (.verified other)
  | drifted (report : DriftReport) : Agrees (.drifted report) (.drifted report)
  | failed (failure : Failure) : Agrees (.failed failure) (.failed failure)
  | noVersion (fileId other : Int) (wanted : String) :
      Agrees (.failed (.noVersion fileId wanted)) (.failed (.noVersion other wanted))

/-- What the operations on a path answer in a run, in order. -/
def Store.outcomesAt (parse : Parser) (path : String) (store : Store) :
    List (Operation × Int) → List Outcome
  | [] => []
  | (operation, now) :: rest =>
    let performed := store.perform parse operation now
    if operation.path = path then performed.1 :: outcomesAt parse path performed.2 rest
    else outcomesAt parse path performed.2 rest

/-- Journals have the same operations on a path, in the same order, and any others between. -/
inductive Operation.SameAt (path : String) :
    List (Operation × Int) → List (Operation × Int) → Prop
  | nil : SameAt path [] []
  | left {first second : List (Operation × Int)} {operation : Operation} (now : Int)
      (hpath : operation.path ≠ path) (h : SameAt path first second) :
      SameAt path ((operation, now) :: first) second
  | right {first second : List (Operation × Int)} {operation : Operation} (now : Int)
      (hpath : operation.path ≠ path) (h : SameAt path first second) :
      SameAt path first ((operation, now) :: second)
  | both {first second : List (Operation × Int)} {operation : Operation} (now : Int)
      (hpath : operation.path = path) (h : SameAt path first second) :
      SameAt path ((operation, now) :: first) ((operation, now) :: second)

namespace Operation

/-- A journal has the operations on a path that it has without all others. -/
theorem sameAt_filter (path : String) (journal : List (Operation × Int)) :
    SameAt path journal (journal.filter (·.1.path == path)) := by
  induction journal with
  | nil => exact .nil
  | cons entry rest ih =>
    obtain ⟨operation, now⟩ := entry
    by_cases hpath : operation.path = path
    · rw [List.filter_cons_of_pos (by simpa using hpath)]
      exact .both now hpath ih
    · rw [List.filter_cons_of_neg (by simpa using hpath)]
      exact .left now hpath ih

/-- Two operations on different paths may change places. -/
theorem sameAt_swap (path : String) {first second : Operation × Int}
    (h : first.1.path ≠ second.1.path) : SameAt path [first, second] [second, first] := by
  by_cases hfirst : first.1.path = path
  · have hsecond : second.1.path ≠ path := fun hsecond => h (hfirst.trans hsecond.symm)
    exact .right second.2 hsecond (.both first.2 hfirst (.left second.2 hsecond .nil))
  · by_cases hsecond : second.1.path = path
    · exact .left first.2 hfirst (.both second.2 hsecond (.right first.2 hfirst .nil))
    · exact .left first.2 hfirst (.left second.2 hsecond
        (.right second.2 hsecond (.right first.2 hfirst .nil)))

end Operation

/-! ### The next version of a story -/

namespace Staging

/-- The next version of a path, by the last version of its story. -/
def next (last : Option Staging) (extraction : Extraction) (now : Int) : Staging where
  extraction := extraction
  now := now
  fileId := 0
  createdAt := last.elim now (·.createdAt)
  previous := last.map (·.version.unnumbered)
  versionId := last.elim 1 (·.versionNumber + 1)
  identities := last.elim [] (·.recorded.unnumbered)
  drift := last.elim (Drift.baseline extraction.facts) fun old =>
    Drift.compare old.extraction.facts extraction.facts
  componentBase := 0
  historyBase := 0

variable (staging : Staging)

theorem unnumbered_version_unnumbered :
    staging.unnumbered.version.unnumbered = staging.version.unnumbered := by
  simp only [VersionRow.unnumbered, version, versionNumber_unnumbered]
  simp [unnumbered]

theorem unnumbered_recorded_unnumbered :
    staging.unnumbered.recorded.unnumbered = staging.recorded.unnumbered := by
  simp only [IdentityTable.unnumbered, recorded, historyRows, List.map_map]
  refine List.map_congr_left fun placed _ => ?_
  simp only [Function.comp_apply, historyRow, identity_unnumbered]

theorem report_unnumbered : staging.unnumbered.report = staging.report.unnumbered := by
  simp only [report, IngestReport.unnumbered, versionNumber_unnumbered]
  rfl

/-- What verifying a version finds if its rows are as they were written. -/
def examined (parse : Parser) : VerifyOutcome :=
  let text := staging.extraction.reconstruct
  let treeHash := (treeDigest staging.extraction.path text (parse text)).toOption
  { fileId := staging.fileId
    versionNumber := staging.versionNumber
    rawMatch := digest text == staging.extraction.rawHash
    treeMatch := treeHash == some staging.extraction.treeHash
    rawHash := digest text
    treeHash }

/-- The proof that verifying a version leaves, without the numbers of rows. -/
def proof (parse : Parser) (now : Int) : StoredProof :=
  let outcome := staging.examined parse
  { id := 0
    fileId := 0
    versionId := staging.versionNumber
    recordedRawHash := staging.extraction.rawHash
    rebuiltRawHash := outcome.rawHash
    recordedTreeHash := staging.extraction.treeHash
    rebuiltTreeHash := outcome.treeHash
    rawMatch := outcome.rawMatch
    treeMatch := outcome.treeMatch
    matched := outcome.matched
    status := outcome.status.stored
    verifiedAt := now }

theorem examined_unnumbered (parse : Parser) :
    staging.unnumbered.examined parse = (staging.examined parse).unnumbered := by
  simp only [examined, VerifyOutcome.unnumbered, versionNumber_unnumbered]
  rfl

theorem proof_unnumbered (parse : Parser) (now : Int) :
    staging.unnumbered.proof parse now = staging.proof parse now := by
  simp only [proof, examined_unnumbered, versionNumber_unnumbered]
  rfl

end Staging

theorem Snapshot.story_concat (log : List Snapshot) (snapshot : Snapshot) (path : String) :
    story (log ++ [snapshot]) path =
      story log path ++
        if snapshot.extraction.path = path then [snapshot.unnumbered] else [] := by
  rw [story, chapter_concat, List.map_append]
  split <;> rfl

theorem exists_of_map_eq {α β : Type} {f : α → β} {first second : Option α}
    (h : first.map f = second.map f) :
    (first = none ∧ second = none) ∨ ∃ x y, first = some x ∧ second = some y ∧ f x = f y := by
  cases first with
  | none => exact .inl ⟨rfl, Option.map_eq_none_iff.1 h.symm⟩
  | some x =>
    obtain ⟨y, hy, hxy⟩ := Option.map_eq_some_iff.1 h.symm
    exact .inr ⟨x, y, rfl, hy, hxy.symm⟩

theorem Store.perform_ingest_of_error {store : Store} {parse : Parser} {options : ExtractOptions}
    {path text : String} {failure : Failure} {now : Int}
    (hextract : extract path text (parse text) options = .error failure) :
    store.perform parse (.ingest options path text) now = (.failed failure, store) := by
  rw [perform, ingest, hextract]
  rfl

namespace Chronicle

variable {log : List Snapshot} {store : Store} {snapshot last : Snapshot} {path : String}

/-- What is staged for a path depends on the last version of its story. -/
theorem unnumbered_stage (h : Chronicle log store) (extraction : Extraction) (now : Int) :
    (store.stage ((latest? log extraction.path).map (·.fileRow)) extraction now).unnumbered =
      .next (story log extraction.path).getLast? extraction now := by
  have hlast : (story log extraction.path).getLast? =
      (latest? log extraction.path).map (·.unnumbered) := by
    rw [story, List.getLast?_map]
    rfl
  rw [h.stage_eq, hlast]
  cases latest? log extraction.path with
  | none => rfl
  | some old =>
    simp only [Staging.next, Option.elim_some, Option.map_some,
      Staging.unnumbered_version_unnumbered, Staging.unnumbered_recorded_unnumbered,
      Staging.versionNumber_unnumbered]
    rfl

theorem examine_eq (h : Chronicle log store) (hsnapshot : snapshot ∈ log) (parse : Parser) :
    store.examine parse snapshot.fileRow snapshot.version = snapshot.examined parse := by
  have htext : store.rebuilt snapshot.version.id = snapshot.extraction.reconstruct :=
    h.rebuilt hsnapshot
  simp only [Store.examine, htext]
  rfl

theorem exists_snapshot_of_proof (h : Chronicle log store) {row : StoredProof}
    (hrow : row ∈ store.proofs) :
    ∃ snapshot ∈ log, row.fileId = snapshot.fileId ∧ row.versionId = snapshot.versionId := by
  obtain ⟨version, hversion, hfile, hid⟩ := h.proofs row hrow
  rw [h.tables.versions] at hversion
  obtain ⟨snapshot, hsnapshot, rfl⟩ := List.mem_map.1 hversion
  exact ⟨snapshot, hsnapshot, hfile, hid⟩

/-- Writing a version leaves the proofs of all paths as they are. -/
theorem proofsAt_commit (h : Chronicle log store)
    (hafter : Chronicle (log ++ [snapshot]) (store.commit snapshot.toStaging)) (path : String) :
    (store.commit snapshot.toStaging).proofsAt path = store.proofsAt path := by
  have hproofs : (store.commit snapshot.toStaging).proofs = store.proofs := by
    rw [Store.commit_eq]
  cases hlatest : latest? log path with
  | none =>
    rw [h.proofsAt_of_none hlatest]
    cases hlater : latest? (log ++ [snapshot]) path with
    | none => exact hafter.proofsAt_of_none hlater
    | some last =>
      -- The path has its first version now, and no proof was about an earlier one.
      rw [hafter.proofsAt_of_latest? hlater, hproofs, List.map_eq_nil_iff, List.filter_eq_nil_iff]
      intro row hrow hsame
      obtain ⟨hlast, hpath⟩ := Snapshot.mem_of_latest? hlater
      obtain ⟨old, hold, hfile, _⟩ := h.exists_snapshot_of_proof hrow
      rw [hfile, beq_iff_eq, hafter.fileId_eq_iff (List.mem_append_left _ hold) hlast] at hsame
      obtain ⟨found, hfound⟩ := Snapshot.exists_latest? hold
      rw [hsame, hpath, hlatest] at hfound
      exact absurd hfound (by simp)
  | some old =>
    obtain ⟨hold, hpath⟩ := Snapshot.mem_of_latest? hlatest
    have hmem : old ∈ log ++ [snapshot] := List.mem_append_left _ hold
    obtain ⟨last, hlater⟩ := Snapshot.exists_latest? hmem
    have hid := hafter.files.same old hmem last hlater
    rw [hpath] at hlater
    rw [h.proofsAt_of_latest? hlatest, hafter.proofsAt_of_latest? hlater, hproofs, ← hid]
    refine List.map_congr_left fun row hrow => ?_
    obtain ⟨about, habout, _, hversion⟩ :=
      h.exists_snapshot_of_proof (List.mem_filter.1 hrow).1
    have hnumber : (store.commit snapshot.toStaging).numberOf row.versionId =
        store.numberOf row.versionId := by
      rw [hversion, h.numberOf habout, hafter.numberOf (List.mem_append_left _ habout)]
    simp only [ProofRow.relabelled, hnumber]

/-- A verification adds a proof to its own path. -/
theorem proofsAt_addProof (h : Chronicle log store) (hlatest : latest? log path = some last)
    (parse : Parser) (now : Int) (other : String) :
    (store.addProof last.version (last.examined parse) now).proofsAt other =
      store.proofsAt other ++ if path = other then [last.proof parse now] else [] := by
  obtain ⟨hlast, rfl⟩ := Snapshot.mem_of_latest? hlatest
  have hafter : Chronicle log (store.addProof last.version (last.examined parse) now) := by
    have hprove := h.prove parse now (h.fileById? hlatest) (h.latestVersion?_of_latest? hlatest)
    rwa [h.examine_eq hlast] at hprove
  cases hother : latest? log other with
  | none =>
    have hne : last.extraction.path ≠ other := by
      rintro rfl
      exact absurd (hlatest.symm.trans hother) (by simp)
    rw [hafter.proofsAt_of_none hother, h.proofsAt_of_none hother, if_neg hne]
    rfl
  | some found =>
    obtain ⟨hfound, rfl⟩ := Snapshot.mem_of_latest? hother
    have hnumber : store.numberOf last.versionId = last.versionNumber := h.numberOf hlast
    have hsame : (store.addProof last.version (last.examined parse) now).numberOf =
        store.numberOf := rfl
    rw [hafter.proofsAt_of_latest? hother, h.proofsAt_of_latest? hother, hsame, Store.addProof,
      List.filter_append, List.map_append]
    refine congrArg _ ?_
    -- The new proof has the file of its path, which no other path has.
    by_cases hpath : last.extraction.path = found.extraction.path
    · have hid := (h.fileId_eq_iff hlast hfound).2 hpath
      simp only [if_pos hpath]
      simp [ProofRow.stored, ProofRow.relabelled, Staging.examined, Staging.proof, Staging.version,
        hid, hnumber, eq_comm (a := last.extraction.rawHash)]
    · have hid := mt (h.fileId_eq_iff hlast hfound).1 hpath
      simp [if_neg hpath, ProofRow.stored, Staging.examined, hid]

theorem detect_eq (h : Chronicle log store) (hlatest : latest? log path = some last)
    (number : Option Nat) (now : Int) :
    store.detect path number now =
      (pick? (·.versionNumber) (chapter log path) number).elim
        (.error (.noVersion last.fileId (number.elim "yet" toString)))
        fun found => .ok (found.drift, store) := by
  have hversion := h.requireVersion_eq hlatest number
  cases hpick : pick? (·.versionNumber) (chapter log path) number with
  | some found =>
    obtain ⟨hfound, hpath⟩ := List.mem_filter.1 (mem_of_pick? hpick)
    obtain rfl := beq_iff_eq.1 hpath
    rw [hpick] at hversion
    exact h.detect_ok hfound hversion now
  | none =>
    rw [hpick] at hversion
    have hnone : store.version? last.fileRow.id number = none := by
      simp only [Store.requireVersion, h.requireFile hlatest, bind, Except.bind] at hversion
      split at hversion
      · simp at hversion
      · assumption
      · assumption
    simp only [Store.detect, h.requireFile hlatest, bind, Except.bind, Store.detectDrift, hnone]
    rfl

/-- Ingesting a text that can be extracted adds the next version of its story. -/
theorem perform_ingest (h : Chronicle log store) (parse : Parser) {options : ExtractOptions}
    {text : String} {extraction : Extraction}
    (hextract : extract path text (parse text) options = .ok extraction) (now : Int) :
    ∃ snapshot : Snapshot, snapshot.extraction.path = path ∧
      snapshot.unnumbered = .next (story log path).getLast? extraction now ∧
      Chronicle (log ++ [snapshot]) (store.commit snapshot.toStaging) ∧
      store.perform parse (.ingest options path text) now =
        (.ingested snapshot.report, store.commit snapshot.toStaging) := by
  obtain rfl := path_of_extract hextract
  obtain ⟨snapshot, hstaged, _, _, hafter⟩ := h.commit hextract now
  refine ⟨snapshot, ?_, ?_, hafter, ?_⟩
  · rw [hstaged]
    rfl
  · rw [hstaged]
    exact h.unnumbered_stage extraction now
  · rw [Store.perform, h.ingest_ok parse hextract, hstaged]
    rfl

/-- Verifying a path that was written adds the proof of its last version. -/
theorem perform_verify (h : Chronicle log store) (hlatest : latest? log path = some last)
    (parse : Parser) (now : Int) :
    Chronicle log (store.addProof last.version (last.examined parse) now) ∧
      store.perform parse (.verify path) now =
        (.verified (last.examined parse),
          store.addProof last.version (last.examined parse) now) := by
  have hprove := h.prove parse now (h.fileById? hlatest) (h.latestVersion?_of_latest? hlatest)
  rw [h.examine_eq (Snapshot.mem_of_latest? hlatest).1] at hprove
  refine ⟨hprove, ?_⟩
  rw [Store.perform, h.verify hlatest, h.examine_eq (Snapshot.mem_of_latest? hlatest).1]
  rfl

theorem perform_verify_of_none (h : Chronicle log store) (hlatest : latest? log path = none)
    (parse : Parser) (now : Int) :
    store.perform parse (.verify path) now = (.failed (.unknownFile path), store) := by
  rw [Store.perform, Store.verify, Store.requireFile, h.file?, hlatest]
  rfl

theorem perform_detect_of_none (h : Chronicle log store) (hlatest : latest? log path = none)
    (parse : Parser) (number : Option Nat) (now : Int) :
    store.perform parse (.detect path number) now = (.failed (.unknownFile path), store) := by
  rw [Store.perform, Store.detect, Store.requireFile, h.file?, hlatest]
  rfl

/-- Detecting drift answers from the story of a path, and leaves the store alone. -/
theorem perform_detect (h : Chronicle log store) (hlatest : latest? log path = some last)
    (parse : Parser) (number : Option Nat) (now : Int) :
    store.perform parse (.detect path number) now =
      ((pick? (·.versionNumber) (chapter log path) number).elim
        (.failed (.noVersion last.fileId (number.elim "yet" toString)))
        fun found => .drifted found.drift, store) := by
  rw [Store.perform, h.detect_eq hlatest]
  cases pick? (·.versionNumber) (chapter log path) number <;> rfl

/-- An operation on another path leaves the story of a path and its proofs as they are. -/
theorem perform_other (h : Chronicle log store) (parse : Parser) {operation : Operation} (now : Int)
    (hpath : operation.path ≠ path) :
    ∃ later, Chronicle later (store.perform parse operation now).2 ∧
      story later path = story log path ∧
      (store.perform parse operation now).2.proofsAt path = store.proofsAt path := by
  cases operation with
  | ingest options other text =>
    change other ≠ path at hpath
    cases hextract : extract other text (parse text) options with
    | error failure =>
      rw [Store.perform_ingest_of_error hextract]
      exact ⟨log, h, rfl, rfl⟩
    | ok extraction =>
      obtain ⟨snapshot, rfl, _, hafter, hperform⟩ := h.perform_ingest parse hextract now
      rw [hperform]
      refine ⟨log ++ [snapshot], hafter, ?_, h.proofsAt_commit hafter path⟩
      rw [Snapshot.story_concat, if_neg hpath, List.append_nil]
  | verify other =>
    change other ≠ path at hpath
    cases hlatest : latest? log other with
    | none =>
      rw [h.perform_verify_of_none hlatest]
      exact ⟨log, h, rfl, rfl⟩
    | some last =>
      obtain ⟨hafter, hperform⟩ := h.perform_verify hlatest parse now
      rw [hperform]
      refine ⟨log, hafter, rfl, ?_⟩
      rw [h.proofsAt_addProof hlatest, if_neg hpath, List.append_nil]
  | detect other number =>
    cases hlatest : latest? log other with
    | none =>
      rw [h.perform_detect_of_none hlatest]
      exact ⟨log, h, rfl, rfl⟩
    | some last =>
      rw [h.perform_detect hlatest]
      exact ⟨log, h, rfl, rfl⟩

end Chronicle

namespace Store

/-- A path has the same story and the same proofs in two stores. -/
def MatchesAt (path : String) (store other : Store) : Prop :=
  ∃ log log', Chronicle log store ∧ Chronicle log' other ∧ story log path = story log' path ∧
    store.proofsAt path = other.proofsAt path

namespace MatchesAt

variable {store other : Store} {path : String}

theorem account (h : MatchesAt path store other) : store.account path = other.account path := by
  obtain ⟨log, log', hlog, hlog', hstory, hproofs⟩ := h
  rw [hlog.account, hlog'.account, hstory, hproofs]

theorem left (h : MatchesAt path store other) (parse : Parser) {operation : Operation} (now : Int)
    (hpath : operation.path ≠ path) :
    MatchesAt path (store.perform parse operation now).2 other := by
  obtain ⟨log, log', hlog, hlog', hstory, hproofs⟩ := h
  obtain ⟨later, hlater, hsame, hkept⟩ := hlog.perform_other parse now hpath
  exact ⟨later, log', hlater, hlog', hsame.trans hstory, hkept.trans hproofs⟩

theorem right (h : MatchesAt path store other) (parse : Parser) {operation : Operation} (now : Int)
    (hpath : operation.path ≠ path) :
    MatchesAt path store (other.perform parse operation now).2 := by
  obtain ⟨log, log', hlog, hlog', hstory, hproofs⟩ := h
  obtain ⟨later, hlater, hsame, hkept⟩ := hlog'.perform_other parse now hpath
  exact ⟨log, later, hlog, hlater, hstory.trans hsame.symm, hproofs.trans hkept.symm⟩

/-- Two stores in which a path has the same story and the same proofs answer an operation on the
path alike, and still are two such stores. -/
theorem perform (h : MatchesAt path store other) (parse : Parser) {operation : Operation}
    (now : Int) (hpath : operation.path = path) :
    Outcome.Agrees (store.perform parse operation now).1 (other.perform parse operation now).1 ∧
      MatchesAt path (store.perform parse operation now).2
        (other.perform parse operation now).2 := by
  obtain ⟨log, log', hlog, hlog', hstory, hproofs⟩ := h
  have hlast : (latest? log path).map (·.unnumbered) = (latest? log' path).map (·.unnumbered) := by
    have hgetLast := congrArg List.getLast? hstory
    rw [story, story, List.getLast?_map, List.getLast?_map] at hgetLast
    exact hgetLast
  cases operation with
  | ingest options own text =>
    obtain rfl : own = path := hpath
    cases hextract : extract own text (parse text) options with
    | error failure =>
      rw [perform_ingest_of_error hextract, perform_ingest_of_error hextract]
      exact ⟨.failed failure, log, log', hlog, hlog', hstory, hproofs⟩
    | ok extraction =>
      obtain ⟨first, hfirst, hnext, hafter, hperform⟩ := hlog.perform_ingest parse hextract now
      obtain ⟨second, hsecond, hnext', hafter', hperform'⟩ :=
        hlog'.perform_ingest parse hextract now
      -- Both stores write the next version of the same story.
      have hsame : first.unnumbered = second.unnumbered := by rw [hnext, hnext', hstory]
      rw [hperform, hperform']
      refine ⟨.ingested ?_, _, _, hafter, hafter', ?_, ?_⟩
      · rw [← Staging.report_unnumbered, ← Staging.report_unnumbered, hsame]
      · rw [Snapshot.story_concat, Snapshot.story_concat, hstory, if_pos hfirst, if_pos hsecond,
          hsame]
      · rw [hlog.proofsAt_commit hafter, hlog'.proofsAt_commit hafter', hproofs]
  | verify own =>
    obtain rfl : own = path := hpath
    rcases exists_of_map_eq hlast with ⟨hnone, hnone'⟩ | ⟨last, last', hsome, hsome', hsame⟩
    · rw [hlog.perform_verify_of_none hnone, hlog'.perform_verify_of_none hnone']
      exact ⟨.failed _, log, log', hlog, hlog', hstory, hproofs⟩
    · obtain ⟨hafter, hperform⟩ := hlog.perform_verify hsome parse now
      obtain ⟨hafter', hperform'⟩ := hlog'.perform_verify hsome' parse now
      rw [hperform, hperform']
      refine ⟨.verified ?_, log, log', hafter, hafter', hstory, ?_⟩
      · rw [← Staging.examined_unnumbered, ← Staging.examined_unnumbered, hsame]
      · rw [hlog.proofsAt_addProof hsome, hlog'.proofsAt_addProof hsome', hproofs, if_pos rfl,
          if_pos rfl, ← Staging.proof_unnumbered, hsame, Staging.proof_unnumbered]
  | detect own number =>
    obtain rfl : own = path := hpath
    rcases exists_of_map_eq hlast with ⟨hnone, hnone'⟩ | ⟨last, last', hsome, hsome', _⟩
    · rw [hlog.perform_detect_of_none hnone, hlog'.perform_detect_of_none hnone']
      exact ⟨.failed _, log, log', hlog, hlog', hstory, hproofs⟩
    · rw [hlog.perform_detect hsome, hlog'.perform_detect hsome']
      refine ⟨?_, log, log', hlog, hlog', hstory, hproofs⟩
      have hpick : (pick? (·.versionNumber) (chapter log own) number).map (·.unnumbered) =
          (pick? (·.versionNumber) (chapter log' own) number).map (·.unnumbered) := by
        have hfound := congrArg (pick? Staging.versionNumber · number) hstory
        simp only [story, pick?_map, Function.comp_def, Staging.versionNumber_unnumbered] at hfound
        exact hfound
      rcases exists_of_map_eq hpick with ⟨hmissing, hmissing'⟩ | ⟨x, y, hx, hy, hxy⟩
      · rw [hmissing, hmissing']
        exact .noVersion _ _ _
      · have hdrift := congrArg Staging.drift hxy
        change x.drift = y.drift at hdrift
        rw [hx, hy, Option.elim_some, Option.elim_some, hdrift]
        exact .drifted _

/-- Journals with the same operations on a path give the same answers there, and lead to stores in
which the path has the same story and the same proofs. -/
theorem run {first second : List (Operation × Int)} (h : MatchesAt path store other)
    (parse : Parser) (hsame : Operation.SameAt path first second) :
    List.Forall₂ Outcome.Agrees (store.outcomesAt parse path first)
        (other.outcomesAt parse path second) ∧
      MatchesAt path (store.replay parse first) (other.replay parse second) := by
  induction hsame generalizing store other with
  | nil => exact ⟨.nil, h⟩
  | left now hpath _ ih =>
    rw [outcomesAt, if_neg hpath]
    exact ih (h.left parse now hpath)
  | right now hpath _ ih =>
    rw [outcomesAt.eq_2 parse path other, if_neg hpath]
    exact ih (h.right parse now hpath)
  | both now hpath _ ih =>
    obtain ⟨hagrees, hafter⟩ := h.perform parse now hpath
    obtain ⟨houtcomes, hfinal⟩ := ih hafter
    rw [outcomesAt, outcomesAt, if_pos hpath, if_pos hpath]
    exact ⟨.cons hagrees houtcomes, hfinal⟩

end MatchesAt

/-- After any run from the empty store, what the operations on a path answered and what can be asked
about the path is the same, up to the numbers of rows, as after the operations on the path alone.
So operations on different paths commute: after any run their order changes neither what they
answer nor what can be asked about any path. -/
theorem paths_isolated (parse : Parser) (journal : List (Operation × Int)) (path : String) :
    List.Forall₂ Outcome.Agrees (outcomesAt parse path {} journal)
        (outcomesAt parse path {} (journal.filter (·.1.path == path))) ∧
      (replay parse {} journal).account path =
        (replay parse {} (journal.filter (·.1.path == path))).account path ∧
      ∀ first second : Operation × Int, first.1.path ≠ second.1.path → ∀ other : String,
        List.Forall₂ Outcome.Agrees
            (outcomesAt parse other (replay parse {} journal) [first, second])
            (outcomesAt parse other (replay parse {} journal) [second, first]) ∧
          (replay parse {} (journal ++ [first, second])).account other =
            (replay parse {} (journal ++ [second, first])).account other := by
  have hempty : MatchesAt path {} {} := ⟨[], [], .empty, .empty, rfl, rfl⟩
  obtain ⟨houtcomes, hmatches⟩ := hempty.run parse (Operation.sameAt_filter path journal)
  refine ⟨houtcomes, hmatches.account, ?_⟩
  intro first second hpaths other
  obtain ⟨log, hlog, _⟩ := chronicle_replay parse journal
  have hsame : MatchesAt other (replay parse {} journal) (replay parse {} journal) :=
    ⟨log, log, hlog, hlog, rfl, rfl⟩
  obtain ⟨hswapped, hafter⟩ := hsame.run parse (Operation.sameAt_swap other hpaths)
  refine ⟨hswapped, ?_⟩
  rw [replay, replay, List.foldl_append, List.foldl_append]
  exact hafter.account

theorem paths_isolated_accented :
    ∃ first second : Operation × Int, first.1.path ≠ second.1.path ∧
      ((replay sampleParser {} [first, second]).fileRow? "a.py").map (·.id) = some 1 ∧
      ((replay sampleParser {} [second, first]).fileRow? "a.py").map (·.id) = some 2 ∧
      (replay sampleParser {} [first, second]).account "a.py" =
        (replay sampleParser {} [second, first]).account "a.py" := by
  refine ⟨(.ingest {} "a.py" Extraction.accentedText, 1),
    (.ingest {} "b.py" Extraction.accentedText, 2), by decide, by decide +kernel,
    by decide +kernel, ?_⟩
  exact ((paths_isolated sampleParser [] "a.py").2.2 _ _ (by decide) "a.py").2

end Store

end SourceLedger
