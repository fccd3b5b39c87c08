import SourceLedger.Ledger
import SourceLedger.Proofs.Arena

/-!
# The chronicle of a store

A store that operations have led to has a past: the versions that were written, one after another,
each staged on what was there when it was written. Its chronicle is the list of these versions with
their sources. Verifications and detections leave the chronicle as it is, and so do operations that
fail.

## Main definitions

* `Snapshot` is a version as it was written, with the source it was taken from.
* `Chronicle` relates a store to the snapshots it was made from.
* `Store.Reachable` holds of the stores that operations lead to.
* `Store.ingestions` lists the ingestions of a journal that succeed.

## Main statements

* `Store.ingest_ok`, `Store.verify_ok` and `Store.detect_ok` say what an operation does that
  succeeds.
* `Store.Reachable.chronicle` and `Store.chronicle_replay` find the chronicle of a store.
-/

namespace SourceLedger

/-- A version as it was written, with the source it was taken from. -/
structure Snapshot extends Staging where
  text : String
  tree : Syntax.Tree
  options : ExtractOptions
  extracted : extract extraction.path text tree options = .ok extraction

/-- An ingestion that succeeded. -/
structure Ingestion where
  options : ExtractOptions
  path : String
  text : String
  now : Int
  report : IngestReport
  deriving DecidableEq, Repr

/-- The ingestion that a snapshot comes from. -/
def Snapshot.ingestion (snapshot : Snapshot) : Ingestion :=
  ⟨snapshot.options, snapshot.extraction.path, snapshot.text, snapshot.now, snapshot.report⟩

/-- The ingestion that an operation is, if it is one and succeeds. -/
def Operation.ingestion? (operation : Operation) (now : Int) (outcome : Outcome) :
    Option Ingestion :=
  match operation, outcome with
  | .ingest options path text, .ingested report => some ⟨options, path, text, now, report⟩
  | _, _ => none

namespace Store

variable {store after : Store} {parse : Parser} {path : String} {now : Int}

/-- An extraction whose file can be read is written unless it breaks a rule. -/
theorem write_eq {extraction : Extraction} {file : Option FileRecord}
    (h : store.file? extraction.path = .ok file) (now : Int) :
    store.write extraction now =
      ((store.stage file extraction now).fault? store).elim
        (.ok ((store.stage file extraction now).report,
          store.commit (store.stage file extraction now))) .error := by
  have hread : (Except.ok file : Except DatabaseFault (Option FileRecord)).mapError
      Failure.database = .ok file := rfl
  rw [write, h, hread]
  simp only [bind, Except.bind]
  cases (store.stage file extraction now).fault? store <;> rfl

/-- An ingestion that succeeds adds the rows of an extraction that break no rule. -/
theorem ingest_ok {options : ExtractOptions} {text : String} {report : IngestReport}
    (h : store.ingest parse options path text now = .ok (report, after)) :
    ∃ extraction file, extract path text (parse text) options = .ok extraction ∧
      store.file? extraction.path = .ok file ∧
      (store.stage file extraction now).fault? store = none ∧
      report = (store.stage file extraction now).report ∧
      after = store.commit (store.stage file extraction now) := by
  cases hextract : extract path text (parse text) options with
  | error failure => simp [ingest, hextract, bind, Except.bind] at h
  | ok extraction =>
    have hwrite : store.write extraction now = .ok (report, after) := by
      rw [ingest, hextract] at h
      exact h
    cases hfile : store.file? extraction.path with
    | error fault =>
      have hrefused : store.write extraction now = .error (.database fault) := by
        rw [write, hfile]
        rfl
      rw [hrefused] at hwrite
      simp at hwrite
    | ok file =>
      rw [write_eq hfile] at hwrite
      cases hfault : (store.stage file extraction now).fault? store with
      | some failure => simp [hfault] at hwrite
      | none =>
        rw [hfault, Option.elim_none] at hwrite
        obtain ⟨rfl, rfl⟩ := Prod.mk.inj (Except.ok.inj hwrite)
        exact ⟨extraction, file, rfl, hfile, hfault, rfl, rfl⟩

/-- A verification of a file that succeeds adds the proof that its latest version was compared with
what is stored of it. -/
theorem verifyFile_ok {fileId : Int} {outcome : VerifyOutcome}
    (h : verifyFile parse store fileId now = .ok (outcome, after)) :
    ∃ file version, store.fileById? fileId = .ok (some file) ∧
      store.latestVersion? file.id = some version ∧
      outcome = store.examine parse file version ∧
      after = store.addProof version outcome now := by
  simp only [verifyFile] at h
  split at h
  · simp at h
  · simp at h
  · rename_i file hfile
    split at h
    · simp at h
    · rename_i version hversion
      obtain ⟨rfl, rfl⟩ := Prod.mk.inj (Except.ok.inj h)
      exact ⟨file, version, hfile, hversion, rfl, rfl⟩

/-- A verification that succeeds adds the proof that the latest version was compared with what is
stored of it. -/
theorem verify_ok {outcome : VerifyOutcome}
    (h : store.verify parse path now = .ok (outcome, after)) :
    ∃ found file version, store.requireFile path = .ok found ∧
      store.fileById? found.id = .ok (some file) ∧
      store.latestVersion? file.id = some version ∧
      outcome = store.examine parse file version ∧
      after = store.addProof version outcome now := by
  cases hfound : store.requireFile path with
  | error failure => simp [verify, hfound, bind, Except.bind] at h
  | ok found =>
    simp only [verify, hfound, bind, Except.bind] at h
    obtain ⟨file, version, hverified⟩ := verifyFile_ok h
    exact ⟨found, file, version, rfl, hverified⟩

/-- A detection that succeeds adds events for the drift of a version. -/
theorem detect_ok {number : Option Nat} {report : DriftReport}
    (h : store.detect path number now = .ok (report, after)) :
    ∃ file version, store.requireFile path = .ok file ∧
      store.version? file.id number = some version ∧ report = store.driftOf version ∧
      after = store.addEvents file.id version.id version.previousId now report.changes := by
  cases hfile : store.requireFile path with
  | error failure => simp [detect, hfile, bind, Except.bind] at h
  | ok file =>
    simp only [detect, hfile, bind, Except.bind, detectDrift] at h
    split at h
    · rename_i version hversion
      obtain ⟨rfl, rfl⟩ := Prod.mk.inj (Except.ok.inj h)
      exact ⟨file, version, rfl, hversion, rfl, rfl⟩
    · simp at h

end Store

/-- The past of a store: `log` lists the versions that were written, each staged on the store as it
was, and between them versions were verified and drift was detected. -/
inductive Chronicle : (log : List Snapshot) → Store → Prop
  | empty : Chronicle [] {}
  | write {log : List Snapshot} {store : Store} {file : Option FileRecord} (snapshot : Snapshot)
      (hpast : Chronicle log store) (hfile : store.file? snapshot.extraction.path = .ok file)
      (hstaged : snapshot.toStaging = store.stage file snapshot.extraction snapshot.now) :
      Chronicle (log ++ [snapshot]) (store.commit snapshot.toStaging)
  | prove {log : List Snapshot} {store : Store} {id : Int} {file : FileRecord}
      {version : VersionRow} (hpast : Chronicle log store) (parse : Parser) (now : Int)
      (hfile : store.fileById? id = .ok (some file))
      (hversion : store.latestVersion? file.id = some version) :
      Chronicle log (store.addProof version (store.examine parse file version) now)
  | detect {log : List Snapshot} {store : Store} {id : Int} {number : Option Nat}
      {version : VersionRow} (hpast : Chronicle log store) (now : Int)
      (hversion : store.version? id number = some version) :
      Chronicle log
        (store.addEvents id version.id version.previousId now (store.driftOf version).changes)

namespace Store

/-- The stores that operations lead to, from an empty one. The parser may give a text another tree
at every operation. -/
inductive Reachable : Store → Prop
  | empty : Reachable {}
  | perform {store : Store} (h : Reachable store) (parse : Parser) (operation : Operation)
      (now : Int) : Reachable (store.perform parse operation now).2

/-- The ingestions of a journal that succeed, in order. -/
def ingestions (parse : Parser) (store : Store) : List (Operation × Int) → List Ingestion
  | [] => []
  | (operation, now) :: rest =>
    let performed := store.perform parse operation now
    (operation.ingestion? now performed.1).toList ++ ingestions parse performed.2 rest

/-- A journal that begins with an ingestion that succeeds. -/
theorem ingestions_cons_ingest {parse : Parser} {store after : Store} {options : ExtractOptions}
    {path text : String} {now : Int} {report : IngestReport}
    (h : store.ingest parse options path text now = .ok (report, after))
    (rest : List (Operation × Int)) :
    store.ingestions parse ((.ingest options path text, now) :: rest) =
      ⟨options, path, text, now, report⟩ :: after.ingestions parse rest := by
  simp [ingestions, perform, h, settle, Operation.ingestion?]

end Store

/-- An operation adds to the chronicle what it ingests. -/
theorem Chronicle.perform {log : List Snapshot} {store : Store} (h : Chronicle log store)
    (parse : Parser) (operation : Operation) (now : Int) :
    ∃ new, Chronicle (log ++ new) (store.perform parse operation now).2 ∧
      (operation.ingestion? now (store.perform parse operation now).1).toList =
        new.map (·.ingestion) ∧
      ∀ snapshot ∈ new, snapshot.tree = parse snapshot.text := by
  cases operation with
  | ingest options path text =>
    cases hresult : store.ingest parse options path text now with
    | error failure =>
      refine ⟨[], ?_, ?_, by simp⟩
      · simpa [Store.perform, hresult, Store.settle] using h
      · simp [Store.perform, hresult, Store.settle, Operation.ingestion?]
    | ok result =>
      obtain ⟨report, after⟩ := result
      obtain ⟨extraction, file, hextract, hfile, _, rfl, rfl⟩ := Store.ingest_ok hresult
      obtain rfl := path_of_extract hextract
      -- What is staged, together with its source, is the new snapshot.
      refine ⟨[⟨store.stage file extraction now, text, parse text, options, hextract⟩], ?_, ?_, ?_⟩
      · simp only [Store.perform, hresult, Store.settle]
        exact .write _ h hfile rfl
      · simp only [Store.perform, hresult, Store.settle]
        rfl
      · simp
  | verify path =>
    refine ⟨[], ?_, by simp [Operation.ingestion?], by simp⟩
    rw [List.append_nil]
    cases hresult : store.verify parse path now with
    | error failure => simpa [Store.perform, hresult, Store.settle] using h
    | ok result =>
      obtain ⟨outcome, after⟩ := result
      obtain ⟨_, file, version, _, hfile, hversion, rfl, rfl⟩ := Store.verify_ok hresult
      simpa [Store.perform, hresult, Store.settle] using h.prove parse now hfile hversion
  | detect path number =>
    refine ⟨[], ?_, by simp [Operation.ingestion?], by simp⟩
    rw [List.append_nil]
    cases hresult : store.detect path number now with
    | error failure => simpa [Store.perform, hresult, Store.settle] using h
    | ok result =>
      obtain ⟨report, after⟩ := result
      obtain ⟨file, version, _, hversion, rfl, rfl⟩ := Store.detect_ok hresult
      simpa [Store.perform, hresult, Store.settle] using h.detect now hversion

/-- Every reachable store has a chronicle. -/
theorem Store.Reachable.chronicle {store : Store} (h : store.Reachable) :
    ∃ log, Chronicle log store := by
  induction h with
  | empty => exact ⟨[], .empty⟩
  | perform _ parse operation now ih =>
    obtain ⟨log, hlog⟩ := ih
    obtain ⟨new, hnew, _⟩ := hlog.perform parse operation now
    exact ⟨log ++ new, hnew⟩

/-- A journal adds to the chronicle what it ingests. -/
theorem Chronicle.replay {log : List Snapshot} {store : Store} (h : Chronicle log store)
    (parse : Parser) (journal : List (Operation × Int)) :
    ∃ new, Chronicle (log ++ new) (store.replay parse journal) ∧
      store.ingestions parse journal = new.map (·.ingestion) ∧
      ∀ snapshot ∈ new, snapshot.tree = parse snapshot.text := by
  induction journal generalizing log store with
  | nil => exact ⟨[], by simpa [Store.replay] using h, rfl, by simp⟩
  | cons entry rest ih =>
    obtain ⟨operation, now⟩ := entry
    obtain ⟨first, hfirst, hingested, htrees⟩ := h.perform parse operation now
    obtain ⟨others, hothers, hall, hothersTrees⟩ := ih hfirst
    refine ⟨first ++ others, ?_, ?_, ?_⟩
    · rw [← List.append_assoc]
      exact hothers
    · rw [Store.ingestions, hingested, hall, List.map_append]
    · intro snapshot hsnapshot
      rcases List.mem_append.1 hsnapshot with hsnapshot | hsnapshot
      · exact htrees snapshot hsnapshot
      · exact hothersTrees snapshot hsnapshot

/-- The chronicle of a run from the empty store lists what was ingested. -/
theorem Store.chronicle_replay (parse : Parser) (journal : List (Operation × Int)) :
    ∃ log, Chronicle log (Store.replay parse {} journal) ∧
      Store.ingestions parse {} journal = log.map (·.ingestion) ∧
      ∀ snapshot ∈ log, snapshot.tree = parse snapshot.text := by
  obtain ⟨log, hlog⟩ := Chronicle.empty.replay parse journal
  exact ⟨log, hlog⟩

end SourceLedger
