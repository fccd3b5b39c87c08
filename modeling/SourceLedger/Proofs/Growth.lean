import Mathlib.Data.List.Forall2
import SourceLedger.Proofs.Lineage
import SourceLedger.Store.Edit

/-!
# Tables only grow

Ledgers are append-only. Operations write behind the rows that are there, and a statement from
outside that would change or delete a row of a ledger is refused. So after any run, whatever was
tried in it, each ledger begins with the rows it had before. Operations leave all other tables alone
too, up to one row: an ingestion brings the row of its file up to date.

## Main definitions

* `Statement` is a statement against a ledger, and `Store.execute` carries it out.
* `Store.Moves` is a step: an operation, an edit of a ledger or a statement against one.
* `Store.LedgersGrow` and `Store.Preserves` say what stays in the tables.

## Main statements

* `Store.execute_ok` and `Store.edit_ledger` say that rows of ledgers cannot be changed, and
  `Store.clear_eq_execute` that clearing a ledger is a statement.
* `Store.ledgersGrow_perform` and `Store.Moves.ledgersGrow` are the steps, on any store.
* `Chronicle.preserves_ingest` says what an ingestion leaves alone.
* `Store.ledgers_append_only` collects what holds over all runs.
-/

namespace SourceLedger

open Snapshot (latest?)

/-- What a statement makes of the rows of a table, one after another. A chosen row becomes another
one, or is deleted if nothing is to become of it; but a ledger refuses the statement there. -/
def sweep {α : Type} (table : Table) (chosen : α → Bool) (put : α → Option α) :
    List α → Except EditFault (List α)
  | [] => .ok []
  | row :: rest =>
    if chosen row then
      if table.isLedger then .error (.appendOnly table)
      else (sweep table chosen put rest).map ((put row).toList ++ ·)
    else (sweep table chosen put rest).map (row :: ·)

/-- A ledger refuses every statement that chooses one of its rows, and otherwise stays as it is. -/
theorem sweep_ledger {α : Type} {table : Table} (htable : table.isLedger) (chosen : α → Bool)
    (put : α → Option α) (rows : List α) :
    sweep table chosen put rows =
      if rows.any chosen then .error (.appendOnly table) else .ok rows := by
  induction rows with
  | nil => rfl
  | cons row rest ih =>
    rw [sweep, ih, if_pos htable, List.any_cons]
    cases chosen row
    · cases rest.any chosen <;> rfl
    · rfl

/-- A statement from outside that changes or deletes rows of a ledger: those that it chooses, and
as it likes. -/
inductive Statement where
  | versions (chosen : VersionRow → Bool) (put : VersionRow → Option VersionRow)
  | history (chosen : HistoryRow → Bool) (put : HistoryRow → Option HistoryRow)
  | events (chosen : EventRow → Bool) (put : EventRow → Option EventRow)
  | proofs (chosen : StoredProof → Bool) (put : StoredProof → Option StoredProof)

/-- The statement that deletes all rows of a ledger. -/
def Statement.deleteAll? : Table → Option Statement
  | .versions => some (.versions (fun _ => true) fun _ => none)
  | .history => some (.history (fun _ => true) fun _ => none)
  | .events => some (.events (fun _ => true) fun _ => none)
  | .proofs => some (.proofs (fun _ => true) fun _ => none)
  | .files | .components | .symbols | .globals => none

/-- An edit sets a column of a ledger or deletes its rows. -/
def Edit.isOnLedger : Edit → Bool
  | .setColumn table .. | .clear table => table.isLedger
  | _ => false

namespace Store

/-- The store after a statement, or the fault for which it is refused. -/
def execute (store : Store) : Statement → Except EditFault Store
  | .versions chosen put =>
    (sweep .versions chosen put store.versions).map fun versions => { store with versions }
  | .history chosen put =>
    (sweep .history chosen put store.history).map fun history => { store with history }
  | .events chosen put =>
    (sweep .events chosen put store.events).map fun events => { store with events }
  | .proofs chosen put =>
    (sweep .proofs chosen put store.proofs).map fun proofs => { store with proofs }

/-- The store after something that may be refused. What is refused leaves it as it was. -/
def afterwards (store : Store) : Except EditFault Store → Store
  | .ok after => after
  | .error _ => store

/-- A step: an operation, or an attempt to change or delete rows of a ledger. -/
inductive Moves (store : Store) : Store → Prop
  | operate (parse : Parser) (operation : Operation) (now : Int) :
      Moves store (store.perform parse operation now).2
  | edit (edit : Edit) (hledger : edit.isOnLedger) :
      Moves store (store.afterwards ((store.edit edit).map Prod.fst))
  | execute (statement : Statement) : Moves store (store.afterwards (store.execute statement))

/-- Every ledger begins with the rows it had before. -/
structure LedgersGrow (store after : Store) : Prop where
  versions : store.versions <+: after.versions
  history : store.history <+: after.history
  events : store.events <+: after.events
  proofs : store.proofs <+: after.proofs

/-- Every table begins with the rows it had before. Only the row of a file with a path may be
another one, which has the same number, the same path and the same time of creation. -/
structure Preserves (path : String) (store after : Store) : Prop extends
    LedgersGrow store after where
  files : ∃ kept new, after.files = kept ++ new ∧
    List.Forall₂ (fun before row : StoredFile => row = before ∨
      (before.path = path ∧ row.id = before.id ∧ row.path = before.path ∧
        row.createdAt = before.createdAt)) store.files kept
  components : store.components <+: after.components
  segments : store.segments <+: after.segments
  symbols : store.symbols <+: after.symbols
  calls : store.calls <+: after.calls
  imports : store.imports <+: after.imports
  globals : store.globals <+: after.globals
  decorators : store.decorators <+: after.decorators

variable {store after later : Store} {parse : Parser} {path : String} {now : Int}

theorem LedgersGrow.refl (store : Store) : store.LedgersGrow store :=
  ⟨List.prefix_rfl, List.prefix_rfl, List.prefix_rfl, List.prefix_rfl⟩

theorem LedgersGrow.trans (h : store.LedgersGrow after) (hlater : after.LedgersGrow later) :
    store.LedgersGrow later :=
  ⟨h.versions.trans hlater.versions, h.history.trans hlater.history, h.events.trans hlater.events,
    h.proofs.trans hlater.proofs⟩

theorem execute_ok {statement : Statement} (h : store.execute statement = .ok after) :
    after = store := by
  have hkept {α : Type} {rows : List α} {touched : Bool} {fault : EditFault} {put : List α → Store}
      (hresult : (if touched then .error fault else .ok rows : Except EditFault (List α)).map put =
        .ok after) : after = put rows := by
    cases touched with
    | true => simp [Except.map] at hresult
    | false => exact (Except.ok.inj hresult).symm
  cases statement with
  | versions chosen put =>
    rw [execute, sweep_ledger rfl] at h
    exact hkept h
  | history chosen put =>
    rw [execute, sweep_ledger rfl] at h
    exact hkept h
  | events chosen put =>
    rw [execute, sweep_ledger rfl] at h
    exact hkept h
  | proofs chosen put =>
    rw [execute, sweep_ledger rfl] at h
    exact hkept h

/-- Clearing a ledger is the statement that deletes all its rows. -/
theorem clear_eq_execute {table : Table} {statement : Statement}
    (h : Statement.deleteAll? table = some statement) :
    (store.clear table).map Prod.fst = store.execute statement := by
  have hcleared {α : Type} (rows : List α) (put : List α → Store) (hput : put rows = store) :
      (store.clearLedger table rows).map Prod.fst =
        (if rows.any (fun _ => true) then .error (.appendOnly table) else .ok rows :
          Except EditFault (List α)).map put := by
    cases rows with
    | nil => simp [clearLedger, Except.map, hput]
    | cons row rest => rfl
  cases table with
  | versions =>
    obtain rfl := Option.some.inj h
    rw [execute, sweep_ledger rfl]
    exact hcleared _ _ rfl
  | history =>
    obtain rfl := Option.some.inj h
    rw [execute, sweep_ledger rfl]
    exact hcleared _ _ rfl
  | events =>
    obtain rfl := Option.some.inj h
    rw [execute, sweep_ledger rfl]
    exact hcleared _ _ rfl
  | proofs =>
    obtain rfl := Option.some.inj h
    rw [execute, sweep_ledger rfl]
    exact hcleared _ _ rfl
  | files | components | symbols | globals => simp [Statement.deleteAll?] at h

theorem prefix_addEvents (store : Store) (fileId : Int) (versionId : Nat)
    (previousId : Option Nat) (now : Int) (changes : List DriftChange) :
    store.events <+: (store.addEvents fileId versionId previousId now changes).events := by
  induction changes generalizing store with
  | nil => exact List.prefix_rfl
  | cons change rest ih =>
    rw [addEvents, List.foldl_cons, ← addEvents]
    refine List.IsPrefix.trans ?_ (ih _)
    unfold addEvent
    split
    · exact List.prefix_rfl
    · exact List.prefix_append _ _

theorem setColumn_ledger {table : Table} (htable : table.isLedger) {column : String}
    {value only : Option String} {count : Nat}
    (h : store.setColumn table column value only = .ok (after, count)) : after = store := by
  have hchange {change : Change} {touched : Bool}
      (hresult : store.changeLedger change touched = .ok (after, count)) : after = store := by
    rw [changeLedger] at hresult
    split at hresult
    · simp at hresult
    · exact (Prod.mk.inj (Except.ok.inj hresult)).1.symm
  rw [setColumn] at h
  cases hcolumn : table.column? column with
  | none => simp [hcolumn] at h
  | some found =>
    rw [hcolumn] at h
    cases table with
    | versions => exact hchange h
    | history => exact hchange h
    | events => exact hchange h
    | proofs => exact hchange h
    | files | components | symbols | globals => simp [Table.isLedger] at htable

theorem edit_ledger {edit : Edit} {count : Nat} (hledger : edit.isOnLedger)
    (h : store.edit edit = .ok (after, count)) : after = store := by
  cases edit with
  | setColumn table column value only => exact setColumn_ledger hledger h
  | clear table =>
    have hstatement : ∃ statement, Statement.deleteAll? table = some statement := by
      cases table with
      | versions | history | events | proofs => exact ⟨_, rfl⟩
      | files | components | symbols | globals => simp [Edit.isOnLedger, Table.isLedger] at hledger
    obtain ⟨statement, hstatement⟩ := hstatement
    have hcleared : store.clear table = .ok (after, count) := h
    have hexecuted : store.execute statement = .ok after := by
      rw [← clear_eq_execute hstatement, hcleared]
      rfl
    exact execute_ok hexecuted
  | replaceText _ _ | insertFile _ _ _ _ _ | insertProof _ => simp [Edit.isOnLedger] at hledger

/-- Attempts to change or delete rows of a ledger leave the whole store as it is. -/
theorem Moves.eq_or_operate (h : store.Moves after) :
    after = store ∨ ∃ parse operation now, after = (store.perform parse operation now).2 := by
  cases h with
  | operate parse operation now => exact .inr ⟨parse, operation, now, rfl⟩
  | edit edit hledger =>
    left
    cases hresult : store.edit edit with
    | error fault => rfl
    | ok result => exact edit_ledger hledger hresult
  | execute statement =>
    left
    cases hresult : store.execute statement with
    | error fault => rfl
    | ok result => exact execute_ok hresult

/-- What an ingestion does to a store: nothing, or it commits a version. -/
theorem perform_ingest (store : Store) (parse : Parser) (options : ExtractOptions)
    (path text : String) (now : Int) :
    (store.perform parse (.ingest options path text) now).2 = store ∨
      ∃ extraction file, extract path text (parse text) options = .ok extraction ∧
        store.file? path = .ok file ∧
        (store.perform parse (.ingest options path text) now).2 =
          store.commit (store.stage file extraction now) := by
  cases hresult : store.ingest parse options path text now with
  | error failure => exact .inl (by rw [perform, hresult]; rfl)
  | ok result =>
    obtain ⟨report, after⟩ := result
    obtain ⟨extraction, file, hextract, hfile, _, _, hafter⟩ := ingest_ok hresult
    rw [path_of_extract hextract] at hfile
    refine .inr ⟨extraction, file, hextract, hfile, ?_⟩
    rw [perform, hresult, ← hafter]
    rfl

/-- A verification adds one proof and nothing else, or fails and adds nothing. -/
theorem perform_verify (store : Store) (parse : Parser) (path : String) (now : Int) :
    (∃ failure, store.perform parse (.verify path) now = (.failed failure, store)) ∨
      ∃ outcome proof, store.perform parse (.verify path) now =
        (.verified outcome, { store with proofs := store.proofs ++ [proof] }) := by
  cases hresult : store.verify parse path now with
  | error failure => exact .inl ⟨failure, by rw [perform, hresult]; rfl⟩
  | ok result =>
    obtain ⟨outcome, after⟩ := result
    obtain ⟨_, _, _, _, _, _, _, rfl⟩ := verify_ok hresult
    exact .inr ⟨outcome, _, by rw [perform, hresult]; rfl⟩

/-- A detection adds events and nothing else. -/
theorem perform_detect (store : Store) (parse : Parser) (path : String) (number : Option Nat)
    (now : Int) :
    ∃ new, (store.perform parse (.detect path number) now).2 =
      { store with events := store.events ++ new } := by
  cases hresult : store.detect path number now with
  | error failure => exact ⟨[], by simp [perform, hresult, settle]⟩
  | ok result =>
    obtain ⟨report, after⟩ := result
    obtain ⟨file, version, _, _, _, rfl⟩ := detect_ok hresult
    obtain ⟨new, hnew⟩ := store.prefix_addEvents file.id version.id version.previousId now
      report.changes
    refine ⟨new, ?_⟩
    simp only [perform, hresult, settle]
    rw [addEvents_eq, hnew]

theorem ledgersGrow_commit (store : Store) (staging : Staging) :
    store.LedgersGrow (store.commit staging) := by
  have hevents : store.events <+: (store.commit staging).events := by
    refine List.IsPrefix.trans ?_ (prefix_addEvents _ _ _ _ _ _)
    exact List.prefix_rfl
  rw [commit_eq]
  exact ⟨List.prefix_append _ _, List.prefix_append _ _, hevents, List.prefix_rfl⟩

/-- Operations write behind the rows of the ledgers, whatever is in the store. -/
theorem ledgersGrow_perform (store : Store) (parse : Parser) (operation : Operation) (now : Int) :
    store.LedgersGrow (store.perform parse operation now).2 := by
  cases operation with
  | ingest options path text =>
    rcases store.perform_ingest parse options path text now with hsame | ⟨_, _, _, _, hafter⟩
    · rw [hsame]
      exact .refl store
    · rw [hafter]
      exact store.ledgersGrow_commit _
  | verify path =>
    rcases store.perform_verify parse path now with ⟨_, hafter⟩ | ⟨_, proof, hafter⟩
    · rw [hafter]
      exact .refl store
    · rw [hafter]
      exact ⟨List.prefix_rfl, List.prefix_rfl, List.prefix_rfl, List.prefix_append _ _⟩
  | detect path number =>
    obtain ⟨new, hafter⟩ := store.perform_detect parse path number now
    rw [hafter]
    exact ⟨List.prefix_rfl, List.prefix_rfl, List.prefix_append _ _, List.prefix_rfl⟩

theorem Moves.ledgersGrow (h : store.Moves after) : store.LedgersGrow after := by
  rcases h.eq_or_operate with rfl | ⟨parse, operation, now, rfl⟩
  · exact .refl _
  · exact store.ledgersGrow_perform parse operation now

/-- Whatever is tried in a run, every ledger begins with the rows it had before. -/
theorem ledgersGrow_run (h : Relation.ReflTransGen Moves store after) :
    store.LedgersGrow after := by
  induction h with
  | refl => exact .refl store
  | tail _ hmoves ih => exact ih.trans hmoves.ledgersGrow

/-- Attempts on the ledgers lead to no other stores than operations do. -/
theorem reachable_run (h : Relation.ReflTransGen Moves {} store) : store.Reachable := by
  induction h with
  | refl => exact .empty
  | tail _ hmoves ih =>
    rcases hmoves.eq_or_operate with rfl | ⟨parse, operation, now, rfl⟩
    · exact ih
    · exact ih.perform parse operation now

end Store

namespace Chronicle

variable {log : List Snapshot} {store : Store}

/-- The files after a version is put in: all rows stay but that of its path, which keeps its number
and its time. -/
theorem putFile (h : Chronicle log store) (extraction : Extraction) (now : Int) :
    ∃ kept new, Store.putFile store.files
        (store.stage ((latest? log extraction.path).map (·.fileRow)) extraction now) =
          kept ++ new ∧
      List.Forall₂ (fun before row : StoredFile => row = before ∨
        (before.path = extraction.path ∧ row.id = before.id ∧ row.path = before.path ∧
          row.createdAt = before.createdAt)) store.files kept := by
  rw [h.stage_eq]
  unfold Store.putFile
  split
  · refine ⟨_, [], (List.append_nil _).symm, ?_⟩
    rw [List.forall₂_map_right_iff, List.forall₂_same]
    intro row hrow
    split
    · rename_i hid
      right
      obtain ⟨last, hlast, rfl⟩ := h.exists_latest?_of_file hrow
      obtain ⟨hmem, hpath⟩ := Snapshot.mem_of_latest? hlast
      cases hlatest : latest? log extraction.path with
      | none =>
        -- A new file gets a number that no row has.
        rw [hlatest] at hid
        have hnext : last.fileRow.stored.id = nextId (store.files.map (·.id)) := hid
        exact absurd (hnext ▸ List.mem_map_of_mem hrow) h.files.nextId_not_mem
      | some old =>
        obtain ⟨hold, hother⟩ := Snapshot.mem_of_latest? hlatest
        rw [hlatest] at hid
        have hsame : last.extraction.path = old.extraction.path :=
          (h.fileId_eq_iff hmem hold).1 hid
        have hrowPath : last.fileRow.stored.path = extraction.path := hsame.trans hother
        rw [hrowPath, hlatest, Option.some.injEq] at hlast
        subst hlast
        exact ⟨hrowPath, rfl, hother.symm, rfl⟩
    · exact .inl rfl
  · exact ⟨_, _, rfl, List.forall₂_same.2 fun _ _ => .inl rfl⟩

/-- An ingestion leaves all rows alone but that of its file. -/
theorem preserves_ingest (h : Chronicle log store) (parse : Parser) (options : ExtractOptions)
    (path text : String) (now : Int) :
    store.Preserves path (store.perform parse (.ingest options path text) now).2 := by
  have hledgers := store.ledgersGrow_perform parse (.ingest options path text) now
  rcases store.perform_ingest parse options path text now with
    hsame | ⟨extraction, file, hextract, hfile, hafter⟩
  · rw [hsame]
    exact
      { Store.LedgersGrow.refl store with
        files := ⟨_, [], (List.append_nil _).symm, List.forall₂_same.2 fun _ _ => .inl rfl⟩
        components := List.prefix_rfl
        segments := List.prefix_rfl
        symbols := List.prefix_rfl
        calls := List.prefix_rfl
        imports := List.prefix_rfl
        globals := List.prefix_rfl
        decorators := List.prefix_rfl }
  · obtain rfl := path_of_extract hextract
    rw [h.file?, Except.ok.injEq] at hfile
    have hfiles := h.putFile extraction now
    rw [hfile] at hfiles
    rw [hafter] at hledgers ⊢
    rw [Store.commit_eq] at hledgers ⊢
    exact
      { hledgers with
        files := hfiles
        components := List.prefix_append _ _
        segments := List.prefix_append _ _
        symbols := List.prefix_append _ _
        calls := List.prefix_append _ _
        imports := List.prefix_append _ _
        globals := List.prefix_append _ _
        decorators := List.prefix_append _ _ }

end Chronicle

namespace Store

/-- The history is append-only. After any run of operations and of attempts to change or delete rows
of ledgers, every ledger begins with the rows it had before the run. In a store that such steps lead
to, an ingestion changes no row but that of its file, whose number, path and time of creation stay;
a verification adds one proof and nothing else, or fails and adds nothing; and a detection adds
events and nothing else. -/
theorem ledgers_append_only :
    (∀ store after : Store, Relation.ReflTransGen Moves store after → store.LedgersGrow after) ∧
    ∀ store : Store, Relation.ReflTransGen Moves {} store → ∀ (parse : Parser) (now : Int),
      (∀ options path text,
        store.Preserves path (store.perform parse (.ingest options path text) now).2) ∧
      (∀ path, (∃ failure, store.perform parse (.verify path) now = (.failed failure, store)) ∨
        ∃ outcome proof, store.perform parse (.verify path) now =
          (.verified outcome, { store with proofs := store.proofs ++ [proof] })) ∧
      ∀ path number, ∃ new, (store.perform parse (.detect path number) now).2 =
        { store with events := store.events ++ new } := by
  refine ⟨fun _ _ => ledgersGrow_run, fun store h parse now => ?_⟩
  obtain ⟨log, hlog⟩ := (reachable_run h).chronicle
  refine ⟨fun options path text => hlog.preserves_ingest parse options path text now, ?_, ?_⟩
  · exact fun path => store.perform_verify parse path now
  · exact fun path number => store.perform_detect parse path number now

theorem ledgers_append_only_reinstated :
    ∃ after, Relation.ReflTransGen Moves removed after ∧ after.versions.length = 3 ∧
      removed.LedgersGrow after ∧ removed.Preserves "a.py" reinstated := by
  have hempty : Relation.ReflTransGen Moves {} removed :=
    (Relation.ReflTransGen.single (.operate _ _ _)).tail (.operate _ _ _)
  -- A version is added, and then all versions shall be deleted.
  have hrun : Relation.ReflTransGen Moves removed
      (reinstated.afterwards (reinstated.execute (.versions (fun _ => true) fun _ => none))) :=
    (Relation.ReflTransGen.single (.operate _ _ _)).tail (.execute _)
  refine ⟨_, hrun, by decide +kernel, ledgers_append_only.1 _ _ hrun, ?_⟩
  exact (ledgers_append_only.2 removed hempty sampleParser 3).1 {} "a.py" Extraction.accentedText

end Store

end SourceLedger
