import SourceLedger.Extraction
import SourceLedger.Store.Detection
import SourceLedger.Store.Statistics
import SourceLedger.Store.Verification

/-!
# The ledger

What can be asked of a store by path. Three operations add to it: a text is ingested as the next
version of its path, the latest version is verified, and the drift of a version is detected. Each
happens at a given time, and one that fails leaves the store as it was. All other questions only
read. A journal is a list of operations with their times; `Store.replay` runs one.
-/

namespace SourceLedger

namespace Store

variable (store : Store)

/-- Ingests a text as the next version of a path. -/
def ingest (parse : Parser) (options : ExtractOptions) (path text : String) (now : Int) :
    Except Failure (IngestReport × Store) := do
  store.write (← extract path text (parse text) options) now

/-- Verifies the latest version of a path. -/
def verify (parse : Parser) (path : String) (now : Int) :
    Except Failure (VerifyOutcome × Store) := do
  let file ← store.requireFile path
  verifyFile parse store file.id now

/-- Detects the drift of a version of a path, of the latest if none is named. -/
def detect (path : String) (number : Option Nat) (now : Int) :
    Except Failure (DriftReport × Store) := do
  let file ← store.requireFile path
  store.detectDrift file.id number now

/-- The components of a version of a path. -/
def listComponents (path : String) (number : Option Nat) :
    Except Failure (List ComponentRecord) := do
  let version ← store.requireVersion path number
  (store.componentsOf version.id).mapError .database

/-- The component of the latest version of a path with a qualified name. -/
def findComponent (path qualifiedName : String) : Except Failure (Option ComponentRecord) := do
  let version ← store.requireVersion path none
  (store.component? version.id qualifiedName).mapError .database

/-- The events of a path, of one version or of all. -/
def listEvents (path : String) (number : Option Nat) : Except Failure (List EventRow) := do
  let file ← store.requireFile path
  match number with
  | some _ =>
    let version ← store.requireVersion path number
    return store.eventsOf file.id (some version.id)
  | none => return store.eventsOf file.id none

/-- What the versions of a path recorded about a name. -/
def listHistory (path qualifiedName : String) : Except Failure (List HistoryEntry) := do
  let file ← store.requireFile path
  return store.historyOf file.id qualifiedName

/-- The proofs of a path. -/
def listProofs (path : String) : Except Failure (List ProofRecord) := do
  let file ← store.requireFile path
  (store.proofsOf file.id).mapError .database

/-- The text of the latest version of a path, put together from its stored pieces. -/
def reconstruct (path : String) : Except Failure String := do
  let version ← store.requireVersion path none
  return store.rebuilt version.id

end Store

/-- An operation that adds to a store. -/
inductive Operation where
  | ingest (options : ExtractOptions) (path text : String)
  | verify (path : String)
  | detect (path : String) (number : Option Nat)
  deriving DecidableEq, Repr, Inhabited

/-- The path that an operation is about. -/
def Operation.path : Operation → String
  | ingest _ path _ | verify path | detect path _ => path

/-- What an operation answers. -/
inductive Outcome where
  | ingested (report : IngestReport)
  | verified (outcome : VerifyOutcome)
  | drifted (report : DriftReport)
  | failed (failure : Failure)
  deriving DecidableEq, Repr

namespace Store

/-- An outcome and the store after it. A failure leaves the store as it was. -/
def settle {α : Type} (store : Store) (outcome : α → Outcome) :
    Except Failure (α × Store) → Outcome × Store
  | .ok (result, store) => (outcome result, store)
  | .error failure => (.failed failure, store)

/-- Carries out an operation at a time. -/
def perform (parse : Parser) (store : Store) (operation : Operation) (now : Int) :
    Outcome × Store :=
  match operation with
  | .ingest options path text =>
    store.settle .ingested (store.ingest parse options path text now)
  | .verify path => store.settle .verified (store.verify parse path now)
  | .detect path number => store.settle .drifted (store.detect path number now)

/-- The store after a journal of operations with their times. -/
def replay (parse : Parser) (store : Store) (journal : List (Operation × Int)) : Store :=
  journal.foldl (fun store (operation, now) => (store.perform parse operation now).2) store

end Store

end SourceLedger
