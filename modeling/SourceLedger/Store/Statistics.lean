import SourceLedger.Store.Query

/-!
# Statistics of a store

How much a store holds. A component is live if it belongs to the latest version of its file; live
components are counted by kind, and kinds that are not in the vocabulary are not counted.
-/

namespace SourceLedger

/-- How much a store holds. -/
structure Statistics where
  files : Nat
  versions : Nat
  /-- The kinds of live components that there are, with their numbers. -/
  liveByKind : List (ComponentKind × Nat)
  components : Nat
  events : Nat
  proofs : Nat
  failedProofs : Nat
  deriving DecidableEq, Repr, Inhabited

namespace Statistics

/-- The number of live components. -/
def live (statistics : Statistics) : Nat :=
  statistics.liveByKind.foldl (fun sum entry => sum + entry.2) 0

/-- The kinds of live components, the most frequent first. Kinds of equal number stay in the order
of the vocabulary. -/
def ranking (statistics : Statistics) : List (ComponentKind × Nat) :=
  statistics.liveByKind.mergeSort fun x y => y.2 ≤ x.2

end Statistics

namespace Store

variable (store : Store)

/-- Whether a component belongs to the latest version of its file. -/
def isLive (row : StoredComponent) : Bool :=
  (store.latestVersion? row.fileId).any (·.id == row.versionId)

/-- The number of live components of a kind. -/
def liveCount (kind : ComponentKind) : Nat :=
  (store.components.filter fun row => row.kind == kind.name && store.isLive row).length

/-- The statistics of a store. -/
def statistics : Statistics where
  files := store.files.length
  versions := store.versions.length
  liveByKind := (ComponentKind.all.map fun kind => (kind, store.liveCount kind)).filter (0 < ·.2)
  components := store.components.length
  events := store.events.length
  proofs := store.proofs.length
  failedProofs := (store.proofs.filter (!·.matched)).length

end Store

end SourceLedger
