import SourceLedger.Store.Snapshot

/-!
# Detecting drift again

The drift of a version is found when the version is written, and can be found again later from
what is stored. Events that are there already stay as they are; only names without an event get
one.
-/

namespace SourceLedger.Store

/-- The drift of a stored version from the one before, as the stored rows have it. -/
def driftOf (store : Store) (version : VersionRow) : DriftReport :=
  match version.previousId with
  | some previousId => Drift.compare (store.facts previousId) (store.facts version.id)
  | none => Drift.baseline (store.facts version.id)

/-- Finds the drift of a version of a file, the latest if none is named, and adds the events that
are missing. -/
def detectDrift (store : Store) (fileId : Int) (number : Option Nat) (now : Int) :
    Except Failure (DriftReport × Store) :=
  match store.version? fileId number with
  | some version =>
    let report := store.driftOf version
    .ok (report, store.addEvents fileId version.id version.previousId now report.changes)
  | none =>
    let wanted := number.elim "yet" toString
    .error (.unknownFile s!"file {fileId} has no version {wanted}")

end SourceLedger.Store
