import SourceLedger.Json
import SourceLedger.Ledger

/-!
# Records as JSON

How the records of a store and the results of operations are shown to other programs: one JSON
record each, with a field for every column.
-/

namespace SourceLedger

/-- A file. -/
def FileRow.json (row : FileRecord) : Json :=
  .record [
    ("id", .int row.id),
    ("path", .text row.path),
    ("raw_hash", .text row.rawHash),
    ("tree_hash", .text row.treeHash),
    ("size_bytes", .nat row.sizeBytes),
    ("created_at", .int row.createdAt),
    ("updated_at", .int row.updatedAt)]

/-- A version. -/
def VersionRow.json (row : VersionRow) : Json :=
  .record [
    ("id", .nat row.id),
    ("file_id", .int row.fileId),
    ("version_number", .nat row.number),
    ("previous_version_id", .nat? row.previousId),
    ("raw_hash", .text row.rawHash),
    ("tree_hash", .text row.treeHash),
    ("size_bytes", .nat row.sizeBytes),
    ("component_count", .nat row.componentCount),
    ("change_summary", .text row.changeSummary),
    ("created_at", .int row.createdAt)]

/-- A component. -/
def ComponentRow.json (row : ComponentRecord) : Json :=
  .record [
    ("id", .nat row.id),
    ("file_id", .int row.fileId),
    ("version_id", .nat row.versionId),
    ("parent_id", .nat? row.parentId),
    ("kind", .text row.kind.name),
    ("name", .text row.name),
    ("qualified_name", .text row.qualifiedName),
    ("order_index", .nat row.orderIndex),
    ("depth", .nat row.depth),
    ("start_line", .nat row.firstLine),
    ("end_line", .nat row.lastLine),
    ("content_hash", .text row.contentHash),
    ("structure_hash", .text row.structureHash),
    ("committed_hash", .text row.committedHash),
    ("committed_at", .int row.committedAt),
    ("signature", .text? row.signature),
    ("resolution", .text row.resolution.name)]

/-- The stored text of a component. -/
def Segment.json (componentId : Nat) (segment : Segment) : Json :=
  .record [
    ("component_id", .nat componentId),
    ("leading", .text segment.leading),
    ("text", .text segment.text),
    ("trailing", .text segment.trailing)]

/-- A use of a name in a component. -/
def SymbolUse.json (componentId : Nat) (symbol : SymbolUse) : Json :=
  .record [
    ("component_id", .nat componentId),
    ("name", .text symbol.name),
    ("scope", .text symbol.scope.name),
    ("access", .text symbol.access.name),
    ("scope_level", .nat symbol.level),
    ("line", .nat symbol.line),
    ("type_annotation", .text? symbol.typeText)]

/-- A call in a component. -/
def CallSite.json (componentId : Nat) (call : CallSite) : Json :=
  .record [
    ("component_id", .nat componentId),
    ("callee", .text call.callee),
    ("line", .nat call.line)]

/-- An import in a component. -/
def ImportRecord.json (componentId : Nat) (record : ImportRecord) : Json :=
  .record [
    ("component_id", .nat componentId),
    ("module", .text record.modulePath),
    ("name", .text? record.name),
    ("alias", .text? record.asName),
    ("level", .nat record.level),
    ("is_from", .bool record.isFrom),
    ("line", .nat record.line)]

/-- A change of a global variable in a component. -/
def GlobalAccess.json (componentId : Nat) (access : GlobalAccess) : Json :=
  .record [
    ("component_id", .nat componentId),
    ("name", .text access.name),
    ("access", .text access.access.name),
    ("line", .nat access.line)]

/-- A decorator of a component. -/
def Decorator.json (componentId : Nat) (decorator : Decorator) : Json :=
  .record [
    ("component_id", .nat componentId),
    ("position", .nat decorator.position),
    ("name", .text decorator.name),
    ("text", .text decorator.text),
    ("line", .nat decorator.line)]

/-- What a version recorded about a component. -/
def HistoryEntry.json (entry : HistoryEntry) : Json :=
  .record [
    ("component_id", .nat entry.componentId),
    ("version_id", .nat entry.versionId),
    ("version_number", .nat entry.versionNumber),
    ("qualified_name", .text entry.qualifiedName),
    ("change", .text entry.change.name),
    ("resolution", .text entry.resolution.name),
    ("content_hash", .text entry.contentHash),
    ("structure_hash", .text entry.structureHash),
    ("committed_hash", .text entry.committedHash),
    ("committed_at", .int entry.committedAt)]

/-- A difference of a version from the one before. -/
def EventRow.json (row : EventRow) : Json :=
  .record [
    ("id", .nat row.id),
    ("file_id", .int row.fileId),
    ("version_id", .nat row.versionId),
    ("previous_version_id", .nat? row.previousId),
    ("qualified_name", .text row.qualifiedName),
    ("kind", .text row.kind.name),
    ("category", .text row.category.name),
    ("severity", .text row.severity.name),
    ("old_value", .text? row.oldValue),
    ("new_value", .text? row.newValue),
    ("detected_at", .int row.detectedAt)]

/-- The record of a verification. -/
def ProofRow.json (row : ProofRecord) : Json :=
  .record [
    ("id", .nat row.id),
    ("file_id", .int row.fileId),
    ("version_id", .nat row.versionId),
    ("original_raw_hash", .text row.recordedRawHash),
    ("rebuilt_raw_hash", .text row.rebuiltRawHash),
    ("original_tree_hash", .text row.recordedTreeHash),
    ("rebuilt_tree_hash", .text? row.rebuiltTreeHash),
    ("raw_match", .bool row.rawMatch),
    ("tree_match", .bool row.treeMatch),
    ("matched", .bool row.matched),
    ("status", .text row.status.name),
    ("verified_at", .int row.verifiedAt)]

/-- The counts of a drift. -/
def DriftSummary.json (summary : DriftSummary) : Json :=
  .record [
    ("added", .nat summary.added),
    ("removed", .nat summary.removed),
    ("modified", .nat summary.modified),
    ("unchanged", .nat summary.unchanged)]

/-- The result of an ingestion. -/
def IngestReport.json (report : IngestReport) : Json :=
  .record [
    ("path", .text report.path),
    ("file_id", .int report.fileId),
    ("version_id", .nat report.versionId),
    ("version_number", .nat report.versionNumber),
    ("component_count", .nat report.componentCount),
    ("drift", report.drift.json),
    ("missing_segments", .nat report.missingSegments)]

/-- The result of a verification. -/
def VerifyOutcome.json (outcome : VerifyOutcome) : Json :=
  .record [
    ("file_id", .int outcome.fileId),
    ("version_number", .nat outcome.versionNumber),
    ("matched", .bool outcome.matched),
    ("raw_match", .bool outcome.rawMatch),
    ("tree_match", .bool outcome.treeMatch),
    ("raw_hash", .text outcome.rawHash),
    ("tree_hash", .text? outcome.treeHash),
    ("status", .text outcome.status.name)]

/-- The fields of the statistics of a store. -/
def Statistics.fields (statistics : Statistics) : List (String × Json) :=
  [("file_count", .nat statistics.files),
   ("version_count", .nat statistics.versions),
   ("live_components_by_kind",
     .record (statistics.liveByKind.map fun (kind, count) => (kind.name, .nat count))),
   ("component_rows", .nat statistics.components),
   ("drift_event_count", .nat statistics.events),
   ("proof_count", .nat statistics.proofs),
   ("failed_proof_count", .nat statistics.failedProofs)]

/-- The statistics of a store. -/
def Statistics.json (statistics : Statistics) : Json :=
  .record statistics.fields

end SourceLedger
