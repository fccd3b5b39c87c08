import SourceLedger.Text.Slice
import SourceLedger.Text.LineMap
import SourceLedger.Text.Utf8
import SourceLedger.Text.Quoted
import SourceLedger.Text.WordChar
import SourceLedger.Digest
import SourceLedger.Json
import SourceLedger.Fact
import SourceLedger.Syntax.Preorder
import SourceLedger.Syntax.Fault
import SourceLedger.Syntax.Compact
import SourceLedger.Syntax.Canonical
import SourceLedger.Failure
import SourceLedger.Syntax.Construct
import SourceLedger.Outline.Imports
import SourceLedger.Outline.Event
import SourceLedger.Outline.Trace
import SourceLedger.Extraction.Recorder
import SourceLedger.Extraction
import SourceLedger.Drift.Report
import SourceLedger.Identity
import SourceLedger.Settings
import SourceLedger.Store.Query
import SourceLedger.Store.Snapshot
import SourceLedger.Store.Detection
import SourceLedger.Store.Verification
import SourceLedger.Store.Statistics
import SourceLedger.Store.Edit
import SourceLedger.Ledger
import SourceLedger.Disk
import SourceLedger.Workspace
import SourceLedger.Report
import SourceLedger.Text.Timestamp
import SourceLedger.Text.Size
import SourceLedger.Command.Arguments
import SourceLedger.Command.Display
import SourceLedger.Command.Run
import SourceLedger.Json.Reader
import SourceLedger.Journal
import SourceLedger.Main
import SourceLedger.Proofs.Nesting
import SourceLedger.Proofs.Recording
import SourceLedger.Proofs.Sighting
import SourceLedger.Proofs.Increment
import SourceLedger.Proofs.Reads
import SourceLedger.Proofs.Scoping
import SourceLedger.Proofs.Bindings
import SourceLedger.Proofs.Globals
import SourceLedger.Proofs.Beginnings
import SourceLedger.Proofs.Accord
import SourceLedger.Proofs.Naming
import SourceLedger.Proofs.Suffixes
import SourceLedger.Proofs.Refusal
import SourceLedger.Proofs.Arena
import SourceLedger.Proofs.Tour
import SourceLedger.Proofs.Enclosure
import SourceLedger.Proofs.Attribution
import SourceLedger.Proofs.Ways
import SourceLedger.Proofs.Placement
import SourceLedger.Proofs.Callsites
import SourceLedger.Proofs.Tiling
import SourceLedger.Proofs.Chronicle
import SourceLedger.Proofs.Tables
import SourceLedger.Proofs.Succession
import SourceLedger.Proofs.Integrity
import SourceLedger.Proofs.Ingestion
import SourceLedger.Proofs.Fidelity
import SourceLedger.Proofs.Comparison
import SourceLedger.Proofs.Appending
import SourceLedger.Proofs.ByteOrder
import SourceLedger.Proofs.Outcomes
import SourceLedger.Proofs.Symmetry
import SourceLedger.Proofs.Reingestion
import SourceLedger.Proofs.Provenance
import SourceLedger.Proofs.Readback
import SourceLedger.Proofs.Commitment
import SourceLedger.Proofs.Detection
import SourceLedger.Proofs.Differences
import SourceLedger.Proofs.Lineage
import SourceLedger.Proofs.Growth
import SourceLedger.Proofs.Tally
import SourceLedger.Proofs.Agreement
import SourceLedger.Proofs.Account
import SourceLedger.Proofs.Isolation
import SourceLedger.Proofs.Tampering
import SourceLedger.Proofs.Canonical
import SourceLedger.Proofs.Layout
import SourceLedger.Proofs.Likeness
import SourceLedger.Proofs.Reading
import SourceLedger.Proofs.Independence
import SourceLedger.Proofs.Recovery
import SourceLedger.Proofs.Layers
import SourceLedger.Proofs.Listing
import SourceLedger.Proofs.Redetection
import SourceLedger.Proofs.Importing
import SourceLedger.Proofs.Keys
import SourceLedger.Proofs.Faults
import SourceLedger.Proofs.Levels
import SourceLedger.Proofs.Depth
import SourceLedger.Proofs.Spans
