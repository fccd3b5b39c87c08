import SourceLedger.Fact

/-!
# Extractions

An extraction is everything that is taken from one source text: its components, each with its
place among the others and its exact text, and the facts about them. Components stand in the order
in which they open, so a parent stands before its children, and facts refer to their component by
its position.
-/

namespace SourceLedger

/-- A component of a source text. -/
structure Component where
  /-- The position of the enclosing component, if there is one. -/
  parent : Option Nat
  kind : ComponentKind
  name : String
  /-- The name in full, unique in its file once names are given. -/
  qualifiedName : String
  /-- The position among the components with the same parent. -/
  orderIndex : Nat
  depth : Nat
  firstLine : Nat
  lastLine : Nat
  start : Nat
  stop : Nat
  contentHash : String
  structureHash : String
  signature : Option String
  segment : Segment
  deriving DecidableEq, Repr, Inhabited

/-- The components of a source text and the facts about them. -/
structure Findings where
  components : List Component := []
  symbols : List (Owned SymbolUse) := []
  calls : List (Owned CallSite) := []
  imports : List (Owned ImportRecord) := []
  globals : List (Owned GlobalAccess) := []
  decorators : List (Owned Decorator) := []
  /-- The number of texts and gaps whose bytes could not be cut out of the source. -/
  missingSegments : Nat := 0
  deriving DecidableEq, Repr, Inhabited

namespace Findings

/-- The positions of the components at top level. -/
def topLevel (findings : Findings) : List Nat :=
  (findings.components.zipIdx.filter (·.1.parent.isNone)).map (·.2)

/-- The text that the components at top level make up. -/
def reconstruct (findings : Findings) : String :=
  Segment.join ((findings.components.filter (·.parent.isNone)).map (·.segment))

end Findings

/-- Everything taken from one source text. -/
structure Extraction extends Findings where
  path : String
  rawHash : String
  treeHash : String
  sizeBytes : Nat
  deriving DecidableEq, Repr, Inhabited

/-- What an extraction may and should do. -/
structure ExtractOptions where
  duplicateNames : DuplicatePolicy := .suffix
  /-- Whether uses of local names are recorded. -/
  recordReads : Bool := true
  deriving DecidableEq, Repr, Inhabited

end SourceLedger
