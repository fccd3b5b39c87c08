import SourceLedger.Extraction.Naming
import SourceLedger.Extraction.Recorder
import SourceLedger.Failure
import SourceLedger.Outline.Trace
import SourceLedger.Syntax.Fault

/-!
# Extracting a source text

`extract` turns a source text and its syntax tree into an extraction with full names, or says why
it cannot: the text does not parse, or a duplicate name is refused. The two halves are `staged`,
which follows the events of the tree, and `named`, which gives names. The parser itself is given
from outside, as a function from texts to trees.
-/

namespace SourceLedger

/-- A parser gives every text a syntax tree, in which the faults of the text are marked. -/
abbrev Parser := String → Syntax.Tree

/-- Accepts a tree without faults. -/
def checkTree (path : String) (tree : Syntax.Tree) : Except Failure Syntax.Tree :=
  if tree.root.attributes.hasFault then .error (.unparsable path tree.describeFault) else .ok tree

/-- The digest of the canonical form of a text's tree. -/
def treeDigest (path text : String) (tree : Syntax.Tree) : Except Failure String := do
  let tree ← checkTree path tree
  return digest (tree.root.canonical text)

namespace Extraction

/-- What a tree says about a source text, before names are given. The tree may have been parsed
from another text; bytes that cannot be cut out of the source are counted as missing. -/
def staged (path source : String) (tree : Syntax.Tree) (recordReads : Bool) : Extraction :=
  let events := Outline.moduleEvents ⟨source, tree.lines⟩ tree.root
  { (Recorder.run recordReads {} events).findings with
    path
    rawHash := digest source
    treeHash := digest (tree.root.canonical source)
    sizeBytes := source.utf8ByteSize }

/-- The extraction with names given. -/
def named (extraction : Extraction) (policy : DuplicatePolicy) : Except Failure Extraction :=
  match Naming.assign policy extraction.components with
  | .ok components => .ok { extraction with components }
  | .error qualifiedName => .error (.ambiguousName extraction.path qualifiedName)

end Extraction

/-- The extraction of a source text with its tree. -/
def extract (path text : String) (tree : Syntax.Tree) (options : ExtractOptions) :
    Except Failure Extraction := do
  let tree ← checkTree path tree
  (Extraction.staged path text tree options.recordReads).named options.duplicateNames

end SourceLedger
