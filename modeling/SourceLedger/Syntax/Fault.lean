import SourceLedger.Syntax.Node

/-!
# Parse faults

A text that does not parse still has a tree, in which the parser marked what it could not place
and what it had to invent. `firstFault?` looks for the first such node and descends only where a
node says that there is something to find.
-/

namespace SourceLedger.Syntax

namespace Node

/-- A node that the parser invented or could not place. -/
def isFault (node : Node) : Bool :=
  node.attributes.faulty || node.attributes.missing

mutual

/-- The first fault of a tree, a node before its children. -/
def firstFault? : Node → Option Node
  | mk attributes children =>
    if (mk attributes children).isFault then some (mk attributes children)
    else if attributes.hasFault then firstFaultOfAll? children
    else none

/-- The first fault of a row of trees. -/
def firstFaultOfAll? : List Node → Option Node
  | [] => none
  | node :: rest =>
    match node.firstFault? with
    | some fault => some fault
    | none => firstFaultOfAll? rest

end

end Node

namespace Tree

/-- What is wrong with a text that does not parse, and where. Columns count bytes from one. -/
def describeFault (tree : Tree) : String :=
  match tree.root.firstFault? with
  | none => "syntax error"
  | some node =>
    let place := s!"at line {tree.lines.row node.start + 1}, " ++
      s!"column {tree.lines.column node.start + 1}"
    if node.attributes.missing then s!"missing `{node.kind}` {place}"
    else s!"syntax error {place}"

end Tree

end SourceLedger.Syntax
