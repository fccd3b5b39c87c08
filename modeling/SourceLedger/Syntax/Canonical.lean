import SourceLedger.Syntax.Node
import SourceLedger.Text.Quoted

/-!
# The canonical form of a tree

The canonical form writes a tree as nested parentheses: the kind of the node, then its children,
each behind its role and a colon if it has a role. A named atomic node is followed by its quoted
text. Extras are left out and positions are not written, so that texts which differ only in
comments and layout have one canonical form.
-/

namespace SourceLedger.Syntax

mutual

/-- The characters of a node's canonical form. -/
def Node.canonicalChars (source : String) : Node → List Char
  | .mk attributes children =>
    let node := Node.mk attributes children
    let contents :=
      if node.isAtomic then
        if node.named then ' ' :: (Text.quote ((node.text? source).getD "")).toList else []
      else canonicalCharsOfAll source children
    '(' :: node.kind.toList ++ contents ++ [')']

/-- The canonical forms of a row of children, each behind a blank and its role. -/
def Node.canonicalCharsOfAll (source : String) : List Node → List Char
  | [] => []
  | node :: rest =>
    if node.extra then canonicalCharsOfAll source rest
    else
      let role := node.role.elim [] fun role => role.toList ++ [':']
      ' ' :: role ++ node.canonicalChars source ++ canonicalCharsOfAll source rest

end

/-- The canonical form of a node. -/
def Node.canonical (node : Node) (source : String) : String :=
  String.ofList (node.canonicalChars source)

end SourceLedger.Syntax
