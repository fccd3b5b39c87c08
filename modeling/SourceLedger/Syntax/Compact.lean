import SourceLedger.Syntax.Node
import SourceLedger.Text.WordChar

/-!
# Text without layout

The compact text of a node is its tokens put together without comments, line breaks and blanks.
One blank remains where two words would otherwise run into one, so that `lambda x` stays as it is
and `f( a , b )` becomes `f(a,b)`.
-/

namespace SourceLedger.Syntax

mutual

/-- The texts of the atomic nodes of a tree, extras left out. A text that cannot be cut out
counts as empty. -/
def Node.tokens (source : String) : Node → List String
  | .mk attributes children =>
    let node := Node.mk attributes children
    if node.extra then []
    else if node.isAtomic then [(node.text? source).getD ""]
    else tokensOfAll source children

/-- The tokens of a row of trees. -/
def Node.tokensOfAll (source : String) : List Node → List String
  | [] => []
  | node :: rest => node.tokens source ++ tokensOfAll source rest

end

/-- Whether a text put behind another would merge two words. -/
def mergesWords (before after : List Char) : Bool :=
  match before.getLast?, after.head? with
  | some last, some first => Text.isWordChar last && Text.isWordChar first
  | _, _ => false

/-- A token behind the text so far, with a blank between two words. -/
def joinToken (before after : List Char) : List Char :=
  if mergesWords before after then before ++ ' ' :: after else before ++ after

/-- Tokens joined with as few blanks as keep words apart. -/
def joinTokens (tokens : List String) : String :=
  String.ofList ((tokens.map String.toList).foldl joinToken [])

/-- The text of a node without its layout. -/
def Node.compact (node : Node) (source : String) : String :=
  joinTokens (node.tokens source)

end SourceLedger.Syntax
