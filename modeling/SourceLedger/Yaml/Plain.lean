import SourceLedger.Yaml.Character

/-!
# Plain scalars

A scalar without quotes ends where something else begins: a comment, a colon before a blank, a
mark of a collection between braces, the end of the document, or a line that is indented less. The
lines of a longer one are folded.
-/

namespace SourceLedger.Yaml

/-- Whether a plain scalar can begin here. -/
def plainStarts (flow : Bool) (chars : List Char) : Bool :=
  match chars with
  | [] => false
  | c :: rest =>
    if c = '-' then !rest.head?.any isBlank
    else if c = '?' || c = ':' then !flow && !isBlankOrEnd rest.head?
    else !isBlankOrEnd (some c) && !isLeadingIndicator c

/-- A plain scalar: its text, whether a line ended behind it, and what follows, with the blanks and
breaks behind it passed. -/
structure PlainRead where
  text : List Char
  broken : Bool
  rest : List Char
  deriving Repr, Inhabited

/-- Reads on inside a plain scalar. `text` is what was read so far, last character first. Outside
braces it goes on over lines that are indented to `indent`. -/
def plain (flow : Bool) (indent : Nat) :
    (text : List Char) → Gap → (column : Nat) → List Char → Option PlainRead
  | text, gap, _, [] => some ⟨text.reverse, gap.broken, []⟩
  | text, gap, column, c :: rest =>
    let done : Option PlainRead := some ⟨text.reverse, gap.broken, c :: rest⟩
    if isBreak c then plain flow indent text (gap.addBreak c) 0 rest
    else if isBlank c then
      if gap.broken && c = '\t' && column < indent then none
      else plain flow indent text (gap.addBlank c) (column + 1) rest
    else if gap.broken && !flow && column < indent then done
    else if isBoundary column (c :: rest) then done
    else if !gap.isEmpty && c = '#' then done
    else if flow && c = ':' && rest.head?.any (fun next => next = '?' || isFlowMark next) then none
    else if c = ':' && isBlankOrEnd rest.head? then done
    else if flow && isFlowMark c then done
    else plain flow indent (c :: (gap.folded ++ text)) {} (column + 1) rest

end SourceLedger.Yaml
