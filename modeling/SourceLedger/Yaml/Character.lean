/-!
# Characters of a YAML text

A text is lines of characters. Blanks stand between words, and a line ends with a break: a line
feed, or one of the two separators that are kept as they are. Carriage returns and the control
for a next line are other spellings of the line feed, and `unifyBreaks` makes them one. `Cursor`
is a place in a text, and `Gap` what was passed between two words of a scalar.
-/

namespace SourceLedger.Yaml

/-- Characters that may stand in a text. -/
def isAllowed (c : Char) : Bool :=
  let n := c.toNat
  n = 0x09 || n = 0x0a || n = 0x0d || (0x20 ≤ n && n ≤ 0x7e) || n = 0x85 ||
    (0xa0 ≤ n && n ≤ 0xd7ff) || (0xe000 ≤ n && n ≤ 0xfffd) || 0x10000 ≤ n

/-- One spelling of the line feed for all. -/
def unifyBreaks : List Char → List Char
  | '\r' :: '\n' :: rest => '\n' :: unifyBreaks rest
  | c :: rest => (if c = '\r' || c = '\u0085' then '\n' else c) :: unifyBreaks rest
  | [] => []

/-- The end of a line. -/
def isBreak (c : Char) : Bool :=
  c = '\n' || c = '\u2028' || c = '\u2029'

/-- A space between words. -/
def isBlank (c : Char) : Bool :=
  c = ' ' || c = '\t'

/-- Whether a word ends before this character, or at the end of the text. -/
def isBlankOrEnd : Option Char → Bool
  | none => true
  | some c => isBlank c || isBreak c

/-- Characters of anchors, tag handles and names of directives. -/
def isNameChar (c : Char) : Bool :=
  c.isAlphanum || c = '_' || c = '-'

/-- Characters that set a collection between braces apart. -/
def isFlowMark (c : Char) : Bool :=
  [',', '[', ']', '\x7b', '\x7d'].contains c

/-- Characters that mean something at the start of a scalar. -/
def isLeadingIndicator (c : Char) : Bool :=
  ['#', ',', '[', ']', '\x7b', '\x7d', '&', '*', '!', '|', '>', '\x27', '"', '%', '@',
    '\x60'].contains c

/-- The value of a hexadecimal digit. -/
def hexValue? (c : Char) : Option Nat :=
  if c.isDigit then some (c.toNat - '0'.toNat)
  else if 'a' ≤ c && c ≤ 'f' then some (c.toNat - 'a'.toNat + 10)
  else if 'A' ≤ c && c ≤ 'F' then some (c.toNat - 'A'.toNat + 10)
  else none

/-- Whether a line that begins here begins or ends a document. -/
def isBoundary (column : Nat) (chars : List Char) : Bool :=
  column = 0 && (['-', '-', '-'].isPrefixOf chars || ['.', '.', '.'].isPrefixOf chars) &&
    isBlankOrEnd (chars.drop 3).head?

/-- A place in a text: how many characters and lines are before it, the column, and the text from
there on. -/
structure Cursor where
  index : Nat := 0
  line : Nat := 0
  column : Nat := 0
  rest : List Char
  deriving Repr, Inhabited

namespace Cursor

/-- Moves over a character. -/
def pass (cursor : Cursor) (c : Char) : Cursor :=
  if isBreak c then
    { cursor with index := cursor.index + 1, line := cursor.line + 1, column := 0 }
  else { cursor with index := cursor.index + 1, column := cursor.column + 1 }

/-- Moves to where only `rest` is left of the text. -/
def moveTo (cursor : Cursor) (rest : List Char) : Cursor :=
  let passed := cursor.rest.take (cursor.rest.length - rest.length)
  { passed.foldl pass cursor with rest }

end Cursor

/-- Blanks and breaks that were passed inside a scalar. -/
structure Gap where
  /-- The blanks before the first break, last one first. -/
  blanks : List Char := []
  /-- Whether a line ended. -/
  broken : Bool := false
  /-- The first break, unless it was escaped. -/
  first : Option Char := none
  /-- The other breaks, last one first. -/
  others : List Char := []
  deriving Repr, Inhabited

namespace Gap

/-- The gap with one more blank. Blanks at the start of a line are dropped. -/
def addBlank (gap : Gap) (c : Char) : Gap :=
  if gap.broken then gap else { gap with blanks := c :: gap.blanks }

/-- The gap with one more break. Blanks at the end of a line are dropped. -/
def addBreak (gap : Gap) (c : Char) : Gap :=
  if gap.broken then { gap with others := c :: gap.others }
  else { gap with blanks := [], broken := true, first := some c }

/-- What a gap stands for, last character first: blanks for themselves, a line feed for a blank,
and of several breaks all but a line feed in front. -/
def folded (gap : Gap) : List Char :=
  if !gap.broken then gap.blanks
  else
    match gap.first with
    | some '\n' => if gap.others.isEmpty then [' '] else gap.others
    | first => gap.others ++ first.toList

/-- Nothing was passed. -/
def isEmpty (gap : Gap) : Bool :=
  gap.blanks.isEmpty && !gap.broken

end Gap

end SourceLedger.Yaml
