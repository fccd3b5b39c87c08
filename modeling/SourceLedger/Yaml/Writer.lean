import SourceLedger.Yaml.Character
import SourceLedger.Yaml.Scalar

/-!
# Writing scalars

A text is written without quotes where it then reads back as itself; between single quotes where
it would be taken for something else; between double quotes, with escapes, where it has characters
that cannot be shown; and as a block of lines where it has line feeds.
-/

namespace SourceLedger.Yaml

/-- Characters that are written as themselves. -/
def isPrintable (c : Char) : Bool :=
  let n := c.toNat
  n = 0x0a || (0x20 ≤ n && n ≤ 0x7e) || (0xa0 ≤ n && n ≤ 0xd7ff) ||
    (0xe000 ≤ n && n ≤ 0xfffd && n ≠ 0xfeff) || 0x10000 ≤ n

/-- Whether a text has a mark that ends a plain scalar: a colon before a blank, or a number sign
behind one. -/
def hasInnerIndicator : (previous : Option Char) → List Char → Bool
  | _, [] => false
  | previous, c :: rest =>
    (c = ':' && isBlankOrEnd rest.head?) || (c = '#' && isBlankOrEnd previous) ||
      hasInnerIndicator (some c) rest

/-- Whether a text begins like something other than a plain scalar. -/
def hasOuterIndicator (chars : List Char) : Bool :=
  ['-', '-', '-'].isPrefixOf chars || ['.', '.', '.'].isPrefixOf chars ||
    match chars with
    | [] => false
    | c :: rest =>
      isLeadingIndicator c ||
        ((c = '-' || c = '?' || c = ':') && isBlankOrEnd rest.head?)

/-- Whether a text can stand without quotes. -/
def plainAllowed (chars : List Char) : Bool :=
  chars.head? ≠ some ' ' && chars.getLast? ≠ some ' ' &&
    chars.all (fun c => isPrintable c && !isBreak c) &&
    !hasOuterIndicator chars && !hasInnerIndicator (some 'a') chars

/-- Whether two characters of a kind stand side by side. -/
def hasPair (first second : Char → Bool) : List Char → Bool
  | [] => false
  | c :: rest => (first c && rest.head?.any second) || hasPair first second rest

/-- Whether a text can stand between single quotes: no space is next to a break. -/
def singleAllowed (chars : List Char) : Bool :=
  chars.all isPrintable && !hasPair (· = ' ') isBreak chars && !hasPair isBreak (· = ' ') chars

/-- Whether a text can stand as a block of lines: no line ends with a space. -/
def blockAllowed (chars : List Char) : Bool :=
  chars.all isPrintable && !hasPair (· = ' ') isBreak chars && chars.getLast? ≠ some ' '

/-- A number in upper-case hexadecimal of fixed width. -/
def hexOfWidth : (width : Nat) → Nat → List Char
  | 0, _ => []
  | width + 1, n => hexOfWidth width (n / 16) ++ [(Nat.digitChar (n % 16)).toUpper]

/-- One character between double quotes. -/
def escapeChar (c : Char) : List Char :=
  let n := c.toNat
  match n with
  | 0x00 => ['\\', '0']
  | 0x07 => ['\\', 'a']
  | 0x08 => ['\\', 'b']
  | 0x09 => ['\\', 't']
  | 0x0a => ['\\', 'n']
  | 0x0b => ['\\', 'v']
  | 0x0c => ['\\', 'f']
  | 0x0d => ['\\', 'r']
  | 0x1b => ['\\', 'e']
  | 0x22 => ['\\', '"']
  | 0x5c => ['\\', '\\']
  | 0x85 => ['\\', 'N']
  | 0x2028 => ['\\', 'L']
  | 0x2029 => ['\\', 'P']
  | _ =>
    if isPrintable c then [c]
    else if n ≤ 0xff then ['\\', 'x'] ++ hexOfWidth 2 n
    else if n ≤ 0xffff then ['\\', 'u'] ++ hexOfWidth 4 n
    else ['\\', 'U'] ++ hexOfWidth 8 n

/-- A text between double quotes. -/
def doubleQuoted (chars : List Char) : List Char :=
  '"' :: chars.flatMap escapeChar ++ ['"']

/-- A text between single quotes: a quote is written twice, and the line behind a break is
indented. `broken` says whether a break came before. -/
def singleBody : (broken : Bool) → List Char → List Char
  | broken, [] => if broken then [' ', ' '] else []
  | broken, c :: rest =>
    if isBreak c then c :: singleBody true rest
    else
      (if broken then [' ', ' '] else []) ++ (if c = '\x27' then ['\x27', c] else [c]) ++
        singleBody false rest

/-- A text between single quotes. -/
def singleQuoted (chars : List Char) : List Char :=
  '\x27' :: singleBody false chars ++ ['\x27']

/-- The lines of a block, each indented unless it is empty. -/
def literalBody : (broken : Bool) → List Char → List Char
  | _, [] => []
  | broken, c :: rest =>
    if isBreak c then c :: literalBody true rest
    else (if broken then [' ', ' '] else []) ++ c :: literalBody false rest

/-- The mark that says how a block ends: without a break, with one, or with several. -/
def chompMark (chars : List Char) : List Char :=
  match chars.reverse with
  | [] => ['-']
  | last :: before =>
    if !isBreak last then ['-'] else if before.head?.all isBreak then ['+'] else []

/-- A text as a block of lines, with the break behind it. -/
def literalBlock (chars : List Char) : List Char :=
  let indentMark := if chars.head?.any (fun c => c = ' ' || isBreak c) then ['2'] else []
  let ending := if chars.getLast?.any isBreak then [] else ['\n']
  '|' :: indentMark ++ chompMark chars ++ '\n' :: literalBody true chars ++ ending

/-- A text as the value of an entry at top level, with the break behind it. -/
def writeText (text : String) : String :=
  let chars := text.toList
  String.ofList <|
    if chars.contains '\n' then
      if blockAllowed chars then literalBlock chars else doubleQuoted chars ++ ['\n']
    else if !looksTyped text && plainAllowed chars then chars ++ ['\n']
    else if singleAllowed chars then singleQuoted chars ++ ['\n']
    else doubleQuoted chars ++ ['\n']

end SourceLedger.Yaml
