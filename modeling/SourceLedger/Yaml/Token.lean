import SourceLedger.Yaml.Block
import SourceLedger.Yaml.Plain
import SourceLedger.Yaml.Quoted
import SourceLedger.Yaml.Scalar
import SourceLedger.Yaml.Tag

/-!
# Tokens of a flat document

A document is flat if it holds no collection inside another. `Token.scan` cuts a text into tokens,
or refuses it: what cannot be a flat document is refused at the token that shows it.

A list with one item a line begins with its first dash. A mapping with one entry a line has no mark
of its own. It begins where a colon is found behind something that can be its first key, so the
tokens of its beginning and of the key are put in front of what was read before. A key without a
mark of its own stands on one line, is not longer than 1024 characters, and may begin where a line
begins or behind a mark that expects one.
-/

namespace SourceLedger.Yaml

/-- A token of a flat document. -/
inductive Token where
  | directive (directive : Directive)
  | documentStart
  | documentEnd
  /-- The beginning of a mapping with one entry a line. -/
  | linesStart
  /-- The beginning of a list with one item a line. -/
  | dashesStart
  /-- The end of a collection with one line a part. -/
  | linesEnd
  /-- The dash in front of an item. -/
  | dash
  /-- The beginning of a mapping between braces. -/
  | bracesStart
  | bracesEnd
  /-- The beginning of a list between brackets. -/
  | bracketsStart
  | bracketsEnd
  | comma
  | key
  | value
  | anchor (name : String)
  | alias (name : String)
  | tag (tag : Tag)
  | scalar (text : String) (style : Style)
  deriving DecidableEq, Repr

/-- Something that was read and is a key if a colon follows. -/
structure Candidate where
  /-- How many tokens were there before it. -/
  position : Nat
  /-- Where it begins. -/
  index : Nat
  line : Nat
  column : Nat
  /-- Whether it stands where only a key can stand. -/
  required : Bool
  deriving Repr, Inhabited

/-- The state of cutting a text into tokens. -/
structure Scanner where
  cursor : Cursor
  /-- The tokens so far, last one first. -/
  tokens : List Token := []
  /-- Whether the text here is between braces or brackets. -/
  flow : Bool := false
  /-- The column of the collection with one line a part, if one is open. -/
  indent : Option Nat := none
  /-- Whether a key without a mark may begin here. -/
  keyAllowed : Bool := true
  candidate : Option Candidate := none
  deriving Repr, Inhabited

namespace Scanner

/-- Passes blanks, comments and breaks, and says whether a key may begin behind them. A tab is a
blank only where no key may begin, and a mark of the byte order may start a line. -/
def passGap (flow : Bool) : (keyAllowed comment : Bool) → (column : Nat) → List Char →
    Bool × List Char
  | keyAllowed, _, _, [] => (keyAllowed, [])
  | keyAllowed, comment, column, c :: rest =>
    if isBreak c then passGap flow (keyAllowed || !flow) false 0 rest
    else if comment || c = ' ' || (c = '\t' && (flow || !keyAllowed)) ||
        (c = '\ufeff' && column = 0) then
      passGap flow keyAllowed comment (column + 1) rest
    else if c = '#' then passGap flow keyAllowed true (column + 1) rest
    else (keyAllowed, c :: rest)

variable (scanner : Scanner)

/-- The scanner with one more token. -/
def push (token : Token) : Scanner :=
  { scanner with tokens := token :: scanner.tokens }

/-- The scanner with a token in front of those from `position` on. -/
def pushAt (position : Nat) (token : Token) : Scanner :=
  let behind := scanner.tokens.length - position
  { scanner with
    tokens := scanner.tokens.take behind ++ token :: scanner.tokens.drop behind }

/-- Moves to where only `rest` is left of the text. -/
def moveTo (rest : List Char) : Scanner :=
  { scanner with cursor := scanner.cursor.moveTo rest }

/-- Moves over characters of one line. -/
def skip (count : Nat) : Scanner :=
  scanner.moveTo (scanner.cursor.rest.drop count)

/-- Moves to the next token. -/
def toToken : Scanner :=
  let (keyAllowed, rest) := passGap scanner.flow scanner.keyAllowed false scanner.cursor.column
    scanner.cursor.rest
  { scanner.moveTo rest with keyAllowed }

/-- Gives up on a key; one that is required cannot be given up. -/
def dropCandidate : Option Scanner :=
  if scanner.candidate.any (·.required) then none else some { scanner with candidate := none }

/-- Gives up on a key that has become too long. -/
def dropStale : Option Scanner :=
  let isStale (it : Candidate) : Bool :=
    it.line < scanner.cursor.line || it.index + 1024 < scanner.cursor.index
  if scanner.candidate.any isStale then scanner.dropCandidate else some scanner

/-- Remembers that a key may begin here. -/
def saveCandidate : Option Scanner :=
  if scanner.keyAllowed then do
    let at_ := scanner.cursor
    let required := !scanner.flow && scanner.indent = some at_.column
    let scanner ← scanner.dropCandidate
    let candidate : Candidate := ⟨scanner.tokens.length, at_.index, at_.line, at_.column, required⟩
    return { scanner with candidate := some candidate }
  else some scanner

/-- Closes the collection with one line a part if what comes next is indented less than it. -/
def closeLines (column : Option Nat) : Scanner :=
  if !scanner.flow && scanner.indent.any (fun indent => column.all (· < indent)) then
    { scanner.push .linesEnd with indent := none }
  else scanner

/-- Opens a collection with one line a part at a column, in front of the tokens from `position` on.
One inside another is refused. -/
def openLines (start : Token) (column position : Nat) : Option Scanner :=
  if scanner.flow then some scanner
  else
    match scanner.indent with
    | none => some { scanner.pushAt position start with indent := some column }
    | some indent => if indent < column then none else some scanner

/-- Reads a line in front of a document. -/
def readDirectiveLine (chars : List Char) : Option Scanner := do
  let scanner ← (scanner.closeLines none).dropCandidate
  let (directive, rest) ← readDirective chars
  return { (scanner.push (.directive directive)).moveTo rest with keyAllowed := false }

/-- Reads the mark that begins or ends a document. -/
def readBoundary (token : Token) : Option Scanner := do
  let scanner ← (scanner.closeLines none).dropCandidate
  return { (scanner.push token).skip 3 with keyAllowed := false }

/-- Reads an opening brace or bracket. -/
def readOpening (token : Token) : Option Scanner :=
  if scanner.flow || scanner.indent.isSome then none
  else
    some { (scanner.push token).skip 1 with
      flow := true, keyAllowed := true, candidate := none }

/-- Reads a closing brace or bracket. -/
def readClosing (token : Token) : Option Scanner := do
  let scanner ← scanner.dropCandidate
  return { (scanner.push token).skip 1 with flow := false, keyAllowed := false }

/-- Reads the dash in front of an item. -/
def readDash : Option Scanner := do
  if scanner.flow || !scanner.keyAllowed then none
  let scanner ← scanner.openLines .dashesStart scanner.cursor.column scanner.tokens.length
  let scanner ← scanner.dropCandidate
  return { (scanner.push .dash).skip 1 with keyAllowed := true }

/-- Reads a comma. -/
def readComma : Option Scanner := do
  let scanner ← scanner.dropCandidate
  return { (scanner.push .comma).skip 1 with keyAllowed := true }

/-- Reads the mark of a key. -/
def readKey : Option Scanner := do
  if !scanner.flow && !scanner.keyAllowed then none
  let scanner ← scanner.openLines .linesStart scanner.cursor.column scanner.tokens.length
  let scanner ← scanner.dropCandidate
  return { (scanner.push .key).skip 1 with keyAllowed := !scanner.flow }

/-- Reads the colon before a value. What was read before it becomes a key if it can be one. -/
def readValue : Option Scanner := do
  match scanner.candidate with
  | some candidate =>
    let scanner := scanner.pushAt candidate.position .key
    let scanner ← scanner.openLines .linesStart candidate.column candidate.position
    return { (scanner.push .value).skip 1 with keyAllowed := false, candidate := none }
  | none =>
    if !scanner.flow && !scanner.keyAllowed then none
    let scanner ← scanner.openLines .linesStart scanner.cursor.column scanner.tokens.length
    return { (scanner.push .value).skip 1 with keyAllowed := !scanner.flow }

/-- Whether an anchor or an alias may end before this character. -/
def endsAnchor (next : Option Char) : Bool :=
  isBlankOrEnd next || next.any ['?', ':', ',', ']', '\x7d', '%', '@', '\x60'].contains

/-- Reads an anchor or an alias behind its mark. -/
def readAnchor (token : String → Token) (chars : List Char) : Option Scanner := do
  let scanner ← scanner.saveCandidate
  let name := chars.takeWhile isNameChar
  let rest := chars.drop name.length
  if name.isEmpty || !endsAnchor rest.head? then none
  return { (scanner.push (token (String.ofList name))).moveTo rest with keyAllowed := false }

/-- Reads a tag behind its mark. -/
def readTagToken (chars : List Char) : Option Scanner := do
  let scanner ← scanner.saveCandidate
  let (tag, rest) ← readTag scanner.flow chars
  return { (scanner.push (.tag tag)).moveTo rest with keyAllowed := false }

/-- Reads a block scalar behind its bar or angle. -/
def readBlock (style : Style) (chars : List Char) : Option Scanner := do
  let scanner ← scanner.dropCandidate
  let (text, rest) ← block (style = .literal) scanner.indent chars
  return { (scanner.push (.scalar (String.ofList text) style)).moveTo rest with keyAllowed := true }

/-- Takes over a scalar between quotes. -/
def readQuoted (read : Option (List Char × List Char)) : Option Scanner := do
  let scanner ← scanner.saveCandidate
  let (text, rest) ← read
  return { (scanner.push (.scalar (String.ofList text) .quoted)).moveTo rest with
    keyAllowed := false }

/-- Reads a plain scalar. -/
def readPlain : Option Scanner := do
  let scanner ← scanner.saveCandidate
  let least := scanner.indent.elim 0 (· + 1)
  let read ← plain scanner.flow least [] {} scanner.cursor.column scanner.cursor.rest
  return { (scanner.push (.scalar (String.ofList read.text) .plain)).moveTo read.rest with
    keyAllowed := read.broken }

/-- Reads the token that begins with a character. Collections inside others are refused. -/
def readToken (c : Char) (rest : List Char) : Option Scanner :=
  let column := scanner.cursor.column
  let marks := scanner.flow || isBlankOrEnd rest.head?
  if column = 0 && c = '%' then scanner.readDirectiveLine rest
  else if isBoundary column (c :: rest) then
    scanner.readBoundary (if c = '-' then .documentStart else .documentEnd)
  else if c = '\x7b' then scanner.readOpening .bracesStart
  else if c = '\x7d' then scanner.readClosing .bracesEnd
  else if c = '[' then scanner.readOpening .bracketsStart
  else if c = ']' then scanner.readClosing .bracketsEnd
  else if c = ',' then scanner.readComma
  else if c = '-' && isBlankOrEnd rest.head? then scanner.readDash
  else if c = '?' && marks then scanner.readKey
  else if c = ':' && marks then scanner.readValue
  else if c = '*' then scanner.readAnchor .alias rest
  else if c = '&' then scanner.readAnchor .anchor rest
  else if c = '!' then scanner.readTagToken rest
  else if c = '|' && !scanner.flow then scanner.readBlock .literal rest
  else if c = '>' && !scanner.flow then scanner.readBlock .folded rest
  else if c = '\x27' then scanner.readQuoted (single [] {} (column + 1) rest)
  else if c = '"' then scanner.readQuoted (double [] {} (column + 1) 0 rest)
  else if plainStarts scanner.flow (c :: rest) then scanner.readPlain
  else none

/-- Reads all tokens; `tries` bounds their number. -/
def readAll : (tries : Nat) → Scanner → Option (List Token)
  | 0, _ => none
  | tries + 1, scanner =>
    match scanner.toToken.dropStale with
    | none => none
    | some scanner =>
      match scanner.cursor.rest with
      | [] => (scanner.closeLines none).dropCandidate.map fun scanner => scanner.tokens.reverse
      | c :: rest =>
        match (scanner.closeLines (some scanner.cursor.column)).readToken c rest with
        | none => none
        | some scanner => readAll tries scanner

end Scanner

/-- The tokens of a text, if it can be a flat document. -/
def Token.scan (text : String) : Option (List Token) :=
  let chars := unifyBreaks text.toList
  if text.toList.all isAllowed then
    Scanner.readAll (chars.length + 1) { cursor := { rest := chars } }
  else none

end SourceLedger.Yaml
