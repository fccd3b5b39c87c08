import SourceLedger.Yaml.Character

/-!
# Block scalars

A bar or an angle begins a scalar of whole lines, set apart by their indentation. Behind it marks
may say how the scalar ends and how far it is indented; without the latter the first line that is
not empty decides. Behind a bar lines stay as they are, behind an angle they are folded.
-/

namespace SourceLedger.Yaml

/-- What happens to the breaks at the end of a block. -/
inductive Chomp where
  | strip
  | clip
  | keep
  deriving DecidableEq, Repr

/-- How a mark ends a block. -/
def Chomp.ofMark? : Char → Option Chomp
  | '+' => some .keep
  | '-' => some .strip
  | _ => none

/-- The indentation that a digit asks for. -/
def indentMark? (c : Char) : Option Nat :=
  if c.isDigit then some (c.toNat - '0'.toNat) else none

/-- The marks of a block, in either order: how it ends, how far it is indented, and what follows. -/
def blockMarks : List Char → Chomp × Option Nat × List Char
  | [] => (.clip, none, [])
  | c :: rest =>
    match Chomp.ofMark? c, indentMark? c with
    | some chomp, _ =>
      match rest.head?.bind indentMark? with
      | some indent => (chomp, some indent, rest.drop 1)
      | none => (chomp, none, rest)
    | none, some indent =>
      match rest.head?.bind Chomp.ofMark? with
      | some chomp => (chomp, some indent, rest.drop 1)
      | none => (.clip, some indent, rest)
    | none, none => (.clip, none, c :: rest)

/-- The lines behind the first one, which may have a comment and nothing else. -/
def afterHeader (chars : List Char) : Option (List Char) :=
  let rest := chars.dropWhile isBlank
  let rest := if rest.head? = some '#' then rest.dropWhile fun c => !isBreak c else rest
  match rest with
  | [] => some []
  | c :: rest => if isBreak c then some rest else none

/-- Empty lines and the indentation of the line behind them. -/
structure Margin where
  /-- The breaks of the empty lines, last one first. -/
  breaks : List Char := []
  /-- The column behind the indentation. -/
  column : Nat := 0
  /-- The widest indentation that was passed. -/
  widest : Nat := 0
  rest : List Char := []
  deriving Repr, Inhabited

/-- Passes empty lines and an indentation of at most `indent`, or of any width if none is known. A
tab there is refused. -/
def passMargin (indent : Option Nat) :
    (breaks : List Char) → (column widest : Nat) → List Char → Option Margin
  | breaks, column, widest, [] => some ⟨breaks, column, max widest column, []⟩
  | breaks, column, widest, c :: rest =>
    let inside := indent.all (column < ·)
    if c = ' ' && inside then passMargin indent breaks (column + 1) widest rest
    else if c = '\t' && inside then none
    else if isBreak c then passMargin indent (c :: breaks) 0 (max widest column) rest
    else some ⟨breaks, column, max widest column, c :: rest⟩

/-- What was read of a block. -/
structure BlockState where
  /-- The text so far, last character first. -/
  text : List Char := []
  /-- The break of the line before, if there was a line and it ended. -/
  last : Option Char := none
  /-- Whether the line before began with a blank. -/
  blankStart : Bool := false
  deriving Repr, Inhabited

/-- Appends the breaks in front of a line. Folding turns a line feed between two lines that do not
begin with a blank into a blank, or drops it where empty lines follow. -/
def BlockState.join (literal : Bool) (state : BlockState) (breaks : List Char)
    (startsBlank : Bool) : List Char :=
  let joint :=
    if !literal && state.last = some '\n' && !state.blankStart && !startsBlank then
      if breaks.isEmpty then [' '] else []
    else state.last.toList
  breaks ++ joint ++ state.text

/-- Reads the lines of a block that are indented to `indent`, as far as they go; `tries` bounds
their number. The result is the state behind the last one, and the margin there. -/
def blockLines (literal : Bool) (indent : Nat) :
    (tries : Nat) → BlockState → Margin → Option (BlockState × Margin)
  | 0, state, margin => some (state, margin)
  | tries + 1, state, margin =>
    match margin.rest with
    | [] => some (state, margin)
    | c :: _ =>
      if margin.column ≠ indent then some (state, margin)
      else
        let line := margin.rest.takeWhile fun c => !isBreak c
        let behind := margin.rest.dropWhile fun c => !isBreak c
        let text := line.reverse ++ state.join literal margin.breaks (isBlank c)
        let column := if behind.isEmpty then indent + line.length else 0
        match passMargin (some indent) [] column 0 (behind.drop 1) with
        | none => none
        | some next => blockLines literal indent tries ⟨text, behind.head?, isBlank c⟩ next

/-- A block in front of some text, behind its bar or angle and inside a mapping at column `parent`:
its text and what follows. -/
def block (literal : Bool) (parent : Option Nat) (chars : List Char) :
    Option (List Char × List Char) := do
  let (chomp, mark, behind) := blockMarks chars
  if mark = some 0 then none
  let lines ← afterHeader behind
  let given := mark.map fun count => parent.getD 0 + count
  let margin ← passMargin given [] 0 0 lines
  let least := parent.elim 1 (· + 1)
  let indent := given.getD (max margin.widest least)
  let (state, margin) ← blockLines literal indent lines.length {} margin
  let ending := match chomp with
    | .strip => []
    | .clip => state.last.toList
    | .keep => margin.breaks ++ state.last.toList
  return ((ending ++ state.text).reverse, margin.rest)

end SourceLedger.Yaml
