import SourceLedger.Yaml.Character

/-!
# Quoted scalars

A scalar between quotes may go over several lines, which are folded. Between single quotes a quote
is written twice; between double quotes a backslash begins an escape, and at the end of a line it
joins two lines. The readers begin behind the opening quote and give the text and what follows the
closing one.
-/

namespace SourceLedger.Yaml

/-- Reads on inside single quotes. `text` is what was read so far, last character first. -/
def single : (text : List Char) → Gap → (column : Nat) → List Char → Option (List Char × List Char)
  | _, _, _, [] => none
  | text, gap, column, c :: rest =>
    if isBreak c then single text (gap.addBreak c) 0 rest
    else if isBlank c then single text (gap.addBlank c) (column + 1) rest
    else if isBoundary column (c :: rest) then none
    else
      let text := gap.folded ++ text
      match c, rest with
      | '\x27', '\x27' :: rest => single ('\x27' :: text) {} (column + 2) rest
      | '\x27', rest => some (text.reverse, rest)
      | c, rest => single (c :: text) {} (column + 1) rest

/-- The character with a code in hexadecimal digits, if there is one. -/
def codeChar? (digits : List Char) : Option Char :=
  match digits.mapM hexValue? with
  | some values =>
    let code := values.foldl (fun code value => 16 * code + value) 0
    if h : code.isValidChar then some (Char.ofNatAux code h) else none
  | none => none

/-- What stands behind a backslash: a character for a letter, or the number of digits of a code. -/
def escape? : Char → Option (Char ⊕ Nat)
  | '0' => some (.inl '\x00')
  | 'a' => some (.inl '\x07')
  | 'b' => some (.inl '\x08')
  | 't' | '\t' => some (.inl '\t')
  | 'n' => some (.inl '\n')
  | 'v' => some (.inl '\x0b')
  | 'f' => some (.inl '\x0c')
  | 'r' => some (.inl '\r')
  | 'e' => some (.inl '\x1b')
  | ' ' => some (.inl ' ')
  | '"' => some (.inl '"')
  | '/' => some (.inl '/')
  | '\\' => some (.inl '\\')
  | 'N' => some (.inl '\u0085')
  | '_' => some (.inl '\u00a0')
  | 'L' => some (.inl '\u2028')
  | 'P' => some (.inl '\u2029')
  | 'x' => some (.inr 2)
  | 'u' => some (.inr 4)
  | 'U' => some (.inr 8)
  | _ => none

/-- What the text behind a backslash spells: a character, and how many characters it takes up. -/
def escapeAt? : List Char → Option (Char × Nat)
  | mark :: rest =>
    match escape? mark with
    | some (.inl c) => some (c, 1)
    | some (.inr count) =>
      if count ≤ rest.length then (codeChar? (rest.take count)).map fun c => (c, 1 + count)
      else none
    | none => none
  | [] => none

/-- Reads on inside double quotes. The next `skip` characters belong to an escape that was read. -/
def double : (text : List Char) → Gap → (column skip : Nat) → List Char →
    Option (List Char × List Char)
  | _, _, _, _, [] => none
  | text, gap, column, skip + 1, c :: rest =>
    double text gap (if isBreak c then 0 else column + 1) skip rest
  | text, gap, column, 0, c :: rest =>
    if isBreak c then double text (gap.addBreak c) 0 0 rest
    else if isBlank c then double text (gap.addBlank c) (column + 1) 0 rest
    else if isBoundary column (c :: rest) then none
    else
      let text := gap.folded ++ text
      if c = '"' then some (text.reverse, rest)
      else if c = '\\' then
        if rest.head?.any isBreak then double text { broken := true } (column + 1) 1 rest
        else
          match escapeAt? rest with
          | some (e, width) => double (e :: text) {} (column + 1) width rest
          | none => none
      else double (c :: text) {} (column + 1) 0 rest

end SourceLedger.Yaml
