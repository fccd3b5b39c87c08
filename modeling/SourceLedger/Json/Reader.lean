import SourceLedger.Json

/-!
# Reading JSON

Reads what `Json.render` writes, and the same values in any other layout. Numbers are integers,
and a code behind a backslash stands for one character. The reader goes down with a bound on the
number of steps, which the length of the text provides.
-/

namespace SourceLedger.Json

/-- Skips blanks and line ends. -/
def skipBlanks (chars : List Char) : List Char :=
  chars.dropWhile fun c => c = ' ' || c = '\n' || c = '\r' || c = '\t'

/-- The value of a hexadecimal digit. -/
def hexDigit? (c : Char) : Option Nat :=
  if c.isDigit then some (c.toNat - '0'.toNat)
  else if 'a' ≤ c && c ≤ 'f' then some (c.toNat - 'a'.toNat + 10)
  else if 'A' ≤ c && c ≤ 'F' then some (c.toNat - 'A'.toNat + 10)
  else none

/-- The character with a code in hexadecimal digits, if there is one. -/
def charOfCode? (digits : List Char) : Option Char :=
  (digits.mapM hexDigit?).bind fun values =>
    let code := values.foldl (fun code value => 16 * code + value) 0
    if h : code.isValidChar then some (Char.ofNatAux code h) else none

/-- The character that a letter behind a backslash stands for. -/
def unescape? : Char → Option Char
  | '"' => some '"'
  | '\\' => some '\\'
  | '/' => some '/'
  | 'b' => some '\x08'
  | 'f' => some '\x0c'
  | 'n' => some '\n'
  | 'r' => some '\r'
  | 't' => some '\t'
  | _ => none

/-- Reads on inside a string literal, whose characters so far are `text`, last one first. -/
def readString (text : List Char) : List Char → Option (String × List Char)
  | [] => none
  | '"' :: rest => some (String.ofList text.reverse, rest)
  | '\\' :: 'u' :: a :: b :: c :: d :: rest =>
    match charOfCode? [a, b, c, d] with
    | some e => readString (e :: text) rest
    | none => none
  | '\\' :: c :: rest =>
    match unescape? c with
    | some e => readString (e :: text) rest
    | none => none
  | c :: rest => readString (c :: text) rest

/-- Reads an integer. -/
def readInt (chars : List Char) : Option (Json × List Char) :=
  let (negative, unsigned) := match chars with
    | '-' :: rest => (true, rest)
    | _ => (false, chars)
  let digits := unsigned.takeWhile Char.isDigit
  let size : Nat := digits.foldl (fun value c => 10 * value + (c.toNat - '0'.toNat)) 0
  if digits.isEmpty then none
  else some (.int (if negative then -size else size), unsigned.dropWhile Char.isDigit)

mutual

/-- Reads a value, in at most so many steps. -/
def readValue : (steps : Nat) → List Char → Option (Json × List Char)
  | 0, _ => none
  | steps + 1, chars =>
    match skipBlanks chars with
    | 'n' :: 'u' :: 'l' :: 'l' :: rest => some (.null, rest)
    | 't' :: 'r' :: 'u' :: 'e' :: rest => some (.bool true, rest)
    | 'f' :: 'a' :: 'l' :: 's' :: 'e' :: rest => some (.bool false, rest)
    | '"' :: rest => (readString [] rest).map fun (literal, rest) => (.text literal, rest)
    | '[' :: rest => readItems steps [] rest
    | '\x7b' :: rest => readFields steps [] rest
    | rest => readInt rest

/-- Reads on inside a list, whose items so far are given, last one first. -/
def readItems : (steps : Nat) → List Json → List Char → Option (Json × List Char)
  | 0, _, _ => none
  | steps + 1, items, chars =>
    match skipBlanks chars with
    | ']' :: rest => some (.list items.reverse, rest)
    | rest =>
      match readValue steps rest with
      | none => none
      | some (item, rest) =>
        match skipBlanks rest with
        | ',' :: rest => readItems steps (item :: items) rest
        | ']' :: rest => some (.list (item :: items).reverse, rest)
        | _ => none

/-- Reads on inside a record, whose fields so far are given, last one first. -/
def readFields : (steps : Nat) → List (String × Json) → List Char → Option (Json × List Char)
  | 0, _, _ => none
  | steps + 1, fields, chars =>
    match skipBlanks chars with
    | '\x7d' :: rest => some (.record fields.reverse, rest)
    | '"' :: rest =>
      match readString [] rest with
      | none => none
      | some (key, rest) =>
        match skipBlanks rest with
        | ':' :: rest =>
          match readValue steps rest with
          | none => none
          | some (value, rest) =>
            match skipBlanks rest with
            | ',' :: rest => readFields steps ((key, value) :: fields) rest
            | '\x7d' :: rest => some (.record ((key, value) :: fields).reverse, rest)
            | _ => none
        | _ => none
    | _ => none

end

/-- The value that a text holds, with nothing around it but blanks. -/
def parse? (text : String) : Option Json :=
  match readValue (text.length + 1) text.toList with
  | some (value, rest) => if (skipBlanks rest).isEmpty then some value else none
  | none => none

/-- A field of a record. -/
def field? (value : Json) (key : String) : Option Json :=
  match value with
  | .record fields => fields.lookup key
  | _ => none

/-- A text. -/
def asText? : Json → Option String
  | .text value => some value
  | _ => none

/-- An integer. -/
def asInt? : Json → Option Int
  | .int value => some value
  | _ => none

/-- A natural number. -/
def asNat? : Json → Option Nat
  | .int (.ofNat value) => some value
  | _ => none

/-- A truth value. -/
def asBool? : Json → Option Bool
  | .bool value => some value
  | _ => none

/-- The items of a list. -/
def asList? : Json → Option (List Json)
  | .list items => some items
  | _ => none

/-- Null as nothing, anything else as `read` has it. -/
def asOption? {α : Type} (read : Json → Option α) : Json → Option (Option α)
  | .null => some none
  | value => (read value).map some

end SourceLedger.Json
