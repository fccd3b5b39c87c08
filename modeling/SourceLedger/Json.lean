/-!
# JSON reports

Reports for other programs are JSON values. A record keeps its fields in the order in which they
were put there. `Json.render` writes a value over several lines, two blanks deeper for each
level; empty lists and records stay on one line.
-/

namespace SourceLedger

/-- A JSON value with integer numbers. -/
inductive Json where
  | null
  | bool (value : Bool)
  | int (value : Int)
  | text (value : String)
  | list (items : List Json)
  | record (fields : List (String × Json))
  deriving Repr, Inhabited

namespace Json

/-- A natural number. -/
def nat (value : Nat) : Json :=
  .int value

/-- A text, or null where there is none. -/
def text? (value : Option String) : Json :=
  value.elim .null .text

/-- A natural number, or null where there is none. -/
def nat? (value : Option Nat) : Json :=
  value.elim .null nat

/-- One character of a string literal: quotes, backslashes and controls are escaped. -/
def escapeChar (c : Char) : List Char :=
  if c = '"' ∨ c = '\\' then ['\\', c]
  else if c = '\x08' then ['\\', 'b']
  else if c = '\x0c' then ['\\', 'f']
  else if c = '\n' then ['\\', 'n']
  else if c = '\r' then ['\\', 'r']
  else if c = '\t' then ['\\', 't']
  else if c.toNat < 0x20 then
    ['\\', 'u', '0', '0', Nat.digitChar (c.toNat / 16), Nat.digitChar (c.toNat % 16)]
  else [c]

/-- A string literal. -/
def quoted (text : String) : String :=
  String.ofList ('"' :: text.toList.flatMap escapeChar ++ ['"'])

/-- The blanks in front of a line at some depth. -/
def indent (depth : Nat) : String :=
  String.ofList (List.replicate (2 * depth) ' ')

mutual

/-- A value whose first line is already indented to `depth`. -/
def renderAt (depth : Nat) : Json → String
  | .null => "null"
  | .bool value => if value then "true" else "false"
  | .int value => toString value
  | .text value => quoted value
  | .list [] => "[]"
  | .list items => "[\n" ++ renderItems (depth + 1) items ++ "\n" ++ indent depth ++ "]"
  | .record [] => "\x7b\x7d"
  | .record fields =>
    "\x7b\n" ++ renderFields (depth + 1) fields ++ "\n" ++ indent depth ++ "\x7d"

/-- The items of a list, each on lines of its own. -/
def renderItems (depth : Nat) : List Json → String
  | [] => ""
  | [item] => indent depth ++ renderAt depth item
  | item :: rest => indent depth ++ renderAt depth item ++ ",\n" ++ renderItems depth rest

/-- The fields of a record, each on lines of its own. -/
def renderFields (depth : Nat) : List (String × Json) → String
  | [] => ""
  | [(key, value)] => indent depth ++ quoted key ++ ": " ++ renderAt depth value
  | (key, value) :: rest =>
    indent depth ++ quoted key ++ ": " ++ renderAt depth value ++ ",\n" ++ renderFields depth rest

end

/-- A value as text. -/
def render (value : Json) : String :=
  renderAt 0 value

end Json

end SourceLedger
