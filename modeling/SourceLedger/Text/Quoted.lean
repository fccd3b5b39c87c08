import SourceLedger.Text.Visible

/-!
# Quoted text

Leaf text inside a canonical form stands between double quotes. The quote and the backslash are
escaped by a backslash, the four common controls have letters, and every other hidden character
is written as its code point in hexadecimal between braces. All else is written as itself, so
the closing quote is the first quote that no backslash precedes.
-/

namespace SourceLedger.Text

/-- The digits of a code point in lower-case hexadecimal. -/
def hexDigits (n : Nat) : List Char :=
  Nat.toDigits 16 n

/-- One character of a quoted text. -/
def escapeChar (c : Char) : List Char :=
  if c = '"' ∨ c = '\\' then ['\\', c]
  else if c = '\t' then ['\\', 't']
  else if c = '\r' then ['\\', 'r']
  else if c = '\n' then ['\\', 'n']
  else if c = '\x00' then ['\\', '0']
  else if isVisible c then [c]
  else ['\\', 'u', '\x7b'] ++ hexDigits c.toNat ++ ['\x7d']

/-- A text between double quotes, with everything escaped that is not plainly visible. -/
def quote (text : String) : String :=
  String.ofList ('"' :: text.toList.flatMap escapeChar ++ ['"'])

end SourceLedger.Text
