/-!
# Scalars of a YAML document

A scalar is a piece of text together with how it was written. An unquoted scalar may stand for
something other than a text: nothing, a truth value or a number. `looksTyped` says when it does,
which is when a text has to be quoted to stay a text.
-/

namespace SourceLedger.Yaml

/-- How a scalar is written. -/
inductive Style where
  | plain
  | quoted
  /-- A block of lines that stay as they are. -/
  | literal
  /-- A block of lines that are folded. -/
  | folded
  deriving DecidableEq, Repr, Inhabited

/-- A scalar as it was read. -/
structure Scalar where
  text : String
  style : Style
  /-- The tag of the scalar, in full. -/
  tag : Option String := none
  deriving DecidableEq, Repr, Inhabited

/-- The plain scalar of an entry without value. -/
def Scalar.empty : Scalar :=
  ⟨"", .plain, none⟩

/-- Reads a truth value. -/
def parseBool? : String → Option Bool
  | "true" | "True" | "TRUE" => some true
  | "false" | "False" | "FALSE" => some false
  | _ => none

/-- Whether a plain scalar means that there is nothing. -/
def isNull : String → Bool
  | "" | "~" | "null" | "Null" | "NULL" => true
  | _ => false

/-- The tag of truth values. -/
def boolTag : String :=
  "tag:yaml.org,2002:bool"

/-- The truth value of a scalar. Quoted and folded texts are texts, and so are literal ones unless
a tag says otherwise. -/
def Scalar.bool? (scalar : Scalar) : Option Bool :=
  match scalar.style with
  | .plain => parseBool? scalar.text
  | .literal => if scalar.tag = some boolTag then parseBool? scalar.text else none
  | .quoted | .folded => none

/-- The variant that a scalar names: a tag of its own on nothing does, any other scalar by its
text. -/
def Scalar.variant? (scalar : Scalar) : Option String :=
  match scalar.tag.map String.toList with
  | some ('!' :: name) =>
    if scalar.style = .plain && isNull scalar.text then some (String.ofList name) else none
  | _ => some scalar.text

/-- A row of digits in some base, not empty. -/
def isDigits (base : Nat) (digits : List Char) : Bool :=
  !digits.isEmpty && digits.all fun c =>
    (c.isDigit && c.toNat - '0'.toNat < base) ||
      (base = 16 && (('a' ≤ c && c ≤ 'f') || ('A' ≤ c && c ≤ 'F')))

/-- Drops one sign in front. -/
def dropSign : List Char → List Char
  | '+' :: rest | '-' :: rest => rest
  | chars => chars

/-- Digits behind a zero, which are no number. -/
def isZeroPadded (chars : List Char) : Bool :=
  match dropSign chars with
  | '0' :: rest => isDigits 10 rest
  | _ => false

/-- The value of digits in some base. -/
def digitsValue (base : Nat) (digits : List Char) : Nat :=
  digits.foldl (fun value c =>
    let digit := if c.isDigit then c.toNat - '0'.toNat else c.toLower.toNat - 'a'.toNat + 10
    base * value + digit) 0

/-- The base and the digits of a number without sign: decimal, or behind a mark for its base. -/
def basedDigits : List Char → Nat × List Char
  | '0' :: 'x' :: digits => (16, digits)
  | '0' :: 'o' :: digits => (8, digits)
  | '0' :: 'b' :: digits => (2, digits)
  | digits => (10, digits)

/-- A whole number that fits in 128 bits, with a sign if it is negative. -/
def isInteger (chars : List Char) : Bool :=
  let (base, digits) := basedDigits (dropSign chars)
  let limit := if chars.head? = some '-' then Nat.pow 2 127 + 1 else Nat.pow 2 128
  isDigits base digits && !isZeroPadded chars && digitsValue base digits < limit

/-- Whether `mantissa` with its point moved by the exponent is too large for a double, which is
from half a step beyond the largest one on. -/
def overflows (mantissa : Nat) (exponent : Int) : Bool :=
  let limit := Nat.pow 2 1024 - Nat.pow 2 970
  match exponent with
  | .ofNat shift => if shift > 400 then mantissa ≠ 0 else limit ≤ mantissa * Nat.pow 10 shift
  | .negSucc shift =>
    if mantissa.log2 < shift then false else limit * Nat.pow 10 (shift + 1) ≤ mantissa

/-- The exponent at the end of a decimal fraction; no exponent counts as zero. -/
def exponent? : List Char → Option Int
  | [] => some 0
  | mark :: rest =>
    if (mark = 'e' || mark = 'E') && isDigits 10 (dropSign rest) then
      let value : Int := digitsValue 10 (dropSign rest)
      some (if rest.head? = some '-' then -value else value)
    else none

/-- A decimal fraction that a double can come near. -/
def isDecimal (chars : List Char) : Bool :=
  let unsigned := dropSign chars
  let whole := unsigned.takeWhile Char.isDigit
  let behind := unsigned.dropWhile Char.isDigit
  let (fraction, rest) := match behind with
    | '.' :: digits => (digits.takeWhile Char.isDigit, digits.dropWhile Char.isDigit)
    | _ => ([], behind)
  if whole.isEmpty && fraction.isEmpty then false
  else
    match exponent? rest with
    | some exponent => !overflows (digitsValue 10 (whole ++ fraction)) (exponent - fraction.length)
    | none => false

/-- The special values of floating-point numbers. -/
def isSpecialFloat (text : String) : Bool :=
  [".inf", ".Inf", ".INF", "+.inf", "+.Inf", "+.INF", "-.inf", "-.Inf", "-.INF", ".nan", ".NaN",
    ".NAN"].contains text

/-- Whether a text without quotes would be taken for something other than a text. -/
def looksTyped (text : String) : Bool :=
  isNull text || (parseBool? text).isSome || isInteger text.toList || isZeroPadded text.toList ||
    isSpecialFloat text || isDecimal text.toList

end SourceLedger.Yaml
