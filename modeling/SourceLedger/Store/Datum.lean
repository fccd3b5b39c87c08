import SourceLedger.Failure

/-!
# Values of a database

A column for numbers takes whatever it is given. A text that spells a number is kept as that
number, any other text as it is; so someone who writes there from outside can leave things that
the ledger cannot read. `Datum` is a value of the database, `Datum.ofText` what a text becomes in a
column for numbers, and `Cell` is what such a column holds for the ledger: a value that it can
read, or something foreign.
-/

namespace SourceLedger

/-- A value of the database. -/
inductive Datum where
  | integer (value : Int)
  /-- A floating-point number, as a multiple of the smallest one, `2 ^ -1074`. Infinity counts as
  `2 ^ 1024`. -/
  | real (scaled : Int)
  | text (value : String)
  deriving DecidableEq, Repr, Inhabited

/-- A decimal fraction: `mantissa * 10 ^ exponent`, with its sign. -/
structure Decimal where
  negative : Bool
  mantissa : Nat
  exponent : Int
  /-- Whether it is written without point and exponent. -/
  whole : Bool
  deriving DecidableEq, Repr, Inhabited

namespace Decimal

/-- The value of a row of digits. -/
def digitsValue (digits : List Char) : Nat :=
  digits.foldl (fun value c => 10 * value + (c.toNat - '0'.toNat)) 0

/-- Drops a sign in front, and says whether it was a minus. -/
def takeSign : List Char → Bool × List Char
  | '-' :: rest => (true, rest)
  | '+' :: rest => (false, rest)
  | chars => (false, chars)

/-- The exponent that some characters are, of which there may be none. -/
def exponent? : List Char → Option Int
  | [] => some 0
  | mark :: rest =>
    let (negative, digits) := takeSign rest
    if (mark = 'e' || mark = 'E') && !digits.isEmpty && digits.all Char.isDigit then
      some (if negative then -(digitsValue digits : Int) else digitsValue digits)
    else none

/-- Blanks around a number. -/
def isSpace (c : Char) : Bool :=
  c = ' ' || (0x09 ≤ c.toNat && c.toNat ≤ 0x0d)

/-- Drops the blanks around a number. -/
def trim (chars : List Char) : List Char :=
  ((chars.dropWhile isSpace).reverse.dropWhile isSpace).reverse

/-- Reads a decimal fraction, with blanks around it. -/
def parse? (text : String) : Option Decimal :=
  let (negative, unsigned) := takeSign (trim text.toList)
  let whole := unsigned.takeWhile Char.isDigit
  let behind := unsigned.dropWhile Char.isDigit
  let (fraction, rest) := match behind with
    | '.' :: digits => (digits.takeWhile Char.isDigit, digits.dropWhile Char.isDigit)
    | _ => ([], behind)
  if whole.isEmpty && fraction.isEmpty then none
  else
    (exponent? rest).map fun exponent =>
      ⟨negative, digitsValue (whole ++ fraction), exponent - fraction.length, behind.isEmpty⟩

/-- The nearest floating-point number to `numerator / denominator`, as a multiple of the smallest
one. Of two that are equally near the one with an even last digit is taken. -/
def nearest (numerator denominator : Nat) : Nat :=
  let scaled := numerator * Nat.pow 2 1074
  let unit := Nat.pow 2 ((scaled / denominator).log2 - 52)
  let step := denominator * unit
  let count := scaled / step
  let twice := 2 * (scaled % step)
  let rounded :=
    if step < twice || (twice = step && count % 2 = 1) then (count + 1) * unit else count * unit
  min rounded (Nat.pow 2 2098)

/-- The nearest floating-point number to a fraction without its sign. Exponents far out of reach
are decided without powers. -/
def magnitude (decimal : Decimal) : Nat :=
  match decimal.exponent with
  | .ofNat shift =>
    if decimal.mantissa = 0 then 0
    else if 400 < shift then Nat.pow 2 2098
    else nearest (decimal.mantissa * Nat.pow 10 shift) 1
  | .negSucc shift =>
    if decimal.mantissa.log2 + 400 < shift then 0
    else nearest decimal.mantissa (Nat.pow 10 (shift + 1))

end Decimal

namespace Datum

/-- Whether an integer fits in 64 bits. -/
def isWord (value : Int) : Bool :=
  -(Nat.pow 2 63 : Int) ≤ value && value < Nat.pow 2 63

/-- A number in a column for numbers: an integer if it is one and fits, else a floating-point
number. -/
def ofDecimal (decimal : Decimal) : Datum :=
  let signed (size : Nat) : Int := if decimal.negative then -(size : Int) else size
  if decimal.whole && isWord (signed decimal.mantissa) then .integer (signed decimal.mantissa)
  else
    let scaled := decimal.magnitude
    let size := scaled / Nat.pow 2 1074
    if scaled % Nat.pow 2 1074 = 0 && size < Nat.pow 2 63 - 1 then .integer (signed size)
    else .real (signed scaled)

/-- What a text becomes in a column for numbers. -/
def ofText (value : String) : Datum :=
  (Decimal.parse? value).elim (.text value) ofDecimal

/-- The integer that a value is. -/
def integer? : Datum → Option Int
  | .integer value => some value
  | _ => none

/-- A number as a multiple of the smallest floating-point number. -/
def scaled? : Datum → Option Int
  | .integer value => some (value * Nat.pow 2 1074)
  | .real scaled => some scaled
  | .text _ => none

/-- Whether a value comes before another or is its equal: numbers by size, then texts. -/
def le (x y : Datum) : Bool :=
  match x.scaled?, y.scaled?, x, y with
  | some x, some y, _, _ => x ≤ y
  | some _, none, _, _ => true
  | none, some _, _, _ => false
  | none, none, .text x, .text y => x ≤ y
  | none, none, _, _ => true

/-- Whether a row of values comes before another of the same length or is its equal: the first
place in which they differ decides. -/
def leList : List Datum → List Datum → Bool
  | x :: xs, y :: ys => if x = y then leList xs ys else x.le y
  | _, _ => true

/-- The complaint about a value that cannot be read from a column. -/
def fault (column : Nat) (name : String) : Datum → DatabaseFault
  | .integer value => .outOfRange value column
  | .real _ => .wrongType "Real" column name
  | .text _ => .wrongType "Text" column name

end Datum

/-- What a column holds: a value that can be read, or a foreign one. -/
inductive Cell (α : Type) where
  | value (content : α)
  | foreign (datum : Datum)
  deriving DecidableEq, Repr, Inhabited

namespace Cell

/-- Reads a cell of a column, which is counted from zero. -/
def read {α : Type} (column : Nat) (name : String) : Cell α → Except DatabaseFault α
  | .value content => .ok content
  | .foreign datum => .error (datum.fault column name)

/-- A value that can be read is read. -/
@[simp]
theorem read_value {α : Type} (column : Nat) (name : String) (content : α) :
    (Cell.value content).read column name = .ok content :=
  rfl

/-- A count, which has to fit in 32 bits. -/
def count (datum : Datum) : Cell Nat :=
  match datum with
  | .integer number =>
    if 0 ≤ number && number < Nat.pow 2 32 then .value number.toNat else .foreign datum
  | _ => .foreign datum

/-- A size in bytes, which is read without its sign. -/
def size (datum : Datum) : Cell Nat :=
  match datum with
  | .integer number => .value (number % Nat.pow 2 64).toNat
  | _ => .foreign datum

/-- A point in time. -/
def time (datum : Datum) : Cell Int :=
  match datum with
  | .integer number => .value number
  | _ => .foreign datum

/-- The value of the database that a count stands for. -/
def datum : Cell Nat → Datum
  | .value content => .integer content
  | .foreign datum => datum

end Cell

end SourceLedger
