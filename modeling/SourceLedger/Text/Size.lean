/-!
# Sizes

Numbers of bytes are written in the largest unit that they fill, with one decimal place; a half
goes to the even neighbour. Sizes below a kilobyte are written in bytes.
-/

namespace SourceLedger.Text.Size

/-- The quotient of two numbers in tenths, rounded to the nearest, a half to the even one. -/
def tenths (n unit : Nat) : Nat :=
  let low := 10 * n / unit
  let rest := 10 * n % unit
  if unit < 2 * rest || (2 * rest = unit && low % 2 = 1) then low + 1 else low

/-- A number of bytes in some unit. -/
def inUnit (bytes unit : Nat) (name : String) : String :=
  let rounded := tenths bytes unit
  s!"{rounded / 10}.{rounded % 10} {name}"

/-- A number of bytes in a fitting unit. -/
def describe (bytes : Nat) : String :=
  if 1024 * 1024 * 1024 ≤ bytes then inUnit bytes (1024 * 1024 * 1024) "GB"
  else if 1024 * 1024 ≤ bytes then inUnit bytes (1024 * 1024) "MB"
  else if 1024 ≤ bytes then inUnit bytes 1024 "KB"
  else s!"{bytes} B"

example : describe 512 = "512 B" := by cbv

example : describe 2048 = "2.0 KB" := by cbv

example : describe (3 * 1024 * 1024) = "3.0 MB" := by cbv

end SourceLedger.Text.Size
