/-!
# Points in time

Times are counted in nanoseconds from the beginning of 1970, without leap seconds. `describe`
writes one as a date and a time of day. The date is found in the calendar that repeats every 400
years, with years that begin in March, so that a leap day is the last day of its year.
-/

namespace SourceLedger.Text.Timestamp

/-- A day of the calendar. -/
structure Date where
  year : Int
  month : Nat
  day : Nat
  deriving DecidableEq, Repr

/-- The number of days in 400 years. -/
def daysPerEra : Int := 146097

/-- The date of a day counted from the beginning of 1970. -/
def dateOfDay (days : Int) : Date :=
  let shifted := days + 719468
  let era := shifted.fdiv daysPerEra
  let dayOfEra := (shifted - era * daysPerEra).toNat
  let yearOfEra := (dayOfEra - dayOfEra / 1460 + dayOfEra / 36524 - dayOfEra / 146096) / 365
  let dayOfYear := dayOfEra - (365 * yearOfEra + yearOfEra / 4 - yearOfEra / 100)
  let monthFromMarch := (5 * dayOfYear + 2) / 153
  let day := dayOfYear - (153 * monthFromMarch + 2) / 5 + 1
  let month := if monthFromMarch < 10 then monthFromMarch + 3 else monthFromMarch - 9
  let year := era * 400 + yearOfEra + (if month ≤ 2 then 1 else 0)
  ⟨year, month, day⟩

/-- A number with at least `width` digits. -/
def padded (width n : Nat) : String :=
  let digits := toString n
  String.ofList (List.replicate (width - digits.length) '0') ++ digits

/-- A time as date and time of day. -/
def describe (nanoseconds : Int) : String :=
  let seconds := nanoseconds.fdiv 1000000000
  let days := seconds.fdiv 86400
  let ofDay := (seconds - days * 86400).toNat
  let date := dateOfDay days
  s!"{padded 4 date.year.toNat}-{padded 2 date.month}-{padded 2 date.day} " ++
    s!"{padded 2 (ofDay / 3600)}:{padded 2 (ofDay / 60 % 60)}:{padded 2 (ofDay % 60)} UTC"

example : describe 0 = "1970-01-01 00:00:00 UTC" := by cbv

example : describe 1500000000000000000 = "2017-07-14 02:40:00 UTC" := by cbv

example : describe (-1) = "1969-12-31 23:59:59 UTC" := by cbv

end SourceLedger.Text.Timestamp
