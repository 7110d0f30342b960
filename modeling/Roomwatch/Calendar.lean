import Roomwatch.Number.Measure

/-! Instants and their dates.

An instant is a number of nanoseconds since the start of 1970 in Coordinated
Universal Time; earlier ones are negative. `Instant.seconds` is the whole second
an instant lies in, counted downwards before 1970, and `elapsed` the exact time
between two instants. This count has no place for leap seconds: an instant within
one, which a clock may show as a second of more than a billion nanoseconds, cannot
be expressed. `Instant.text` writes an instant as a date of the Gregorian calendar
and a time of day, with no, three, six or nine digits of fraction: the fewest that
are exact. -/
namespace Roomwatch

open Number (nanosPerSecond)

structure Instant where
  nanos : Int
deriving DecidableEq, Repr

namespace Instant

/-- A second and the nanoseconds after it. -/
def ofParts (seconds : Int) (nanos : Nat) : Instant := ⟨seconds * nanosPerSecond + nanos⟩

/-- The whole second an instant lies in. -/
def seconds (t : Instant) : Int := t.nanos.fdiv nanosPerSecond

/-- The nanoseconds since the start of that second. -/
def subsecond (t : Instant) : Nat := (t.nanos.fmod nanosPerSecond).toNat

/-- The nanoseconds from one instant to another, negative when the second one is earlier. -/
def elapsed (start finish : Instant) : Int := finish.nanos - start.nanos

/-- Year, month and day of a day counted from the start of 1970. Years are counted
from March, so that a leap day is the last day of its year, and in eras of 400
years, all of the same length. -/
def date (day : Int) : Int × Nat × Nat :=
  let shifted := day + 719468
  let era := shifted.fdiv 146097
  let dayOfEra := (shifted.fmod 146097).toNat
  let yearOfEra :=
    (dayOfEra - dayOfEra / 1460 + dayOfEra / 36524 - dayOfEra / 146096) / 365
  let dayOfYear := dayOfEra - (365 * yearOfEra + yearOfEra / 4 - yearOfEra / 100)
  let shiftedMonth := (5 * dayOfYear + 2) / 153
  let dayOfMonth := dayOfYear - (153 * shiftedMonth + 2) / 5 + 1
  let month := if shiftedMonth < 10 then shiftedMonth + 3 else shiftedMonth - 9
  let year := era * 400 + yearOfEra + if month ≤ 2 then 1 else 0
  (year, month, dayOfMonth)

/-- A number with zeros in front of it up to a width. -/
def padded (width n : Nat) : String :=
  let digits := Nat.toDigits 10 n
  String.ofList (List.replicate (width - digits.length) '0' ++ digits)

/-- A year outside 0 to 9999 carries its sign. -/
def yearText (year : Int) : String :=
  let size := padded 4 year.natAbs
  if year < 0 then "-" ++ size
  else if 9999 < year then "+" ++ size
  else size

def fractionText (nanos : Nat) : String :=
  if nanos = 0 then ""
  else if nanos % 1000000 = 0 then "." ++ padded 3 (nanos / 1000000)
  else if nanos % 1000 = 0 then "." ++ padded 6 (nanos / 1000)
  else "." ++ padded 9 nanos

def text (t : Instant) : String :=
  let (year, month, day) := date (t.seconds.fdiv 86400)
  let second := (t.seconds.fmod 86400).toNat
  yearText year ++ "-" ++ padded 2 month ++ "-" ++ padded 2 day ++ " " ++
    padded 2 (second / 3600) ++ ":" ++ padded 2 (second / 60 % 60) ++ ":" ++
    padded 2 (second % 60) ++ fractionText t.subsecond ++ " UTC"

end Instant
end Roomwatch
