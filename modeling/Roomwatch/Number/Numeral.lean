/-! Numerals as they stand in a text.

A `Numeral` is what a token says before any rounding: a decimal coefficient with
a power of ten, an infinity, or the token for "not a number". `Numeral.read?`
accepts an optional sign, digits with at most one point and at least one digit,
and an optional exponent; or, in any letter case, `inf`, `infinity` and `nan`.
Reading is exact. `Numeral.toFloat` rounds once, to the nearest binary64 number
with ties to even. -/
namespace Roomwatch.Number

inductive Numeral where
  /-- A coefficient times a power of ten. -/
  | decimal (negative : Bool) (coefficient : Nat) (exponent : Int)
  | infinite (negative : Bool)
  | undefined
deriving DecidableEq, Repr

namespace Numeral

/-- An optional sign, and what follows it. -/
def readSign : List Char → Bool × List Char
  | '+' :: rest => (false, rest)
  | '-' :: rest => (true, rest)
  | s => (false, s)

/-- The value of a string of decimal digits. -/
def ofDigits (digits : List Char) : Nat := Nat.ofDigitChars 10 digits 0

/-- The exponent part: nothing, or `e`, an optional sign and at least one digit. -/
def readExponent? : List Char → Option Int
  | [] => some 0
  | c :: rest =>
    if c = 'e' ∨ c = 'E' then
      let (negative, digits) := readSign rest
      if digits ≠ [] ∧ digits.all Char.isDigit then
        let size : Int := ofDigits digits
        some (if negative then -size else size)
      else none
    else none

/-- The digits after a point, if there is a point, and what follows. -/
def readFraction : List Char → List Char × List Char
  | '.' :: rest => (rest.takeWhile Char.isDigit, rest.dropWhile Char.isDigit)
  | s => ([], s)

/-- A decimal numeral without its sign: at least one digit, before or after the point. -/
def readDecimal? (negative : Bool) (s : List Char) : Option Numeral :=
  let whole := s.takeWhile Char.isDigit
  let (fraction, rest) := readFraction (s.dropWhile Char.isDigit)
  if whole ++ fraction = [] then none
  else (readExponent? rest).map fun exponent =>
    .decimal negative (ofDigits (whole ++ fraction)) (exponent - fraction.length)

def lower (s : List Char) : List Char := s.map Char.toLower

def infinityWords : List (List Char) := [['i', 'n', 'f'], ['i', 'n', 'f', 'i', 'n', 'i', 't', 'y']]

def undefinedWord : List Char := ['n', 'a', 'n']

def read? (s : List Char) : Option Numeral :=
  let (negative, rest) := readSign s
  if lower rest ∈ infinityWords then some (.infinite negative)
  else if lower rest = undefinedWord then some .undefined
  else readDecimal? negative rest

/-- The binary64 number nearest to a numeral. -/
def toFloat : Numeral → Float
  | .decimal negative coefficient exponent =>
    let size := Float.ofScientific coefficient (exponent < 0) exponent.natAbs
    if negative then -size else size
  | .infinite negative => if negative then -1.0 / 0.0 else 1.0 / 0.0
  | .undefined => 0.0 / 0.0

end Numeral
end Roomwatch.Number
