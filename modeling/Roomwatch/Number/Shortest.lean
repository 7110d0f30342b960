/-! The shortest decimal text of a binary64 number.

A finite number is a fraction, and so are the two ends of the interval of reals
that round to it. On the grid of the multiples of a power of ten only the
number's two neighbours can be the nearest points inside that interval. `pick`
tries ever finer grids and takes the first one with a neighbour inside, the
nearer of two, and the upper one when both are equally near; all of it is exact
arithmetic on natural numbers. The text is positional: it never has an exponent,
and a whole number has no point. -/
namespace Roomwatch.Number.Shortest

/-- A positive fraction `value / unit`, and the ends `low / unit` and
`high / unit` of the interval that rounds to it; the ends belong to the interval
when `closed`. -/
structure Target where
  value : Nat
  low : Nat
  high : Nat
  unit : Nat
  closed : Bool

/-- The finite number `mantissa * 2 ^ exponent`. Its neighbour below is nearer
when the mantissa is the least of its binade. -/
def Target.ofParts (mantissa : Nat) (exponent : Int) (least : Bool) : Target :=
  let quarter := exponent - 2
  let scale := Nat.pow 2 quarter.toNat
  { value := 4 * mantissa * scale
    low := (4 * mantissa - if least then 1 else 2) * scale
    high := (4 * mantissa + 2) * scale
    unit := Nat.pow 2 (-quarter).toNat
    closed := mantissa % 2 == 0 }

/-- The same target measured in steps of `10 ^ k`. -/
def Target.onGrid (t : Target) (k : Int) : Target :=
  let finer := Nat.pow 10 (-k).toNat
  { t with
    value := t.value * finer
    low := t.low * finer
    high := t.high * finer
    unit := t.unit * Nat.pow 10 k.toNat }

/-- Whether a whole number of steps lies in the interval. -/
def Target.holds (t : Target) (steps : Nat) : Bool :=
  if t.closed then t.low ≤ steps * t.unit && steps * t.unit ≤ t.high
  else t.low < steps * t.unit && steps * t.unit < t.high

/-- Of the two grid neighbours of the value, the nearer one inside the interval. -/
def Target.neighbour? (t : Target) : Option Nat :=
  let below := t.value / t.unit
  let above := below + 1
  let nearer := if t.unit ≤ 2 * (t.value % t.unit) then above else below
  let farther := if t.unit ≤ 2 * (t.value % t.unit) then below else above
  if t.holds nearer then some nearer
  else if t.holds farther then some farther
  else none

/-- The coarsest grid from `10 ^ k` downwards with a neighbour inside, and that
neighbour; seventeen digits always suffice. -/
def pick (t : Target) : Nat → Int → Nat × Int
  | 0, k => (let g := t.onGrid k; (g.value / g.unit, k))
  | tries + 1, k =>
    match (t.onGrid k).neighbour? with
    | some steps => (steps, k)
    | none => pick t tries (k - 1)

/-- A power of ten above the target. -/
def magnitude (t : Target) : Int :=
  if t.unit ≤ t.value then (Nat.toDigits 10 (t.value / t.unit)).length
  else 2 - (Nat.toDigits 10 (t.unit / t.value)).length

/-- The positional text of `steps * 10 ^ k`. -/
def positional (steps : Nat) (k : Int) : List Char :=
  let digits := Nat.toDigits 10 steps
  if 0 ≤ k then digits ++ List.replicate k.toNat '0'
  else
    let places := (-k).toNat
    let padded := List.replicate (places + 1 - digits.length) '0' ++ digits
    padded.take (padded.length - places) ++ '.' :: padded.drop (padded.length - places)

/-- The place value of the sign bit. -/
def signPlace : Nat := 0x8000000000000000

/-- The place value of the lowest exponent bit: so many fractions there are. -/
def exponentPlace : Nat := 0x10000000000000

/-- How many exponents there are; the last one is for infinities and "not a number". -/
def exponents : Nat := 0x800

/-- The text of a binary64 number, from its bits. -/
def text (x : Float) : List Char :=
  let bits := x.toBits.toNat
  let sign := if bits / signPlace = 1 then ['-'] else []
  let biased := bits / exponentPlace % exponents
  let fraction := bits % exponentPlace
  if biased = exponents - 1 then
    if fraction = 0 then sign ++ ['i', 'n', 'f'] else ['N', 'a', 'N']
  else if biased = 0 ∧ fraction = 0 then sign ++ ['0']
  else
    let mantissa := if biased = 0 then fraction else exponentPlace + fraction
    let exponent : Int := (max biased 1 : Nat) - 1075
    let target := Target.ofParts mantissa exponent (fraction == 0 && 1 < biased)
    let (steps, k) := pick target 20 (magnitude target)
    sign ++ positional steps k

end Roomwatch.Number.Shortest
