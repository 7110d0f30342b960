import Roomwatch.Number.Shortest

/-! The numbers that gauges and histograms hold.

A gauge goes up and down by one, and a histogram adds up lifetimes and compares
each one with whole-second bounds. `Measure` asks for nothing else, so that a
registry is written once for two kinds of number: `Float`, which a recorder holds
and which rounds, and `Exact`, whole billionths, in which the same sums are the
true ones. -/
namespace Roomwatch.Number

class Measure (α : Type) where
  zero : α
  up : α → α
  down : α → α
  add : α → α → α
  /-- A lifetime of so many nanoseconds, in seconds. -/
  ofNanos : Nat → α
  /-- Whether an amount is at most a whole number of seconds. -/
  within : α → Nat → Bool
  text : α → List Char

def nanosPerSecond : Nat := 1000000000

/-- Lifetimes round twice: the fraction of a second, and its sum with the whole seconds. -/
instance : Measure Float where
  zero := 0.0
  up x := x + 1.0
  down x := x - 1.0
  add x y := x + y
  ofNanos n := Float.ofNat (n / nanosPerSecond) + Float.ofNat (n % nanosPerSecond) / 1e9
  within x bound := x ≤ Float.ofNat bound
  text := Shortest.text

/-- An exact amount: a whole number of billionths. -/
structure Exact where
  billionths : Int
deriving DecidableEq, Repr

namespace Exact

def ofInt (n : Int) : Exact := ⟨n * nanosPerSecond⟩

/-- The digits after the point of `n` billionths, without zeros at the end. -/
def fraction (n : Nat) : List Char :=
  let digits := Nat.toDigits 10 n
  let padded := List.replicate (9 - digits.length) '0' ++ digits
  (padded.reverse.dropWhile (· = '0')).reverse

def text (x : Exact) : List Char :=
  let size := x.billionths.natAbs
  let sign := if x.billionths < 0 then ['-'] else []
  let whole := Nat.toDigits 10 (size / nanosPerSecond)
  let part := size % nanosPerSecond
  sign ++ whole ++ if part = 0 then [] else '.' :: fraction part

instance : Measure Exact where
  zero := ⟨0⟩
  up x := ⟨x.billionths + nanosPerSecond⟩
  down x := ⟨x.billionths - nanosPerSecond⟩
  add x y := ⟨x.billionths + y.billionths⟩
  ofNanos n := ⟨n⟩
  within x bound := x.billionths ≤ bound * nanosPerSecond
  text := text

theorem up_ofInt (n : Int) : Measure.up (ofInt n) = ofInt (n + 1) := by
  simp [Measure.up, ofInt, Int.add_mul]

theorem down_ofInt (n : Int) : Measure.down (ofInt n) = ofInt (n - 1) := by
  simp [Measure.down, ofInt, Int.sub_mul]

end Exact
end Roomwatch.Number
