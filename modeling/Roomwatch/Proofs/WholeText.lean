import Mathlib
import Roomwatch.Number.Numeral
import Roomwatch.Proofs.Whole

/-! The text of a whole number.

The shortest text of a whole number within the bound is its digits (`text_whole`). The
interval that rounds to it holds no other whole number (`Around`), so whichever grid
the search for the shortest text stops at, the number is the point it has found
(`pick_around`), and the zeros that the grid leaves out are put back (`positional_eq`).
Reading the digits gives the number again, without a second rounding
(`toFloat_whole`). -/
namespace Roomwatch.Number

open Float.Model (Format UnpackedFloat)
open Float.Model.UnpackedFloat

namespace Shortest

/-! ### Searching the grids -/

/-- The interval of a target holds no whole number but `n`, the target itself. -/
structure Target.Around (t : Target) (n : Nat) : Prop where
  positive : 0 < n
  unit : 0 < t.unit
  value : t.value = n * t.unit
  low : t.low < t.value
  high : t.value < t.high
  below : t.value < t.low + t.unit
  above : t.high < t.value + t.unit

variable {t : Target} {n : Nat}

theorem Target.onGrid_of_nonneg (t : Target) {k : Int} (hk : 0 ≤ k) :
    t.onGrid k = { t with unit := t.unit * 10 ^ k.toNat } := by
  have hfiner : Nat.pow 10 (-k).toNat = 1 := by
    rw [show (-k).toNat = 0 by omega, Nat.pow_eq, pow_zero]
  simp only [onGrid, hfiner, mul_one, Nat.pow_eq]

/-- A grid point inside the interval is the target. -/
theorem Target.Around.eq_of_holds (h : t.Around n) {k : Int} (hk : 0 ≤ k) {steps : Nat}
    (hin : (t.onGrid k).holds steps = true) : steps * 10 ^ k.toNat = n := by
  rw [onGrid_of_nonneg t hk] at hin
  have hends : t.low ≤ steps * (t.unit * 10 ^ k.toNat) ∧
      steps * (t.unit * 10 ^ k.toNat) ≤ t.high := by
    simp only [holds] at hin
    split at hin
    · simpa using hin
    · have : t.low < steps * (t.unit * 10 ^ k.toNat) ∧
          steps * (t.unit * 10 ^ k.toNat) < t.high := by simpa using hin
      exact ⟨this.1.le, this.2.le⟩
  obtain ⟨hlow, hhigh⟩ := hends
  have hpoint : steps * (t.unit * 10 ^ k.toNat) = steps * 10 ^ k.toNat * t.unit := by ring
  rw [hpoint] at hlow hhigh
  have hvalue := h.value
  have hbelow := h.below
  have habove := h.above
  refine Nat.le_antisymm ?_ ?_
  · refine Nat.lt_succ_iff.1 (Nat.lt_of_mul_lt_mul_right (a := t.unit) ?_)
    rw [Nat.succ_mul]
    omega
  · refine Nat.lt_succ_iff.1 (Nat.lt_of_mul_lt_mul_right (a := t.unit) ?_)
    rw [Nat.succ_mul]
    omega

theorem Target.holds_of_neighbour? {g : Target} {steps : Nat} (h : g.neighbour? = some steps) :
    g.holds steps = true := by
  have first (a b : Nat) (hab : (if g.holds a = true then some a
      else if g.holds b = true then some b else none) = some steps) : g.holds steps = true := by
    by_cases ha : g.holds a = true
    · rw [if_pos ha] at hab
      exact Option.some.inj hab ▸ ha
    · by_cases hb : g.holds b = true
      · rw [if_neg ha, if_pos hb] at hab
        exact Option.some.inj hab ▸ hb
      · rw [if_neg ha, if_neg hb] at hab
        contradiction
  exact first _ _ h

/-- The grid of the whole numbers has the target as a point. -/
theorem Target.Around.neighbour?_zero (h : t.Around n) : (t.onGrid 0).neighbour? = some n := by
  have hgrid : t.onGrid 0 = t := by
    rw [onGrid_of_nonneg t (le_refl 0)]
    simp
  have hdiv : t.value / t.unit = n := by rw [h.value, Nat.mul_div_cancel _ h.unit]
  have hmod : t.value % t.unit = 0 := by rw [h.value, Nat.mul_mod_left]
  have hfar : ¬ t.unit ≤ 2 * 0 := by
    have := h.unit
    omega
  have hin : t.holds n = true := by
    have hlow := h.low
    have hhigh := h.high
    rw [h.value] at hlow hhigh
    simp [holds, hlow, hhigh, hlow.le, hhigh.le]
  rw [hgrid, neighbour?]
  simp only [hdiv, hmod, hfar, if_false, hin, if_true]

theorem pick_around (h : t.Around n) (tries : Nat) (k : Nat) (hk : k < tries) :
    ∃ steps j : Nat, pick t tries k = (steps, (j : Int)) ∧ steps * 10 ^ j = n := by
  induction k generalizing tries with
  | zero =>
    obtain ⟨rest, rfl⟩ : ∃ rest, tries = rest + 1 := ⟨tries - 1, by omega⟩
    refine ⟨n, 0, ?_, by simp⟩
    simp only [pick, Nat.cast_zero, h.neighbour?_zero]
  | succ k ih =>
    obtain ⟨rest, rfl⟩ : ∃ rest, tries = rest + 1 := ⟨tries - 1, by omega⟩
    cases hpoint : (t.onGrid (k + 1 : Nat)).neighbour? with
    | some steps =>
      refine ⟨steps, k + 1, by simp only [pick, hpoint], ?_⟩
      have := h.eq_of_holds (Int.natCast_nonneg (k + 1)) (Target.holds_of_neighbour? hpoint)
      simpa using this
    | none =>
      obtain ⟨steps, j, hpick, hvalue⟩ := ih rest (by omega)
      refine ⟨steps, j, ?_, hvalue⟩
      simp only [pick, hpoint]
      rw [show ((k + 1 : Nat) : Int) - 1 = k by omega, hpick]

theorem positional_eq {steps : Nat} (hs : 0 < steps) (j : Nat) :
    positional steps j = Nat.toDigits 10 (steps * 10 ^ j) := by
  have hnonneg : (0 : Int) ≤ j := Int.natCast_nonneg j
  simp only [positional, hnonneg, if_true, Int.toNat_natCast]
  induction j with
  | zero => simp
  | succ j ih =>
    have hpos : 0 < steps * 10 ^ j := by positivity
    have hzero : Nat.toDigits 10 0 = ['0'] := rfl
    rw [List.replicate_succ', ← List.append_assoc, ih (Int.natCast_nonneg j), ← hzero,
      Nat.toDigits_append_toDigits (by decide) hpos (by decide), pow_succ]
    congr 1
    ring

/-! ### The digits of a whole number -/

theorem around_ofParts {n m : Nat} {e : Int} (h : Normal n m e) (he : e ≤ 0) (least : Bool) :
    (Target.ofParts m e least).Around n := by
  have hleast := h.least
  have hscale : Nat.pow 2 (e - 2).toNat = 1 := by
    rw [show (e - 2).toNat = 0 by omega, Nat.pow_eq, pow_zero]
  have hunit : Nat.pow 2 (-(e - 2)).toNat = 4 * 2 ^ (0 - e).toNat := by
    rw [show (-(e - 2)).toNat = (0 - e).toNat + 2 by omega, Nat.pow_eq, pow_add]
    ring
  have hm : n * 2 ^ (0 - e).toNat = m := by
    rw [h.unscaled, show (e - 0).toNat = 0 by omega, pow_zero, mul_one]
  have hn : 0 < n := by
    rcases Nat.eq_zero_or_pos n with rfl | hn
    · omega
    · exact hn
  have hpos : 0 < 2 ^ (0 - e).toNat := Nat.two_pow_pos _
  simp only [Target.ofParts, hscale, hunit, mul_one]
  constructor
  case positive => exact hn
  case unit =>
    dsimp only
    omega
  case value =>
    rw [← hm]
    ring
  case low =>
    dsimp only
    split <;> omega
  case high =>
    dsimp only
    omega
  case below =>
    dsimp only
    split <;> omega
  case above =>
    dsimp only
    omega

/-- The search finds a target that is a whole number of at most sixteen digits. -/
theorem pick_magnitude {t : Target} {n : Nat} (h : t.Around n) (hn : n < 10 ^ 16) :
    ∃ steps j : Nat, pick t 20 (magnitude t) = (steps, (j : Int)) ∧ steps * 10 ^ j = n := by
  have hunit : t.unit ≤ t.value := by
    rw [h.value]
    exact Nat.le_mul_of_pos_left _ h.positive
  have hdiv : t.value / t.unit = n := by rw [h.value, Nat.mul_div_cancel _ h.unit]
  have hlength : (Nat.toDigits 10 n).length ≤ 16 :=
    (Nat.length_toDigits_le_iff (by decide) (by decide)).2 hn
  rw [magnitude, if_pos hunit, hdiv]
  exact pick_around h 20 _ (by omega)

/-- The word of a whole number. -/
theorem toBits_whole {n : Int} {m : Nat} {e : Int} (h : Normal n.natAbs m e) :
    (whole n).toBits.toNat =
      (if n < 0 then 1 else 0) * 2 ^ 63 + (e + 1075).toNat * 2 ^ 52 + (m - 2 ^ 52) := by
  have hlow : -1074 ≤ e := by have := h.low; omega
  have hhigh : e ≤ 971 := by have := h.high; omega
  have hword := toNat_pack h.least h.most hlow hhigh (signOf n)
  rw [← ofInt_normal h] at hword
  show (Float.Model.UnpackedFloat.pack _ (Float.Model.UnpackedFloat.ofInt _ n)).toNat = _
  rw [hword]
  unfold signOf
  split <;> rfl

/-- The fields of that word. -/
theorem fields_whole {n : Int} {m : Nat} {e : Int} (h : Normal n.natAbs m e) :
    let bits := (whole n).toBits.toNat
    (bits / signPlace = 1 ↔ n < 0) ∧ bits / exponentPlace % exponents = (e + 1075).toNat ∧
      bits % exponentPlace = m - 2 ^ 52 := by
  intro bits
  have hleast := h.least
  have hmost := h.most
  have hlow := h.low
  have hhigh := h.high
  have hbits : bits = _ := toBits_whole h
  rw [hbits]
  unfold signPlace exponentPlace exponents
  refine ⟨?_, ?_, ?_⟩
  · split <;> omega
  · split <;> omega
  · split <;> omega

theorem text_whole {n : Int} (hbound : n.natAbs ≤ wholeBound) :
    text (whole n) = (if n < 0 then ['-'] else []) ++ Nat.toDigits 10 n.natAbs := by
  by_cases hzero : n = 0
  · subst hzero
    decide +kernel
  by_cases htop : n.natAbs = wholeBound
  · obtain rfl | rfl : n = 2 ^ 53 ∨ n = -2 ^ 53 := by
      unfold wholeBound at htop
      omega
    · decide +kernel
    · decide +kernel
  obtain ⟨m, e, h⟩ := exists_normal (by omega : n.natAbs ≠ 0) hbound
  have hleast := h.least
  have hlow := h.low
  have he : e ≤ 0 := h.nonpos (by omega)
  obtain ⟨hsign, hbiased, hfraction⟩ := fields_whole h
  have hmantissa : exponentPlace + (m - 2 ^ 52) = m := by
    unfold exponentPlace
    omega
  have hexponent : ((max (e + 1075).toNat 1 : Nat) : Int) - 1075 = e := by omega
  have hnormal : (e + 1075).toNat ≠ 0 := by omega
  have hfinite : (e + 1075).toNat ≠ exponents - 1 := by
    unfold exponents
    omega
  have hfew : n.natAbs < 10 ^ 16 := by
    unfold wholeBound at hbound
    omega
  have haround := around_ofParts h he (m - 2 ^ 52 == 0 && decide (1 < (e + 1075).toNat))
  obtain ⟨steps, j, hpick, hsteps⟩ := pick_magnitude haround hfew
  have hpos : 0 < steps := by
    rcases Nat.eq_zero_or_pos steps with rfl | hpos
    · omega
    · exact hpos
  simp only [text, hbiased, hfraction, hsign, hnormal, hfinite, hmantissa, hexponent, hpick,
    if_false, false_and]
  rw [positional_eq hpos, hsteps]

end Shortest

/-! ### Reading it back -/

section Reading
variable {n : Int} (hbound : n.natAbs ≤ wholeBound)
include hbound

theorem mul_ofInt_one :
    UnpackedFloat.mul Format.binary64 (ofInt Format.binary64 n) (ofInt Format.binary64 1) =
      ofInt Format.binary64 n := by
  by_cases hn : n = 0
  · subst hn
    rfl
  · obtain ⟨m, e, h⟩ := exists_normal (by omega : n.natAbs ≠ 0) hbound
    have hlow : -1074 ≤ e := by have := h.low; omega
    rw [ofInt_normal h, ofInt_normal (n := 1) normal_one]
    have hsign : signOf n * signOf 1 = signOf n := by cases signOf n <;> rfl
    have hround := roundWithAccuracy_exact h.least h.most (signOf n) hlow 52
    show roundWithAccuracy _ (signOf n * signOf 1) (m * 2 ^ 52) (e + -52) .exact = _
    rw [hsign]
    exact hround

theorem whole_mul_one : whole n * Float.ofBits 0x3FF0000000000000 = whole n := by
  have hone : Float.ofBits 0x3FF0000000000000 = whole 1 := by decide +kernel
  rw [hone]
  show Float.ofModel (Float.Model.pack (UnpackedFloat.mul Format.binary64
    (Float.Model.ofInt n).unpack (Float.Model.ofInt 1).unpack)) = _
  rw [unpack_pack_ofInt n hbound, unpack_pack_ofInt 1 (by decide), mul_ofInt_one hbound]
  rfl

theorem neg_whole (hn : n ≠ 0) : -whole n = whole (-n) := by
  obtain ⟨m, e, h⟩ := exists_normal (by omega : n.natAbs ≠ 0) hbound
  have hneg : Normal (-n).natAbs m e := by rwa [Int.natAbs_neg]
  have hsign : -signOf n = signOf (-n) := by
    unfold signOf
    split
    · rw [if_neg (by omega)]
      rfl
    · rw [if_pos (by omega)]
      rfl
  show Float.ofModel (Float.Model.pack (Float.Model.ofInt n).unpack.neg) = _
  rw [unpack_pack_ofInt n hbound, ofInt_normal h]
  show Float.ofModel (Float.Model.pack (.finite (-signOf n) m e _)) =
    Float.ofModel (Float.Model.pack (ofInt Format.binary64 (-n)))
  rw [ofInt_normal hneg]
  simp only [hsign]

end Reading

theorem ofScientific_whole {n : Nat} (hn : n ≤ wholeBound) :
    Float.ofScientific n false 0 = whole n := by
  by_cases htop : n = wholeBound
  · subst htop
    decide +kernel
  · have hsmall : n < 2 ^ 53 ∧ 0 ≤ 22 := by
      unfold wholeBound at *
      omega
    have hword : n.toUInt64.toFloat = whole n := by
      show Float.ofModel (Float.Model.ofInt (n.toUInt64.toNat : Int)) = whole n
      have hfits : n < UInt64.size := by
        unfold UInt64.size
        omega
      rw [show n.toUInt64.toNat = n from UInt64.toNat_ofNat_of_lt' hfits]
      rfl
    rw [Float.ofScientific, dif_pos hsmall]
    show n.toUInt64.toFloat * Float.ofBits 0x3FF0000000000000 = _
    rw [hword, whole_mul_one (by rwa [Int.natAbs_natCast])]

/-- The text of a whole number is read back as that number. -/
theorem toFloat_whole {n : Int} (hbound : n.natAbs ≤ wholeBound) :
    (Numeral.decimal (decide (n < 0)) n.natAbs 0).toFloat = whole n := by
  show (if decide (n < 0) then -Float.ofScientific n.natAbs false 0
    else Float.ofScientific n.natAbs false 0) = whole n
  rw [ofScientific_whole hbound]
  by_cases hneg : n < 0
  · rw [if_pos (by simpa using hneg), neg_whole (by rwa [Int.natAbs_natCast]) (by omega)]
    congr 1
    omega
  · rw [if_neg (by simpa using hneg)]
    congr 1
    omega

end Roomwatch.Number
