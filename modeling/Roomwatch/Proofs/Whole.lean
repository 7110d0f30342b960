import Mathlib
import Roomwatch.Proofs.Ledger

/-! Whole numbers in binary64.

A gauge starts at zero and moves by one, so it always holds a whole number
(`isWhole_stepped`), and up to `2 ^ 53` binary64 holds every whole number exactly; from
there on a step up is lost. `whole n` is the binary64 number nearest to `n`. Within the
bound whole numbers are added exactly (`whole_add`), so `whole n` goes up and down with
`n` (`keepsPace_whole`) and lists add up in whatever order (`stands_foldl`). All of it
follows from one fact of rounding: a mantissa that fits is kept (`round_exact`). -/
namespace Roomwatch.Number

open Float.Model (Format totalExponent UnpackedFloat)
open Float.Model.UnpackedFloat

/-- The number of whole numbers without a gap. -/
def wholeBound : Nat := 2 ^ 53

/-- The binary64 number nearest to an integer. -/
def whole (n : Int) : Float := .ofModel (Float.Model.ofInt n)

/-! ### Rounding what fits -/

/-- Shifting out zeros loses nothing. -/
theorem shiftRight_scaled (m j : Nat) :
    ExtendedMantissa.ofMantissaAndAccuracy (m * 2 ^ j) .exact >>> j =
      ExtendedMantissa.ofMantissaAndAccuracy m .exact := by
  induction j generalizing m with
  | zero =>
    rw [pow_zero, mul_one]
    rfl
  | succ j ih =>
    have hpow : m * 2 ^ (j + 1) = m * 2 * 2 ^ j := by rw [pow_succ]; ring
    show ExtendedMantissa.shiftRightOne
      (ExtendedMantissa.ofMantissaAndAccuracy (m * 2 ^ (j + 1)) .exact >>> j) = _
    rw [hpow, ih]
    simp [ExtendedMantissa.shiftRightOne, ExtendedMantissa.ofMantissaAndAccuracy]

theorem log2_mul_two_pow {m : Nat} (hm : m ≠ 0) (j : Nat) : (m * 2 ^ j).log2 = m.log2 + j := by
  induction j with
  | zero => simp
  | succ j ih =>
    have hpos : m * 2 ^ j ≠ 0 := by positivity
    rw [pow_succ, ← mul_assoc, mul_comm, Nat.log2_two_mul hpos, ih, add_assoc]

theorem unpackSign_packComponents {spec : Format} {sign : Sign} {x : BitVec spec.exponentBits}
    {y : BitVec spec.mantissaBitsWithoutImplicit} :
    unpackSign (packComponents spec sign x y) = sign.toBitVec := by
  ext i hi
  obtain rfl : i = 0 := by omega
  have habove : ¬ spec.mantissaBitsWithoutImplicit + spec.exponentBits <
      spec.mantissaBitsWithoutImplicit := by omega
  simp [unpackSign, packComponents, BitVec.getLsbD_append, habove, BitVec.getLsbD_eq_getElem,
    BitVec.getElem_append]

/-- Above the least exponent, a mantissa has one more digit than is packed. -/
theorem toNat_implicit (mantissa : BitVec 52) :
    (1#1 ++ mantissa).toNat = 2 ^ 52 + mantissa.toNat := by
  rw [BitVec.toNat_append, Nat.shiftLeft_eq]
  show 1 * 2 ^ 52 ||| mantissa.toNat = _
  rw [Nat.one_mul, Nat.or_comm, Nat.or_two_pow_eq_add_of_lt mantissa.isLt, Nat.add_comm]

section Rounding
variable {m : Nat} {e : Int} (hleast : 2 ^ 52 ≤ m) (hmost : m < 2 ^ 53)
include hleast hmost

theorem log2_eq : m.log2 = 52 := (Nat.log2_eq_iff (by omega)).2 ⟨hleast, hmost⟩

/-- A mantissa that fits is kept, however many zeros are shifted in below it. -/
theorem roundWithAccuracy_exact (sign : Sign) (he : -1074 ≤ e) (j : Nat) :
    roundWithAccuracy Format.binary64 sign (m * 2 ^ j) (e - j) .exact =
      .finite sign m e (by omega) := by
  have hlog := log2_eq hleast hmost
  have htarget (i : Nat) :
      Format.binary64.targetExponent (totalExponent (m * 2 ^ i) (e - i)) = e := by
    simp only [Format.targetExponent, totalExponent, log2_mul_two_pow (by omega : m ≠ 0), hlog,
      Format.mantissaBits, Format.minExponent]
    omega
  have hfirst : shiftToTargetExponent Format.binary64 (m * 2 ^ j) (e - j) .exact =
      (ExtendedMantissa.ofMantissaAndAccuracy m .exact, e) := by
    simp only [shiftToTargetExponent, htarget, shiftToExponent]
    rw [show (e - (e - j)).toNat = j by omega, shiftRight_scaled]
    congr 1
    omega
  have hsecond : shiftToTargetExponent Format.binary64 m e .exact =
      (ExtendedMantissa.ofMantissaAndAccuracy m .exact, e) := by
    have := htarget 0
    simp only [pow_zero, mul_one, Nat.cast_zero, sub_zero] at this
    simp only [shiftToTargetExponent, this, shiftToExponent, sub_self]
    simp
    rfl
  have finish (p : ExtendedMantissa × Int)
      (hp : p = (ExtendedMantissa.ofMantissaAndAccuracy m .exact, e)) :
      (if h : p.1.mantissa = 0 then UnpackedFloat.zero sign
        else .finite sign p.1.mantissa p.2 (Nat.pos_of_ne_zero h)) =
        .finite sign m e (by omega) := by
    subst hp
    exact dif_neg (show ¬ m = 0 by omega)
  rw [roundWithAccuracy, hfirst]
  exact finish _ hsecond

/-- A number whose mantissa fits is kept, at whatever exponent it is given. -/
theorem round_exact (sign : Sign) (he : -1074 ≤ e) {a : Nat} {x : Int}
    (h : a * 2 ^ (x - e).toNat = m * 2 ^ (e - x).toNat) :
    UnpackedFloat.round Format.binary64 sign a x = .finite sign m e (by omega) := by
  have ha : a ≠ 0 := by
    intro he
    subst he
    have : 0 < m * 2 ^ (e - x).toNat := by positivity
    omega
  have htarget : Format.binary64.targetExponent (totalExponent a x) = e := by
    have hlog := congrArg Nat.log2 h
    rw [log2_mul_two_pow ha, log2_mul_two_pow (by omega), log2_eq hleast hmost] at hlog
    simp only [Format.targetExponent, totalExponent, Format.mantissaBits, Format.minExponent]
    omega
  simp only [UnpackedFloat.round, htarget, decreaseExponent]
  rw [Nat.shiftLeft_eq, h]
  have := roundWithAccuracy_exact hleast hmost sign he (e - x).toNat
  rw [← this]
  congr 1
  omega

/-! ### The fields of a number -/

variable (hlow : -1074 ≤ e) (hhigh : e ≤ 971)
include hlow hhigh

theorem pack_finite (sign : Sign) :
    pack Format.binary64 (.finite sign m e (by omega)) =
      packComponents Format.binary64 sign (BitVec.ofNat 11 (e + 1075).toNat)
        (BitVec.ofNat 52 m) := by
  have hbias : e + Format.binary64.exponentBias + Format.binary64.mantissaBitsWithoutImplicit =
      e + 1075 := by
    show e + 1023 + 52 = _
    omega
  have hfinite : ¬ 2 ^ Format.binary64.exponentBits ≤ (e + 1075).toNat + 1 := by
    show ¬ 2048 ≤ _
    omega
  have hnormal : m.log2 + 1 = Format.binary64.mantissaBits := by
    rw [log2_eq hleast hmost]
    rfl
  simp only [pack, hbias]
  rw [if_neg hfinite, if_pos hnormal]

theorem unpack_pack (sign : Sign) :
    unpack Format.binary64 (pack Format.binary64 (.finite sign m e (by omega))) =
      .finite sign m e (by omega) := by
  have hexponent : (BitVec.ofNat 11 (e + 1075).toNat).toNat = (e + 1075).toNat := by
    rw [BitVec.toNat_ofNat]
    omega
  have hinfinite : BitVec.ofNat 11 (e + 1075).toNat ≠ -1#11 := by
    intro h
    have := congrArg BitVec.toNat h
    rw [hexponent] at this
    change (e + 1075).toNat = 2047 at this
    omega
  have hzero : BitVec.ofNat 11 (e + 1075).toNat ≠ 0#11 := by
    intro h
    have := congrArg BitVec.toNat h
    rw [hexponent] at this
    change (e + 1075).toNat = 0 at this
    omega
  have hsign (x : BitVec 11) (y : BitVec 52) :
      Sign.ofBitVec (unpackSign (packComponents Format.binary64 sign x y)) = sign := by
    rw [unpackSign_packComponents]
    cases sign <;> rfl
  have hmantissa : (1#1 ++ BitVec.ofNat 52 m).toNat = m := by
    rw [toNat_implicit, BitVec.toNat_ofNat]
    omega
  have hunbias : (((e + 1075).toNat : Int) - (Format.binary64.exponentBias + 52)) = e := by
    show ((e + 1075).toNat : Int) - (1023 + 52) = e
    omega
  rw [pack_finite hleast hmost hlow hhigh]
  simp only [unpack, unpackMantissa_packComponents, unpackExponent_packComponents, hsign]
  rw [if_neg hinfinite, if_neg hzero, UnpackedFloat.finite.injEq]
  refine ⟨rfl, hmantissa, ?_⟩
  rw [hexponent]
  exact hunbias

/-- The sign, the exponent and the rest of the mantissa, side by side in one word. -/
theorem toNat_pack (sign : Sign) :
    (pack Format.binary64 (.finite sign m e (by omega))).toNat =
      sign.toBitVec.toNat * 2 ^ 63 + (e + 1075).toNat * 2 ^ 52 + (m - 2 ^ 52) := by
  have hm : m % 2 ^ 52 = m - 2 ^ 52 := by omega
  have hm' : m - 2 ^ 52 < 2 ^ 52 := by omega
  have he : (e + 1075).toNat % 2 ^ 11 = (e + 1075).toNat := by omega
  rw [pack_finite hleast hmost hlow hhigh, packComponents, BitVec.toNat_append, BitVec.toNat_append,
    BitVec.toNat_ofNat, BitVec.toNat_ofNat, Nat.shiftLeft_eq, Nat.shiftLeft_eq]
  show (sign.toBitVec.toNat * 2 ^ 11 ||| (e + 1075).toNat % 2 ^ 11) * 2 ^ 52 ||| m % 2 ^ 52 = _
  rw [he, hm, mul_comm _ (2 ^ 11), ← Nat.two_pow_add_eq_or_of_lt (by omega), mul_comm _ (2 ^ 52),
    ← Nat.two_pow_add_eq_or_of_lt hm']
  ring

end Rounding

/-! ### Whole numbers in normal form -/

/-- The mantissa and the exponent of a positive whole number. -/
structure Normal (n m : Nat) (e : Int) : Prop where
  least : 2 ^ 52 ≤ m
  most : m < 2 ^ 53
  low : -52 ≤ e
  high : e ≤ 1
  value : n * 2 ^ 52 = m * 2 ^ (e + 52).toNat

theorem exists_normal {n : Nat} (hn : n ≠ 0) (hbound : n ≤ wholeBound) : ∃ m e, Normal n m e := by
  by_cases htop : n = wholeBound
  · exact ⟨2 ^ 52, 1, by omega, by omega, by omega, by omega, by rw [htop]; rfl⟩
  · have hlog : n.log2 ≤ 52 := by
      have : n < 2 ^ 53 := by
        unfold wholeBound at *
        omega
      have := (Nat.log2_lt hn).2 this
      omega
    obtain ⟨k, hk⟩ : ∃ k, n.log2 + k = 52 := ⟨52 - n.log2, by omega⟩
    have hleast := Nat.mul_le_mul_right (2 ^ k) (Nat.log2_self_le hn)
    have hmost := Nat.mul_lt_mul_of_pos_right (Nat.lt_log2_self (n := n)) (Nat.two_pow_pos k)
    rw [← pow_add, hk] at hleast
    rw [← pow_add, show n.log2 + 1 + k = 53 by omega] at hmost
    refine ⟨n * 2 ^ k, n.log2 - 52, hleast, hmost, by omega, by omega, ?_⟩
    rw [show ((n.log2 : Int) - 52 + 52).toNat = n.log2 by omega, mul_assoc, ← pow_add,
      show k + n.log2 = 52 by omega]

/-- Only the bound itself needs a positive exponent. -/
theorem Normal.nonpos {n m : Nat} {e : Int} (h : Normal n m e) (hn : n < wholeBound) : e ≤ 0 := by
  by_contra hpos
  obtain rfl : e = 1 := by
    have := h.high
    omega
  have hleast := h.least
  have hvalue : n * 2 ^ 52 = m * 2 ^ 53 := h.value
  unfold wholeBound at hn
  omega

/-- A normal form is one of the number at any exponent. -/
theorem Normal.rescaled {n m k : Nat} {e x : Int} (h : Normal n m e) (hx : -52 ≤ x)
    (hk : k * 2 ^ (x + 52).toNat = n * 2 ^ 52) :
    k * 2 ^ (x - e).toNat = m * 2 ^ (e - x).toNat := by
  have hlow := h.low
  refine Nat.eq_of_mul_eq_mul_right (Nat.two_pow_pos (min e x + 52).toNat) ?_
  rw [mul_assoc, ← pow_add, mul_assoc, ← pow_add,
    show (x - e).toNat + (min e x + 52).toNat = (x + 52).toNat by omega,
    show (e - x).toNat + (min e x + 52).toNat = (e + 52).toNat by omega, hk, h.value]

theorem Normal.unscaled {n m : Nat} {e : Int} (h : Normal n m e) :
    n * 2 ^ (0 - e).toNat = m * 2 ^ (e - 0).toNat := h.rescaled (by omega) rfl

def signOf (n : Int) : Sign := if n < 0 then .negative else .positive

theorem signOf_apply (n : Int) : (signOf n).apply n.natAbs = n := by
  unfold signOf
  split
  · show -(n.natAbs : Int) = n
    omega
  · show (n.natAbs : Int) = n
    omega

theorem normalize_eq_round {n : Int} (hn : n ≠ 0) (x : Int) (zero : Sign) :
    UnpackedFloat.normalize Format.binary64 n x zero =
      UnpackedFloat.round Format.binary64 (signOf n) n.natAbs x := by
  unfold UnpackedFloat.normalize signOf
  rcases Int.lt_trichotomy n 0 with h | h | h
  · rw [Int.compare_eq_lt.2 h, if_pos h]
    show UnpackedFloat.round _ _ (-n).toNat x = _
    rw [show (-n).toNat = n.natAbs by omega]
  · contradiction
  · rw [Int.compare_eq_gt.2 h, if_neg (by omega)]
    show UnpackedFloat.round _ _ n.toNat x = _
    rw [show n.toNat = n.natAbs by omega]

section Parts
variable {n : Int} {m : Nat} {e : Int}

theorem ofInt_normal (h : Normal n.natAbs m e) :
    ofInt Format.binary64 n = .finite (signOf n) m e (by have := h.least; omega) := by
  have hn : n ≠ 0 := by
    intro he
    subst he
    have hvalue := h.value
    have : 0 < m * 2 ^ (e + 52).toNat := Nat.mul_pos (by have := h.least; omega) (Nat.two_pow_pos _)
    simp only [Int.natAbs_zero] at hvalue
    omega
  rw [ofInt, normalize_eq_round hn]
  exact round_exact h.least h.most _ (by have := h.low; omega) h.unscaled

/-- A whole number is the same however it was scaled before rounding. -/
theorem normalize_eq_ofInt {k x : Int} (hx : -52 ≤ x) (hk : k * 2 ^ (x + 52).toNat = n * 2 ^ 52)
    (hbound : n.natAbs ≤ wholeBound) :
    UnpackedFloat.normalize Format.binary64 k x .positive = ofInt Format.binary64 n := by
  have hscale : (0 : Int) < 2 ^ (x + 52).toNat := by positivity
  by_cases hn : n = 0
  · subst hn
    obtain rfl : k = 0 := by simpa [hscale.ne'] using hk
    rfl
  · obtain ⟨m, e, h⟩ := exists_normal (by omega : n.natAbs ≠ 0) hbound
    have habs : k.natAbs * 2 ^ (x + 52).toNat = n.natAbs * 2 ^ 52 := by
      have := congrArg Int.natAbs hk
      rwa [Int.natAbs_mul, Int.natAbs_mul, Int.natAbs_pow, Int.natAbs_pow] at this
    have hsign : signOf k = signOf n := by
      have hneg : k < 0 ↔ n < 0 := by
        rw [← mul_lt_mul_iff_left₀ hscale, hk, zero_mul]
        omega
      unfold signOf
      simp only [hneg]
    have hzero : k ≠ 0 := by
      intro he
      subst he
      omega
    rw [normalize_eq_round hzero, ofInt_normal h, hsign]
    exact round_exact h.least h.most _ (by have := h.low; omega) (h.rescaled hx habs)

theorem unpack_pack_ofInt (n : Int) (hbound : n.natAbs ≤ wholeBound) :
    (Float.Model.ofInt n).unpack = ofInt Format.binary64 n := by
  by_cases hn : n = 0
  · subst hn
    rfl
  · obtain ⟨m, e, h⟩ := exists_normal (by omega : n.natAbs ≠ 0) hbound
    show unpack Format.binary64 (pack Format.binary64 (ofInt Format.binary64 n)) = _
    rw [ofInt_normal h]
    exact unpack_pack h.least h.most (by have := h.low; omega) (by have := h.high; omega) _

end Parts

/-! ### Sums and steps -/

/-- Lowering the exponent keeps the number. -/
theorem decreaseExponent_normal {n m : Nat} {e x : Int} (h : Normal n m e) (hx : -52 ≤ x)
    (he : x ≤ e) : ∃ k : Nat, decreaseExponent m e x = (k, x) ∧
      k * 2 ^ (x + 52).toNat = n * 2 ^ 52 := by
  refine ⟨m * 2 ^ (e - x).toNat, ?_, ?_⟩
  · simp only [decreaseExponent, Nat.shiftLeft_eq]
    congr 1
    omega
  · rw [mul_assoc, ← pow_add, show (e - x).toNat + (x + 52).toNat = (e + 52).toNat by omega,
      h.value]

theorem normal_one : Normal 1 (2 ^ 52) (-52) :=
  ⟨by omega, by omega, by omega, by omega, rfl⟩

theorem apply_mul (sign : Sign) (n c : Nat) :
    sign.apply ((n * c : Nat) : Int) = sign.apply n * c := by
  cases sign
  · show -((n * c : Nat) : Int) = -(n : Int) * c
    push_cast
    ring
  · exact Nat.cast_mul n c

/-- The signed mantissa of a whole number at a lower exponent. -/
theorem apply_scaled {n : Int} {k j : Nat} (hk : k * 2 ^ j = n.natAbs * 2 ^ 52) :
    (signOf n).apply k * 2 ^ j = n * 2 ^ 52 := by
  have := apply_mul (signOf n) k (2 ^ j)
  rw [hk, apply_mul, signOf_apply] at this
  exact_mod_cast this.symm

/-- Sums of whole numbers are exact. -/
theorem add_ofInt {a b : Int} (ha : a.natAbs ≤ wholeBound) (hb : b.natAbs ≤ wholeBound)
    (hsum : (a + b).natAbs ≤ wholeBound) :
    UnpackedFloat.add Format.binary64 (ofInt Format.binary64 a) (ofInt Format.binary64 b) =
      ofInt Format.binary64 (a + b) := by
  by_cases hza : a = 0
  · subst hza
    rw [zero_add]
    by_cases hzb : b = 0
    · subst hzb
      rfl
    · obtain ⟨m, e, h⟩ := exists_normal (by omega : b.natAbs ≠ 0) hb
      rw [ofInt_normal h]
      rfl
  · obtain ⟨m, e, h⟩ := exists_normal (by omega : a.natAbs ≠ 0) ha
    by_cases hzb : b = 0
    · subst hzb
      rw [add_zero, ofInt_normal h]
      rfl
    · obtain ⟨m', e', h'⟩ := exists_normal (by omega : b.natAbs ≠ 0) hb
      have hlow : -52 ≤ min e e' := le_min h.low h'.low
      obtain ⟨k, hk, hvalue⟩ := decreaseExponent_normal h hlow (min_le_left e e')
      obtain ⟨k', hk', hvalue'⟩ := decreaseExponent_normal h' hlow (min_le_right e e')
      rw [ofInt_normal h, ofInt_normal h']
      simp only [UnpackedFloat.add, hk, hk']
      refine normalize_eq_ofInt hlow ?_ hsum
      rw [add_mul, apply_scaled hvalue, apply_scaled hvalue', add_mul]

theorem sub_ofInt_one {n : Int} (hbound : n.natAbs ≤ wholeBound)
    (hnext : (n - 1).natAbs ≤ wholeBound) :
    UnpackedFloat.sub Format.binary64 (ofInt Format.binary64 n) (ofInt Format.binary64 1) =
      ofInt Format.binary64 (n - 1) := by
  by_cases hn : n = 0
  · subst hn
    rfl
  · obtain ⟨m, e, h⟩ := exists_normal (by omega : n.natAbs ≠ 0) hbound
    have hlow : -52 ≤ min e (-52) := le_min h.low (le_refl _)
    obtain ⟨k, hk, hvalue⟩ := decreaseExponent_normal h hlow (min_le_left e (-52))
    obtain ⟨k', hk', hvalue'⟩ := decreaseExponent_normal normal_one hlow (min_le_right e (-52))
    rw [ofInt_normal h, ofInt_normal (n := 1) normal_one]
    simp only [UnpackedFloat.sub, hk, hk']
    refine normalize_eq_ofInt hlow ?_ hnext
    rw [sub_mul, apply_scaled hvalue, apply_scaled (n := 1) hvalue', sub_mul]

/-- **Whole numbers are added exactly** as long as nothing exceeds the bound. -/
theorem whole_add {a b : Int} (ha : a.natAbs ≤ wholeBound) (hb : b.natAbs ≤ wholeBound)
    (hsum : (a + b).natAbs ≤ wholeBound) : whole a + whole b = whole (a + b) := by
  show Float.ofModel (Float.Model.pack (UnpackedFloat.add Format.binary64
    (Float.Model.ofInt a).unpack (Float.Model.ofInt b).unpack)) = _
  rw [unpack_pack_ofInt a ha, unpack_pack_ofInt b hb, add_ofInt ha hb hsum]
  rfl

section Steps
variable {n : Int} (hbound : n.natAbs ≤ wholeBound)
include hbound

theorem whole_up (hnext : (n + 1).natAbs ≤ wholeBound) : whole n + 1.0 = whole (n + 1) := by
  have hone : (1.0 : Float) = whole 1 := by decide +kernel
  rw [hone, whole_add hbound (by decide) hnext]

theorem whole_down (hnext : (n - 1).natAbs ≤ wholeBound) : whole n - 1.0 = whole (n - 1) := by
  have hone : (1.0 : Float) = whole 1 := by decide +kernel
  rw [hone]
  show Float.ofModel (Float.Model.pack (UnpackedFloat.sub Format.binary64
    (Float.Model.ofInt n).unpack (Float.Model.ofInt 1).unpack)) = _
  rw [unpack_pack_ofInt n hbound, unpack_pack_ofInt 1 (by decide), sub_ofInt_one hbound hnext]
  rfl

end Steps

theorem keepsPace_whole : Registry.KeepsPace whole wholeBound := by
  refine ⟨by decide +kernel, fun n d hn => ?_⟩
  cases d with
  | up =>
    refine whole_up (by omega) ?_
    omega
  | down =>
    refine whole_down (by omega) ?_
    omega

/-! ### Sums of lists -/

/-- A binary64 number that stands for a natural number. Zero may be negative, as it is where a
sum of nothing starts. -/
def Stands (x : Float) (n : Nat) : Prop := x = whole n ∨ n = 0 ∧ x = -0.0

theorem negZero_add {n : Nat} (h : n ≤ wholeBound) : -0.0 + whole n = whole n := by
  have hzero : (-0.0 : Float).toModel.unpack = .zero .negative := by
    rw [show (-0.0 : Float) = .ofModel (.pack (.zero .negative)) by decide +kernel]
    rfl
  show Float.ofModel (Float.Model.pack (UnpackedFloat.add Format.binary64
    (-0.0 : Float).toModel.unpack (Float.Model.ofInt n).unpack)) = _
  have hadd : UnpackedFloat.add Format.binary64 (.zero .negative)
      (UnpackedFloat.ofInt Format.binary64 n) = UnpackedFloat.ofInt Format.binary64 n := by
    by_cases hn : n = 0
    · subst hn
      rfl
    · obtain ⟨m, e, hnormal⟩ := exists_normal hn h
      rw [ofInt_normal (n := (n : Int)) hnormal]
      rfl
  rw [hzero, unpack_pack_ofInt _ (by omega), hadd]
  rfl

theorem foldl_whole {β : Type} (value : β → Float) (total : β → Nat) (l : List β) {n : Nat}
    (h : ∀ x ∈ l, value x = whole (total x)) (hfew : n + (l.map total).sum ≤ wholeBound) :
    l.foldl (fun sum x => sum + value x) (whole n) = whole ((n + (l.map total).sum : Nat)) := by
  induction l generalizing n with
  | nil => simp
  | cons x rest ih =>
    rw [List.forall_mem_cons] at h
    rw [List.map_cons, List.sum_cons, ← add_assoc] at hfew ⊢
    have hadd : whole n + value x = whole ((n + total x : Nat)) := by
      rw [h.1, whole_add (by omega) (by omega) (by omega), Nat.cast_add]
    rw [List.foldl_cons, hadd]
    exact ih h.2 hfew

/-- Whole numbers are added up exactly, in whatever order. -/
theorem stands_foldl {β : Type} (value : β → Float) (total : β → Nat) (l : List β)
    (h : ∀ x ∈ l, value x = whole (total x)) (hfew : (l.map total).sum ≤ wholeBound) :
    Stands (l.foldl (fun sum x => sum + value x) (-0.0)) (l.map total).sum := by
  cases l with
  | nil => exact .inr ⟨rfl, rfl⟩
  | cons x rest =>
    rw [List.forall_mem_cons] at h
    rw [List.map_cons, List.sum_cons] at hfew ⊢
    rw [List.foldl_cons, h.1, negZero_add (by omega)]
    exact .inl (foldl_whole value total rest h.2 hfew)

/-! ### What a gauge can hold -/

/-- A number that a gauge can hold. -/
def IsWhole (x : Float) : Prop := ∃ n : Int, n.natAbs ≤ wholeBound ∧ x = whole n

theorem isWhole_zero : IsWhole (Measure.zero : Float) := ⟨0, by decide, by decide +kernel⟩

/-- A step is exact, or it is lost at the bound. -/
theorem isWhole_stepped (d : Direction) {x : Float} (h : IsWhole x) :
    IsWhole (Registry.stepped d x) := by
  obtain ⟨n, hbound, rfl⟩ := h
  cases d with
  | up =>
    by_cases hnext : (n + 1).natAbs ≤ wholeBound
    · exact ⟨n + 1, hnext, whole_up hbound hnext⟩
    · obtain rfl : n = 2 ^ 53 := by unfold wholeBound at *; omega
      exact ⟨2 ^ 53, hbound, by decide +kernel⟩
  | down =>
    by_cases hnext : (n - 1).natAbs ≤ wholeBound
    · exact ⟨n - 1, hnext, whole_down hbound hnext⟩
    · obtain rfl : n = -2 ^ 53 := by unfold wholeBound at *; omega
      exact ⟨-2 ^ 53, hbound, by decide +kernel⟩

end Roomwatch.Number
