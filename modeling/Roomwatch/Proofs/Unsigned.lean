import Mathlib
import Roomwatch.Proofs.Gathering

/-! Numbers without a sign.

Lifetimes are never negative, so neither they nor their sums carry a minus sign, not even
at zero (`Unsigned`). Adding zero to such a number gives it back (`Unsigned.add_zero`): the
sum is packed into the word that it came from (`pack_unpack`). So a drain that finds
nothing waiting leaves a distribution as it is, in binary64 too (`Gathered.idle`). -/
namespace Roomwatch

namespace Number

open Float.Model (Format UnpackedFloat)
open Float.Model.UnpackedFloat

/-! ### The fields of a word -/

section Fields
variable (b : BitVec Format.binary64.numBits)

/-- The sign, the exponent and the mantissa of a word make up the word. -/
theorem packComponents_unpacked :
    packComponents Format.binary64 (Sign.ofBitVec (unpackSign b)) (unpackExponent b)
      (unpackMantissa b) = b := by
  have hsign : (Sign.ofBitVec (unpackSign b)).toBitVec = unpackSign b := by
    rcases BitVec.eq_zero_or_eq_one (unpackSign b) with h | h <;> rw [h] <;> rfl
  rw [packComponents, hsign]
  refine BitVec.eq_of_getLsbD_eq fun i hi => ?_
  simp only [unpackSign, unpackExponent, unpackMantissa, BitVec.getLsbD_append,
    BitVec.getLsbD_cast, BitVec.getLsbD_extractLsb]
  by_cases hmantissa : i < 52
  · simp [hmantissa]
  · by_cases hexponent : i - 52 < 11
    · simp [hmantissa, hexponent, show 52 + (i - 52) = i by omega]
    · have htop : i = 63 := by
        change i < 64 at hi
        omega
      subst htop
      simp
      rfl

variable {b}

/-- Below the least exponent a mantissa is packed as it is. -/
theorem pack_subnormal (sign : Sign) {m : BitVec 52} (hm : 0 < m.toNat) :
    UnpackedFloat.pack Format.binary64 (.finite sign m.toNat (-1074) hm) =
      packComponents Format.binary64 sign 0#11 m := by
  have hbias : (-1074 + (Format.binary64.exponentBias : Int) +
      Format.binary64.mantissaBitsWithoutImplicit).toNat = 1 := by decide
  have hfew : ¬ m.toNat.log2 + 1 = Format.binary64.mantissaBits := by
    have hlog : m.toNat.log2 < 52 := (Nat.log2_lt (by omega)).2 m.isLt
    show ¬ _ = 53
    omega
  simp only [UnpackedFloat.pack, hbias]
  rw [if_neg (by decide), if_neg hfew]
  congr 1
  exact (BitVec.ofNat_toNat 52 m).trans (BitVec.setWidth_eq m)

/-- Above it, the first digit of a mantissa goes without saying. -/
theorem pack_normal (sign : Sign) {exponent : BitVec 11} {mantissa : BitVec 52}
    (hfinite : exponent ≠ -1#11) (hnormal : exponent ≠ 0#11)
    (hpos : 0 < (1#1 ++ mantissa).toNat) :
    UnpackedFloat.pack Format.binary64 (.finite sign (1#1 ++ mantissa).toNat
        (exponent.toNat - (Format.binary64.exponentBias + 52)) hpos) =
      packComponents Format.binary64 sign exponent mantissa := by
  have hmost : exponent.toNat ≠ 2047 := fun h => hfinite (BitVec.eq_of_toNat_eq h)
  have hleast : exponent.toNat ≠ 0 := fun h => hnormal (BitVec.eq_of_toNat_eq h)
  have hunbias : (exponent.toNat : Int) - (Format.binary64.exponentBias + 52) =
    exponent.toNat - 1075 := rfl
  have hexponent := exponent.isLt
  have hmantissa := mantissa.isLt
  simp only [hunbias, toNat_implicit]
  rw [pack_finite (by omega) (by omega) (by omega) (by omega)]
  congr 1
  · refine BitVec.eq_of_toNat_eq ?_
    rw [BitVec.toNat_ofNat]
    omega
  · refine BitVec.eq_of_toNat_eq ?_
    rw [BitVec.toNat_ofNat]
    omega

/-- A packed number is the same once it was unpacked. -/
theorem pack_unpack (h : Format.binary64.Valid b) :
    UnpackedFloat.pack Format.binary64 (UnpackedFloat.unpack Format.binary64 b) = b := by
  have hparts := packComponents_unpacked b
  unfold UnpackedFloat.unpack
  dsimp only
  split
  · next hspecial =>
    split
    · next hinfinite =>
      rw [hspecial, hinfinite] at hparts
      exact hparts
    · next hnumber => exact (h.eq_packedNaN hspecial hnumber).symm
  · next hfinite =>
    split
    · next hsmall =>
      rw [hsmall] at hparts
      split
      · next hzero =>
        rw [hzero] at hparts
        exact hparts
      · next hnonzero =>
        refine Eq.trans ?_ hparts
        rw [hsmall]
        exact pack_subnormal _ _
    · next hnormal =>
      exact (pack_normal _ hfinite hnormal _).trans hparts
end Fields

theorem model_pack_unpack (x : Float.Model) : Float.Model.pack x.unpack = x := by
  obtain ⟨bits, hvalid⟩ := x
  rw [Float.Model.pack, Float.Model.mk.injEq]
  exact congrArg UInt64.ofBitVec (pack_unpack hvalid)

/-! ### Without a sign -/

/-- Neither negative nor negative zero. -/
inductive Plain : UnpackedFloat → Prop
  | infinity : Plain (.infinity .positive)
  | zero : Plain (.zero .positive)
  | finite (m : Nat) (e : Int) (hm : 0 < m) : Plain (.finite .positive m e hm)
  | notANumber : Plain .notANumber

def Unsigned (x : Float) : Prop := Plain x.toModel.unpack

section Plain
variable {x y : UnpackedFloat}

theorem plain_round (m : Nat) (e : Int) (accuracy : Accuracy) :
    Plain (roundWithAccuracy Format.binary64 .positive m e accuracy) := by
  simp only [roundWithAccuracy]
  split
  · exact .zero
  · exact .finite _ _ _

theorem plain_normalize {n : Int} (hn : 0 ≤ n) (e : Int) :
    Plain (UnpackedFloat.normalize Format.binary64 n e .positive) := by
  unfold UnpackedFloat.normalize
  split
  · next h => exact absurd (Int.compare_eq_lt.1 h) (by omega)
  · exact .zero
  · exact plain_round _ _ _

theorem Plain.add (hx : Plain x) (hy : Plain y) : Plain (add Format.binary64 x y) := by
  cases hx with
  | notANumber => exact .notANumber
  | infinity => cases hy <;> constructor
  | zero => cases hy <;> constructor
  | finite m e hm =>
    cases hy with
    | finite m' e' hm' => exact plain_normalize (Int.natCast_nonneg _) _
    | _ => constructor

theorem Plain.mul (hx : Plain x) (hy : Plain y) : Plain (mul Format.binary64 x y) := by
  cases hx with
  | notANumber => exact .notANumber
  | infinity => cases hy <;> constructor
  | zero => cases hy <;> constructor
  | finite m e hm =>
    cases hy with
    | finite m' e' hm' => exact plain_round _ _ _
    | _ => constructor

theorem Plain.div (hx : Plain x) (hy : Plain y) : Plain (div Format.binary64 x y) := by
  cases hx with
  | notANumber => exact .notANumber
  | infinity => cases hy <;> constructor
  | zero => cases hy <;> constructor
  | finite m e hm =>
    cases hy with
    | finite m' e' hm' => exact plain_round _ _ _
    | _ => constructor

theorem plain_ofScientific (m : Nat) (e : Int) :
    Plain (UnpackedFloat.ofScientific Format.binary64 m e) := by
  rw [UnpackedFloat.ofScientific]
  split
  · exact .zero
  · split
    · exact .infinity
    · split
      · exact .zero
      · split
        · exact .mul (.finite _ _ _) (.finite _ _ _)
        · exact .div (.finite _ _ _) (.finite _ _ _)

/-- A word without a sign bit holds a number without a sign. -/
theorem plain_unpack (exponent : BitVec 11) (mantissa : BitVec 52) :
    Plain (unpack Format.binary64 (packComponents Format.binary64 .positive exponent mantissa)) := by
  simp only [unpack, unpackMantissa_packComponents, unpackExponent_packComponents,
    unpackSign_packComponents]
  split
  · split
    · exact .infinity
    · exact .notANumber
  · split
    · split
      · exact .zero
      · exact .finite _ _ _
    · exact .finite _ _ _

theorem Plain.pack (h : Plain x) : Unsigned (.ofModel (.pack x)) := by
  cases h with
  | infinity => exact plain_unpack _ _
  | zero => exact plain_unpack _ _
  | notANumber => exact plain_unpack _ _
  | finite m e hm =>
    show Plain (unpack _ (UnpackedFloat.pack _ _))
    simp only [UnpackedFloat.pack]
    split
    · exact plain_unpack _ _
    · split <;> exact plain_unpack _ _

end Plain

theorem Unsigned.add {x y : Float} (hx : Unsigned x) (hy : Unsigned y) : Unsigned (x + y) :=
  (Plain.add hx hy).pack

/-- Adding nothing to a number without a sign gives it back. -/
theorem Unsigned.add_zero {x : Float} (h : Unsigned x) : x + 0.0 = x := by
  have hzero : (0.0 : Float).toModel.unpack = .zero .positive := by
    rw [show (0.0 : Float) = whole 0 by decide +kernel]
    exact unpack_pack_ofInt 0 (by decide)
  have hadd : UnpackedFloat.add Format.binary64 x.toModel.unpack (.zero .positive) =
      x.toModel.unpack := by
    have hplain : Plain x.toModel.unpack := h
    generalize x.toModel.unpack = u at hplain
    cases hplain <;> rfl
  show Float.ofModel (Float.Model.pack (UnpackedFloat.add Format.binary64 x.toModel.unpack
    (0.0 : Float).toModel.unpack)) = x
  rw [hzero, hadd, model_pack_unpack]

theorem unsigned_ofNat (n : Nat) : Unsigned (Float.ofNat n) := by
  show Unsigned (Float.ofScientific n false 0)
  rw [Float.ofScientific]
  split
  · have hone : Plain (Float.ofBits 0x3FF0000000000000).toModel.unpack := by
      rw [show Float.ofBits 0x3FF0000000000000 = whole 1 by decide +kernel]
      exact (plain_normalize (by decide) 0).pack
    exact (Plain.mul (plain_normalize (Int.natCast_nonneg _) 0).pack hone).pack
  · exact (plain_ofScientific n _).pack

/-- A lifetime is not negative. -/
theorem unsigned_ofNanos (n : Nat) : Unsigned (Measure.ofNanos n) := by
  have hbillion : Unsigned 1e9 := by
    rw [show (1e9 : Float) = whole 1000000000 by decide +kernel]
    exact (plain_normalize (by decide) 0).pack
  exact (unsigned_ofNat _).add (Plain.div (unsigned_ofNat _) hbillion).pack

end Number

namespace Distribution

open Number

/-- Sums of lifetimes have no sign. -/
theorem Gathered.unsigned {d : Distribution Float} {values : List Float} (h : d.Gathered values)
    (hv : ∀ v ∈ values, Unsigned v) : Unsigned d.sum := by
  have hzero : Unsigned (Measure.zero : Float) := unsigned_ofNat 0
  have hbatch (x : Float) (hx : Unsigned x) (more : List Float) (hmore : ∀ v ∈ more, Unsigned v) :
      Unsigned (more.foldl Measure.add x) := by
    induction more generalizing x with
    | nil => exact hx
    | cons v rest ih =>
      rw [List.forall_mem_cons] at hmore
      exact ih _ (hx.add hmore.1) hmore.2
  induction h with
  | empty => exact hzero
  | batch more _ ih =>
    rw [List.forall_mem_append] at hv
    exact (ih hv.1).add (hbatch _ hzero more hv.2)

/-- **A drain that finds nothing changes nothing.** -/
theorem Gathered.idle {d : Distribution Float} {nanos : List Nat}
    (h : d.Gathered (nanos.map Measure.ofNanos)) : d.addBatch [] = d := by
  have hsum : Unsigned d.sum := by
    refine h.unsigned fun v hv => ?_
    obtain ⟨n, -, rfl⟩ := List.mem_map.1 hv
    exact unsigned_ofNanos n
  exact h.covers.addBatch_nil hsum.add_zero

end Distribution
end Roomwatch
