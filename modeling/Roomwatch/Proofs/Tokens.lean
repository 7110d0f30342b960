import Mathlib
import Roomwatch.Exposition.Page
import Roomwatch.Proofs.Writing

/-! The tokens that numbers are printed as.

Digits are read back as the number they spell (`isToken_toDigits`), with a minus sign or
without one. Whatever binary64 number is printed, its text is a token, and that includes
the infinities and "not a number" (`exists_isToken_text`): digits with at most one point
among them, or one of three words. Exact amounts are tokens too (`printed_exact`). -/
namespace Roomwatch.Number

open Text (isBlank)
open Exposition (IsToken)

/-! ### Digits -/

theorem exists_digitChar {c : Char} (h : c.isDigit = true) : ∃ d < 10, c = Nat.digitChar d := by
  have hc : 48 ≤ c.toNat ∧ c.toNat ≤ 57 := by
    simpa [Char.isDigit, UInt32.le_iff_toNat_le] using h
  refine ⟨c.toNat - 48, by omega, Char.toNat_inj.1 ?_⟩
  rw [Nat.toNat_digitChar_of_lt_ten (by omega)]
  omega

/-- A digit is no blank, no sign and no letter. -/
theorem digit_facts {c : Char} (h : c.isDigit = true) :
    isBlank c = false ∧ c ≠ '+' ∧ c ≠ '-' ∧ c.toLower ≠ 'i' ∧ c.toLower ≠ 'n' := by
  obtain ⟨d, hd, rfl⟩ := exists_digitChar h
  revert d
  decide

namespace Numeral

/-- A minus sign, or nothing, before a digit. -/
theorem readSign_digit (p : Prop) [Decidable p] {c : Char} (rest : List Char)
    (h : c.isDigit = true) :
    readSign ((if p then ['-'] else []) ++ c :: rest) = (decide p, c :: rest) := by
  obtain ⟨-, hp, hm, -⟩ := digit_facts h
  by_cases hneg : p
  · simp [hneg, readSign]
  · simp only [hneg, if_false, List.nil_append, decide_false]
    unfold readSign
    split
    · next he => exact absurd (List.cons.inj he).1 hp
    · next he => exact absurd (List.cons.inj he).1 hm
    · rfl

/-- What starts with a digit is read as a decimal number. -/
theorem read?_digit (p : Prop) [Decidable p] {c : Char} (rest : List Char)
    (h : c.isDigit = true) :
    read? ((if p then ['-'] else []) ++ c :: rest) = readDecimal? (decide p) (c :: rest) := by
  obtain ⟨-, -, -, hi, hn⟩ := digit_facts h
  have hinf : lower (c :: rest) ∉ infinityWords := by
    simp [lower, infinityWords, hi]
  have hnan : lower (c :: rest) ≠ undefinedWord := by
    simp [lower, undefinedWord, hn]
  rw [read?, readSign_digit p rest h]
  simp only [hinf, hnan, if_false]

theorem readDecimal?_digits (negative : Bool) {digits : List Char} (hne : digits ≠ [])
    (h : ∀ c ∈ digits, c.isDigit = true) :
    readDecimal? negative digits = some (.decimal negative (ofDigits digits) 0) := by
  have htake : digits.takeWhile Char.isDigit = digits := List.takeWhile_eq_self_iff.2 h
  have hdrop : digits.dropWhile Char.isDigit = [] := List.dropWhile_eq_nil_iff.2 h
  simp [readDecimal?, htake, hdrop, readFraction, readExponent?, hne]

theorem readDecimal?_point (negative : Bool) {whole fraction : List Char} (hne : whole ≠ [])
    (hw : ∀ c ∈ whole, c.isDigit = true) (hf : ∀ c ∈ fraction, c.isDigit = true) :
    readDecimal? negative (whole ++ '.' :: fraction) =
      some (.decimal negative (ofDigits (whole ++ fraction)) (-fraction.length)) := by
  have htake : (whole ++ '.' :: fraction).takeWhile Char.isDigit = whole := by
    rw [List.takeWhile_append_of_pos hw]
    simp
  have hdrop : (whole ++ '.' :: fraction).dropWhile Char.isDigit = '.' :: fraction := by
    rw [List.dropWhile_append_of_pos hw]
    simp
  have htake' : fraction.takeWhile Char.isDigit = fraction := List.takeWhile_eq_self_iff.2 hf
  have hdrop' : fraction.dropWhile Char.isDigit = [] := List.dropWhile_eq_nil_iff.2 hf
  simp [readDecimal?, htake, hdrop, readFraction, htake', hdrop', readExponent?, hne]

theorem isDigit_of_mem {n : Nat} : ∀ c ∈ Nat.toDigits 10 n, c.isDigit = true :=
  fun _ hc => Nat.isDigit_of_mem_toDigits (by decide) (by decide) hc

/-- The digits of a number are read back as that number. -/
theorem read?_toDigits (p : Prop) [Decidable p] (n : Nat) :
    read? ((if p then ['-'] else []) ++ Nat.toDigits 10 n) = some (.decimal (decide p) n 0) := by
  have hne : Nat.toDigits 10 n ≠ [] := Nat.toDigits_ne_nil
  obtain ⟨c, rest, hcons⟩ := List.exists_cons_of_ne_nil hne
  have hc : c.isDigit = true := isDigit_of_mem (n := n) c (by simp [hcons])
  rw [hcons, read?_digit p rest hc, ← hcons, readDecimal?_digits _ hne isDigit_of_mem, ofDigits,
    Nat.ofDigitChars_ten_toDigits]

end Numeral

/-! ### Tokens -/

theorem solid_sign (p : Prop) [Decidable p] {s : List Char} (h : ∀ c ∈ s, isBlank c = false) :
    ∀ c ∈ (if p then ['-'] else []) ++ s, isBlank c = false := by
  have hminus : isBlank '-' = false := by decide
  intro c hc
  by_cases hp : p
  · simp only [hp, if_true, List.singleton_append, List.mem_cons] at hc
    rcases hc with rfl | hc
    · exact hminus
    · exact h c hc
  · simp only [hp, if_false, List.nil_append] at hc
    exact h c hc

theorem isToken_toDigits (p : Prop) [Decidable p] (n : Nat) :
    IsToken ((if p then ['-'] else []) ++ Nat.toDigits 10 n) (.decimal (decide p) n 0) :=
  ⟨solid_sign p fun c hc => (digit_facts (Numeral.isDigit_of_mem c hc)).1,
    Numeral.read?_toDigits p n⟩

theorem isToken_infinity (p : Prop) [Decidable p] :
    IsToken ((if p then ['-'] else []) ++ ['i', 'n', 'f']) (.infinite (decide p)) := by
  refine ⟨solid_sign p (by simp [isBlank]), ?_⟩
  by_cases hp : p
  · simp only [hp, if_true, decide_true]
    decide
  · simp only [hp, if_false, decide_false]
    decide

/-- Digits are a token. -/
theorem exists_isToken_digits (p : Prop) [Decidable p] {digits : List Char} (hne : digits ≠ [])
    (h : ∀ c ∈ digits, c.isDigit = true) :
    ∃ value, IsToken ((if p then ['-'] else []) ++ digits) value := by
  have hsolid := solid_sign p fun c hc => (digit_facts (h c hc)).1
  refine ⟨.decimal (decide p) (Numeral.ofDigits digits) 0, hsolid, ?_⟩
  obtain ⟨c, rest, rfl⟩ := List.exists_cons_of_ne_nil hne
  rw [Numeral.read?_digit p rest (h c (by simp)), Numeral.readDecimal?_digits _ hne h]

/-- Digits with a point among them are a token. -/
theorem exists_isToken_point (p : Prop) [Decidable p] {whole fraction : List Char}
    (hne : whole ≠ []) (hw : ∀ c ∈ whole, c.isDigit = true)
    (hf : ∀ c ∈ fraction, c.isDigit = true) :
    ∃ value, IsToken ((if p then ['-'] else []) ++ (whole ++ '.' :: fraction)) value := by
  have hsolid : ∀ c ∈ whole ++ '.' :: fraction, isBlank c = false := by
    intro c hc
    rcases List.mem_append.1 hc with hc | hc
    · exact (digit_facts (hw c hc)).1
    · rcases List.mem_cons.1 hc with rfl | hc
      · decide
      · exact (digit_facts (hf c hc)).1
  refine ⟨.decimal (decide p) (Numeral.ofDigits (whole ++ fraction)) (-fraction.length),
    solid_sign p hsolid, ?_⟩
  have hread := Numeral.readDecimal?_point (decide p) hne hw hf
  obtain ⟨c, rest, rfl⟩ := List.exists_cons_of_ne_nil hne
  rw [List.cons_append, Numeral.read?_digit p _ (hw c (by simp)), ← List.cons_append, hread]

namespace Shortest

theorem exists_isToken_positional (p : Prop) [Decidable p] (steps : Nat) (k : Int) :
    ∃ value, IsToken ((if p then ['-'] else []) ++ positional steps k) value := by
  have hdigit : ∀ c ∈ Nat.toDigits 10 steps, c.isDigit = true := Numeral.isDigit_of_mem
  have hzeros (n : Nat) : ∀ c ∈ List.replicate n '0', c.isDigit = true := by
    intro c hc
    rw [List.eq_of_mem_replicate hc]
    decide
  by_cases hk : 0 ≤ k
  · have htext : positional steps k = Nat.toDigits 10 steps ++ List.replicate k.toNat '0' := by
      simp only [positional, hk, if_true]
    rw [htext]
    refine exists_isToken_digits p (by simp [Nat.toDigits_ne_nil]) fun c hc => ?_
    exact (List.mem_append.1 hc).elim (hdigit c) (hzeros _ c)
  · obtain ⟨padded, hpadded⟩ : ∃ padded, List.replicate ((-k).toNat + 1 -
      (Nat.toDigits 10 steps).length) '0' ++ Nat.toDigits 10 steps = padded := ⟨_, rfl⟩
    have htext : positional steps k = padded.take (padded.length - (-k).toNat) ++
        '.' :: padded.drop (padded.length - (-k).toNat) := by
      simp only [positional, hk, if_false, hpadded]
    have hall : ∀ c ∈ padded, c.isDigit = true := by
      intro c hc
      rw [← hpadded] at hc
      exact (List.mem_append.1 hc).elim (hzeros _ c) (hdigit c)
    have hlong : (-k).toNat < padded.length := by
      rw [← hpadded, List.length_append, List.length_replicate]
      omega
    rw [htext]
    refine exists_isToken_point p ?_ (fun c hc => hall c (List.mem_of_mem_take hc))
      fun c hc => hall c (List.mem_of_mem_drop hc)
    rw [← List.length_pos_iff, List.length_take]
    omega

/-- Whatever binary64 number is printed, its text is a token. -/
theorem exists_isToken_text (x : Float) : ∃ value, IsToken (text x) value := by
  unfold text
  simp only []
  split
  · split
    · exact ⟨_, isToken_infinity _⟩
    · exact ⟨.undefined, by simp [isBlank], by decide⟩
  · split
    · exact exists_isToken_digits _ (by simp) (by simp)
    · exact exists_isToken_positional _ _ _

end Shortest

/-- Numbers of a kind whose texts are all tokens. -/
def Printed (α : Type) [Measure α] : Prop := ∀ x : α, ∃ value, IsToken (Measure.text x) value

theorem printed_float : Printed Float := Shortest.exists_isToken_text

theorem isDigit_of_mem_fraction {n : Nat} : ∀ c ∈ Exact.fraction n, c.isDigit = true := by
  intro c hc
  rw [Exact.fraction, List.mem_reverse] at hc
  have hpadded := (List.dropWhile_sublist _).subset hc
  rw [List.mem_reverse, List.mem_append] at hpadded
  rcases hpadded with hzero | hdigit
  · rw [List.eq_of_mem_replicate hzero]
    decide
  · exact Numeral.isDigit_of_mem c hdigit

theorem printed_exact : Printed Exact := by
  intro x
  have htext : (Measure.text x : List Char) = (if x.billionths < 0 then ['-'] else []) ++
      Nat.toDigits 10 (x.billionths.natAbs / nanosPerSecond) ++
      if x.billionths.natAbs % nanosPerSecond = 0 then []
      else '.' :: Exact.fraction (x.billionths.natAbs % nanosPerSecond) := rfl
  rw [htext, List.append_assoc]
  by_cases hpart : x.billionths.natAbs % nanosPerSecond = 0
  · rw [if_pos hpart, List.append_nil]
    exact exists_isToken_digits _ Nat.toDigits_ne_nil Numeral.isDigit_of_mem
  · rw [if_neg hpart]
    exact exists_isToken_point _ Nat.toDigits_ne_nil Numeral.isDigit_of_mem isDigit_of_mem_fraction

end Roomwatch.Number
