import Mathlib
import Roomwatch.Proofs.RoundTrip

/-! Labels by byte offsets.

Labels can also be read in rounds by a reader that finds its way by byte offsets: a round
looks for an equals sign and for the closing quote of a value, and cuts its input there.
A cut fails unless it falls between two characters, so the offsets must be right for
characters of one byte and of several. They are: `rounds` ends on every input, no cut of
it ever fails, and it finds the labels that `readLabels` finds (`rounds_eq`). -/
namespace Roomwatch.Exposition

open Text (trim)

/-! ### Offsets and cuts -/

/-- How many bytes a text takes in UTF-8. -/
def byteLength : List Char → Nat
  | [] => 0
  | c :: rest => c.utf8Size + byteLength rest

/-- What stands before a byte offset, unless the offset is within a character or beyond the
end. -/
def before? : Nat → List Char → Option (List Char)
  | 0, _ => some []
  | _ + 1, [] => none
  | n + 1, c :: rest =>
    if c.utf8Size ≤ n + 1 then (before? (n + 1 - c.utf8Size) rest).map (c :: ·) else none

/-- What stands behind a byte offset, unless the offset is within a character or beyond the
end. -/
def behind? : Nat → List Char → Option (List Char)
  | 0, s => some s
  | _ + 1, [] => none
  | n + 1, c :: rest => if c.utf8Size ≤ n + 1 then behind? (n + 1 - c.utf8Size) rest else none

/-- The byte offset of the first character of a kind. -/
def offset? (p : Char → Bool) : List Char → Option Nat
  | [] => none
  | c :: rest => if p c then some 0 else (offset? p rest).map (c.utf8Size + ·)

/-- A first character takes at least one byte. -/
theorem byteLength_cons (c : Char) (rest : List Char) :
    ∃ n, byteLength (c :: rest) = n + 1 ∧ c.utf8Size ≤ n + 1 ∧
      n + 1 - c.utf8Size = byteLength rest := by
  have hpos := c.utf8Size_pos
  refine ⟨byteLength (c :: rest) - 1, ?_⟩
  rw [byteLength]
  omega

theorem byteLength_append (s t : List Char) :
    byteLength (s ++ t) = byteLength s + byteLength t := by
  induction s with
  | nil => simp [byteLength]
  | cons c rest ih => rw [List.cons_append, byteLength, byteLength, ih, add_assoc]

theorem before?_append (s t : List Char) : before? (byteLength s) (s ++ t) = some s := by
  induction s with
  | nil => simp [byteLength, before?]
  | cons c rest ih =>
    obtain ⟨n, hn, hle, hrest⟩ := byteLength_cons c rest
    rw [hn, List.cons_append, before?, if_pos hle, hrest, ih]
    rfl

theorem behind?_append (s t : List Char) : behind? (byteLength s) (s ++ t) = some t := by
  induction s with
  | nil => simp [byteLength, behind?]
  | cons c rest ih =>
    obtain ⟨n, hn, hle, hrest⟩ := byteLength_cons c rest
    rw [hn, List.cons_append, behind?, if_pos hle, hrest, ih]

/-- One byte further, behind a character of one byte. -/
theorem behind?_append_cons (s t : List Char) {c : Char} (hc : c.utf8Size = 1) :
    behind? (byteLength s + 1) (s ++ c :: t) = some t := by
  have hlength : byteLength (s ++ [c]) = byteLength s + 1 := by
    rw [byteLength_append, byteLength, byteLength, hc]
  have hbehind := behind?_append (s ++ [c]) t
  rwa [hlength, List.append_assoc] at hbehind

section Offset
variable {p : Char → Bool} {s : List Char} (hs : ∀ c ∈ s, p c = false)
include hs

theorem offset?_eq_none : offset? p s = none := by
  induction s with
  | nil => rfl
  | cons c rest ih =>
    rw [List.forall_mem_cons] at hs
    rw [offset?, hs.1, ih hs.2]
    rfl

theorem offset?_append {c : Char} (hc : p c = true) (t : List Char) :
    offset? p (s ++ c :: t) = some (byteLength s) := by
  induction s with
  | nil => simp [offset?, hc, byteLength]
  | cons d rest ih =>
    rw [List.forall_mem_cons] at hs
    rw [List.cons_append, offset?, hs.1, ih hs.2]
    rfl

end Offset

/-! ### Rounds -/

/-- A label value, and the byte offset of its closing quote. -/
def closing? : List Char → Option (List Char × Nat)
  | [] => none
  | '"' :: _ => some ([], 0)
  | ['\\'] => none
  | '\\' :: c :: rest =>
    (closing? rest).map fun (value, close) =>
      (unescaped c :: value, '\\'.utf8Size + (c.utf8Size + close))
  | c :: rest => (closing? rest).map fun (value, close) => (c :: value, c.utf8Size + close)

/-- Why a reader of labels stops short. -/
inductive Halt where
  | noEquals
  | noQuote
  | unclosed
  /-- A cut that does not fall between two characters. -/
  | cut
deriving DecidableEq

/-- One label, read by byte offsets, and what is left of the input. -/
def round (s : List Char) : Except Halt (Label × List Char) :=
  match offset? (· = '=') s with
  | none => .error .noEquals
  | some equals =>
    match before? equals s, behind? (equals + 1) s with
    | some key, some ('"' :: quoted) =>
      match closing? quoted with
      | none => .error .unclosed
      | some (value, close) =>
        match behind? (close + 1) quoted with
        | none => .error .cut
        | some left => .ok ((String.ofList (trim key), String.ofList value), left)
    | some _, some _ => .error .noQuote
    | _, _ => .error .cut

/-- At most so many rounds, after some labels; nothing when these rounds do not suffice. -/
def rounds : Nat → List Label → List Char → Option (Except Halt (List Label × List Char))
  | 0, _, _ => none
  | n + 1, labels, s =>
    match skipSeparators s with
    | '\x7d' :: left => some (.ok (labels, left))
    | _ =>
      match round (skipSeparators s) with
      | .error halt => some (.error halt)
      | .ok (label, left) => rounds n (labels ++ [label]) left

/-- A value ends at the same quote by offsets. -/
theorem closing?_eq (s : List Char) :
    (readValue s = none ∧ closing? s = none) ∨
      ∃ value inside after, s = inside ++ '"' :: after ∧ readValue s = some (value, after) ∧
        closing? s = some (value, byteLength inside) := by
  fun_induction readValue s with
  | case1 => exact .inl ⟨rfl, rfl⟩
  | case2 rest => exact .inr ⟨[], [], rest, rfl, rfl, rfl⟩
  | case3 => exact .inl ⟨rfl, rfl⟩
  | case4 c rest ih =>
    rcases ih with ⟨hread, hclosing⟩ | ⟨value, inside, after, rfl, hread, hclosing⟩
    · exact .inl ⟨by rw [hread]; rfl, by rw [closing?, hclosing]; rfl⟩
    · refine .inr ⟨unescaped c :: value, '\\' :: c :: inside, after, rfl, by rw [hread]; rfl, ?_⟩
      rw [closing?, hclosing]
      rfl
  | case5 c rest hquote hlast hescape ih =>
    have hnext : closing? (c :: rest) =
        (closing? rest).map fun (value, close) => (c :: value, c.utf8Size + close) := by
      rw [closing?]
      · exact hquote
      · exact hlast
      · exact hescape
    rcases ih with ⟨hread, hclosing⟩ | ⟨value, inside, after, rfl, hread, hclosing⟩
    · exact .inl ⟨by rw [hread]; rfl, by rw [hnext, hclosing]; rfl⟩
    · exact .inr ⟨c :: value, c :: inside, after, rfl, by rw [hread]; rfl, by
        rw [hnext, hclosing]
        rfl⟩

/-- A round reads a label as `readLabel` does, and no cut of it fails. -/
theorem round_eq (s : List Char) :
    (readLabel s = none ∧ ∃ halt, round s = .error halt ∧ halt ≠ .cut) ∨
      ∃ label left, readLabel s = some (label, left) ∧ round s = .ok (label, left) := by
  by_cases hequals : '=' ∈ s
  · obtain ⟨key, after, rfl, hkey⟩ := List.eq_append_cons_of_mem hequals
    have hplain : ∀ c ∈ key, decide (c = '=') = false := fun c hc => by
      simpa using fun he : c = '=' => hkey (he ▸ hc)
    have hbefore := before?_append key ('=' :: after)
    have hbehind := behind?_append_cons key after (c := '=') (by decide)
    have hround := round.eq_def (key ++ '=' :: after)
    rw [offset?_append hplain (by decide)] at hround
    simp only [hbefore, hbehind] at hround
    by_cases hquote : after.head? = some '"'
    · obtain ⟨quoted, rfl⟩ := List.head?_eq_some_iff.1 hquote
      have hlabel : readLabel (key ++ '=' :: '"' :: quoted) = (readValue quoted).map
          fun read => ((String.ofList (trim key), String.ofList read.1), read.2) := by
        rw [readLabel, readKey_written quoted hkey]
        cases hread : readValue quoted <;> simp [hread]
      rcases closing?_eq quoted with ⟨hread, hclosing⟩ | ⟨value, inside, left, rfl, hread, hclosing⟩
      · simp only [hclosing] at hround
        exact .inl ⟨by rw [hlabel, hread]; rfl, .unclosed, hround, by decide⟩
      · simp only [hclosing, behind?_append_cons inside left (c := '"') (by decide)] at hround
        exact .inr ⟨_, left, by rw [hlabel, hread]; rfl, hround⟩
    · have hkeyless : readKey (key ++ '=' :: after) = none := by
        rw [readKey, dropWhile_stop (by simpa using hplain) (by simp)]
        split
        · next heq => exact absurd (congrArg List.head? (List.cons.inj heq).2) hquote
        · rfl
      refine .inl ⟨by rw [readLabel, hkeyless]; rfl, .noQuote, ?_, by decide⟩
      rw [hround]
      split
      · next heq => exact absurd (congrArg List.head? (Option.some.inj heq)) hquote
      · rfl
      · next hcut => exact absurd rfl (hcut key after rfl)
  · have hplain : ∀ c ∈ s, decide (c = '=') = false := fun c hc => by
      simpa using fun he : c = '=' => hequals (he ▸ hc)
    have hdrop : s.dropWhile (· ≠ '=') = [] := by
      simpa using hplain
    refine .inl ⟨by rw [readLabel, readKey, hdrop]; rfl, .noEquals, ?_, by decide⟩
    rw [round, offset?_eq_none hplain]

theorem readLabels_eq_none {s : List Char} (hbrace : (skipSeparators s).head? ≠ some '\x7d')
    (hlabel : readLabel (skipSeparators s) = none) : readLabels s = none := by
  rw [readLabels]
  split
  · next heq => exact absurd (congrArg List.head? heq) hbrace
  · split
    · rfl
    · next heq =>
      rw [hlabel] at heq
      contradiction

/-- So many rounds as there are characters suffice, and find the labels of `readLabels`. -/
theorem rounds_eq {n : Nat} {s : List Char} (labels : List Label) (h : s.length < n) :
    ∃ result, rounds n labels s = some result ∧ result ≠ .error .cut ∧
      result.toOption = (readLabels s).map fun (more, left) => (labels ++ more, left) := by
  induction n generalizing s labels with
  | zero => omega
  | succ n ih =>
    by_cases hbrace : (skipSeparators s).head? = some '\x7d'
    · obtain ⟨left, hskip⟩ := List.head?_eq_some_iff.1 hbrace
      refine ⟨.ok (labels, left), ?_, by simp, ?_⟩
      · simp only [rounds, hskip]
      · rw [readLabels, hskip]
        simp [Except.toOption]
    have hround : rounds (n + 1) labels s =
        match round (skipSeparators s) with
        | .error halt => some (.error halt)
        | .ok (label, left) => rounds n (labels ++ [label]) left := by
      rw [rounds]
      split
      · next heq => exact absurd (congrArg List.head? heq) hbrace
      · rfl
    rcases round_eq (skipSeparators s) with ⟨hread, halt, hhalt, hcut⟩ | ⟨label, left, hread, hok⟩
    · refine ⟨.error halt, by rw [hround, hhalt], by simpa using hcut, ?_⟩
      rw [readLabels_eq_none hbrace hread]
      rfl
    · have hshort : left.length < n := by
        have hlabel := length_lt_of_readLabel hread
        have hskip : (skipSeparators s).length ≤ s.length := (List.dropWhile_sublist _).length_le
        omega
      obtain ⟨result, hresult, hcut, hlabels⟩ := ih (labels ++ [label]) hshort
      refine ⟨result, by rw [hround, hok]; exact hresult, hcut, ?_⟩
      rw [hlabels, readLabels_of_readLabel hbrace hread, Option.map_map]
      simp [Function.comp_def]

end Roomwatch.Exposition
