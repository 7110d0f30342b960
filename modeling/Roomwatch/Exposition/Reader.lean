import Roomwatch.Exposition.Sample
import Roomwatch.Text.Blank
import Roomwatch.Text.Lines

/-! Reading exposition text.

Every line is trimmed; blank lines and comments are passed over, and each other
line must hold one sample: a name, a block of labels in braces or none, and a
token for the value. What follows the token is ignored. `readLabels` reads the
block after its opening brace: labels `key="value"` among commas and spaces, up
to the closing brace. Each reader returns what it has not read, and that is
shorter than what it was given, so the block comes to an end. The first line that
holds no sample makes the whole text malformed. -/
namespace Roomwatch.Exposition

open Number (Numeral)
open Text (isBlank trim firstWord? lines)

/-- The character that a backslash and `c` stand for. -/
def unescaped (c : Char) : Char := if c = 'n' then '\n' else c

/-- A label value up to its closing quote, and what follows the quote. -/
def readValue : List Char → Option (List Char × List Char)
  | [] => none
  | '"' :: rest => some ([], rest)
  | ['\\'] => none
  | '\\' :: c :: rest => (readValue rest).map fun (value, after) => (unescaped c :: value, after)
  | c :: rest => (readValue rest).map fun (value, after) => (c :: value, after)

/-- A label key up to its equals sign, and what follows the opening quote of its value. -/
def readKey (s : List Char) : Option (List Char × List Char) :=
  match s.dropWhile (· ≠ '=') with
  | '=' :: '"' :: rest => some (s.takeWhile (· ≠ '='), rest)
  | _ => none

def isSeparator (c : Char) : Bool := c = ',' || c = ' '

def skipSeparators (s : List Char) : List Char := s.dropWhile isSeparator

theorem length_lt_of_readValue {s value after : List Char} (h : readValue s = some (value, after)) :
    after.length < s.length := by
  fun_induction readValue s generalizing value after with
  | case1 => simp at h
  | case2 rest => simp_all
  | case3 => simp at h
  | case4 c rest ih =>
    obtain ⟨⟨v, a⟩, hv, he⟩ := Option.map_eq_some_iff.1 h
    obtain ⟨-, rfl⟩ := Prod.mk.inj he
    have := ih hv
    simp only [List.length_cons]
    omega
  | case5 c rest _ _ _ ih =>
    obtain ⟨⟨v, a⟩, hv, he⟩ := Option.map_eq_some_iff.1 h
    obtain ⟨-, rfl⟩ := Prod.mk.inj he
    have := ih hv
    simp only [List.length_cons]
    omega

theorem length_lt_of_readKey {s key after : List Char} (h : readKey s = some (key, after)) :
    after.length < s.length := by
  unfold readKey at h
  have hle := (List.dropWhile_sublist (l := s) (· ≠ '=')).length_le
  split at h
  · next rest he =>
    simp only [Option.some.injEq, Prod.mk.injEq] at h
    rw [he] at hle
    simp only [List.length_cons] at hle
    rw [← h.2]
    omega
  · simp at h

/-- One label, and what follows the closing quote of its value. -/
def readLabel (s : List Char) : Option (Label × List Char) := do
  let (key, quoted) ← readKey s
  let (value, after) ← readValue quoted
  return ((String.ofList (trim key), String.ofList value), after)

theorem length_lt_of_readLabel {s after : List Char} {label : Label}
    (h : readLabel s = some (label, after)) : after.length < s.length := by
  simp only [readLabel, Option.bind_eq_bind, Option.bind_eq_some_iff, Option.pure_def,
    Option.some.injEq, Prod.mk.injEq] at h
  obtain ⟨⟨key, quoted⟩, hk, ⟨value, rest⟩, hv, -, rfl⟩ := h
  exact Nat.lt_trans (length_lt_of_readValue hv) (length_lt_of_readKey hk)

/-- The labels of a block, and what follows its closing brace. -/
def readLabels (s : List Char) : Option (List Label × List Char) :=
  match skipSeparators s with
  | '}' :: after => some ([], after)
  | _ =>
    match _h : readLabel (skipSeparators s) with
    | none => none
    | some (label, after) => (readLabels after).map fun (labels, tail) => (label :: labels, tail)
termination_by s.length
decreasing_by
  exact Nat.lt_of_lt_of_le (length_lt_of_readLabel _h) (List.dropWhile_sublist isSeparator).length_le

/-- The end of a name. -/
def endsName (c : Char) : Bool := c = '{' || isBlank c

/-- The labels after a name, in braces or none, and what follows them. -/
def readBlock : List Char → Option (List Label × List Char)
  | '{' :: body => readLabels body
  | s => some ([], s)

def readToken? (s : List Char) : Option Numeral := (firstWord? s).bind Numeral.read?

/-- The sample on a line. -/
def readSample (line : List Char) : Option Sample :=
  match line.dropWhile fun c => !endsName c with
  | [] => none
  | rest => do
    let (labels, tail) ← readBlock rest
    let value ← readToken? tail
    return ⟨String.ofList (line.takeWhile fun c => !endsName c), labels, value⟩

/-- A line that must hold a sample: neither empty nor a comment. -/
def isSampleLine : List Char → Bool
  | [] => false
  | c :: _ => c ≠ '#'

/-- The trimmed lines of a text that must hold samples. -/
def sampleLines (text : List Char) : List (List Char) := ((lines text).map trim).filter isSampleLine

/-- A line that holds no sample where there must be one. -/
structure Malformed where
  line : String
deriving DecidableEq, Repr

def Malformed.message (m : Malformed) : String := "malformed sample line: " ++ m.line

def readLine (line : List Char) : Except Malformed Sample :=
  match readSample line with
  | some sample => .ok sample
  | none => .error ⟨String.ofList line⟩

def readLines : List (List Char) → Except Malformed (List Sample)
  | [] => .ok []
  | line :: rest => do
    let sample ← readLine line
    let samples ← readLines rest
    return sample :: samples

/-- The samples of a text, or its first malformed line. -/
def read (text : String) : Except Malformed (List Sample) := readLines (sampleLines text.toList)

theorem readLines_append (a b : List (List Char)) :
    readLines (a ++ b) = do
      let first ← readLines a
      let second ← readLines b
      return first ++ second := by
  induction a with
  | nil => cases h : readLines b <;> simp [readLines, h, bind, Except.bind, pure, Except.pure]
  | cons line rest ih =>
    simp only [List.cons_append, readLines, ih, bind, Except.bind, pure, Except.pure]
    cases readLine line <;> simp
    cases readLines rest <;> simp
    cases readLines b <;> simp

end Roomwatch.Exposition
