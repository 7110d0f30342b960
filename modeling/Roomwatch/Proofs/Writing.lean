import Mathlib
import Roomwatch.Exposition.Escape
import Roomwatch.Exposition.Reader

/-! How samples may be written.

A text of samples is a list of rows. A row holds one sample, or none: then it is blank
or a comment. A sample is its name, its labels in braces (or nothing when it has none),
blank space and a token; the row may be indented, and blank space followed by anything
may stand after the token. Labels stand among commas and spaces, blank space may
surround their keys, and any text at all may be a value, escaped character by
character. Rows end in a line feed, or in a carriage return and a line feed, but the
last one need not end.

`Written samples text` says that `text` is one of the ways to write `samples`. Nothing
here mentions how a text is read. -/
namespace Roomwatch.Exposition

open Number (Numeral)
open Text (isBlank)

/-- Blank space within a row. -/
def Gap (s : List Char) : Prop := ∀ c ∈ s, isBlank c = true ∧ c ≠ '\n'

/-- The commas and spaces around labels. -/
def Separators (s : List Char) : Prop := ∀ c ∈ s, c = ',' ∨ c = ' '

/-- What may follow a token in its row: nothing, or blank space and then anything. -/
structure Trailer (s : List Char) : Prop where
  row : '\n' ∉ s
  apart : ∀ c ∈ s.head?, isBlank c = true

structure IsName (name : String) : Prop where
  nonempty : name.toList ≠ []
  brace : '{' ∉ name.toList
  solid : ∀ c ∈ name.toList, isBlank c = false
  start : name.toList.head? ≠ some '#'

structure IsKey (key : String) : Prop where
  equals : '=' ∉ key.toList
  row : '\n' ∉ key.toList
  first : ∀ c ∈ key.toList.head?, isBlank c = false ∧ c ≠ ',' ∧ c ≠ '}'
  last : ∀ c ∈ key.toList.getLast?, isBlank c = false

structure IsToken (token : List Char) (value : Numeral) : Prop where
  solid : ∀ c ∈ token, isBlank c = false
  reads : Numeral.read? token = some value

/-- The labels of a block, up to its closing brace. -/
inductive WrittenLabels : List Label → List Char → Prop where
  | close {separators : List Char} :
    Separators separators → WrittenLabels [] (separators ++ ['}'])
  | label {separators before after rest : List Char} {key value : String} {labels : List Label} :
    Separators separators → Gap before → IsKey key → Gap after → WrittenLabels labels rest →
    WrittenLabels ((key, value) :: labels)
      (separators ++ (before ++ key.toList ++ after ++
        '=' :: '"' :: (value.toList.flatMap escapeChar ++ '"' :: rest)))

/-- The labels of a sample, in braces. Where there are none the braces may be missing. -/
inductive WrittenBlock : List Label → List Char → Prop where
  | none : WrittenBlock [] []
  | braces {labels : List Label} {body : List Char} :
    WrittenLabels labels body → WrittenBlock labels ('{' :: body)

inductive WrittenSample : Sample → List Char → Prop where
  | intro {name : String} {labels : List Label} {value : Numeral}
      {indent block gap token trailer : List Char} :
    Gap indent → IsName name → WrittenBlock labels block → Gap gap → gap ≠ [] →
    IsToken token value → Trailer trailer →
    WrittenSample ⟨name, labels, value⟩
      (indent ++ (name.toList ++ (block ++ (gap ++ (token ++ trailer)))))

/-- A row and the samples it holds. -/
inductive WrittenRow : List Sample → List Char → Prop where
  | blank {line : List Char} : Gap line → WrittenRow [] line
  | comment {indent text : List Char} :
    Gap indent → '\n' ∉ text → WrittenRow [] (indent ++ '#' :: text)
  | sample {s : Sample} {line : List Char} : WrittenSample s line → WrittenRow [s] line

/-- The end of a row. -/
inductive RowEnd : List Char → Prop where
  | feed : RowEnd ['\n']
  | returnFeed : RowEnd ['\r', '\n']

inductive Written : List Sample → List Char → Prop where
  | last {samples : List Sample} {line : List Char} : WrittenRow samples line → Written samples line
  | row {first samples : List Sample} {line ending text : List Char} :
    WrittenRow first line → RowEnd ending → Written samples text →
    Written (first ++ samples) (line ++ (ending ++ text))

theorem gap_nil : Gap [] := fun _ hc => absurd hc List.not_mem_nil

theorem separators_nil : Separators [] := fun _ hc => absurd hc List.not_mem_nil

/-! ### Rows stay in one line -/

theorem Gap.row {s : List Char} (h : Gap s) : '\n' ∉ s := fun hn => (h _ hn).2 rfl

theorem Gap.notMem {s : List Char} {c : Char} (h : Gap s) (hc : isBlank c = false) : c ∉ s :=
  fun hm => by simp [(h c hm).1] at hc

theorem Gap.append {a b : List Char} (ha : Gap a) (hb : Gap b) : Gap (a ++ b) :=
  fun c hc => (List.mem_append.1 hc).elim (ha c) (hb c)

/-- A line feed is blank. -/
theorem row_of_solid {s : List Char} (h : ∀ c ∈ s, isBlank c = false) : '\n' ∉ s := fun hn => by
  have := h _ hn
  rw [show isBlank '\n' = true by decide] at this
  contradiction

theorem IsToken.nonempty {token : List Char} {value : Numeral} (h : IsToken token value) :
    token ≠ [] := by
  intro he
  subst he
  have hreads := h.reads
  rw [show Numeral.read? [] = none by decide] at hreads
  contradiction

theorem newline_notMem_escapeChar (c : Char) : '\n' ∉ escapeChar c := by
  unfold escapeChar
  split
  · decide
  · next hn =>
    split
    · decide
    · split
      · decide
      · simpa using Ne.symm hn

theorem WrittenLabels.row {labels : List Label} {text : List Char} (h : WrittenLabels labels text) :
    '\n' ∉ text := by
  induction h with
  | close hs =>
    intro hn
    rcases List.mem_append.1 hn with hn | hn
    · exact absurd (hs _ hn) (by decide)
    · exact absurd hn (by decide)
  | label hs hb hk ha _ ih =>
    intro hn
    simp only [List.mem_append, List.mem_cons, List.mem_flatMap] at hn
    rcases hn with hn | ((hn | hn) | hn) | hn | hn | ⟨c, -, hn⟩ | hn | hn
    · exact absurd (hs _ hn) (by decide)
    · exact hb.row hn
    · exact hk.row hn
    · exact ha.row hn
    · exact absurd hn (by decide)
    · exact absurd hn (by decide)
    · exact newline_notMem_escapeChar c hn
    · exact absurd hn (by decide)
    · exact ih hn

theorem WrittenBlock.row {labels : List Label} {text : List Char} (h : WrittenBlock labels text) :
    '\n' ∉ text := by
  cases h with
  | none => exact List.not_mem_nil
  | braces hl => exact List.not_mem_cons_of_ne_of_not_mem (by decide) hl.row

theorem WrittenRow.row {samples : List Sample} {line : List Char} (h : WrittenRow samples line) :
    '\n' ∉ line := by
  cases h with
  | blank hg => exact hg.row
  | comment hi ht =>
    rw [List.mem_append, List.mem_cons, not_or, not_or]
    exact ⟨hi.row, by decide, ht⟩
  | sample hs =>
    obtain ⟨hi, hn, hb, hg, -, ht, htr⟩ := hs
    simp only [List.mem_append, not_or]
    exact ⟨hi.row, row_of_solid hn.solid, hb.row, hg.row, row_of_solid ht.solid, htr.row⟩

end Roomwatch.Exposition
