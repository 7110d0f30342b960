import Mathlib
import Roomwatch.Exposition.Page
import Roomwatch.Proofs.RoundTrip

/-! What a reader sees of a label value.

Escaping is not one to one: a value that arrives partly escaped is taken at its word, so a
backslash before a quote is dropped, two of them count as one, and a backslash that is held
comes out behind the line feeds that follow it. `seen` is the value that is left of all that.
What is written for a value is `seen` of it, escaped character by character
(`escape_eq_flatMap_seen`), so that is what every reader gets back, and on clean values it
is the value itself (`seen_of_clean`). -/
namespace Roomwatch.Exposition

/-- What is left of a value to be seen; the flag says that a backslash is held. -/
def seenFrom : Bool → List Char → List Char
  | held, [] => if held then ['\\'] else []
  | held, c :: rest =>
    if c = '\n' then '\n' :: seenFrom held rest
    else if c = '"' then '"' :: seenFrom false rest
    else if c = '\\' then
      if held then '\\' :: seenFrom false rest else seenFrom true rest
    else if held then '\\' :: c :: seenFrom false rest
    else c :: seenFrom false rest

/-- What a reader sees of a label value. -/
def seen (value : List Char) : List Char := seenFrom false value

/-- A label as a reader sees it. -/
def seenLabel (label : Label) : Label := (label.1, String.ofList (seen label.2.toList))

/-- Both machines take the same branches. -/
theorem escapeFrom_eq_flatMap_seenFrom (held : Bool) (value : List Char) :
    escapeFrom held value = (seenFrom held value).flatMap escapeChar := by
  induction value generalizing held with
  | nil => cases held <;> rfl
  | cons c rest ih =>
    rw [escapeFrom, seenFrom]
    by_cases hn : c = '\n'
    · simp [hn, ih, escapeChar]
    by_cases hq : c = '"'
    · simp [hq, ih, escapeChar]
    by_cases hb : c = '\\'
    · cases held <;> simp [hb, ih, escapeChar]
    · cases held <;> simp [hn, hq, hb, ih, escapeChar]

theorem escape_eq_flatMap_seen (value : List Char) :
    escape value = (seen value).flatMap escapeChar := escapeFrom_eq_flatMap_seenFrom false value

/-- Values that are escaped alike, character by character, are the same. -/
theorem eq_of_flatMap_escapeChar {a b : List Char}
    (h : a.flatMap escapeChar = b.flatMap escapeChar) : a = b := by
  have ha := readValue_escaped a []
  rw [h, readValue_escaped] at ha
  exact (Prod.mk.inj (Option.some.inj ha)).1.symm

theorem seen_of_clean {value : List Char} (h : Clean value) : seen value = value := by
  refine eq_of_flatMap_escapeChar ?_
  rw [← escape_eq_flatMap_seen, escape_eq_flatMap h]

theorem seenLabel_of_clean {label : Label} (h : Clean label.2.toList) : seenLabel label = label := by
  rw [seenLabel, seen_of_clean h, String.ofList_toList]

theorem map_seenLabel_of_clean {labels : List Label}
    (h : ∀ label ∈ labels, Clean label.2.toList) : labels.map seenLabel = labels := by
  have hsame : labels.map seenLabel = labels.map id :=
    List.map_congr_left fun label hlabel => seenLabel_of_clean (h label hlabel)
  rw [hsame, List.map_id]

theorem labelText_eq_seen (label : Label) : labelText label =
    label.1.toList ++ ['=', '"'] ++ (seenLabel label).2.toList.flatMap escapeChar ++ ['"'] := by
  rw [labelText, escape_eq_flatMap_seen, seenLabel, String.toList_ofList]

/-- A value that arrives with its quote and its backslash escaped, and one that is not: they
cannot be told apart. -/
example : seen ['a', '\\', '"', '\\', '\\'] = ['a', '"', '\\'] ∧
    seen ['a', '"', '\\'] = ['a', '"', '\\'] := by decide

end Roomwatch.Exposition
