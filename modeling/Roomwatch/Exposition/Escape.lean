/-! Escaping label values.

A label value stands between double quotes, so a line feed, a quote and a
backslash in it must be escaped. A value may arrive partly escaped already, so a
backslash is held until the next character is seen: before a quote it is taken
for an escape and dropped, a second backslash joins it, and before anything else
it is written as two. `escape` is that machine; its flag says that a backslash is
held. `escape_eq_flatMap` says what it writes when no backslash stands before a
backslash, a quote or a line feed: every character escaped on its own. -/
namespace Roomwatch.Exposition

def escapeFrom : Bool → List Char → List Char
  | held, [] => if held then ['\\', '\\'] else []
  | held, c :: rest =>
    if c = '\n' then '\\' :: 'n' :: escapeFrom held rest
    else if c = '"' then '\\' :: '"' :: escapeFrom false rest
    else if c = '\\' then
      if held then '\\' :: '\\' :: escapeFrom false rest else escapeFrom true rest
    else if held then '\\' :: '\\' :: c :: escapeFrom false rest
    else c :: escapeFrom false rest

/-- The escaped form of a label value. -/
def escape (value : List Char) : List Char := escapeFrom false value

/-- One character escaped on its own. -/
def escapeChar (c : Char) : List Char :=
  if c = '\n' then ['\\', 'n']
  else if c = '"' then ['\\', '"']
  else if c = '\\' then ['\\', '\\']
  else [c]

/-- No backslash stands directly before a backslash, a quote or a line feed. -/
def Clean : List Char → Prop
  | '\\' :: c :: rest => c ≠ '\\' ∧ c ≠ '"' ∧ c ≠ '\n' ∧ Clean (c :: rest)
  | _ :: rest => Clean rest
  | [] => True

/-- A character that is not a backslash puts no condition on what follows. -/
theorem Clean.of_cons {c : Char} {rest : List Char} (h : Clean (c :: rest)) : Clean rest := by
  cases rest with
  | nil => simp [Clean]
  | cons d tail =>
    by_cases hc : c = '\\'
    · subst hc; exact h.2.2.2
    · rw [Clean] at h
      · exact h
      · intro _ _ he _; exact hc he

/-- On a clean value every character is escaped on its own. -/
theorem escape_eq_flatMap {value : List Char} (h : Clean value) :
    escape value = value.flatMap escapeChar := by
  unfold escape
  induction value with
  | nil => rfl
  | cons c rest ih =>
    have hrest := h.of_cons
    by_cases hn : c = '\n'
    · simp [escapeFrom, escapeChar, hn, ih hrest]
    by_cases hq : c = '"'
    · simp [escapeFrom, escapeChar, hq, ih hrest]
    by_cases hb : c = '\\'
    · subst hb
      cases rest with
      | nil => rfl
      | cons d tail =>
        obtain ⟨h1, h2, h3, _⟩ := h
        have := ih hrest
        simp [escapeFrom, escapeChar, h1, h2, h3] at this ⊢
        exact this
    · simp [escapeFrom, escapeChar, hn, hq, hb, ih hrest]

end Roomwatch.Exposition
