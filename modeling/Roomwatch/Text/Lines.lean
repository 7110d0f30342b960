/-! Splitting a text into lines.

A line ends at a line feed, and one carriage return just before that line feed
belongs to the line end. A last line without a line feed still counts, and an
empty text has no lines. `lines_cons` gives a line its first character, and
`lines_append_newline` cuts a line off the front of a text. -/
namespace Roomwatch.Text

def lines : List Char → List (List Char)
  | [] => []
  | '\r' :: '\n' :: rest => [] :: lines rest
  | '\n' :: rest => [] :: lines rest
  | c :: rest =>
    match lines rest with
    | [] => [[c]]
    | first :: others => (c :: first) :: others

theorem lines_newline (rest : List Char) : lines ('\n' :: rest) = [] :: lines rest := by
  simp [lines]

theorem lines_return_newline (rest : List Char) :
    lines ('\r' :: '\n' :: rest) = [] :: lines rest := by
  simp [lines]

/-- A character that ends no line joins the line that follows it. -/
theorem lines_cons {c : Char} {rest : List Char} (hn : c ≠ '\n')
    (hr : c = '\r' → rest.head? ≠ some '\n') :
    lines (c :: rest) =
      match lines rest with
      | [] => [[c]]
      | first :: others => (c :: first) :: others := by
  rw [lines]
  · rintro tail rfl rfl
    exact hr rfl rfl
  · exact hn

/-- What a line keeps of the text before its line feed: all but a last carriage return. -/
def withoutReturn : List Char → List Char
  | [] => []
  | ['\r'] => []
  | c :: rest => c :: withoutReturn rest

/-- A text without line feeds is one line once a line feed follows it. -/
theorem lines_append_newline {line : List Char} (rest : List Char) (h : '\n' ∉ line) :
    lines (line ++ '\n' :: rest) = withoutReturn line :: lines rest := by
  induction line with
  | nil => exact lines_newline rest
  | cons c tail ih =>
    rw [List.mem_cons, not_or] at h
    have hc : c ≠ '\n' := fun he => h.1 he.symm
    by_cases hr : c = '\r' ∧ tail = []
    · obtain ⟨rfl, rfl⟩ := hr
      exact lines_return_newline rest
    · have hw : withoutReturn (c :: tail) = c :: withoutReturn tail := by
        rw [withoutReturn]
        rintro rfl rfl
        exact hr ⟨rfl, rfl⟩
      rw [List.cons_append, lines_cons hc, ih h.2, hw]
      intro hcr
      cases tail with
      | nil => exact absurd ⟨hcr, rfl⟩ hr
      | cons d _ =>
        simp only [List.cons_append, List.head?_cons, ne_eq, Option.some.injEq]
        exact fun hd => h.2 (hd ▸ List.mem_cons_self ..)

end Roomwatch.Text
