import Mathlib
import Roomwatch.Proofs.Writing

/-! Reading back what was written.

Each reader stops exactly where the piece it reads was said to end: `readValue` at the
quote that was not escaped, `readKey` at the first equals sign, `readLabels` at the brace
that closes the block, and trimming takes off the blank space around a row and nothing
of its sample. So a row is read as what it holds (`readLines_row`), and a text as its
rows (`readLines_written`), whatever stands in a label value. -/
namespace Roomwatch.Exposition

open Number (Numeral)
open Text (isBlank trim trimStart trimEnd firstWord? lines withoutReturn)

/-! ### Where scanning stops -/

section Scanning
variable {p : Char → Bool} {s t : List Char}

theorem dropWhile_stop (hs : ∀ c ∈ s, p c = true) (ht : ∀ c ∈ t.head?, p c = false) :
    (s ++ t).dropWhile p = t := by
  rw [List.dropWhile_append_of_pos hs]
  cases t with
  | nil => rfl
  | cons c rest => simp [ht c rfl]

theorem takeWhile_stop (hs : ∀ c ∈ s, p c = true) (ht : ∀ c ∈ t.head?, p c = false) :
    (s ++ t).takeWhile p = s := by
  rw [List.takeWhile_append_of_pos hs]
  cases t with
  | nil => simp
  | cons c rest => simp [ht c rfl]

theorem trim_of_blank (hs : ∀ c ∈ s, isBlank c = true) : trim s = [] := by
  have : trimStart s = [] := by
    rw [← List.append_nil s]
    exact dropWhile_stop hs (by simp)
  rw [trim, this]
  rfl

theorem trimEnd_append_of_blank (s : List Char) (ht : ∀ c ∈ t, isBlank c = true) :
    trimEnd (s ++ t) = trimEnd s := by
  unfold trimEnd
  rw [List.reverse_append, List.dropWhile_append_of_pos]
  intro c hc
  exact ht c (List.mem_reverse.1 hc)

/-- Trimming stops at the last character that is not blank. -/
theorem trimEnd_append_of_last (t : List Char) (hne : s ≠ [])
    (hs : ∀ c ∈ s.getLast?, isBlank c = false) : trimEnd (s ++ t) = s ++ trimEnd t := by
  obtain ⟨front, c, rfl⟩ := (List.eq_nil_or_concat s).resolve_left hne
  have hc : isBlank c = false := hs c (by simp)
  unfold trimEnd
  rw [List.reverse_append, List.dropWhile_append]
  split
  · next he => simp [hc, List.isEmpty_iff.1 he]
  · simp

theorem trim_append_of_blank (s : List Char) (ht : ∀ c ∈ t, isBlank c = true) :
    trim (s ++ t) = trim s := by
  unfold trim trimStart
  rw [List.dropWhile_append]
  split
  · next he =>
    rw [List.isEmpty_iff.1 he]
    have : t.dropWhile isBlank = [] := by
      rw [← List.append_nil t]
      exact dropWhile_stop ht (by simp)
    rw [this]
  · exact trimEnd_append_of_blank _ ht

end Scanning

/-- A carriage return is blank, so it does not matter whether it belongs to a line end. -/
theorem trim_withoutReturn (s : List Char) : trim (withoutReturn s) = trim s := by
  have : withoutReturn s = s ∨ s = withoutReturn s ++ ['\r'] := by
    fun_induction withoutReturn s with
    | case1 => exact .inl rfl
    | case2 => exact .inr rfl
    | case3 c rest _ ih => exact ih.imp (congrArg (c :: ·)) (congrArg (c :: ·))
  rcases this with h | h
  · rw [h]
  · rw [congrArg trim h, trim_append_of_blank]
    intro c hc
    rw [List.mem_singleton.1 hc]
    decide

/-! ### Labels -/

/-- An escaped value ends at the quote after it. -/
theorem readValue_escaped (value rest : List Char) :
    readValue (value.flatMap escapeChar ++ '"' :: rest) = some (value, rest) := by
  induction value with
  | nil => simp [readValue]
  | cons c tail ih =>
    rw [List.flatMap_cons, List.append_assoc]
    by_cases hn : c = '\n'
    · subst hn
      simp [escapeChar, readValue, ih, unescaped]
    by_cases hq : c = '"'
    · subst hq
      simp [escapeChar, readValue, ih, unescaped]
    by_cases hb : c = '\\'
    · subst hb
      simp [escapeChar, readValue, ih, unescaped]
    · simp [escapeChar, hn, hq, hb, readValue, ih]

theorem readKey_written {s : List Char} (rest : List Char) (h : '=' ∉ s) :
    readKey (s ++ '=' :: '"' :: rest) = some (s, rest) := by
  have hs : ∀ c ∈ s, decide (c ≠ '=') = true := fun c hc => by
    simpa using fun he : c = '=' => h (he ▸ hc)
  unfold readKey
  rw [dropWhile_stop hs (by simp), takeWhile_stop hs (by simp)]
  rfl

theorem trim_key {before after : List Char} {key : String} (hb : Gap before) (hk : IsKey key)
    (ha : Gap after) : trim (before ++ key.toList ++ after) = key.toList := by
  rw [trim_append_of_blank _ fun c hc => (ha c hc).1]
  by_cases he : key.toList = []
  · rw [he, List.append_nil]
    exact trim_of_blank fun c hc => (hb c hc).1
  · have hstart : trimStart (before ++ key.toList) = key.toList :=
      dropWhile_stop (fun c hc => (hb c hc).1) fun c hc => (hk.first c hc).1
    rw [trim, hstart, ← List.append_nil key.toList, trimEnd_append_of_last [] he hk.last]
    rfl

theorem Separators.skipped {s : List Char} (h : Separators s) : ∀ c ∈ s, isSeparator c = true := by
  intro c hc
  simpa [isSeparator] using h c hc

/-- Skipping separators may take some of the blank space that follows them, and no more. -/
theorem skipSeparators_gap {separators gap : List Char} (rest : List Char)
    (hs : Separators separators) (hg : Gap gap) (hr : ∀ c ∈ rest.head?, isSeparator c = false) :
    ∃ left, Gap left ∧ skipSeparators (separators ++ (gap ++ rest)) = left ++ rest := by
  unfold skipSeparators
  rw [List.dropWhile_append_of_pos hs.skipped]
  induction gap with
  | nil => exact ⟨[], gap_nil, dropWhile_stop (s := []) (by simp) hr⟩
  | cons c tail ih =>
    have htail : Gap tail := fun d hd => hg d (List.mem_cons_of_mem c hd)
    cases hc : isSeparator c with
    | true => simpa [hc] using ih htail
    | false => exact ⟨c :: tail, hg, by simp [hc]⟩

/-- One label is read as it was meant, from wherever skipping separators ends: that may be
before its key, or before its equals sign when the key is empty. -/
theorem readLabel_written {separators before after : List Char} {key : String} (value : String)
    (rest : List Char) (hs : Separators separators) (hb : Gap before) (hk : IsKey key)
    (ha : Gap after) :
    let text := skipSeparators (separators ++ (before ++ key.toList ++ after ++
      '=' :: '"' :: (value.toList.flatMap escapeChar ++ '"' :: rest)))
    text.head? ≠ some '}' ∧ readLabel text = some ((key, value), rest) := by
  intro text
  have hleft : ∃ left, text = left ++
        '=' :: '"' :: (value.toList.flatMap escapeChar ++ '"' :: rest) ∧
      '=' ∉ left ∧ left.head? ≠ some '}' ∧ trim left = key.toList := by
    by_cases he : key.toList = []
    · obtain ⟨left, hgap, htext⟩ := skipSeparators_gap
        ('=' :: '"' :: (value.toList.flatMap escapeChar ++ '"' :: rest)) hs (hb.append ha)
        (by simp [isSeparator])
      refine ⟨left, ?_, hgap.notMem (by decide), ?_, ?_⟩
      · rw [← htext]
        simp [text, he]
      · intro hbrace
        exact hgap.notMem (by decide) (List.mem_of_mem_head? hbrace)
      · rw [he]
        exact trim_of_blank fun c hc => (hgap c hc).1
    · obtain ⟨c, tail, hkey⟩ := List.exists_cons_of_ne_nil he
      obtain ⟨hblank, hcomma, hclose⟩ := hk.first c (by simp [hkey])
      have hspace : c ≠ ' ' := by
        intro he
        subst he
        exact absurd hblank (by decide)
      obtain ⟨left, hgap, htext⟩ := skipSeparators_gap
        (key.toList ++ (after ++ '=' :: '"' :: (value.toList.flatMap escapeChar ++ '"' :: rest)))
        hs hb (by simp [hkey, isSeparator, hcomma, hspace])
      refine ⟨left ++ key.toList ++ after, ?_, ?_, ?_, trim_key hgap hk ha⟩
      · rw [List.append_assoc, List.append_assoc, ← htext]
        simp [text]
      · simp only [List.mem_append, not_or]
        exact ⟨⟨hgap.notMem (by decide), hk.equals⟩, ha.notMem (by decide)⟩
      · cases left with
        | nil => simpa [hkey] using hclose
        | cons d front =>
          simpa using fun hd : d = '}' =>
            hgap.notMem (c := '}') (by decide) (hd ▸ List.mem_cons_self ..)
  obtain ⟨left, htext, hequals, hbrace, htrim⟩ := hleft
  rw [htext]
  constructor
  · cases left with
    | nil => simp
    | cons c tail => simpa using hbrace
  · simp [readLabel, readKey_written _ hequals, readValue_escaped, htrim]

theorem readLabels_of_readLabel {s after : List Char} {label : Label}
    (hbrace : (skipSeparators s).head? ≠ some '}')
    (hlabel : readLabel (skipSeparators s) = some (label, after)) :
    readLabels s = (readLabels after).map fun (labels, tail) => (label :: labels, tail) := by
  rw [readLabels]
  split
  · next heq => exact absurd (congrArg List.head? heq) hbrace
  · split
    · next heq =>
      rw [hlabel] at heq
      contradiction
    · next heq =>
      rw [hlabel, Option.some.injEq, Prod.mk.injEq] at heq
      rw [heq.1, heq.2]

theorem readLabels_written {labels : List Label} {text : List Char}
    (h : WrittenLabels labels text) (rest : List Char) :
    readLabels (text ++ rest) = some (labels, rest) := by
  induction h with
  | @close separators hs =>
    rw [readLabels, List.append_assoc, skipSeparators,
      dropWhile_stop hs.skipped (by simp [isSeparator])]
    rfl
  | @label separators before after tail key value labels hs hb hk ha _ ih =>
    obtain ⟨hbrace, hlabel⟩ := readLabel_written value (tail ++ rest) hs hb hk ha
    have := readLabels_of_readLabel hbrace hlabel
    rw [ih] at this
    simpa only [List.append_assoc, List.cons_append, Option.map_some] using this

/-! ### Rows -/

theorem readBlock_written {labels : List Label} {block : List Char} (h : WrittenBlock labels block)
    (rest : List Char) (hrest : rest.head? ≠ some '{') :
    readBlock (block ++ rest) = some (labels, rest) := by
  cases h with
  | none =>
    rw [List.nil_append]
    unfold readBlock
    split
    · exact absurd rfl hrest
    · rfl
  | braces hl => exact readLabels_written hl rest

theorem readToken?_written {gap token trailer : List Char} {value : Numeral} (hg : Gap gap)
    (ht : IsToken token value) (htr : ∀ c ∈ trailer.head?, isBlank c = true) :
    readToken? (gap ++ (token ++ trailer)) = some value := by
  obtain ⟨c, tail, rfl⟩ := List.exists_cons_of_ne_nil ht.nonempty
  have hstart : trimStart (gap ++ (c :: tail ++ trailer)) = c :: tail ++ trailer :=
    dropWhile_stop (fun d hd => (hg d hd).1) (by simpa using ht.solid c (by simp))
  have hword : firstWord? (gap ++ (c :: tail ++ trailer)) = some (c :: tail) := by
    unfold firstWord?
    rw [hstart]
    show some ((c :: tail ++ trailer).takeWhile _) = _
    rw [takeWhile_stop]
    · simpa using ht.solid
    · simpa using htr
  rw [readToken?, hword]
  exact ht.reads

/-- What trimming leaves of a row that holds a sample is read as that sample. -/
theorem readSample_written {name : String} {labels : List Label} {value : Numeral}
    {block gap token trailer : List Char} (hn : IsName name) (hb : WrittenBlock labels block)
    (hg : Gap gap) (hne : gap ≠ []) (ht : IsToken token value)
    (htr : ∀ c ∈ trailer.head?, isBlank c = true) :
    readSample (name.toList ++ (block ++ (gap ++ (token ++ trailer)))) =
      some ⟨name, labels, value⟩ := by
  obtain ⟨c, tail, rfl⟩ := List.exists_cons_of_ne_nil hne
  have hc : isBlank c = true := (hg c (by simp)).1
  have hname : ∀ d ∈ name.toList, (!endsName d) = true := fun d hd => by
    have : d ≠ '{' := fun he => hn.brace (he ▸ hd)
    simp [endsName, this, hn.solid d hd]
  have hstop : ∀ d ∈ (block ++ (c :: tail ++ (token ++ trailer))).head?, (!endsName d) = false := by
    cases hb with
    | none => simp [endsName, hc]
    | braces => simp [endsName]
  have hopen : c ≠ '{' := by
    intro he
    subst he
    exact absurd hc (by decide)
  have hblock := readBlock_written hb (c :: tail ++ (token ++ trailer)) (by simpa using hopen)
  have htoken := readToken?_written hg ht htr
  unfold readSample
  rw [dropWhile_stop hname hstop, takeWhile_stop hname hstop]
  split
  · next heq => simp at heq
  · rw [hblock]
    simp only [Option.bind_eq_bind, Option.bind_some, htoken, Option.pure_def, String.ofList_toList]

theorem head?_trimEnd {s : List Char} {c : Char} (h : c ∈ (trimEnd s).head?) : c ∈ s.head? := by
  obtain ⟨rest, hrest⟩ : trimEnd s <+: s := List.rdropWhile_prefix isBlank s
  rw [← hrest]
  exact List.mem_head?_append_of_mem_head? h

/-- Trimming takes off the blank space around a sample, at most. -/
theorem trim_sample {name indent token : List Char} (front trailer : List Char) (hi : Gap indent)
    (hname : name ≠ []) (hn : ∀ c ∈ name, isBlank c = false) (htoken : token ≠ [])
    (ht : ∀ c ∈ token, isBlank c = false) :
    trim (indent ++ (name ++ (front ++ (token ++ trailer)))) =
      name ++ (front ++ (token ++ trimEnd trailer)) := by
  have hstart : trimStart (indent ++ (name ++ (front ++ (token ++ trailer)))) =
      name ++ (front ++ (token ++ trailer)) := by
    obtain ⟨c, tail, rfl⟩ := List.exists_cons_of_ne_nil hname
    exact dropWhile_stop (fun d hd => (hi d hd).1) (by simpa using hn c (by simp))
  have hlast : ∀ c ∈ (name ++ (front ++ token)).getLast?, isBlank c = false := by
    intro c hc
    rw [List.getLast?_append_of_ne_nil _ (by simp [htoken]),
      List.getLast?_append_of_ne_nil _ htoken] at hc
    exact ht c (List.mem_of_mem_getLast? hc)
  rw [trim, hstart]
  have := trimEnd_append_of_last trailer (by simp [hname]) hlast
  simpa only [List.append_assoc] using this

/-- A trimmed row is read as the samples it holds. -/
theorem readLines_row {samples : List Sample} {line : List Char} (h : WrittenRow samples line) :
    readLines ([trim line].filter isSampleLine) = .ok samples := by
  cases h with
  | blank hg =>
    rw [trim_of_blank fun c hc => (hg c hc).1]
    rfl
  | @comment indent text hi _ =>
    have hstart : trimStart (indent ++ '#' :: text) = ['#'] ++ text :=
      dropWhile_stop (fun c hc => (hi c hc).1) (by simp; decide)
    rw [trim, hstart, trimEnd_append_of_last text (by simp) (by simp; decide)]
    rfl
  | sample hs =>
    obtain ⟨hi, hn, hb, hg, hne, ht, htr⟩ := hs
    rename_i name labels value indent block gap token trailer
    have htrim := trim_sample (block ++ gap) trailer hi hn.nonempty hn.solid ht.nonempty ht.solid
    have hread := readSample_written hn hb hg hne ht fun c hc => htr.apart c (head?_trimEnd hc)
    have hline :
        isSampleLine (name.toList ++ (block ++ (gap ++ (token ++ trimEnd trailer)))) = true := by
      obtain ⟨c, tail, hname⟩ := List.exists_cons_of_ne_nil hn.nonempty
      have : c ≠ '#' := fun he => hn.start (by rw [hname, he]; rfl)
      simpa [hname, isSampleLine] using this
    simp only [List.append_assoc] at htrim
    rw [htrim, List.filter_cons_of_pos hline, List.filter_nil]
    simp [readLines, readLine, hread, bind, Except.bind, pure, Except.pure]

/-! ### Texts -/

theorem lines_of_notMem {line : List Char} (h : '\n' ∉ line) (hne : line ≠ []) :
    lines line = [line] := by
  induction line with
  | nil => contradiction
  | cons c tail ih =>
    rw [List.mem_cons, not_or] at h
    have hc : c ≠ '\n' := fun he => h.1 he.symm
    have htail : tail.head? ≠ some '\n' := fun he => h.2 (List.mem_of_mem_head? he)
    rw [Text.lines_cons hc fun _ => htail]
    cases tail with
    | nil => rfl
    | cons d rest => rw [ih h.2 (by simp)]

theorem sampleLines_line {line : List Char} (h : '\n' ∉ line) :
    sampleLines line = [trim line].filter isSampleLine := by
  by_cases hne : line = []
  · subst hne
    rfl
  · rw [sampleLines, lines_of_notMem h hne]
    rfl

/-- The end of a row cuts it off, and trimming does not see which end it was. -/
theorem sampleLines_row {line ending : List Char} (text : List Char) (h : '\n' ∉ line)
    (he : RowEnd ending) :
    sampleLines (line ++ (ending ++ text)) =
      [trim line].filter isSampleLine ++ sampleLines text := by
  have cut (row : List Char) (hr : '\n' ∉ row) : sampleLines (row ++ '\n' :: text) =
      [trim row].filter isSampleLine ++ sampleLines text := by
    rw [sampleLines, Text.lines_append_newline text hr, List.map_cons, trim_withoutReturn,
      ← List.singleton_append, List.filter_append]
    rfl
  cases he with
  | feed => exact cut line h
  | returnFeed =>
    have := cut (line ++ ['\r']) (by simpa using h)
    rw [trim_append_of_blank line (by simp; decide), List.append_assoc] at this
    exact this

theorem readLines_written {samples : List Sample} {text : List Char} (h : Written samples text) :
    readLines (sampleLines text) = .ok samples := by
  induction h with
  | last hr => rw [sampleLines_line hr.row, readLines_row hr]
  | row hr he _ ih =>
    rw [sampleLines_row _ hr.row he, readLines_append, readLines_row hr, ih]
    rfl

/-- **However samples are written, they are read back**, all of them, in order. -/
theorem read_written {samples : List Sample} {text : String} (h : Written samples text.toList) :
    read text = .ok samples := by
  unfold read
  exact readLines_written h

/-- Three samples written with a comment, a blank row, both row ends, a timestamp, a value with
every character that matters to a reader, an empty key and an open last row. -/
theorem read_written_mixed :
    let samples : List Sample :=
      [⟨"up", [], .decimal false 1 0⟩,
        ⟨"x:y", [("a b", "q\"\x7d=\\\n,\r"), ("", "")], .infinite false⟩,
        ⟨"z", [], .decimal true 15 2⟩]
    let text := " # HELP up\n\t\r\n  up 1 17\n" ++
      "x:y\x7b ,,a b=\"q\\\"\x7d=\\\\\\n,\r\",, \t =\"\" , \x7d +Inf\t\r\nz\x7b,\x7d  -1.5e3"
    Written samples text.toList ∧ read text = .ok samples := by
  intro samples text
  have hcomment : WrittenRow [] " # HELP up".toList :=
    @WrittenRow.comment [' '] " HELP up".toList (by simp [Gap, isBlank]) (by decide)
  have hblank : WrittenRow [] ['\t'] := .blank (by simp [Gap, isBlank])
  have hup : WrittenSample ⟨"up", [], .decimal false 1 0⟩ "  up 1 17".toList :=
    @WrittenSample.intro "up" [] _ [' ', ' '] [] [' '] ['1'] [' ', '1', '7']
      (by simp [Gap, isBlank]) ⟨by decide, by decide, by simp [isBlank], by decide⟩ .none
      (by simp [Gap, isBlank]) (by decide) ⟨by simp [isBlank], by decide⟩
      ⟨by decide, by simp [isBlank]⟩
  have hlabels : WrittenLabels [("a b", "q\"\x7d=\\\n,\r"), ("", "")]
      " ,,a b=\"q\\\"\x7d=\\\\\\n,\r\",, \t =\"\" , \x7d".toList :=
    @WrittenLabels.label [' ', ',', ','] [] [] _ "a b" _ _ (by simp [Separators]) (by simp [Gap])
      ⟨by decide, by decide, by simp [isBlank], by simp [isBlank]⟩ (by simp [Gap])
      (@WrittenLabels.label [',', ',', ' '] ['\t'] [' '] _ "" _ _ (by simp [Separators])
        (by simp [Gap, isBlank]) ⟨by decide, by decide, by simp, by simp⟩ (by simp [Gap, isBlank])
        (@WrittenLabels.close [' ', ',', ' '] (by simp [Separators])))
  have hxy : WrittenSample ⟨"x:y", [("a b", "q\"\x7d=\\\n,\r"), ("", "")], .infinite false⟩
      "x:y\x7b ,,a b=\"q\\\"\x7d=\\\\\\n,\r\",, \t =\"\" , \x7d +Inf\t".toList :=
    @WrittenSample.intro "x:y" _ _ [] _ [' '] "+Inf".toList ['\t'] (by simp [Gap])
      ⟨by decide, by decide, by simp [isBlank], by decide⟩ (.braces hlabels)
      (by simp [Gap, isBlank]) (by decide) ⟨by simp [isBlank], by decide⟩
      ⟨by decide, by simp [isBlank]⟩
  have hz : WrittenSample ⟨"z", [], .decimal true 15 2⟩ "z\x7b,\x7d  -1.5e3".toList :=
    @WrittenSample.intro "z" [] _ [] ['\x7b', ',', '\x7d'] [' ', ' '] "-1.5e3".toList []
      (by simp [Gap]) ⟨by decide, by decide, by simp [isBlank], by decide⟩
      (.braces (@WrittenLabels.close [','] (by simp [Separators])))
      (by simp [Gap, isBlank]) (by decide) ⟨by simp [isBlank], by decide⟩ ⟨by decide, by simp⟩
  have hwritten := Written.row hcomment .feed (.row hblank .returnFeed (.row (.sample hup) .feed
    (.row (.sample hxy) .returnFeed (.last (.sample hz)))))
  have h : Written samples text.toList := by
    rw [String.toList_append]
    exact hwritten
  exact ⟨h, read_written h⟩

end Roomwatch.Exposition
