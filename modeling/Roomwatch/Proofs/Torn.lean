import Mathlib
import Roomwatch.Proofs.Grammar

/-! Rows that break off.

A text may end in the middle of a row, because whoever wrote it was stopped. Where the
row of a sample breaks off before its token, nothing of it is read as another sample
(`readSample_torn`): a reader that finds the end of a block finds it in every text that
goes on from there (`readLabels_append`), so it is the end that was written, and behind
that end stands blank space only. Hence the text is malformed, and the torn row is the
one that is reported (`read_torn`), wherever it was cut: in the name, in a key, between
a backslash and the character that it escapes, or in a value full of quotes and braces. -/
namespace Roomwatch.Exposition

open Text (isBlank trim trimStart trimEnd firstWord? lines)

/-- A reader of labels does not look behind the brace at which it stops. -/
theorem readLabels_append {s t : List Char} {labels : List Label}
    (h : readLabels s = some (labels, t)) (more : List Char) :
    readLabels (s ++ more) = some (labels, t ++ more) := by
  obtain ⟨b, hb, rfl, rfl⟩ := block_of_readLabels h
  rw [List.append_assoc, readLabels_body hb]

theorem readToken?_of_blank {s : List Char} (h : ∀ c ∈ s, isBlank c = true) :
    readToken? s = none := by
  have hstart : trimStart s = [] := by simpa [trimStart] using h
  simp [readToken?, firstWord?, hstart]

section Cut
variable {name : String} {labels : List Label} {block gap torn rest : List Char}

/-- Behind whatever is read as a block stands no more than the blank space that was written
behind the block. -/
theorem gap_of_readBlock {found : List Label} {tail : List Char} (hb : WrittenBlock labels block)
    (hg : Gap gap) (hcut : torn ++ rest = block ++ gap) (h : readBlock torn = some (found, tail)) :
    Gap tail := by
  have hpart : ∀ more, tail ++ more = gap → Gap tail := fun more he c hc =>
    hg c (he ▸ List.mem_append_left more hc)
  cases hb with
  | none =>
    rw [List.nil_append] at hcut
    have hbrace : torn.head? ≠ some '{' := fun hhead =>
      hg.notMem (c := '{') (by decide)
        (hcut ▸ List.mem_append_left rest (List.mem_of_mem_head? hhead))
    rw [show readBlock torn = some ([], torn) from readBlock_written .none torn hbrace] at h
    obtain ⟨-, rfl⟩ := Prod.mk.inj (Option.some.inj h)
    exact hpart rest hcut
  | @braces labels body hl =>
    cases torn with
    | nil =>
      obtain ⟨-, rfl⟩ := Prod.mk.inj (Option.some.inj h)
      exact gap_nil
    | cons c torn =>
      rw [List.cons_append, List.cons_append, List.cons.injEq] at hcut
      obtain ⟨rfl, hcut⟩ := hcut
      have hwhole := readLabels_append h rest
      rw [hcut, readLabels_written hl] at hwhole
      exact hpart rest (Prod.mk.inj (Option.some.inj hwhole)).2.symm

/-- A sample that breaks off before its token is no sample. -/
theorem readSample_torn (hn : IsName name) (hb : WrittenBlock labels block) (hg : Gap gap)
    (hcut : torn ++ rest = name.toList ++ (block ++ gap)) : readSample torn = none := by
  have hname : ∀ c ∈ name.toList, (!endsName c) = true := fun c hc => by
    have : c ≠ '{' := fun he => hn.brace (he ▸ hc)
    simp [endsName, this, hn.solid c hc]
  obtain ⟨more, hmore, -⟩ | ⟨torn, rfl, hrest⟩ := List.append_eq_append_iff.1 hcut
  · -- Cut within the name.
    have : torn.dropWhile (fun c => !endsName c) = [] :=
      List.dropWhile_eq_nil_iff.2 fun c hc => hname c (hmore ▸ List.mem_append_left more hc)
    rw [readSample, this]
  · -- Cut in the block or behind it.
    have hstop : ∀ c ∈ torn.head?, (!endsName c) = false := by
      intro c hc
      have hhead : c ∈ (block ++ gap).head? := hrest ▸ List.mem_head?_append_of_mem_head? hc
      cases hb with
      | none => simp [endsName, (hg c (List.mem_of_mem_head? hhead)).1]
      | braces =>
        obtain rfl : '{' = c := by simpa using hhead
        rfl
    unfold readSample
    rw [dropWhile_stop hname hstop]
    split
    · rfl
    · cases hblock : readBlock torn with
      | none => rfl
      | some read =>
        have hgap := gap_of_readBlock hb hg hrest.symm hblock
        simp [readToken?_of_blank fun c hc => (hgap c hc).1]

end Cut

/-! ### Texts that end in a torn row -/

theorem readLines_earlier {rows : List (List Char)}
    (h : ∀ line ∈ rows, ∃ samples, WrittenRow samples line) :
    ∃ samples, readLines ((rows.map trim).filter isSampleLine) = .ok samples := by
  induction rows with
  | nil => exact ⟨[], rfl⟩
  | cons line rows ih =>
    rw [List.forall_mem_cons] at h
    obtain ⟨first, hfirst⟩ := h.1
    obtain ⟨samples, hsamples⟩ := ih h.2
    refine ⟨first ++ samples, ?_⟩
    rw [List.map_cons, ← List.singleton_append, List.filter_append, readLines_append,
      readLines_row hfirst, hsamples]
    rfl

/-- Trimming takes nothing from the front of a row that starts with a name. -/
theorem trim_cons {c : Char} (tail : List Char) (hc : isBlank c = false) :
    trim (c :: tail) = c :: trimEnd tail := by
  have hstart : trimStart (c :: tail) = [c] ++ tail := by simp [trimStart, hc]
  rw [trim, hstart, trimEnd_append_of_last tail (by simp) (by simpa using hc)]
  rfl

/-- **A torn row is never read as a sample.** Where the last line of a text is a row that breaks
off anywhere before the first character of its token, and all rows before it are written as they
should be, the text is malformed and the torn line is the one that is reported. -/
theorem read_torn {name : String} {labels : List Label} {block gap torn : List Char}
    {text : String} {earlier : List (List Char)} (hn : IsName name)
    (hb : WrittenBlock labels block) (hg : Gap gap) (hne : torn ≠ [])
    (hcut : torn <+: name.toList ++ (block ++ gap))
    (hearlier : ∀ line ∈ earlier, ∃ samples, WrittenRow samples line)
    (hlines : lines text.toList = earlier ++ [torn]) :
    read text = .error ⟨String.ofList (trim torn)⟩ := by
  obtain ⟨c, tail, rfl⟩ := List.exists_cons_of_ne_nil hne
  have hc : c ∈ name.toList.head? := by
    obtain ⟨d, front, hname⟩ := List.exists_cons_of_ne_nil hn.nonempty
    rw [hname, List.cons_append, List.cons_prefix_cons] at hcut
    simp [hname, hcut.1]
  have htrim := trim_cons tail (hn.solid c (List.mem_of_mem_head? hc))
  have hline : isSampleLine (trim (c :: tail)) = true := by
    have : c ≠ '#' := fun he => hn.start (by rw [← he]; exact hc)
    simpa [htrim, isSampleLine] using this
  have hsample : readSample (trim (c :: tail)) = none := by
    have hpart : trim (c :: tail) <+: c :: tail := by
      rw [htrim, List.cons_prefix_cons]
      exact ⟨rfl, List.rdropWhile_prefix isBlank tail⟩
    obtain ⟨rest, hrest⟩ := hpart.trans hcut
    exact readSample_torn hn hb hg hrest
  obtain ⟨samples, hsamples⟩ := readLines_earlier hearlier
  unfold read
  rw [sampleLines, hlines, List.map_append, List.filter_append, List.map_singleton,
    List.filter_cons_of_pos hline, List.filter_nil, readLines_append, hsamples]
  simp [readLines, readLine, hsample, bind, Except.bind]

/-- A row cut within a value, where what stands behind an escaped quote looks like the end of the
block and a token. -/
theorem read_torn_lookalike :
    let torn := "a\x7bk=\"\\\"\x7d 1"
    torn.toList <+: "a".toList ++ ("\x7bk=\"\\\"\x7d 1\"\x7d".toList ++ [' ']) ∧
      lines ("up 1\n" ++ torn).toList = ["up 1".toList] ++ [torn.toList] ∧
      read ("up 1\n" ++ torn) = .error ⟨torn⟩ := by
  intro torn
  have hname (name : String) (h : name = "a" ∨ name = "up") : IsName name := by
    obtain rfl | rfl := h <;>
      exact ⟨by decide, by decide, by simp [isBlank], by decide⟩
  have hspace : Gap [' '] := by simp [Gap, isBlank]
  have hblock : WrittenBlock [("k", "\"\x7d 1")] "\x7bk=\"\\\"\x7d 1\"\x7d".toList :=
    .braces (@WrittenLabels.label [] [] [] _ "k" _ _ separators_nil gap_nil
      ⟨by decide, by decide, by simp [isBlank], by simp [isBlank]⟩ gap_nil
      (@WrittenLabels.close [] separators_nil))
  have hup : WrittenRow [⟨"up", [], .decimal false 1 0⟩] "up 1".toList :=
    .sample (@WrittenSample.intro "up" [] _ [] [] [' '] ['1'] [] gap_nil (hname _ (.inr rfl)) .none
      hspace (by decide) ⟨by simp [isBlank], by decide⟩ ⟨by decide, by simp⟩)
  have hcut : torn.toList <+: "a".toList ++ ("\x7bk=\"\\\"\x7d 1\"\x7d".toList ++ [' ']) := by
    decide
  have hlines : lines ("up 1\n" ++ torn).toList = ["up 1".toList] ++ [torn.toList] := by decide
  have hread := read_torn (hname _ (.inl rfl)) hblock hspace (by decide) hcut
    (by simpa using ⟨_, hup⟩) hlines
  rw [show String.ofList (trim torn.toList) = torn by decide] at hread
  exact ⟨hcut, hlines, hread⟩

end Roomwatch.Exposition
