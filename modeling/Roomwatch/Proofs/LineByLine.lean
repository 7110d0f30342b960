import Mathlib
import Roomwatch.Proofs.Buckets
import Roomwatch.Proofs.Grammar

/-! Reading line by line.

A line feed ends a line whatever stands around it, and trimming takes no notice of how the
line ended, so a text made of two texts has the sample lines of the first one and then those
of the second (`sampleLines_append_newline`). All else follows from that equation and from
what reading a list of lines comes to: the samples of all lines (`readLines_eq_ok_iff`), or
the first line that holds none (`readLines_eq_error_iff`). So texts may be put together and
their lines rearranged, and a question that one sample answers is answered as before
(`read_by_lines`). -/
namespace Roomwatch.Exposition

open Text (trim lines)

/-! ### The sample lines of a text -/

/-- A line feed starts a new list of sample lines. -/
theorem sampleLines_append_newline (a b : List Char) :
    sampleLines (a ++ '\n' :: b) = sampleLines a ++ sampleLines b := by
  have hcut (line rest : List Char) (h : '\n' ∉ line) :
      sampleLines (line ++ '\n' :: rest) = sampleLines line ++ sampleLines rest := by
    rw [sampleLines_line h]
    exact sampleLines_row rest h .feed
  by_cases h : '\n' ∈ a
  · -- What follows the first line feed of `a` is shorter than `a`.
    obtain ⟨line, rest, ha, hline⟩ := List.eq_append_cons_of_mem h
    have hlt : rest.length < a.length := by simp [ha]; omega
    have ih := sampleLines_append_newline rest b
    rw [ha, List.append_assoc, List.cons_append, hcut line _ hline, hcut line _ hline, ih,
      List.append_assoc]
  · exact hcut a b h
termination_by a.length

theorem sampleLines_intercalate (rows : List String) :
    sampleLines ("\n".intercalate rows).toList =
      rows.flatMap fun row => sampleLines row.toList := by
  rw [String.toList_intercalate]
  induction rows with
  | nil => rfl
  | cons row rest ih =>
    cases rest with
    | nil => simp [List.intercalate]
    | cons next rest =>
      rw [List.map_cons, List.map_cons, List.intercalate_cons_cons, List.append_assoc]
      rw [List.map_cons] at ih
      exact (sampleLines_append_newline ..).trans (congrArg _ ih)

/-! ### What a list of lines holds -/

section Rows
variable {row : List Char} {rows moved : List (List Char)} {sample : Sample}
  {samples : List Sample} {m : Malformed}

theorem readLines_of_none (h : readSample row = none) :
    readLines (row :: rows) = .error ⟨String.ofList row⟩ := by
  rw [readLines, readLine, h]
  rfl

theorem readLines_of_some (h : readSample row = some sample) :
    readLines (row :: rows) = (readLines rows).map (sample :: ·) := by
  rw [readLines, readLine, h]
  cases readLines rows <;> rfl

/-- Lines are read when each of them holds a sample. -/
theorem readLines_eq_ok_iff : readLines rows = .ok samples ↔
    (∀ row ∈ rows, (readSample row).isSome) ∧ rows.filterMap readSample = samples := by
  induction rows generalizing samples with
  | nil => simp [readLines]
  | cons row rest ih =>
    cases hrow : readSample row with
    | none => simp [readLines_of_none hrow, hrow]
    | some sample =>
      rw [readLines_of_some hrow, List.filterMap_cons_some hrow, List.forall_mem_cons]
      constructor
      · intro h
        cases hrest : readLines rest with
        | error m =>
          rw [hrest] at h
          contradiction
        | ok found =>
          obtain ⟨hall, hfound⟩ := ih.1 hrest
          rw [hrest] at h
          exact ⟨⟨by rw [hrow]; rfl, hall⟩, hfound ▸ Except.ok.inj h⟩
      · rintro ⟨⟨-, hall⟩, rfl⟩
        rw [ih.2 ⟨hall, rfl⟩]
        rfl

/-- The first line that holds no sample is the one that is reported. -/
theorem readLines_eq_error_iff : readLines rows = .error m ↔
    ∃ row, rows.find? (fun row => (readSample row).isNone) = some row ∧
      m = ⟨String.ofList row⟩ := by
  induction rows with
  | nil => simp [readLines]
  | cons row rest ih =>
    cases hrow : readSample row with
    | none =>
      rw [readLines_of_none hrow, List.find?_cons_of_pos (by rw [hrow]; rfl)]
      simp [eq_comm]
    | some sample =>
      rw [readLines_of_some hrow, List.find?_cons_of_neg (by simp [hrow]), ← ih]
      cases readLines rest <;> simp [Except.map]

/-- Lines in another order hold the same samples in another order. -/
theorem readLines_perm (h : moved.Perm rows) (hread : readLines rows = .ok samples) :
    ∃ found, readLines moved = .ok found ∧ found.Perm samples := by
  obtain ⟨hall, rfl⟩ := readLines_eq_ok_iff.1 hread
  refine ⟨moved.filterMap readSample, readLines_eq_ok_iff.2 ⟨fun row hrow => ?_, rfl⟩,
    h.filterMap readSample⟩
  exact hall row (h.mem_iff.1 hrow)

end Rows

/-! ### Two texts -/

/-- How two texts are read when a line feed joins them. -/
structure Joins (a b : String) : Prop where
  reads : (∃ samples, read (a ++ "\n" ++ b) = .ok samples) ↔
    (∃ first, read a = .ok first) ∧ ∃ second, read b = .ok second
  samples : ∀ first second, read a = .ok first → read b = .ok second →
    read (a ++ "\n" ++ b) = .ok (first ++ second)
  firstFails : ∀ m, read a = .error m → read (a ++ "\n" ++ b) = .error m
  secondFails : ∀ first m, read a = .ok first → read b = .error m →
    read (a ++ "\n" ++ b) = .error m

theorem read_join (a b : String) : read (a ++ "\n" ++ b) = do
    let first ← read a
    let second ← read b
    return first ++ second := by
  have htext : (a ++ "\n" ++ b).toList = a.toList ++ '\n' :: b.toList := by simp
  rw [read, htext, sampleLines_append_newline, readLines_append]
  rfl

theorem joins (a b : String) : Joins a b := by
  have hjoin := read_join a b
  constructor
  case reads =>
    rw [hjoin]
    cases read a <;> cases read b <;> simp [bind, Except.bind, pure, Except.pure]
  case samples =>
    intro first second hfirst hsecond
    rw [hjoin, hfirst, hsecond]
    rfl
  case firstFails =>
    intro m hm
    rw [hjoin, hm]
    rfl
  case secondFails =>
    intro first m hfirst hm
    rw [hjoin, hfirst, hm]
    rfl

/-! ### The malformed line -/

/-- A line that is neither blank nor a comment, and that cannot be taken apart into a sample. -/
def Unreadable (line : List Char) : Prop :=
  isSampleLine (trim line) = true ∧
    ¬ ∃ (x : Split) (s : Sample), x.Sound ∧ x.text = trim line ∧ x.Says s

/-- A text fails at its first line that cannot be read, which is reported trimmed. -/
def FailsAt (text : String) (m : Malformed) : Prop :=
  ∃ before line after, lines text.toList = before ++ line :: after ∧
    (∀ earlier ∈ before, ¬ Unreadable earlier) ∧ Unreadable line ∧
    m = ⟨String.ofList (trim line)⟩

/-- Whether reading stops at a line. -/
def stopsAt (line : List Char) : Bool :=
  isSampleLine (trim line) && (readSample (trim line)).isNone

theorem stopsAt_eq_true_iff {line : List Char} : stopsAt line = true ↔ Unreadable line := by
  rw [stopsAt, Bool.and_eq_true, Option.isNone_iff_eq_none]
  refine and_congr_right fun _ => ⟨?_, fun h => ?_⟩
  · rintro hnone ⟨x, s, hx, htext, hs⟩
    rw [← htext, readSample_split hx hs] at hnone
    contradiction
  · cases hread : readSample (trim line) with
    | none => rfl
    | some s =>
      obtain ⟨x, hx⟩ := split_of_readSample hread
      exact absurd ⟨x, s, hx⟩ h

/-- The first line that cannot be read is reported. -/
theorem read_eq_error_iff (text : String) (m : Malformed) :
    read text = .error m ↔ FailsAt text m := by
  have hfind : (sampleLines text.toList).find? (fun row => (readSample row).isNone) =
      ((lines text.toList).find? stopsAt).map trim := by
    rw [sampleLines, List.find?_filter, List.find?_map]
    simp only [Bool.decide_and, Bool.decide_eq_true]
    rfl
  have hpasses (line : List Char) : (!stopsAt line) = true ↔ ¬ Unreadable line := by
    rw [← stopsAt_eq_true_iff, Bool.not_eq_true', Bool.not_eq_true]
  rw [read, readLines_eq_error_iff, hfind]
  constructor
  · rintro ⟨row, hrow, rfl⟩
    obtain ⟨line, hline, rfl⟩ := Option.map_eq_some_iff.1 hrow
    obtain ⟨hstop, before, after, htext, hbefore⟩ := List.find?_eq_some_iff_append.1 hline
    exact ⟨before, line, after, htext, fun earlier he => (hpasses earlier).1 (hbefore earlier he),
      stopsAt_eq_true_iff.1 hstop, rfl⟩
  · rintro ⟨before, line, after, htext, hbefore, hstop, rfl⟩
    have hline : (lines text.toList).find? stopsAt = some line :=
      List.find?_eq_some_iff_append.2 ⟨stopsAt_eq_true_iff.2 hstop, before, after, htext,
        fun earlier he => (hpasses earlier).2 (hbefore earlier he)⟩
    exact ⟨trim line, by rw [hline]; rfl, rfl⟩

/-! ### Lines in another order -/

/-- Two texts with the same lines in another order. Either what stands between line feeds has
moved, and a carriage return there has moved with it, or the lines have, whatever ends them. -/
inductive Rearranged : String → String → Prop
  | rows {rows moved : List String} : moved.Perm rows →
    Rearranged ("\n".intercalate rows) ("\n".intercalate moved)
  | lines {text other : String} : (lines other.toList).Perm (lines text.toList) →
    Rearranged text other

theorem Rearranged.perm {text other : String} (h : Rearranged text other) :
    (sampleLines other.toList).Perm (sampleLines text.toList) := by
  cases h with
  | rows hmoved =>
    rw [sampleLines_intercalate, sampleLines_intercalate]
    exact hmoved.flatMap_right _
  | lines hmoved => exact (hmoved.map trim).filter _

section Questions
variable {samples found : List Sample}

/-- Whether a sample is the bucket with an upper bound. -/
def Sample.isBucket (bound : Float) (s : Sample) : Bool := (s.label? "le").any (endsAt bound)

/-- Where at most one sample fits, the order of the samples does not matter. -/
theorem filter_eq_of_perm (h : found.Perm samples) {p : Sample → Bool}
    (hone : (samples.filter p).length ≤ 1) : found.filter p = samples.filter p := by
  have hperm := h.filter p
  match hfits : samples.filter p with
  | [] =>
    rw [hfits] at hperm
    exact hperm.eq_nil
  | [s] =>
    rw [hfits] at hperm
    exact List.perm_singleton.1 hperm
  | _ :: _ :: _ => simp [hfits] at hone

theorem bucket?_eq (samples : List Sample) (name : String) (bound : Float) (filter : List Label) :
    Sample.bucket? samples name bound filter =
      ((Sample.matching samples (name ++ "_bucket") filter).filter
        (Sample.isBucket bound)).head?.map Sample.value := by
  have hbucket : Sample.isBucket bound = fun s =>
      ((s.label? "le").bind fun text => Number.Numeral.read? text.toList).any
        fun n => n.toFloat == bound := by
    funext s
    rw [Sample.isBucket]
    cases s.label? "le" <;> rfl
  rw [Sample.bucket?, List.head?_filter, hbucket]

/-- Samples in another order, which answer alike whatever at most one of them matches. -/
structure Reordered (samples found : List Sample) : Prop where
  perm : found.Perm samples
  value : ∀ name filter, (Sample.matching samples name filter).length ≤ 1 →
    Sample.value? found name filter = Sample.value? samples name filter
  bucket : ∀ name bound filter,
    ((Sample.matching samples (name ++ "_bucket") filter).filter (Sample.isBucket bound)).length ≤ 1 →
    Sample.bucket? found name bound filter = Sample.bucket? samples name bound filter
  count : ∀ name filter, (Sample.matching samples (name ++ "_count") filter).length ≤ 1 →
    Sample.count? found name filter = Sample.count? samples name filter

theorem reordered (h : found.Perm samples) : Reordered samples found := by
  have hvalue (name : String) (filter : List Label)
      (hone : (Sample.matching samples name filter).length ≤ 1) :
      Sample.value? found name filter = Sample.value? samples name filter := by
    rw [Sample.value?, Sample.matching, filter_eq_of_perm h hone]
    rfl
  constructor
  case perm => exact h
  case value => exact hvalue
  case bucket =>
    intro name bound filter hone
    rw [Sample.matching, List.filter_filter] at hone
    rw [bucket?_eq, bucket?_eq, Sample.matching, Sample.matching, List.filter_filter,
      List.filter_filter, filter_eq_of_perm h hone]
  case count => exact fun name filter => hvalue (name ++ "_count") filter

end Questions

/-- **A text is read line by line.** Two texts joined by a line feed are read as both, one after
the other; the first malformed line is reported; and lines in another order hold the same
samples in another order. -/
theorem read_by_lines :
    (∀ a b : String, Joins a b) ∧
      (∀ (text : String) (m : Malformed), read text = .error m ↔ FailsAt text m) ∧
      ∀ (text other : String) (samples : List Sample), Rearranged text other →
        read text = .ok samples → ∃ found, read other = .ok found ∧ Reordered samples found := by
  refine ⟨joins, read_eq_error_iff, fun text other samples hmoved hread => ?_⟩
  obtain ⟨found, hfound, hperm⟩ := readLines_perm hmoved.perm hread
  exact ⟨found, hfound, reordered hperm⟩

/-- Three rows moved back to front: one that ends in a carriage return, a comment, and one with
blank space of other kinds. -/
theorem read_by_lines_reversed :
    let rows := ["up 1\r", "# note", "\u2003z\t2"]
    let samples : List Sample :=
      [⟨"up", [], .decimal false 1 0⟩, ⟨"z", [], .decimal false 2 0⟩]
    Rearranged ("\n".intercalate rows) ("\n".intercalate rows.reverse) ∧
      read ("\n".intercalate rows) = .ok samples ∧
      ∃ found, read ("\n".intercalate rows.reverse) = .ok found ∧ Reordered samples found := by
  intro rows samples
  have hmoved : Rearranged ("\n".intercalate rows) ("\n".intercalate rows.reverse) :=
    .rows (List.reverse_perm rows)
  have hread : read ("\n".intercalate rows) = .ok samples := by
    decide
  exact ⟨hmoved, hread, read_by_lines.2.2 _ _ samples hmoved hread⟩

end Roomwatch.Exposition
