import Mathlib
import Roomwatch.Proofs.Seen

/-! Lines that are merged.

Two lines are merged when they are written with the same name and labels, and one of them
stays. Which one is up to the order in which a registry is gone through, so what may
stay is a relation (`Merges`), and keeping the last ones is one way (`merges_merged`). It
makes no difference in two cases: nothing is merged at all when all lines are written
differently (`Merges.perm`), and it does not show when lines that are merged say the same
(`Merges.texts_perm`). Clean values are written alike only if they
are the same (`labels_eq_of_written`). -/
namespace Roomwatch.Exposition

/-- What may stay of some lines: of all that are written with the same name and labels one,
whichever. -/
structure Merges (lines kept : List Line) : Prop where
  known : ∀ l ∈ kept, l ∈ lines
  apart : (kept.map Line.written).Nodup
  each : ∀ l ∈ lines, ∃ k ∈ kept, k.written = l.written

section Merges
variable {lines other kept : List Line}

theorem merges_merged (lines : List Line) : Merges lines (merged lines) := by
  induction lines with
  | nil => exact ⟨fun _ hl => hl, List.nodup_nil, fun _ hl => absurd hl List.not_mem_nil⟩
  | cons l rest ih =>
    rw [merged]
    split
    · next hany =>
      obtain ⟨m, hm, hsame⟩ := List.any_eq_true.1 hany
      obtain ⟨k, hk, hkept⟩ := ih.each m hm
      exact ⟨fun k hk => List.mem_cons_of_mem _ (ih.known k hk), ih.apart,
        List.forall_mem_cons.2 ⟨⟨k, hk, hkept.trans (of_decide_eq_true hsame)⟩, ih.each⟩⟩
    · next hany =>
      have hfresh : l.written ∉ (merged rest).map Line.written := by
        intro hmem
        obtain ⟨k, hk, hsame⟩ := List.mem_map.1 hmem
        exact hany (List.any_eq_true.2 ⟨k, ih.known k hk, decide_eq_true hsame⟩)
      refine ⟨List.forall_mem_cons.2 ⟨List.mem_cons_self, fun k hk =>
        List.mem_cons_of_mem _ (ih.known k hk)⟩, List.nodup_cons.2 ⟨hfresh, ih.apart⟩,
        List.forall_mem_cons.2 ⟨⟨l, List.mem_cons_self, rfl⟩, fun m hm => ?_⟩⟩
      obtain ⟨k, hk, hsame⟩ := ih.each m hm
      exact ⟨k, List.mem_cons_of_mem _ hk, hsame⟩

theorem Merges.of_perm (h : Merges lines kept) (hp : lines.Perm other) : Merges other kept :=
  ⟨fun l hl => hp.mem_iff.1 (h.known l hl), h.apart, fun l hl => h.each l (hp.mem_iff.2 hl)⟩

/-- Lines that do not meet are merged apart. -/
theorem Merges.append {more left : List Line} (h : Merges lines kept) (k : Merges more left)
    (hapart : ∀ l ∈ lines, ∀ m ∈ more, l.written ≠ m.written) :
    Merges (lines ++ more) (kept ++ left) := by
  refine ⟨fun l hl => List.mem_append.2 ((List.mem_append.1 hl).imp (h.known l) (k.known l)),
    ?_, fun l hl => ?_⟩
  · rw [List.map_append, List.nodup_append]
    refine ⟨h.apart, k.apart, fun x hx y hy => ?_⟩
    obtain ⟨l, hl, rfl⟩ := List.mem_map.1 hx
    obtain ⟨m, hm, rfl⟩ := List.mem_map.1 hy
    exact hapart l (h.known l hl) m (k.known m hm)
  · rcases List.mem_append.1 hl with hl | hl
    · obtain ⟨m, hm, hsame⟩ := h.each l hl
      exact ⟨m, List.mem_append_left _ hm, hsame⟩
    · obtain ⟨m, hm, hsame⟩ := k.each l hl
      exact ⟨m, List.mem_append_right _ hm, hsame⟩

/-- Lines that are all written differently stay. -/
theorem Merges.perm (h : Merges lines kept) (hl : (lines.map Line.written).Nodup) :
    kept.Perm lines := by
  refine (List.perm_ext_iff_of_nodup h.apart.of_map hl.of_map).2 fun l => ⟨h.known l, fun hmem => ?_⟩
  obtain ⟨k, hk, hsame⟩ := h.each l hmem
  rwa [← List.inj_on_of_nodup_map hl (h.known k hk) hmem hsame]

/-- As long as lines that are merged are the same text, it does not matter which one stays. -/
theorem Merges.texts_perm (h : Merges lines kept) (h' : Merges lines other)
    (hsame : ∀ l ∈ lines, ∀ m ∈ lines, l.written = m.written → l.text = m.text) :
    (kept.map Line.text).Perm (other.map Line.text) := by
  have hmem {a : List Line} (ha : Merges lines a) (written : String × List (List Char)) :
      written ∈ a.map Line.written ↔ written ∈ lines.map Line.written := by
    rw [List.mem_map, List.mem_map]
    constructor
    · rintro ⟨k, hk, rfl⟩
      exact ⟨k, ha.known k hk, rfl⟩
    · rintro ⟨l, hl, rfl⟩
      exact ha.each l hl
  let text (written : String × List (List Char)) : String :=
    ((lines.find? fun l => l.written = written).map Line.text).getD ""
  have htext (l : Line) (hl : l ∈ lines) : text l.written = l.text := by
    cases hfind : lines.find? (fun m => m.written = l.written) with
    | none => exact absurd (decide_eq_true rfl) (List.find?_eq_none.1 hfind l hl)
    | some m =>
      have hwritten : m.written = l.written := by simpa using List.find?_some hfind
      have hm := hsame m (List.mem_of_find?_eq_some hfind) l hl hwritten
      simp only [text, hfind, Option.map_some, Option.getD_some, hm]
  have hmap {a : List Line} (ha : Merges lines a) :
      a.map Line.text = (a.map Line.written).map text := by
    rw [List.map_map]
    exact List.map_congr_left fun l hl => (htext l (ha.known l hl)).symm
  have hperm : (kept.map Line.written).Perm (other.map Line.written) :=
    (List.perm_ext_iff_of_nodup h.apart h'.apart).2 fun written =>
      (hmem h written).trans (hmem h' written).symm
  rw [hmap h, hmap h']
  exact hperm.map text

end Merges

/-! ### What is written alike -/

theorem seenLabel_eq_of_labelText {a b : Label} (ha : '=' ∉ a.1.toList) (hb : '=' ∉ b.1.toList)
    (h : labelText a = labelText b) : seenLabel a = seenLabel b := by
  rw [labelText_eq_seen, labelText_eq_seen] at h
  simp only [List.append_assoc, List.cons_append, List.nil_append] at h
  -- The key ends at the first equals sign, as a reader finds it.
  have hread := readKey_written ((seenLabel a).2.toList.flatMap escapeChar ++ ['"']) ha
  rw [h, readKey_written _ hb, Option.some.injEq, Prod.mk.injEq] at hread
  have hvalue := eq_of_flatMap_escapeChar (List.append_cancel_right hread.2)
  exact Prod.ext (String.toList_inj.1 hread.1.symm) (String.toList_inj.1 hvalue.symm)

/-- Clean labels that are written alike are the same. -/
theorem labels_eq_of_written {a b : List Label}
    (ha : ∀ label ∈ a, '=' ∉ label.1.toList ∧ Clean label.2.toList)
    (hb : ∀ label ∈ b, '=' ∉ label.1.toList ∧ Clean label.2.toList)
    (h : a.map labelText = b.map labelText) : a = b := by
  induction a generalizing b with
  | nil => exact (List.map_eq_nil_iff.1 h.symm).symm
  | cons first rest ih =>
    obtain ⟨second, others, rfl, hfirst, hrest⟩ := List.map_eq_cons_iff.1 h.symm
    rw [List.forall_mem_cons] at ha hb
    have hseen := seenLabel_eq_of_labelText hb.1.1 ha.1.1 hfirst
    rw [seenLabel_of_clean ha.1.2, seenLabel_of_clean hb.1.2] at hseen
    rw [hseen, ih ha.2 hb.2 hrest.symm]

/-- One value arrives escaped and the other one does not, and their lines are merged. -/
example : merged [⟨"a", [("k", "\"")], ['1']⟩, ⟨"a", [("k", "\\\"")], ['2']⟩] =
    [⟨"a", [("k", "\\\"")], ['2']⟩] := by decide

end Roomwatch.Exposition
