import Mathlib
import Roomwatch.Proofs.Lifetimes

/-! The rows of a reporter's page.

Three kinds of rows make up a page: comments for each metric that has a series
(`commentRows`), a line for every counter and every gauge (`Registry.lines`), and for the
lifetimes a row for each bound, one for all of them, their sum and their number
(`lifetimeRows`). These are the rows of every text that lists the page of a reporter, but
that of all lines that are written alike one stays (`rows_shown`). All lines stay when none
are written alike, and so it is while the texts that a reporter is told are clean
(`writtenApart_booked`). -/
namespace Roomwatch

open Exposition
open Number (Measure Printed)

/-- What is said of a metric before its samples. -/
def Metric.comments (m : Metric) (s : Settings) : List String :=
  ["# HELP " ++ m.name s ++ " " ++ m.description.help, "# TYPE " ++ m.name s ++ " " ++ m.shape.label]

section Rows
variable {α : Type} [Measure α] (s : Settings) (r : Registry α) (lifetimes : List α)

/-- Two comments for each metric that has a series. -/
def commentRows : List String :=
  (Metric.all.filter fun m => 0 < r.seriesCount (m.name s)).flatMap fun m => m.comments s

/-- A row for each bucket of lifetimes, one for their sum, however it was put together, and one for
their number. -/
def lifetimeRows (sum : α) : List String :=
  ((bucketRows lifetimes).map fun row =>
      Line.text ⟨Metric.lifetimes.name s ++ "_bucket", s.identity ++ [("le", row.1)],
        natToken row.2⟩) ++
    [Line.text ⟨Metric.lifetimes.name s ++ "_sum", s.identity, Measure.text sum⟩,
      Line.text ⟨Metric.lifetimes.name s ++ "_count", s.identity, natToken lifetimes.length⟩]

end Rows

/-! ### Comments -/

theorem Metric.mem_all (m : Metric) : m ∈ Metric.all := by
  cases m <;> decide

theorem Shape.exists_iff {P : Shape → Prop} :
    (∃ shape, P shape) ↔ (P .counter ∨ P .gauge) ∨ P .histogram := by
  refine ⟨?_, fun h => h.elim (·.elim (⟨_, ·⟩) (⟨_, ·⟩)) (⟨_, ·⟩)⟩
  rintro ⟨shape, h⟩
  cases shape with
  | counter => exact .inl (.inl h)
  | gauge => exact .inl (.inr h)
  | histogram => exact .inr h

theorem seriesCount_pos {α : Type} (r : Registry α) (name : String) :
    0 < r.seriesCount name ↔ ∃ shape, ∃ id ∈ r.keys shape, id.name = name := by
  have hcount (keys : List SeriesId) :
      0 < keys.countP (fun id => id.name = name) ↔ ∃ id ∈ keys, id.name = name := by
    simp [List.countP_pos_iff]
  rw [Registry.seriesCount, Nat.add_pos_iff_pos_or_pos, Nat.add_pos_iff_pos_or_pos, hcount, hcount,
    hcount, Shape.exists_iff]
  rfl

namespace Desk
variable {α : Type}

/-- Every metric is described under its own name and shape. -/
theorem get?_described (s : Settings) (m : Metric) :
    (described s ({} : Recorder α)).recorder.descriptions.get? (m.shape, m.name s) =
      some m.description := by
  have hfold (metrics : List Metric) (r : Recorder α) :
      (metrics.foldl (fun r n => r.describe n.shape (n.name s) n.description)
          r).descriptions.get? (m.shape, m.name s) =
        if m ∈ metrics then some m.description
        else r.descriptions.get? (m.shape, m.name s) := by
    induction metrics generalizing r with
    | nil => rfl
    | cons n rest ih =>
      rw [List.foldl_cons, ih, Recorder.describe, Shelf.get?_insert]
      by_cases hrest : m ∈ rest
      · simp [hrest]
      · by_cases hmn : m = n
        · simp [hmn]
        · have hname : m.name s ≠ n.name s := fun he => hmn ((Metric.name_inj s m n).1 he)
          simp [hrest, hmn, hname]
  have hall := hfold Metric.all {}
  rw [if_pos m.mem_all] at hall
  exact hall

variable [Measure α] {s : Settings} (h : History) (d : Distribution α)

theorem keys_lifetimes :
    Shelf.keys [(Outlet.lifetimes.id s, d)] = (booked α s h).keys .histogram := by
  rw [Outlet.id_eq_series]
  exact (keys_histogram_booked s h).symm

/-- The families of a reporter's page go by the names of its metrics, with their comments. -/
theorem header_shelf {β : Type} {shape : Shape} {shelf : Shelf SeriesId β}
    {lines : SeriesId → β → List Line} (hkeys : shelf.keys = (booked α s h).keys shape) {f : Family}
    (hf : f ∈ shelfFamilies (described s ({} : Recorder α)).recorder.descriptions shape shelf
      lines) : ∃ m : Metric, (m.name s, m.comments s) = (f.name, f.header) := by
  obtain ⟨name, hname, rfl⟩ := List.mem_map.1 hf
  rw [mem_familyNames, hkeys] at hname
  obtain ⟨id, hid, rfl⟩ := hname
  obtain ⟨o, -, rfl, rfl⟩ := (booked_iff s h shape id).1 ((mem_keys_booked s h shape id).1 hid)
  refine ⟨o.metric, Prod.ext rfl ?_⟩
  have hget := get?_described (α := α) s o.metric
  rw [Family.header, show Shelf.get? _ (o.shape, (o.id s).name) = _ from hget]
  rfl

theorem families_shown : (shownBy s h d).page.families =
    shelfFamilies (described s ({} : Recorder α)).recorder.descriptions .counter
        (booked α s h).counters (fun id total => plainLines (natToken total.toNat) id) ++
      shelfFamilies (described s ({} : Recorder α)).recorder.descriptions .gauge
        (booked α s h).gauges (fun id level => plainLines (Measure.text level) id) ++
      shelfFamilies (described s ({} : Recorder α)).recorder.descriptions .histogram
        [(Outlet.lifetimes.id s, d)] histogramLines := by
  dsimp only [Recorder.page, shownBy]

theorem header_shown {f : Family} (hf : f ∈ (shownBy s h d).page.families) :
    ∃ m : Metric, (m.name s, m.comments s) = (f.name, f.header) := by
  rw [families_shown] at hf
  rcases List.mem_append.1 hf with hf | hf
  · rcases List.mem_append.1 hf with hf | hf
    · exact header_shelf h (show _ = (booked α s h).keys .counter from rfl) hf
    · exact header_shelf h (show _ = (booked α s h).keys .gauge from rfl) hf
  · exact header_shelf h (keys_lifetimes h d) hf

theorem names_shown : (shownBy s h d).page.families.map Family.name =
    familyNames ((booked α s h).keys .counter) ++ familyNames ((booked α s h).keys .gauge) ++
      familyNames ((booked α s h).keys .histogram) := by
  have hshelf {β : Type} (shape : Shape) (shelf : Shelf SeriesId β)
      (lines : SeriesId → β → List Line) :
      (shelfFamilies (described s ({} : Recorder α)).recorder.descriptions shape shelf
        lines).map Family.name = familyNames shelf.keys := by
    rw [shelfFamilies, List.map_map]
    exact List.map_id' _
  rw [← keys_lifetimes h d, families_shown, List.map_append, List.map_append, hshelf, hshelf,
    hshelf]
  rfl

theorem mem_names_shown (name : String) :
    name ∈ (shownBy s h d).page.families.map Family.name ↔
      0 < (booked α s h).seriesCount name := by
  rw [names_shown, seriesCount_pos, List.mem_append, List.mem_append, mem_familyNames,
    mem_familyNames, mem_familyNames, Shape.exists_iff]

/-- No two families of a page have the same name, as a name tells the shape. -/
theorem nodup_names_shown : ((shownBy s h d).page.families.map Family.name).Nodup := by
  have hapart {a b : Shape} (hab : a ≠ b) : ∀ x ∈ familyNames ((booked α s h).keys a),
      ∀ y ∈ familyNames ((booked α s h).keys b), x ≠ y := by
    intro x hx y hy hxy
    obtain ⟨i, hi, rfl⟩ := mem_familyNames.1 hx
    obtain ⟨j, hj, rfl⟩ := mem_familyNames.1 hy
    obtain ⟨o, -, rfl, rfl⟩ := (booked_iff s h a i).1 ((mem_keys_booked s h a i).1 hi)
    obtain ⟨p, -, rfl, rfl⟩ := (booked_iff s h b j).1 ((mem_keys_booked s h b j).1 hj)
    exact hab (congrArg Metric.shape ((Metric.name_inj s o.metric p.metric).1 hxy))
  rw [names_shown, List.nodup_append, List.nodup_append]
  refine ⟨⟨nodup_eraseDups _, nodup_eraseDups _, hapart (by decide)⟩, nodup_eraseDups _, ?_⟩
  intro x hx
  rcases List.mem_append.1 hx with hx | hx
  · exact hapart (by decide) x hx
  · exact hapart (by decide) x hx

/-- The comments of a page are those of all metrics that have a series. -/
theorem comments_shown : ((shownBy s h d).page.families.flatMap Family.header).Perm
    (commentRows s (booked α s h)) := by
  obtain ⟨metrics, hmetrics⟩ : ∃ metrics : List Metric,
      metrics.map (fun m => (m.name s, m.comments s)) =
        (shownBy s h d).page.families.map fun f => (f.name, f.header) := by
    rw [← Set.mem_range, Set.range_list_map]
    intro x hx
    obtain ⟨f, hf, rfl⟩ := List.mem_map.1 hx
    exact header_shown h d hf
  have hnames : metrics.map (fun m => m.name s) =
      (shownBy s h d).page.families.map Family.name := by
    simpa [Function.comp_def] using congrArg (List.map Prod.fst) hmetrics
  have hcomments : metrics.map (fun m => m.comments s) =
      (shownBy s h d).page.families.map Family.header := by
    simpa [Function.comp_def] using congrArg (List.map Prod.snd) hmetrics
  have hnodup : metrics.Nodup := .of_map (fun m => m.name s) (hnames ▸ nodup_names_shown h d)
  have hmem (m : Metric) : m ∈ metrics ↔ 0 < (booked α s h).seriesCount (m.name s) := by
    rw [← mem_names_shown h d, ← hnames, List.mem_map]
    refine ⟨fun hm => ⟨m, hm, rfl⟩, ?_⟩
    rintro ⟨n, hn, hsame⟩
    rwa [← (Metric.name_inj s n m).1 hsame]
  have hperm : metrics.Perm
      (Metric.all.filter fun m => 0 < (booked α s h).seriesCount (m.name s)) := by
    refine (List.perm_ext_iff_of_nodup hnodup (List.Nodup.filter _ (by decide))).2 fun m => ?_
    rw [hmem, List.mem_filter, decide_eq_true_eq, and_iff_right m.mem_all]
  rw [commentRows, List.flatMap_def, ← hcomments, ← List.flatMap_def]
  exact hperm.flatMap_right _

/-! ### Pages -/

/-- No lines are merged of series that are written apart. -/
theorem apart_shown (ha : (booked α s h).WrittenApart) : (shown α s h d).Apart :=
  Recorder.apart_page (r := shownBy s h d) (nodup_keys_booked s h) ha

theorem named_shown : (shownBy s h d).page.Named := by
  have hplain {β : Type} {descriptions : Shelf (Shape × String) Description} {shape : Shape}
      {shelf : Shelf SeriesId β} {token : β → List Char} {f : Family}
      (hf : f ∈ shelfFamilies descriptions shape shelf fun id v => plainLines (token v) id) :
      ∀ l ∈ f.lines, l.name = f.name := by
    obtain ⟨name, -, rfl⟩ := List.mem_map.1 hf
    intro l hl
    obtain ⟨entry, hentry, hl⟩ := List.mem_flatMap.1 hl
    rw [List.mem_singleton.1 hl]
    exact of_decide_eq_true (List.mem_filter.1 hentry).2
  exact ⟨(nodup_names_shown h d).sublist (List.filter_sublist.map _), fun f hf hshape =>
    (Recorder.mem_scalar_families hf hshape).elim hplain hplain⟩

/-- **The rows of a reporter's page**, whichever way it is listed: its comments, those of its
lifetimes, and the lines of its counters and gauges, one of all that are written alike. -/
theorem rows_shown (hp : Printed α) (hs : s.check = .ok ()) {lifetimes : List α}
    (hd : d.Covers lifetimes) {text : String} (ht : (shown α s h d).Lists text) :
    ∃ kept, Merges (booked α s h).lines kept ∧
      ((booked α s h).WrittenApart → kept.Perm (booked α s h).lines) ∧
      (rows text).Perm (commentRows s (booked α s h) ++ kept.map Line.text ++
        lifetimeRows s lifetimes d.sum) := by
  have hreadable : (shownBy s h d).Readable := readable_shownBy h hs
  obtain ⟨scalars, hleaves, hrows⟩ := rows_of_lists (Recorder.readable_page hp hreadable) ht
  have hlifetimes : lifetimeRows s lifetimes d.sum =
      (shownBy s h d).distributionLines.map Line.text := by
    have hlabels : (Outlet.lifetimes.id s).labels = s.identity := List.append_nil _
    have hhistogram : (shownBy s h d).distributionLines =
        histogramLines (Outlet.lifetimes.id s) d := List.flatMap_singleton ..
    rw [hhistogram, histogramLines_eq _ hd, hlabels, List.map_append, List.map_map]
    rfl
  have hpage := Recorder.scalarLines_page (shownBy s h d)
  refine ⟨scalars, (hleaves.merges (named_shown h d)).of_perm hpage, fun ha =>
    (hleaves.all (apart_shown h d ha)).trans hpage, hrows.trans ?_⟩
  rw [hlifetimes, Page.rowsWith, List.map_append, ← List.append_assoc]
  exact ((comments_shown h d).append_right _).append
    ((Recorder.histogramLines_page (shownBy s h d)).map _)

/-- Series are written apart as long as the texts that a reporter is told are clean, whatever the
name of its node and of its environment. -/
theorem writtenApart_booked
    (hc : ∀ timed ∈ h, ∀ text ∈ timed.2.text?, Clean text.toList) :
    (booked α s h).WrittenApart := by
  have hclean {shape : Shape} {id : SeriesId} (hid : id ∈ (booked α s h).keys shape) :
      ∃ o : Outlet, o.id s = id ∧
        ∀ label ∈ o.labels, '=' ∉ label.1.toList ∧ Clean label.2.toList := by
    obtain ⟨o, ho, -, rfl⟩ := (booked_iff s h shape id).1 ((mem_keys_booked s h shape id).1 hid)
    exact ⟨o, rfl, fun label hlabel => ⟨(isKey_id s o label (List.mem_append_right _ hlabel)).equals,
      clean_labels hc ho label hlabel⟩⟩
  intro shape id hid j hj hname hwritten
  obtain ⟨o, rfl, ho⟩ := hclean hid
  obtain ⟨p, rfl, hp⟩ := hclean hj
  have hmetric : o.metric = p.metric := (Metric.name_inj s o.metric p.metric).1 hname
  rw [Outlet.id, Outlet.id, List.map_append, List.map_append] at hwritten
  have hlabels := labels_eq_of_written ho hp (List.append_cancel_left hwritten)
  rw [Outlet.eq_of_metric_of_labels hmetric hlabels]

end Desk
end Roomwatch
