import Mathlib
import Roomwatch.Proofs.Pages
import Roomwatch.Proofs.WholeText

/-! What a recorder shows.

A page sorts the series of a recorder into families, one for each metric name, and no
series is lost or shown twice by that (`scalarLines_page`, `histogramLines_page`). A recorder
is *readable* when its names and keys are, and then its page is read as what is seen of its
lines, whatever the values of its labels are (`read_lines`). It is *presentable* when these
are clean, its series are distinct, its gauges hold whole numbers and its distributions have
all their buckets; then no lines are merged (`apart_page`), and its page is read as one sample
for each counter and each gauge, with its value, and thirteen for each histogram, however it
is listed (`shows_listing`). -/
namespace Roomwatch

open Exposition
open Number (Measure Numeral IsWhole)
open Text (isBlank)

/-! ### Sorting into families -/

/-- Grouping a list by a key keeps its elements, when each key is named once. -/
theorem flatMap_filter_perm {β γ : Type} [DecidableEq γ] (f : β → γ) (names : List γ) (l : List β)
    (hn : names.Nodup) (h : ∀ x ∈ l, f x ∈ names) :
    (names.flatMap fun name => l.filter fun x => f x = name).Perm l := by
  induction names generalizing l with
  | nil =>
    have : l = [] := List.eq_nil_iff_forall_not_mem.2 fun x hx => absurd (h x hx) List.not_mem_nil
    rw [this]
    exact .refl _
  | cons name rest ih =>
    obtain ⟨hfresh, hrest⟩ := List.nodup_cons.1 hn
    have hothers := ih (l.filter fun x => ! decide (f x = name)) hrest fun x hx => by
      obtain ⟨hl, hne⟩ := List.mem_filter.1 hx
      exact (List.mem_cons.1 (h x hl)).resolve_left (by simpa using hne)
    have hsame : (rest.flatMap fun other => l.filter fun x => f x = other) =
        rest.flatMap fun other =>
          (l.filter fun x => ! decide (f x = name)).filter fun x => f x = other := by
      refine List.flatMap_congr fun other hother => ?_
      rw [List.filter_filter]
      refine List.filter_congr fun x _ => ?_
      by_cases hx : f x = other
      · have : f x ≠ name := fun he => hfresh (he ▸ hx ▸ hother)
        simp [hx, hx ▸ this]
      · simp [hx]
    rw [List.flatMap_cons, hsame]
    exact (hothers.append_left _).trans (List.filter_append_perm _ l)

theorem nodup_eraseDups {β : Type} [DecidableEq β] (l : List β) : l.eraseDups.Nodup := by
  induction h : l.length using Nat.strong_induction_on generalizing l with
  | _ n ih =>
    cases l with
    | nil => simp
    | cons a rest =>
      rw [List.eraseDups_cons, List.nodup_cons]
      refine ⟨by simp [List.mem_eraseDups], ih _ ?_ _ rfl⟩
      subst h
      have := List.length_filter_le (fun b => !b == a) rest
      simp only [List.length_cons]
      omega

theorem mem_familyNames {ids : List SeriesId} {name : String} :
    name ∈ familyNames ids ↔ ∃ id ∈ ids, id.name = name := by
  rw [familyNames, List.mem_eraseDups, List.mem_map]

section Families
variable {β : Type} (descriptions : Shelf (Shape × String) Description) (shape : Shape)
  (shelf : Shelf SeriesId β) (lines : SeriesId → β → List Line)

theorem shelfFamilies_perm :
    ((shelfFamilies descriptions shape shelf lines).flatMap Family.lines).Perm
      (shelf.flatMap fun entry => lines entry.1 entry.2) := by
  have hnames : ∀ entry ∈ shelf, entry.1.name ∈ familyNames shelf.keys := fun _ hentry =>
    mem_familyNames.2 ⟨_, List.mem_map_of_mem hentry, rfl⟩
  have hgroups := flatMap_filter_perm (fun entry => entry.1.name) (familyNames shelf.keys) shelf
    (nodup_eraseDups _) hnames
  have := hgroups.flatMap_right fun entry => lines entry.1 entry.2
  rw [List.flatMap_assoc] at this
  rw [shelfFamilies, List.flatMap_map]
  exact this

/-- A family is named after a series of its shelf. -/
theorem mem_shelfFamilies {f : Family} (hf : f ∈ shelfFamilies descriptions shape shelf lines) :
    (∃ id ∈ shelf.keys, id.name = f.name) ∧ ∀ d ∈ f.description, ∃ key, (key, d) ∈ descriptions := by
  obtain ⟨name, hname, rfl⟩ := List.mem_map.1 hf
  exact ⟨mem_familyNames.1 hname, fun d hget => ⟨_, Shelf.mem_of_get? hget⟩⟩

theorem shape_of_mem_shelfFamilies {f : Family}
    (hf : f ∈ shelfFamilies descriptions shape shelf lines) : f.shape = shape := by
  obtain ⟨name, -, rfl⟩ := List.mem_map.1 hf
  rfl

end Families

/-! ### Series on a page -/

/-- A series that a page can show, whatever its values are: its name and keys are what a reader
takes for a name and for keys. -/
structure SeriesId.Readable (id : SeriesId) : Prop where
  name : IsName id.name
  keys : ∀ label ∈ id.labels, IsKey label.1

/-- A series that a page can show: its name and keys are what a reader takes for a name and
for keys, and its values are clean. -/
structure SeriesId.Legible (id : SeriesId) : Prop where
  name : IsName id.name
  keys : ∀ label ∈ id.labels, IsKey label.1
  values : ∀ label ∈ id.labels, Clean label.2.toList

theorem SeriesId.Legible.readable {id : SeriesId} (h : id.Legible) : id.Readable :=
  ⟨h.name, h.keys⟩

/-- A longer name of a metric. -/
theorem Exposition.IsName.append {name : String} (h : IsName name) (suffix : String)
    (hb : '{' ∉ suffix.toList) (hs : ∀ c ∈ suffix.toList, isBlank c = false) :
    IsName (name ++ suffix) := by
  obtain ⟨c, rest, hname⟩ := List.exists_cons_of_ne_nil h.nonempty
  refine ⟨by simp [hname], ?_, ?_, ?_⟩
  · rw [String.toList_append, List.mem_append, not_or]
    exact ⟨h.brace, hb⟩
  · intro d hd
    rw [String.toList_append] at hd
    exact (List.mem_append.1 hd).elim (h.solid d) (hs d)
  · have := h.start
    rw [hname] at this
    simpa [hname] using this

theorem labels_eq_of_legible {a b : SeriesId} (ha : a.Legible) (hb : b.Legible)
    (h : a.labels.map labelText = b.labels.map labelText) : a.labels = b.labels :=
  labels_eq_of_written (fun label hl => ⟨(ha.keys label hl).equals, ha.values label hl⟩)
    (fun label hl => ⟨(hb.keys label hl).equals, hb.values label hl⟩) h

/-- No two series of one name and shape are written with the same labels. -/
def Registry.WrittenApart {α : Type} (r : Registry α) : Prop :=
  ∀ shape, ∀ a ∈ r.keys shape, ∀ b ∈ r.keys shape, a.name = b.name →
    a.labels.map labelText = b.labels.map labelText → a = b

theorem writtenApart_of_legible {α : Type} {r : Registry α}
    (h : ∀ shape, ∀ id ∈ r.keys shape, id.Legible) : r.WrittenApart := by
  intro shape a ha b hb hname hwritten
  have hlabels := labels_eq_of_legible (h shape a ha) (h shape b hb) hwritten
  exact SeriesId.mk.injEq .. ▸ ⟨hname, hlabels⟩

theorem flatMap_plainLines {β : Type} (shelf : Shelf SeriesId β) (token : β → List Char) :
    (shelf.flatMap fun entry => plainLines (token entry.2) entry.1) =
      shelf.map fun entry => ⟨entry.1.name, entry.1.labels, token entry.2⟩ :=
  List.map_eq_flatMap.symm

/-- The lines of series that are written apart are all different. -/
theorem nodup_written_plain {β : Type} {descriptions : Shelf (Shape × String) Description}
    {shape : Shape} {shelf : Shelf SeriesId β} {token : β → List Char} (hn : shelf.keys.Nodup)
    (ha : ∀ a ∈ shelf.keys, ∀ b ∈ shelf.keys, a.name = b.name →
      a.labels.map labelText = b.labels.map labelText → a = b) {f : Family}
    (hf : f ∈ shelfFamilies descriptions shape shelf fun id v => plainLines (token v) id) :
    (f.lines.map Line.written).Nodup := by
  obtain ⟨name, -, rfl⟩ := List.mem_map.1 hf
  have hwritten : ((shelf.filter fun entry => entry.1.name = name).flatMap fun entry =>
        plainLines (token entry.2) entry.1).map Line.written =
      ((shelf.filter fun entry => entry.1.name = name).map Prod.fst).map fun id =>
        (id.name, id.labels.map labelText) := by
    rw [flatMap_plainLines, List.map_map, List.map_map]
    rfl
  have hnodup : ((shelf.filter fun entry => entry.1.name = name).map Prod.fst).Nodup :=
    hn.sublist (List.filter_sublist.map _)
  have hknown : ∀ id ∈ (shelf.filter fun entry => entry.1.name = name).map Prod.fst,
      id ∈ shelf.keys := fun _ hid => (List.filter_sublist.map _).subset hid
  rw [hwritten]
  refine hnodup.map_on fun a hmem b hmem' hsame => ?_
  obtain ⟨hname, hlabels⟩ := Prod.mk.inj hsame
  exact ha a (hknown a hmem) b (hknown b hmem') hname hlabels

/-- The sample lines of counters and gauges. -/
def Registry.lines {α : Type} [Measure α] (r : Registry α) : List Line :=
  (r.counters.map fun entry => ⟨entry.1.name, entry.1.labels, natToken entry.2.toNat⟩) ++
    r.gauges.map fun entry => ⟨entry.1.name, entry.1.labels, Measure.text entry.2⟩

theorem exists_isToken_natToken (n : Nat) : ∃ value, IsToken (natToken n) value :=
  ⟨_, Number.isToken_toDigits False n⟩

theorem clean_of_notMem {s : List Char} (h : '\\' ∉ s) : Clean s := by
  induction s with
  | nil => trivial
  | cons c rest ih =>
    rw [List.mem_cons, not_or] at h
    rw [Clean]
    · exact ih h.2
    · intro _ _ he _
      exact h.1 he.symm

/-- The upper ends of the buckets, as they are shown. -/
def shownBounds : List String :=
  ["5", "10", "60", "300", "600", "1800", "3600", "7200", "18000", "36000", "+Inf"]

/-- The names and labels of the thirteen samples of a histogram. -/
def histogramHeads (id : SeriesId) : List (String × List Label) :=
  (shownBounds.map fun bound => (id.name ++ "_bucket", id.labels ++ [("le", bound)])) ++
    [(id.name ++ "_sum", id.labels), (id.name ++ "_count", id.labels)]

section Histograms
variable {α : Type} [Measure α] {id : SeriesId} {d : Distribution α}

theorem heads_histogramLines (h : d.within.length = lifetimeBounds.length) :
    (histogramLines id d).map (fun l => (l.name, l.labels)) = histogramHeads id := by
  have hbounds : (((lifetimeBounds.zip d.within).map Prod.fst).map fun bound =>
      String.ofList (natToken bound)) ++ ["+Inf"] = shownBounds := by
    rw [List.map_fst_zip (le_of_eq h.symm)]
    decide
  rw [histogramHeads, ← hbounds, histogramLines, ← List.map_uncurry_zip_eq_zipWith]
  simp only [List.map_append, List.map_map, List.append_assoc]
  rfl

/-- A line of a histogram has one of three names, the labels of its series and perhaps one
more, and the token of a number. -/
theorem mem_histogramLines {l : Line} (hl : l ∈ histogramLines id d) :
    (∃ suffix ∈ ["_bucket", "_sum", "_count"], l.name = id.name ++ suffix) ∧
      (∀ label ∈ l.labels, label ∈ id.labels ∨ label.1 = "le" ∧ '\\' ∉ label.2.toList) ∧
      ((∃ n, l.token = natToken n) ∨ l.token = Measure.text d.sum) := by
  have hbucket (bound : String) (hb : '\\' ∉ bound.toList) (label : Label)
      (hlabel : label ∈ id.labels ++ [("le", bound)]) :
      label ∈ id.labels ∨ label.1 = "le" ∧ '\\' ∉ label.2.toList := by
    rcases List.mem_append.1 hlabel with hlabel | hlabel
    · exact .inl hlabel
    · rw [List.mem_singleton.1 hlabel]
      exact .inr ⟨rfl, hb⟩
  rcases List.mem_append.1 hl with hl | hl
  · rw [← List.map_uncurry_zip_eq_zipWith, List.mem_map] at hl
    obtain ⟨⟨bound, n⟩, -, rfl⟩ := hl
    refine ⟨⟨"_bucket", by simp, rfl⟩, hbucket _ ?_, .inl ⟨n, rfl⟩⟩
    rw [String.toList_ofList]
    exact fun hm => absurd (Numeral.isDigit_of_mem _ hm) (by decide)
  · simp only [List.mem_cons, List.not_mem_nil, or_false] at hl
    rcases hl with rfl | rfl | rfl
    · exact ⟨⟨"_bucket", by simp, rfl⟩, hbucket "+Inf" (by decide), .inl ⟨d.count, rfl⟩⟩
    · exact ⟨⟨"_sum", by simp, rfl⟩, fun _ hlabel => .inl hlabel, .inr rfl⟩
    · exact ⟨⟨"_count", by simp, rfl⟩, fun _ hlabel => .inl hlabel, .inl ⟨d.count, rfl⟩⟩

theorem readable_histogramLines (hp : Number.Printed α) (h : id.Readable) :
    ∀ l ∈ histogramLines id d, l.Readable := by
  have hle : IsKey "le" := ⟨by decide, by decide, by simp [isBlank], by simp [isBlank]⟩
  intro l hl
  obtain ⟨⟨suffix, hsuffix, hname⟩, hlabels, htoken⟩ := mem_histogramLines hl
  refine ⟨?_, fun label hlabel => ?_, ?_⟩
  · rw [hname]
    simp only [List.mem_cons, List.not_mem_nil, or_false] at hsuffix
    rcases hsuffix with rfl | rfl | rfl <;> exact h.name.append _ (by decide) (by simp [isBlank])
  · rcases hlabels label hlabel with hlabel | ⟨hkey, -⟩
    · exact h.keys label hlabel
    · exact hkey ▸ hle
  · rcases htoken with ⟨n, htoken⟩ | htoken
    · exact htoken ▸ exists_isToken_natToken n
    · exact htoken ▸ hp d.sum

theorem clean_histogramLines (h : ∀ label ∈ id.labels, Clean label.2.toList) :
    ∀ l ∈ histogramLines id d, ∀ label ∈ l.labels, Clean label.2.toList := by
  intro l hl label hlabel
  obtain ⟨-, hlabels, -⟩ := mem_histogramLines hl
  exact (hlabels label hlabel).elim (h label) fun hbound => clean_of_notMem hbound.2

end Histograms

/-! ### Recorders on a page -/

/-- Lists that are related one by one have related elements. -/
theorem mem_of_forall₂ {β γ : Type} {R : β → γ → Prop} {l : List β} {m : List γ}
    (h : List.Forall₂ R l m) : (∀ a ∈ l, ∃ b ∈ m, R a b) ∧ ∀ b ∈ m, ∃ a ∈ l, R a b := by
  induction h with
  | nil => simp
  | cons hr _ ih =>
    refine ⟨List.forall_mem_cons.2 ⟨⟨_, List.mem_cons_self, hr⟩, fun a ha => ?_⟩,
      List.forall_mem_cons.2 ⟨⟨_, List.mem_cons_self, hr⟩, fun b hb => ?_⟩⟩
    · obtain ⟨b, hb, hr⟩ := ih.1 a ha
      exact ⟨b, List.mem_cons_of_mem _ hb, hr⟩
    · obtain ⟨a, ha, hr⟩ := ih.2 b hb
      exact ⟨a, List.mem_cons_of_mem _ ha, hr⟩

namespace Recorder

section Lines
variable {α : Type} [Measure α]

/-- The sample lines of histograms. -/
def distributionLines (r : Recorder α) : List Line :=
  r.settled.flatMap fun entry => histogramLines entry.1 entry.2

/-- A recorder whose page is read without a fault, whatever the values of its labels are. -/
structure Readable (r : Recorder α) : Prop where
  counters : ∀ id ∈ r.registry.counters.keys, id.Readable
  gauges : ∀ id ∈ r.registry.gauges.keys, id.Readable
  histograms : ∀ id ∈ r.settled.keys, id.Readable
  help : ∀ entry ∈ r.descriptions, '\n' ∉ entry.2.help.toList

/-- The families of a page, those of counters and gauges and those of histograms. -/
theorem filter_families (r : Recorder α) :
    (r.page.families.filter fun f => f.shape ≠ .histogram) =
        shelfFamilies r.descriptions .counter r.registry.counters
            (fun id total => plainLines (natToken total.toNat) id) ++
          shelfFamilies r.descriptions .gauge r.registry.gauges
            (fun id level => plainLines (Measure.text level) id) ∧
      (r.page.families.filter fun f => f.shape = .histogram) =
        shelfFamilies r.descriptions .histogram r.settled histogramLines := by
  have hcounters : ∀ f ∈ shelfFamilies r.descriptions .counter r.registry.counters
      (fun id total => plainLines (natToken total.toNat) id), f.shape = .counter :=
    fun _ hf => shape_of_mem_shelfFamilies _ _ _ _ hf
  have hgauges : ∀ f ∈ shelfFamilies r.descriptions .gauge r.registry.gauges
      (fun id level => plainLines (Measure.text level) id), f.shape = .gauge :=
    fun _ hf => shape_of_mem_shelfFamilies _ _ _ _ hf
  have hhistograms : ∀ f ∈ shelfFamilies r.descriptions .histogram r.settled histogramLines,
      f.shape = .histogram := fun _ hf => shape_of_mem_shelfFamilies _ _ _ _ hf
  rw [page, List.filter_append, List.filter_append, List.filter_append, List.filter_append]
  constructor
  · rw [List.filter_eq_self.2 fun f hf => decide_eq_true (by simp [hcounters f hf]),
      List.filter_eq_self.2 fun f hf => decide_eq_true (by simp [hgauges f hf]),
      List.filter_eq_nil_iff.2 fun f hf => by simp [hhistograms f hf], List.append_nil]
  · rw [List.filter_eq_nil_iff.2 fun f hf => by simp [hcounters f hf],
      List.filter_eq_nil_iff.2 fun f hf => by simp [hgauges f hf],
      List.filter_eq_self.2 fun f hf => decide_eq_true (hhistograms f hf), List.append_nil,
      List.nil_append]

theorem mem_scalar_families {r : Recorder α} {f : Family} (hf : f ∈ r.page.families)
    (hshape : f.shape ≠ .histogram) :
    f ∈ shelfFamilies r.descriptions .counter r.registry.counters
        (fun id total => plainLines (natToken total.toNat) id) ∨
      f ∈ shelfFamilies r.descriptions .gauge r.registry.gauges
        (fun id level => plainLines (Measure.text level) id) := by
  have hscalar : f ∈ r.page.families.filter fun f => f.shape ≠ .histogram :=
    List.mem_filter.2 ⟨hf, decide_eq_true hshape⟩
  rwa [(filter_families r).1, List.mem_append] at hscalar

/-- A page has the lines of its recorder's counters and gauges, each of them once. -/
theorem scalarLines_page (r : Recorder α) : r.page.scalarLines.Perm r.registry.lines := by
  rw [Page.scalarLines, (filter_families r).1, List.flatMap_append, Registry.lines,
    ← flatMap_plainLines _ fun total : UInt64 => natToken total.toNat, ← flatMap_plainLines]
  exact (shelfFamilies_perm ..).append (shelfFamilies_perm ..)

/-- A page has the lines of its recorder's histograms, each of them once. -/
theorem histogramLines_page (r : Recorder α) : r.page.histogramLines.Perm r.distributionLines := by
  rw [Page.histogramLines, (filter_families r).2]
  exact shelfFamilies_perm ..

theorem mem_lines {r : Recorder α} {f : Family} (hf : f ∈ r.page.families) {l : Line}
    (hl : l ∈ f.lines) : l ∈ r.registry.lines ++ r.distributionLines := by
  rw [List.mem_append, ← (scalarLines_page r).mem_iff, ← (histogramLines_page r).mem_iff]
  by_cases hshape : f.shape = .histogram
  · exact .inr (List.mem_flatMap.2 ⟨f, List.mem_filter.2 ⟨hf, decide_eq_true hshape⟩, hl⟩)
  · exact .inl (List.mem_flatMap.2 ⟨f, List.mem_filter.2 ⟨hf, decide_eq_true hshape⟩, hl⟩)

theorem readable_lines (hp : Number.Printed α) {r : Recorder α} (h : r.Readable) :
    ∀ l ∈ r.registry.lines ++ r.distributionLines, l.Readable := by
  intro l hl
  rcases List.mem_append.1 hl with hl | hl
  · rcases List.mem_append.1 hl with hl | hl
    · obtain ⟨entry, hentry, rfl⟩ := List.mem_map.1 hl
      have hid := h.counters _ (List.mem_map_of_mem hentry)
      exact ⟨hid.name, hid.keys, exists_isToken_natToken _⟩
    · obtain ⟨entry, hentry, rfl⟩ := List.mem_map.1 hl
      have hid := h.gauges _ (List.mem_map_of_mem hentry)
      exact ⟨hid.name, hid.keys, hp _⟩
  · obtain ⟨entry, hentry, hl⟩ := List.mem_flatMap.1 hl
    exact readable_histogramLines hp (h.histograms _ (List.mem_map_of_mem hentry)) l hl

theorem readable_page (hp : Number.Printed α) {r : Recorder α} (h : r.Readable) :
    ∀ f ∈ r.page.families, f.Readable := by
  intro f hf
  have hnamed : (∃ id : SeriesId, id.Readable ∧ id.name = f.name) ∧
      ∀ d ∈ f.description, ∃ key, (key, d) ∈ r.descriptions := by
    rcases List.mem_append.1 hf with hshelf | hshelf
    · rcases List.mem_append.1 hshelf with hshelf | hshelf
      · obtain ⟨⟨id, hid, hname⟩, hhelp⟩ := mem_shelfFamilies _ _ _ _ hshelf
        exact ⟨⟨id, h.counters id hid, hname⟩, hhelp⟩
      · obtain ⟨⟨id, hid, hname⟩, hhelp⟩ := mem_shelfFamilies _ _ _ _ hshelf
        exact ⟨⟨id, h.gauges id hid, hname⟩, hhelp⟩
    · obtain ⟨⟨id, hid, hname⟩, hhelp⟩ := mem_shelfFamilies _ _ _ _ hshelf
      exact ⟨⟨id, h.histograms id hid, hname⟩, hhelp⟩
  obtain ⟨⟨id, hid, hname⟩, hhelp⟩ := hnamed
  refine ⟨hname ▸ hid.name, fun d hd => ?_, fun l hl => readable_lines hp h l (mem_lines hf hl)⟩
  obtain ⟨key, hkey⟩ := hhelp d hd
  exact h.help _ hkey

/-- However the page of a readable recorder is listed, it is read as what is seen of its lines: of
those of its counters and gauges that stay, and of all those of its histograms. -/
theorem read_lines (hp : Number.Printed α) {r : Recorder α} (h : r.Readable) {text : String}
    (ht : r.page.Lists text) : ∃ samples scalars, read text = .ok samples ∧
      r.page.Leaves scalars ∧ samples.Perm ((scalars ++ r.distributionLines).map Line.seen) := by
  obtain ⟨samples, scalars, hread, hleaves, hperm⟩ := read_seen (readable_page hp h) ht
  exact ⟨samples, scalars, hread, hleaves,
    hperm.trans (((histogramLines_page r).append_left scalars).map _)⟩

/-- No lines of distinct series are merged that are written apart. -/
theorem apart_page {r : Recorder α} (hn : ∀ shape, (r.registry.keys shape).Nodup)
    (ha : r.registry.WrittenApart) : r.page.Apart := by
  intro f hf hshape
  rcases mem_scalar_families hf hshape with hf | hf
  · exact nodup_written_plain (hn .counter) (ha .counter) hf
  · exact nodup_written_plain (hn .gauge) (ha .gauge) hf

end Lines

/-- A recorder whose page can be read back. -/
structure Presentable (r : Recorder Float) : Prop where
  series : ∀ shape, ∀ id ∈ r.registry.keys shape, id.Legible
  distinct : ∀ shape, (r.registry.keys shape).Nodup
  histograms : ∀ id ∈ r.settled.keys, id.Legible
  levels : ∀ entry ∈ r.registry.gauges, IsWhole entry.2
  buckets : ∀ entry ∈ r.settled, entry.2.within.length = lifetimeBounds.length
  help : ∀ entry ∈ r.descriptions, '\n' ∉ entry.2.help.toList

/-- What samples show of a recorder: one sample for each counter and for each gauge, with its
name, its labels and its value, and thirteen for each histogram. -/
structure Shows (r : Recorder Float) (samples : List Sample) : Prop where
  split : ∃ gauges histograms : List Sample,
    samples.Perm (r.registry.counters.map (fun entry =>
      ⟨entry.1.name, entry.1.labels, .decimal false entry.2.toNat 0⟩) ++ (gauges ++ histograms)) ∧
    List.Forall₂ (fun entry s => s.name = entry.1.name ∧ s.labels = entry.1.labels ∧
      s.value.toFloat = entry.2) r.registry.gauges gauges ∧
    histograms.map (fun s => (s.name, s.labels)) = r.settled.keys.flatMap histogramHeads

/-- One sample for each counter and each gauge, and thirteen for each histogram. -/
theorem Shows.length_eq {r : Recorder Float} {samples : List Sample} (h : r.Shows samples) :
    samples.length =
      r.registry.counters.length + r.registry.gauges.length + 13 * r.settled.keys.length := by
  obtain ⟨gauges, histograms, hperm, hgauges, hheads⟩ := h.split
  have hthirteen (id : SeriesId) : (histogramHeads id).length = 13 := rfl
  have hhistograms : histograms.length = 13 * r.settled.keys.length := by
    have := congrArg List.length hheads
    simp only [List.length_map, List.length_flatMap, hthirteen] at this
    rw [this]
    simp [mul_comm]
  rw [hperm.length_eq, List.length_append, List.length_append, List.length_map,
    ← hgauges.length_eq, hhistograms, add_assoc]

theorem seen_counter {id : SeriesId} (h : id.Legible) (total : UInt64) :
    Line.seen ⟨id.name, id.labels, natToken total.toNat⟩ =
      ⟨id.name, id.labels, .decimal false total.toNat 0⟩ := by
  have := (Number.isToken_toDigits False total.toNat).reads
  simp only [if_false, List.nil_append, decide_false] at this
  rw [Line.seen, natToken, this, map_seenLabel_of_clean h.values]
  rfl

theorem toFloat_gauge (id : SeriesId) {level : Float} (h : IsWhole level) :
    (Line.seen ⟨id.name, id.labels, Measure.text level⟩).value.toFloat = level := by
  obtain ⟨n, hbound, rfl⟩ := h
  have hread := (Number.isToken_toDigits (n < 0) n.natAbs).reads
  show ((Numeral.read? (Number.Shortest.text (Number.whole n))).getD .undefined).toFloat = _
  rw [Number.Shortest.text_whole hbound, hread]
  exact Number.toFloat_whole hbound

theorem Presentable.readable {r : Recorder Float} (h : r.Presentable) : r.Readable where
  counters id hid := (h.series .counter id hid).readable
  gauges id hid := (h.series .gauge id hid).readable
  histograms id hid := (h.histograms id hid).readable
  help := h.help

/-- The page of a presentable recorder is read as the samples that show it, however it is
listed. -/
theorem shows_listing {r : Recorder Float} (h : r.Presentable) {text : String}
    (ht : r.page.Lists text) : ∃ samples, read text = .ok samples ∧ r.Shows samples := by
  obtain ⟨samples, scalars, hread, hleaves, hperm⟩ := read_lines Number.printed_float h.readable ht
  have hscalars : scalars.Perm r.registry.lines :=
    (hleaves.all (apart_page h.distinct (writtenApart_of_legible h.series))).trans (scalarLines_page r)
  have hlegible (entry : SeriesId × Float) (hentry : entry ∈ r.registry.gauges) :
      entry.1.Legible := h.series .gauge _ (List.mem_map_of_mem hentry)
  refine ⟨samples, hread, ⟨r.registry.gauges.map fun entry =>
    Line.seen ⟨entry.1.name, entry.1.labels, Measure.text entry.2⟩,
    r.distributionLines.map Line.seen, ?_, ?_, ?_⟩⟩
  · have hcounters : (r.registry.counters.map fun entry =>
        Line.seen ⟨entry.1.name, entry.1.labels, natToken entry.2.toNat⟩) =
        r.registry.counters.map fun entry =>
          ⟨entry.1.name, entry.1.labels, .decimal false entry.2.toNat 0⟩ :=
      List.map_congr_left fun entry hentry =>
        seen_counter (h.series .counter _ (List.mem_map_of_mem hentry)) entry.2
    have hall := hperm.trans ((hscalars.append_right _).map _)
    rw [Registry.lines, List.map_append, List.map_append, List.map_map, List.map_map,
      List.append_assoc] at hall
    exact hcounters ▸ hall
  · rw [List.forall₂_map_right_iff, List.forall₂_same]
    exact fun entry hentry => ⟨rfl, map_seenLabel_of_clean (hlegible entry hentry).values,
      toFloat_gauge entry.1 (h.levels entry hentry)⟩
  · rw [distributionLines, List.map_flatMap, List.map_flatMap, Shelf.keys, List.flatMap_map]
    refine List.flatMap_congr fun entry hentry => ?_
    have hclean := clean_histogramLines (d := entry.2)
      (h.histograms _ (List.mem_map_of_mem hentry)).values
    rw [List.map_map, ← heads_histogramLines (h.buckets entry hentry)]
    exact List.map_congr_left fun l hl =>
      Prod.ext rfl (map_seenLabel_of_clean (hclean l hl))

end Recorder
end Roomwatch
