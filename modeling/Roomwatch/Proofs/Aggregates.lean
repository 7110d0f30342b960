import Mathlib
import Roomwatch.Proofs.Captures

/-! Aggregate lookups.

A registry has a series once (`Registry.nodup_entries`), so whatever is asked of all series of
a name can be asked of each of them by its labels. Sums over the counters of a name are sums
over their label lists (`Registry.sumOver_eq_sum`), and where a key splits the label lists,
it splits the sums too (`Registry.labelings_split`). A session never spoils that: what a
capture finds adds up, whoever wrote to the recorder (`Session.adds_up_after`). -/
namespace Roomwatch

open Number (Measure Exact)

def Shape.all : List Shape := [.counter, .gauge, .histogram]

namespace Registry
variable {α : Type} {g : Registry α}

/-! ### The series of a registry -/

/-- Whether the lookup of a shape finds a series. -/
def finds (g : Registry α) (shape : Shape) (id : SeriesId) : Bool :=
  match shape with
  | .counter => (g.counter? id).isSome
  | .gauge => (g.gauge? id).isSome
  | .histogram => (g.waiting? id).isSome

/-- All series, each with its shape. -/
def entries (g : Registry α) : List (Shape × SeriesId) :=
  Shape.all.flatMap fun shape => (g.keys shape).map fun id => (shape, id)

theorem finds_iff (g : Registry α) (shape : Shape) (id : SeriesId) :
    g.finds shape id = true ↔ id ∈ g.keys shape := by
  cases shape <;> exact Shelf.isSome_get?_iff _ id

theorem mem_entries {entry : Shape × SeriesId} :
    entry ∈ g.entries ↔ g.finds entry.1 entry.2 = true := by
  obtain ⟨shape, id⟩ := entry
  rw [finds_iff, entries, List.mem_flatMap]
  constructor
  · rintro ⟨other, -, hentry⟩
    obtain ⟨j, hj, hsame⟩ := List.mem_map.1 hentry
    obtain ⟨rfl, rfl⟩ := Prod.mk.inj hsame
    exact hj
  · intro hid
    exact ⟨shape, by cases shape <;> decide, List.mem_map_of_mem hid⟩

/-- **No series is there twice**, under its shape, its name and its labels in order. -/
theorem nodup_entries (h : ∀ shape, (g.keys shape).Nodup) : g.entries.Nodup := by
  refine List.nodup_flatMap.2 ⟨fun shape _ => ?_, ?_⟩
  · exact (h shape).map fun _ _ hsame => (Prod.mk.inj hsame).2
  · have hapart : Shape.all.Nodup := by decide
    refine hapart.imp fun {a b} hne entry ha hb => hne ?_
    obtain ⟨_, -, rfl⟩ := List.mem_map.1 ha
    obtain ⟨_, -, hsame⟩ := List.mem_map.1 hb
    exact (Prod.mk.inj hsame).1.symm

/-- The series of a name, each by its shape and its labels. -/
def seriesOf (g : Registry α) (name : String) : Finset (Shape × List Label) :=
  ((g.entries.filter fun entry => entry.2.name = name).map fun entry =>
    (entry.1, entry.2.labels)).toFinset

theorem mem_named_entries {name : String} {entry : Shape × SeriesId} :
    (entry ∈ g.entries.filter fun entry => entry.2.name = name) ↔
      g.finds entry.1 ⟨name, entry.2.labels⟩ = true ∧ entry.2.name = name := by
  rw [List.mem_filter, mem_entries, decide_eq_true_eq]
  refine and_congr_left fun hname => ?_
  rw [← hname]

theorem mem_seriesOf {name : String} {shape : Shape} {labels : List Label} :
    (shape, labels) ∈ g.seriesOf name ↔ g.finds shape ⟨name, labels⟩ = true := by
  rw [seriesOf, List.mem_toFinset, List.mem_map]
  constructor
  · rintro ⟨entry, hentry, hsame⟩
    obtain ⟨rfl, rfl⟩ := Prod.mk.inj hsame
    exact (mem_named_entries.1 hentry).1
  · intro hfinds
    exact ⟨(shape, ⟨name, labels⟩), mem_named_entries.2 ⟨hfinds, rfl⟩, rfl⟩

theorem seriesCount_eq_card (h : ∀ shape, (g.keys shape).Nodup) (name : String) :
    g.seriesCount name = (g.seriesOf name).card := by
  have hnodup : ((g.entries.filter fun entry => entry.2.name = name).map fun entry =>
      (entry.1, entry.2.labels)).Nodup := by
    refine List.Nodup.map_on (fun a ha b hb hsame => ?_) ((nodup_entries h).filter _)
    obtain ⟨hshape, hlabels⟩ := Prod.mk.inj hsame
    have hname := (mem_named_entries.1 ha).2.trans (mem_named_entries.1 hb).2.symm
    exact Prod.ext hshape (SeriesId.mk.injEq .. ▸ ⟨hname, hlabels⟩)
  rw [seriesOf, List.toFinset_card_of_nodup hnodup, List.length_map,
    ← List.countP_eq_length_filter, entries, List.countP_flatMap]
  simp only [Shape.all, List.map_cons, List.map_nil, List.sum_cons, List.sum_nil,
    Function.comp_apply, List.countP_map, add_zero, ← add_assoc]
  rfl

/-! ### Sums over label lists -/

/-- The label lists of the counters of a name that carry a filter. -/
def labelings (g : Registry α) (name : String) (filter : List Label) : Finset (List Label) :=
  (((g.keys .counter).filter fun id => id.name = name && carries id.labels filter).map
    SeriesId.labels).toFinset

theorem carries_iff {labels filter : List Label} :
    carries labels filter = true ↔ filter ⊆ labels := by
  simp [carries, List.subset_def]

theorem mem_labelings {name : String} {filter labels : List Label} :
    labels ∈ g.labelings name filter ↔
      filter ⊆ labels ∧ (g.counter? ⟨name, labels⟩).isSome = true := by
  have hknown : (g.counter? ⟨name, labels⟩).isSome = true ↔ ⟨name, labels⟩ ∈ g.keys .counter :=
    g.finds_iff .counter ⟨name, labels⟩
  rw [hknown, labelings, List.mem_toFinset, List.mem_map]
  constructor
  · rintro ⟨id, hid, rfl⟩
    obtain ⟨hkey, hfits⟩ := List.mem_filter.1 hid
    rw [Bool.and_eq_true, decide_eq_true_eq, carries_iff] at hfits
    obtain ⟨rfl, hfilter⟩ := hfits
    exact ⟨hfilter, hkey⟩
  · rintro ⟨hfilter, hkey⟩
    refine ⟨⟨name, labels⟩, List.mem_filter.2 ⟨hkey, ?_⟩, rfl⟩
    simpa using carries_iff.2 hfilter

/-- A sum over the counters of a name is a sum over their label lists. -/
theorem sumOver_eq_sum {γ : Type} [AddCommMonoid γ] (h : (g.keys .counter).Nodup) (name : String)
    (filter : List Label) (f : UInt64 → γ) :
    g.counters.sumOver (fun id => id.name = name && carries id.labels filter) f =
      ∑ labels ∈ g.labelings name filter, f (g.total ⟨name, labels⟩) := by
  have hname {id : SeriesId} (hid : id ∈ (g.keys .counter).filter fun id =>
      id.name = name && carries id.labels filter) : id = ⟨name, id.labels⟩ := by
    obtain ⟨-, hfits⟩ := List.mem_filter.1 hid
    rw [Bool.and_eq_true, decide_eq_true_eq] at hfits
    rw [← hfits.1]
  have hnodup : (((g.keys .counter).filter fun id =>
      id.name = name && carries id.labels filter).map SeriesId.labels).Nodup := by
    refine List.Nodup.map_on (fun a ha b hb hlabels => ?_) (h.filter _)
    rw [hname ha, hname hb, hlabels]
  rw [labelings, List.sum_toFinset _ hnodup, List.map_map, Shelf.sumOver, keys, Shelf.keys,
    List.filter_map, List.map_map]
  refine congrArg List.sum (List.map_congr_left fun entry hentry => ?_)
  obtain ⟨hmem, hfits⟩ := List.mem_filter.1 hentry
  have hid := hname (List.mem_filter.2 ⟨List.mem_map_of_mem hmem, hfits⟩)
  have htotal : g.total entry.1 = entry.2 := by
    rw [total, counter?, (Shelf.get?_eq_some_iff h entry.1 entry.2).2 hmem, Option.getD_some]
  show f entry.2 = f (g.total ⟨name, entry.1.labels⟩)
  rw [← hid, htotal]

theorem counterTotal_eq_sum (h : (g.keys .counter).Nodup) (name : String) (filter : List Label) :
    g.counterTotal name filter =
      ∑ labels ∈ g.labelings name filter, (g.total ⟨name, labels⟩).toNat :=
  sumOver_eq_sum h name filter UInt64.toNat

theorem counterSum_eq_sum (h : (g.keys .counter).Nodup) (name : String) (filter : List Label) :
    g.counterSum name filter = ∑ labels ∈ g.labelings name filter, g.total ⟨name, labels⟩ :=
  (g.counterSum_eq_counted name filter).trans (sumOver_eq_sum h name filter id)

/-! ### Sums split by a key -/

/-- The values of a key on the counters of a name. -/
def valuesOf (g : Registry α) (name key : String) : Finset String :=
  (g.labelings name []).biUnion fun labels =>
    ((labels.filter fun label => label.1 = key).map Prod.snd).toFinset

theorem mem_valuesOf {name key value : String} : value ∈ g.valuesOf name key ↔
    ∃ labels, (g.counter? ⟨name, labels⟩).isSome = true ∧ (key, value) ∈ labels := by
  simp [valuesOf, mem_labelings]

/-- A key that stands once on a list of labels has one value there. -/
theorem exists_value_of_once {labels : List Label} {key : String}
    (h : labels.countP (fun label => label.1 = key) = 1) :
    ∃ own, ∀ value, (key, value) ∈ labels ↔ value = own := by
  rw [List.countP_eq_length_filter, List.length_eq_one_iff] at h
  obtain ⟨⟨first, own⟩, hfilter⟩ := h
  have hmem (label : Label) : label ∈ labels ∧ label.1 = key ↔ label = (first, own) := by
    rw [← List.mem_singleton (a := label), ← hfilter]
    simp
  obtain ⟨-, rfl⟩ := (hmem (first, own)).2 rfl
  refine ⟨own, fun value => ?_⟩
  simpa using hmem (first, value)

/-- A key that every counter of a name has once splits their label lists by its values. -/
theorem labelings_split {γ : Type} [AddCommMonoid γ] {name key : String}
    (honce : ∀ labels, (g.counter? ⟨name, labels⟩).isSome = true →
      labels.countP (fun label => label.1 = key) = 1) (filter : List Label)
    (f : List Label → γ) :
    ∑ value ∈ g.valuesOf name key, ∑ labels ∈ g.labelings name (filter ++ [(key, value)]),
        f labels = ∑ labels ∈ g.labelings name filter, f labels := by
  have hparts : g.labelings name filter =
      (g.valuesOf name key).biUnion fun value => g.labelings name (filter ++ [(key, value)]) := by
    ext labels
    simp only [Finset.mem_biUnion, mem_labelings, List.append_subset]
    constructor
    · rintro ⟨hfilter, hknown⟩
      obtain ⟨own, hown⟩ := exists_value_of_once (honce labels hknown)
      have hmem := (hown own).2 rfl
      exact ⟨own, mem_valuesOf.2 ⟨labels, hknown, hmem⟩, ⟨hfilter, by simpa using hmem⟩, hknown⟩
    · rintro ⟨value, -, ⟨hfilter, -⟩, hknown⟩
      exact ⟨hfilter, hknown⟩
  rw [hparts, Finset.sum_biUnion]
  intro v _ w _ hne
  refine Finset.disjoint_left.2 fun labels hv hw => hne ?_
  simp only [mem_labelings, List.append_subset, List.cons_subset] at hv hw
  obtain ⟨own, hown⟩ := exists_value_of_once (honce labels hv.2)
  rw [(hown v).1 hv.1.2.1, (hown w).1 hw.1.2.1]

/-! ### Aggregates -/

/-- The aggregate lookups in a registry come to what lookups of single series do. -/
structure AddsUp (g : Registry α) : Prop where
  /-- A shape, a name and labels in their order name one series at most. -/
  once : g.entries.Nodup
  /-- A sum of counters is that of the lookups under all labels that carry the filter, if it
  fits into 64 bits. -/
  sums : ∀ name filter, ∃ lists : Finset (List Label),
    (∀ labels, labels ∈ lists ↔ filter ⊆ labels ∧ (g.counter? ⟨name, labels⟩).isSome = true) ∧
    g.counterTotal name filter = ∑ labels ∈ lists, (g.total ⟨name, labels⟩).toNat ∧
    (g.counterTotal name filter < 2 ^ 64 →
      (g.counterSum name filter).toNat = g.counterTotal name filter)
  /-- Every shape and labels under which a lookup of the name finds something count once. -/
  counts : ∀ name, ∃ series : Finset (Shape × List Label),
    (∀ shape labels, (shape, labels) ∈ series ↔ g.finds shape ⟨name, labels⟩ = true) ∧
    g.seriesCount name = series.card
  /-- A key that every counter of a name has once splits the sums by its values. -/
  parts : ∀ name filter key,
    (∀ labels, (g.counter? ⟨name, labels⟩).isSome = true →
      labels.countP (fun label => label.1 = key) = 1) →
    ∃ values : Finset String,
      (∀ value, value ∈ values ↔
        ∃ labels, (g.counter? ⟨name, labels⟩).isSome = true ∧ (key, value) ∈ labels) ∧
      ∑ value ∈ values, g.counterSum name (filter ++ [(key, value)]) = g.counterSum name filter ∧
      (g.counterTotal name filter < 2 ^ 64 →
        ∑ value ∈ values, (g.counterSum name (filter ++ [(key, value)])).toNat =
          (g.counterSum name filter).toNat)

theorem addsUp (h : ∀ shape, (g.keys shape).Nodup) : g.AddsUp := by
  constructor
  case once => exact nodup_entries h
  case sums =>
    intro name filter
    exact ⟨g.labelings name filter, fun _ => mem_labelings, counterTotal_eq_sum (h .counter) _ _,
      g.toNat_counterSum name filter⟩
  case counts =>
    intro name
    exact ⟨g.seriesOf name, fun _ _ => mem_seriesOf, seriesCount_eq_card h name⟩
  case parts =>
    intro name filter key honce
    have hsplit := labelings_split honce filter fun labels => (g.total ⟨name, labels⟩).toNat
    simp only [← counterTotal_eq_sum (h .counter)] at hsplit
    refine ⟨g.valuesOf name key, fun _ => mem_valuesOf, ?_, fun hfits => ?_⟩
    · simp only [counterSum_eq_sum (h .counter)]
      exact labelings_split honce filter fun labels => g.total ⟨name, labels⟩
    · rw [g.toNat_counterSum name filter hfits, ← hsplit]
      refine Finset.sum_congr rfl fun value hvalue => g.toNat_counterSum _ _ ?_
      refine lt_of_le_of_lt ?_ hfits
      rw [← hsplit]
      exact Finset.single_le_sum (f := fun value => g.counterTotal name (filter ++ [(key, value)]))
        (fun _ _ => Nat.zero_le _) hvalue

end Registry

/-- A capture lists the series of a registry, and nothing else. -/
theorem Recorder.entries_rows {α : Type} (r : Recorder α) :
    (r.rows.map fun row => (row.reading.shape, row.id)).Perm r.registry.entries := by
  have hrows := r.filterMap_rows fun row => some (row.reading.shape, row.id)
  rw [List.filterMap_eq_map'] at hrows
  refine hrows.trans (.of_eq ?_)
  simp [Registry.entries, Shape.all, Registry.keys, Shelf.keys, Recorder.row, Reading.shape,
    Function.comp_def]

namespace Session
variable {α : Type} [Measure α]

/-- **What a capture finds adds up**, whatever was done to its recorder. No series is listed
twice, and the aggregate lookups are what the exact ones come to. -/
theorem adds_up_after (keeps : Outlet → Bool) (now : Instant) (recorder : String)
    (steps : List (Step α)) :
    let s := (start α keeps now).after steps
    let captured := (s.common recorder).registry
    (∃ rows, (s.step (.capture recorder)).reply = .rows rows ∧
        (rows.map fun row => (row.reading.shape, row.id)).Nodup) ∧
      (∀ lookups, (s.step (.lookup recorder lookups)).reply =
        .found (lookups.map captured.find)) ∧
      captured.AddsUp := by
  intro s captured
  have hdistinct : s.Distinct := distinct_after keeps now steps
  have hkeys := hdistinct.common recorder
  refine ⟨⟨(s.common recorder).rows, s.reply_capture recorder, ?_⟩, s.reply_lookup recorder,
    Registry.addsUp hkeys⟩
  exact (Recorder.entries_rows _).nodup_iff.2 (Registry.nodup_entries hkeys)

/-- A counter that a reporter and others write to, under labels of its own for each, and whose
name a gauge has as well. -/
theorem adds_up_after_mixed :
    let name := "sfu_track_subscribe_counter"
    let steps : List (Step Exact) :=
      [.buildOver ⟨"n1", "server", "test", none⟩ "main" "r",
        .report "main" [.subscribeAttempted, .subscribeFailed "no" true],
        .rawCount "r" ⟨name, [("state", "late"), ("node_id", "n1")]⟩ 5,
        .rawGauge "r" ⟨name, []⟩ ⟨1⟩]
    let captured := (((start Exact Outlet.isKept ⟨0⟩).after steps).common "r").registry
    (∀ labels, (captured.counter? ⟨name, labels⟩).isSome = true →
        labels.countP (fun label => label.1 = "state") = 1) ∧
      captured.seriesCount name = 5 ∧ captured.counterTotal name [("node_id", "n1")] = 7 ∧
      ∃ values : Finset String, "late" ∈ values ∧
        ∑ value ∈ values,
          (captured.counterSum name [("node_id", "n1"), ("state", value)]).toNat = 7 := by
  intro name steps captured
  have hkeys : captured.keys .counter = [⟨name, Settings.specimen.identity ++
        Outlet.subscribeAttempts.labels⟩,
      ⟨name, Settings.specimen.identity ++ Outlet.subscribeSuccesses.labels⟩,
      ⟨name, Settings.specimen.identity ++ (Outlet.subscribeFailures "no").labels⟩,
      ⟨name, [("state", "late"), ("node_id", "n1")]⟩] := by decide +kernel
  have honce : ∀ labels, (captured.counter? ⟨name, labels⟩).isSome = true →
      labels.countP (fun label => label.1 = "state") = 1 := by
    intro labels hknown
    have hmem : ⟨name, labels⟩ ∈ captured.keys .counter :=
      (captured.finds_iff .counter _).1 hknown
    rw [hkeys] at hmem
    simp only [List.mem_cons, SeriesId.mk.injEq, true_and, List.not_mem_nil, or_false] at hmem
    rcases hmem with rfl | rfl | rfl | rfl <;> decide +kernel
  have hcount : captured.seriesCount name = 5 := by decide +kernel
  have htotal : captured.counterTotal name [("node_id", "n1")] = 7 := by decide +kernel
  have hadds := (adds_up_after Outlet.isKept ⟨0⟩ "r" steps).2.2
  obtain ⟨values, hvalues, -, hsplit⟩ := hadds.parts name [("node_id", "n1")] "state" honce
  have hfits : captured.counterTotal name [("node_id", "n1")] < 2 ^ 64 := by
    rw [htotal]
    decide
  have hsum := hsplit hfits
  rw [captured.toNat_counterSum name _ hfits, htotal] at hsum
  have hlate : "late" ∈ values :=
    (hvalues "late").2 ⟨[("state", "late"), ("node_id", "n1")],
      (captured.finds_iff .counter _).2 (by rw [hkeys]; simp), by simp⟩
  exact ⟨honce, hcount, htotal, values, hlate, hsum⟩

end Session
end Roomwatch
