import Mathlib
import Roomwatch.Proofs.Gathering
import Roomwatch.Proofs.Queries

/-! Asking for buckets.

The samples of a histogram are found by their names and by the first label `le` of each. The
text of a bound is looked up as the number that it is read as (`endsAt`), and no two bounds
are the same number, so a question for a bound finds one bucket and a question for any other
number finds none. A recorder has a *lone* histogram when no other of its series can be taken
for a part of it; then its page answers as its observations do, however the page is listed
and whichever lines of the other series are merged (`answers_lone`). -/
namespace Roomwatch

open Exposition
open Number (Measure Numeral)

/-! ### Ends of buckets -/

/-- The upper end of the last bucket. -/
def infinity : Float := 1.0 / 0.0

/-- Whether a text is looked up as a number. -/
def endsAt (le : Float) (text : String) : Bool :=
  (Numeral.read? text.toList).any fun n => n.toFloat == le

/-- A number that equals itself and is not zero equals no other one. -/
theorem beq_iff_eq_of_ne {x : Float} (hnan : x ≠ Float.nan) (hzero : x ≠ 0 ∧ x ≠ -0) (y : Float) :
    (x == y) = true ↔ y = x := by
  rw [Float.beq_iff_ne_nan_and_eq]
  constructor
  · rintro ⟨-, -, hsame | ⟨h, -⟩ | ⟨h, -⟩⟩
    · exact hsame.symm
    · exact absurd h hzero.1
    · exact absurd h hzero.2
  · rintro rfl
    exact ⟨hnan, hnan, .inl rfl⟩

theorem bounds_facts : ∀ bound ∈ lifetimeBounds, Float.ofNat bound ≠ Float.nan ∧
    (Float.ofNat bound ≠ 0 ∧ Float.ofNat bound ≠ -0) ∧ Float.ofNat bound ≠ infinity := by
  decide +kernel

theorem ofNat_inj : ∀ a ∈ lifetimeBounds, ∀ b ∈ lifetimeBounds,
    Float.ofNat a = Float.ofNat b → a = b := by
  decide +kernel

theorem infinity_facts : infinity ≠ Float.nan ∧ infinity ≠ 0 ∧ infinity ≠ -0 := by
  decide +kernel

theorem read?_natToken (n : Nat) : Numeral.read? (natToken n) = some (.decimal false n 0) := by
  have hreads := (Number.isToken_toDigits False n).reads
  simp only [if_false, List.nil_append, decide_false] at hreads
  exact hreads

theorem endsAt_natToken {bound : Nat} (h : bound ∈ lifetimeBounds) (le : Float) :
    endsAt le (String.ofList (natToken bound)) = true ↔ le = Float.ofNat bound := by
  obtain ⟨hnan, hzero, -⟩ := bounds_facts bound h
  rw [← beq_iff_eq_of_ne hnan hzero, endsAt, String.toList_ofList, read?_natToken]
  rfl

theorem endsAt_infinity (le : Float) : endsAt le "+Inf" = true ↔ le = infinity := by
  rw [← beq_iff_eq_of_ne infinity_facts.1 infinity_facts.2, endsAt,
    show Numeral.read? "+Inf".toList = some (.infinite false) by decide]
  rfl

/-! ### Samples of a histogram -/

/-- A bucket as a reader sees it: its bound as a text, and how many observations are within. -/
def bucketSample (id : SeriesId) (row : String × Nat) : Sample :=
  ⟨id.name ++ "_bucket", id.labels.map seenLabel ++ [("le", row.1)], .decimal false row.2 0⟩

/-- The number of observations as a reader sees it. -/
def countSample (id : SeriesId) (n : Nat) : Sample :=
  ⟨id.name ++ "_count", id.labels.map seenLabel, .decimal false n 0⟩

section Rows
variable {α : Type} [Measure α]

/-- The bounds with the numbers of observations within them, the last one without a bound. -/
def bucketRows (values : List α) : List (String × Nat) :=
  (lifetimeBounds.map fun bound => (String.ofList (natToken bound),
    values.countP fun value => Measure.within value bound)) ++ [("+Inf", values.length)]

theorem mem_bucketRows {values : List α} {row : String × Nat} : row ∈ bucketRows values ↔
    (∃ bound ∈ lifetimeBounds, row = (String.ofList (natToken bound),
      values.countP fun value => Measure.within value bound)) ∨ row = ("+Inf", values.length) := by
  simp only [bucketRows, List.mem_append, List.mem_map, List.mem_singleton, eq_comm]

theorem seen_bucket (id : SeriesId) (bound : String) (n : Nat) (hb : '\\' ∉ bound.toList) :
    Line.seen ⟨id.name ++ "_bucket", id.labels ++ [("le", bound)], natToken n⟩ =
      bucketSample id (bound, n) := by
  have hle : seenLabel ("le", bound) = ("le", bound) := seenLabel_of_clean (clean_of_notMem hb)
  rw [Line.seen, read?_natToken, List.map_append, List.map_singleton, hle]
  rfl

/-- The lines of a histogram that covers some observations. -/
theorem histogramLines_eq (id : SeriesId) {d : Distribution α} {values : List α}
    (h : d.Covers values) : histogramLines id d =
      (bucketRows values).map (fun row =>
          ⟨id.name ++ "_bucket", id.labels ++ [("le", row.1)], natToken row.2⟩) ++
        [⟨id.name ++ "_sum", id.labels, Measure.text d.sum⟩,
          ⟨id.name ++ "_count", id.labels, natToken values.length⟩] := by
  rw [histogramLines, h.within, h.count, Distribution.tallyWithin, List.zipWith_map_right,
    List.zipWith_self, bucketRows, List.map_append, List.map_map, List.append_assoc]
  rfl

theorem seen_histogramLines (id : SeriesId) {d : Distribution α} {values : List α}
    (h : d.Covers values) : ∃ sum, (histogramLines id d).map Line.seen =
      (bucketRows values).map (bucketSample id) ++
        [⟨id.name ++ "_sum", id.labels.map seenLabel, sum⟩, countSample id values.length] := by
  have hbound : ∀ row ∈ bucketRows values, '\\' ∉ row.1.toList := by
    intro row hrow
    rcases mem_bucketRows.1 hrow with ⟨bound, -, rfl⟩ | rfl
    · rw [String.toList_ofList]
      exact fun hm => absurd (Numeral.isDigit_of_mem _ hm) (by decide)
    · show '\\' ∉ "+Inf".toList
      decide
  have hcount : Line.seen ⟨id.name ++ "_count", id.labels, natToken values.length⟩ =
      countSample id values.length := by
    rw [Line.seen, read?_natToken]
    rfl
  refine ⟨(Numeral.read? (Measure.text d.sum)).getD .undefined, ?_⟩
  rw [histogramLines_eq id h, List.map_append, List.map_map, List.map_cons, List.map_singleton,
    hcount]
  congr 1
  exact List.map_congr_left fun row hrow => seen_bucket id row.1 row.2 (hbound row hrow)

end Rows

/-! ### Questions -/

/-- A filter that is among the labels of a sample is met by it. -/
theorem meets_of_subset {s : Sample} (hkeys : (s.labels.map Prod.fst).Nodup) {filter : List Label}
    (h : filter ⊆ s.labels) : s.meets filter = true := by
  rw [meets_eq_carries hkeys, Registry.carries, List.all_eq_true]
  exact fun label hlabel => List.contains_iff_mem.2 (h hlabel)

/-- What is found among some elements does not depend on their order, as long as all that could
be found have one value. -/
theorem map_find?_of_perm {β γ : Type} {l m : List β} (h : l.Perm m) (p : β → Bool) (value : β → γ)
    {x : β} (hx : x ∈ m) (hp : p x = true) (honly : ∀ y ∈ m, p y = true → value y = value x) :
    (l.find? p).map value = some (value x) := by
  obtain ⟨y, hy⟩ := Option.isSome_iff_exists.1 (List.find?_isSome.2 ⟨x, h.mem_iff.2 hx, hp⟩)
  rw [hy, Option.map_some, honly y (h.mem_iff.1 (List.mem_of_find?_eq_some hy))
    (List.find?_some hy)]

section Questions
variable {samples : List Sample} {id : SeriesId} {filter : List Label} {le : Float}

/-- A bucket is looked up by its bound. -/
theorem endsAt_bucketSample (hfresh : "le" ∉ id.labels.map Prod.fst) (row : String × Nat) :
    (((bucketSample id row).label? "le").bind fun text => Numeral.read? text.toList).any
      (fun n => n.toFloat == le) = endsAt le row.1 := by
  have hnone : (id.labels.map seenLabel).find? (fun label => label.1 = "le") = none := by
    rw [List.find?_eq_none]
    intro label hlabel hle
    obtain ⟨own, hown, rfl⟩ := List.mem_map.1 hlabel
    have hkey : own.1 = "le" := of_decide_eq_true hle
    exact hfresh (hkey ▸ List.mem_map_of_mem hown)
  have hlabel : (bucketSample id row).label? "le" = some row.1 := by
    simp [Sample.label?, labelValue?, bucketSample, hnone]
  rw [hlabel]
  rfl

variable {α : Type} [Measure α] {values : List α}

/-- A bucket is found by its own bound only. -/
theorem of_endsAt {row : String × Nat} (hrow : row ∈ bucketRows values)
    (hends : endsAt le row.1 = true) : (le = infinity ∧ row.2 = values.length) ∨
      ∃ bound ∈ lifetimeBounds, le = Float.ofNat bound ∧
        row.2 = values.countP fun value => Measure.within value bound := by
  rcases mem_bucketRows.1 hrow with ⟨bound, hb, rfl⟩ | rfl
  · exact .inr ⟨bound, hb, (endsAt_natToken hb _).1 hends, rfl⟩
  · exact .inl ⟨(endsAt_infinity _).1 hends, rfl⟩

/-- What is looked up as one number counts the same observations. -/
theorem count_eq_of_endsAt {row other : String × Nat} (hrow : row ∈ bucketRows values)
    (hother : other ∈ bucketRows values) (hends : endsAt le row.1 = true)
    (hends' : endsAt le other.1 = true) : other.2 = row.2 := by
  rcases of_endsAt hrow hends with ⟨rfl, hcount⟩ | ⟨a, ha, rfl, hcount⟩ <;>
    rcases of_endsAt hother hends' with ⟨hle, hcount'⟩ | ⟨b, hb, hle, hcount'⟩
  · rw [hcount, hcount']
  · exact absurd hle.symm (bounds_facts b hb).2.2
  · exact absurd hle (bounds_facts a ha).2.2
  · rw [hcount, hcount', ofNat_inj a ha b hb hle]

theorem bucket?_row (hfresh : "le" ∉ id.labels.map Prod.fst)
    (h : (Sample.matching samples (id.name ++ "_bucket") filter).Perm
      ((bucketRows values).map (bucketSample id))) {row : String × Nat}
    (hrow : row ∈ bucketRows values) (hends : endsAt le row.1 = true) :
    Sample.bucket? samples id.name le filter = some (.decimal false row.2 0) := by
  refine map_find?_of_perm h _ Sample.value (List.mem_map_of_mem hrow) ?_ ?_
  · rw [endsAt_bucketSample hfresh]
    exact hends
  · intro sample hsample hends'
    obtain ⟨other, hother, rfl⟩ := List.mem_map.1 hsample
    rw [endsAt_bucketSample hfresh] at hends'
    rw [bucketSample, bucketSample, count_eq_of_endsAt hrow hother hends hends']

theorem bucket?_elsewhere (hfresh : "le" ∉ id.labels.map Prod.fst)
    (h : (Sample.matching samples (id.name ++ "_bucket") filter).Perm
      ((bucketRows values).map (bucketSample id))) (hinf : le ≠ infinity)
    (hle : ∀ bound ∈ lifetimeBounds, le ≠ Float.ofNat bound) :
    Sample.bucket? samples id.name le filter = none := by
  rw [Sample.bucket?, Option.map_eq_none_iff, List.find?_eq_none]
  intro sample hsample hends
  obtain ⟨row, hrow, rfl⟩ := List.mem_map.1 (h.mem_iff.1 hsample)
  rw [endsAt_bucketSample hfresh] at hends
  rcases of_endsAt hrow hends with ⟨hlast, -⟩ | ⟨bound, hb, hbound, -⟩
  · exact hinf hlast
  · exact hle bound hb hbound

end Questions

/-! ### Pages with one histogram -/

section Lone
variable {α : Type} [Measure α]

/-- A recorder whose only histogram covers some observations, and whose other series cannot be
taken for a part of it. -/
structure Recorder.Lone (r : Recorder α) (id : SeriesId) (values : List α) : Prop where
  settled : ∃ d : Distribution α, d.Covers values ∧ r.settled = [(id, d)]
  keys : (id.labels.map Prod.fst ++ ["le"]).Nodup
  counters : ∀ other ∈ r.registry.counters.keys, ∀ head ∈ histogramHeads id, head.1 ≠ other.name
  gauges : ∀ other ∈ r.registry.gauges.keys, ∀ head ∈ histogramHeads id, head.1 ≠ other.name

/-- What samples answer to questions about a histogram with a filter. -/
structure AnswersHistogram (samples : List Sample) (name : String) (values : List α)
    (filter : List Label) : Prop where
  count : Sample.count? samples name filter = some (.decimal false values.length 0)
  bucket : ∀ bound ∈ lifetimeBounds, Sample.bucket? samples name (Float.ofNat bound) filter =
    some (.decimal false (values.countP fun value => Measure.within value bound) 0)
  last : Sample.bucket? samples name infinity filter = some (.decimal false values.length 0)
  elsewhere : ∀ le, le ≠ infinity → (∀ bound ∈ lifetimeBounds, le ≠ Float.ofNat bound) →
    Sample.bucket? samples name le filter = none

variable {r : Recorder α} {id : SeriesId} {values : List α}

/-- Lines of counters and gauges have no name of the histogram. -/
theorem Recorder.Lone.name_ne (h : r.Lone id values) {l : Line} (hl : l ∈ r.registry.lines)
    {head : String × List Label} (hhead : head ∈ histogramHeads id) : head.1 ≠ l.name := by
  rcases List.mem_append.1 hl with hl | hl
  · obtain ⟨entry, hentry, rfl⟩ := List.mem_map.1 hl
    exact h.counters _ (List.mem_map_of_mem hentry) head hhead
  · obtain ⟨entry, hentry, rfl⟩ := List.mem_map.1 hl
    exact h.gauges _ (List.mem_map_of_mem hentry) head hhead

theorem Recorder.Lone.fresh (h : r.Lone id values) : "le" ∉ id.labels.map Prod.fst := fun hle =>
  (List.nodup_append.1 h.keys).2.2 _ hle _ (List.mem_singleton_self _) rfl

/-- A filter of labels of the series is met by all samples of the histogram. -/
theorem meets_lone (h : r.Lone id values) {filter : List Label}
    (hfilter : filter ⊆ id.labels.map seenLabel) (name : String) (value : Numeral)
    (own : List Label) (hown : own.map Prod.fst ⊆ ["le"]) (hnodup : (own.map Prod.fst).Nodup) :
    Sample.meets ⟨name, id.labels.map seenLabel ++ own, value⟩ filter = true := by
  refine meets_of_subset ?_ fun label hlabel => List.mem_append_left _ (hfilter hlabel)
  have hkeys : (id.labels.map seenLabel).map Prod.fst = id.labels.map Prod.fst := by
    rw [List.map_map]
    rfl
  obtain ⟨hlabels, -, hapart⟩ := List.nodup_append.1 h.keys
  rw [List.map_append, hkeys, List.nodup_append]
  exact ⟨hlabels, hnodup, fun a ha b hb => hapart a ha b (hown hb)⟩

-- Lines of counters and gauges may be merged, so only some of them are among the samples.
variable {samples : List Sample} {scalars : List Line} (hk : ∀ l ∈ scalars, l ∈ r.registry.lines)
  (h : r.Lone id values) (hs : samples.Perm ((scalars ++ r.distributionLines).map Line.seen))
include hk h hs

/-- What goes by a name of the histogram is one of its samples. -/
theorem matching_lone {name : String} (hname : ∃ head ∈ histogramHeads id, head.1 = name) (filter : List Label) :
    ∃ sum, (Sample.matching samples name filter).Perm (((bucketRows values).map (bucketSample id) ++
      [⟨id.name ++ "_sum", id.labels.map seenLabel, sum⟩, countSample id values.length]).filter
        fun s => s.name = name && s.meets filter) := by
  obtain ⟨head, hhead, rfl⟩ := hname
  obtain ⟨d, hcovers, hsettled⟩ := h.settled
  obtain ⟨sum, hseen⟩ := seen_histogramLines id hcovers
  refine ⟨sum, (hs.filter _).trans (.of_eq ?_)⟩
  have hscalars : (scalars.map Line.seen).filter
      (fun s => s.name = head.1 && s.meets filter) = [] := by
    rw [List.filter_eq_nil_iff]
    intro s hs hfits
    obtain ⟨l, hl, rfl⟩ := List.mem_map.1 hs
    rw [Bool.and_eq_true, decide_eq_true_eq] at hfits
    exact h.name_ne (hk l hl) hhead hfits.1.symm
  rw [List.map_append, List.filter_append, hscalars, Recorder.distributionLines, hsettled,
    List.flatMap_singleton, hseen]
  rfl

theorem matching_buckets {filter : List Label} (hfilter : filter ⊆ id.labels.map seenLabel) :
    (Sample.matching samples (id.name ++ "_bucket") filter).Perm
      ((bucketRows values).map (bucketSample id)) := by
  have hname : ∃ head ∈ histogramHeads id, head.1 = id.name ++ "_bucket" :=
    ⟨(_, id.labels ++ [("le", "5")]), by simp [histogramHeads, shownBounds], rfl⟩
  obtain ⟨sum, hmatching⟩ := matching_lone hk h hs hname filter
  have hbuckets : ∀ s ∈ (bucketRows values).map (bucketSample id),
      (decide (s.name = id.name ++ "_bucket") && s.meets filter) = true := by
    intro s hs
    obtain ⟨row, -, rfl⟩ := List.mem_map.1 hs
    have hmeets := meets_lone h hfilter (id.name ++ "_bucket") (.decimal false row.2 0)
      [("le", row.1)] (List.Subset.refl _) (List.nodup_singleton _)
    rw [Bool.and_eq_true, decide_eq_true_eq]
    exact ⟨rfl, hmeets⟩
  rw [List.filter_append, List.filter_eq_self.2 hbuckets] at hmatching
  simpa [countSample] using hmatching

theorem matching_count {filter : List Label} (hfilter : filter ⊆ id.labels.map seenLabel) :
    Sample.matching samples (id.name ++ "_count") filter = [countSample id values.length] := by
  have hname : ∃ head ∈ histogramHeads id, head.1 = id.name ++ "_count" :=
    ⟨(_, id.labels), by simp [histogramHeads], rfl⟩
  obtain ⟨sum, hmatching⟩ := matching_lone hk h hs hname filter
  have hbuckets : ∀ s ∈ (bucketRows values).map (bucketSample id),
      ¬ (decide (s.name = id.name ++ "_count") && s.meets filter) = true := by
    intro s hs
    obtain ⟨row, -, rfl⟩ := List.mem_map.1 hs
    simp [bucketSample]
  have hmeets := meets_lone h hfilter (id.name ++ "_count") (.decimal false values.length 0)
    [] (List.nil_subset _) List.nodup_nil
  rw [List.append_nil] at hmeets
  rw [List.filter_append, List.filter_eq_nil_iff.2 hbuckets] at hmatching
  refine List.perm_singleton.1 (hmatching.trans (.of_eq ?_))
  simp [countSample, hmeets]

/-- **The samples of a page answer as its histogram was filled**, with any filter that its
series meets. -/
theorem answers_lone {filter : List Label} (hfilter : filter ⊆ id.labels.map seenLabel) :
    AnswersHistogram samples id.name values filter := by
  have hbuckets := matching_buckets hk h hs hfilter
  constructor
  case count =>
    rw [Sample.count?, Sample.value?, matching_count hk h hs hfilter]
    rfl
  case bucket =>
    intro bound hb
    exact bucket?_row h.fresh hbuckets (mem_bucketRows.2 (.inl ⟨bound, hb, rfl⟩))
      ((endsAt_natToken hb _).2 rfl)
  case last =>
    exact bucket?_row h.fresh hbuckets (mem_bucketRows.2 (.inr rfl)) ((endsAt_infinity _).2 rfl)
  case elsewhere => exact fun le hinf hle => bucket?_elsewhere h.fresh hbuckets hinf hle

end Lone

end Roomwatch
