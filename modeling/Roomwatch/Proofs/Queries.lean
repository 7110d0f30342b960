import Mathlib
import Roomwatch.Proofs.Agreement
import Roomwatch.Proofs.Fidelity

/-! Two ways to ask for a number.

The samples of a page and a captured registry are asked differently. A filter looks at the
first label of a key on a sample and at any label of a series, and a lookup takes the first
sample that has all labels it was given, but only the series with just those labels in that
order. They agree all the same (`answers_agree`). No series of a reporter has a key twice
(`Outlet.nodup_keys`), so first labels are as good as any; the series of one metric have the
same keys (`Outlet.keys_eq`), so one that has all labels of another is the same; and no
sample of a histogram goes by the name of a counter or a gauge. -/
namespace Roomwatch

open Exposition
open Number (Numeral Stands stands_foldl whole wholeBound)

/-! ### Labels -/

section Labels
variable {labels filter : List Label}

/-- The only label of a key is the first one. -/
theorem labelValue?_eq_some_iff (h : (labels.map Prod.fst).Nodup) (key value : String) :
    labelValue? labels key = some value ↔ (key, value) ∈ labels := by
  induction labels with
  | nil => simp [labelValue?]
  | cons label rest ih =>
    obtain ⟨first, text⟩ := label
    rw [List.map_cons, List.nodup_cons] at h
    have hrest := ih h.2
    unfold labelValue? at hrest ⊢
    by_cases hkey : first = key
    · subst hkey
      have hfresh : (first, value) ∉ rest := fun hm => h.1 (List.mem_map.2 ⟨_, hm, rfl⟩)
      simp [hfresh, eq_comm]
    · simp [hkey, Ne.symm hkey, hrest]

theorem meets_eq_carries {s : Sample} (h : (s.labels.map Prod.fst).Nodup) (filter : List Label) :
    s.meets filter = Registry.carries s.labels filter := by
  unfold Sample.meets Registry.carries
  congr 1
  funext label
  rw [Bool.eq_iff_iff, decide_eq_true_eq, List.contains_iff_mem, Sample.label?,
    labelValue?_eq_some_iff h]

/-- Labels with the same keys that are all there are the same. -/
theorem eq_of_carries (hkeys : labels.map Prod.fst = filter.map Prod.fst)
    (h : (labels.map Prod.fst).Nodup) (hall : Registry.carries labels filter = true) :
    labels = filter := by
  have hmem : ∀ label ∈ filter, label ∈ labels := by
    simpa [Registry.carries] using hall
  clear hall
  induction labels generalizing filter with
  | nil => exact (List.map_eq_nil_iff.1 hkeys.symm).symm
  | cons label rest ih =>
    obtain ⟨other, others, rfl, hkey, hothers⟩ := List.map_eq_cons_iff.1 hkeys.symm
    rw [List.map_cons, List.nodup_cons] at h
    rw [List.forall_mem_cons] at hmem
    have hfirst : other = label := by
      refine (List.mem_cons.1 hmem.1).resolve_right fun hm => h.1 ?_
      rw [← hkey]
      exact List.mem_map_of_mem hm
    have hrest : rest = others := by
      refine ih hothers.symm h.2 fun l hl => (List.mem_cons.1 (hmem.2 l hl)).resolve_left ?_
      rintro rfl
      refine h.1 ?_
      rw [← hothers]
      exact List.mem_map_of_mem hl
    rw [hfirst, hrest]

theorem carries_self (labels : List Label) : Registry.carries labels labels = true := by
  simp [Registry.carries]

end Labels

/-- No series has a key twice. -/
theorem Outlet.nodup_keys (s : Settings) (o : Outlet) :
    ((o.id s).labels.map Prod.fst).Nodup := by
  cases o <;> simp [Outlet.id, Settings.identity, Outlet.labels]

/-- The series of a metric have the same keys. -/
theorem Outlet.keys_eq (s : Settings) {a b : Outlet} (h : a.metric = b.metric) :
    (a.id s).labels.map Prod.fst = (b.id s).labels.map Prod.fst := by
  cases a <;> cases b <;> simp_all [Outlet.id, Outlet.metric, Outlet.labels]

/-- No sample of a histogram of lifetimes goes by the name of a metric. -/
theorem Metric.name_ne_head (s : Settings) (m : Metric) :
    ∀ head ∈ histogramHeads (Outlet.lifetimes.id s), head.1 ≠ m.name s := by
  have hending : ∀ suffix ∈ ["_bucket", "_sum", "_count"],
      m.ending ≠ Metric.lifetimes.ending ++ suffix := by
    cases m <;> decide
  have hsuffix (suffix : String) (h : suffix ∈ ["_bucket", "_sum", "_count"]) :
      (Outlet.lifetimes.id s).name ++ suffix ≠ m.name s := by
    show Metric.lifetimes.name s ++ suffix ≠ m.name s
    rw [Metric.name_eq_append, Metric.name_eq_append, String.append_assoc]
    intro he
    have hlist := congrArg String.toList he
    rw [String.toList_append, String.toList_append (s := s.scope)] at hlist
    exact hending suffix h (String.toList_inj.1 (List.append_cancel_left hlist)).symm
  intro head hhead
  rw [histogramHeads, List.mem_append, List.mem_map] at hhead
  rcases hhead with ⟨bound, -, rfl⟩ | hhead
  · exact hsuffix "_bucket" (by decide)
  · simp only [List.mem_cons, List.not_mem_nil, or_false] at hhead
    rcases hhead with rfl | rfl
    · exact hsuffix "_sum" (by decide)
    · exact hsuffix "_count" (by decide)

/-! ### Samples of a reporter -/

/-- A recorder with nothing but series of one reporter, each of them once. -/
structure Recorder.Reports (r : Recorder Float) (s : Settings) : Prop where
  outlets : ∀ shape, ∀ id ∈ r.registry.keys shape, ∃ o : Outlet, o.shape = shape ∧ o.id s = id
  distinct : ∀ shape, (r.registry.keys shape).Nodup
  lifetimes : r.settled.keys = [Outlet.lifetimes.id s]

section Samples
variable {s : Settings} {r : Recorder Float} {samples : List Sample}

/-- The coefficient of a numeral, without its sign and its exponent. -/
def Number.Numeral.coefficient : Numeral → Nat
  | .decimal _ coefficient _ => coefficient
  | _ => 0

/-- The sample of a counter. -/
def counterSample (entry : SeriesId × UInt64) : Sample :=
  ⟨entry.1.name, entry.1.labels, .decimal false entry.2.toNat 0⟩

theorem toFloat_counterSample (entry : SeriesId × UInt64) (h : entry.2.toNat ≤ wholeBound) :
    (counterSample entry).value.toFloat = whole entry.2.toNat := by
  have hwhole := Number.toFloat_whole (n := (entry.2.toNat : Int)) (by omega)
  rwa [decide_eq_false (by omega)] at hwhole

/-- The samples by the name of a metric are those of its counters and of its gauges. -/
theorem mem_named (h : r.Reports s) (hs : r.Shows samples) {m : Metric} {sample : Sample}
    (hmem : sample ∈ samples) (hname : sample.name = m.name s) :
    (∃ entry ∈ r.registry.counters, sample = counterSample entry) ∨
      ∃ entry ∈ r.registry.gauges, sample.name = entry.1.name ∧ sample.labels = entry.1.labels ∧
        sample.value.toFloat = entry.2 := by
  obtain ⟨gauges, histograms, hperm, hgauges, hheads⟩ := hs.split
  rcases List.mem_append.1 (hperm.mem_iff.1 hmem) with hc | hrest
  · obtain ⟨entry, hentry, rfl⟩ := List.mem_map.1 hc
    exact .inl ⟨entry, hentry, rfl⟩
  · rcases List.mem_append.1 hrest with hg | hh
    · exact .inr ((mem_of_forall₂ hgauges).2 sample hg)
    · have hhead : (sample.name, sample.labels) ∈ histogramHeads (Outlet.lifetimes.id s) := by
        have := List.mem_map_of_mem (f := fun s => (s.name, s.labels)) hh
        rwa [hheads, h.lifetimes, List.flatMap_singleton] at this
      exact absurd hname (m.name_ne_head s _ hhead)

/-- The name of a series tells its shape. -/
theorem shape_of_name (h : r.Reports s) {m : Metric} {shape : Shape} {id : SeriesId}
    (hid : id ∈ r.registry.keys shape) (hname : id.name = m.name s) : shape = m.shape := by
  obtain ⟨o, rfl, rfl⟩ := h.outlets shape id hid
  exact congrArg Metric.shape ((Metric.name_inj s o.metric m).1 hname)

theorem nodup_labels (h : r.Reports s) {shape : Shape} {id : SeriesId}
    (hid : id ∈ r.registry.keys shape) : (id.labels.map Prod.fst).Nodup := by
  obtain ⟨o, -, rfl⟩ := h.outlets shape id hid
  exact o.nodup_keys s

/-- A series with the name and with all labels of another one is that one. -/
theorem eq_of_meets (h : r.Reports s) {shape other : Shape} {id j : SeriesId}
    (hid : id ∈ r.registry.keys shape) (hj : j ∈ r.registry.keys other) (hname : j.name = id.name)
    (hall : Registry.carries j.labels id.labels = true) : j = id ∧ other = shape := by
  obtain ⟨o, rfl, rfl⟩ := h.outlets shape id hid
  obtain ⟨p, rfl, rfl⟩ := h.outlets other j hj
  have hmetric : p.metric = o.metric := (Metric.name_inj s p.metric o.metric).1 hname
  have hlabels := eq_of_carries (Outlet.keys_eq s hmetric) (p.nodup_keys s) hall
  exact ⟨SeriesId.mk.injEq .. ▸ ⟨hname, hlabels⟩, congrArg Metric.shape hmetric⟩

/-- What fits a counter's name and a filter among the samples are the counters that fit. -/
theorem matching_perm (h : r.Reports s) (hs : r.Shows samples) {m : Metric}
    (hm : m.shape = .counter) (filter : List Label) :
    (Sample.matching samples (m.name s) filter).Perm ((r.registry.counters.filter fun entry =>
      entry.1.name = m.name s && Registry.carries entry.1.labels filter).map counterSample) := by
  obtain ⟨gauges, histograms, hperm, hgauges, hheads⟩ := hs.split
  have hg : (gauges.filter fun s' => s'.name = m.name s && s'.meets filter) = [] := by
    rw [List.filter_eq_nil_iff]
    intro sample hsample hfits
    obtain ⟨entry, hentry, hname, -⟩ := (mem_of_forall₂ hgauges).2 sample hsample
    rw [Bool.and_eq_true, decide_eq_true_eq] at hfits
    have hkey : entry.1 ∈ r.registry.keys .gauge := List.mem_map_of_mem hentry
    have hshape := shape_of_name h hkey (hname.symm.trans hfits.1)
    rw [hm] at hshape
    contradiction
  have hh : (histograms.filter fun s' => s'.name = m.name s && s'.meets filter) = [] := by
    rw [List.filter_eq_nil_iff]
    intro sample hsample hfits
    rw [Bool.and_eq_true, decide_eq_true_eq] at hfits
    have hhead := List.mem_map_of_mem (f := fun s => (s.name, s.labels)) hsample
    rw [hheads, h.lifetimes, List.flatMap_singleton] at hhead
    exact m.name_ne_head s _ hhead hfits.1
  refine (hperm.filter _).trans ?_
  rw [List.filter_append, List.filter_append, hg, hh, List.append_nil, List.append_nil,
    List.filter_map]
  refine .of_eq (congrArg (List.map counterSample) (List.filter_congr fun entry hentry => ?_))
  have hkey : entry.1 ∈ r.registry.keys .counter := List.mem_map_of_mem hentry
  have hlabels := nodup_labels h hkey
  exact congrArg _ (meets_eq_carries (s := counterSample entry) hlabels filter)

/-- Samples and series add up to the same number. -/
theorem stands_sum (h : r.Reports s) (hs : r.Shows samples) {m : Metric}
    (hm : m.shape = .counter) (filter : List Label)
    (hfew : r.registry.counterTotal (m.name s) filter ≤ wholeBound) :
    Stands (Sample.sum samples (m.name s) filter)
      (r.registry.counterSum (m.name s) filter).toNat := by
  have hperm := matching_perm h hs hm filter
  have htotal : ((Sample.matching samples (m.name s) filter).map fun x => x.value.coefficient).sum =
      r.registry.counterTotal (m.name s) filter := by
    rw [(hperm.map _).sum_eq, List.map_map]
    rfl
  have hvalue : ∀ x ∈ Sample.matching samples (m.name s) filter,
      x.value.toFloat = whole x.value.coefficient := by
    intro x hx
    obtain ⟨entry, hentry, rfl⟩ := List.mem_map.1 (hperm.mem_iff.1 hx)
    refine toFloat_counterSample entry ?_
    have hle := List.le_sum_of_mem
      (List.mem_map_of_mem (f := fun x : Sample => x.value.coefficient) hx)
    rw [htotal] at hle
    exact hle.trans hfew
  have hfits : r.registry.counterTotal (m.name s) filter < 2 ^ 64 := by
    unfold wholeBound at hfew
    omega
  rw [Registry.toNat_counterSum _ _ _ hfits, Sample.sum, ← htotal]
  rw [← htotal] at hfew
  exact stands_foldl (fun x : Sample => x.value.toFloat) (fun x => x.value.coefficient) _
    hvalue hfew

/-- What fits the name and the labels of a series shows that series. -/
theorem shows_of_matching (h : r.Reports s) (hs : r.Shows samples) {shape : Shape} {id : SeriesId}
    (hid : id ∈ r.registry.keys shape) {sample : Sample}
    (hfits : sample ∈ Sample.matching samples id.name id.labels) :
    (shape = .counter ∧ ∃ v, (id, v) ∈ r.registry.counters ∧ sample = counterSample (id, v)) ∨
      shape = .gauge ∧ ∃ x, (id, x) ∈ r.registry.gauges ∧ sample.value.toFloat = x := by
  obtain ⟨hmem, hfits⟩ := List.mem_filter.1 hfits
  rw [Bool.and_eq_true, decide_eq_true_eq] at hfits
  obtain ⟨hname, hmeets⟩ := hfits
  have hsame {other : Shape} {j : SeriesId} (hj : j ∈ r.registry.keys other)
      (hjname : sample.name = j.name) (hlabels : sample.labels = j.labels) :
      j = id ∧ other = shape := by
    refine eq_of_meets h hid hj (hjname.symm.trans hname) ?_
    rw [← hlabels, ← meets_eq_carries (hlabels ▸ nodup_labels h hj)]
    exact hmeets
  obtain ⟨o, -, rfl⟩ := h.outlets shape id hid
  rcases mem_named h hs hmem hname with
    ⟨⟨j, v⟩, hentry, rfl⟩ | ⟨⟨j, x⟩, hentry, hjname, hlabels, hvalue⟩
  · have hkey : j ∈ r.registry.keys .counter := List.mem_map_of_mem hentry
    obtain ⟨rfl, rfl⟩ := hsame hkey rfl rfl
    exact .inl ⟨rfl, v, hentry, rfl⟩
  · have hkey : j ∈ r.registry.keys .gauge := List.mem_map_of_mem hentry
    obtain ⟨rfl, rfl⟩ := hsame hkey hjname hlabels
    exact .inr ⟨rfl, x, hentry, hvalue⟩

/-- Where a sample of a series is there and all that fit say the same, so does a lookup. -/
theorem value?_eq (h : r.Reports s) {shape : Shape} {id : SeriesId}
    (hid : id ∈ r.registry.keys shape) {sample : Sample} (hmem : sample ∈ samples)
    (hname : sample.name = id.name) (hlabels : sample.labels = id.labels) {x : Float}
    (hall : ∀ other ∈ Sample.matching samples id.name id.labels, other.value.toFloat = x) :
    (Sample.value? samples id.name id.labels).map Numeral.toFloat = some x := by
  have hfits : sample ∈ Sample.matching samples id.name id.labels := by
    have hmeets := meets_eq_carries (s := sample) (hlabels ▸ nodup_labels h hid) id.labels
    rw [hlabels, carries_self] at hmeets
    exact List.mem_filter.2 ⟨hmem, by rw [hname, hmeets]; simp⟩
  obtain ⟨first, rest, hcons⟩ := List.exists_cons_of_ne_nil (List.ne_nil_of_mem hfits)
  rw [Sample.value?, hcons]
  exact congrArg some (hall first (hcons ▸ List.mem_cons_self))

theorem value?_counter (h : r.Reports s) (hs : r.Shows samples) {id : SeriesId} {v : UInt64}
    (hv : (id, v) ∈ r.registry.counters) (hfew : v.toNat ≤ wholeBound) :
    (Sample.value? samples id.name id.labels).map Numeral.toFloat = some (whole v.toNat) := by
  have hid : id ∈ r.registry.keys .counter := List.mem_map_of_mem hv
  obtain ⟨gauges, histograms, hperm, -⟩ := hs.split
  have hmem : counterSample (id, v) ∈ samples :=
    hperm.mem_iff.2 (List.mem_append_left _ (List.mem_map_of_mem hv))
  refine value?_eq h hid hmem rfl rfl fun other hother => ?_
  rcases shows_of_matching h hs hid hother with ⟨-, w, hw, rfl⟩ | ⟨hshape, -⟩
  · have hsame := List.inj_on_of_nodup_map (h.distinct .counter) hw hv rfl
    rw [hsame]
    exact toFloat_counterSample (id, v) hfew
  · contradiction

theorem value?_gauge (h : r.Reports s) (hs : r.Shows samples) {id : SeriesId} {x : Float}
    (hx : (id, x) ∈ r.registry.gauges) :
    (Sample.value? samples id.name id.labels).map Numeral.toFloat = some x := by
  have hid : id ∈ r.registry.keys .gauge := List.mem_map_of_mem hx
  obtain ⟨gauges, histograms, hperm, hgauges, -⟩ := hs.split
  obtain ⟨sample, hsample, hname, hlabels, -⟩ := (mem_of_forall₂ hgauges).1 _ hx
  have hmem : sample ∈ samples :=
    hperm.mem_iff.2 (List.mem_append_right _ (List.mem_append_left _ hsample))
  refine value?_eq h hid hmem hname hlabels fun other hother => ?_
  rcases shows_of_matching h hs hid hother with ⟨hshape, -⟩ | ⟨-, y, hy, hvalue⟩
  · contradiction
  · have hsame := List.inj_on_of_nodup_map (h.distinct .gauge) hy hx rfl
    rw [hvalue, (Prod.mk.inj hsame).2]

end Samples

/-! ### Questions -/

/-- Samples and a captured registry give the same answers about a reporter. -/
structure SameAnswers (s : Settings) (samples : List Sample) (captured : Registry Float) :
    Prop where
  sum : ∀ m : Metric, m.shape = .counter → ∀ filter,
    captured.counterTotal (m.name s) filter ≤ wholeBound →
      Stands (Sample.sum samples (m.name s) filter)
        (captured.counterSum (m.name s) filter).toNat
  counter : ∀ name labels v, captured.counter? ⟨name, labels⟩ = some v →
    v.toNat ≤ wholeBound →
      (Sample.value? samples name labels).map Numeral.toFloat = some (whole v.toNat)
  gauge : ∀ name labels v, captured.gauge? ⟨name, labels⟩ = some v →
    (Sample.value? samples name labels).map Numeral.toFloat = some v

/-- The recorder of a reporter, drained, has nothing but its series. -/
theorem reports_drain (keeps : Outlet → Bool) (s : Settings) (exposed : Bool)
    (calls : List Call) :
    ((Desk.opened keeps s exposed ({} : Recorder Float)).serve keeps calls).recorder.drain.Reports
      s := by
  have halike := Desk.alike_booked (α := Float) keeps s exposed calls
  have hdrained := (Registry.alike_emptied _).trans halike
  constructor
  case outlets =>
    intro shape id hid
    change id ∈ Registry.keys (Registry.emptied _) shape at hid
    rw [hdrained.keys, mem_keys_booked, booked_iff] at hid
    obtain ⟨o, -, ho⟩ := hid
    exact ⟨o, ho⟩
  case distinct =>
    intro shape
    have hnodup := nodup_keys_booked (α := Float) s (events calls) shape
    rw [← hdrained.keys] at hnodup
    exact hnodup
  case lifetimes =>
    rw [keys_settled_drain, halike.histograms, Outlet.id_eq_series]
    exact keys_histogram_booked s (events calls)

theorem CleanTexts.of_same {s : Settings} {h k : History} (hc : CleanTexts s h)
    (hsame : h.map Prod.snd = k.map Prod.snd) : CleanTexts s k := by
  refine ⟨hc.node, hc.environment, fun timed htimed text htext => ?_⟩
  have hmem := List.mem_map_of_mem (f := Prod.snd) htimed
  rw [← hsame] at hmem
  obtain ⟨first, hfirst, hevent⟩ := List.mem_map.1 hmem
  exact hc.told first hfirst text (hevent ▸ htext)

/-- **A page and a capture give the same answers.** Take two reporters with the same settings
that are told of the same events, whatever their clocks show and however often one of them is
drained: the samples of the page of one, in whatever order it is listed, and the captured
registry of the other agree on every question. -/
theorem answers_agree (keeps other : Outlet → Bool) (s : Settings) (calls : List Call)
    (h : History) (hs : s.check = .ok ()) (hc : CleanTexts s h)
    (hsame : (events calls).map Prod.snd = h.map Prod.snd) (text : String)
    (ht : ((Desk.opened keeps s true ({} : Recorder Float)).serve keeps
      calls).recorder.expose.1.Lists text) :
    ∃ samples, read text = .ok samples ∧
      SameAnswers s samples
        ((Desk.opened other s false ({} : Recorder Float)).run other h).recorder.capture.1 := by
  obtain ⟨samples, hread, hshows⟩ := Recorder.shows_listing
    (presentable_serve keeps true hs (hc.of_same hsame.symm)) ht
  have hreports := reports_drain keeps s true calls
  have halike := (Registry.alike_emptied _).trans
    ((Desk.alike_booked (α := Float) keeps s true calls).trans (Desk.alike_booked_of_same s hsame))
  obtain ⟨-, hcaptured⟩ := Desk.registry_life other s false ({} : Recorder Float) h
  refine ⟨samples, hread, ?_⟩
  rw [show Prod.fst (Recorder.capture _) = Desk.booked Float s h from hcaptured]
  constructor
  case sum =>
    intro m hm filter hfew
    rw [Registry.counterTotal, Registry.summed, ← halike.counters] at hfew
    rw [Registry.counterSum, ← halike.counters]
    exact stands_sum hreports hshows hm filter hfew
  case counter =>
    intro name labels v hv hfew
    have hmem := Shelf.mem_of_get? hv
    rw [← halike.counters] at hmem
    exact value?_counter hreports hshows hmem hfew
  case gauge =>
    intro name labels v hv
    have hmem := Shelf.mem_of_get? hv
    rw [← halike.gauges] at hmem
    exact value?_gauge hreports hshows hmem

/-- A page that lists its families from last to first, and a filter that asks twice for one
label. -/
theorem answers_agree_reversed :
    let s : Settings := ⟨"a \"b\"", .media, "x\ny", "sfu_1"⟩
    let calls : List Call := [.event ⟨0⟩ (.subscribeFailed "\"\n" true), .drain,
      .event ⟨5⟩ (.trackPublished "audio"), .event ⟨7⟩ (.subscribeRefused .timeout)]
    let h : History := [(⟨3⟩, .subscribeFailed "\"\n" true), (⟨3⟩, .trackPublished "audio"),
      (⟨9⟩, .subscribeRefused .timeout)]
    let page := ((Desk.opened Outlet.isKept s true ({} : Recorder Float)).serve Outlet.isKept
      calls).recorder.expose.1
    let text := listing (page.families.map Family.texts).reverse
    let captured := ((Desk.opened Outlet.isFixed s false ({} : Recorder Float)).run Outlet.isFixed
      h).recorder.capture.1
    let filter : List Label := [("state", "failure"), ("node_type", "MEDIA"), ("state", "failure")]
    s.check = .ok () ∧ CleanTexts s h ∧ (events calls).map Prod.snd = h.map Prod.snd ∧
      page.Lists text ∧ captured.counterTotal (Metric.subscribing.name s) filter = 2 ∧
      ∃ samples, read text = .ok samples ∧ SameAnswers s samples captured ∧
        Stands (Sample.sum samples (Metric.subscribing.name s) filter) 2 := by
  intro s calls h page text captured filter
  have hs : s.check = .ok () := by decide
  have hc : CleanTexts s h := by
    refine ⟨by simp [s, Clean], by simp [s, Clean], ?_⟩
    simp [h, Event.text?, Clean]
  have ht : page.Lists text := Page.lists_of_perm (List.reverse_perm _)
  have htotal : captured.counterTotal (Metric.subscribing.name s) filter = 2 := by decide +kernel
  obtain ⟨samples, hread, hanswer⟩ :=
    answers_agree Outlet.isKept Outlet.isFixed s calls h hs hc rfl text ht
  have hsum := hanswer.sum .subscribing rfl filter (by rw [htotal]; decide)
  rw [Registry.toNat_counterSum _ _ _ (by rw [htotal]; decide), htotal] at hsum
  exact ⟨hs, hc, rfl, ht, htotal, samples, hread, hanswer, hsum⟩

end Roomwatch
