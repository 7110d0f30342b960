import Mathlib
import Roomwatch.Exposition.Page
import Roomwatch.Proofs.Accounts
import Roomwatch.Proofs.Drains
import Roomwatch.Proofs.Requests

/-! Observations on their way to a page.

An observation waits in its histogram until a drain adds it, with all others that wait, to
the distribution that a page shows. What was drained and what waits make up all that was
observed, in order, wherever the drains are (`Recorder.Holds`, `Desk.holds_serve`): no
observation is lost and none counted twice. So the page of a reporter is that of its
events and of a distribution of all their lifetimes (`Desk.page_drained`). Drains decide
only how the sum is put together, which makes no difference to an exact one
(`Gathered.exact`). -/
namespace Roomwatch

open Number (Measure Exact)

/-- A lookup after a change of all values that may depend on their keys. -/
theorem Shelf.get?_map {κ β γ : Type} [DecidableEq κ] (f : κ → β → γ) (s : Shelf κ β) (k : κ) :
    Shelf.get? (s.map fun entry => (entry.1, f entry.1 entry.2)) k = (s.get? k).map (f k) := by
  induction s with
  | nil => rfl
  | cons entry rest ih =>
    obtain ⟨j, v⟩ := entry
    simp only [List.map_cons, get?]
    split
    · next hj => rw [hj]; rfl
    · exact ih

/-! ### Distributions -/

namespace Distribution
variable {α : Type} [Measure α]

/-- A distribution that some observations were added to, batch after batch. -/
inductive Gathered : Distribution α → List α → Prop
  | empty : Gathered empty []
  | batch {d : Distribution α} {values : List α} (more : List α) : Gathered d values →
    Gathered (d.addBatch more) (values ++ more)

/-- A distribution of some observations, whatever it says of their sum. -/
structure Covers (d : Distribution α) (values : List α) : Prop where
  within : d.within = tallyWithin values
  count : d.count = values.length

theorem tallyWithin_append (a b : List α) :
    tallyWithin (a ++ b) = List.zipWith (· + ·) (tallyWithin a) (tallyWithin b) := by
  simp [tallyWithin, List.zipWith_map, List.zipWith_self]

theorem Covers.addBatch {d : Distribution α} {values : List α} (h : d.Covers values)
    (more : List α) : (d.addBatch more).Covers (values ++ more) := by
  refine ⟨?_, ?_⟩
  · rw [Distribution.addBatch, h.within, tallyWithin_append]
  · rw [Distribution.addBatch, h.count, List.length_append]

theorem Gathered.covers {d : Distribution α} {values : List α} (h : d.Gathered values) :
    d.Covers values := by
  induction h with
  | empty => exact ⟨by simp [tallyWithin, Distribution.empty], rfl⟩
  | batch more _ ih => exact ih.addBatch more

theorem Covers.addBatch_nil {d : Distribution α} {values : List α} (h : d.Covers values)
    (hsum : Measure.add d.sum Measure.zero = d.sum) : d.addBatch [] = d := by
  obtain ⟨within, count, sum⟩ := d
  have hnil := h.addBatch []
  rw [List.append_nil] at hnil
  rw [mk.injEq]
  exact ⟨hnil.within.trans h.within.symm, rfl, hsum⟩

/-- Exact sums are those of all observations. -/
theorem Gathered.sum_exact {d : Distribution Exact} {values : List Exact} (h : d.Gathered values) :
    d.sum = ⟨(values.map Exact.billionths).sum⟩ := by
  have hbatch (x : Exact) (more : List Exact) : more.foldl (fun a b => Measure.add a b) x =
      ⟨x.billionths + (more.map Exact.billionths).sum⟩ := by
    induction more generalizing x with
    | nil => simp
    | cons v rest ih =>
      rw [List.foldl_cons, ih, List.map_cons, List.sum_cons, ← add_assoc]
      rfl
  induction h with
  | empty => rfl
  | batch more _ ih =>
    rw [Distribution.addBatch, ih, hbatch, List.map_append, List.sum_append]
    show Exact.mk (_ + (0 + _)) = _
    rw [zero_add]

/-- The distribution of some lifetimes, their sum exact. -/
def ofLifetimes (nanos : List Nat) : Distribution Exact where
  within := tallyWithin (nanos.map Measure.ofNanos : List Exact)
  count := nanos.length
  sum := ⟨nanos.sum⟩

theorem Gathered.exact {d : Distribution Exact} {nanos : List Nat}
    (h : d.Gathered (nanos.map Measure.ofNanos)) : d = ofLifetimes nanos := by
  obtain ⟨within, count, sum⟩ := d
  have hcount := h.covers.count
  have hsum := h.sum_exact
  rw [List.length_map] at hcount
  rw [List.map_map] at hsum
  rw [ofLifetimes, mk.injEq]
  refine ⟨h.covers.within, hcount, hsum.trans ?_⟩
  rw [Exact.mk.injEq, Nat.cast_list_sum]
  rfl

/-- A drain that finds nothing adds nothing to an exact sum. -/
theorem Gathered.addBatch_nil {d : Distribution Exact} {values : List Exact}
    (h : d.Gathered values) : d.addBatch [] = d := by
  refine h.covers.addBatch_nil ?_
  show Exact.mk (d.sum.billionths + 0) = d.sum
  rw [add_zero]

end Distribution

/-! ### What a recorder holds -/

namespace Recorder
variable {α : Type} [Measure α]

/-- What was drained from a histogram and what waits in it, oldest first. -/
structure Holds (r : Recorder α) (id : SeriesId) (values : List α) : Prop where
  known : id ∈ r.registry.keys .histogram
  all : ∃ drained, ((r.settled.get? id).getD Distribution.empty).Gathered drained ∧
    drained ++ r.registry.waiting id = values

theorem waiting_drain (r : Recorder α) (id : SeriesId) : r.drain.registry.waiting id = [] := by
  have hget := Shelf.get?_map (fun _ _ => ([] : List α)) r.registry.histograms id
  show (Shelf.get? (r.registry.histograms.map _) id).getD [] = []
  rw [hget]
  cases r.registry.histograms.get? id <;> rfl

theorem Holds.drain {r : Recorder α} {id : SeriesId} {values : List α} (h : r.Holds id values) :
    r.drain.Holds id values := by
  obtain ⟨drained, hgathered, hall⟩ := h.all
  have hwaiting := Registry.waiting?_of_mem h.known
  have hsettled : r.drain.settled.get? id = some (r.drained id (r.registry.waiting id)) := by
    rw [Recorder.drain, Shelf.get?_map r.drained]
    exact congrArg _ hwaiting
  constructor
  case known => exact (r.registry.keys_emptied .histogram).symm ▸ h.known
  case all =>
    refine ⟨drained ++ r.registry.waiting id, ?_, ?_⟩
    · rw [hsettled]
      exact hgathered.batch _
    · rw [waiting_drain, List.append_nil, hall]

/-- A recorder with one histogram shows one distribution, which a further drain adds nothing to. -/
theorem settled_drain {r : Recorder α} {id : SeriesId} {values : List α} (h : r.Holds id values)
    (hkeys : r.registry.histograms.keys = [id]) :
    ∃ d : Distribution α, d.Gathered values ∧ r.drain.settled = [(id, d)] ∧
      r.drain.drain.settled = [(id, d.addBatch [])] := by
  obtain ⟨drained, hgathered, hall⟩ := h.drain.all
  rw [waiting_drain, List.append_nil] at hall
  obtain ⟨waiting, hhistograms⟩ : ∃ waiting, r.registry.histograms = [(id, waiting)] := by
    obtain ⟨⟨j, waiting⟩, hsingle, rfl⟩ := List.map_eq_singleton_iff.1 hkeys
    exact ⟨waiting, hsingle⟩
  have hfirst : r.drain.settled = [(id, r.drained id waiting)] := by
    simp [Recorder.drain, hhistograms]
  have hwaiting : r.drain.registry.histograms = [(id, [])] := by
    simp [Recorder.drain, Registry.emptied, hhistograms]
  rw [hfirst] at hgathered
  refine ⟨r.drained id waiting, ?_, hfirst, ?_⟩
  · rw [← hall]
    simpa [Shelf.get?] using hgathered
  · rw [Recorder.drain, hwaiting]
    simp [Recorder.drained, hfirst, Shelf.get?]

/-- A page is made of descriptions, counters, gauges and drained observations. -/
theorem page_eq {r : Recorder α} {registry : Registry α}
    {descriptions : Shelf (Shape × String) Description} {settled : Shelf SeriesId (Distribution α)}
    (hd : r.descriptions = descriptions) (hr : r.registry.Alike registry)
    (hs : r.settled = settled) : r.page = Recorder.page { registry, descriptions, settled } := by
  rw [page, page, hd, hr.counters, hr.gauges, hs]

end Recorder

/-! ### What a reporter leaves to its page -/

namespace Desk
variable {α : Type}

/-- Describing metrics drains nothing. -/
theorem settled_described (s : Settings) :
    (described s ({} : Recorder α)).recorder.settled = [] := by
  have (metrics : List Metric) (r : Recorder α) :
      (metrics.foldl (fun r m => r.describe m.shape (m.name s) m.description) r).settled =
        r.settled := by
    induction metrics generalizing r with
    | nil => rfl
    | cons m rest ih => exact ih _
  exact this Metric.all {}

variable [Measure α] (keeps : Outlet → Bool)

/-- A desk whose recorder knows the fixed outlets. -/
structure Ready (d : Desk α) : Prop extends d.Sound where
  fixed : ∀ o ∈ Outlet.fixed, o.id d.settings ∈ d.recorder.registry.keys o.shape

theorem Ready.drain {d : Desk α} (h : d.Ready) :
    Ready { d with recorder := d.recorder.drain } :=
  ⟨h.toSound.drain, fun o ho =>
    (d.recorder.registry.keys_emptied o.shape).symm ▸ h.fixed o ho⟩

theorem Ready.perform {d : Desk α} (h : d.Ready) (now : Instant) (e : Event) :
    (d.perform keeps now e).Ready := by
  obtain ⟨hsound, hregistry⟩ := registry_applyAll keeps h.toSound (e.updates now)
  refine ⟨hsound, fun o ho => ?_⟩
  rw [Desk.perform, hregistry, settings_applyAll, Registry.mem_keys_actAll]
  exact .inl (h.fixed o ho)

/-- An event adds the lifetime that it observes to what waits. -/
theorem holds_perform {d : Desk α} (h : d.Ready) {values : List α}
    (hd : d.recorder.Holds (Outlet.lifetimes.id d.settings) values) (now : Instant) (e : Event) :
    (d.perform keeps now e).recorder.Holds (Outlet.lifetimes.id d.settings)
      (values ++ (e.lifetime? now).toList.map Measure.ofNanos) := by
  obtain ⟨drained, hgathered, hall⟩ := hd.all
  obtain ⟨-, hregistry⟩ := registry_applyAll keeps h.toSound (e.updates now)
  have hsettled : (d.perform keeps now e).recorder.settled = d.recorder.settled := by
    rw [perform, recorder_applyAll]
  have hwaiting :
      (d.perform keeps now e).recorder.registry.waiting (Outlet.lifetimes.id d.settings) =
      d.recorder.registry.waiting (Outlet.lifetimes.id d.settings) ++
        (e.lifetime? now).toList.map Measure.ofNanos := by
    rw [perform, hregistry, Registry.waiting_actAll _ (accepts_updates d.settings now e h.fixed),
      values_acts, Event.flatMap_observed]
  constructor
  case known =>
    rw [perform, hregistry, Registry.mem_keys_actAll]
    exact .inl hd.known
  case all =>
    refine ⟨drained, hsettled ▸ hgathered, ?_⟩
    rw [hwaiting, ← List.append_assoc, hall]

theorem lifetimes_cons (now : Instant) (e : Event) (rest : History) :
    History.lifetimes ((now, e) :: rest) = (e.lifetime? now).toList ++ rest.lifetimes := by
  rw [History.lifetimes, History.lifetimes, List.filterMap_cons]
  cases e.lifetime? now <;> rfl

/-- **Drained or waiting, every observation is held once.** -/
theorem holds_serve {d : Desk α} (h : d.Ready) {values : List α}
    (hd : d.recorder.Holds (Outlet.lifetimes.id d.settings) values) (calls : List Call) :
    (d.serve keeps calls).recorder.Holds (Outlet.lifetimes.id d.settings)
      (values ++ (events calls).lifetimes.map Measure.ofNanos) := by
  induction calls generalizing d values with
  | nil =>
    show d.recorder.Holds _ (values ++ [])
    rwa [List.append_nil]
  | cons call rest ih =>
    cases call with
    | event now e =>
      have hsettings : (d.perform keeps now e).settings = d.settings := settings_applyAll ..
      have hrest := ih (h.perform keeps now e) (hsettings.symm ▸ holds_perform keeps h hd now e)
      rw [hsettings] at hrest
      rw [events, lifetimes_cons, List.map_append, ← List.append_assoc]
      exact hrest
    | drain => exact ih h.drain hd.drain

variable (s : Settings) (exposed : Bool) (calls : List Call)

theorem ready_opened : (opened keeps s exposed ({} : Recorder α)).Ready := by
  have hsettings := settings_opened keeps s exposed ({} : Recorder α)
  obtain ⟨hsound, -⟩ := registry_life keeps s exposed ({} : Recorder α) []
  refine ⟨hsound, fun o ho => ?_⟩
  rw [hsettings]
  exact fixed_known keeps s exposed ({} : Recorder α) [] ho

theorem settled_opened : (opened keeps s exposed ({} : Recorder α)).recorder.settled = [] := by
  rw [opened_eq, recorder_applyAll]
  dsimp only
  exact settled_described s

theorem holds_opened :
    let d := opened keeps s exposed ({} : Recorder α)
    d.recorder.Holds (Outlet.lifetimes.id d.settings) [] := by
  intro d
  rw [settings_opened]
  obtain ⟨-, hregistry⟩ := registry_life keeps s exposed ({} : Recorder α) []
  refine ⟨fixed_known keeps s exposed ({} : Recorder α) [] (by decide), [], ?_, ?_⟩
  · rw [settled_opened]
    exact .empty
  · rw [run] at hregistry
    rw [hregistry, Registry.waiting_actAll _ (accepts_life _ s []), values_acts, observed_life]
    rfl

theorem descriptions_serve :
    ((opened keeps s exposed ({} : Recorder α)).serve keeps calls).recorder.descriptions =
      (described s ({} : Recorder α)).recorder.descriptions := by
  have hopened : (opened keeps s exposed ({} : Recorder α)).recorder.descriptions =
      (described s ({} : Recorder α)).recorder.descriptions := by
    rw [opened_eq, recorder_applyAll]
  have hserve (d : Desk α) : (d.serve keeps calls).recorder.descriptions =
      d.recorder.descriptions := by
    induction calls generalizing d with
    | nil => rfl
    | cons call rest ih =>
      rw [serve, ih]
      cases call with
      | event now e => rw [answer, perform, recorder_applyAll]
      | drain => rfl
  rw [hserve, hopened]

/-- The page of a reporter that alone writes to its recorder: what its history has booked, and
its lifetimes. -/
def shown (α : Type) [Measure α] (s : Settings) (h : History) (lifetimes : Distribution α) :
    Exposition.Page :=
  Recorder.page
    { registry := booked α s h
      descriptions := (described s ({} : Recorder α)).recorder.descriptions
      settled := [(Outlet.lifetimes.id s, lifetimes)] }

end Desk

namespace Recorder
variable {α : Type} [Measure α]

/-- A recorder to which one reporter alone has written what it heard. -/
structure Tells (r : Recorder α) (s : Settings) (h : History) : Prop where
  alike : r.registry.Alike (Desk.booked α s h)
  holds : r.Holds (Outlet.lifetimes.id s) (h.lifetimes.map Measure.ofNanos)
  descriptions : r.descriptions = (Desk.described s ({} : Recorder α)).recorder.descriptions

/-- What such a recorder shows, and shows again. -/
theorem Tells.page {r : Recorder α} {s : Settings} {h : History} (htells : r.Tells s h) :
    ∃ d : Distribution α, d.Gathered (h.lifetimes.map Measure.ofNanos) ∧
      r.drain.page = Desk.shown α s h d ∧
      r.drain.drain.page = Desk.shown α s h (d.addBatch []) := by
  have hkeys : r.registry.histograms.keys = [Outlet.lifetimes.id s] := by
    rw [htells.alike.histograms, Outlet.id_eq_series]
    exact keys_histogram_booked s h
  obtain ⟨d, hgathered, hfirst, hsecond⟩ := settled_drain htells.holds hkeys
  have hdrained := (Registry.alike_emptied r.registry).trans htells.alike
  refine ⟨d, hgathered, ?_, ?_⟩
  · exact page_eq (r := r.drain) htells.descriptions hdrained hfirst
  · exact page_eq (r := r.drain.drain) htells.descriptions
      ((Registry.alike_emptied r.drain.registry).trans hdrained) hsecond

theorem Tells.drain {r : Recorder α} {s : Settings} {h : History} (htells : r.Tells s h) :
    r.drain.Tells s h :=
  ⟨(Registry.alike_emptied r.registry).trans htells.alike, htells.holds.drain, htells.descriptions⟩

/-- As long as a drain that finds nothing adds nothing, further drains do not show. -/
theorem Tells.page_idle {r : Recorder α} {s : Settings} {h : History} (htells : r.Tells s h)
    (hidle : ∀ d : Distribution α, d.Gathered (h.lifetimes.map Measure.ofNanos) →
      d.addBatch [] = d) (keeps : Outlet → Bool) (d : Desk α) (hd : d.recorder = r)
    {calls : List Call} (hquiet : events calls = []) :
    (d.serve keeps calls).recorder.drain.page = r.drain.page := by
  induction calls generalizing d r with
  | nil => rw [← hd, Desk.serve]
  | cons call rest ih =>
    cases call with
    | event now e => contradiction
    | drain =>
      obtain ⟨settled, hgathered, hfirst, hsecond⟩ := htells.page
      rw [hidle settled hgathered, ← hfirst] at hsecond
      rw [Desk.serve, ih htells.drain _ (congrArg Recorder.drain hd) hquiet, hsecond]

end Recorder

namespace Desk
variable {α : Type} [Measure α] (keeps : Outlet → Bool) (s : Settings) (exposed : Bool)
  (calls : List Call)

theorem tells_serve :
    ((opened keeps s exposed ({} : Recorder α)).serve keeps calls).recorder.Tells s
      (events calls) := by
  have hserved := holds_serve keeps (ready_opened (α := α) keeps s exposed)
    (holds_opened keeps s exposed) calls
  rw [settings_opened, List.nil_append] at hserved
  exact ⟨alike_booked keeps s exposed calls, hserved, descriptions_serve keeps s exposed calls⟩

/-- **What a reporter's page shows does not depend on drains**, but for how the sum of its
lifetimes was put together. A second look shows the same, with nothing added to the sum. -/
theorem page_drained :
    let r := ((opened keeps s exposed ({} : Recorder α)).serve keeps calls).recorder
    ∃ d : Distribution α, d.Gathered ((events calls).lifetimes.map Measure.ofNanos) ∧
      r.drain.page = shown α s (events calls) d ∧
      r.drain.drain.page = shown α s (events calls) (d.addBatch []) :=
  (tells_serve keeps s exposed calls).page

end Desk
end Roomwatch
