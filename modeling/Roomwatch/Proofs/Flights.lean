import Mathlib
import Roomwatch.Proofs.Progress

/-! Calls in flight.

The updates of a call are made one after the other, and while some of them are still to
come the call is in flight: any number of calls may be, and any of them may make its
next update (`Floor.Step`). A scrape that comes in between sees series and tally apart.
How far apart, and in which direction, is decided by the order of the updates within
each call: an attempt is tallied before it is counted, a success and a failure after,
and a gauge and its number are one step apart for as long as the call is in flight
(`Consistent`). The desk of a reached floor has been through the updates of the calls
that are gone, all of them, and through those that the calls in flight have made
(`Story`); so what holds after every first part of each event (`Along`) adds up to what
holds of the desk (`consistent_reached`). -/
namespace Roomwatch

open Number (Exact)
open Registry (Act)

/-! ### Floors -/

/-- A call that has begun and not yet returned. -/
structure Flight where
  event : Event
  /-- The updates it has made. -/
  made : List Update
  /-- The updates it has still to make. -/
  rest : List Update

/-- A reporter's desk and the calls that are in flight at it. -/
structure Floor where
  desk : Desk Exact
  calls : List Flight

/-- Whether an update wraps no number around: fields of the tally have 32 bits with a sign, and
the counters that run ahead of them have 64. The other counters run behind their fields and
cannot wrap around before these. -/
def Desk.HasRoom {α : Type} (d : Desk α) : Update → Prop
  | .count .subscribeSuccesses =>
    (d.recorder.registry.total (d.handle .subscribeSuccesses)).toNat + 1 < 2 ^ 64
  | .count (.subscribeFailures error) =>
    (d.recorder.registry.total (d.handle (.subscribeFailures error))).toNat + 1 < 2 ^ 64
  | .tally field direction => -2 ^ 31 ≤ (d.tally.get field).toInt + direction.sign ∧
    (d.tally.get field).toInt + direction.sign < 2 ^ 31
  | _ => True

namespace Floor

/-- One step: a call comes in, a call in flight makes its next update, or a call that has made
all of them returns. -/
inductive Step (keeps : Outlet → Bool) : Floor → Floor → Prop
  | enter (d : Desk Exact) (calls : List Flight) (now : Instant) (e : Event) :
    Step keeps ⟨d, calls⟩ ⟨d, ⟨e, [], e.updates now⟩ :: calls⟩
  | advance (d : Desk Exact) (before after : List Flight) (e : Event) (made : List Update)
    (u : Update) (rest : List Update) : d.HasRoom u →
      Step keeps ⟨d, before ++ ⟨e, made, u :: rest⟩ :: after⟩
        ⟨d.apply keeps u, before ++ ⟨e, made ++ [u], rest⟩ :: after⟩
  | leave (d : Desk Exact) (before after : List Flight) (e : Event) (made : List Update) :
    Step keeps ⟨d, before ++ ⟨e, made, []⟩ :: after⟩ ⟨d, before ++ after⟩

def registry (f : Floor) : Registry Exact := f.desk.recorder.registry

def tally (f : Floor) : Tally := f.desk.tally

/-- How many calls in flight are of the kinds that move a field of the tally. -/
def inFlight (f : Floor) (field : Tally.Field) : Nat :=
  f.calls.countP fun c => c.event.tallied field ≠ 0

end Floor

/-- How far series and tally may be apart while calls are in flight. A gauge and its number are
apart by no more than the calls in flight that move them, and so not at all when there are
none. -/
structure Consistent (s : Settings) (f : Floor) : Prop where
  userErrors : f.tally.userErrors.toInt ≤
    f.registry.counterTotal (s.metricName "track" "subscribe_counter") [("state", "failure")]
  subscribeSuccesses : ∃ n : UInt64,
    f.registry.counter? (s.series "track_subscribe_counter" [("state", "success"), ("error", "")]) =
      some n ∧ f.tally.subscribeSuccesses.toInt ≤ n.toNat
  subscribeAttempts : ∃ n : UInt64,
    f.registry.counter? (s.series "track_subscribe_counter" [("state", "attempt"), ("error", "")]) =
      some n ∧ n.toNat ≤ f.tally.subscribeAttempts.toInt
  publishAttempts :
    f.registry.counterTotal (s.metricName "track" "publish_counter") [("state", "attempt")] ≤
      f.tally.publishAttempts.toInt
  publishSuccesses :
    f.registry.counterTotal (s.metricName "track" "publish_counter") [("state", "success")] ≤
      f.tally.publishSuccesses.toInt
  rooms : ∃ n : Int, f.registry.gauge? (s.series "room_total" []) = some (Exact.ofInt n) ∧
    |n - f.tally.rooms.toInt| ≤ f.inFlight .rooms
  participants : ∃ n : Int,
    f.registry.gauge? (s.series "participant_total" []) = some (Exact.ofInt n) ∧
      |n - f.tally.participants.toInt| ≤ f.inFlight .participants
  published : ∃ n : Int,
    f.registry.gaugeSum (s.metricName "track" "published_total") = Exact.ofInt n ∧
      |n - f.tally.published.toInt| ≤ f.inFlight .published
  subscribed : ∃ n : Int,
    f.registry.gaugeSum (s.metricName "track" "subscribed_total") = Exact.ofInt n ∧
      |n - f.tally.subscribed.toInt| ≤ f.inFlight .subscribed

/-! ### What a floor has been through -/

/-- A floor and all that happened on it: the updates that were made, in order, and the calls
that have returned. The updates are those of the calls, as far as each of them has come. -/
structure Story (s : Settings) (f : Floor) (trace : List Update) (gone : List Flight) : Prop where
  sound : f.desk.Sound
  settings : f.desk.settings = s
  registry : f.registry =
    ({} : Registry Exact).actAll (acts s (Outlet.fixed.map Update.acquire ++ trace))
  accepts : ({} : Registry Exact).Accepts (acts s (Outlet.fixed.map Update.acquire ++ trace))
  ready : ∀ c ∈ f.calls, f.registry.Accepts (acts s c.rest)
  made : trace.Perm ((gone ++ f.calls).flatMap Flight.made)
  parts : ∀ c ∈ gone ++ f.calls, ∃ now, c.made ++ c.rest = c.event.updates now
  done : ∀ c ∈ gone, c.rest = []
  tally : ∀ field, (f.tally.get field).toInt = (trace.map (Update.tallied field)).sum
  counters : ∀ p : SeriesId → Bool,
    f.registry.summed p = (trace.map (Update.counted fun o => p (o.id s))).sum

section Sums
variable {M : Type} [AddCommMonoid M]

/-- What acquires nothing but the fixed outlets adds is what comes after them. -/
theorem sum_fixed (g : Update → M) (ha : ∀ o, g (.acquire o) = 0) (trace : List Update) :
    ((Outlet.fixed.map Update.acquire ++ trace).map g).sum = (trace.map g).sum := by
  simp [Outlet.fixed, ha]

theorem abs_sum_le_countP {β : Type} (l : List β) (g : β → Int) (p : β → Bool)
    (h : ∀ x ∈ l, |g x| ≤ if p x then 1 else 0) : |(l.map g).sum| ≤ l.countP p := by
  induction l with
  | nil => simp
  | cons x rest ih =>
    rw [List.forall_mem_cons] at h
    have hrest := ih h.2
    have hadd := abs_add_le (g x) (rest.map g).sum
    rw [List.map_cons, List.sum_cons, List.countP_cons]
    push_cast
    have hx := h.1
    split at hx <;> simp_all
    all_goals omega

end Sums

namespace Story
variable {s : Settings} {f : Floor} {trace : List Update} {gone : List Flight}

section Flights
variable {M : Type} [AddCommMonoid M]

/-- What all updates add is what the flights have added. -/
theorem sum_trace (h : Story s f trace gone) (g : Update → M) :
    (trace.map g).sum = ((gone ++ f.calls).map fun c => (c.made.map g).sum).sum := by
  rw [(h.made.map g).sum_eq, List.map_flatMap, List.flatMap_def, List.sum_flatten, List.map_map]
  rfl

end Flights

/-- What holds of a sum at every point of an event holds of what a flight has added. -/
theorem along_made (h : Story s f trace gone) {P : Event → Int → Prop} {g : Update → Int}
    (hP : ∀ e now, Along (P e) g 0 (e.updates now)) {c : Flight} (hc : c ∈ gone ++ f.calls) :
    P c.event (c.made.map g).sum := by
  obtain ⟨now, hnow⟩ := h.parts c hc
  have hmade := (hnow ▸ hP c.event now).made
  rwa [zero_add] at hmade

theorem sum_excess_nonneg (h : Story s f trace gone) (field : Tally.Field)
    (hf : field ∈ Tally.Field.late) :
    0 ≤ (trace.map (Update.excess field)).sum := by
  rw [h.sum_trace]
  refine List.sum_nonneg fun n hn => ?_
  obtain ⟨c, hc, rfl⟩ := List.mem_map.1 hn
  exact h.along_made (fun e now => e.along_counted_first hf now) hc

theorem sum_excess_nonpos (h : Story s f trace gone) (field : Tally.Field)
    (hf : field ∈ Tally.Field.early) :
    (trace.map (Update.excess field)).sum ≤ 0 := by
  rw [h.sum_trace]
  calc ((gone ++ f.calls).map fun c => (c.made.map (Update.excess field)).sum).sum
      ≤ ((gone ++ f.calls).map fun _ => (0 : Int)).sum :=
        List.sum_le_sum fun c hc => h.along_made (fun e now => e.along_tallied_first hf now) hc
    _ = 0 := by simp

theorem abs_sum_drift_le (h : Story s f trace gone) (field : Tally.Field)
    (hf : field ∈ Tally.Field.levels) :
    |(trace.map (Update.drift field)).sum| ≤ f.inFlight field := by
  have hdone : (gone.map fun c => (c.made.map (Update.drift field)).sum).sum = 0 := by
    refine List.sum_eq_zero fun n hn => ?_
    obtain ⟨c, hc, rfl⟩ := List.mem_map.1 hn
    obtain ⟨now, hnow⟩ := h.parts c (List.mem_append_left _ hc)
    rw [h.done c hc, List.append_nil] at hnow
    rw [hnow]
    exact c.event.sum_drift hf now
  rw [h.sum_trace, List.map_append, List.sum_append, hdone, zero_add]
  refine abs_sum_le_countP f.calls _ _ fun c hc => ?_
  have hmade := h.along_made (fun e now => e.along_moved hf now) (List.mem_append_right _ hc)
  simpa using hmade

end Story

theorem summed_acquired (r : Registry Exact) (s : Settings) (outlets : List Outlet)
    (p : SeriesId → Bool) :
    (r.actAll (acts s (outlets.map Update.acquire))).summed p = r.summed p := by
  induction outlets generalizing r with
  | nil => rfl
  | cons o rest ih => exact (ih _).trans (Registry.summed_register r _ _ p)

namespace Desk
variable (keeps : Outlet → Bool) {d : Desk Exact} {u : Update}

/-- With room a field of the tally moves as far as the update says. -/
theorem toInt_tally_apply (hroom : d.HasRoom u) (field : Tally.Field) :
    ((d.apply keeps u).tally.get field).toInt = (d.tally.get field).toInt + u.tallied field := by
  rw [tally_apply]
  by_cases hu : u.tallied field = 0
  · rw [hu, add_zero]
    exact congrArg Int32.toInt (Int32.add_zero _)
  · cases u with
    | tally f direction =>
      have hf : f = field := by
        by_contra hne
        exact hu (if_neg hne)
      subst hf
      obtain ⟨hlow, hhigh⟩ := hroom
      have hsign : (Int32.ofInt direction.sign).toInt = direction.sign := by
        cases direction <;> rfl
      rw [Update.tallied, if_pos rfl, Int32.toInt_add, hsign]
      exact Int.bmod_eq_of_le hlow hhigh
    | _ => exact absurd rfl hu

/-- With room the counters of a class grow by what the update counts. -/
theorem summed_apply (h : d.Sound) (hk : d.recorder.registry.Accepts (u.acts d.settings))
    (hroom : ∀ o, u = .count o →
      (d.recorder.registry.total (o.id d.settings)).toNat + 1 < 2 ^ 64) (p : SeriesId → Bool) :
    (d.apply keeps u).recorder.registry.summed p =
      d.recorder.registry.summed p + u.counted fun o => p (o.id d.settings) := by
  rw [registry_apply keeps h]
  cases u with
  | acquire o => exact Registry.summed_register _ _ _ p
  | count o => exact Registry.summed_count p hk.1 (hroom o rfl)
  | _ => rfl

end Desk

section Steps
variable {keeps : Outlet → Bool} {s : Settings}

theorem story_opened (exposed : Bool) :
    Story s ⟨Desk.opened keeps s exposed {}, []⟩ [] [] := by
  obtain ⟨hsound, hregistry⟩ := Desk.registry_life keeps s exposed ({} : Recorder Exact) []
  constructor
  case sound => exact hsound
  case settings => exact Desk.settings_opened keeps s exposed {}
  case registry => exact hregistry
  case accepts => exact Desk.accepts_life {} s []
  case ready => exact fun c hc => absurd hc List.not_mem_nil
  case made => exact .nil
  case parts => exact fun c hc => absurd hc List.not_mem_nil
  case done => exact fun c hc => absurd hc List.not_mem_nil
  case tally =>
    intro field
    have htally := Desk.tally_run keeps s exposed ({} : Recorder Exact) [] field
    show ((Desk.opened keeps s exposed ({} : Recorder Exact)).tally.get field).toInt = 0
    rw [Desk.run] at htally
    rw [htally]
    rfl
  case counters =>
    intro p
    have hsum := summed_acquired {} s Outlet.fixed p
    show (Desk.opened keeps s exposed {}).recorder.registry.summed p = 0
    rw [Desk.run, Desk.life, List.flatMap_nil, List.append_nil] at hregistry
    rw [hregistry, hsum]
    rfl

namespace Story
variable {f : Floor} {trace : List Update} {gone : List Flight}

/-- The registry knows the fixed outlets. -/
theorem fixed_known (h : Story s f trace gone) {o : Outlet} (ho : o ∈ Outlet.fixed) :
    o.id s ∈ f.registry.keys o.shape := by
  rw [h.registry, Registry.mem_keys_actAll, register_mem_acts]
  exact .inr ⟨o, List.mem_append_left _ (List.mem_map_of_mem ho), rfl, rfl⟩

theorem enter {d : Desk Exact} {calls : List Flight} (h : Story s ⟨d, calls⟩ trace gone)
    (now : Instant) (e : Event) :
    Story s ⟨d, ⟨e, [], e.updates now⟩ :: calls⟩ trace gone := by
  have hflights : (gone ++ ⟨e, [], e.updates now⟩ :: calls).Perm
      (⟨e, [], e.updates now⟩ :: (gone ++ calls)) := List.perm_middle
  constructor
  case sound => exact h.sound
  case settings => exact h.settings
  case registry => exact h.registry
  case accepts => exact h.accepts
  case ready =>
    intro c hc
    rcases List.mem_cons.1 hc with rfl | hc
    · exact Desk.accepts_updates s now e fun o ho => h.fixed_known ho
    · exact h.ready c hc
  case made => exact h.made.trans (hflights.flatMap_right Flight.made).symm
  case parts =>
    intro c hc
    rcases List.mem_cons.1 (hflights.mem_iff.1 hc) with rfl | hc
    · exact ⟨now, rfl⟩
    · exact h.parts c hc
  case done => exact h.done
  case tally => exact h.tally
  case counters => exact h.counters

theorem leave {d : Desk Exact} {before after : List Flight} {e : Event} {made : List Update}
    (h : Story s ⟨d, before ++ ⟨e, made, []⟩ :: after⟩ trace gone) :
    Story s ⟨d, before ++ after⟩ trace (⟨e, made, []⟩ :: gone) := by
  have hflights : (gone ++ (before ++ ⟨e, made, []⟩ :: after)).Perm
      (⟨e, made, []⟩ :: gone ++ (before ++ after)) := by
    rw [← List.append_assoc, List.cons_append, ← List.append_assoc]
    exact List.perm_middle
  constructor
  case sound => exact h.sound
  case settings => exact h.settings
  case registry => exact h.registry
  case accepts => exact h.accepts
  case ready =>
    intro c hc
    refine h.ready c ?_
    rw [List.mem_append] at hc
    exact List.mem_append.2 (hc.imp_right (List.mem_cons_of_mem _))
  case made => exact h.made.trans (hflights.flatMap_right Flight.made)
  case parts => exact fun c hc => h.parts c (hflights.mem_iff.2 hc)
  case done => exact List.forall_mem_cons.2 ⟨rfl, h.done⟩
  case tally => exact h.tally
  case counters => exact h.counters

/-- A counter that runs behind its field is far from wrapping around. -/
theorem total_lt (h : Story s f trace gone) (field : Tally.Field)
    (hf : field ∈ Tally.Field.early)
    {o : Outlet} (ho : field.follows o = true) :
    (f.registry.total (o.id s)).toNat + 1 < 2 ^ 64 := by
  have htotal : (f.registry.total (o.id s)).toNat ≤ f.registry.summed fun id => id = o.id s :=
    f.registry.total_le_summed (o.id s)
  have hmono : (trace.map (Update.counted fun p => p.id s = o.id s)).sum ≤
      (trace.map (Update.counted field.follows)).sum := by
    refine List.sum_le_sum fun u _ => Update.counted_mono (fun p hp => ?_) u
    rw [decide_eq_true_eq, Outlet.id_inj] at hp
    rw [hp, ho]
  have hbehind := h.sum_excess_nonpos field hf
  have hsum := Update.sum_counted_eq field trace
  have htally := h.tally field
  have hfield := (f.tally.get field).toInt_lt
  rw [h.counters] at htotal
  omega

/-- No counter wraps around where a call counts and leaves room. -/
theorem room_of_count (h : Story s f trace gone) {c : Flight} {o : Outlet} {rest : List Update}
    (hc : c ∈ f.calls) (hrest : c.rest = .count o :: rest) (hroom : f.desk.HasRoom (.count o)) :
    (f.registry.total (o.id s)).toNat + 1 < 2 ^ 64 := by
  obtain ⟨now, hnow⟩ := h.parts c (List.mem_append_right _ hc)
  have hmem : Update.count o ∈ c.event.felt := by
    rw [← Event.filter_updates now, List.mem_filter, ← hnow, hrest]
    simp [Update.isQuiet]
  have hhandle := h.sound.handle_eq o
  rw [h.settings] at hhandle
  cases o with
  | publishAttempts kind => exact h.total_lt .publishAttempts (by decide) rfl
  | publishSuccesses kind => exact h.total_lt .publishSuccesses (by decide) rfl
  | subscribeAttempts => exact h.total_lt .subscribeAttempts (by decide) rfl
  | subscribeSuccesses =>
    rw [← hhandle]
    exact hroom
  | subscribeFailures error =>
    rw [← hhandle]
    exact hroom
  | _ => cases he : c.event <;> simp [he, Event.felt, Event.feltFailure] at hmem

theorem advance {d : Desk Exact} {before after : List Flight} {e : Event} {made : List Update}
    {u : Update} {rest : List Update}
    (h : Story s ⟨d, before ++ ⟨e, made, u :: rest⟩ :: after⟩ trace gone) (hroom : d.HasRoom u) :
    Story s ⟨d.apply keeps u, before ++ ⟨e, made ++ [u], rest⟩ :: after⟩ (trace ++ [u]) gone := by
  have hcall : (⟨e, made, u :: rest⟩ : Flight) ∈ before ++ ⟨e, made, u :: rest⟩ :: after :=
    List.mem_append_right _ (List.mem_cons_self ..)
  have hready := h.ready _ hcall
  rw [acts, List.flatMap_cons, Registry.accepts_append] at hready
  have hregistry : (d.apply keeps u).recorder.registry =
      d.recorder.registry.actAll (u.acts s) := by
    rw [Desk.registry_apply keeps h.sound, h.settings]
  have hacts : (acts s (Outlet.fixed.map Update.acquire ++ (trace ++ [u])) : List (Act Exact)) =
      acts s (Outlet.fixed.map Update.acquire ++ trace) ++ u.acts s := by
    rw [← List.append_assoc, acts_append]
    congr 1
    exact List.append_nil _
  have hkept (shape : Shape) (id : SeriesId) (hid : id ∈ d.recorder.registry.keys shape) :
      id ∈ (d.apply keeps u).recorder.registry.keys shape := by
    rw [hregistry, Registry.mem_keys_actAll]
    exact .inl hid
  constructor
  case sound => exact Desk.sound_apply keeps h.sound u
  case settings => exact (Desk.settings_apply keeps d u).trans h.settings
  case registry =>
    rw [hacts, Registry.actAll_append, ← h.registry]
    exact hregistry
  case accepts =>
    rw [hacts, Registry.accepts_append, ← h.registry]
    exact ⟨h.accepts, hready.1⟩
  case ready =>
    intro c hc
    rw [List.mem_append, List.mem_cons] at hc
    rcases hc with hc | rfl | hc
    · exact (h.ready c (List.mem_append_left _ hc)).mono hkept
    · show (d.apply keeps u).recorder.registry.Accepts (acts s rest)
      rw [hregistry]
      exact hready.2
    · exact (h.ready c (List.mem_append_right _ (List.mem_cons_of_mem _ hc))).mono hkept
  case made =>
    have hmade := h.made
    simp only [List.flatMap_append, List.flatMap_cons] at hmade ⊢
    rw [List.perm_iff_count] at hmade ⊢
    intro v
    have hv := hmade v
    simp only [List.count_append] at hv ⊢
    omega
  case parts =>
    intro c hc
    rw [List.mem_append, List.mem_append, List.mem_cons] at hc
    rcases hc with hc | hc | rfl | hc
    · exact h.parts c (List.mem_append_left _ hc)
    · exact h.parts c (List.mem_append_right _ (List.mem_append_left _ hc))
    · obtain ⟨now, hnow⟩ := h.parts _ (List.mem_append_right _ hcall)
      exact ⟨now, by rw [← hnow, List.append_assoc]; rfl⟩
    · exact h.parts c
        (List.mem_append_right _ (List.mem_append_right _ (List.mem_cons_of_mem _ hc)))
  case done => exact h.done
  case tally =>
    intro field
    rw [List.map_append, List.sum_append, ← h.tally field]
    exact (Desk.toInt_tally_apply keeps hroom field).trans (by simp [Floor.tally])
  case counters =>
    intro p
    rw [List.map_append, List.sum_append, ← h.counters p]
    refine (Desk.summed_apply keeps h.sound (h.settings ▸ hready.1) (fun o ho => ?_) p).trans ?_
    · subst ho
      exact h.settings ▸ h.room_of_count hcall rfl hroom
    · rw [h.settings]
      simp [Floor.registry]

end Story

/-- A reached floor has a story. -/
theorem story_reached {exposed : Bool} {f : Floor}
    (h : Relation.ReflTransGen (Floor.Step keeps) ⟨Desk.opened keeps s exposed {}, []⟩ f) :
    ∃ trace gone, Story s f trace gone := by
  induction h with
  | refl => exact ⟨[], [], story_opened exposed⟩
  | tail _ hstep ih =>
    obtain ⟨trace, gone, hstory⟩ := ih
    cases hstep with
    | enter d calls now e => exact ⟨trace, gone, hstory.enter now e⟩
    | advance d before after e made u rest hroom => exact ⟨_, gone, hstory.advance hroom⟩
    | leave d before after e made => exact ⟨trace, _, hstory.leave⟩

end Steps

/-! ### What can be read of it -/

namespace Story
variable {s : Settings} {f : Floor} {trace : List Update} {gone : List Flight}

/-- A gauge that is there from the start shows its field, but for the calls in flight. -/
theorem gauge?_near (h : Story s f trace gone) (field : Tally.Field)
    (hf : field ∈ Tally.Field.levels) (o : Outlet)
    (ho : o ∈ Outlet.fixed) (hs : o.shape = .gauge) (hp : ∀ p, decide (p = o) = field.follows p) :
    ∃ n : Int, f.registry.gauge? (s.series (o.metric.subsystem ++ "_" ++ o.metric.ownName)
      o.labels) = some (Exact.ofInt n) ∧ |n - (f.tally.get field).toInt| ≤ f.inFlight field := by
  refine ⟨(trace.map (Update.moved field.follows)).sum, ?_, ?_⟩
  · have hknown := h.fixed_known ho
    rw [hs] at hknown
    rw [← Outlet.id_eq_series, Registry.gauge?_of_mem hknown, h.registry,
      Registry.level_actAll _ h.accepts, turns_acts, Registry.paced_exact, sum_turns,
      sum_fixed _ (fun _ => rfl), funext hp, Exact.ofInt, mul_comm]
    exact congrArg (fun n => some (Exact.mk n)) (zero_add _)
  · rw [h.tally, Update.sum_moved_eq, add_sub_cancel_right]
    exact h.abs_sum_drift_le field hf

/-- The gauges of a metric add up to their field, but for the calls in flight. -/
theorem gaugeSum_near (h : Story s f trace gone) (field : Tally.Field)
    (hf : field ∈ Tally.Field.levels) (m : Metric)
    (hp : ∀ o : Outlet, decide (o.metric = m) = field.follows o) :
    ∃ n : Int, f.registry.gaugeSum (m.name s) = Exact.ofInt n ∧
      |n - (f.tally.get field).toInt| ≤ f.inFlight field := by
  refine ⟨(trace.map (Update.moved field.follows)).sum, ?_, ?_⟩
  · rw [Registry.gaugeSum_eq_leveled, h.registry, Registry.leveled_actAll _ h.accepts,
      sum_steps_acts, sum_fixed _ (fun _ => rfl), Exact.ofInt, mul_comm]
    simp only [name_id_eq_iff, hp]
    exact congrArg Exact.mk (zero_add _)
  · rw [h.tally, Update.sum_moved_eq, add_sub_cancel_right]
    exact h.abs_sum_drift_le field hf

/-- A counter that is there from the start. -/
theorem counter?_eq (h : Story s f trace gone) (field : Tally.Field) (o : Outlet)
    (ho : o ∈ Outlet.fixed) (hs : o.shape = .counter)
    (hp : ∀ p, decide (p = o) = field.follows p) :
    ∃ n : UInt64, f.registry.counter? (s.series (o.metric.subsystem ++ "_" ++ o.metric.ownName)
      o.labels) = some n ∧ (n.toNat : Int) =
        (trace.map (Update.excess field)).sum + (f.tally.get field).toInt := by
  have hknown := h.fixed_known ho
  rw [hs] at hknown
  have hcounter := Registry.counter?_eq_total hknown
  refine ⟨f.registry.total (o.id s), by rw [← Outlet.id_eq_series, hcounter], ?_⟩
  have hdistinct : (f.registry.keys .counter).Nodup := by
    rw [h.registry]
    refine Registry.nodup_keys_actAll _ _ (fun shape => ?_) .counter
    cases shape <;> exact List.nodup_nil
  have htotal : f.registry.summed (fun id => id = o.id s) = (f.registry.total (o.id s)).toNat :=
    Shelf.sumOver_of_get? UInt64.toNat hdistinct hcounter
  rw [← htotal, h.counters, h.tally, ← Update.sum_counted_eq]
  simp only [Outlet.id_inj, hp]

/-- The counters of a metric in a state. -/
theorem counterTotal_eq (h : Story s f trace gone) (field : Tally.Field) (m : Metric)
    (state : String)
    (hp : ∀ o : Outlet,
      (decide (o.metric = m) && o.labels.contains ("state", state)) = field.follows o) :
    (f.registry.counterTotal (m.name s) [("state", state)] : Int) =
      (trace.map (Update.excess field)).sum + (f.tally.get field).toInt := by
  rw [Registry.counterTotal, h.counters, h.tally, ← Update.sum_counted_eq]
  simp only [name_id_eq_iff, carries_state, hp]

end Story

/-- **Series and tally stay consistent while calls are in flight**: any number of calls, each
of them as far as it has come, whatever the reporter holds on to. The reporter alone writes to
its recorder. No step wraps a number around (`Desk.HasRoom`): the fields of the tally stay within
their 32 bits, and beyond that two counters stay within their 64, the one of successful
subscriptions and the ones of failed ones. These run ahead of their fields, so that they could
wrap around while the fields are still behind; the room that a field has says nothing of them. -/
theorem consistent_reached (keeps : Outlet → Bool) (s : Settings) (exposed : Bool) (f : Floor)
    (h : Relation.ReflTransGen (Floor.Step keeps) ⟨Desk.opened keeps s exposed {}, []⟩ f) :
    Consistent s f := by
  obtain ⟨trace, gone, hstory⟩ := story_reached h
  constructor
  case userErrors =>
    have htotal := hstory.counterTotal_eq .userErrors .subscribing "failure"
      (by intro o; cases o <;> rfl)
    have hahead := hstory.sum_excess_nonneg .userErrors (by decide)
    show (f.tally.get .userErrors).toInt ≤ f.registry.counterTotal (Metric.subscribing.name s) _
    omega
  case subscribeSuccesses =>
    obtain ⟨n, hn, hcount⟩ := hstory.counter?_eq .subscribeSuccesses .subscribeSuccesses (by decide)
      rfl (by intro o; cases o <;> rfl)
    have hahead := hstory.sum_excess_nonneg .subscribeSuccesses (by decide)
    refine ⟨n, hn, ?_⟩
    show (f.tally.get .subscribeSuccesses).toInt ≤ n.toNat
    omega
  case subscribeAttempts =>
    obtain ⟨n, hn, hcount⟩ := hstory.counter?_eq .subscribeAttempts .subscribeAttempts (by decide)
      rfl (by intro o; cases o <;> rfl)
    have hbehind := hstory.sum_excess_nonpos .subscribeAttempts (by decide)
    refine ⟨n, hn, ?_⟩
    show (n.toNat : Int) ≤ (f.tally.get .subscribeAttempts).toInt
    omega
  case publishAttempts =>
    have htotal := hstory.counterTotal_eq .publishAttempts .publishing "attempt"
      (by intro o; cases o <;> rfl)
    have hbehind := hstory.sum_excess_nonpos .publishAttempts (by decide)
    show (f.registry.counterTotal (Metric.publishing.name s) _ : Int) ≤
      (f.tally.get .publishAttempts).toInt
    omega
  case publishSuccesses =>
    have htotal := hstory.counterTotal_eq .publishSuccesses .publishing "success"
      (by intro o; cases o <;> rfl)
    have hbehind := hstory.sum_excess_nonpos .publishSuccesses (by decide)
    show (f.registry.counterTotal (Metric.publishing.name s) _ : Int) ≤
      (f.tally.get .publishSuccesses).toInt
    omega
  case rooms =>
    exact hstory.gauge?_near .rooms (by decide) .rooms (by decide) rfl
      (by intro o; cases o <;> rfl)
  case participants =>
    exact hstory.gauge?_near .participants (by decide) .participants (by decide) rfl
      (by intro o; cases o <;> rfl)
  case published =>
    exact hstory.gaugeSum_near .published (by decide) .published
      (by intro o; cases o <;> rfl)
  case subscribed =>
    exact hstory.gaugeSum_near .subscribed (by decide) .subscribed
      (by intro o; cases o <;> rfl)

/-- A track comes while a subscription fails: the track moves its gauge, the failure is counted
and put down to the user, and neither call has returned. -/
theorem consistent_reached_midway :
    let screen : Outlet := .published "screen"
    let denied : Outlet := .subscribeFailures "denied"
    let d := Desk.opened Outlet.isKept Settings.specimen false ({} : Recorder Exact)
    let updates : List Update := [.acquire screen, .acquire denied, .move screen .up,
      .count denied, .tally .userErrors .up]
    let f : Floor := ⟨d.applyAll Outlet.isKept updates,
      [⟨.subscribeFailed "denied" true, [.acquire denied, .count denied, .tally .userErrors .up],
        [.note (.subscribeFailed "denied" true)]⟩,
      ⟨.trackPublished "screen", [.acquire screen, .move screen .up], [.tally .published .up]⟩]⟩
    Relation.ReflTransGen (Floor.Step Outlet.isKept) ⟨d, []⟩ f ∧
      Consistent Settings.specimen f := by
  intro screen denied d updates f
  have h : Relation.ReflTransGen (Floor.Step Outlet.isKept) ⟨d, []⟩ f := by
    refine .head (.enter d [] ⟨0⟩ (.trackPublished "screen")) ?_
    refine .head (.enter d _ ⟨1⟩ (.subscribeFailed "denied" true)) ?_
    refine .head (.advance _ [_] [] _ _ (.acquire screen) _ trivial) ?_
    refine .head (.advance _ [] [_] _ _ (.acquire denied) _ trivial) ?_
    refine .head (.advance _ [_] [] _ _ (.move screen .up) _ trivial) ?_
    refine .head (.advance _ [] [_] _ _ (.count denied) _ ?_) ?_
    · show _ < _
      decide +kernel
    refine .head (.advance _ [] [_] _ _ (.tally .userErrors .up) _ ?_) .refl
    show _ ∧ _
    decide +kernel
  exact ⟨h, consistent_reached Outlet.isKept Settings.specimen false f h⟩

end Roomwatch
