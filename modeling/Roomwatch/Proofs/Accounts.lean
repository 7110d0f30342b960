import Mathlib
import Roomwatch.Proofs.Bookings
import Roomwatch.Proofs.Whole

/-! The accounts of a reporter.

`Balanced` says what the series of a history show: gauges what went up less what went
down, counters the number of calls, and the histogram the lifetimes in order. It is said
of the history alone. `balanced_run`: whatever a reporter holds on to, a registry that it
alone writes is balanced after every history, with exact gauges always and with binary64
ones for as long as these count without a gap. -/
namespace Roomwatch

open Number (Measure Exact nanosPerSecond whole wholeBound keepsPace_whole)
open Registry (KeepsPace keepsPace_exact)

/-- A registry that holds what a history of calls has made of it, and nothing else. Its gauges
hold whole numbers, as `ofInt` writes them. -/
structure Balanced {α : Type} [Measure α] (ofInt : Int → α) (s : Settings) (h : History)
    (r : Registry α) : Prop where
  series : ∀ shape id, id ∈ r.keys shape ↔ Booked s h shape id
  distinct : ∀ shape, (r.keys shape).Nodup
  rooms : r.gauge? (s.series "room_total" []) =
    some (ofInt (h.calls .roomStarted - h.endings))
  lifetimes : r.waiting? (s.series "room_duration_seconds" []) =
    some (h.lifetimes.map Measure.ofNanos)
  participants : r.gauge? (s.series "participant_total" []) =
    some (ofInt (h.calls .participantJoined - h.calls .participantLeft))
  published : ∀ kind, h.reports (.trackPublished kind) ∨ h.reports (.trackUnpublished kind) →
    r.gauge? (s.series "track_published_total" [("kind", kind)]) =
      some (ofInt (h.calls (.trackPublished kind) - h.calls (.trackUnpublished kind)))
  subscribed : ∀ kind, h.reports (.subscribed kind) ∨ h.reports (.unsubscribed kind) →
    r.gauge? (s.series "track_subscribed_total" [("kind", kind)]) =
      some (ofInt (h.calls (.subscribed kind) - h.calls (.unsubscribed kind)))
  publishAttempts : ∀ kind, h.reports (.publishAttempted kind) →
    r.counter? (s.series "track_publish_counter" [("kind", kind), ("state", "attempt")]) =
      some (UInt64.ofNat (h.calls (.publishAttempted kind)))
  publishSuccesses : ∀ kind, h.reports (.publishSucceeded kind) →
    r.counter? (s.series "track_publish_counter" [("kind", kind), ("state", "success")]) =
      some (UInt64.ofNat (h.calls (.publishSucceeded kind)))
  subscribeAttempts :
    r.counter? (s.series "track_subscribe_counter" [("state", "attempt"), ("error", "")]) =
      some (UInt64.ofNat (h.calls .subscribeAttempted))
  subscribeSuccesses :
    r.counter? (s.series "track_subscribe_counter" [("state", "success"), ("error", "")]) =
      some (UInt64.ofNat h.successes)
  subscribeFailures : ∀ e error, h.reports e → e.failure? = some error →
    r.counter? (s.series "track_subscribe_counter" [("state", "failure"), ("error", error)]) =
      some (UInt64.ofNat (h.failures error))

/-! ### What the series say -/

/-- A difference of two kinds of call, summed over a history. -/
theorem sum_eq_sub (h : History) (f : Instant × Event → Int) (up down : Instant × Event → Bool)
    (hf : ∀ timed, f timed = (if up timed then 1 else 0) - if down timed then 1 else 0) :
    (h.map f).sum = h.countP up - h.countP down := by
  induction h with
  | nil => rfl
  | cons timed rest ih =>
    rw [List.map_cons, List.sum_cons, ih, hf, List.countP_cons, List.countP_cons]
    push_cast
    ring

theorem sum_eq_countP (h : History) (f : Instant × Event → Nat) (p : Instant × Event → Bool)
    (hf : ∀ timed, f timed = if p timed then 1 else 0) : (h.map f).sum = h.countP p := by
  induction h with
  | nil => rfl
  | cons timed rest ih =>
    rw [List.map_cons, List.sum_cons, ih, hf, List.countP_cons, add_comm]

section Values
variable {α : Type} [Measure α] (s : Settings) (h : History)

/-- The counters of a class add up to what the calls of a history count in it. -/
theorem counted_booked (q : SeriesId → Bool) :
    (Desk.booked α s h).counted q =
      UInt64.ofNat (h.map fun timed => timed.2.counted fun o => q (o.id s)).sum := by
  rw [Desk.booked, Registry.counted_actAll q (Desk.accepts_life _ s h), sum_amounts_acts,
    sum_life _ h (fun _ => rfl)]
  simp only [Event.sum_counted]
  exact zero_add _

/-- The gauges of a class add up to how far the calls of a history move them. -/
theorem leveled_booked (q : SeriesId → Bool) :
    (Desk.booked Exact s h).leveled q =
      (h.map fun timed => timed.2.moved fun o => q (o.id s)).sum * nanosPerSecond := by
  rw [Desk.booked, Registry.leveled_actAll q (Desk.accepts_life _ s h), sum_steps_acts,
    sum_life _ h (fun _ => rfl), mul_comm]
  simp only [Event.sum_moved]
  exact zero_add _

theorem counter?_booked {o : Outlet} (ho : Booked s h .counter (o.id s)) :
    (Desk.booked α s h).counter? (o.id s) =
      some (UInt64.ofNat (h.map fun timed => timed.2.counted fun p => p = o).sum) := by
  rw [Registry.counter?_of_mem (nodup_keys_booked s h .counter) ((mem_keys_booked s h _ _).2 ho),
    counted_booked]
  simp only [Outlet.id_inj]

theorem gauge?_booked {ofInt : Int → α} {bound : Nat} (hpace : KeepsPace ofInt bound)
    (hfew : h.length ≤ bound) {o : Outlet} (ho : Booked s h .gauge (o.id s)) :
    (Desk.booked α s h).gauge? (o.id s) =
      some (ofInt (h.map fun timed => timed.2.moved fun p => p = o).sum) := by
  have hturns := length_turns_life h o
  have hsum : Registry.paced (ofInt 0) ((Desk.life h).flatMap (Update.turns o)) = _ :=
    hpace.paced (by omega)
  rw [Registry.gauge?_of_mem ((mem_keys_booked s h _ _).2 ho), Desk.booked,
    Registry.level_actAll _ (Desk.accepts_life _ s h), turns_acts]
  show some (Registry.paced Measure.zero _) = _
  rw [hpace.zero, hsum, sum_turns_life, zero_add]

theorem waiting?_booked {o : Outlet} (ho : Booked s h .histogram (o.id s)) :
    (Desk.booked α s h).waiting? (o.id s) =
      some (((Desk.life h).flatMap (Update.observed o)).map Measure.ofNanos) := by
  rw [Registry.waiting?_of_mem ((mem_keys_booked s h _ _).2 ho), Desk.booked,
    Registry.waiting_actAll _ (Desk.accepts_life _ s h), values_acts]
  rfl

theorem observed_life : (Desk.life h).flatMap (Update.observed .lifetimes) = h.lifetimes := by
  rw [Desk.life, List.flatMap_append]
  show [] ++ _ = _
  rw [List.nil_append, History.lifetimes]
  induction h with
  | nil => rfl
  | cons timed rest ih =>
    rw [List.flatMap_cons, List.flatMap_append, ih, Event.flatMap_observed, List.filterMap_cons]
    cases timed.2.lifetime? timed.1 <;> rfl

/-- A booked gauge that one kind of call moves up and another one down. -/
theorem gauge?_eq_sub {ofInt : Int → α} {bound : Nat} (hpace : KeepsPace ofInt bound)
    (hfew : h.length ≤ bound) {o : Outlet} (ho : .acquire o ∈ Desk.life h) (hs : o.shape = .gauge)
    (up down : Instant × Event → Bool)
    (hf : ∀ now e, (Event.moved (fun p => p = o) e) =
      (if up (now, e) then 1 else 0) - if down (now, e) then 1 else 0) :
    (Desk.booked α s h).gauge?
        (s.series (o.metric.subsystem ++ "_" ++ o.metric.ownName) o.labels) =
      some (ofInt (h.countP up - h.countP down)) := by
  have hbooked := (booked_iff s h .gauge (o.id s)).2 ⟨o, ho, hs, rfl⟩
  rw [← Outlet.id_eq_series, gauge?_booked s h hpace hfew hbooked,
    sum_eq_sub h _ up down fun timed => hf timed.1 timed.2]

/-- A booked counter that one kind of call counts in. -/
theorem counter?_eq_countP {o : Outlet} (ho : .acquire o ∈ Desk.life h) (hs : o.shape = .counter)
    (p : Instant × Event → Bool)
    (hf : ∀ now e, (Event.counted (fun q => q = o) e) = if p (now, e) then 1 else 0) :
    (Desk.booked α s h).counter?
        (s.series (o.metric.subsystem ++ "_" ++ o.metric.ownName) o.labels) =
      some (UInt64.ofNat (h.countP p)) := by
  rw [← Outlet.id_eq_series, counter?_booked s h ((booked_iff s h _ _).2 ⟨o, ho, hs, rfl⟩),
    sum_eq_countP h _ p fun timed => hf timed.1 timed.2]

/-- Numbers that keep pace with the integers for as long as there are calls make a balanced
registry. -/
theorem balanced_booked {ofInt : Int → α} {bound : Nat} (hpace : KeepsPace ofInt bound)
    (hfew : h.length ≤ bound) : Balanced ofInt s h (Desk.booked α s h) := by
  constructor
  case series => exact mem_keys_booked s h
  case distinct => exact nodup_keys_booked s h
  case rooms =>
    refine gauge?_eq_sub s h hpace hfew (o := .rooms)
      (acquired_of_fixed h (by decide)) rfl _ _ ?_
    intro now e
    cases e <;> simp [Event.moved, Event.endsRoom]
  case lifetimes =>
    have hbooked : Booked s h .histogram (Outlet.lifetimes.id s) :=
      (booked_iff s h _ _).2 ⟨_, acquired_of_fixed h (by decide), rfl, rfl⟩
    have hwaiting : (Desk.booked α s h).waiting? (Outlet.lifetimes.id s) = _ :=
      waiting?_booked s h hbooked
    rw [observed_life, Outlet.id_eq_series] at hwaiting
    exact hwaiting
  case participants =>
    refine gauge?_eq_sub s h hpace hfew (o := .participants)
      (acquired_of_fixed h (by decide)) rfl _ _ ?_
    intro now e
    cases e <;> simp [Event.moved]
  case published =>
    intro kind hr
    refine gauge?_eq_sub s h hpace hfew (o := .published kind)
      (hr.elim (acquired_of_reports · rfl) (acquired_of_reports · rfl)) rfl _ _ ?_
    intro now e
    cases e <;> simp [Event.moved]
    split <;> rfl
  case subscribed =>
    intro kind hr
    refine gauge?_eq_sub s h hpace hfew (o := .subscribed kind)
      (hr.elim (acquired_of_reports · rfl) (acquired_of_reports · rfl)) rfl _ _ ?_
    intro now e
    cases e <;> simp [Event.moved]
    split <;> rfl
  case publishAttempts =>
    intro kind hr
    refine counter?_eq_countP s h (o := .publishAttempts kind)
      (acquired_of_reports hr rfl) rfl _ ?_
    intro now e
    cases e <;> simp [Event.counted]
  case publishSuccesses =>
    intro kind hr
    refine counter?_eq_countP s h (o := .publishSuccesses kind)
      (acquired_of_reports hr rfl) rfl _ ?_
    intro now e
    cases e <;> simp [Event.counted]
  case subscribeAttempts =>
    refine counter?_eq_countP s h (o := .subscribeAttempts)
      (acquired_of_fixed h (by decide)) rfl _ ?_
    intro now e
    cases e <;> simp [Event.counted]
  case subscribeSuccesses =>
    refine counter?_eq_countP s h (o := .subscribeSuccesses)
      (acquired_of_fixed h (by decide)) rfl _ ?_
    intro now e
    cases e <;> simp [Event.counted, Event.subscribes]
  case subscribeFailures =>
    intro e error hr he
    refine counter?_eq_countP s h (o := .subscribeFailures error)
      (acquired_of_reports hr ((acquired?_eq_failures e error).2 he)) rfl _ ?_
    intro now e
    cases e <;> simp [Event.counted, Event.failure?]

end Values

/-- **A reporter that alone writes to a new recorder keeps balanced accounts**, whatever it
holds on to and whatever is reported: always when its gauges are exact, and in binary64 as long
as it has no more calls than there are whole numbers without a gap. -/
theorem balanced_run (keeps : Outlet → Bool) (s : Settings) (exposed : Bool) (h : History) :
    Balanced Exact.ofInt s h ((Desk.opened keeps s exposed {}).run keeps h).recorder.registry ∧
      (h.length ≤ wholeBound →
        Balanced whole s h ((Desk.opened keeps s exposed {}).run keeps h).recorder.registry) := by
  constructor
  · rw [(Desk.registry_life keeps s exposed {} h).2]
    exact balanced_booked s h (keepsPace_exact h.length) (le_refl _)
  · intro hfew
    rw [(Desk.registry_life keeps s exposed {} h).2]
    exact balanced_booked s h keepsPace_whole hfew

/-- A participant leaves twice, and a track of a new kind comes and goes. -/
theorem balanced_run_few :
    let h : History := [(⟨0⟩, .participantLeft), (⟨1⟩, .trackPublished "screen"),
      (⟨2⟩, .participantLeft), (⟨3⟩, .trackUnpublished "screen")]
    h.length ≤ wholeBound ∧ Balanced whole Settings.specimen h
      ((Desk.opened Outlet.isKept Settings.specimen false {}).run
        Outlet.isKept h).recorder.registry := by
  intro h
  have hfew : h.length ≤ wholeBound := by decide
  exact ⟨hfew, (balanced_run Outlet.isKept Settings.specimen false h).2 hfew⟩

end Roomwatch
