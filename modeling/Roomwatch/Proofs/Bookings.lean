import Mathlib
import Roomwatch.Proofs.Totals

/-! Which series a reporter has.

`Booked` lists the series of a history: the five that are there from the start, and one
for each kind, stage or error text that was ever reported. These are the series of the
outlets that are acquired (`booked_iff`), so a registry that a reporter alone writes has
exactly them (`mem_keys_booked`), each of them once (`nodup_keys_booked`). -/
namespace Roomwatch

open Number (Measure)

/-! ### Histories -/

namespace History

/-- How often an event was reported. -/
def calls (h : History) (e : Event) : Nat := h.countP fun timed => timed.2 = e

/-- How many rooms ended, their starts known or not. -/
def endings (h : History) : Nat := h.countP fun timed => timed.2.endsRoom

/-- How many subscriptions were established, of whatever kind. -/
def successes (h : History) : Nat := h.countP fun timed => timed.2.subscribes

/-- How many subscriptions failed with a text. -/
def failures (h : History) (error : String) : Nat :=
  h.countP fun timed => timed.2.failure? = some error

/-- The lifetimes that were observed, in the order of the calls. -/
def lifetimes (h : History) : List Nat := h.filterMap fun timed => timed.2.lifetime? timed.1

def reports (h : History) (e : Event) : Prop := ∃ now, (now, e) ∈ h

end History

/-- The series of a name and labels under the identity of a node. -/
def Settings.series (s : Settings) (name : String) (own : List Label) : SeriesId :=
  ⟨s.scope ++ "_" ++ name,
    [("node_id", s.node), ("node_type", s.role.label), ("env", s.environment)] ++ own⟩

/-- The series of a reporter after a history. -/
inductive Booked (s : Settings) (h : History) : Shape → SeriesId → Prop where
  | rooms : Booked s h .gauge (s.series "room_total" [])
  | lifetimes : Booked s h .histogram (s.series "room_duration_seconds" [])
  | participants : Booked s h .gauge (s.series "participant_total" [])
  | subscribeAttempts :
    Booked s h .counter (s.series "track_subscribe_counter" [("state", "attempt"), ("error", "")])
  | subscribeSuccesses :
    Booked s h .counter (s.series "track_subscribe_counter" [("state", "success"), ("error", "")])
  | published {kind : String} :
    h.reports (.trackPublished kind) ∨ h.reports (.trackUnpublished kind) →
      Booked s h .gauge (s.series "track_published_total" [("kind", kind)])
  | subscribed {kind : String} :
    h.reports (.subscribed kind) ∨ h.reports (.unsubscribed kind) →
      Booked s h .gauge (s.series "track_subscribed_total" [("kind", kind)])
  | publishAttempts {kind : String} : h.reports (.publishAttempted kind) →
    Booked s h .counter
      (s.series "track_publish_counter" [("kind", kind), ("state", "attempt")])
  | publishSuccesses {kind : String} : h.reports (.publishSucceeded kind) →
    Booked s h .counter
      (s.series "track_publish_counter" [("kind", kind), ("state", "success")])
  | subscribeFailures {e : Event} {error : String} : h.reports e → e.failure? = some error →
    Booked s h .counter
      (s.series "track_subscribe_counter" [("state", "failure"), ("error", error)])

/-! ### Which series are booked -/

theorem Outlet.id_eq_series (s : Settings) (o : Outlet) :
    o.id s = s.series (o.metric.subsystem ++ "_" ++ o.metric.ownName) o.labels := by
  simp only [id, Metric.name, Settings.metricName, Settings.series, String.append_assoc]
  rfl

/-- The outlet that an event acquires. -/
def Event.acquired? : Event → Option Outlet
  | .trackPublished kind | .trackUnpublished kind => some (.published kind)
  | .subscribed kind | .unsubscribed kind => some (.subscribed kind)
  | .publishAttempted kind => some (.publishAttempts kind)
  | .publishSucceeded kind => some (.publishSuccesses kind)
  | .subscribeFailed error _ => some (.subscribeFailures error)
  | .subscribeRefused reason => some (.subscribeFailures reason.label)
  | _ => none

theorem acquire_mem_updates (now : Instant) (e : Event) (o : Outlet) :
    .acquire o ∈ e.updates now ↔ e.acquired? = some o := by
  cases e with
  | roomEnded start =>
    cases hs : start.filter Instant.isStart with
    | none => simp [Event.updates, hs, Event.acquired?]
    | some start =>
      simp only [Event.updates, hs, Event.lifetime]
      split <;> simp [Event.acquired?]
  | subscribeFailed error byUser =>
    cases byUser <;> simp [Event.updates, Event.failure, Event.acquired?, eq_comm]
  | subscribeRefused reason =>
    cases hb : reason.byUser <;> simp [Event.updates, Event.failure, Event.acquired?, hb, eq_comm]
  | _ => simp [Event.updates, Event.acquired?, eq_comm]

theorem acquire_mem_life (h : History) (o : Outlet) :
    .acquire o ∈ Desk.life h ↔ o ∈ Outlet.fixed ∨ ∃ e, h.reports e ∧ e.acquired? = some o := by
  simp only [Desk.life, List.mem_append, List.mem_map, Update.acquire.injEq, exists_eq_right,
    List.mem_flatMap, acquire_mem_updates, History.reports]
  constructor
  · intro h
    rcases h with ho | ⟨⟨now, e⟩, he, ha⟩
    · exact .inl ho
    · exact .inr ⟨e, ⟨now, he⟩, ha⟩
  · intro h
    rcases h with ho | ⟨e, ⟨now, he⟩, ha⟩
    · exact .inl ho
    · exact .inr ⟨(now, e), he, ha⟩

theorem acquired_of_fixed (h : History) {o : Outlet} (ho : o ∈ Outlet.fixed) :
    .acquire o ∈ Desk.life h := (acquire_mem_life h o).2 (.inl ho)

theorem acquired_of_reports {h : History} {e : Event} {o : Outlet} (hr : h.reports e)
    (ho : e.acquired? = some o) : .acquire o ∈ Desk.life h :=
  (acquire_mem_life h o).2 (.inr ⟨e, hr, ho⟩)

theorem acquired?_eq_failures (e : Event) (error : String) :
    e.acquired? = some (.subscribeFailures error) ↔ e.failure? = some error := by
  cases e <;> simp [Event.acquired?, Event.failure?]

/-- The booked series are those of the outlets that are acquired. -/
theorem booked_iff (s : Settings) (h : History) (shape : Shape) (id : SeriesId) :
    Booked s h shape id ↔ ∃ o, .acquire o ∈ Desk.life h ∧ o.shape = shape ∧ o.id s = id := by
  have outlet (o : Outlet) (ho : .acquire o ∈ Desk.life h) :
      ∃ p, .acquire p ∈ Desk.life h ∧ p.shape = o.shape ∧
        p.id s = s.series (o.metric.subsystem ++ "_" ++ o.metric.ownName) o.labels :=
    ⟨o, ho, rfl, o.id_eq_series s⟩
  constructor
  · intro hb
    cases hb with
    | rooms => exact outlet .rooms (acquired_of_fixed h (by decide))
    | lifetimes => exact outlet .lifetimes (acquired_of_fixed h (by decide))
    | participants => exact outlet .participants (acquired_of_fixed h (by decide))
    | subscribeAttempts => exact outlet .subscribeAttempts (acquired_of_fixed h (by decide))
    | subscribeSuccesses => exact outlet .subscribeSuccesses (acquired_of_fixed h (by decide))
    | @published kind hr =>
      exact outlet (.published kind)
        (hr.elim (acquired_of_reports · rfl) (acquired_of_reports · rfl))
    | @subscribed kind hr =>
      exact outlet (.subscribed kind)
        (hr.elim (acquired_of_reports · rfl) (acquired_of_reports · rfl))
    | @publishAttempts kind hr =>
      exact outlet (.publishAttempts kind) (acquired_of_reports hr rfl)
    | @publishSuccesses kind hr =>
      exact outlet (.publishSuccesses kind) (acquired_of_reports hr rfl)
    | @subscribeFailures e error hr he =>
      exact outlet (.subscribeFailures error)
        (acquired_of_reports hr ((acquired?_eq_failures e error).2 he))
  · intro hacquired
    obtain ⟨o, ho, rfl, rfl⟩ := hacquired
    rw [acquire_mem_life] at ho
    rw [Outlet.id_eq_series]
    cases o with
    | rooms => exact .rooms
    | lifetimes => exact .lifetimes
    | participants => exact .participants
    | subscribeAttempts => exact .subscribeAttempts
    | subscribeSuccesses => exact .subscribeSuccesses
    | published kind =>
      obtain ⟨e, hr, he⟩ := ho.resolve_left (by simp [Outlet.fixed])
      refine .published ?_
      cases e <;> simp_all [Event.acquired?]
    | subscribed kind =>
      obtain ⟨e, hr, he⟩ := ho.resolve_left (by simp [Outlet.fixed])
      refine .subscribed ?_
      cases e <;> simp_all [Event.acquired?]
    | publishAttempts kind =>
      obtain ⟨e, hr, he⟩ := ho.resolve_left (by simp [Outlet.fixed])
      refine .publishAttempts ?_
      cases e <;> simp_all [Event.acquired?]
    | publishSuccesses kind =>
      obtain ⟨e, hr, he⟩ := ho.resolve_left (by simp [Outlet.fixed])
      refine .publishSuccesses ?_
      cases e <;> simp_all [Event.acquired?]
    | subscribeFailures error =>
      obtain ⟨e, hr, he⟩ := ho.resolve_left (by simp [Outlet.fixed])
      exact .subscribeFailures hr ((acquired?_eq_failures e error).1 he)

section Registries
variable {α : Type} [Measure α] (s : Settings) (h : History)

/-- The registry of a reporter after a history, when it alone writes to it. -/
def Desk.booked (α : Type) [Measure α] (s : Settings) (h : History) : Registry α :=
  ({} : Registry α).actAll (acts s (Desk.life h))

theorem mem_keys_booked (shape : Shape) (id : SeriesId) :
    id ∈ (Desk.booked α s h).keys shape ↔ Booked s h shape id := by
  rw [Desk.booked, Registry.mem_keys_actAll, register_mem_acts, booked_iff]
  cases shape <;> simp [Registry.keys, Shelf.keys]

theorem nodup_keys_booked (shape : Shape) : ((Desk.booked α s h).keys shape).Nodup := by
  refine Registry.nodup_keys_actAll _ _ (fun t => ?_) shape
  cases t <;> exact List.nodup_nil

/-- There is one histogram, and it is there from the start. -/
theorem keys_histogram_booked :
    (Desk.booked α s h).keys .histogram = [s.series "room_duration_seconds" []] := by
  have hbooked (id : SeriesId) :
      Booked s h .histogram id ↔ id = s.series "room_duration_seconds" [] := by
    constructor
    · intro hb
      cases hb
      rfl
    · intro he
      rw [he]
      exact .lifetimes
  have hnodup := nodup_keys_booked (α := α) s h .histogram
  refine List.perm_singleton.1 ((List.perm_ext_iff_of_nodup hnodup (List.nodup_singleton _)).2 ?_)
  intro id
  rw [mem_keys_booked, hbooked, List.mem_singleton]

end Registries
end Roomwatch
