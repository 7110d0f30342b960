import Mathlib
import Roomwatch.Proofs.Handles

/-! What the calls of a reporter add up to.

Of all the updates that an event is made of, only a few are felt in a class of series:
`Event.moved` says how far it moves their gauges, `Event.counted` how often it counts in
them, and `Event.lifetime?` what it observes. A history adds these up, since the outlets
that its reporter acquires add nothing (`sum_life`). A single gauge feels its steps one
after the other, and no event takes more than one (`length_turns_life`). -/
namespace Roomwatch

open Number (Measure)
open Registry (Act)

abbrev History := List (Instant × Event)

/-! ### What events say -/

namespace Event

def endsRoom : Event → Bool
  | .roomEnded _ => true
  | _ => false

/-- Whether an event establishes a subscription, of whatever kind. -/
def subscribes : Event → Bool
  | .subscribed _ => true
  | _ => false

/-- The text that a failed subscription is told with. -/
def failure? : Event → Option String
  | .subscribeFailed error _ => some error
  | .subscribeRefused reason => some reason.label
  | _ => none

/-- The lifetime that an event has observed, in nanoseconds: that of a room whose start lies
after the first second of 1970, and zero for a start that is still to come. -/
def lifetime? (now : Instant) : Event → Option Nat
  | .roomEnded (some start) =>
    if 0 < start.seconds then some (start.elapsed now).toNat else none
  | _ => none

end Event

/-! ### What updates add up to -/

namespace Update

/-- How far an update moves the gauges of a class of outlets. -/
def moved (p : Outlet → Bool) : Update → Int
  | .move o d => if p o then d.sign else 0
  | _ => 0

/-- How often an update counts in a class of outlets. -/
def counted (p : Outlet → Bool) : Update → Nat
  | .count o => if p o then 1 else 0
  | _ => 0

/-- How far an update moves a field of the tally. -/
def tallied (field : Tally.Field) : Update → Int
  | .tally f d => if f = field then d.sign else 0
  | _ => 0

/-- The steps that an update makes of the gauge of an outlet. -/
def turns (o : Outlet) : Update → List Direction
  | .move p d => if p = o then [d] else []
  | _ => []

/-- The lifetimes that an update observes at an outlet, in nanoseconds. -/
def observed (o : Outlet) : Update → List Nat
  | .observe p nanos => if p = o then [nanos] else []
  | _ => []

end Update

section Sums
variable {α : Type} [Measure α]

theorem sum_steps_acts (s : Settings) (q : SeriesId → Bool) (updates : List Update) :
    ((acts s updates : List (Act α)).map (Act.steps q)).sum =
      (updates.map (Update.moved fun o => q (o.id s))).sum := by
  induction updates with
  | nil => rfl
  | cons u rest ih =>
    rw [acts, List.flatMap_cons, List.map_append, List.sum_append, List.map_cons, List.sum_cons]
    congr 1
    cases u <;> simp [Update.acts, Act.steps, Update.moved]

theorem sum_amounts_acts (s : Settings) (q : SeriesId → Bool) (updates : List Update) :
    ((acts s updates : List (Act α)).map (Act.amount q)).sum =
      UInt64.ofNat (updates.map (Update.counted fun o => q (o.id s))).sum := by
  induction updates with
  | nil => rfl
  | cons u rest ih =>
    rw [acts, List.flatMap_cons, List.map_append, List.sum_append, List.map_cons, List.sum_cons,
      UInt64.ofNat_add]
    congr 1
    cases u <;> simp [Update.acts, Act.amount, Update.counted]
    split <;> rfl

theorem turns_acts (s : Settings) (o : Outlet) (updates : List Update) :
    (acts s updates : List (Act α)).flatMap (Act.turns (o.id s)) =
      updates.flatMap (Update.turns o) := by
  induction updates with
  | nil => rfl
  | cons u rest ih =>
    rw [acts, List.flatMap_cons, List.flatMap_append, List.flatMap_cons]
    congr 1
    cases u <;> simp [Update.acts, Act.turns, Update.turns, Outlet.id_inj]

theorem sum_turns (o : Outlet) (updates : List Update) :
    ((updates.flatMap (Update.turns o)).map Direction.sign).sum =
      (updates.map (Update.moved fun p => p = o)).sum := by
  induction updates with
  | nil => rfl
  | cons u rest ih =>
    rw [List.flatMap_cons, List.map_append, List.sum_append, ih, List.map_cons, List.sum_cons]
    congr 1
    cases u with
    | move p d => by_cases hp : p = o <;> simp [Update.turns, Update.moved, hp]
    | _ => rfl

theorem values_acts (s : Settings) (o : Outlet) (updates : List Update) :
    (acts s updates : List (Act α)).flatMap (Act.values (o.id s)) =
      (updates.flatMap (Update.observed o)).map Measure.ofNanos := by
  induction updates with
  | nil => rfl
  | cons u rest ih =>
    rw [acts, List.flatMap_cons, List.flatMap_append, List.flatMap_cons, List.map_append]
    congr 1
    cases u <;> simp [Update.acts, Act.values, Update.observed, Outlet.id_inj]
    split <;> rfl

end Sums

/-! ### What events add up to -/

section Events
variable {M : Type} [AddCommMonoid M] (g : Update → M)

/-- Whatever an ended room observes and notes, it moves the rooms and their tally. -/
theorem sum_updates_roomEnded (now : Instant) (start : Option Instant)
    (hn : ∀ entry, g (.note entry) = 0) (ho : ∀ o nanos, g (.observe o nanos) = 0) :
    (((Event.roomEnded start).updates now).map g).sum =
      g (.move .rooms .down) + g (.tally .rooms .down) := by
  cases hs : start.filter Instant.isStart with
  | none => simp [Event.updates, hs]
  | some start =>
    simp only [Event.updates, hs, Event.lifetime]
    split <;> simp [hn, ho]

theorem sum_failure (error : String) (byUser : Bool) (hn : ∀ entry, g (.note entry) = 0) :
    ((Event.failure error byUser).map g).sum =
      g (.acquire (.subscribeFailures error)) + g (.count (.subscribeFailures error)) +
        if byUser then g (.tally .userErrors .up) else 0 := by
  cases byUser <;> simp [Event.failure, hn, add_assoc]

end Events

namespace Event

/-- How far an event moves the gauges of a class of outlets. -/
def moved (p : Outlet → Bool) : Event → Int
  | .roomStarted => if p .rooms then 1 else 0
  | .roomEnded _ => if p .rooms then -1 else 0
  | .participantJoined => if p .participants then 1 else 0
  | .participantLeft => if p .participants then -1 else 0
  | .trackPublished kind => if p (.published kind) then 1 else 0
  | .trackUnpublished kind => if p (.published kind) then -1 else 0
  | .subscribed kind => if p (.subscribed kind) then 1 else 0
  | .unsubscribed kind => if p (.subscribed kind) then -1 else 0
  | _ => 0

/-- How often an event counts in a class of outlets. -/
def counted (p : Outlet → Bool) : Event → Nat
  | .publishAttempted kind => if p (.publishAttempts kind) then 1 else 0
  | .publishSucceeded kind => if p (.publishSuccesses kind) then 1 else 0
  | .subscribeAttempted => if p .subscribeAttempts then 1 else 0
  | .subscribed _ => if p .subscribeSuccesses then 1 else 0
  | .subscribeFailed error _ => if p (.subscribeFailures error) then 1 else 0
  | .subscribeRefused reason => if p (.subscribeFailures reason.label) then 1 else 0
  | _ => 0

theorem sum_moved (p : Outlet → Bool) (now : Instant) (e : Event) :
    ((e.updates now).map (Update.moved p)).sum = e.moved p := by
  cases e with
  | roomEnded start =>
    rw [sum_updates_roomEnded _ _ _ (fun _ => rfl) (fun _ _ => rfl)]
    simp [Update.moved, moved, Direction.sign]
  | subscribeFailed error byUser =>
    rw [updates, sum_failure _ _ _ (fun _ => rfl)]
    simp [Update.moved, moved]
  | subscribeRefused reason =>
    rw [updates, sum_failure _ _ _ (fun _ => rfl)]
    simp [Update.moved, moved]
  | _ => simp [updates, Update.moved, moved, Direction.sign]

theorem sum_counted (p : Outlet → Bool) (now : Instant) (e : Event) :
    ((e.updates now).map (Update.counted p)).sum = e.counted p := by
  cases e with
  | roomEnded start =>
    rw [sum_updates_roomEnded _ _ _ (fun _ => rfl) (fun _ _ => rfl)]
    simp [Update.counted, counted]
  | subscribeFailed error byUser =>
    rw [updates, sum_failure _ _ _ (fun _ => rfl)]
    simp [Update.counted, counted]
  | subscribeRefused reason =>
    rw [updates, sum_failure _ _ _ (fun _ => rfl)]
    simp [Update.counted, counted]
  | _ => simp [updates, Update.counted, counted]

/-- No event takes more than one step of a gauge. -/
theorem sum_length_turns_le (o : Outlet) (now : Instant) (e : Event) :
    ((e.updates now).map fun u => (u.turns o).length).sum ≤ 1 := by
  have hmove (p : Outlet) (d : Direction) : ((Update.move p d).turns o).length ≤ 1 := by
    rw [Update.turns]
    split <;> simp
  cases e with
  | roomEnded start =>
    rw [sum_updates_roomEnded _ _ _ (fun _ => rfl) (fun _ _ => rfl)]
    exact hmove .rooms .down
  | subscribeFailed error byUser =>
    rw [updates, sum_failure _ _ _ (fun _ => rfl)]
    simp [Update.turns]
  | subscribeRefused reason =>
    rw [updates, sum_failure _ _ _ (fun _ => rfl)]
    simp [Update.turns]
  | roomStarted | participantJoined | participantLeft | trackPublished kind
  | trackUnpublished kind | subscribed kind | unsubscribed kind =>
    simpa [updates, Update.turns] using hmove _ _
  | _ => simp [updates, Update.turns]

/-- Only the end of a room observes a lifetime, and at most one. -/
theorem flatMap_observed (now : Instant) (e : Event) :
    (e.updates now).flatMap (Update.observed .lifetimes) = (e.lifetime? now).toList := by
  cases e with
  | roomEnded start =>
    cases start with
    | none => simp [updates, Update.observed, lifetime?]
    | some start =>
      by_cases hs : 0 < start.seconds
      · simp only [updates, lifetime?, Option.filter, Instant.isStart, hs, decide_true, if_true,
          lifetime]
        split <;> simp [Update.observed]
      · simp [updates, lifetime?, Option.filter, Instant.isStart, hs, Update.observed]
  | subscribeFailed error byUser =>
    cases byUser <;> simp [updates, failure, Update.observed, lifetime?]
  | subscribeRefused reason =>
    cases hb : reason.byUser <;> simp [updates, failure, Update.observed, lifetime?, hb]
  | _ => simp [updates, Update.observed, lifetime?]

end Event

section Lives
variable {M : Type} [AddCommMonoid M] (g : Update → M)

/-- Over the life of a reporter acquiring adds nothing, and the events add up. -/
theorem sum_life (history : History) (ha : ∀ o, g (.acquire o) = 0) :
    ((Desk.life history).map g).sum =
      (history.map fun timed => ((timed.2.updates timed.1).map g).sum).sum := by
  rw [Desk.life, List.map_append, List.sum_append, List.map_map]
  have : ((Outlet.fixed.map (g ∘ Update.acquire)).sum) = 0 := by
    simp [Outlet.fixed, ha]
  rw [this, zero_add]
  induction history with
  | nil => rfl
  | cons timed rest ih =>
    rw [List.flatMap_cons, List.map_append, List.sum_append, ih, List.map_cons, List.sum_cons]

end Lives

section Turns
variable (h : History)

/-- A reporter takes no more steps of a gauge than it has calls. -/
theorem length_turns_life (o : Outlet) :
    ((Desk.life h).flatMap (Update.turns o)).length ≤ h.length := by
  rw [List.length_flatMap, sum_life _ h (fun _ => rfl)]
  have hone : ∀ n ∈ h.map fun timed =>
      ((timed.2.updates timed.1).map fun u => (u.turns o).length).sum, n ≤ 1 := by
    intro n hn
    obtain ⟨timed, -, rfl⟩ := List.mem_map.1 hn
    exact timed.2.sum_length_turns_le o timed.1
  simpa using List.sum_le_card_nsmul _ 1 hone

theorem sum_turns_life (o : Outlet) :
    (((Desk.life h).flatMap (Update.turns o)).map Direction.sign).sum =
      (h.map fun timed => timed.2.moved fun p => p = o).sum := by
  rw [sum_turns, sum_life _ h (fun _ => rfl)]
  simp only [Event.sum_moved]

end Turns
end Roomwatch
