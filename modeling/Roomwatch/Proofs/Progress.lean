import Mathlib
import Roomwatch.Proofs.Agreement

/-! How far series and tally are apart within a call.

Of the updates of an event only a few are felt in counters, gauges or the tally
(`Event.felt`), and their order decides which of the two views is ahead: a failure and a
success are counted before they are tallied (`along_counted_first`), an attempt is
tallied before it is counted (`along_tallied_first`), and a gauge and its number are one
step apart at most (`along_moved`). `Along` says so of every first part of the updates,
so of every point that a call can have come to. -/
namespace Roomwatch

/-! ### What an event is felt by -/

/-- Whether an update only prepares or reports: it is felt neither in a counter or a gauge nor
in the tally. -/
def Update.isQuiet : Update → Bool
  | .acquire _ | .observe _ _ | .note _ => true
  | .move _ _ | .count _ | .tally _ _ => false

namespace Event

/-- What is felt of a failed subscription. -/
def feltFailure (error : String) (byUser : Bool) : List Update :=
  .count (.subscribeFailures error) :: if byUser then [.tally .userErrors .up] else []

/-- The updates of an event that are felt in counters, gauges or the tally, in order. -/
def felt : Event → List Update
  | .roomStarted => [.move .rooms .up, .tally .rooms .up]
  | .roomEnded _ => [.move .rooms .down, .tally .rooms .down]
  | .participantJoined => [.move .participants .up, .tally .participants .up]
  | .participantLeft => [.move .participants .down, .tally .participants .down]
  | .trackPublished kind => [.move (.published kind) .up, .tally .published .up]
  | .trackUnpublished kind => [.move (.published kind) .down, .tally .published .down]
  | .publishAttempted kind => [.tally .publishAttempts .up, .count (.publishAttempts kind)]
  | .publishSucceeded kind => [.tally .publishSuccesses .up, .count (.publishSuccesses kind)]
  | .subscribeAttempted => [.tally .subscribeAttempts .up, .count .subscribeAttempts]
  | .subscribed kind => [.move (.subscribed kind) .up, .count .subscribeSuccesses,
    .tally .subscribed .up, .tally .subscribeSuccesses .up]
  | .unsubscribed kind => [.move (.subscribed kind) .down, .tally .subscribed .down]
  | .subscribeFailed error byUser => feltFailure error byUser
  | .subscribeRefused reason => feltFailure reason.label reason.byUser

theorem filter_failure (error : String) (byUser : Bool) :
    ((failure error byUser).filter fun u => !u.isQuiet) = feltFailure error byUser := by
  cases byUser <;> rfl

theorem filter_updates (now : Instant) (e : Event) :
    ((e.updates now).filter fun u => !u.isQuiet) = e.felt := by
  cases e with
  | roomEnded start =>
    cases hs : start.filter Instant.isStart with
    | none => simp [updates, hs, Update.isQuiet, felt]
    | some start =>
      simp only [updates, hs, lifetime]
      split <;> simp [Update.isQuiet, felt]
  | subscribeFailed error byUser => exact filter_failure error byUser
  | subscribeRefused reason => exact filter_failure reason.label reason.byUser
  | _ => rfl

end Event

/-! ### At every point of a call -/

/-- What `g` adds up to has a property at every point of a list of updates, from a first
value on. -/
def Along (P : Int → Prop) (g : Update → Int) : Int → List Update → Prop
  | n, [] => P n
  | n, u :: rest => P n ∧ Along P g (n + g u) rest

section Along
variable {P : Int → Prop} {g : Update → Int} {n : Int}

theorem Along.first {updates : List Update} (h : Along P g n updates) : P n := by
  cases updates with
  | nil => exact h
  | cons u rest => exact h.1

theorem Along.made {made rest : List Update} (h : Along P g n (made ++ rest)) :
    P (n + (made.map g).sum) := by
  induction made generalizing n with
  | nil =>
    rw [List.map_nil, List.sum_nil, add_zero]
    exact h.first
  | cons u later ih =>
    rw [List.map_cons, List.sum_cons, ← add_assoc]
    exact ih h.2

/-- Updates that add nothing can be left out. -/
theorem Along.of_filter {skips : Update → Bool} (hg : ∀ u, skips u = true → g u = 0)
    {updates : List Update} (h : Along P g n (updates.filter fun u => !skips u)) :
    Along P g n updates := by
  induction updates generalizing n with
  | nil => exact h
  | cons u rest ih =>
    cases hu : skips u with
    | true =>
      rw [List.filter_cons_of_neg (by simp [hu])] at h
      refine ⟨h.first, ?_⟩
      rw [hg u hu, add_zero]
      exact ih h
    | false =>
      rw [List.filter_cons_of_pos (by simp [hu])] at h
      exact ⟨h.1, ih h.2⟩

end Along

/-- Whether the series of an outlet is one that a field of the tally follows. -/
def Tally.Field.follows : Tally.Field → Outlet → Bool
  | .rooms, .rooms | .participants, .participants | .published, .published _
  | .subscribed, .subscribed _ | .publishAttempts, .publishAttempts _
  | .publishSuccesses, .publishSuccesses _ | .subscribeAttempts, .subscribeAttempts
  | .subscribeSuccesses, .subscribeSuccesses | .userErrors, .subscribeFailures _ => true
  | _, _ => false

namespace Tally.Field

/-- The fields that are tallied before what they follow is counted. -/
def early : List Tally.Field := [.publishAttempts, .publishSuccesses, .subscribeAttempts]

/-- The fields that are tallied after what they follow is counted. -/
def late : List Tally.Field := [.subscribeSuccesses, .userErrors]

/-- The fields that follow gauges. -/
def levels : List Tally.Field := [.rooms, .participants, .published, .subscribed]

end Tally.Field

namespace Update

/-- How much more an update counts in the series that a field follows than in the field. -/
def excess (field : Tally.Field) (u : Update) : Int := u.counted field.follows - u.tallied field

/-- How much further an update moves the gauges that a field follows than the field. -/
def drift (field : Tally.Field) (u : Update) : Int := u.moved field.follows - u.tallied field

theorem counted_mono {p q : Outlet → Bool} (h : ∀ o, p o = true → q o = true) (u : Update) :
    u.counted p ≤ u.counted q := by
  cases u with
  | count o =>
    have ho := h o
    simp only [counted]
    split <;> simp_all
  | _ => exact le_refl _

theorem sum_counted_eq (field : Tally.Field) (updates : List Update) :
    ((updates.map (counted field.follows)).sum : Int) =
      (updates.map (excess field)).sum + (updates.map (tallied field)).sum := by
  rw [← List.sum_map_add, Nat.cast_list_sum, List.map_map]
  simp [excess, Function.comp_def]

theorem sum_moved_eq (field : Tally.Field) (updates : List Update) :
    (updates.map (moved field.follows)).sum =
      (updates.map (drift field)).sum + (updates.map (tallied field)).sum := by
  rw [← List.sum_map_add]
  simp [drift]

theorem excess_of_isQuiet (field : Tally.Field) (u : Update) (h : u.isQuiet = true) :
    u.excess field = 0 := by
  cases u <;> simp_all [isQuiet, excess, counted, tallied]

theorem drift_of_isQuiet (field : Tally.Field) (u : Update) (h : u.isQuiet = true) :
    u.drift field = 0 := by
  cases u <;> simp_all [isQuiet, drift, moved, tallied]

end Update

namespace Event

/-- Failures and successes are counted before they are tallied. -/
theorem along_counted_first {field : Tally.Field}
    (h : field ∈ Tally.Field.late) (e : Event) (now : Instant) :
    Along (0 ≤ ·) (Update.excess field) 0 (e.updates now) := by
  refine Along.of_filter (Update.excess_of_isQuiet field) ?_
  rw [filter_updates]
  simp only [Tally.Field.late, List.mem_cons, List.not_mem_nil, or_false] at h
  rcases h with rfl | rfl
  all_goals cases e with
  | subscribeFailed error byUser =>
    cases byUser <;> simp [felt, feltFailure, Along, Update.excess, Update.counted,
      Update.tallied, Tally.Field.follows, Direction.sign]
  | subscribeRefused reason =>
    cases reason <;> simp [felt, feltFailure, Along, Update.excess, Update.counted,
      Update.tallied, Tally.Field.follows, Direction.sign, Refusal.byUser]
  | _ =>
    simp [felt, Along, Update.excess, Update.counted, Update.tallied, Tally.Field.follows,
      Direction.sign]

/-- Attempts, and successes of publishing, are tallied before they are counted. -/
theorem along_tallied_first {field : Tally.Field}
    (h : field ∈ Tally.Field.early) (e : Event) (now : Instant) :
    Along (· ≤ 0) (Update.excess field) 0 (e.updates now) := by
  refine Along.of_filter (Update.excess_of_isQuiet field) ?_
  rw [filter_updates]
  simp only [Tally.Field.early, List.mem_cons, List.not_mem_nil, or_false] at h
  rcases h with rfl | rfl | rfl
  all_goals cases e with
  | subscribeFailed error byUser =>
    cases byUser <;> simp [felt, feltFailure, Along, Update.excess, Update.counted,
      Update.tallied, Tally.Field.follows]
  | subscribeRefused reason =>
    cases reason <;> simp [felt, feltFailure, Along, Update.excess, Update.counted,
      Update.tallied, Tally.Field.follows, Refusal.byUser]
  | _ =>
    simp [felt, Along, Update.excess, Update.counted, Update.tallied, Tally.Field.follows,
      Direction.sign]

/-- A gauge and its number are one step apart at most, and only while a call moves them. -/
theorem along_moved {field : Tally.Field}
    (h : field ∈ Tally.Field.levels) (e : Event) (now : Instant) :
    Along (fun n => |n| ≤ if e.tallied field ≠ 0 then 1 else 0) (Update.drift field) 0
      (e.updates now) := by
  refine Along.of_filter (Update.drift_of_isQuiet field) ?_
  rw [filter_updates]
  simp only [Tally.Field.levels, List.mem_cons, List.not_mem_nil, or_false] at h
  rcases h with rfl | rfl | rfl | rfl
  all_goals cases e with
  | subscribeFailed error byUser =>
    cases byUser <;> simp [felt, feltFailure, Along, Update.drift, Update.moved, Update.tallied,
      tallied]
  | subscribeRefused reason =>
    cases reason <;> simp [felt, feltFailure, Along, Update.drift, Update.moved, Update.tallied,
      tallied, Refusal.byUser]
  | _ =>
    simp [felt, Along, Update.drift, Update.moved, Update.tallied, Tally.Field.follows,
      Direction.sign, tallied]

/-- A call that has made all of its updates has moved a gauge and its number alike. -/
theorem sum_drift {field : Tally.Field}
    (h : field ∈ Tally.Field.levels) (e : Event) (now : Instant) :
    ((e.updates now).map (Update.drift field)).sum = 0 := by
  have hsum := Update.sum_moved_eq field (e.updates now)
  have hsame : e.moved field.follows = e.tallied field := by
    simp only [Tally.Field.levels, List.mem_cons, List.not_mem_nil, or_false] at h
    rcases h with rfl | rfl | rfl | rfl
    all_goals cases e <;> simp [moved, tallied, Tally.Field.follows]
  rw [sum_moved, sum_tallied, hsame] at hsum
  omega

end Event

end Roomwatch
