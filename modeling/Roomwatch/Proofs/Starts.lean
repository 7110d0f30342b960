import Mathlib
import Roomwatch.Proofs.Gathering

/-! Which rooms have their lifetime observed.

A start that is not known, or that lies at the epoch or before it, is not to be counted,
and neither is the lifetime of its room. The line that `Instant.isStart` draws is another
one: it asks for the whole second that a start lies in, so it also leaves out every start
within the first second of 1970 (`isStart_add_inFirstSecond`). That is the only difference.
`Recorder.observations` is the number of lifetimes that a recorder has taken in, drained
or waiting. From any state, however calls and drains alternate, it grows by the number of
rooms that started after the epoch, less those that started within that second
(`Desk.observations_serve`). -/
namespace Roomwatch

open Number (Measure nanosPerSecond)

/-! ### Starts -/

namespace Instant

/-- Later than the start of 1970. -/
def afterEpoch (t : Instant) : Bool := 0 < t.nanos

/-- Later than the start of 1970, but in its first second. -/
def inFirstSecond (t : Instant) : Bool := 0 < t.nanos ∧ t.nanos < nanosPerSecond

theorem seconds_pos_iff (t : Instant) : 0 < t.seconds ↔ (nanosPerSecond : Int) ≤ t.nanos := by
  rw [seconds, Int.fdiv_eq_ediv_of_nonneg _ (by decide)]
  unfold nanosPerSecond
  omega

/-- A start counts, or lies in the first second, just when it is after the epoch. -/
theorem isStart_add_inFirstSecond (t : Instant) :
    t.isStart.toNat + t.inFirstSecond.toNat = t.afterEpoch.toNat := by
  have hline := t.seconds_pos_iff
  unfold isStart inFirstSecond afterEpoch
  unfold nanosPerSecond at *
  by_cases hearly : t.nanos < 1000000000
  · have : ¬ 0 < t.seconds := by omega
    simp [this, hearly]
  · have : 0 < t.seconds := by omega
    have hafter : 0 < t.nanos := by omega
    simp [this, hearly, hafter]

end Instant

namespace Event

/-- Whether a room ended whose start is known and of a kind. -/
def endsStarted (p : Instant → Bool) : Event → Bool
  | .roomEnded start => start.any p
  | _ => false

theorem length_lifetime? (now : Instant) (e : Event) :
    (e.lifetime? now).toList.length + (e.endsStarted Instant.inFirstSecond).toNat =
      (e.endsStarted Instant.afterEpoch).toNat := by
  cases e with
  | roomEnded start =>
    cases start with
    | none => rfl
    | some start =>
      have hstart := start.isStart_add_inFirstSecond
      unfold Instant.isStart at hstart
      by_cases hs : 0 < start.seconds <;> simpa [lifetime?, endsStarted, hs] using hstart
  | _ => rfl

end Event

/-! ### Observations -/

section Observations
variable {α : Type} [Measure α]

/-- How many observations a histogram has taken in, drained or waiting. -/
def Recorder.observations (r : Recorder α) (id : SeriesId) : Nat :=
  ((r.settled.get? id).getD Distribution.empty).count + (r.registry.waiting id).length

theorem Recorder.observations_drain {r : Recorder α} {id : SeriesId}
    (h : id ∈ r.registry.keys .histogram) : r.drain.observations id = r.observations id := by
  have hsettled : r.drain.settled.get? id = some (r.drained id (r.registry.waiting id)) := by
    rw [Recorder.drain, Shelf.get?_map r.drained]
    exact congrArg _ (Registry.waiting?_of_mem h)
  rw [observations, hsettled, waiting_drain]
  rfl

namespace Desk
variable (keeps : Outlet → Bool) {d : Desk α}

/-- The number of lifetimes that the recorder of a desk has taken in. -/
def observations (d : Desk α) : Nat := d.recorder.observations (Outlet.lifetimes.id d.settings)

theorem observations_perform (h : d.Ready) (now : Instant) (e : Event) :
    (d.perform keeps now e).observations =
      d.observations + (e.lifetime? now).toList.length := by
  obtain ⟨-, hregistry⟩ := registry_applyAll keeps h.toSound (e.updates now)
  have hsettled : (d.perform keeps now e).recorder.settled = d.recorder.settled := by
    rw [perform, recorder_applyAll]
  have hsettings : (d.perform keeps now e).settings = d.settings := settings_applyAll ..
  rw [observations, hsettings, Recorder.observations, hsettled, perform, hregistry,
    Registry.waiting_actAll _ (accepts_updates d.settings now e h.fixed), values_acts,
    Event.flatMap_observed, List.length_append, List.length_map, ← Nat.add_assoc]
  rfl

/-- **A room has its lifetime observed once when it started after the epoch**, and otherwise not,
but for rooms that started within the first second of 1970: these are never observed, as if they
had started at the epoch. -/
theorem observations_serve (h : d.Ready) (calls : List Call) :
    (d.serve keeps calls).observations +
        (events calls).countP (fun timed => timed.2.endsStarted Instant.inFirstSecond) =
      d.observations +
        (events calls).countP (fun timed => timed.2.endsStarted Instant.afterEpoch) := by
  induction calls generalizing d with
  | nil => rfl
  | cons call rest ih =>
    cases call with
    | event now e =>
      have hrest := ih (h.perform keeps now e)
      have hone := e.length_lifetime? now
      rw [observations_perform keeps h now e] at hrest
      rw [events, List.countP_cons, List.countP_cons]
      simp only [Bool.toNat, Bool.cond_eq_ite] at hone
      rw [serve, answer]
      dsimp only
      omega
    | drain =>
      have hrest := ih h.drain
      have hdrain : Desk.observations { d with recorder := d.recorder.drain } = d.observations :=
        Recorder.observations_drain (h.fixed .lifetimes (by decide))
      rw [hdrain] at hrest
      exact hrest

end Desk
end Observations

/-- Of three rooms that ended one started in the first second, one a second later and one at the
epoch itself. One lifetime is observed. -/
theorem Desk.observations_serve_three :
    let d := opened Outlet.isKept Settings.specimen true ({} : Recorder Number.Exact)
    let calls : List Call := [.event ⟨10 * nanosPerSecond⟩ (.roomEnded (some ⟨500000000⟩)), .drain,
      .event ⟨10 * nanosPerSecond⟩ (.roomEnded (some ⟨1500000000⟩)),
      .event ⟨10 * nanosPerSecond⟩ (.roomEnded (some ⟨0⟩))]
    d.Ready ∧ (d.serve Outlet.isKept calls).observations + 1 = d.observations + 2 := by
  intro d calls
  have hready : d.Ready := ready_opened Outlet.isKept Settings.specimen true
  exact ⟨hready, observations_serve Outlet.isKept hready calls⟩

/-- A room that started half a second after the epoch and ended at ten seconds has no lifetime
observed. -/
theorem Desk.observations_half_second :
    let d := opened Outlet.isKept Settings.specimen true ({} : Recorder Number.Exact)
    let start : Instant := ⟨500000000⟩
    start.afterEpoch = true ∧
      (d.perform Outlet.isKept ⟨10 * nanosPerSecond⟩ (.roomEnded (some start))).observations ≠
        d.observations + 1 := by
  intro d start
  have hready : d.Ready := ready_opened Outlet.isKept Settings.specimen true
  have hsame := observations_perform Outlet.isKept hready ⟨10 * nanosPerSecond⟩
    (.roomEnded (some start))
  rw [show (Event.roomEnded (some start)).lifetime? ⟨10 * nanosPerSecond⟩ = none from rfl] at hsame
  refine ⟨rfl, ?_⟩
  rw [hsame]
  simp

end Roomwatch
