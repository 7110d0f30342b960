import Roomwatch.Registry.Recorder
import Roomwatch.Reporter.Event

/-! A reporter at its desk.

A `Desk` is all that the calls of one reporter can reach: its settings, the
series it holds on to, the recorder it writes to, its tally, and the journal of
what it noted. `Desk.apply` makes one update and `Desk.perform` one event, all of
whose updates then come one after the other. A series that is held is written
through what is held, without asking the recorder again; which outlets are held
is a parameter, so that it can be asked whether holding makes a difference. -/
namespace Roomwatch

open Number (Measure)

structure Desk (α : Type) where
  settings : Settings
  handles : Shelf Outlet SeriesId := []
  recorder : Recorder α := {}
  tally : Tally := {}
  journal : List Entry := []
deriving Repr

namespace Desk
variable {α : Type} [Measure α]

/-- The series through which an outlet is written: the one that is held, or else the one
that its settings name. -/
def handle (d : Desk α) (o : Outlet) : SeriesId := (d.handles.get? o).getD (o.id d.settings)

/-- Registers the series of an outlet, unless it is held. -/
def acquire (keeps : Outlet → Bool) (d : Desk α) (o : Outlet) : Desk α :=
  match d.handles.get? o with
  | some _ => d
  | none =>
    { d with
      recorder := d.recorder.register o.shape (o.id d.settings)
      handles := if keeps o then d.handles.insertIfNew o (o.id d.settings) else d.handles }

def write (d : Desk α) (f : Registry α → Registry α) : Desk α :=
  { d with recorder := d.recorder.update f }

def note (d : Desk α) (entry : Entry) : Desk α := { d with journal := d.journal ++ [entry] }

def apply (keeps : Outlet → Bool) (d : Desk α) : Update → Desk α
  | .acquire o => d.acquire keeps o
  | .move o direction => d.write fun r => r.move (d.handle o) direction
  | .count o => d.write fun r => r.count (d.handle o) 1
  | .observe o nanos => d.write fun r => r.observe (d.handle o) (Measure.ofNanos nanos)
  | .tally field direction => { d with tally := d.tally.step field direction }
  | .note entry => d.note entry

def applyAll (keeps : Outlet → Bool) (d : Desk α) (updates : List Update) : Desk α :=
  updates.foldl (apply keeps) d

/-- One event, by a clock that shows `now`. -/
def perform (keeps : Outlet → Bool) (now : Instant) (d : Desk α) (e : Event) : Desk α :=
  d.applyAll keeps (e.updates now)

/-- A history of events, each with the clock at its time. -/
def run (keeps : Outlet → Bool) (d : Desk α) : List (Instant × Event) → Desk α
  | [] => d
  | (now, e) :: rest => run keeps (d.perform keeps now e) rest

/-- Describes all metrics to the recorder. -/
def describe (d : Desk α) : Desk α :=
  { d with
    recorder := Metric.all.foldl
      (fun r m => r.describe m.shape (m.name d.settings) m.description) d.recorder }

/-- The desk of a new reporter over a recorder: the metrics are described, and the fixed
outlets are registered and held. -/
def opened (keeps : Outlet → Bool) (settings : Settings) (exposed : Bool) (recorder : Recorder α) :
    Desk α :=
  let bare : Desk α := { settings, recorder }
  (Outlet.fixed.foldl (acquire keeps) bare.describe).note (.started settings exposed)

/-! ### Runs -/

theorem run_append (keeps : Outlet → Bool) (d : Desk α) (a b : List (Instant × Event)) :
    d.run keeps (a ++ b) = (d.run keeps a).run keeps b := by
  induction a generalizing d with
  | nil => rfl
  | cons timed rest ih => exact ih _

/-- A run makes the updates of its events, one event after the other. -/
theorem run_eq_applyAll (keeps : Outlet → Bool) (d : Desk α) (history : List (Instant × Event)) :
    d.run keeps history =
      d.applyAll keeps (history.flatMap fun timed => timed.2.updates timed.1) := by
  induction history generalizing d with
  | nil => rfl
  | cons timed rest ih =>
    simp only [run, List.flatMap_cons, applyAll, List.foldl_append] at *
    rw [ih]
    rfl

/-! ### What an update leaves alone -/

theorem settings_apply (keeps : Outlet → Bool) (d : Desk α) (u : Update) :
    (d.apply keeps u).settings = d.settings := by
  cases u <;> simp only [apply, write, note, acquire]
  split <;> rfl

theorem settings_applyAll (keeps : Outlet → Bool) (d : Desk α) (updates : List Update) :
    (d.applyAll keeps updates).settings = d.settings := by
  induction updates generalizing d with
  | nil => rfl
  | cons u rest ih =>
    show ((d.apply keeps u).applyAll keeps rest).settings = _
    rw [ih, settings_apply]

/-- An event never changes the settings of its reporter. -/
theorem settings_run (keeps : Outlet → Bool) (d : Desk α) (history : List (Instant × Event)) :
    (d.run keeps history).settings = d.settings := by
  rw [run_eq_applyAll, settings_applyAll]

/-- A held outlet is not registered again. -/
theorem acquire_of_held {keeps : Outlet → Bool} {d : Desk α} {o : Outlet} {id : SeriesId}
    (h : d.handles.get? o = some id) : d.acquire keeps o = d := by
  simp [acquire, h]

end Desk
end Roomwatch
