import Roomwatch.Reporter.Desk

/-! The slots of a reporter.

A reporter holds on to series in slots: five that are filled when it is opened, and a row
of four for each known track kind, which are filled when they are first used. The row of a
kind is found by its place among the known kinds, so a kind of another name has none and
its series are asked of the recorder each time; so are those of failed subscriptions.
`SlotDesk` is a reporter with its slots, where `Desk` has a shelf of what it holds. -/
namespace Roomwatch

open Number (Measure)

/-- The place of a kind among the known ones. -/
def TrackKind.place? (kind : String) : Option (Fin TrackKind.all.length) :=
  TrackKind.all.findFinIdx? fun known => known.label = kind

/-- What the series of a kind are for. -/
inductive KindUse where
  | published | subscribed | publishAttempts | publishSuccesses
deriving DecidableEq, Repr

/-- The series of one kind, as far as they were used. -/
structure KindSlots where
  published : Option SeriesId := none
  subscribed : Option SeriesId := none
  publishAttempts : Option SeriesId := none
  publishSuccesses : Option SeriesId := none
deriving Repr

namespace KindSlots

def get (row : KindSlots) : KindUse → Option SeriesId
  | .published => row.published
  | .subscribed => row.subscribed
  | .publishAttempts => row.publishAttempts
  | .publishSuccesses => row.publishSuccesses

def put (row : KindSlots) (id : SeriesId) : KindUse → KindSlots
  | .published => { row with published := some id }
  | .subscribed => { row with subscribed := some id }
  | .publishAttempts => { row with publishAttempts := some id }
  | .publishSuccesses => { row with publishSuccesses := some id }

theorem get_put (row : KindSlots) (id : SeriesId) (use other : KindUse) :
    (row.put id use).get other = if other = use then some id else row.get other := by
  cases use <;> cases other <;> rfl

end KindSlots

/-- Where a reporter holds a series. -/
inductive Slot where
  | rooms | lifetimes | participants | subscribeAttempts | subscribeSuccesses
  | kind (row : Fin TrackKind.all.length) (use : KindUse)
deriving DecidableEq, Repr

/-- The slot of an outlet, if it has one. -/
def Outlet.slot? : Outlet → Option Slot
  | .rooms => some .rooms
  | .lifetimes => some .lifetimes
  | .participants => some .participants
  | .published kind => (TrackKind.place? kind).map (.kind · .published)
  | .subscribed kind => (TrackKind.place? kind).map (.kind · .subscribed)
  | .publishAttempts kind => (TrackKind.place? kind).map (.kind · .publishAttempts)
  | .publishSuccesses kind => (TrackKind.place? kind).map (.kind · .publishSuccesses)
  | .subscribeAttempts => some .subscribeAttempts
  | .subscribeSuccesses => some .subscribeSuccesses
  | .subscribeFailures _ => none

structure Slots where
  rooms : SeriesId
  lifetimes : SeriesId
  participants : SeriesId
  subscribeAttempts : SeriesId
  subscribeSuccesses : SeriesId
  kinds : Vector KindSlots TrackKind.all.length := .replicate _ {}
deriving Repr

namespace Slots

def get (s : Slots) : Slot → Option SeriesId
  | .rooms => some s.rooms
  | .lifetimes => some s.lifetimes
  | .participants => some s.participants
  | .subscribeAttempts => some s.subscribeAttempts
  | .subscribeSuccesses => some s.subscribeSuccesses
  | .kind row use => s.kinds[row].get use

/-- Fills a slot of a kind; all others are full from the start. -/
def put (s : Slots) (id : SeriesId) : Slot → Slots
  | .kind row use => { s with kinds := s.kinds.set row (s.kinds[row].put id use) }
  | _ => s

/-- What is held of an outlet. -/
def held? (s : Slots) (o : Outlet) : Option SeriesId := o.slot?.bind s.get

end Slots

structure SlotDesk (α : Type) where
  settings : Settings
  slots : Slots
  recorder : Recorder α
  tally : Tally := {}
  journal : List Entry := []
deriving Repr

namespace SlotDesk
variable {α : Type} [Measure α]

/-- The series through which an outlet is written: the one in its slot, or else the one that is
registered for the occasion. -/
def handle (d : SlotDesk α) (o : Outlet) : SeriesId := (d.slots.held? o).getD (o.id d.settings)

/-- Registers the series of an outlet, unless its slot is full. -/
def acquire (d : SlotDesk α) (o : Outlet) : SlotDesk α :=
  match d.slots.held? o with
  | some _ => d
  | none =>
    { d with
      recorder := d.recorder.register o.shape (o.id d.settings)
      slots := o.slot?.elim d.slots (d.slots.put (o.id d.settings)) }

def write (d : SlotDesk α) (f : Registry α → Registry α) : SlotDesk α :=
  { d with recorder := d.recorder.update f }

def apply (d : SlotDesk α) : Update → SlotDesk α
  | .acquire o => d.acquire o
  | .move o direction => d.write fun r => r.move (d.handle o) direction
  | .count o => d.write fun r => r.count (d.handle o) 1
  | .observe o nanos => d.write fun r => r.observe (d.handle o) (Measure.ofNanos nanos)
  | .tally field direction => { d with tally := d.tally.step field direction }
  | .note entry => { d with journal := d.journal ++ [entry] }

def applyAll (d : SlotDesk α) (updates : List Update) : SlotDesk α := updates.foldl apply d

def perform (now : Instant) (d : SlotDesk α) (e : Event) : SlotDesk α := d.applyAll (e.updates now)

def run (d : SlotDesk α) : List (Instant × Event) → SlotDesk α
  | [] => d
  | (now, e) :: rest => run (d.perform now e) rest

/-- A new reporter: the metrics are described, and the series of the first five slots are
registered, one after the other. -/
def opened (settings : Settings) (exposed : Bool) (recorder : Recorder α) : SlotDesk α :=
  let described := (Desk.describe { settings, recorder }).recorder
  { settings
    slots :=
      { rooms := Outlet.rooms.id settings
        lifetimes := Outlet.lifetimes.id settings
        participants := Outlet.participants.id settings
        subscribeAttempts := Outlet.subscribeAttempts.id settings
        subscribeSuccesses := Outlet.subscribeSuccesses.id settings }
    recorder := Outlet.fixed.foldl (fun r o => r.register o.shape (o.id settings)) described
    journal := [.started settings exposed] }

end SlotDesk
end Roomwatch
