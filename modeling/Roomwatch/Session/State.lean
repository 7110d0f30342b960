import Roomwatch.Endpoint
import Roomwatch.Reporter.Desk

/-! What a session holds.

A host program has reporters, recorders, tallies and scrape routes, and they
outlive each other: a route goes on serving a recorder whose reporter is gone, a
held tally goes on showing what its reporter counts. So recorders and tallies are
numbered and kept for good, and everything else refers to their numbers.
`Session.desk` puts a reporter at its desk and `Session.leave` takes back what it
changed there, which is its recorder and its tally and nothing else. -/
namespace Roomwatch

open Number (Measure)

structure Reporter where
  settings : Settings
  handles : Shelf Outlet SeriesId
  /-- The number of its recorder. -/
  recorder : Nat
  /-- The number of its tally. -/
  tally : Nat
  /-- Whether its recorder is its own and can be exposed. -/
  exposed : Bool
deriving DecidableEq, Repr

structure Session (α : Type) where
  /-- Which outlets reporters hold on to. -/
  keeps : Outlet → Bool := Outlet.isKept
  /-- What the clock shows. -/
  now : Instant
  recorders : List (Recorder α) := []
  tallies : List Tally := []
  /-- The recorders that reporters share, by name. -/
  shared : Shelf String Nat := []
  reporters : Shelf String Reporter := []
  held : Shelf String Nat := []
  routes : Shelf String Nat := []
  /-- The one reporter that the whole program uses, once it is started. -/
  resident : Option Reporter := none

namespace Session
variable {α : Type} [Measure α]

def recorder (s : Session α) (number : Nat) : Recorder α := s.recorders[number]?.getD {}

def tally (s : Session α) (number : Nat) : Tally := s.tallies[number]?.getD {}

def setRecorder (s : Session α) (number : Nat) (r : Recorder α) : Session α :=
  { s with recorders := s.recorders.set number r }

/-- The number of a new recorder. -/
def addRecorder (s : Session α) : Session α × Nat :=
  ({ s with recorders := s.recorders ++ [{}] }, s.recorders.length)

/-- The number of a shared recorder, which is there from its first mention on. -/
def share (s : Session α) (name : String) : Session α × Nat :=
  match s.shared.get? name with
  | some number => (s, number)
  | none =>
    let (s, number) := s.addRecorder
    ({ s with shared := s.shared.insertIfNew name number }, number)

/-! ### Reporters at their desks -/

/-- The desk of a reporter, with an empty journal. -/
def desk (s : Session α) (r : Reporter) : Desk α :=
  { settings := r.settings
    handles := r.handles
    recorder := s.recorder r.recorder
    tally := s.tally r.tally }

/-- Takes back what was changed at a reporter's desk. -/
def leave (s : Session α) (r : Reporter) (d : Desk α) : Session α × Reporter :=
  ({ s with
      recorders := s.recorders.set r.recorder d.recorder
      tallies := s.tallies.set r.tally d.tally },
    { r with handles := d.handles })

/-- A reporter is told of events, one after the other. -/
def report (s : Session α) (r : Reporter) (events : List Event) :
    Session α × Reporter × List Entry :=
  let d := (s.desk r).run s.keeps (events.map fun e => (s.now, e))
  let (s, r) := s.leave r d
  (s, r, d.journal)

/-- A new reporter over a recorder, with a tally of its own. -/
def establish (s : Session α) (settings : Settings) (exposed : Bool) (number : Nat) :
    Session α × Reporter × List Entry :=
  let d := Desk.opened s.keeps settings exposed (s.recorder number)
  let reporter : Reporter :=
    { settings, handles := d.handles, recorder := number, tally := s.tallies.length, exposed }
  ({ s with
      recorders := s.recorders.set number d.recorder
      tallies := s.tallies ++ [d.tally] }, reporter, d.journal)

/-- A new reporter over a recorder of its own, if the settings are sound. -/
def open? (s : Session α) (settings : Settings) :
    Except Fault (Session α × Reporter × List Entry) :=
  match settings.check with
  | .error problem => .error (.settings problem)
  | .ok () =>
    let (s, number) := s.addRecorder
    .ok (s.establish settings true number)

/-- A new reporter over a shared recorder, if the settings are sound. -/
def openOver? (s : Session α) (settings : Settings) (name : String) :
    Except Fault (Session α × Reporter × List Entry) :=
  match settings.check with
  | .error problem => .error (.settings problem)
  | .ok () =>
    let (s, number) := s.share name
    .ok (s.establish settings false number)

/-! ### Reading recorders -/

/-- Drains and shows a recorder. -/
def expose (s : Session α) (number : Nat) : Exposition.Page × Session α :=
  let (page, r) := (s.recorder number).expose
  (page, s.setRecorder number r)

/-- The page of a reporter that can be exposed. -/
def render (s : Session α) (r : Reporter) : Option Exposition.Page × Session α :=
  if r.exposed then
    let (page, s) := s.expose r.recorder
    (some page, s)
  else (none, s)

/-- Drains the recorder of a reporter that can be exposed. -/
def upkeep (s : Session α) (r : Reporter) : Session α :=
  if r.exposed then s.setRecorder r.recorder (s.recorder r.recorder).drain else s

end Session
end Roomwatch
