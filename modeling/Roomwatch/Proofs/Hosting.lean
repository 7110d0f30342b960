import Mathlib
import Roomwatch.Proofs.Drains
import Roomwatch.Proofs.Messages

/-! Reporters with recorders of their own.

A reporter that was opened over a recorder of its own is, in its session, what it would be
at a desk of its own, its recorder included (`Session.Hosts`, `hosts_open`). It is so
after it was told of events (`Hosts.told`), and whichever recorder is drained, the desk is
drained or nothing happens to it (`Hosts.expose`). -/
namespace Roomwatch

open Number (Measure)

namespace Desk
variable {α : Type} [Measure α] (keeps : Outlet → Bool) (d : Desk α)

/-- What was noted before has no part in an update. -/
theorem apply_journal (journal : List Entry) (u : Update) : ∃ later,
    Desk.apply keeps { d with journal } u = { d.apply keeps u with journal := later } := by
  cases u with
  | acquire o =>
    refine ⟨journal, ?_⟩
    simp only [apply, acquire]
    cases d.handles.get? o <;> rfl
  | note entry => exact ⟨journal ++ [entry], rfl⟩
  | _ => exact ⟨journal, rfl⟩

theorem applyAll_journal (journal : List Entry) (updates : List Update) : ∃ later,
    Desk.applyAll keeps { d with journal } updates =
      { d.applyAll keeps updates with journal := later } := by
  induction updates generalizing d journal with
  | nil => exact ⟨journal, rfl⟩
  | cons u rest ih =>
    obtain ⟨next, hnext⟩ := d.apply_journal keeps journal u
    obtain ⟨later, hlater⟩ := ih (d.apply keeps u) next
    refine ⟨later, ?_⟩
    rw [applyAll, List.foldl_cons, hnext]
    exact hlater

theorem run_journal (journal : List Entry) (h : History) : ∃ later,
    Desk.run keeps { d with journal } h = { d.run keeps h with journal := later } := by
  rw [run_eq_applyAll, run_eq_applyAll]
  exact d.applyAll_journal keeps journal _

/-- What a reporter holds and tallies does not depend on drains. -/
theorem serve_congr (calls : List Call) {d e : Desk α} (hs : d.settings = e.settings)
    (hh : d.handles = e.handles) (ht : d.tally = e.tally) :
    (d.serve keeps calls).settings = (e.run keeps (events calls)).settings ∧
      (d.serve keeps calls).handles = (e.run keeps (events calls)).handles ∧
      (d.serve keeps calls).tally = (e.run keeps (events calls)).tally := by
  induction calls generalizing d e with
  | nil => exact ⟨hs, hh, ht⟩
  | cons call rest ih =>
    cases call with
    | event now event =>
      obtain ⟨hh', ht'⟩ := perform_congr keeps now event hs hh ht
      refine ih ?_ hh' ht'
      rw [answer, perform, perform, settings_applyAll, settings_applyAll, hs]
    | drain => exact ih (d := { d with recorder := d.recorder.drain }) hs hh ht

theorem serve_append (a b : List Call) :
    d.serve keeps (a ++ b) = (d.serve keeps a).serve keeps b := by
  induction a generalizing d with
  | nil => rfl
  | cons call rest ih => exact ih _

/-- Without drains a desk runs. -/
theorem serve_events (h : History) :
    d.serve keeps (h.map fun timed => .event timed.1 timed.2) = d.run keeps h := by
  induction h generalizing d with
  | nil => rfl
  | cons timed rest ih => exact ih _

end Desk

theorem events_append (a b : List Call) : events (a ++ b) = events a ++ events b := by
  induction a with
  | nil => rfl
  | cons call rest ih => cases call <;> simp [events, ih]

theorem events_of_history (h : History) :
    events (h.map fun timed => .event timed.1 timed.2) = h := by
  induction h with
  | nil => rfl
  | cons timed rest ih => exact congrArg (timed :: ·) ih

/-- What is heard in the course of some requests, by a clock that goes on meanwhile. -/
def historyOf {β : Type} (later : Instant → β → Instant) (heard : Instant → β → History) :
    Instant → List β → History
  | _, [] => []
  | now, request :: rest => heard now request ++ historyOf later heard (later now request) rest

namespace Session
variable {α : Type}

theorem keeps_share (s : Session α) (name : String) : (s.share name).1.keeps = s.keeps := by
  rw [share]
  split <;> rfl

/-- What reporters hold on to is settled for a whole session. -/
theorem keeps_change [Measure α] {s t : Session α} (h : s.Change t) : t.keeps = s.keeps := by
  cases h with
  | told events hr => exact keeps_told events
  | opened hfree hopen =>
    rw [keeps_place, ← congrArg (·.1.keeps) (establish_of_open? hopen).2]
    rfl
  | @openedOver name recorder settings t r journal hopen =>
    rw [keeps_place, ← congrArg (·.1.keeps) (establish_of_openOver? hopen).2]
    exact keeps_share s recorder
  | shared name => exact keeps_share s name
  | _ => rfl

theorem keeps_after [Measure α] (s : Session α) (steps : List (Step α)) :
    (s.after steps).keeps = s.keeps :=
  of_after (P := fun t => t.keeps = s.keeps) (fun _ _ h hchange => (keeps_change hchange).trans h)
    rfl steps

theorem keeps_step [Measure α] (s : Session α) (step : Step α) :
    (s.step step).session.keeps = s.keeps :=
  s.keeps_after [step]

/-- A reporter at a seat of a session, as it would be at a desk of its own with its recorder. -/
structure Hosts (s : Session α) (a : Seat) (r : Reporter) (d : Desk α) : Prop
    extends s.Follows a r d where
  recorder : s.recorder r.recorder = d.recorder
  recorder_lt : r.recorder < s.recorders.length
  tally_lt : r.tally < s.tallies.length

section Hosts
variable {s t : Session α} {a : Seat} {r : Reporter} {d : Desk α}

theorem Hosts.desk_eq (h : s.Hosts a r d) :
    s.desk { r with handles := d.handles } = { d with journal := [] } := by
  rw [desk, Desk.mk.injEq]
  exact ⟨h.settings.symm, rfl, h.recorder, h.tally, rfl⟩

theorem withReporter_eq {name : String} (h : s.at? (.named name) = some r)
    (act : Reporter → Outcome α) : s.withReporter name act = act r := by
  rw [withReporter, show s.reporters.get? name = some r from h]

/-- What is put in the place of its recorder, the reporter has. -/
theorem Hosts.setRecorder (h : s.Hosts a r d) (recorder : Recorder α) :
    (s.setRecorder r.recorder recorder).Hosts a r { d with recorder } := by
  refine ⟨⟨h.seat, h.settings, h.tally⟩, ?_, ?_, h.tally_lt⟩
  · rw [recorder_setRecorder _ _ _ h.recorder_lt, if_pos rfl]
  · simpa [Session.setRecorder] using h.recorder_lt

theorem Hosts.elsewhere (h : s.Hosts a r d) {number : Nat} (recorder : Recorder α)
    (hn : number ≠ r.recorder) : (s.setRecorder number recorder).Hosts a r d := by
  refine ⟨⟨h.seat, h.settings, h.tally⟩, ?_, ?_, h.tally_lt⟩
  · rw [← h.recorder, Session.recorder, Session.setRecorder, Session.recorder,
      List.getElem?_set_ne hn]
  · simpa [Session.setRecorder] using h.recorder_lt

variable [Measure α]

/-- A drain of some recorder is a drain of the reporter's own one or none of its business. -/
theorem Hosts.expose (h : s.Hosts a r d) (number : Nat) :
    ∃ calls, events calls = [] ∧ (s.expose number).2.Hosts a r (d.serve s.keeps calls) := by
  by_cases hn : number = r.recorder
  · subst hn
    refine ⟨[.drain], rfl, ?_⟩
    show (s.setRecorder r.recorder (s.recorder r.recorder).drain).Hosts a r _
    rw [h.recorder]
    exact h.setRecorder d.recorder.drain
  · exact ⟨[], rfl, h.elsewhere _ hn⟩

/-- A reporter performs at its desk what it is told in its session. -/
theorem Hosts.told (h : s.Hosts a r d) (events : List Event) :
    (s.told a { r with handles := d.handles } events).Hosts a r
      (d.run s.keeps (events.map fun e => (s.now, e))) := by
  obtain ⟨journal, hrun⟩ := d.run_journal s.keeps [] (events.map fun e => (s.now, e))
  have hdesk : s.toldDesk { r with handles := d.handles } events =
      { d.run s.keeps (events.map fun e => (s.now, e)) with journal } := by
    rw [toldDesk, h.desk_eq, hrun]
  have hlength : (s.told a { r with handles := d.handles } events).recorders.length =
        s.recorders.length ∧
      (s.told a { r with handles := d.handles } events).tallies.length = s.tallies.length := by
    cases a <;> simp [Session.told, report, leave, place]
  refine ⟨⟨?_, ?_, ?_⟩, ?_, ?_, ?_⟩
  · rw [at?_told, if_pos rfl, hdesk]
  · exact (Desk.settings_run _ _ _).trans h.settings
  · have htally := tally_told (a := a) (r := { r with handles := d.handles }) events h.tally_lt
    rw [htally, if_pos rfl, hdesk]
  · have hrecorder := recorder_told (a := a) (r := { r with handles := d.handles }) events
      h.recorder_lt
    rw [hrecorder, if_pos rfl, hdesk]
  · exact hlength.1 ▸ h.recorder_lt
  · exact hlength.2 ▸ h.tally_lt

/-- Sound settings open a reporter over a recorder of its own. -/
theorem open?_eq_establish (s : Session α) {settings : Settings} (h : settings.check = .ok ()) :
    s.open? settings = .ok (s.addRecorder.1.establish settings true s.recorders.length) := by
  rw [open?, h]
  rfl

/-- A reporter over a recorder of its own is hosted from the start. -/
theorem hosts_open {settings : Settings} {journal : List Entry}
    (h : s.open? settings = .ok (t, r, journal)) (a : Seat) :
    (t.place r a).Hosts a r (Desk.opened s.keeps settings true {}) ∧
      r.settings = settings ∧ r.exposed = true := by
  obtain ⟨-, hestablished⟩ := establish_of_open? h
  have hnew : s.addRecorder.1.recorder s.recorders.length = ({} : Recorder α) := by
    simp [recorder, addRecorder]
  simp only [establish, hnew] at hestablished
  obtain ⟨rfl, hrest⟩ := Prod.mk.inj hestablished
  obtain ⟨rfl, rfl⟩ := Prod.mk.inj hrest
  refine ⟨⟨⟨?_, ?_, ?_⟩, ?_, ?_, ?_⟩, rfl, rfl⟩
  · rw [at?_place, if_pos rfl]
    rfl
  · exact Desk.settings_opened _ _ _ _
  · rw [tally_place]
    simp only [tally, List.getElem?_concat_length, Option.getD_some]
    rfl
  · rw [recorder_place]
    simp [recorder, addRecorder]
  · cases a <;> simp [place, addRecorder]
  · cases a <;> simp [place]

end Hosts
end Session
end Roomwatch
