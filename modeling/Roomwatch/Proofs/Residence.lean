import Mathlib
import Roomwatch.Proofs.Agreement
import Roomwatch.Proofs.Hosting
import Roomwatch.Proofs.Requests

/-! The resident reporter.

A program that uses one reporter throughout starts it once and finds it again as the
resident. Until a start succeeds there is nothing to be found, and unsound settings are
told and leave it so (`Vacant`). The first start with sound settings settles the resident
for good (`Resides`): it is the only reporter there will be, it counts what it hears from
then on, and any other start is refused, with the node named in a warning and nothing
changed. `resides_after` says when it is which. -/
namespace Roomwatch

open Number (Measure)
open Registry (KeepsPace)

/-- A draft of given settings. -/
def Settings.draft (s : Settings) : Draft := ⟨s.node, s.role.label, s.environment, some s.scope⟩

theorem Settings.settings_draft (s : Settings) : s.draft.settings = .ok s := by
  have hread : Role.read s.role.label = .ok s.role := by cases s.role <;> decide +kernel
  rw [Draft.settings, draft, hread]
  rfl

/-- A tally that shows the calls of a history. -/
def Tally.Shows (t : Tally) (h : History) : Prop :=
  ∀ field, t.get field = Int32.ofInt (h.map fun timed => timed.2.tallied field).sum

/-- What the host program does with the resident reporter. -/
inductive Errand where
  | clock (now : Instant)
  | start (settings : Settings)
  | read
  | tell (events : List Event)

namespace Errand

def step (α : Type) : Errand → Step α
  | .clock now => .clock now
  | .start settings => .residentBuild settings.draft
  | .read => .residentRead
  | .tell events => .residentReport events

/-- A start that can succeed. -/
def Opens : Errand → Prop
  | .start settings => settings.check = .ok ()
  | _ => False

/-- What the clock shows after an errand. -/
def later (now : Instant) : Errand → Instant
  | .clock later => later
  | _ => now

/-- What the resident hears of an errand. -/
def heard (now : Instant) : Errand → History
  | .tell events => events.map fun e => (now, e)
  | _ => []

/-- What the resident hears in the course of some errands, by a clock that first shows `now`. -/
def history : Instant → List Errand → History := historyOf later heard

/-- Where a start can succeed, there is a first one. -/
theorem exists_first {errands : List Errand} (h : ∃ e ∈ errands, e.Opens) :
    ∃ before settings since, errands = before ++ .start settings :: since ∧
      (∀ e ∈ before, ¬ e.Opens) ∧ settings.check = .ok () := by
  induction errands with
  | nil => simp at h
  | cons e rest ih =>
    by_cases he : e.Opens
    · cases e with
      | start settings => exact ⟨[], settings, rest, rfl, by simp, he⟩
      | _ => exact he.elim
    · obtain ⟨before, settings, since, rfl, hnone, hcheck⟩ := ih (by simpa [he] using h)
      exact ⟨e :: before, settings, since, rfl, by simpa [he] using hnone, hcheck⟩

end Errand

namespace Desk
variable {α : Type} [Measure α] (keeps : Outlet → Bool) (s : Settings) (exposed : Bool)
  (recorder : Recorder α)

theorem tally_opened : (opened keeps s exposed recorder).tally = {} := by
  refine Tally.ext_get fun field => (tally_run keeps s exposed recorder [] field).trans ?_
  cases field <;> rfl

theorem journal_opened : (opened keeps s exposed recorder).journal = [.started s exposed] := by
  rw [opened_eq, journal_applyAll]
  rfl

end Desk

namespace Session
variable {α : Type}

theorem withResident_none {s : Session α} (h : s.resident = none) (act : Reporter → Outcome α) :
    s.withResident act = s.quiet (.fault .notStarted) := by
  rw [withResident, h]

theorem withResident_some {s : Session α} {r : Reporter} (h : s.resident = some r)
    (act : Reporter → Outcome α) : s.withResident act = act r := by
  rw [withResident, h]

variable [Measure α]

/-- A session without a resident, and without anything that one could have left. -/
structure Empty (s : Session α) : Prop where
  resident : s.resident = none
  recorders : s.recorders = []
  tallies : s.tallies = []

/-- What a session answers as long as no resident was started. -/
structure Vacant (s : Session α) : Prop extends s.Empty where
  read : s.step .residentRead = s.quiet (.fault .notStarted)
  refused : ∀ (settings : Settings) (problem : Problem), settings.check = .error problem →
    s.step (.residentBuild settings.draft) = s.quiet (.fault (.settings problem))
  started : ∀ settings : Settings, settings.check = .ok () →
    (s.step (.residentBuild settings.draft)).reply = .status settings {} ∧
      (s.step (.residentBuild settings.draft)).journal = [.started settings true]

/-- What a session answers once a resident was started with some settings and has heard of a
history since. There is no second reporter, and none can be started. -/
structure Resides (s : Session α) (settings : Settings) (h : History) : Prop where
  resident : ∃ handles, s.resident = some ⟨settings, handles, 0, 0, true⟩
  series : ∃ recorder, s.recorders = [recorder] ∧
    ∀ {ofInt : Int → α} {bound : Nat}, KeepsPace ofInt bound → h.length ≤ bound →
      Balanced ofInt settings h recorder.registry
  read : ∃ tally, s.tallies = [tally] ∧ tally.Shows h ∧
    s.step .residentRead = s.quiet (.status settings tally)
  again : ∀ other : Settings, ∃ entry,
    s.step (.residentBuild other.draft) = ⟨s, .fault .alreadyStarted, [entry]⟩ ∧
      entry.record = .event .warn "room_telemetry.init"
        "Room telemetry already initialized, ignoring second init" [("node_id", .text other.node)]

/-- A resident at a desk of its own, in a session that was never asked for another reporter. -/
structure Lodges (s : Session α) (r : Reporter) (d : Desk α) : Prop
    extends s.Hosts .resident r d where
  recorders : s.recorders.length = 1
  tallies : s.tallies.length = 1

section Errands
variable {s : Session α} {r : Reporter} {d : Desk α}

theorem step_start (s : Session α) (settings : Settings) :
    s.step (.residentBuild settings.draft) = s.residentBuild settings := by
  rw [step, withSettings, settings.settings_draft]

/-! ### Before the first start -/

theorem Empty.start (h : s.Empty) (settings : Settings) :
    s.residentBuild settings =
      match s.open? settings with
      | .ok (t, r, journal) => ⟨t.place r .resident, .status settings (t.tally r.tally), journal⟩
      | .error fault => s.quiet (.fault fault) := by
  rw [residentBuild, h.resident]
  rfl

theorem Empty.refused (h : s.Empty) {settings : Settings} {problem : Problem}
    (hcheck : settings.check = .error problem) :
    s.step (.residentBuild settings.draft) = s.quiet (.fault (.settings problem)) := by
  rw [step_start, h.start, open?, hcheck]

/-- The resident moves in with the first start that can succeed. -/
theorem Empty.opened (h : s.Empty) {settings : Settings} (hcheck : settings.check = .ok ()) :
    (∃ r, r.settings = settings ∧ r.exposed = true ∧
      (s.step (.residentBuild settings.draft)).session.Lodges r
        (Desk.opened s.keeps settings true {})) ∧
      (s.step (.residentBuild settings.draft)).session.now = s.now ∧
      (s.step (.residentBuild settings.draft)).reply = .status settings {} ∧
      (s.step (.residentBuild settings.draft)).journal = [.started settings true] := by
  have hopen := s.open?_eq_establish hcheck
  obtain ⟨hhosts, hsettings, hexposed⟩ := hosts_open hopen .resident
  rw [step_start, h.start, hopen]
  refine ⟨⟨_, hsettings, hexposed, hhosts, ?_, ?_⟩, rfl, ?_, ?_⟩
  · simp [establish, place, addRecorder, h.recorders]
  · simp [establish, place, addRecorder, h.tallies]
  · exact congrArg (Reply.status settings) (hhosts.tally.trans (Desk.tally_opened ..))
  · exact Desk.journal_opened ..

theorem Empty.vacant (h : s.Empty) : s.Vacant where
  toEmpty := h
  read := withResident_none h.resident _
  refused _ _ hcheck := h.refused hcheck
  started _ hcheck := (h.opened hcheck).2.2

/-- Nothing else than such a start lets a resident in. -/
theorem Empty.errand (h : s.Empty) {e : Errand} (he : ¬ e.Opens) :
    (s.step (e.step α)).session.Empty := by
  cases e with
  | clock now => exact { h with }
  | start settings =>
    cases hcheck : settings.check with
    | ok checked => exact absurd hcheck he
    | error problem =>
      rw [Errand.step, h.refused hcheck]
      exact h
  | read =>
    rw [Errand.step, step, withResident_none h.resident]
    exact h
  | tell events =>
    rw [Errand.step, step, withResident_none h.resident]
    exact h

theorem Empty.errands (h : s.Empty) {errands : List Errand} (hnone : ∀ e ∈ errands, ¬ e.Opens) :
    (s.after (errands.map (Errand.step α))).Empty := by
  induction errands generalizing s with
  | nil => exact h
  | cons e rest ih =>
    rw [List.forall_mem_cons] at hnone
    exact ih (h.errand hnone.1) hnone.2

/-! ### From the first start on -/

/-- A resident refuses any other start, whatever its settings. -/
theorem Lodges.again (h : s.Lodges r d) (other : Settings) :
    s.step (.residentBuild other.draft) =
      ⟨s, .fault .alreadyStarted, [.startedAgain other.node]⟩ := by
  rw [step_start, residentBuild, show s.resident = _ from h.seat]

theorem Lodges.read (h : s.Lodges r d) :
    s.step .residentRead = s.quiet (.status r.settings d.tally) := by
  rw [step, withResident_some h.seat, ← h.tally]

/-- An errand moves the clock, or the resident hears of it. -/
theorem Lodges.errand (h : s.Lodges r d) (e : Errand) :
    (s.step (e.step α)).session.now = e.later s.now ∧
      (s.step (e.step α)).session.Lodges r (d.run s.keeps (e.heard s.now)) := by
  cases e with
  | clock now => exact ⟨rfl, { h with }⟩
  | start settings =>
    rw [Errand.step, h.again]
    exact ⟨rfl, h⟩
  | read =>
    rw [Errand.step, h.read]
    exact ⟨rfl, h⟩
  | tell events =>
    rw [Errand.step, step, withResident_some h.seat]
    refine ⟨rfl, h.told events, ?_, ?_⟩
    · exact (List.length_set ..).trans h.recorders
    · exact (List.length_set ..).trans h.tallies

theorem Lodges.errands (h : s.Lodges r d) (errands : List Errand) :
    (s.after (errands.map (Errand.step α))).Lodges r
      (d.run s.keeps (Errand.history s.now errands)) := by
  induction errands generalizing s d with
  | nil => exact h
  | cons e rest ih =>
    obtain ⟨hnow, hlodges⟩ := h.errand e
    have hrest := ih hlodges
    rw [keeps_step, hnow] at hrest
    rw [Errand.history, historyOf, Desk.run_append]
    exact hrest

/-- What a resident has heard since its start is what it answers with. -/
theorem Lodges.resides {keeps : Outlet → Bool} {settings : Settings} {h : History}
    (hl : s.Lodges r ((Desk.opened keeps settings true {}).run keeps h))
    (hsettings : r.settings = settings) (hexposed : r.exposed = true) :
    s.Resides settings h := by
  have hrecorder : r.recorder = 0 := by
    have hlt := hl.recorder_lt
    rw [hl.recorders] at hlt
    omega
  have htally : r.tally = 0 := by
    have hlt := hl.tally_lt
    rw [hl.tallies] at hlt
    omega
  obtain ⟨recorder, hrecorders⟩ := List.length_eq_one_iff.1 hl.recorders
  obtain ⟨tally, htallies⟩ := List.length_eq_one_iff.1 hl.tallies
  have hseries := hl.recorder
  have hcounts := hl.tally
  rw [hrecorder, Session.recorder, hrecorders] at hseries
  rw [htally, Session.tally, htallies] at hcounts
  change recorder = _ at hseries
  change tally = _ at hcounts
  constructor
  case resident =>
    obtain ⟨settings', handles, number, total, exposed⟩ := r
    subst hsettings hexposed hrecorder htally
    exact ⟨_, hl.seat⟩
  case series =>
    refine ⟨recorder, hrecorders, fun hpace hfew => ?_⟩
    rw [hseries, (Desk.registry_life keeps settings true {} h).2]
    exact balanced_booked settings h hpace hfew
  case read =>
    refine ⟨tally, htallies, ?_, ?_⟩
    · intro field
      rw [hcounts]
      exact Desk.tally_run keeps settings true {} h field
    · rw [hl.read, hsettings, hcounts]
  case again => exact fun other => ⟨_, hl.again other, rfl⟩

/-- The first start that can succeed settles the resident. -/
theorem Empty.resides (h : s.Empty) {before since : List Errand} {settings : Settings}
    (hnone : ∀ e ∈ before, ¬ e.Opens) (hcheck : settings.check = .ok ()) :
    (s.after ((before ++ .start settings :: since).map (Errand.step α))).Resides settings
      (Errand.history (s.after (before.map (Errand.step α))).now since) := by
  rw [List.map_append, Session.after, List.foldl_append]
  change Resides (Session.after (Session.step (s.after (before.map (Errand.step α)))
    (.residentBuild settings.draft)).session _) _ _
  obtain ⟨⟨r, hsettings, hexposed, hlodges⟩, hnow, -⟩ := (h.errands hnone).opened hcheck
  have hsince := hlodges.errands since
  rw [hnow, keeps_step] at hsince
  exact hsince.resides hsettings hexposed

end Errands

/-- **The resident is settled by the first start that can succeed.** It is found just if there
was one; until then a session is vacant; from then on the resident has the settings of that
start, counts what it has heard of since, and no other start changes anything. -/
theorem resides_after (keeps : Outlet → Bool) (now : Instant) (errands : List Errand) :
    let after (errands : List Errand) := (start α keeps now).after (errands.map (Errand.step α))
    let s := after errands
    ((∃ settings tally, (s.step .residentRead).reply = .status settings tally) ↔
        ∃ e ∈ errands, e.Opens) ∧
      ((∀ e ∈ errands, ¬ e.Opens) → s.Vacant) ∧
      ∀ before settings since, errands = before ++ .start settings :: since →
        (∀ e ∈ before, ¬ e.Opens) → settings.check = .ok () →
          s.Resides settings (Errand.history (after before).now since) := by
  intro after s
  have hstart : (start α keeps now).Empty := ⟨rfl, rfl, rfl⟩
  refine ⟨⟨?_, ?_⟩, fun hnone => (hstart.errands hnone).vacant, ?_⟩
  · rintro ⟨settings, tally, hread⟩
    by_contra hnone
    have hvacant := (hstart.errands fun e he hopens => hnone ⟨e, he, hopens⟩).vacant
    rw [hvacant.read] at hread
    contradiction
  · intro hopens
    obtain ⟨before, settings, since, rfl, hnone, hcheck⟩ := Errand.exists_first hopens
    have hresides : s.Resides settings _ := hstart.resides hnone hcheck
    obtain ⟨tally, -, -, hread⟩ := hresides.read
    exact ⟨settings, tally, congrArg Outcome.reply hread⟩
  · rintro before settings since rfl hnone hcheck
    exact hstart.resides hnone hcheck

/-- A start that fails, one that succeeds, and two more that are refused. -/
theorem resides_after_second :
    let unsound : Settings := ⟨"", .server, "test", "sfu"⟩
    let settings : Settings := ⟨"n1", .media, "test", "sfu"⟩
    let other : Settings := ⟨"n2", .turn, "test", "sfu"⟩
    let before : List Errand := [.read, .start unsound, .tell [.roomStarted], .clock ⟨5⟩]
    let since : List Errand := [.tell [.roomStarted, .participantJoined], .start other,
      .start unsound, .clock ⟨8⟩, .tell [.participantLeft, .publishAttempted "audio"], .read]
    let heard : History := [(⟨5⟩, .roomStarted), (⟨5⟩, .participantJoined),
      (⟨8⟩, .participantLeft), (⟨8⟩, .publishAttempted "audio")]
    (∀ e ∈ before, ¬ e.Opens) ∧ settings.check = .ok () ∧
      ((start Float Outlet.isKept ⟨0⟩).after
        ((before ++ .start settings :: since).map (Errand.step Float))).Resides settings heard := by
  intro unsound settings other before since heard
  have hnone : ∀ e ∈ before, ¬ e.Opens := by
    have hunsound : unsound.check ≠ .ok () := by decide +kernel
    simpa [before, Errand.Opens] using hunsound
  have hcheck : settings.check = .ok () := by decide +kernel
  obtain ⟨-, -, hresides⟩ := resides_after (α := Float) Outlet.isKept ⟨0⟩
    (before ++ .start settings :: since)
  exact ⟨hnone, hcheck, hresides before settings since rfl hnone hcheck⟩

end Session
end Roomwatch
