import Mathlib
import Roomwatch.Proofs.Seats
import Roomwatch.Session.Step

/-! How a session changes.

Whatever the host program requests, a session changes in few ways (`Change`), so each
step is a short list of changes (`changed_step`), and what every change keeps, every
step and every run of steps keeps. In particular a session that starts without anything
is sound after any steps (`sound_after`). Most steps are minor: by them no reporter is
told anything, no route is made, and no histogram of a shared recorder is written or read.
What can happen in their course is said more closely (`Minor`, `minor_step`). -/
namespace Roomwatch

open Number (Measure)

/-- What a recorder is asked for otherwise than by reporters. -/
inductive Service (α : Type) where
  | drain
  | capture
  | count (id : SeriesId) (amount : UInt64)
  | set (id : SeriesId) (level : α)
  | observe (id : SeriesId) (value : α)

section Services
variable {α : Type} [Measure α]

def Recorder.serviced (r : Recorder α) : Service α → Recorder α
  | .drain => r.drain
  | .capture => r.capture.2
  | .count id amount => r.update fun g => (g.register .counter id).count id amount
  | .set id level => r.update fun g => (g.register .gauge id).setGauge id level
  | .observe id value => r.update fun g => (g.register .histogram id).observe id value

/-- A service by which no histogram is written or read. -/
def Service.isMinor : Service α → Bool
  | .count _ _ | .set _ _ => true
  | .drain | .capture | .observe _ _ => false

/-- A step by which no reporter is told anything, no route is made, and no histogram of a
shared recorder is written or read. -/
def Step.isMinor : Step α → Bool
  | .report _ _ | .residentReport _ | .route _ _ | .residentRoute _ | .capture _ | .lookup _ _
  | .rawObserve _ _ _ => false
  | _ => true

/-- The step that makes a route to the recorder of whoever sits there. -/
def Seat.makeRoute : Seat → String → Step α
  | .named name, route => .route name route
  | .resident, route => .residentRoute route

/-- The step that asks whoever sits there for a page. -/
def Seat.render : Seat → Step α
  | .named name => .render name
  | .resident => .residentRender

/-- No service forgets a series. -/
theorem Recorder.mem_keys_serviced (r : Recorder α) (service : Service α) {shape : Shape}
    {id : SeriesId} (h : id ∈ r.registry.keys shape) :
    id ∈ (r.serviced service).registry.keys shape := by
  cases service with
  | drain => exact (r.registry.keys_emptied shape).symm ▸ h
  | capture => exact (r.registry.keys_emptied shape).symm ▸ h
  | count j amount =>
    exact (Registry.mem_keys_act _ (.count j amount) _ _).2
      (.inl ((Registry.mem_keys_register _ _ _ _ _).2 (.inl h)))
  | set j level =>
    have hregistered := (Registry.mem_keys_register _ .gauge _ j _).2 (.inl h)
    cases shape with
    | gauge =>
      show id ∈ (Shelf.modify _ _ _).keys
      rw [Shelf.keys_modify]
      exact hregistered
    | _ => exact hregistered
  | observe j value =>
    exact (Registry.mem_keys_act _ (.observe j value) _ _).2
      (.inl ((Registry.mem_keys_register _ _ _ _ _).2 (.inl h)))

end Services

namespace Session
variable {α : Type}

theorem setRecorder_recorder (s : Session α) (number : Nat) :
    s.setRecorder number (s.recorder number) = s := by
  have hset : s.recorders.set number (s.recorder number) = s.recorders := by
    by_cases hn : number < s.recorders.length
    · rw [recorder, List.getElem?_eq_getElem hn, Option.getD_some, List.set_getElem_self]
    · exact List.set_eq_of_length_le (Nat.le_of_not_lt hn)
  rw [setRecorder, hset]

theorem withRecorder_eq (s : Session α) (name : String)
    (act : Recorder α → Reply α × Recorder α) :
    s.withRecorder name act =
      ((s.share name).1.setRecorder (s.share name).2
        (act ((s.share name).1.recorder (s.share name).2)).2).quiet
      (act ((s.share name).1.recorder (s.share name).2)).1 := rfl

/-- A session in which nothing has happened yet. -/
def start (α : Type) (keeps : Outlet → Bool) (now : Instant) : Session α := { keeps, now }

theorem sound_start (keeps : Outlet → Bool) (now : Instant) : (start α keeps now).Sound := by
  have hnobody (a : Seat) (r : Reporter) : (start α keeps now).at? a ≠ some r := by
    cases a <;> exact fun h => Option.some_ne_none r h.symm
  constructor
  case desks => exact fun a r hr => absurd hr (hnobody a r)
  case fixed => exact fun a r hr => absurd hr (hnobody a r)
  case recorder_lt => exact fun a r hr => absurd hr (hnobody a r)
  case tally_lt => exact fun a r hr => absurd hr (hnobody a r)
  case apart => exact fun a b r q hr => absurd hr (hnobody a r)
  case shared_lt => exact fun name number h => absurd h.symm (Option.some_ne_none number)

variable [Measure α]

/-- The ways in which a session changes. -/
inductive Change (s : Session α) : Session α → Prop
  | clock (now : Instant) : Change s { s with now }
  | told {a : Seat} {r : Reporter} (events : List Event) : s.at? a = some r →
    Change s (s.told a r events)
  | opened {a : Seat} {settings : Settings} {t : Session α} {r : Reporter} {journal : List Entry} :
    (a = .resident → s.resident = none) → s.open? settings = .ok (t, r, journal) →
      Change s (t.place r a)
  | openedOver {name recorder : String} {settings : Settings} {t : Session α} {r : Reporter}
    {journal : List Entry} : s.openOver? settings recorder = .ok (t, r, journal) →
      Change s (t.place r (.named name))
  | shared (name : String) : Change s (s.share name).1
  | serviced (number : Nat) (service : Service α) :
    Change s (s.setRecorder number ((s.recorder number).serviced service))
  | dropped (name : String) : Change s { s with reporters := s.reporters.erase name }
  | held {a : Seat} {r : Reporter} (holder : String) : s.at? a = some r →
    Change s { s with held := s.held.insert holder r.tally }
  | heldNew (holder : String) :
    Change s { s with
      tallies := s.tallies ++ [({} : Tally)]
      held := s.held.insert holder s.tallies.length }
  | routed {a : Seat} {r : Reporter} (route : String) : s.at? a = some r → r.exposed = true →
    Change s { s with routes := s.routes.insert route r.recorder }

/-- Any number of changes, one after the other. -/
abbrev Changed : Session α → Session α → Prop := Relation.ReflTransGen Change

/-- The session once a shared recorder was asked for a service. -/
def served (s : Session α) (name : String) (service : Service α) : Session α :=
  (s.share name).1.setRecorder (s.share name).2
    (((s.share name).1.recorder (s.share name).2).serviced service)

/-- A recorder that a reporter has for its own or that a route serves. -/
def Exposes (s : Session α) (number : Nat) : Prop :=
  (∃ a r, s.at? a = some r ∧ r.exposed = true ∧ r.recorder = number) ∨
    ∃ route, s.routes.get? route = some number

/-- The ways in which a session changes in the course of minor steps. -/
inductive Minor (s : Session α) : Session α → Prop
  | clock (now : Instant) : Minor s { s with now }
  | opened {a : Seat} {settings : Settings} {t : Session α} {r : Reporter} {journal : List Entry} :
    (a = .resident → s.resident = none) → s.open? settings = .ok (t, r, journal) →
      Minor s (t.place r a)
  | openedOver {name recorder : String} {settings : Settings} {t : Session α} {r : Reporter}
    {journal : List Entry} : s.openOver? settings recorder = .ok (t, r, journal) →
      Minor s (t.place r (.named name))
  | shared (name : String) : Minor s (s.share name).1
  | served (name : String) {service : Service α} : service.isMinor = true →
    Minor s (s.served name service)
  | drained {number : Nat} : s.Exposes number →
    Minor s (s.setRecorder number (s.recorder number).drain)
  | dropped (name : String) : Minor s { s with reporters := s.reporters.erase name }
  | held {a : Seat} {r : Reporter} (holder : String) : s.at? a = some r →
    Minor s { s with held := s.held.insert holder r.tally }
  | heldNew (holder : String) :
    Minor s { s with
      tallies := s.tallies ++ [({} : Tally)]
      held := s.held.insert holder s.tallies.length }

abbrev Minors : Session α → Session α → Prop := Relation.ReflTransGen Minor

theorem changed_served (s : Session α) (name : String) (service : Service α) :
    s.Changed (s.served name service) :=
  .tail (.single (.shared name)) (.serviced _ service)

theorem Minor.changed {s t : Session α} (h : s.Minor t) : s.Changed t := by
  cases h with
  | clock now => exact .single (.clock now)
  | opened hfree hopen => exact .single (.opened hfree hopen)
  | openedOver hopen => exact .single (.openedOver hopen)
  | shared name => exact .single (.shared name)
  | served name hservice => exact s.changed_served name _
  | drained hexposes => exact .single (.serviced _ .drain)
  | dropped name => exact .single (.dropped name)
  | held holder hr => exact .single (.held holder hr)
  | heldNew holder => exact .single (.heldNew holder)

theorem Minors.changed {s t : Session α} (h : s.Minors t) : s.Changed t :=
  Relation.ReflTransGen.trans_induction_on h (fun _ => .refl) (fun hminor => hminor.changed)
    fun _ _ hab hbc => hab.trans hbc

theorem render_of_exposed {s : Session α} {r : Reporter} (h : r.exposed = true) :
    s.render r = (some (s.expose r.recorder).1, (s.expose r.recorder).2) := by
  rw [render, if_pos h]

section Steps
variable (s : Session α)

theorem minor_expose {number : Nat} (h : s.Exposes number) : s.Minors (s.expose number).2 :=
  .single (.drained h)

theorem minor_render {a : Seat} {r : Reporter} (hr : s.at? a = some r) :
    s.Minors (s.render r).2 := by
  rw [render]
  split
  · next hexposed => exact s.minor_expose (.inl ⟨a, r, hr, hexposed, rfl⟩)
  · exact .refl

theorem minor_withReporter (name : String) (act : Reporter → Outcome α)
    (h : ∀ r, s.at? (.named name) = some r → s.Minors (act r).session) :
    s.Minors (s.withReporter name act).session := by
  rw [withReporter]
  split
  · next r hr => exact h r hr
  · exact .refl

theorem minor_withResident (act : Reporter → Outcome α)
    (h : ∀ r, s.at? .resident = some r → s.Minors (act r).session) :
    s.Minors (s.withResident act).session := by
  rw [withResident]
  split
  · next r hr => exact h r hr
  · exact .refl

theorem minor_withSettings (draft : Draft) (act : Settings → Outcome α)
    (h : ∀ settings, s.Minors (act settings).session) :
    s.Minors (s.withSettings draft act).session := by
  rw [withSettings]
  split
  · exact h _
  · exact .refl

/-- What is asked of a shared recorder in a step is a service. -/
theorem withRecorder_served (name : String) {act : Recorder α → Reply α × Recorder α}
    {service : Service α} (h : ∀ r, (act r).2 = r.serviced service) :
    (s.withRecorder name act).session = s.served name service := by
  rw [withRecorder_eq, served, ← h]
  rfl

/-- A minor step is a list of minor changes. -/
theorem minor_step (step : Step α) (h : step.isMinor = true) :
    s.Minors (s.step step).session := by
  cases step with
  | clock now => exact .single (.clock now)
  | build draft name =>
    refine s.minor_withSettings draft _ fun settings => ?_
    cases hopen : s.open? settings with
    | error fault => exact .refl
    | ok opened =>
      refine .single (.opened (a := .named name) ?_ hopen)
      simp
  | buildOver draft name recorder =>
    refine s.minor_withSettings draft _ fun settings => ?_
    cases hopen : s.openOver? settings recorder with
    | error fault => exact .refl
    | ok opened => exact .single (.openedOver hopen)
  | drop name => exact .single (.dropped name)
  | residentBuild draft =>
    refine s.minor_withSettings draft _ fun settings => ?_
    rw [residentBuild]
    split
    · exact .refl
    · next hfree =>
      cases hopen : s.open? settings with
      | error fault => exact .refl
      | ok opened => exact .single (.opened (a := .resident) (fun _ => hfree) hopen)
  | residentRead => exact s.minor_withResident _ fun r hr => .refl
  | residentRender => exact s.minor_withResident _ fun r hr => s.minor_render hr
  | settings name | tally name | display name =>
    exact s.minor_withReporter name _ fun r hr => .refl
  | hold name holder => exact s.minor_withReporter name _ fun r hr => .single (.held holder hr)
  | holdNew holder => exact .single (.heldNew holder)
  | heldTally holder =>
    rw [Session.step]
    split <;> exact .refl
  | render name => exact s.minor_withReporter name _ fun r hr => s.minor_render hr
  | ask name questions =>
    refine s.minor_withReporter name _ fun r hr => ?_
    have hrender := s.minor_render hr
    rw [ask]
    split
    · next hnone => rwa [hnone] at hrender
    · next hsome =>
      rw [hsome] at hrender
      split <;> exact hrender
  | compareHandle name =>
    refine s.minor_withReporter name _ fun r hr => ?_
    rw [compareHandle, render]
    by_cases hexposed : r.exposed = true
    · have hexposes : s.Exposes r.recorder := .inl ⟨.named name, r, hr, hexposed, rfl⟩
      have hagain : (s.expose r.recorder).2.Exposes r.recorder :=
        .inl ⟨.named name, r, hr, hexposed, rfl⟩
      rw [if_pos hexposed]
      exact (s.minor_expose hexposes).trans (minor_expose _ hagain)
    · rw [if_neg hexposed]
      exact .refl
  | upkeep name =>
    refine s.minor_withReporter name _ fun r hr => ?_
    show s.Minors (s.upkeep r)
    rw [upkeep]
    split
    · next hexposed => exact .single (.drained (.inl ⟨.named name, r, hr, hexposed, rfl⟩))
    · exact .refl
  | request route method address =>
    rw [Session.step]
    split
    · next number hnumber =>
      unfold request
      dsimp only
      split
      · exact s.minor_expose (.inr ⟨route, hnumber⟩)
      · exact .refl
    · exact .refl
  | calls recorder =>
    show s.Minors (s.withRecorder recorder _).session
    rw [withRecorder_eq, setRecorder_recorder]
    exact .single (.shared recorder)
  | rawCount recorder id amount =>
    have hserved : (s.step (.rawCount recorder id amount)).session =
      s.served recorder (.count id amount) := s.withRecorder_served recorder fun _ => rfl
    rw [hserved]
    exact .single (.served recorder rfl)
  | rawGauge recorder id level =>
    have hserved : (s.step (.rawGauge recorder id level)).session =
      s.served recorder (.set id level) := s.withRecorder_served recorder fun _ => rfl
    rw [hserved]
    exact .single (.served recorder rfl)
  | report | residentReport | route | residentRoute | capture | lookup | rawObserve => contradiction

/-- A reporter at its seat is told of events in a step; who is not there hears nothing. -/
theorem session_report (name : String) (events : List Event) :
    (s.step (.report name events)).session =
      ((s.at? (.named name)).map fun r => s.told (.named name) r events).getD s := by
  show (s.withReporter name _).session = ((s.reporters.get? name).map _).getD s
  rw [withReporter]
  cases s.reporters.get? name <;> rfl

theorem session_residentReport (events : List Event) :
    (s.step (.residentReport events)).session =
      ((s.at? .resident).map fun r => s.told .resident r events).getD s := by
  show (s.withResident _).session = ((s.resident).map _).getD s
  rw [withResident]
  cases s.resident <;> rfl

/-- A route is made to the recorder of a reporter that can be exposed. -/
theorem session_makeRoute (a : Seat) (route : String) :
    (s.step (a.makeRoute route)).session =
      (((s.at? a).filter Reporter.exposed).map fun r =>
        { s with routes := s.routes.insert route r.recorder }).getD s := by
  have hmade (r : Reporter) : (s.makeRoute r route).session =
      (((some r).filter Reporter.exposed).map fun r =>
        { s with routes := s.routes.insert route r.recorder }).getD s := by
    cases hexposed : r.exposed <;> simp [makeRoute, quiet, Option.filter, hexposed]
  cases a with
  | named name =>
    show (s.withReporter name _).session = _
    rw [withReporter]
    split
    · next r hr => exact (show s.at? (.named name) = some r from hr) ▸ hmade r
    · next hnone => rw [show s.at? (.named name) = none from hnone]; rfl
  | resident =>
    show (s.withResident _).session = _
    rw [withResident]
    split
    · next r hr => exact (show s.at? .resident = some r from hr) ▸ hmade r
    · next hnone => rw [show s.at? .resident = none from hnone]; rfl

/-- Whoever sits at a seat answers with its page. -/
theorem reply_render {a : Seat} {r : Reporter} (hr : s.at? a = some r) :
    (s.step a.render).reply = .page (s.render r).1 := by
  cases a with
  | named name =>
    show (s.withReporter name _).reply = _
    rw [withReporter, show s.reporters.get? name = some r from hr]
    rfl
  | resident =>
    show (s.withResident _).reply = _
    rw [withResident, show s.resident = some r from hr]
    rfl

theorem session_capture (recorder : String) :
    (s.step (.capture recorder)).session = s.served recorder .capture :=
  s.withRecorder_served recorder fun _ => rfl

theorem session_lookup (recorder : String) (lookups : List Lookup) :
    (s.step (.lookup recorder lookups)).session = s.served recorder .capture :=
  s.withRecorder_served recorder fun _ => rfl

theorem session_rawObserve (recorder : String) (id : SeriesId) (value : α) :
    (s.step (.rawObserve recorder id value)).session = s.served recorder (.observe id value) :=
  s.withRecorder_served recorder fun _ => rfl

/-- A step is a list of changes. -/
theorem changed_step (step : Step α) : s.Changed (s.step step).session := by
  have htell {a : Seat} (events : List Event) :
      s.Changed (((s.at? a).map fun r => s.told a r events).getD s) := by
    cases hr : s.at? a with
    | none => exact .refl
    | some r => exact .single (.told events hr)
  have hroute (a : Seat) (route : String) : s.Changed (s.step (a.makeRoute route)).session := by
    rw [session_makeRoute]
    cases hr : (s.at? a).filter Reporter.exposed with
    | none => exact .refl
    | some r =>
      obtain ⟨hseat, hexposed⟩ := Option.filter_eq_some_iff.1 hr
      exact .single (.routed route hseat hexposed)
  by_cases h : step.isMinor = true
  · exact (s.minor_step step h).changed
  · cases step with
    | report name events => exact s.session_report name events ▸ htell events
    | residentReport events => exact s.session_residentReport events ▸ htell events
    | route name route => exact hroute (.named name) route
    | residentRoute route => exact hroute .resident route
    | capture recorder => exact s.session_capture recorder ▸ s.changed_served recorder _
    | lookup recorder lookups =>
      exact s.session_lookup recorder lookups ▸ s.changed_served recorder _
    | rawObserve recorder id value =>
      exact s.session_rawObserve recorder id value ▸ s.changed_served recorder _
    | _ => exact absurd rfl h

end Steps

/-! ### What every session has -/

section Runs
variable {s t : Session α}

/-- The session after some steps. -/
def after (s : Session α) (steps : List (Step α)) : Session α :=
  steps.foldl (fun s step => (s.step step).session) s

/-- What the steps of a run come to, each of them seen from the session that it is made in. -/
def collect {β : Type} (f : Session α → Step α → List β) (s : Session α) : List (Step α) → List β
  | [] => []
  | step :: rest => f s step ++ collect f (s.step step).session rest

theorem of_changed {P : Session α → Prop} (hP : ∀ s t : Session α, P s → s.Change t → P t)
    (h : P s) (hst : s.Changed t) : P t := by
  induction hst with
  | refl => exact h
  | tail _ hchange ih => exact hP _ _ ih hchange

/-- What every change keeps, every run of steps keeps. -/
theorem of_after {P : Session α → Prop} (hP : ∀ s t : Session α, P s → s.Change t → P t)
    (h : P s) (steps : List (Step α)) : P (s.after steps) := by
  induction steps generalizing s with
  | nil => exact h
  | cons step rest ih => exact ih (of_changed hP h (s.changed_step step))

theorem sound_change (h : s.Sound) (hchange : s.Change t) : t.Sound := by
  cases hchange with
  | told events hr => exact sound_told h hr events
  | opened hfree hopen => exact sound_open? h hopen _
  | openedOver hopen => exact sound_openOver? h hopen _
  | shared name => exact (sound_share h name).1
  | serviced number service =>
    exact h.grow (grows_setRecorder fun _ _ hid => Recorder.mem_keys_serviced _ service hid)
      (fun _ _ hr => hr) fun _ _ hnumber => .inl hnumber
  | dropped name =>
    refine h.grow ⟨le_refl _, le_refl _, fun _ _ _ hid => hid⟩ (fun a r hr => ?_)
      fun _ _ hnumber => .inl hnumber
    cases a with
    | resident => exact hr
    | named other =>
      rw [at?, Shelf.get?_erase] at hr
      split at hr
      · contradiction
      · exact hr
  | heldNew holder =>
    have hlength : s.tallies.length ≤ (s.tallies ++ [({} : Tally)]).length := by simp
    exact h.grow ⟨le_refl _, hlength, fun _ _ _ hid => hid⟩ (fun _ _ hr => hr)
      fun _ _ hnumber => .inl hnumber
  | clock | held | routed => exact { h with }

theorem sound_step (h : s.Sound) (step : Step α) : (s.step step).session.Sound :=
  of_after (fun _ _ => sound_change) h [step]

/-- **Every session is sound.** -/
theorem sound_after (keeps : Outlet → Bool) (now : Instant) (steps : List (Step α)) :
    ((start α keeps now).after steps).Sound :=
  of_after (fun _ _ => sound_change) (sound_start keeps now) steps

end Runs
end Session
end Roomwatch
