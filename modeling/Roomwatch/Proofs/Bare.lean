import Mathlib
import Roomwatch.Proofs.Changes

/-! What holding on to series is worth.

A reporter that holds a series writes through what it holds and does not register the
series again. Sessions that hold on to different series cannot be told apart, though, but
by the numbers of registrations that their recorders count. To say so, a session is
stripped of what its reporters hold and of those numbers (`Session.bare`). A stripped
session takes the same steps as the session itself (`bare_step`), for a handle always
stands for the series that would be found without it, so what is left after stripping
does not depend on what is held (`bare_run_eq`). -/
namespace Roomwatch

open Number (Measure)

/-! ### Without what is held -/

/-- Holding on to nothing. -/
def Outlet.isNeverKept (_ : Outlet) : Bool := false

section Bare
variable {α : Type}

/-- A recorder without the numbers of its registrations. -/
def Recorder.bare (r : Recorder α) : Recorder α := { r with registered := {} }

/-- A reporter without what it holds. -/
def Reporter.bare (r : Reporter) : Reporter := { r with handles := [] }

def Desk.bare (d : Desk α) : Desk α := { d with handles := [], recorder := d.recorder.bare }

/-- A session that holds on to nothing, without the numbers of registrations. -/
def Session.bare (s : Session α) : Session α :=
  { s with
    keeps := Outlet.isNeverKept
    recorders := s.recorders.map Recorder.bare
    reporters := s.reporters.mapValues Reporter.bare
    resident := s.resident.map Reporter.bare }

def Reply.bare : Reply α → Reply α
  | .calls described _ => .calls described {}
  | reply => reply

def Outcome.bare (o : Outcome α) : Outcome α := ⟨o.session.bare, o.reply.bare, o.journal⟩

theorem Outcome.bare_eq {o p : Outcome α} (hs : o.session.bare = p.session.bare)
    (hr : o.reply.bare = p.reply.bare) (hj : o.journal = p.journal) : o.bare = p.bare := by
  rw [bare, bare, hs, hr, hj]

@[simp] theorem Recorder.bare_bare (r : Recorder α) : r.bare.bare = r.bare := rfl

@[simp] theorem Reporter.bare_bare (r : Reporter) : r.bare.bare = r.bare := rfl

@[simp] theorem Session.bare_bare (s : Session α) : s.bare.bare = s.bare := by
  simp [Session.bare, Shelf.mapValues, Function.comp_def]

end Bare

/-! ### Desks -/

namespace Desk
variable {α : Type}

theorem sound_bare (d : Desk α) : d.bare.Sound :=
  ⟨fun _ _ h => absurd h.symm (Option.some_ne_none _),
    fun _ _ h => absurd h.symm (Option.some_ne_none _)⟩

theorem bare_described (settings : Settings) (recorder : Recorder α) :
    (described settings recorder).bare = described settings recorder.bare := by
  have (metrics : List Metric) (r : Recorder α) :
      (metrics.foldl (fun r m => r.describe m.shape (m.name settings) m.description) r).bare =
        metrics.foldl (fun r m => r.describe m.shape (m.name settings) m.description) r.bare := by
    induction metrics generalizing r with
    | nil => rfl
    | cons m rest ih => exact ih _
  exact congrArg (fun r => ({ settings, recorder := r } : Desk α)) (this Metric.all recorder)

variable [Measure α]

/-- An update does the same through a handle as without it. -/
theorem bare_apply (keeps : Outlet → Bool) {d : Desk α} (h : d.Sound) (u : Update) :
    (d.apply keeps u).bare = (d.bare.apply Outlet.isNeverKept u).bare := by
  have hhandle (o : Outlet) : d.bare.handle o = d.handle o := (h.handle_eq o).symm
  cases u with
  | acquire o =>
    cases hg : d.handles.get? o with
    | none =>
      simp only [apply, acquire, hg]
      rfl
    | some id =>
      have hregistry := registry_acquire keeps h o
      rw [acquire_of_held hg] at hregistry
      rw [apply, acquire_of_held hg]
      show d.bare = { d.bare with
        recorder := { d.bare.recorder with
          registry := d.recorder.registry.register o.shape (o.id d.settings) } }
      rw [← hregistry]
      rfl
  | move o direction => simp only [apply, hhandle]; rfl
  | count o => simp only [apply, hhandle]; rfl
  | observe o nanos => simp only [apply, hhandle]; rfl
  | tally field direction => rfl
  | note entry => rfl

theorem bare_applyAll (keeps : Outlet → Bool) {d : Desk α} (h : d.Sound)
    (updates : List Update) :
    (d.applyAll keeps updates).bare = (d.bare.applyAll Outlet.isNeverKept updates).bare := by
  induction updates generalizing keeps d with
  | nil => rfl
  | cons u rest ih =>
    show ((d.apply keeps u).applyAll keeps rest).bare =
      ((d.bare.apply Outlet.isNeverKept u).applyAll Outlet.isNeverKept rest).bare
    rw [ih keeps (sound_apply keeps h u), bare_apply keeps h u]
    exact (ih Outlet.isNeverKept (sound_apply Outlet.isNeverKept d.sound_bare u)).symm

theorem bare_run (keeps : Outlet → Bool) {d : Desk α} (h : d.Sound)
    (history : List (Instant × Event)) :
    (d.run keeps history).bare = (d.bare.run Outlet.isNeverKept history).bare := by
  rw [run_eq_applyAll, run_eq_applyAll, bare_applyAll keeps h]

theorem bare_opened (keeps : Outlet → Bool) (settings : Settings) (exposed : Bool)
    (recorder : Recorder α) :
    (opened keeps settings exposed recorder).bare =
      (opened Outlet.isNeverKept settings exposed recorder.bare).bare := by
  rw [opened_eq, opened_eq, bare_applyAll keeps (sound_described settings recorder),
    bare_described]

end Desk

/-! ### Sessions -/

namespace Session
variable {α : Type}

theorem at?_bare (s : Session α) (a : Seat) : s.bare.at? a = (s.at? a).map Reporter.bare := by
  cases a with
  | named name => exact Shelf.get?_mapValues Reporter.bare s.reporters name
  | resident => rfl

theorem recorder_bare (s : Session α) (number : Nat) :
    s.bare.recorder number = (s.recorder number).bare := by
  rw [recorder, recorder, bare, List.getElem?_map]
  cases s.recorders[number]? <;> rfl

theorem bare_place (s : Session α) (r : Reporter) (a : Seat) :
    (s.place r a).bare = s.bare.place r.bare a := by
  cases a with
  | named name => simp only [place, bare, Shelf.mapValues_insert]
  | resident => rfl

theorem bare_setRecorder (s : Session α) (number : Nat) (r : Recorder α) :
    (s.setRecorder number r).bare = s.bare.setRecorder number r.bare := by
  simp only [setRecorder, bare, List.map_set]

theorem bare_addRecorder (s : Session α) :
    s.bare.addRecorder = (s.addRecorder.1.bare, s.addRecorder.2) := by
  simp only [addRecorder, bare, List.map_append, List.map_cons, List.map_nil, List.length_map]
  rfl

theorem bare_share (s : Session α) (name : String) :
    s.bare.share name = ((s.share name).1.bare, (s.share name).2) := by
  rw [share, share]
  cases hn : s.shared.get? name with
  | some number =>
    have hb : s.bare.shared.get? name = some number := hn
    rw [hb]
  | none =>
    have hb : s.bare.shared.get? name = none := hn
    rw [hb, bare_addRecorder]
    rfl

theorem desk_bare (s : Session α) (r : Reporter) : s.bare.desk r.bare = (s.desk r).bare := by
  simp only [desk, recorder_bare]
  rfl

/-- Desks that are alike leave sessions that are alike. -/
theorem bare_update (s : Session α) (number : Nat) (tallies : Tally → List Tally) {d e : Desk α}
    (h : d.bare = e.bare) :
    { s with
        recorders := s.recorders.set number d.recorder
        tallies := tallies d.tally }.bare =
      { s.bare with
        recorders := s.bare.recorders.set number e.recorder
        tallies := tallies e.tally }.bare := by
  have hrecorder : d.bare.recorder = e.bare.recorder := congrArg Desk.recorder h
  have htally : d.bare.tally = e.bare.tally := congrArg Desk.tally h
  have htallies : tallies d.tally = tallies e.tally := congrArg tallies htally
  have hleft := bare_setRecorder { s with tallies := tallies d.tally } number d.recorder
  have hright := bare_setRecorder { s.bare with tallies := tallies e.tally } number e.recorder
  have hsession : { s.bare with tallies := tallies e.tally }.bare =
      { s with tallies := tallies e.tally }.bare := bare_bare { s with tallies := tallies e.tally }
  rw [hsession, ← htallies, ← show d.recorder.bare = e.recorder.bare from hrecorder] at hright
  rw [← htallies]
  exact hleft.trans hright.symm

/-! ### Replies -/

section Acts
variable {s : Session α}

theorem bare_quiet (s : Session α) (reply : Reply α) :
    (s.quiet reply).bare = (s.bare.quiet reply).bare :=
  Outcome.bare_eq s.bare_bare.symm rfl rfl

theorem bare_withReporter (name : String) {act act' : Reporter → Outcome α}
    (h : ∀ r, s.at? (.named name) = some r → (act r).bare = (act' r.bare).bare) :
    (s.withReporter name act).bare = (s.bare.withReporter name act').bare := by
  have hat : s.bare.reporters.get? name = _ := s.at?_bare (.named name)
  rw [withReporter, withReporter, hat]
  cases hr : s.at? (.named name) with
  | none =>
    rw [show s.reporters.get? name = none from hr]
    exact s.bare_quiet _
  | some r =>
    rw [show s.reporters.get? name = some r from hr]
    exact h r hr

theorem bare_withResident {act act' : Reporter → Outcome α}
    (h : ∀ r, s.at? .resident = some r → (act r).bare = (act' r.bare).bare) :
    (s.withResident act).bare = (s.bare.withResident act').bare := by
  have hat : s.bare.resident = _ := s.at?_bare .resident
  rw [withResident, withResident, hat]
  cases hr : s.at? .resident with
  | none =>
    rw [show s.resident = none from hr]
    exact s.bare_quiet _
  | some r =>
    rw [show s.resident = some r from hr]
    exact h r hr

theorem bare_withSettings (draft : Draft) {act act' : Settings → Outcome α}
    (h : ∀ settings, (act settings).bare = (act' settings).bare) :
    (s.withSettings draft act).bare = (s.bare.withSettings draft act').bare := by
  rw [withSettings, withSettings]
  cases draft.settings with
  | ok settings => exact h settings
  | error problem => exact s.bare_quiet _

theorem bare_withRecorder (name : String) {act : Recorder α → Reply α × Recorder α}
    (hreply : ∀ r : Recorder α, (act r).1.bare = (act r.bare).1.bare)
    (hleft : ∀ r : Recorder α, (act r).2.bare = (act r.bare).2.bare) :
    (s.withRecorder name act).bare = (s.bare.withRecorder name act).bare := by
  rw [withRecorder_eq, withRecorder_eq, bare_share, recorder_bare]
  refine Outcome.bare_eq ?_ (hreply _) rfl
  show (setRecorder _ _ _).bare = (setRecorder _ _ _).bare
  rw [bare_setRecorder, bare_setRecorder, bare_bare, hleft]

end Acts

variable [Measure α]

section Reports
variable {s : Session α}

theorem bare_reported (h : s.Sound) {a : Seat} {r : Reporter} (hr : s.at? a = some r)
    (events : List Event) :
    (s.told a r events).bare = (s.bare.told a r.bare events).bare ∧
      (s.report r events).1.tally r.tally = (s.bare.report r.bare events).1.tally r.tally ∧
      (s.report r events).2.2 = (s.bare.report r.bare events).2.2 := by
  have hdesk := Desk.bare_run s.keeps (h.desks a r hr) (events.map fun e => (s.now, e))
  rw [← desk_bare] at hdesk
  refine ⟨?_, ?_, ?_⟩
  · have hleave := s.bare_update r.recorder (s.tallies.set r.tally) hdesk
    show (place _ _ a).bare = (place _ _ a).bare
    rw [bare_place, bare_place]
    exact congrArg (fun t => place t r.bare a) hleave
  · have htally := congrArg Desk.tally hdesk
    show ((s.tallies.set r.tally _)[r.tally]?).getD {} =
      ((s.tallies.set r.tally _)[r.tally]?).getD {}
    exact congrArg (fun x => ((s.tallies.set r.tally x)[r.tally]?).getD {}) htally
  · have hjournal := congrArg Desk.journal hdesk
    exact hjournal

/-- A new reporter is the same but for what it holds. -/
theorem bare_established (s : Session α) (settings : Settings) (exposed : Bool) (number : Nat)
    (a : Seat) :
    ((s.establish settings exposed number).1.place
        (s.establish settings exposed number).2.1 a).bare =
      ((s.bare.establish settings exposed number).1.place
        (s.bare.establish settings exposed number).2.1 a).bare ∧
    (s.establish settings exposed number).1.tallies =
      (s.bare.establish settings exposed number).1.tallies ∧
    (s.establish settings exposed number).2.2 = (s.bare.establish settings exposed number).2.2 := by
  have hdesk := Desk.bare_opened s.keeps settings exposed (s.recorder number)
  rw [← recorder_bare] at hdesk
  have hleft := s.bare_update number (fun tally => s.tallies ++ [tally]) hdesk
  have htallies := congrArg (fun d : Desk α => s.tallies ++ [d.tally]) hdesk
  have hjournal := congrArg Desk.journal hdesk
  refine ⟨?_, htallies, hjournal⟩
  rw [bare_place, bare_place]
  exact congrArg (fun t => place t _ a) hleft

end Reports

/-! ### Steps -/

section Steps
variable {s : Session α}

/-- Whether a reporter can be opened does not depend on what others hold. -/
theorem bare_keep_open? (s : Session α) (name : String) (settings : Settings) :
    (s.keep name (s.open? settings)).bare = (s.bare.keep name (s.bare.open? settings)).bare := by
  rw [open?, open?]
  cases settings.check with
  | error problem => exact s.bare_quiet _
  | ok checked =>
    obtain ⟨hsession, -, hjournal⟩ :=
      s.addRecorder.1.bare_established settings true s.addRecorder.2 (.named name)
    rw [bare_addRecorder]
    exact Outcome.bare_eq hsession rfl hjournal

theorem bare_keep_openOver? (s : Session α) (name recorder : String) (settings : Settings) :
    (s.keep name (s.openOver? settings recorder)).bare =
      (s.bare.keep name (s.bare.openOver? settings recorder)).bare := by
  rw [openOver?, openOver?]
  cases settings.check with
  | error problem => exact s.bare_quiet _
  | ok checked =>
    obtain ⟨hsession, -, hjournal⟩ :=
      (s.share recorder).1.bare_established settings false (s.share recorder).2 (.named name)
    rw [bare_share]
    exact Outcome.bare_eq hsession rfl hjournal

theorem bare_residentBuild (s : Session α) (settings : Settings) :
    (s.residentBuild settings).bare = (s.bare.residentBuild settings).bare := by
  rw [residentBuild, residentBuild]
  cases hr : s.resident with
  | some r =>
    rw [show s.bare.resident = some r.bare by rw [bare, hr]; rfl]
    exact Outcome.bare_eq s.bare_bare.symm rfl rfl
  | none =>
    rw [show s.bare.resident = none by rw [bare, hr]; rfl]
    dsimp only
    rw [open?, open?]
    cases settings.check with
    | error problem => exact s.bare_quiet _
    | ok checked =>
      obtain ⟨hsession, htallies, hjournal⟩ :=
        s.addRecorder.1.bare_established settings true s.addRecorder.2 .resident
      rw [bare_addRecorder]
      refine Outcome.bare_eq hsession ?_ hjournal
      exact congrArg (fun tallies : List Tally =>
        Reply.status settings ((tallies[s.tallies.length]?).getD {})) htallies

theorem bare_expose (s : Session α) (number : Nat) :
    s.bare.expose number = ((s.expose number).1, (s.expose number).2.bare) := by
  simp only [expose, recorder_bare, bare_setRecorder]
  rfl

theorem bare_render (s : Session α) (r : Reporter) :
    s.bare.render r.bare = ((s.render r).1, (s.render r).2.bare) := by
  rw [render, render]
  cases he : r.exposed with
  | true => simp only [Reporter.bare, he, if_true, bare_expose]
  | false => simp only [Reporter.bare, he]; rfl

theorem bare_upkeep (s : Session α) (r : Reporter) :
    (s.upkeep r).bare = s.bare.upkeep r.bare := by
  rw [upkeep, upkeep]
  cases he : r.exposed with
  | true =>
    simp only [Reporter.bare, he, if_true, bare_setRecorder, recorder_bare]
    rfl
  | false => simp only [Reporter.bare, he]; rfl

theorem bare_ask (s : Session α) (r : Reporter) (questions : List Exposition.Question) :
    (s.ask r questions).bare = (s.bare.ask r.bare questions).bare := by
  rw [ask, ask, bare_render]
  cases hrender : s.render r with
  | mk page t =>
    cases page with
    | none => exact t.bare_quiet _
    | some page =>
      dsimp only
      cases Exposition.read ("\n".intercalate page.lines) with
      | ok samples => exact t.bare_quiet _
      | error malformed => exact t.bare_quiet _

theorem bare_compareHandle (s : Session α) (r : Reporter) :
    (s.compareHandle r).bare = (s.bare.compareHandle r.bare).bare := by
  rw [compareHandle, compareHandle, bare_render]
  cases hrender : s.render r with
  | mk page t =>
    cases page with
    | none => exact t.bare_quiet _
    | some page =>
      dsimp only
      rw [show r.bare.recorder = r.recorder from rfl, bare_expose]
      exact bare_quiet _ _

omit [Measure α] in
theorem bare_makeRoute (s : Session α) (r : Reporter) (route : String) :
    (s.makeRoute r route).bare = (s.bare.makeRoute r.bare route).bare :=
  bare_quiet
    { s with routes := if r.exposed then s.routes.insert route r.recorder else s.routes } _

theorem bare_request (s : Session α) (number : Nat) (method address : String) :
    (s.request number method address).bare = (s.bare.request number method address).bare := by
  unfold request
  rw [bare_expose]
  dsimp only
  split
  · exact Outcome.bare_eq (bare_bare _).symm rfl rfl
  · exact s.bare_quiet _

/-- A session takes every step as it would without what is held. -/
theorem bare_step (h : s.Sound) (step : Step α) :
    (s.step step).bare = (s.bare.step step).bare := by
  cases step with
  | clock now => exact bare_quiet { s with now } .done
  | build draft name =>
    exact bare_withSettings draft fun settings => s.bare_keep_open? name settings
  | buildOver draft name recorder =>
    exact bare_withSettings draft fun settings => s.bare_keep_openOver? name recorder settings
  | drop name =>
    have hat : s.bare.reporters.get? name = _ := s.at?_bare (.named name)
    have hsession : { s.bare with reporters := s.bare.reporters.erase name } =
        { s with reporters := s.reporters.erase name }.bare := by
      simp only [bare, Shelf.mapValues_erase]
    refine Outcome.bare_eq ?_ ?_ rfl
    · exact (congrArg bare hsession).trans (bare_bare _) |>.symm
    · show Reply.dropped _ = Reply.dropped _
      rw [hat, Option.isSome_map]
      rfl
  | residentBuild draft => exact bare_withSettings draft s.bare_residentBuild
  | residentRead => exact bare_withResident fun r hr => s.bare_quiet _
  | residentReport events =>
    refine bare_withResident fun r hr => ?_
    obtain ⟨hsession, htally, hjournal⟩ := bare_reported h hr events
    exact Outcome.bare_eq hsession (congrArg Reply.tally htally) hjournal
  | residentRender =>
    refine bare_withResident fun r hr => ?_
    rw [bare_render]
    exact bare_quiet _ _
  | report name events =>
    refine bare_withReporter name fun r hr => ?_
    obtain ⟨hsession, htally, hjournal⟩ := bare_reported h hr events
    exact Outcome.bare_eq hsession (congrArg Reply.tally htally) hjournal
  | settings name => exact bare_withReporter name fun r hr => s.bare_quiet _
  | tally name => exact bare_withReporter name fun r hr => s.bare_quiet _
  | hold name holder =>
    exact bare_withReporter name fun r hr =>
      bare_quiet { s with held := s.held.insert holder r.tally } .done
  | holdNew holder => exact bare_quiet _ _
  | heldTally holder =>
    have hheld : s.bare.held = s.held := rfl
    simp only [Session.step, hheld]
    cases s.held.get? holder with
    | some number => exact s.bare_quiet _
    | none => exact s.bare_quiet _
  | display name => exact bare_withReporter name fun r hr => s.bare_quiet _
  | render name =>
    refine bare_withReporter name fun r hr => ?_
    rw [bare_render]
    exact bare_quiet _ _
  | ask name questions => exact bare_withReporter name fun r hr => s.bare_ask r questions
  | compareHandle name => exact bare_withReporter name fun r hr => s.bare_compareHandle r
  | upkeep name =>
    refine bare_withReporter name fun r hr => ?_
    rw [← bare_upkeep]
    exact bare_quiet _ _
  | residentRoute route => exact bare_withResident fun r hr => s.bare_makeRoute r route
  | route name route => exact bare_withReporter name fun r hr => s.bare_makeRoute r route
  | request route method address =>
    have hroutes : s.bare.routes = s.routes := rfl
    simp only [Session.step, hroutes]
    cases s.routes.get? route with
    | some number => exact s.bare_request number method address
    | none => exact s.bare_quiet _
  | capture recorder => exact bare_withRecorder recorder (fun r => rfl) fun r => rfl
  | calls recorder => exact bare_withRecorder recorder (fun r => rfl) fun r => rfl
  | lookup recorder lookups => exact bare_withRecorder recorder (fun r => rfl) fun r => rfl
  | rawCount recorder id amount => exact bare_withRecorder recorder (fun r => rfl) fun r => rfl
  | rawGauge recorder id level => exact bare_withRecorder recorder (fun r => rfl) fun r => rfl
  | rawObserve recorder id value => exact bare_withRecorder recorder (fun r => rfl) fun r => rfl

theorem bare_outcomes {t : Session α} (hs : s.Sound) (ht : t.Sound) (h : s.bare = t.bare)
    (steps : List (Step α)) : (s.run steps).map Outcome.bare = (t.run steps).map Outcome.bare := by
  induction steps generalizing s t with
  | nil => rfl
  | cons step rest ih =>
    have hstep : (s.step step).bare = (t.step step).bare := by
      rw [bare_step hs, bare_step ht, h]
    have hsession : (s.step step).session.bare = (t.step step).session.bare :=
      congrArg Outcome.session hstep
    rw [run, run, List.map_cons, List.map_cons, hstep]
    congr 1
    exact ih (sound_step hs step) (sound_step ht step) hsession

end Steps

/-- **What reporters hold on to cannot be told**, whatever is requested: after every step of
two sessions that hold on to different series, everything is the same but for what is held
and for how often series were registered. Holding on to the known kinds of track
(`Outlet.isKept`) and asking for every kind each time (`Outlet.isFixed`) are two cases. -/
theorem bare_run_eq (keeps other : Outlet → Bool) (now : Instant) (steps : List (Step α)) :
    ((start α keeps now).run steps).map Outcome.bare =
      ((start α other now).run steps).map Outcome.bare :=
  bare_outcomes (sound_start keeps now) (sound_start other now) rfl steps

end Session

end Roomwatch
