import Mathlib
import Roomwatch.Proofs.Isolation
import Roomwatch.Proofs.Loading
import Roomwatch.Proofs.Sharing

/-! Reporters that cannot be opened.

Settings are checked before anything is done, so a reporter that is refused leaves the
session as it was (`Session.session_refused`), and a run goes on as if nobody had asked for
it (`Session.run_unrefused`). A reporter that is opened registers its fixed series and
writes to none, so every series that its recorder has says what it said before
(`Registry.Retains`), and a recorder that has them all is not changed (`Session.reopened`). -/
namespace Roomwatch

open Number (Measure)

/-! ### Registering keeps what is there -/

namespace Registry
variable {α : Type}

/-- Every series that one registry has says the same in another one. -/
structure Retains (g k : Registry α) : Prop where
  counters : ∀ id total, g.counter? id = some total → k.counter? id = some total
  gauges : ∀ id level, g.gauge? id = some level → k.gauge? id = some level
  histograms : ∀ id waiting, g.waiting? id = some waiting → k.waiting? id = some waiting

theorem Retains.refl (g : Registry α) : g.Retains g :=
  ⟨fun _ _ h => h, fun _ _ h => h, fun _ _ h => h⟩

theorem Retains.trans {g k l : Registry α} (h : g.Retains k) (h' : k.Retains l) : g.Retains l :=
  ⟨fun id v hv => h'.counters id v (h.counters id v hv),
    fun id v hv => h'.gauges id v (h.gauges id v hv),
    fun id v hv => h'.histograms id v (h.histograms id v hv)⟩

variable [Measure α]

theorem retains_register (g : Registry α) (shape : Shape) (id : SeriesId) :
    g.Retains (g.register shape id) := by
  have hkept {β : Type} (shelf : Shelf SeriesId β) (new : β) (j : SeriesId) (v : β)
      (hv : shelf.get? j = some v) : (shelf.insertIfNew id new).get? j = some v := by
    rw [Shelf.get?_insertIfNew]
    split
    · next he => rw [← he, hv, Option.getD_some]
    · exact hv
  cases shape with
  | counter => exact ⟨hkept g.counters 0, fun _ _ h => h, fun _ _ h => h⟩
  | gauge => exact ⟨fun _ _ h => h, hkept g.gauges Measure.zero, fun _ _ h => h⟩
  | histogram => exact ⟨fun _ _ h => h, fun _ _ h => h, hkept g.histograms []⟩

theorem retains_acquired (g : Registry α) (settings : Settings) (outlets : List Outlet) :
    g.Retains (g.actAll (acts settings (outlets.map Update.acquire))) := by
  induction outlets generalizing g with
  | nil => exact .refl g
  | cons o rest ih => exact (g.retains_register o.shape (o.id settings)).trans (ih _)

end Registry

/-- What a reporter registers when it is opened. -/
theorem Desk.registry_opened {α : Type} [Measure α] (keeps : Outlet → Bool) (settings : Settings)
    (exposed : Bool) (recorder : Recorder α) :
    (opened keeps settings exposed recorder).recorder.registry =
      recorder.registry.actAll (acts settings (Outlet.fixed.map Update.acquire)) := by
  obtain ⟨-, hregistry⟩ := registry_life keeps settings exposed recorder []
  rw [life, List.flatMap_nil, List.append_nil] at hregistry
  exact hregistry

/-- A step that asks for a reporter with settings that are not sound. -/
def Step.refused {α : Type} : Step α → Bool
  | .build draft _ | .buildOver draft _ _ | .residentBuild draft => !draft.opens
  | _ => false

namespace Session
variable {α : Type}

/-! ### Refusals -/

/-- A draft that opens no reporter changes nothing, if nothing is done before the check. -/
theorem withSettings_refused (s : Session α) {draft : Draft} (h : (!draft.opens) = true)
    {act : Settings → Outcome α}
    (hact : ∀ settings problem, settings.check = .error problem → (act settings).session = s) :
    (s.withSettings draft act).session = s := by
  rw [Bool.not_eq_true', Draft.opens] at h
  rw [withSettings]
  cases hsettings : draft.settings with
  | error problem => rfl
  | ok settings =>
    rw [hsettings] at h
    cases hcheck : settings.check with
    | error problem => exact hact settings problem hcheck
    | ok checked => simp [hcheck, Except.isOk, Except.toBool] at h

variable [Measure α]

section Refusals
variable (s : Session α)

/-- **A refused reporter leaves everything as it was.** -/
theorem session_refused {step : Step α} (h : step.refused = true) :
    (s.step step).session = s := by
  cases step with
  | build draft name =>
    refine s.withSettings_refused h fun settings problem hcheck => ?_
    rw [open?, hcheck]
    rfl
  | buildOver draft name recorder =>
    refine s.withSettings_refused h fun settings problem hcheck => ?_
    rw [openOver?, hcheck]
    rfl
  | residentBuild draft =>
    refine s.withSettings_refused h fun settings problem hcheck => ?_
    rw [residentBuild, open?, hcheck]
    cases s.resident <;> rfl
  | _ => contradiction

/-- The outcomes of the other steps are what they would be without refused ones among them. -/
theorem run_unrefused (steps : List (Step α)) :
    ((steps.zip (s.run steps)).filter fun made => !made.1.refused).map Prod.snd =
      s.run (steps.filter fun step => !step.refused) := by
  induction steps generalizing s with
  | nil => rfl
  | cons step rest ih =>
    rw [run, List.zip_cons_cons]
    by_cases h : step.refused = true
    · rw [List.filter_cons_of_neg (by simp [h]), List.filter_cons_of_neg (by simp [h]), ih,
        s.session_refused h]
    · rw [List.filter_cons_of_pos (by simp [h]), List.filter_cons_of_pos (by simp [h]),
        List.map_cons, ih, run]

end Refusals

/-! ### Reporters over a shared recorder -/

/-- What comes of asking for a reporter over a shared recorder. -/
structure Attempt (s : Session α) (settings : Settings) (name recorder : String) : Prop where
  opens : (s.step (.buildOver settings.draft name recorder)).reply = .done ↔
    settings.node ≠ "" ∧ settings.scope.toList ∈ Settings.scopePattern.matches'
  fails : (∃ fault, (s.step (.buildOver settings.draft name recorder)).reply = .fault fault) ↔
    settings.node = "" ∨ settings.scope.toList ∉ Settings.scopePattern.matches'
  /-- A failure tells what the check says ... -/
  told : ∀ fault, (s.step (.buildOver settings.draft name recorder)).reply = .fault fault →
    ∃ problem, settings.check = .error problem ∧ fault = .settings problem
  /-- ... and leaves the session as it was, without an entry. -/
  spares : ∀ fault, (s.step (.buildOver settings.draft name recorder)).reply = .fault fault →
    s.step (.buildOver settings.draft name recorder) = s.quiet (.fault fault)
  refused : (Step.buildOver settings.draft name recorder : Step α).refused = true ↔
    ∃ fault, (s.step (.buildOver settings.draft name recorder)).reply = .fault fault
  /-- A new reporter resets nothing. -/
  retains : (s.common recorder).registry.Retains
    ((s.step (.buildOver settings.draft name recorder)).session.common recorder).registry

section Attempts
variable {s : Session α} {draft : Draft} {settings : Settings}

theorem step_buildOver (s : Session α) (hdraft : draft.settings = .ok settings)
    (name recorder : String) :
    s.step (.buildOver draft name recorder) = s.keep name (s.openOver? settings recorder) := by
  rw [step, withSettings, hdraft]

/-- What a new reporter registers in the recorder that it shares. -/
theorem registry_buildOver (h : s.Tidy) (hdraft : draft.settings = .ok settings)
    (hcheck : settings.check = .ok ()) (name recorder : String) :
    (s.step (.buildOver draft name recorder)).reply = .done ∧
      ((s.step (.buildOver draft name recorder)).session.common recorder).registry =
        (s.common recorder).registry.actAll
          (acts settings (Outlet.fixed.map Update.acquire)) := by
  have hopen : s.openOver? settings recorder =
      .ok ((s.share recorder).1.establish settings false (s.share recorder).2) := by
    rw [openOver?, hcheck]
  rw [step_buildOver s hdraft, hopen]
  refine ⟨rfl, ?_⟩
  show (Session.common (Session.place _ _ (.named name)) recorder).registry = _
  rw [common_openedOver h hopen, if_pos rfl, Desk.registry_opened]

theorem attempt (h : s.Tidy) (settings : Settings) (name recorder : String) :
    s.Attempt settings name recorder := by
  have hopens : (Step.buildOver settings.draft name recorder : Step α).refused =
      !settings.check.isOk := by
    rw [Step.refused, Draft.opens, settings.settings_draft]
  have hsound := settings.check_eq_ok_iff_matches
  cases hcheck : settings.check with
  | error problem =>
    have hstep : s.step (.buildOver settings.draft name recorder) =
        s.quiet (.fault (.settings problem)) := by
      rw [step_buildOver s settings.settings_draft, openOver?, hcheck]
      rfl
    have hreply : (s.step (.buildOver settings.draft name recorder)).reply =
        .fault (.settings problem) := congrArg Outcome.reply hstep
    have hbad : ¬ (settings.node ≠ "" ∧
        settings.scope.toList ∈ Settings.scopePattern.matches') := fun hgood => by
      rw [hsound.2 hgood] at hcheck
      contradiction
    have hfails : settings.node = "" ∨
        settings.scope.toList ∉ Settings.scopePattern.matches' := by
      rwa [not_and_or, not_not] at hbad
    constructor
    case opens =>
      refine iff_of_false (fun hdone => ?_) hbad
      rw [hreply] at hdone
      contradiction
    case fails => exact iff_of_true ⟨_, hreply⟩ hfails
    case told =>
      intro fault hfault
      exact ⟨problem, hcheck, Reply.fault.inj (hfault.symm.trans hreply)⟩
    case spares =>
      intro fault hfault
      rw [hstep, Reply.fault.inj (hfault.symm.trans hreply)]
    case refused => exact iff_of_true (hopens.trans (by rw [hcheck]; rfl)) ⟨_, hreply⟩
    case retains =>
      rw [hstep]
      exact .refl _
  | ok checked =>
    obtain ⟨hreply, hregistry⟩ :=
      registry_buildOver h settings.settings_draft hcheck name recorder
    have hgood := hsound.1 hcheck
    have hnofault : ¬ ∃ fault, (s.step (.buildOver settings.draft name recorder)).reply =
        .fault fault := by
      rintro ⟨fault, hfault⟩
      rw [hreply] at hfault
      contradiction
    constructor
    case opens => exact iff_of_true hreply hgood
    case fails =>
      refine iff_of_false hnofault ?_
      rintro (hnode | hscope)
      · exact hgood.1 hnode
      · exact hscope hgood.2
    case told => exact fun fault hfault => absurd ⟨fault, hfault⟩ hnofault
    case spares => exact fun fault hfault => absurd ⟨fault, hfault⟩ hnofault
    case refused =>
      refine iff_of_false ?_ hnofault
      rw [hopens, hcheck]
      exact Bool.false_ne_true
    case retains =>
      rw [hregistry]
      exact Registry.retains_acquired ..

end Attempts

/-! ### Settings that were used before -/

/-- **A reporter like one before registers nothing**, whatever has become of the first one. -/
theorem reopened (keeps : Outlet → Bool) (now : Instant) {settings : Settings}
    (hcheck : settings.check = .ok ()) (recorder : String) {draft : Draft}
    (hdraft : draft.settings = .ok settings) (before since : List (Step α)) (other name : String) :
    let s := (start α keeps now).after (before ++ .buildOver draft other recorder :: since)
    ((s.step (.buildOver settings.draft name recorder)).session.common recorder).registry =
      (s.common recorder).registry := by
  intro s
  set first := (start α keeps now).after before
  set opened := (first.step (.buildOver draft other recorder)).session with hopened
  have hs : s = opened.after since := List.foldl_append
  have hfirst : first.Tidy := tidy_after keeps now before
  have hregistered (o : Outlet) (ho : o ∈ Outlet.fixed) :
      o.id settings ∈ (opened.common recorder).registry.keys o.shape := by
    rw [hopened, (registry_buildOver hfirst hdraft hcheck other recorder).2,
      Registry.mem_keys_actAll, register_mem_acts]
    exact .inr ⟨o, List.mem_map_of_mem ho, rfl, rfl⟩
  have hknown (o : Outlet) (ho : o ∈ Outlet.fixed) :
      o.id settings ∈ (s.common recorder).registry.keys o.shape := by
    rw [hs]
    exact known_after (sound_step hfirst.toSound _) (hregistered o ho) since
  have hagain := registry_buildOver (tidy_after keeps now _) settings.settings_draft hcheck name
    recorder (s := s)
  rw [hagain.2, actAll_acquired_of_known hknown]

/-- **Asking for a reporter, in every session.** It fails just when the settings are not sound,
and then a run goes on as if nobody had asked; and it resets nothing. -/
theorem attempt_after (keeps : Outlet → Bool) (now : Instant) (steps : List (Step α))
    (settings : Settings) (name recorder : String) :
    let s := (start α keeps now).after steps
    s.Attempt settings name recorder ∧
      (∀ more : List (Step α),
        ((more.zip (s.run more)).filter fun made => !made.1.refused).map Prod.snd =
          s.run (more.filter fun step => !step.refused)) ∧
      (∀ before since draft other, steps = before ++ .buildOver draft other recorder :: since →
        draft.settings = .ok settings → settings.check = .ok () →
        ((s.step (.buildOver settings.draft name recorder)).session.common recorder).registry =
          (s.common recorder).registry) := by
  intro s
  refine ⟨attempt (tidy_after keeps now steps) settings name recorder, s.run_unrefused, ?_⟩
  rintro before since draft other rfl hdraft hcheck
  exact reopened keeps now hcheck recorder hdraft before since other name

end Session
end Roomwatch
