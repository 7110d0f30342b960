import Mathlib
import Roomwatch.Proofs.Handles
import Roomwatch.Session.State

/-! Reporters at their seats.

A session finds its reporters under names, and one more as the resident (`Seat`). It is
sound when every reporter at a seat can do its work and none gets into the way of
another (`Session.Sound`): the handles name registered series, the recorder and the
tally are there, and no two reporters have the same tally. A session stays sound while
it grows (`Sound.grow`), and when a reporter takes a seat (`Sound.place`): one that was
told of events (`sound_told`) or a new one (`sound_establish`). -/
namespace Roomwatch

open Number (Measure)

/-- Where a session finds a reporter. -/
inductive Seat where
  | named (name : String)
  | resident
deriving DecidableEq

theorem Desk.Sound.grow {α : Type} {d e : Desk α} (h : d.Sound) (hs : e.settings = d.settings)
    (hh : e.handles = d.handles)
    (hk : ∀ shape id, id ∈ d.recorder.registry.keys shape → id ∈ e.recorder.registry.keys shape) :
    e.Sound := by
  refine ⟨fun o id ho => ?_, fun o id ho => ?_⟩
  · rw [hs]
    exact h.names o id (hh ▸ ho)
  · exact hk _ _ (h.known o id (hh ▸ ho))

namespace Session
variable {α : Type}

def at? (s : Session α) : Seat → Option Reporter
  | .named name => s.reporters.get? name
  | .resident => s.resident

def place (s : Session α) (r : Reporter) : Seat → Session α
  | .named name => { s with reporters := s.reporters.insert name r }
  | .resident => { s with resident := some r }

theorem at?_place (s : Session α) (r : Reporter) (a b : Seat) :
    (s.place r a).at? b = if b = a then some r else s.at? b := by
  cases a <;> cases b <;> simp [place, at?, Shelf.get?_insert]

theorem recorder_place (s : Session α) (r : Reporter) (a : Seat) (number : Nat) :
    (s.place r a).recorder number = s.recorder number := by
  cases a <;> rfl

theorem tally_place (s : Session α) (r : Reporter) (a : Seat) (number : Nat) :
    (s.place r a).tally number = s.tally number := by
  cases a <;> rfl

theorem keeps_place (s : Session α) (r : Reporter) (a : Seat) : (s.place r a).keeps = s.keeps := by
  cases a <;> rfl

/-! ### Soundness -/

/-- A session whose reporters can do their work and do not get into each other's way. -/
structure Sound (s : Session α) : Prop where
  desks : ∀ a r, s.at? a = some r → (s.desk r).Sound
  fixed : ∀ a r, s.at? a = some r → ∀ o ∈ Outlet.fixed,
    o.id r.settings ∈ (s.recorder r.recorder).registry.keys o.shape
  recorder_lt : ∀ a r, s.at? a = some r → r.recorder < s.recorders.length
  tally_lt : ∀ a r, s.at? a = some r → r.tally < s.tallies.length
  apart : ∀ a b r q, s.at? a = some r → s.at? b = some q → r.tally = q.tally → a = b
  shared_lt : ∀ name number, s.shared.get? name = some number → number < s.recorders.length

/-- A session that lacks nothing that another one has. -/
structure Grows (s t : Session α) : Prop where
  recorders : s.recorders.length ≤ t.recorders.length
  tallies : s.tallies.length ≤ t.tallies.length
  keys : ∀ number shape id, id ∈ (s.recorder number).registry.keys shape →
    id ∈ (t.recorder number).registry.keys shape

section Sound
variable {s t : Session α}

theorem recorder_setRecorder (number other : Nat) (r : Recorder α)
    (h : number < s.recorders.length) :
    (s.setRecorder number r).recorder other = if other = number then r else s.recorder other := by
  rw [recorder, setRecorder, recorder, List.getElem?_set]
  by_cases hother : number = other
  · subst hother
    simp [h]
  · simp [hother, Ne.symm hother]

/-- What a reporter does at its desk is on record afterwards, and nothing else has changed. -/
theorem recorder_leave {r : Reporter} (d : Desk α) (hn : r.recorder < s.recorders.length)
    (number : Nat) :
    (s.leave r d).1.recorder number =
      if number = r.recorder then d.recorder else s.recorder number :=
  recorder_setRecorder r.recorder number d.recorder hn

theorem grows_setRecorder {number : Nat} {r : Recorder α}
    (h : ∀ shape id, id ∈ (s.recorder number).registry.keys shape → id ∈ r.registry.keys shape) :
    s.Grows (s.setRecorder number r) := by
  refine ⟨by simp [setRecorder], le_refl _, fun other shape id hid => ?_⟩
  by_cases hn : number < s.recorders.length
  · rw [recorder_setRecorder number other r hn]
    split
    · next he => exact h shape id (he ▸ hid)
    · exact hid
  · rwa [setRecorder, List.set_eq_of_length_le (Nat.le_of_not_lt hn)]

/-- Nothing that grows makes a session unsound, as long as nobody takes a seat. -/
theorem Sound.grow (h : s.Sound) (hg : s.Grows t)
    (hseats : ∀ a r, t.at? a = some r → s.at? a = some r)
    (hshared : ∀ name number, t.shared.get? name = some number →
      s.shared.get? name = some number ∨ number < t.recorders.length) : t.Sound := by
  constructor
  case desks =>
    intro a r hr
    have hdesk := h.desks a r (hseats a r hr)
    exact hdesk.grow rfl rfl (hg.keys r.recorder)
  case fixed => exact fun a r hr o ho => hg.keys _ _ _ (h.fixed a r (hseats a r hr) o ho)
  case recorder_lt =>
    exact fun a r hr => (h.recorder_lt a r (hseats a r hr)).trans_le hg.recorders
  case tally_lt => exact fun a r hr => (h.tally_lt a r (hseats a r hr)).trans_le hg.tallies
  case apart => exact fun a b r q hr hq => h.apart a b r q (hseats a r hr) (hseats b q hq)
  case shared_lt =>
    intro name number hnumber
    rcases hshared name number hnumber with hold | hnew
    · exact (h.shared_lt name number hold).trans_le hg.recorders
    · exact hnew

/-- A reporter with a tally of its own may take a seat. -/
theorem Sound.place (h : s.Sound) (a : Seat) {r : Reporter} (hdesk : (s.desk r).Sound)
    (hfixed : ∀ o ∈ Outlet.fixed,
      o.id r.settings ∈ (s.recorder r.recorder).registry.keys o.shape)
    (hrecorder : r.recorder < s.recorders.length) (htally : r.tally < s.tallies.length)
    (hown : ∀ b q, b ≠ a → s.at? b = some q → q.tally ≠ r.tally) : (s.place r a).Sound := by
  have hseats (b : Seat) (q : Reporter) (hq : (s.place r a).at? b = some q) :
      b = a ∧ q = r ∨ b ≠ a ∧ s.at? b = some q := by
    rw [at?_place] at hq
    split at hq
    · next he => exact .inl ⟨he, (Option.some.inj hq).symm⟩
    · next hne => exact .inr ⟨hne, hq⟩
  have hsame : s.place r a = { s with
      reporters := (s.place r a).reporters
      resident := (s.place r a).resident } := by
    cases a <;> rfl
  constructor
  case desks =>
    intro b q hq
    rw [hsame]
    rcases hseats b q hq with ⟨rfl, rfl⟩ | ⟨-, hq⟩
    · exact hdesk
    · exact h.desks b q hq
  case fixed =>
    intro b q hq
    rw [hsame]
    rcases hseats b q hq with ⟨rfl, rfl⟩ | ⟨-, hq⟩
    · exact hfixed
    · exact h.fixed b q hq
  case recorder_lt =>
    intro b q hq
    rw [hsame]
    rcases hseats b q hq with ⟨rfl, rfl⟩ | ⟨-, hq⟩
    · exact hrecorder
    · exact h.recorder_lt b q hq
  case tally_lt =>
    intro b q hq
    rw [hsame]
    rcases hseats b q hq with ⟨rfl, rfl⟩ | ⟨-, hq⟩
    · exact htally
    · exact h.tally_lt b q hq
  case apart =>
    intro b c p q hp hq he
    rcases hseats b p hp with ⟨hb, hpr⟩ | ⟨hb, hpold⟩
    · rcases hseats c q hq with ⟨hc, -⟩ | ⟨hc, hqold⟩
      · rw [hb, hc]
      · exact absurd (hpr ▸ he).symm (hown c q hc hqold)
    · rcases hseats c q hq with ⟨hc, hqr⟩ | ⟨hc, hqold⟩
      · exact absurd (hqr ▸ he) (hown b p hb hpold)
      · exact h.apart b c p q hpold hqold he
  case shared_lt =>
    rw [hsame]
    exact h.shared_lt

/-- A new recorder is there for nobody yet. -/
theorem grows_addRecorder : s.Grows s.addRecorder.1 := by
  refine ⟨by simp [addRecorder], le_refl _, fun number shape id hid => ?_⟩
  by_cases hn : number < s.recorders.length
  · rwa [recorder, addRecorder, List.getElem?_append_left hn]
  · rw [recorder, List.getElem?_eq_none (Nat.le_of_not_lt hn)] at hid
    cases shape <;> exact absurd hid List.not_mem_nil

theorem sound_addRecorder (h : s.Sound) : s.addRecorder.1.Sound :=
  h.grow grows_addRecorder (fun _ _ hr => hr) fun _ _ hnumber => .inl hnumber

/-- A shared recorder is there, and its first mention changes no other. -/
theorem sound_share (h : s.Sound) (name : String) :
    (s.share name).1.Sound ∧ (s.share name).2 < (s.share name).1.recorders.length := by
  rw [share]
  split
  · next number hnumber => exact ⟨h, h.shared_lt name number hnumber⟩
  · next hnew =>
    have hlt : s.recorders.length < s.addRecorder.1.recorders.length := by simp [addRecorder]
    refine ⟨h.grow ⟨hlt.le, le_refl _, grows_addRecorder.keys⟩ (fun _ _ hr => hr) ?_, hlt⟩
    intro other number hnumber
    change (s.shared.insertIfNew name s.recorders.length).get? other = some number at hnumber
    rw [Shelf.get?_insertIfNew, hnew] at hnumber
    split at hnumber
    · right
      rw [← Option.some.inj hnumber]
      exact hlt
    · exact .inl hnumber

end Sound

variable [Measure α]

/-- A reporter at its seat is told of events. -/
def told (s : Session α) (a : Seat) (r : Reporter) (events : List Event) : Session α :=
  (s.report r events).1.place (s.report r events).2.1 a

/-- The desk of a reporter once it was told of events. -/
def toldDesk (s : Session α) (r : Reporter) (events : List Event) : Desk α :=
  (s.desk r).run s.keeps (events.map fun e => (s.now, e))

/-! ### Reporters at work -/

section Work
variable {s : Session α}

section Told
variable {a : Seat} {r : Reporter} (events : List Event)

theorem at?_told (b : Seat) :
    (s.told a r events).at? b =
      if b = a then some { r with handles := (s.toldDesk r events).handles } else s.at? b :=
  at?_place _ _ a b

theorem recorder_told (hn : r.recorder < s.recorders.length) (number : Nat) :
    (s.told a r events).recorder number =
      if number = r.recorder then (s.toldDesk r events).recorder else s.recorder number := by
  rw [told, recorder_place]
  exact recorder_leave (s.toldDesk r events) hn number

theorem tally_told (hn : r.tally < s.tallies.length) (number : Nat) :
    (s.told a r events).tally number =
      if number = r.tally then (s.toldDesk r events).tally else s.tally number := by
  rw [told, tally_place]
  show ((s.tallies.set r.tally _)[number]?).getD {} = _
  rw [List.getElem?_set]
  by_cases hother : r.tally = number
  · subst hother
    rw [if_pos rfl, if_pos hn, if_pos rfl]
    rfl
  · rw [if_neg hother, if_neg (Ne.symm hother)]
    rfl

theorem keeps_told : (s.told a r events).keeps = s.keeps := keeps_place _ _ a

end Told

/-- A reporter that is told of events makes its session lack nothing. -/
theorem grows_report (h : s.Sound) {a : Seat} {r : Reporter} (hr : s.at? a = some r)
    (events : List Event) : s.Grows (s.report r events).1 := by
  have hkept (shape : Shape) (id : SeriesId)
      (hid : id ∈ (s.recorder r.recorder).registry.keys shape) :
      id ∈ (s.toldDesk r events).recorder.registry.keys shape := by
    rw [toldDesk, Desk.run_eq_applyAll, (Desk.registry_applyAll s.keeps (h.desks a r hr) _).2,
      Registry.mem_keys_actAll]
    exact .inl hid
  have hgrows := grows_setRecorder (s := s) hkept
  refine ⟨hgrows.recorders, ?_, hgrows.keys⟩
  simp [report, leave]

theorem sound_told (h : s.Sound) {a : Seat} {r : Reporter} (hr : s.at? a = some r)
    (events : List Event) : (s.told a r events).Sound := by
  have hn := h.recorder_lt a r hr
  have hgrows := grows_report h hr events
  have hleft : (s.report r events).1.Sound :=
    h.grow hgrows (fun b q hq => hq) (fun name number hnumber => .inl hnumber)
  have hdesk : (s.toldDesk r events).Sound := by
    rw [toldDesk, Desk.run_eq_applyAll]
    exact (Desk.registry_applyAll s.keeps (h.desks a r hr) _).1
  have hrecorder : (s.report r events).1.recorder r.recorder =
      (s.toldDesk r events).recorder := by
    have hleave := recorder_leave (s.toldDesk r events) hn r.recorder
    rwa [if_pos rfl] at hleave
  refine hleft.place a ?_ ?_ ?_ ?_ ?_
  · refine hdesk.grow ?_ rfl ?_
    · exact (Desk.settings_run s.keeps (s.desk r) _).symm
    · intro shape id hid
      show id ∈ ((s.report r events).1.recorder r.recorder).registry.keys shape
      rwa [hrecorder]
  · exact fun o ho => hgrows.keys _ _ _ (h.fixed a r hr o ho)
  · exact hleft.recorder_lt a r hr
  · exact hleft.tally_lt a r hr
  · intro b q hb hq he
    exact hb (h.apart b a q r hq hr he)

/-- A new reporter finds its recorder as its opening has left it. -/
theorem recorder_establish (settings : Settings) (exposed : Bool) {number : Nat}
    (hn : number < s.recorders.length) (other : Nat) :
    (s.establish settings exposed number).1.recorder other =
      if other = number then
        (Desk.opened s.keeps settings exposed (s.recorder number)).recorder
      else s.recorder other :=
  recorder_setRecorder number other _ hn

theorem grows_establish (settings : Settings) (exposed : Bool) (number : Nat) :
    s.Grows (s.establish settings exposed number).1 := by
  obtain ⟨-, hregistry⟩ := Desk.registry_life s.keeps settings exposed (s.recorder number) []
  rw [Desk.run] at hregistry
  have hkept (shape : Shape) (id : SeriesId)
      (hid : id ∈ (s.recorder number).registry.keys shape) :
      id ∈ (Desk.opened s.keeps settings exposed (s.recorder number)).recorder.registry.keys
        shape := by
    rw [hregistry, Registry.mem_keys_actAll]
    exact .inl hid
  have hgrows := grows_setRecorder (s := s) hkept
  refine ⟨hgrows.recorders, ?_, hgrows.keys⟩
  simp [establish]

theorem sound_establish (h : s.Sound) (settings : Settings) (exposed : Bool) {number : Nat}
    (hn : number < s.recorders.length) (a : Seat) :
    ((s.establish settings exposed number).1.place
      (s.establish settings exposed number).2.1 a).Sound := by
  obtain ⟨hdesk, -⟩ := Desk.registry_life s.keeps settings exposed (s.recorder number) []
  rw [Desk.run] at hdesk
  have hknown (o : Outlet) (ho : o ∈ Outlet.fixed) :=
    Desk.fixed_known s.keeps settings exposed (s.recorder number) [] ho
  have hgrows := s.grows_establish settings exposed number
  have hleft : (s.establish settings exposed number).1.Sound :=
    h.grow hgrows (fun b q hq => hq) (fun name n hname => .inl hname)
  have hrecorder : (s.establish settings exposed number).1.recorder number =
      (Desk.opened s.keeps settings exposed (s.recorder number)).recorder := by
    rw [recorder_establish settings exposed hn, if_pos rfl]
  refine hleft.place a ?_ ?_ ?_ ?_ ?_
  · refine hdesk.grow ?_ rfl ?_
    · exact (Desk.settings_opened s.keeps settings exposed _).symm
    · intro shape id hid
      show id ∈ ((s.establish settings exposed number).1.recorder number).registry.keys shape
      rwa [hrecorder]
  · intro o ho
    show _ ∈ ((s.establish settings exposed number).1.recorder number).registry.keys _
    rw [hrecorder]
    exact hknown o ho
  · exact hn.trans_le hgrows.recorders
  · simp [establish]
  · intro b q hb hq
    exact (h.tally_lt b q hq).ne

/-! ### New reporters -/

section Openings
variable {settings : Settings} {journal : List Entry} {t : Session α} {r : Reporter}

/-- A reporter over a recorder of its own is opened with sound settings only. -/
theorem establish_of_open? (h : s.open? settings = .ok (t, r, journal)) :
    settings.check = .ok () ∧
      s.addRecorder.1.establish settings true s.recorders.length = (t, r, journal) := by
  rw [open?] at h
  cases hcheck : settings.check with
  | error problem =>
    rw [hcheck] at h
    contradiction
  | ok checked =>
    rw [hcheck] at h
    exact ⟨rfl, Except.ok.inj h⟩

/-- A reporter over a shared recorder is opened with sound settings only. -/
theorem establish_of_openOver? {name : String}
    (h : s.openOver? settings name = .ok (t, r, journal)) :
    settings.check = .ok () ∧
      (s.share name).1.establish settings false (s.share name).2 = (t, r, journal) := by
  rw [openOver?] at h
  cases hcheck : settings.check with
  | error problem =>
    rw [hcheck] at h
    contradiction
  | ok checked =>
    rw [hcheck] at h
    exact ⟨rfl, Except.ok.inj h⟩

theorem sound_open? (h : s.Sound) (hopen : s.open? settings = .ok (t, r, journal)) (a : Seat) :
    (t.place r a).Sound := by
  have hlt : s.recorders.length < s.addRecorder.1.recorders.length := by simp [addRecorder]
  have hplaced := sound_establish (sound_addRecorder h) settings true hlt a
  rwa [(establish_of_open? hopen).2] at hplaced

theorem sound_openOver? {name : String} (h : s.Sound)
    (hopen : s.openOver? settings name = .ok (t, r, journal)) (a : Seat) : (t.place r a).Sound := by
  obtain ⟨hshared, hlt⟩ := sound_share h name
  have hplaced := sound_establish hshared settings false hlt a
  rwa [(establish_of_openOver? hopen).2] at hplaced

end Openings
end Work
end Session
end Roomwatch
