import Mathlib
import Roomwatch.Proofs.Lookups
import Roomwatch.Proofs.Messages
import Roomwatch.Proofs.Pooling

/-! Reporters that share a session.

Reporters do not get into each other's way (`Isolated`). A new reporter leaves the others
as they were, their series included. What a reporter is and tallies depends on its own
messages alone. So do its series, unless another reporter has the same settings and the
same recorder, for all others have other series (`Outlet.id_eq_iff`); and those with the
same settings pool their series. All of this holds in every session, however it came about
(`isolated_after`). -/
namespace Roomwatch

open Number (Measure)
open Registry (Act)

namespace Session
variable {α : Type}

/-- A reporter that is as it was, and whose tally and series are as they were. -/
structure Untouched (s t : Session α) (a : Seat) (r : Reporter) : Prop where
  seat : t.at? a = some r
  tally : t.tally r.tally = s.tally r.tally
  series : ∀ o : Outlet, (t.recorder r.recorder).registry.SameAt
    (s.recorder r.recorder).registry (o.id r.settings)

section Untouched
variable {s t u : Session α} {a : Seat} {r : Reporter}

theorem Untouched.refl (h : s.at? a = some r) : s.Untouched s a r :=
  ⟨h, rfl, fun _ => .refl _ _⟩

theorem Untouched.trans (h : s.Untouched t a r) (k : t.Untouched u a r) : s.Untouched u a r :=
  ⟨k.seat, k.tally.trans h.tally, fun o => (k.series o).trans (h.series o)⟩

theorem untouched_addRecorder (h : s.Sound) (hr : s.at? a = some r) :
    s.Untouched s.addRecorder.1 a r := by
  have hrecorder : s.addRecorder.1.recorder r.recorder = s.recorder r.recorder := by
    rw [recorder, addRecorder, List.getElem?_append_left (h.recorder_lt a r hr)]
    rfl
  exact ⟨hr, rfl, fun o => hrecorder ▸ .refl _ _⟩

theorem untouched_share (h : s.Sound) (hr : s.at? a = some r) (name : String) :
    s.Untouched (s.share name).1 a r := by
  rw [share]
  split
  · exact .refl hr
  · have hadded := untouched_addRecorder h hr
    exact ⟨hadded.seat, hadded.tally, hadded.series⟩

end Untouched

variable [Measure α]

/-! ### Messages -/

section Messages
variable {s : Session α} {a b : Seat} {r q : Reporter} {d e : Desk α} {messages : List Message}

/-- **Reporters with different settings do not meet**, even in one recorder: the series of one
are what it would make of them at a desk of its own. -/
theorem Pair.series (h : s.Pair a b r q d e)
    (hdiff : r.recorder ≠ q.recorder ∨ r.settings ≠ q.settings) (hd : d.Sound)
    (hsame : ∀ o : Outlet,
      (s.recorder r.recorder).registry.SameAt d.recorder.registry (o.id r.settings))
    (hm : ∀ m ∈ messages, m.seat = a ∨ m.seat = b) (o : Outlet) :
    ((s.hear messages).recorder r.recorder).registry.SameAt
      (d.run s.keeps (Message.history a messages)).recorder.registry (o.id r.settings) := by
  induction messages generalizing s d e with
  | nil => exact hsame o
  | cons m rest ih =>
    rw [List.forall_mem_cons] at hm
    rw [hear_cons]
    rcases hm.1 with hfirst | hsecond
    · have hregistry := registry_heard h.sound (hfirst ▸ h.first.seat) r.recorder
      rw [if_pos rfl] at hregistry
      obtain ⟨hsound, hown⟩ := Desk.registry_applyAll s.keeps hd (m.event.updates m.now)
      have hrest := ih (h.hear_first hfirst) hsound (fun p => ?_) hm.2
      · rw [(heard h.sound (hfirst ▸ h.first.seat)).keeps] at hrest
        rwa [Message.history_cons_own a hfirst]
      · rw [hregistry, Desk.perform, hown, h.first.settings]
        exact (hsame p).actAll _
    · have hregistry := registry_heard h.sound (hsecond ▸ h.second.seat) r.recorder
      have hrest := ih (h.hear_second hsecond) hd (fun p => ?_) hm.2
      · rw [(heard h.sound (hsecond ▸ h.second.seat)).keeps] at hrest
        rwa [Message.history_cons_other a (hsecond ▸ h.apart.symm)]
      · rw [hregistry]
        split
        · next hrecorder =>
          refine .trans (Registry.sameAt_actAll fun act hact => ?_) (hsame p)
          obtain ⟨o', ho'⟩ := exists_outlet_of_mem_acts hact
          rw [ho', Ne, Outlet.id_eq_iff]
          exact fun he => hdiff.elim (· hrecorder) (· he.1)
        · exact hsame p

/-- Reporters with the same settings write to the same series of their recorder, one after the
other. -/
theorem Pair.registry (h : s.Pair a b r q d e) (hrecorder : r.recorder = q.recorder)
    (hsettings : r.settings = q.settings) (hm : ∀ m ∈ messages, m.seat = a ∨ m.seat = b) :
    ((s.hear messages).recorder r.recorder).registry =
      (s.recorder r.recorder).registry.actAll
        (acts r.settings (History.updates (messages.map fun m => (m.now, m.event)))) := by
  induction messages generalizing s d e with
  | nil => rfl
  | cons m rest ih =>
    rw [List.forall_mem_cons] at hm
    have hupdates : History.updates ((m :: rest).map fun m => (m.now, m.event)) =
        m.event.updates m.now ++ History.updates (rest.map fun m => (m.now, m.event)) := rfl
    rw [hear_cons, hupdates, acts_append, Registry.actAll_append]
    rcases hm.1 with hfirst | hsecond
    · rw [ih (h.hear_first hfirst) hm.2,
        registry_heard h.sound (hfirst ▸ h.first.seat) r.recorder, if_pos rfl]
    · rw [ih (h.hear_second hsecond) hm.2,
        registry_heard h.sound (hsecond ▸ h.second.seat) r.recorder, if_pos hrecorder, hsettings]

end Messages

/-! ### New reporters -/

/-- A step that seats a new reporter. -/
inductive Opens : Seat → Step α → Prop
  | build (draft : Draft) (name : String) : Opens (.named name) (.build draft name)
  | buildOver (draft : Draft) (name recorder : String) :
    Opens (.named name) (.buildOver draft name recorder)
  | residentBuild (draft : Draft) : Opens .resident (.residentBuild draft)

section Openings
variable {s : Session α} {a b : Seat} {r : Reporter}

/-- Registering what is known changes nothing. -/
theorem actAll_acquired_of_known {g : Registry α} {settings : Settings} {outlets : List Outlet}
    (h : ∀ o ∈ outlets, o.id settings ∈ g.keys o.shape) :
    g.actAll (acts settings (outlets.map Update.acquire)) = g := by
  induction outlets with
  | nil => rfl
  | cons o rest ih =>
    rw [List.forall_mem_cons] at h
    have hsame : g.act (.register o.shape (o.id settings)) = g :=
      Registry.register_eq_self_of_mem h.1
    show (g.act (.register o.shape (o.id settings))).actAll _ = g
    rw [hsame]
    exact ih h.2

/-- A new reporter registers nothing of another one that is not there. -/
theorem untouched_establish (h : s.Sound) (hr : s.at? a = some r) (settings : Settings)
    (exposed : Bool) {number : Nat} (hn : number < s.recorders.length) (hne : a ≠ b) :
    s.Untouched ((s.establish settings exposed number).1.place
      (s.establish settings exposed number).2.1 b) a r := by
  constructor
  case seat => rw [at?_place, if_neg hne]; exact hr
  case tally =>
    rw [tally_place]
    show ((s.tallies ++ [_])[r.tally]?).getD ({} : Tally) = _
    rw [List.getElem?_append_left (h.tally_lt a r hr)]
    rfl
  case series =>
    intro o
    rw [recorder_place, recorder_establish settings exposed hn]
    split
    · next hsame =>
      obtain ⟨-, hregistry⟩ := Desk.registry_life s.keeps settings exposed (s.recorder number) []
      rw [Desk.run, Desk.life, List.flatMap_nil, List.append_nil] at hregistry
      rw [hregistry, hsame]
      by_cases hsettings : settings = r.settings
      · subst hsettings
        rw [actAll_acquired_of_known fun p hp => hsame ▸ h.fixed a r hr p hp]
        exact .refl _ _
      · refine Registry.sameAt_actAll fun act hact => ?_
        obtain ⟨p, hp⟩ := exists_outlet_of_mem_acts hact
        rw [hp, Ne, Outlet.id_eq_iff]
        exact fun he => hsettings he.1.symm
    · exact .refl _ _

theorem untouched_open? (h : s.Sound) (hr : s.at? a = some r) {settings : Settings}
    {t : Session α} {q : Reporter} {journal : List Entry}
    (hopen : s.open? settings = .ok (t, q, journal)) (hne : a ≠ b) :
    s.Untouched (t.place q b) a r := by
  have hadded := untouched_addRecorder h hr
  have hlt : s.recorders.length < s.addRecorder.1.recorders.length := by simp [addRecorder]
  have hplaced :=
    untouched_establish (b := b) (sound_addRecorder h) hadded.seat settings true hlt hne
  rw [(establish_of_open? hopen).2] at hplaced
  exact hadded.trans hplaced

theorem untouched_openOver? (h : s.Sound) (hr : s.at? a = some r) {settings : Settings}
    {name : String} {t : Session α} {q : Reporter} {journal : List Entry}
    (hopen : s.openOver? settings name = .ok (t, q, journal)) (hne : a ≠ b) :
    s.Untouched (t.place q b) a r := by
  have hshared := untouched_share h hr name
  obtain ⟨hsound, hlt⟩ := sound_share h name
  have hplaced := untouched_establish (b := b) hsound hshared.seat settings false hlt hne
  rw [(establish_of_openOver? hopen).2] at hplaced
  exact hshared.trans hplaced

/-- Whoever takes another seat leaves a reporter alone. -/
theorem untouched_opens (h : s.Sound) (hr : s.at? a = some r) {step : Step α}
    (hopens : Opens b step) (hne : a ≠ b) : s.Untouched (s.step step).session a r := by
  have hsettings (draft : Draft) (act : Settings → Outcome α)
      (hact : ∀ settings, s.Untouched (act settings).session a r) :
      s.Untouched (s.withSettings draft act).session a r := by
    rw [withSettings]
    split
    · exact hact _
    · exact .refl hr
  cases hopens with
  | build draft name =>
    refine hsettings draft _ fun settings => ?_
    cases hopen : s.open? settings with
    | error fault => exact .refl hr
    | ok opened => exact untouched_open? h hr hopen hne
  | buildOver draft name recorder =>
    refine hsettings draft _ fun settings => ?_
    cases hopen : s.openOver? settings recorder with
    | error fault => exact .refl hr
    | ok opened => exact untouched_openOver? h hr hopen hne
  | residentBuild draft =>
    refine hsettings draft _ fun settings => ?_
    rw [residentBuild]
    split
    · exact .refl hr
    · cases hopen : s.open? settings with
      | error fault => exact .refl hr
      | ok opened => exact untouched_open? h hr hopen hne

end Openings

/-! ### Isolation -/

/-- How two reporters at different seats stand to each other. -/
structure Isolated (s : Session α) (a b : Seat) (r q : Reporter) : Prop where
  /-- A new reporter leaves the first one alone, wherever it is seated. -/
  opening : ∀ c step, Opens c step → c ≠ a → s.Untouched (s.step step).session a r
  /-- The first one is and tallies what its own messages make of it. -/
  own : ∀ messages : List Message, (∀ m ∈ messages, m.seat = a ∨ m.seat = b) →
    (s.hear messages).Follows a r ((s.desk r).run s.keeps (Message.history a messages))
  /-- So are its series, if the settings of the other one or its recorder differ. -/
  apart : r.recorder ≠ q.recorder ∨ r.settings ≠ q.settings →
    ∀ messages : List Message, (∀ m ∈ messages, m.seat = a ∨ m.seat = b) → ∀ o : Outlet,
      ((s.hear messages).recorder r.recorder).registry.SameAt
        ((s.desk r).run s.keeps (Message.history a messages)).recorder.registry (o.id r.settings)
  /-- With the same settings both write through the same series ... -/
  shared : r.settings = q.settings → ∀ o, (s.desk r).handle o = (s.desk q).handle o
  /-- ... and over the same recorder they pool them. -/
  pooled : r.recorder = q.recorder → r.settings = q.settings →
    ∀ messages : List Message, (∀ m ∈ messages, m.seat = a ∨ m.seat = b) →
      Pooled r.settings (Message.history a messages) (Message.history b messages)
        (s.recorder r.recorder).registry ((s.hear messages).recorder r.recorder).registry

theorem isolated {s : Session α} {a b : Seat} {r q : Reporter} (h : s.Sound)
    (hr : s.at? a = some r) (hq : s.at? b = some q) (hne : a ≠ b) : s.Isolated a b r q := by
  have hpair : s.Pair a b r q (s.desk r) (s.desk q) :=
    ⟨h, hne, ⟨hr, rfl, rfl⟩, ⟨hq, rfl, rfl⟩⟩
  constructor
  case opening => exact fun c step hopens hc => untouched_opens h hr hopens hc.symm
  case own => exact fun messages hm => (hpair.hear hm).first
  case apart =>
    exact fun hdiff messages hm => hpair.series hdiff (h.desks a r hr) (fun _ => .refl _ _) hm
  case shared =>
    intro hsettings o
    have hfirst : (s.desk r).handle o = o.id r.settings := (h.desks a r hr).handle_eq o
    have hsecond : (s.desk q).handle o = o.id q.settings := (h.desks b q hq).handle_eq o
    rw [hfirst, hsecond, hsettings]
  case pooled =>
    intro hrecorder hsettings messages hm
    rw [hpair.registry hrecorder hsettings hm]
    exact pooled_actAll r.settings (Message.perm_history hne hm) (h.fixed a r hr)

/-- **In every session reporters at different seats are isolated**, and their full metric
names coincide only if they have the same scope and name the same metric. -/
theorem isolated_after (keeps : Outlet → Bool) (now : Instant) (steps : List (Step α))
    (a b : Seat) (r q : Reporter) (hr : ((start α keeps now).after steps).at? a = some r)
    (hq : ((start α keeps now).after steps).at? b = some q) (hne : a ≠ b) :
    ((start α keeps now).after steps).Isolated a b r q ∧
      ∀ (s t : Settings) (m n : Metric), m.name s = n.name t → s.scope = t.scope ∧ m = n :=
  ⟨isolated (sound_after keeps now steps) hr hq hne, fun s t m n => (m.name_eq_iff s t n).1⟩

/-- Two reporters over one recorder, the scope of the second one continuing that of the first. -/
theorem isolated_after_two :
    let narrow : Settings := ⟨"n1", .server, "test", "sfu"⟩
    let wide : Settings := ⟨"n1", .server, "test", "sfu_room"⟩
    let steps : List (Step Number.Exact) := [
      .buildOver ⟨"n1", "server", "test", some "sfu"⟩ "first" "all",
      .buildOver ⟨"n1", "server", "test", some "sfu_room"⟩ "second" "all"]
    let s := (start Number.Exact Outlet.isKept ⟨0⟩).after steps
    let handles (settings : Settings) := Outlet.fixed.map fun o => (o, o.id settings)
    let r : Reporter := ⟨narrow, handles narrow, 0, 0, false⟩
    let q : Reporter := ⟨wide, handles wide, 0, 1, false⟩
    s.at? (.named "first") = some r ∧ s.at? (.named "second") = some q ∧
      s.Isolated (.named "first") (.named "second") r q := by
  intro narrow wide steps s handles r q
  have hr : s.at? (.named "first") = some r := by decide +kernel
  have hq : s.at? (.named "second") = some q := by decide +kernel
  have hne : Seat.named "first" ≠ Seat.named "second" := by decide
  exact ⟨hr, hq, (isolated_after Outlet.isKept ⟨0⟩ steps _ _ r q hr hq hne).1⟩

end Session
end Roomwatch
