import Mathlib
import Roomwatch.Proofs.Crew

/-! What becomes of a shared recorder.

A shared recorder is never exposed, so nothing drains it (`Session.Tidy`, `tidy_after`). It
changes when a reporter is opened over it (`common_openedOver`), when one of its reporters
is told of events (`common_told`) and when it is asked for a service by its name
(`common_served`), and whatever else happens in a session is none of its business. No
series is ever forgotten (`known_after`), and none is there twice (`distinct_after`). -/
namespace Roomwatch

open Number (Measure)
open Registry (Act)

namespace Registry
variable {α : Type} [Measure α]

theorem nodup_keys_register {r : Registry α} (h : ∀ shape, (r.keys shape).Nodup) (shape : Shape)
    (id : SeriesId) : ∀ s, ((r.register shape id).keys s).Nodup :=
  nodup_keys_act r (.register shape id) h

end Registry

namespace Recorder
variable {α : Type} [Measure α]

/-- No service registers a series twice. -/
theorem nodup_keys_serviced {r : Recorder α} (h : ∀ shape, (r.registry.keys shape).Nodup)
    (service : Service α) : ∀ shape, ((r.serviced service).registry.keys shape).Nodup := by
  intro shape
  have hemptied : (r.registry.emptied.keys shape).Nodup := by
    rw [Registry.keys_emptied]
    exact h shape
  cases service with
  | drain => exact hemptied
  | capture => exact hemptied
  | count id amount =>
    exact Registry.nodup_keys_act _ (.count id amount) (Registry.nodup_keys_register h _ id) shape
  | set id level =>
    have hregistered := Registry.nodup_keys_register h .gauge id shape
    cases shape with
    | gauge =>
      show (Shelf.modify _ _ _).keys.Nodup
      rw [Shelf.keys_modify]
      exact hregistered
    | _ => exact hregistered
  | observe id value =>
    exact Registry.nodup_keys_act _ (.observe id value) (Registry.nodup_keys_register h _ id) shape

end Recorder

/-- A reporter that is opened over a recorder leaves what waits there. -/
theorem Desk.waiting_opened {α : Type} [Measure α] (keeps : Outlet → Bool) (settings : Settings)
    (exposed : Bool) (recorder : Recorder α) (id : SeriesId) :
    (opened keeps settings exposed recorder).recorder.registry.waiting id =
      recorder.registry.waiting id := by
  obtain ⟨-, hregistry⟩ := registry_life keeps settings exposed recorder []
  rw [run] at hregistry
  rw [hregistry, Registry.waiting_actAll id (accepts_life _ settings [])]
  exact List.append_nil _

namespace Session
variable {α : Type}

/-- An orderly session in which no route serves a shared recorder. -/
structure Tidy (s : Session α) : Prop extends s.Sound, s.Orderly where
  routes : ∀ route number, s.routes.get? route = some number →
    number < s.recorders.length ∧ ∀ name, s.shared.get? name ≠ some number

theorem tidy_start (keeps : Outlet → Bool) (now : Instant) : (start α keeps now).Tidy :=
  ⟨sound_start keeps now, orderly_start keeps now,
    fun _ number h => absurd h.symm (Option.some_ne_none number)⟩

section Tidy
variable {s t : Session α} {name recorder : String} {number : Nat}

/-- What can be exposed is there and is not shared. -/
theorem Tidy.unshared (h : s.Tidy) (hexposes : s.Exposes number) :
    number < s.recorders.length ∧ ∀ name, s.shared.get? name ≠ some number := by
  rcases hexposes with ⟨a, r, hr, hexposed, rfl⟩ | ⟨route, hroute⟩
  · exact ⟨h.recorder_lt a r hr, h.own a r hr hexposed⟩
  · exact h.routes route number hroute

theorem routes_share (s : Session α) (name : String) : (s.share name).1.routes = s.routes := by
  rw [share]
  cases s.shared.get? name <;> rfl

theorem recorder_share (s : Session α) (name : String) (number : Nat) :
    (s.share name).1.recorder number = s.recorder number := by
  rw [share]
  cases s.shared.get? name with
  | some known => rfl
  | none =>
    show ((s.recorders ++ [({} : Recorder α)])[number]?).getD {} = (s.recorders[number]?).getD {}
    rw [List.getElem?_append]
    split
    · rfl
    · next hge =>
      rw [List.getElem?_eq_none (Nat.le_of_not_lt hge), Option.getD_none]
      cases number - s.recorders.length <;> rfl

theorem length_le_share (s : Session α) (name : String) :
    s.recorders.length ≤ (s.share name).1.recorders.length := by
  rw [share]
  cases s.shared.get? name with
  | some number => exact le_refl _
  | none => simp [addRecorder]

theorem routes_place (s : Session α) (r : Reporter) (a : Seat) :
    (s.place r a).routes = s.routes := by
  cases a <;> rfl

theorem shared_place (s : Session α) (r : Reporter) (a : Seat) :
    (s.place r a).shared = s.shared := by
  cases a <;> rfl

theorem recorders_place (s : Session α) (r : Reporter) (a : Seat) :
    (s.place r a).recorders = s.recorders := by
  cases a <;> rfl

/-- The routes stay in order while their recorders are there and no more names are given to
them. -/
theorem Tidy.routed (h : s.Tidy) (hroutes : t.routes = s.routes)
    (hlength : s.recorders.length ≤ t.recorders.length)
    (hshared : ∀ name number, t.shared.get? name = some number →
      s.shared.get? name = some number ∨ s.recorders.length ≤ number) :
    ∀ route number, t.routes.get? route = some number →
      number < t.recorders.length ∧ ∀ name, t.shared.get? name ≠ some number := by
  intro route number hroute
  rw [hroutes] at hroute
  obtain ⟨hlt, hunshared⟩ := h.routes route number hroute
  refine ⟨hlt.trans_le hlength, fun name hname => ?_⟩
  rcases hshared name number hname with hname | hnew
  · exact hunshared name hname
  · exact absurd hlt (Nat.not_lt.2 hnew)

variable [Measure α]

theorem tidy_change (h : s.Tidy) (hchange : s.Change t) : t.Tidy := by
  refine ⟨sound_change h.toSound hchange, orderly_change h.toSound h.toOrderly hchange, ?_⟩
  have hsame (name : String) (number : Nat) (hname : s.shared.get? name = some number) :
      s.shared.get? name = some number ∨ s.recorders.length ≤ number := .inl hname
  have hshare (recorder name : String) (number : Nat)
      (hname : (s.share recorder).1.shared.get? name = some number) :
      s.shared.get? name = some number ∨ s.recorders.length ≤ number := by
    rcases s.shared_share recorder hname with hname | ⟨-, hnew, -⟩
    · exact .inl hname
    · exact .inr hnew.ge
  cases hchange with
  | @told a r events hr =>
    refine h.routed (routes_place _ _ a) (le_of_eq ?_) fun name number hname => ?_
    · rw [told, recorders_place]
      exact (List.length_set ..).symm
    · rw [told, shared_place] at hname
      exact hsame name number hname
  | @opened a settings t r journal hfree hopen =>
    obtain ⟨rfl, -⟩ := Prod.mk.inj (establish_of_open? hopen).2
    refine h.routed (routes_place _ _ a) ?_ fun name number hname => ?_
    · rw [recorders_place]
      simp [addRecorder]
    · rw [shared_place] at hname
      exact hsame name number hname
  | @openedOver name recorder settings t r journal hopen =>
    obtain ⟨rfl, -⟩ := Prod.mk.inj (establish_of_openOver? hopen).2
    refine h.routed (s.routes_share recorder) ?_ (hshare recorder)
    exact (s.length_le_share recorder).trans (le_of_eq (List.length_set ..).symm)
  | shared recorder =>
    exact h.routed (s.routes_share recorder) (s.length_le_share recorder) (hshare recorder)
  | serviced number service =>
    exact h.routed rfl (le_of_eq (List.length_set ..).symm) hsame
  | @routed a r route hr hexposed =>
    intro other number hnumber
    change (s.routes.insert route r.recorder).get? other = some number at hnumber
    rw [Shelf.get?_insert] at hnumber
    split at hnumber
    · obtain rfl := Option.some.inj hnumber
      exact h.unshared (.inl ⟨a, r, hr, hexposed, rfl⟩)
    · exact h.routes other number hnumber
  | clock | dropped | held | heldNew => exact h.routes

/-- Every session is tidy. -/
theorem tidy_after (keeps : Outlet → Bool) (now : Instant) (steps : List (Step α)) :
    ((start α keeps now).after steps).Tidy :=
  of_after (fun _ _ => tidy_change) (tidy_start keeps now) steps

end Tidy

/-! ### One recorder -/

section Common
variable {s t : Session α} {recorder : String}

/-- Nothing happens to a shared recorder while its number says the same. -/
theorem common_of_recorders (hshared : t.shared = s.shared)
    (hsame : ∀ number, s.shared.get? recorder = some number →
      t.recorder number = s.recorder number) : t.common recorder = s.common recorder := by
  rw [common, common, hshared]
  cases hnumber : s.shared.get? recorder with
  | none => rfl
  | some number => exact hsame number hnumber

theorem common_setRecorder {number : Nat} (r : Recorder α) (hlt : number < s.recorders.length) :
    (s.setRecorder number r).common recorder =
      if s.shared.get? recorder = some number then r else s.common recorder := by
  show ((s.shared.get? recorder).map (s.setRecorder number r).recorder).getD {} = _
  split
  · next hnumber =>
    rw [hnumber, Option.map_some, Option.getD_some, recorder_setRecorder _ _ _ hlt, if_pos rfl]
  · next hnumber =>
    refine common_of_recorders rfl fun other hother => ?_
    rw [recorder_setRecorder _ _ _ hlt, if_neg]
    exact fun he => hnumber (he ▸ hother)

/-- After its first mention a shared recorder is found under its own number, and no other one. -/
theorem shared_share_iff (h : s.Tidy) (name : String) :
    (s.share name).1.shared.get? recorder = some (s.share name).2 ↔ name = recorder := by
  have hown := s.get?_share name
  constructor
  · intro hnumber
    exact (h.toOrderly.share h.toSound name).single _ _ _ hown hnumber
  · rintro rfl
    exact hown

variable [Measure α]

/-- A service is done to the recorder of its name. -/
theorem common_served (h : s.Tidy) (name : String) (service : Service α) :
    (s.served name service).common recorder =
      if name = recorder then (s.common recorder).serviced service else s.common recorder := by
  obtain ⟨-, hlt⟩ := sound_share h.toSound name
  rw [served, common_setRecorder _ hlt, common_share h.toSound, common_eq]
  by_cases hname : name = recorder
  · subst hname
    rw [if_pos ((shared_share_iff h name).2 rfl), if_pos rfl]
  · rw [if_neg fun hnumber => hname ((shared_share_iff h name).1 hnumber), if_neg hname]

/-- A drain is a drain of another recorder. -/
theorem common_drained (h : s.Tidy) {number : Nat} (hexposes : s.Exposes number) :
    (s.setRecorder number (s.recorder number).drain).common recorder = s.common recorder := by
  obtain ⟨hlt, hunshared⟩ := h.unshared hexposes
  rw [common_setRecorder _ hlt, if_neg (hunshared recorder)]

theorem common_establish {number : Nat} (settings : Settings) (exposed : Bool)
    (hlt : number < s.recorders.length) (a : Seat) (r : Reporter) :
    ((s.establish settings exposed number).1.place r a).common recorder =
      if s.shared.get? recorder = some number then
        (Desk.opened s.keeps settings exposed (s.recorder number)).recorder
      else s.common recorder := by
  have hplaced : ((s.establish settings exposed number).1.place r a).common recorder =
      (s.setRecorder number
        (Desk.opened s.keeps settings exposed (s.recorder number)).recorder).common recorder := by
    cases a <;> rfl
  rw [hplaced, common_setRecorder _ hlt]

/-- A reporter with a recorder of its own is opened elsewhere. -/
theorem common_opened (h : s.Tidy) {settings : Settings} {r : Reporter} {journal : List Entry}
    (hopen : s.open? settings = .ok (t, r, journal)) (a : Seat) :
    (t.place r a).common recorder = s.common recorder := by
  have hlt : s.recorders.length < s.addRecorder.1.recorders.length := by simp [addRecorder]
  have hplaced : (Session.place _ r a).common recorder = _ :=
    common_establish settings true hlt a r
  rw [(establish_of_open? hopen).2] at hplaced
  rw [hplaced, if_neg]
  · refine common_of_recorders rfl fun number hnumber => ?_
    rw [Session.recorder, addRecorder,
      List.getElem?_append_left (h.shared_lt recorder number hnumber)]
    rfl
  · exact fun hnumber => (h.shared_lt recorder _ hnumber).ne rfl

/-- A reporter is opened over the recorder of a name. -/
theorem common_openedOver (h : s.Tidy) {name : String} {settings : Settings} {r : Reporter}
    {journal : List Entry} (hopen : s.openOver? settings name = .ok (t, r, journal)) (a : Seat) :
    (t.place r a).common recorder =
      if name = recorder then
        (Desk.opened s.keeps settings false (s.common recorder)).recorder
      else s.common recorder := by
  obtain ⟨-, hlt⟩ := sound_share h.toSound name
  have hplaced : (Session.place _ r a).common recorder = _ :=
    common_establish settings false hlt a r
  rw [(establish_of_openOver? hopen).2] at hplaced
  rw [hplaced, common_share h.toSound, common_eq, keeps_share]
  by_cases hname : name = recorder
  · subst hname
    rw [if_pos ((shared_share_iff h name).2 rfl), if_pos rfl]
  · rw [if_neg fun hnumber => hname ((shared_share_iff h name).1 hnumber), if_neg hname]

end Common

/-! ### No series forgotten -/

section Series
variable {s t u : Session α}

theorem Grows.refl (s : Session α) : s.Grows s := ⟨le_refl _, le_refl _, fun _ _ _ hid => hid⟩

theorem Grows.trans (h : s.Grows t) (k : t.Grows u) : s.Grows u :=
  ⟨h.recorders.trans k.recorders, h.tallies.trans k.tallies,
    fun number shape id hid => k.keys number shape id (h.keys number shape id hid)⟩

theorem Grows.place (h : s.Grows t) (r : Reporter) (a : Seat) : s.Grows (t.place r a) := by
  cases a <;> exact ⟨h.recorders, h.tallies, h.keys⟩

theorem grows_share (s : Session α) (name : String) : s.Grows (s.share name).1 := by
  rw [share]
  cases s.shared.get? name with
  | some number => exact .refl s
  | none => exact ⟨grows_addRecorder.recorders, le_refl _, grows_addRecorder.keys⟩

variable [Measure α]

/-- Nothing is ever forgotten. -/
theorem grows_change (h : s.Sound) (hchange : s.Change t) : s.Grows t := by
  cases hchange with
  | @told a r events hr => exact (grows_report h hr events).place _ a
  | @opened a settings t r journal hfree hopen =>
    have hplaced := (s.addRecorder.1.grows_establish settings true s.recorders.length).place r a
    rw [(establish_of_open? hopen).2] at hplaced
    exact grows_addRecorder.trans hplaced
  | @openedOver name recorder settings t r journal hopen =>
    have hplaced := ((s.share recorder).1.grows_establish settings false
      (s.share recorder).2).place r (.named name)
    rw [(establish_of_openOver? hopen).2] at hplaced
    exact (s.grows_share recorder).trans hplaced
  | shared name => exact s.grows_share name
  | serviced number service =>
    exact grows_setRecorder fun _ _ hid => Recorder.mem_keys_serviced _ service hid
  | heldNew holder => exact ⟨le_refl _, by simp, fun _ _ _ hid => hid⟩
  | clock | dropped | held | routed => exact ⟨le_refl _, le_refl _, fun _ _ _ hid => hid⟩

/-- A name stays with its recorder. -/
theorem shared_change {name : String} {number : Nat} (hname : s.shared.get? name = some number)
    (hchange : s.Change t) : t.shared.get? name = some number := by
  have hshare (other : String) : (s.share other).1.shared.get? name = some number := by
    rw [share]
    cases hother : s.shared.get? other with
    | some known => exact hname
    | none =>
      show (s.shared.insertIfNew other s.recorders.length).get? name = some number
      rw [Shelf.get?_insertIfNew, if_neg, hname]
      intro he
      rw [he, hother] at hname
      contradiction
  cases hchange with
  | @told a r events hr =>
    rw [told, shared_place]
    exact hname
  | @opened a settings t r journal hfree hopen =>
    obtain ⟨rfl, -⟩ := Prod.mk.inj (establish_of_open? hopen).2
    rw [shared_place]
    exact hname
  | @openedOver other recorder settings t r journal hopen =>
    obtain ⟨rfl, -⟩ := Prod.mk.inj (establish_of_openOver? hopen).2
    exact hshare recorder
  | shared other => exact hshare other
  | clock | serviced | dropped | held | heldNew | routed => exact hname

/-- **No series of a recorder is ever forgotten.** -/
theorem known_after (h : s.Sound) {recorder : String} {shape : Shape} {id : SeriesId}
    (hid : id ∈ (s.common recorder).registry.keys shape) (steps : List (Step α)) :
    id ∈ ((s.after steps).common recorder).registry.keys shape := by
  cases hnumber : s.shared.get? recorder with
  | none =>
    rw [common, hnumber] at hid
    cases shape <;> exact absurd hid List.not_mem_nil
  | some number =>
    rw [common, hnumber] at hid
    have hkept := of_after
      (P := fun t => t.Sound ∧ t.shared.get? recorder = some number ∧
        id ∈ (t.recorder number).registry.keys shape)
      (fun t u ht hchange => ⟨sound_change ht.1 hchange, shared_change ht.2.1 hchange,
        (grows_change ht.1 hchange).keys number shape id ht.2.2⟩) ⟨h, hnumber, hid⟩ steps
    rw [common, hkept.2.1]
    exact hkept.2.2

end Series

/-! ### No series twice -/

section Distinct
variable {s t : Session α}

/-- No recorder of the session has a series twice. -/
def Distinct (s : Session α) : Prop :=
  ∀ r ∈ s.recorders, ∀ shape, (r.registry.keys shape).Nodup

theorem Distinct.recorder (h : s.Distinct) (number : Nat) (shape : Shape) :
    ((s.recorder number).registry.keys shape).Nodup := by
  rw [Session.recorder]
  cases hr : s.recorders[number]? with
  | none => cases shape <;> exact List.nodup_nil
  | some r => exact h r (List.mem_of_getElem? hr) shape

theorem Distinct.common (h : s.Distinct) (recorder : String) (shape : Shape) :
    ((s.common recorder).registry.keys shape).Nodup := by
  rw [Session.common]
  cases s.shared.get? recorder with
  | none => cases shape <;> exact List.nodup_nil
  | some number => exact h.recorder number shape

theorem Distinct.set (h : s.Distinct) {number : Nat} {r : Recorder α}
    (hr : ∀ shape, (r.registry.keys shape).Nodup) :
    ∀ q ∈ s.recorders.set number r, ∀ shape, (q.registry.keys shape).Nodup := by
  intro q hq
  rcases List.mem_or_eq_of_mem_set hq with hold | rfl
  · exact h q hold
  · exact hr

theorem Distinct.addRecorder (h : s.Distinct) : s.addRecorder.1.Distinct := by
  intro q hq shape
  rcases List.mem_append.1 hq with hold | hnew
  · exact h q hold shape
  · rw [List.mem_singleton.1 hnew]
    cases shape <;> exact List.nodup_nil

theorem Distinct.share (h : s.Distinct) (name : String) : (s.share name).1.Distinct := by
  rw [Session.share]
  cases s.shared.get? name with
  | some number => exact h
  | none => exact h.addRecorder

variable [Measure α]

theorem Distinct.establish (h : s.Distinct) (settings : Settings) (exposed : Bool) (number : Nat) :
    (s.establish settings exposed number).1.Distinct := by
  obtain ⟨-, hregistry⟩ := Desk.registry_life s.keeps settings exposed (s.recorder number) []
  rw [Desk.run] at hregistry
  refine h.set fun shape => ?_
  rw [hregistry]
  exact Registry.nodup_keys_actAll _ _ (h.recorder number) shape

theorem distinct_change (hs : s.Sound) (h : s.Distinct) (hchange : s.Change t) : t.Distinct := by
  cases hchange with
  | @told a r events hr =>
    rw [Distinct, told, recorders_place]
    refine h.set fun shape => ?_
    rw [Desk.run_eq_applyAll, (Desk.registry_applyAll s.keeps (hs.desks a r hr) _).2]
    exact Registry.nodup_keys_actAll _ _ (h.recorder r.recorder) shape
  | @opened a settings t r journal hfree hopen =>
    have hplaced := h.addRecorder.establish settings true s.recorders.length
    rw [(establish_of_open? hopen).2] at hplaced
    rw [Distinct, recorders_place]
    exact hplaced
  | @openedOver name recorder settings t r journal hopen =>
    have hplaced := (h.share recorder).establish settings false (s.share recorder).2
    rw [(establish_of_openOver? hopen).2] at hplaced
    exact hplaced
  | shared name => exact h.share name
  | serviced number service => exact h.set (Recorder.nodup_keys_serviced (h.recorder number) service)
  | clock | dropped | held | heldNew | routed => exact h

/-- No recorder has a series twice. -/
theorem distinct_after (keeps : Outlet → Bool) (now : Instant) (steps : List (Step α)) :
    ((start α keeps now).after steps).Distinct :=
  (of_after (P := fun s => s.Sound ∧ s.Distinct)
    (fun _ _ h hchange => ⟨sound_change h.1 hchange, distinct_change h.1 h.2 hchange⟩)
    ⟨sound_start keeps now, fun _ hr => absurd hr List.not_mem_nil⟩ steps).2

end Distinct

/-! ### Minor steps -/

section Minors
variable [Measure α] {s t : Session α}

/-- What waits in the histograms of a shared recorder, waits there after minor steps. -/
theorem waiting_minors (h : s.Tidy) (hminors : s.Minors t) (recorder : String) (id : SeriesId) :
    t.Tidy ∧ (t.common recorder).registry.waiting id =
      (s.common recorder).registry.waiting id := by
  induction hminors with
  | refl => exact ⟨h, rfl⟩
  | @tail t u _ hminor ih =>
    obtain ⟨ht, hwaiting⟩ := ih
    refine ⟨of_changed (fun _ _ => tidy_change) ht hminor.changed, ?_⟩
    rw [← hwaiting]
    cases hminor with
    | shared name => rw [common_share ht.toSound]
    | @served name service hservice =>
      rw [common_served ht]
      split
      · cases service with
        | count | set => rfl
        | drain | capture | observe => contradiction
      · rfl
    | drained hexposes => rw [common_drained ht hexposes]
    | opened _ hopen => rw [common_opened ht hopen]
    | openedOver hopen =>
      rw [common_openedOver ht hopen]
      split
      · exact Desk.waiting_opened ..
      · rfl
    | clock | dropped | held | heldNew => rfl

end Minors
end Session
end Roomwatch
