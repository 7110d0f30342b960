import Mathlib
import Roomwatch.Proofs.Hosting
import Roomwatch.Proofs.Registrations

/-! Who works over a shared recorder.

Reporters come to a shared recorder under names, and leave it when they are dropped or
when another reporter takes their name. `Step.crew` keeps the list of all that ever came,
with what each of them has heard, from the steps alone. Most steps are none of a
recorder's business (`Session.Quiet`); the others open a reporter over it, make one
leave or have it hear of events, and the list follows them (`crewed_step`). So what a
recorder was asked to describe and to register can be told from its crew
(`Session.calls_after`), whatever else it was used for. -/
namespace Roomwatch

open Number (Measure)

/-! ### Crews -/

/-- A reporter that came to a recorder: the name under which it is found, unless it has left,
and what it has heard. -/
structure Member where
  name : Option String
  heard : List Event := []

namespace Member

/-- Nobody is found under a name any longer. -/
def quits (name : String) (m : Member) : Member :=
  if m.name = some name then { m with name := none } else m

/-- Whoever is found under a name hears of events. -/
def hears (name : String) (events : List Event) (m : Member) : Member :=
  if m.name = some name then { m with heard := m.heard ++ events } else m

theorem heard_quits (name : String) (m : Member) : (m.quits name).heard = m.heard := by
  rw [quits]
  split <;> rfl

theorem name_hears (name : String) (events : List Event) (m : Member) :
    (m.hears name events).name = m.name := by
  rw [hears]
  split <;> rfl

theorem name_quits_eq_some {name other : String} {m : Member} :
    (m.quits name).name = some other ↔ m.name = some other ∧ other ≠ name := by
  rw [quits]
  split <;> grind

end Member

/-- Whether a reporter can be opened with what a draft says. -/
def Draft.opens (draft : Draft) : Bool :=
  match draft.settings with
  | .ok settings => settings.check.isOk
  | .error _ => false

/-- Those who came to a shared recorder, after one more step. -/
def Step.crew {α : Type} (recorder : String) (crew : List Member) : Step α → List Member
  | .build draft name => if draft.opens then crew.map (Member.quits name) else crew
  | .buildOver draft name other =>
    if draft.opens then
      crew.map (Member.quits name) ++ if other = recorder then [{ name := some name }] else []
    else crew
  | .drop name => crew.map (Member.quits name)
  | .report name events => crew.map (Member.hears name events)
  | _ => crew

/-- Those who came to a shared recorder in the course of some steps. -/
def crewAfter {α : Type} (recorder : String) (steps : List (Step α)) : List Member :=
  steps.foldl (Step.crew recorder) []

/-- Nobody else but the one member of a name hears of events. -/
theorem sum_hears (crew : List Member) (f : List Event → Nat) (name : String)
    (events : List Event) (more : Nat)
    (h : ∀ m ∈ crew, m.name = some name → f (m.heard ++ events) = f m.heard + more) :
    ((crew.map (Member.hears name events)).map fun m => f m.heard).sum =
      (crew.map fun m => f m.heard).sum + crew.countP (fun m => m.name = some name) * more := by
  induction crew with
  | nil => simp
  | cons m rest ih =>
    rw [List.forall_mem_cons] at h
    rw [List.map_cons, List.map_cons, List.sum_cons, ih h.2, List.map_cons, List.sum_cons,
      List.countP_cons]
    by_cases hm : m.name = some name
    · simp only [Member.hears, hm, if_true, h.1 hm, decide_true]
      ring
    · simp only [Member.hears, hm, if_false, decide_false, Bool.false_eq_true]
      ring

namespace Session
variable {α : Type}

/-! ### Shared recorders and others -/

/-- A session in which every shared recorder has one name, and in which the reporters with a
recorder of their own, the resident among them, have it for themselves. -/
structure Orderly (s : Session α) : Prop where
  single : ∀ name other number, s.shared.get? name = some number →
    s.shared.get? other = some number → name = other
  own : ∀ a r, s.at? a = some r → r.exposed = true → ∀ name, s.shared.get? name ≠ some r.recorder
  resident : ∀ r, s.resident = some r → r.exposed = true

/-- The recorder of a name, as a step that names it finds it. -/
def common (s : Session α) (name : String) : Recorder α :=
  ((s.shared.get? name).map s.recorder).getD {}

theorem common_eq (s : Session α) (name : String) :
    (s.share name).1.recorder (s.share name).2 = s.common name := by
  rw [common, share]
  cases s.shared.get? name with
  | some number => rfl
  | none => simp [addRecorder, recorder]

theorem orderly_start (keeps : Outlet → Bool) (now : Instant) : (start α keeps now).Orderly := by
  refine ⟨?_, ?_, ?_⟩
  · exact fun name other number h => absurd h.symm (Option.some_ne_none number)
  · intro a r hr
    cases a <;> exact absurd hr.symm (Option.some_ne_none r)
  · exact fun r hr => absurd hr.symm (Option.some_ne_none r)

section Orderly
variable {s t : Session α}

/-- The name of a shared recorder is the old one, or its recorder is new. -/
theorem shared_share (s : Session α) (name : String) {other : String} {number : Nat}
    (h : (s.share name).1.shared.get? other = some number) :
    s.shared.get? other = some number ∨
      other = name ∧ number = s.recorders.length ∧ s.shared.get? name = none := by
  rw [share] at h
  cases hname : s.shared.get? name with
  | some known =>
    rw [hname] at h
    exact .inl h
  | none =>
    rw [hname] at h
    change (s.shared.insertIfNew name s.recorders.length).get? other = some number at h
    rw [Shelf.get?_insertIfNew, hname] at h
    split at h
    · next he => exact .inr ⟨he, (Option.some.inj h).symm, rfl⟩
    · exact .inl h

theorem get?_share (s : Session α) (name : String) :
    (s.share name).1.shared.get? name = some (s.share name).2 := by
  rw [share]
  cases hname : s.shared.get? name with
  | some number => exact hname
  | none =>
    show (s.shared.insertIfNew name s.recorders.length).get? name = some s.recorders.length
    rw [Shelf.get?_insertIfNew, if_pos rfl, hname]
    rfl

theorem at?_share (s : Session α) (name : String) (a : Seat) :
    (s.share name).1.at? a = s.at? a := by
  rw [share]
  cases s.shared.get? name <;> cases a <;> rfl

theorem Orderly.share (h : s.Orderly) (hs : s.Sound) (name : String) :
    (s.share name).1.Orderly := by
  have hnew (other : String) (number : Nat) (hnumber : s.shared.get? other = some number) :
      number ≠ s.recorders.length := (hs.shared_lt other number hnumber).ne
  constructor
  case single =>
    intro first second number hfirst hsecond
    rcases s.shared_share name hfirst with hfirst | ⟨rfl, rfl, -⟩
    · rcases s.shared_share name hsecond with hsecond | ⟨-, hlength, -⟩
      · exact h.single first second number hfirst hsecond
      · exact absurd hlength (hnew first number hfirst)
    · rcases s.shared_share _ hsecond with hsecond | ⟨hsame, -, -⟩
      · exact absurd rfl (hnew second _ hsecond)
      · exact hsame.symm
  case own =>
    intro a r hr hexposed other hother
    rw [at?_share] at hr
    rcases s.shared_share name hother with hother | ⟨-, hlength, -⟩
    · exact h.own a r hr hexposed other hother
    · exact (hs.recorder_lt a r hr).ne hlength
  case resident =>
    intro r hr
    have hsame : (s.share name).1.at? .resident = s.at? .resident := s.at?_share name .resident
    exact h.resident r (hsame.symm.trans hr)

/-- Whoever takes a seat has a recorder for itself, or it shares one and is not the resident. -/
theorem Orderly.place (h : s.Orderly) {a : Seat} {r : Reporter}
    (hresident : a = .resident → r.exposed = true)
    (hown : r.exposed = true → ∀ name, s.shared.get? name ≠ some r.recorder) :
    (s.place r a).Orderly := by
  have hshared : (s.place r a).shared = s.shared := by cases a <;> rfl
  constructor
  case single => rw [hshared]; exact h.single
  case own =>
    rw [hshared]
    intro b q hq hexposed
    rw [at?_place] at hq
    split at hq
    · obtain rfl := Option.some.inj hq
      exact hown hexposed
    · exact h.own b q hq hexposed
  case resident =>
    intro q hq
    have hseat : (s.place r a).at? .resident = some q := hq
    rw [at?_place] at hseat
    split at hseat
    · next he =>
      obtain rfl := Option.some.inj hseat
      exact hresident he.symm
    · exact h.resident q hseat

variable [Measure α]

theorem orderly_change (hs : s.Sound) (h : s.Orderly) (hchange : s.Change t) : t.Orderly := by
  cases hchange with
  | @told a r events hr =>
    have hleft : (s.leave r (s.toldDesk r events)).1.Orderly := ⟨h.single, h.own, h.resident⟩
    refine hleft.place (fun ha => ?_) fun hexposed => h.own a r hr hexposed
    subst ha
    exact h.resident r hr
  | @opened a settings t r journal hfree hopen =>
    obtain ⟨-, hestablished⟩ := establish_of_open? hopen
    obtain ⟨rfl, hrest⟩ := Prod.mk.inj hestablished
    obtain ⟨rfl, -⟩ := Prod.mk.inj hrest
    have hopened : (s.addRecorder.1.establish settings true s.recorders.length).1.Orderly :=
      ⟨h.single, h.own, h.resident⟩
    refine hopened.place (fun _ => rfl) fun _ name hname => ?_
    exact (hs.shared_lt name _ hname).ne rfl
  | @openedOver name recorder settings t r journal hopen =>
    obtain ⟨-, hestablished⟩ := establish_of_openOver? hopen
    obtain ⟨rfl, hrest⟩ := Prod.mk.inj hestablished
    obtain ⟨rfl, -⟩ := Prod.mk.inj hrest
    have hshared := h.share hs recorder
    have hopened : ((s.share recorder).1.establish settings false (s.share recorder).2).1.Orderly :=
      ⟨hshared.single, hshared.own, hshared.resident⟩
    exact hopened.place (fun ha => Seat.noConfusion ha) fun hexposed =>
      absurd hexposed Bool.false_ne_true
  | shared name => exact h.share hs name
  | dropped name =>
    refine ⟨h.single, fun a r hr => ?_, h.resident⟩
    cases a with
    | resident => exact h.own .resident r hr
    | named other =>
      rw [at?, Shelf.get?_erase] at hr
      split at hr
      · contradiction
      · exact h.own (.named other) r hr
  | clock | serviced | held | heldNew | routed => exact ⟨h.single, h.own, h.resident⟩

/-- Every session is orderly. -/
theorem orderly_after (keeps : Outlet → Bool) (now : Instant) (steps : List (Step α)) :
    ((start α keeps now).after steps).Orderly :=
  (of_after (P := fun s => s.Sound ∧ s.Orderly)
    (fun _ _ h hchange => ⟨sound_change h.1 hchange, orderly_change h.1 h.2 hchange⟩)
    ⟨sound_start keeps now, orderly_start keeps now⟩ steps).2

end Orderly

/-! ### Who is over a recorder -/

/-- A crew whose members are found where they are said to be, and which has had the recorder
describe and register what it should. -/
structure Crewed (s : Session α) (recorder : String) (crew : List Member) : Prop where
  manned : ∀ name r, s.reporters.get? name = some r → s.shared.get? recorder = some r.recorder →
    ∃ m ∈ crew, m.name = some name
  found : ∀ m ∈ crew, ∀ name, m.name = some name → ∃ r, s.reporters.get? name = some r ∧
    s.shared.get? recorder = some r.recorder ∧ (s.desk r).HoldsKept m.heard
  single : ∀ name, crew.countP (fun m => m.name = some name) ≤ 1
  described : (s.common recorder).described = ⟨2 * crew.length, 4 * crew.length, crew.length⟩
  registered : ∀ shape, (s.common recorder).registered.get shape =
    (crew.map fun m => requests shape m.heard).sum

/-- What another session has in common with this one when it comes to a shared recorder: who is
over it and what it was asked. -/
structure Kin (s t : Session α) (recorder : String) : Prop where
  posted : ∀ name r, s.reporters.get? name = some r →
    (t.shared.get? recorder = some r.recorder ↔ s.shared.get? recorder = some r.recorder)
  described : (t.common recorder).described = (s.common recorder).described
  registered : (t.common recorder).registered = (s.common recorder).registered

/-- Nothing of a recorder's business. -/
structure Quiet (s t : Session α) (recorder : String) : Prop extends s.Kin t recorder where
  reporters : t.reporters = s.reporters

section Crewed
variable {s t u : Session α} {recorder name : String} {crew : List Member} {r : Reporter}

theorem Quiet.refl (s : Session α) (recorder : String) : s.Quiet s recorder :=
  ⟨⟨fun _ _ _ => Iff.rfl, rfl, rfl⟩, rfl⟩

theorem Quiet.kin (h : s.Quiet t recorder) (k : t.Kin u recorder) : s.Kin u recorder :=
  ⟨fun name r hr => (k.posted name r (h.reporters ▸ hr)).trans (h.posted name r hr),
    k.described.trans h.described, k.registered.trans h.registered⟩

theorem Quiet.trans (h : s.Quiet t recorder) (k : t.Quiet u recorder) : s.Quiet u recorder :=
  ⟨h.kin k.toKin, k.reporters.trans h.reporters⟩

theorem Crewed.quiet (h : s.Crewed recorder crew) (hq : s.Quiet t recorder) :
    t.Crewed recorder crew := by
  constructor
  case manned =>
    intro name r hr hover
    rw [hq.reporters] at hr
    exact h.manned name r hr ((hq.posted name r hr).1 hover)
  case found =>
    intro m hm name hname
    obtain ⟨r, hr, hover, hholds⟩ := h.found m hm name hname
    exact ⟨r, hq.reporters ▸ hr, (hq.posted name r hr).2 hover, hholds⟩
  case single => exact h.single
  case described => rw [hq.described, h.described]
  case registered => rw [hq.registered]; exact h.registered

/-- A name is given up, by whoever was found under it. -/
theorem Crewed.quits (h : s.Crewed recorder crew) (hk : s.Kin t recorder)
    (hothers : ∀ other, other ≠ name → t.reporters.get? other = s.reporters.get? other)
    (hname : ∀ r, t.reporters.get? name = some r → t.shared.get? recorder ≠ some r.recorder) :
    t.Crewed recorder (crew.map (Member.quits name)) := by
  constructor
  case manned =>
    intro other r hr hover
    by_cases hne : other = name
    · subst hne
      exact absurd hover (hname r hr)
    · rw [hothers other hne] at hr
      obtain ⟨m, hm, hother⟩ := h.manned other r hr ((hk.posted other r hr).1 hover)
      exact ⟨_, List.mem_map_of_mem hm, Member.name_quits_eq_some.2 ⟨hother, hne⟩⟩
  case found =>
    intro q hq other hother
    obtain ⟨m, hm, rfl⟩ := List.mem_map.1 hq
    obtain ⟨hother, hne⟩ := Member.name_quits_eq_some.1 hother
    obtain ⟨r, hr, hover, hholds⟩ := h.found m hm other hother
    refine ⟨r, (hothers other hne).trans hr, (hk.posted other r hr).2 hover, ?_⟩
    rw [m.heard_quits]
    exact hholds
  case single =>
    intro other
    rw [List.countP_map]
    refine le_trans (List.countP_mono_left fun m _ hm => ?_) (h.single other)
    simp only [Function.comp_apply, decide_eq_true_eq] at hm ⊢
    exact (Member.name_quits_eq_some.1 hm).1
  case described => rw [hk.described, h.described, List.length_map]
  case registered =>
    intro shape
    rw [hk.registered, h.registered, List.map_map]
    simp only [Function.comp_def, Member.heard_quits]

/-- A reporter is opened over the recorder, under a name that nobody has. -/
theorem Crewed.joins (h : s.Crewed recorder crew) (hfree : ∀ m ∈ crew, m.name ≠ some name)
    (hover : ∀ other r, s.reporters.get? other = some r →
      (t.shared.get? recorder = some r.recorder ↔ s.shared.get? recorder = some r.recorder))
    (hothers : ∀ other, other ≠ name → t.reporters.get? other = s.reporters.get? other)
    (hname : t.reporters.get? name = some r) (hr : t.shared.get? recorder = some r.recorder)
    (hholds : (t.desk r).HoldsKept [])
    (hdescribed : (t.common recorder).described =
      ⟨(s.common recorder).described.counter + 2, (s.common recorder).described.gauge + 4,
        (s.common recorder).described.histogram + 1⟩)
    (hregistered : ∀ shape, (t.common recorder).registered.get shape =
      (s.common recorder).registered.get shape + requests shape []) :
    t.Crewed recorder (crew ++ [{ name := some name }]) := by
  constructor
  case manned =>
    intro other q hq hqover
    by_cases hne : other = name
    · exact ⟨_, List.mem_append_right _ (List.mem_singleton_self _), by rw [hne]⟩
    · rw [hothers other hne] at hq
      obtain ⟨m, hm, hother⟩ := h.manned other q hq ((hover other q hq).1 hqover)
      exact ⟨m, List.mem_append_left _ hm, hother⟩
  case found =>
    intro m hm other hother
    rcases List.mem_append.1 hm with hm | hm
    · have hne : other ≠ name := fun he => hfree m hm (he ▸ hother)
      obtain ⟨q, hq, hqover, hqholds⟩ := h.found m hm other hother
      exact ⟨q, (hothers other hne).trans hq, (hover other q hq).2 hqover, hqholds⟩
    · obtain rfl := List.mem_singleton.1 hm
      obtain rfl := Option.some.inj hother
      exact ⟨r, hname, hr, hholds⟩
  case single =>
    intro other
    rw [List.countP_append, List.countP_singleton]
    by_cases hne : name = other
    · subst hne
      have hnone : crew.countP (fun m => m.name = some name) = 0 := by
        simpa [List.countP_eq_zero] using hfree
      simp [hnone]
    · simpa [hne] using h.single other
  case described =>
    rw [hdescribed, h.described, List.length_append, List.length_singleton, Nat.mul_add,
      Nat.mul_add]
  case registered =>
    intro shape
    rw [hregistered, h.registered, List.map_append, List.sum_append]
    rfl

/-- Events are heard under a name. -/
theorem Crewed.hears {events : List Event} (h : s.Crewed recorder crew)
    (hr : s.reporters.get? name = some r)
    (hshared : t.shared = s.shared)
    (hothers : ∀ other, other ≠ name → t.reporters.get? other = s.reporters.get? other)
    (hname : ∃ q, t.reporters.get? name = some q ∧ q.recorder = r.recorder ∧
      ∀ heard, (s.desk r).HoldsKept heard → (t.desk q).HoldsKept (heard ++ events))
    (hdescribed : (t.common recorder).described = (s.common recorder).described)
    (hregistered : ∀ shape, (t.common recorder).registered.get shape =
      (s.common recorder).registered.get shape +
        if s.shared.get? recorder = some r.recorder then (s.desk r).newRequests shape events
        else 0) :
    t.Crewed recorder (crew.map (Member.hears name events)) := by
  obtain ⟨q, hq, hsame, hholds⟩ := hname
  constructor
  case manned =>
    intro other p hp hover
    rw [hshared] at hover
    by_cases hne : other = name
    · subst hne
      obtain rfl := Option.some.inj (hq.symm.trans hp)
      obtain ⟨m, hm, hother⟩ := h.manned other r hr (hsame ▸ hover)
      exact ⟨_, List.mem_map_of_mem hm, (m.name_hears ..).trans hother⟩
    · rw [hothers other hne] at hp
      obtain ⟨m, hm, hother⟩ := h.manned other p hp hover
      exact ⟨_, List.mem_map_of_mem hm, (m.name_hears ..).trans hother⟩
  case found =>
    intro n hn other hother
    obtain ⟨m, hm, rfl⟩ := List.mem_map.1 hn
    rw [Member.name_hears] at hother
    obtain ⟨p, hp, hover, hkept⟩ := h.found m hm other hother
    by_cases hne : other = name
    · subst hne
      obtain rfl := Option.some.inj (hr.symm.trans hp)
      refine ⟨q, hq, ?_, ?_⟩
      · rw [hshared, hsame, hover]
      · rw [Member.hears, if_pos hother]
        exact hholds m.heard hkept
    · refine ⟨p, (hothers other hne).trans hp, hshared ▸ hover, ?_⟩
      rw [Member.hears, if_neg fun he => hne (Option.some.inj (hother.symm.trans he))]
      exact hkept
  case single =>
    intro other
    rw [List.countP_map]
    refine le_trans (le_of_eq (List.countP_congr fun m _ => ?_)) (h.single other)
    simp [Member.name_hears]
  case described => rw [hdescribed, h.described, List.length_map]
  case registered =>
    intro shape
    have hnamed (m : Member) (hm : m ∈ crew) (hmname : m.name = some name) :
        s.shared.get? recorder = some r.recorder ∧
          requests shape (m.heard ++ events) =
            requests shape m.heard + (s.desk r).newRequests shape events := by
      obtain ⟨p, hp, hover, hkept⟩ := h.found m hm name hmname
      obtain rfl := Option.some.inj (hr.symm.trans hp)
      exact ⟨hover, hkept.requests_append shape events⟩
    have hcount : crew.countP (fun m => m.name = some name) =
        if s.shared.get? recorder = some r.recorder then 1 else 0 := by
      split
      · next hover =>
        obtain ⟨m, hm, hmname⟩ := h.manned name r hr hover
        have hpos : 0 < crew.countP fun m => m.name = some name :=
          List.countP_pos_iff.2 ⟨m, hm, by simpa using hmname⟩
        exact le_antisymm (h.single name) hpos
      · next hout =>
        rw [List.countP_eq_zero]
        intro m hm hmname
        exact hout (hnamed m hm (by simpa using hmname)).1
    rw [hregistered, h.registered, sum_hears crew (requests shape) name events _
      fun m hm hmname => (hnamed m hm hmname).2, hcount]
    split <;> simp

end Crewed

/-! ### Steps that are none of a recorder's business -/

section Quiet
variable {s t : Session α} {recorder : String}

/-- Other recorders may be asked for more. -/
theorem kin_of_recorders (hshared : t.shared = s.shared)
    (hsame : ∀ number, s.shared.get? recorder = some number →
      (t.recorder number).described = (s.recorder number).described ∧
        (t.recorder number).registered = (s.recorder number).registered) :
    s.Kin t recorder := by
  have hcommon : (t.common recorder).described = (s.common recorder).described ∧
      (t.common recorder).registered = (s.common recorder).registered := by
    rw [common, common, hshared]
    cases hnumber : s.shared.get? recorder with
    | none => exact ⟨rfl, rfl⟩
    | some number => exact hsame number hnumber
  exact ⟨fun name r _ => by rw [hshared], hcommon.1, hcommon.2⟩

/-- A shared recorder is found as it would have been before any mention of it. -/
theorem common_share (h : s.Sound) (recorder name : String) :
    (s.share name).1.common recorder = s.common recorder := by
  rw [common, common, share]
  cases hname : s.shared.get? name with
  | some number => rfl
  | none =>
    show (((s.shared.insertIfNew name s.recorders.length).get? recorder).map
      s.addRecorder.1.recorder).getD {} = _
    rw [Shelf.get?_insertIfNew]
    split
    · next he => simp [he, hname, addRecorder, Session.recorder]
    · cases hnumber : s.shared.get? recorder with
      | none => rfl
      | some number =>
        have hlt := h.shared_lt recorder number hnumber
        simp [addRecorder, Session.recorder, List.getElem?_append_left hlt]

theorem quiet_share (h : s.Sound) (name : String) : s.Quiet (s.share name).1 recorder := by
  have hreporters : (s.share name).1.reporters = s.reporters := by
    rw [share]
    cases s.shared.get? name <;> rfl
  have hcommon := common_share h recorder name
  refine ⟨⟨fun other r hr => ?_, by rw [hcommon], by rw [hcommon]⟩, hreporters⟩
  constructor
  · intro hover
    rcases s.shared_share name hover with hover | ⟨-, hlength, -⟩
    · exact hover
    · exact absurd hlength (h.recorder_lt (.named other) r hr).ne
  · intro hover
    rw [share]
    cases hname : s.shared.get? name with
    | some number => exact hover
    | none =>
      show (s.shared.insertIfNew name s.recorders.length).get? recorder = some r.recorder
      rw [Shelf.get?_insertIfNew, if_neg, hover]
      intro he
      rw [he, hname] at hover
      contradiction

theorem quiet_setRecorder {number : Nat} {r : Recorder α}
    (hdescribed : r.described = (s.recorder number).described)
    (hregistered : r.registered = (s.recorder number).registered) :
    s.Quiet (s.setRecorder number r) recorder := by
  refine ⟨kin_of_recorders rfl fun other _ => ?_, rfl⟩
  by_cases hn : number < s.recorders.length
  · rw [recorder_setRecorder _ _ _ hn]
    split
    · next he => exact he ▸ ⟨hdescribed, hregistered⟩
    · exact ⟨rfl, rfl⟩
  · rw [setRecorder, List.set_eq_of_length_le (Nat.le_of_not_lt hn)]
    exact ⟨rfl, rfl⟩

theorem quiet_addRecorder (h : s.Sound) : s.Quiet s.addRecorder.1 recorder := by
  refine ⟨kin_of_recorders rfl fun number hnumber => ?_, rfl⟩
  have hlt := h.shared_lt recorder number hnumber
  rw [Session.recorder, addRecorder, List.getElem?_append_left hlt]
  exact ⟨rfl, rfl⟩

variable (s)

theorem quiet_withReporter (name : String) (act : Reporter → Outcome α)
    (h : ∀ r, s.Quiet (act r).session recorder) :
    s.Quiet (s.withReporter name act).session recorder := by
  rw [withReporter]
  split
  · exact h _
  · exact .refl s recorder

theorem quiet_withResident (act : Reporter → Outcome α)
    (h : ∀ r, s.resident = some r → s.Quiet (act r).session recorder) :
    s.Quiet (s.withResident act).session recorder := by
  rw [withResident]
  split
  · next r hr => exact h r hr
  · exact .refl s recorder

/-- What is asked of a shared recorder otherwise than by reporters is no call. -/
theorem quiet_withRecorder (h : s.Sound) (name : String)
    (act : Recorder α → Reply α × Recorder α)
    (hact : ∀ r, (act r).2.described = r.described ∧ (act r).2.registered = r.registered) :
    s.Quiet (s.withRecorder name act).session recorder := by
  rw [withRecorder_eq]
  exact (quiet_share h name).trans (quiet_setRecorder (hact _).1 (hact _).2)

variable [Measure α]

theorem quiet_expose (number : Nat) : s.Quiet (s.expose number).2 recorder :=
  quiet_setRecorder rfl rfl

theorem quiet_render (r : Reporter) : s.Quiet (s.render r).2 recorder := by
  rw [render]
  split
  · exact s.quiet_expose r.recorder
  · exact .refl s recorder

theorem quiet_ask (r : Reporter) (questions : List Exposition.Question) :
    s.Quiet (s.ask r questions).session recorder := by
  have hrender : s.Quiet (s.render r).2 recorder := s.quiet_render r
  rw [ask]
  split
  · next hnone => rwa [hnone] at hrender
  · next hsome =>
    rw [hsome] at hrender
    split <;> exact hrender

theorem quiet_compareHandle (r : Reporter) : s.Quiet (s.compareHandle r).session recorder := by
  have hrender : s.Quiet (s.render r).2 recorder := s.quiet_render r
  rw [compareHandle]
  split
  · next hnone => rwa [hnone] at hrender
  · next t hsome =>
    rw [hsome] at hrender
    exact hrender.trans (t.quiet_expose r.recorder)

/-- The resident is told of events over a recorder of its own. -/
theorem quiet_told (h : s.Sound) (ho : s.Orderly) {r : Reporter} (hr : s.resident = some r)
    (events : List Event) : s.Quiet (s.told .resident r events) recorder := by
  refine ⟨kin_of_recorders rfl fun number hnumber => ?_, rfl⟩
  rw [recorder_told (r := r) events (h.recorder_lt .resident r hr), if_neg]
  · exact ⟨rfl, rfl⟩
  · intro he
    exact ho.own .resident r hr (ho.resident r hr) recorder (he ▸ hnumber)

/-- A reporter is opened over another recorder. -/
theorem kin_establish (settings : Settings) (exposed : Bool) {number : Nat}
    (hn : number < s.recorders.length) (hne : s.shared.get? recorder ≠ some number)
    (a : Seat) (r : Reporter) :
    s.Kin ((s.establish settings exposed number).1.place r a) recorder := by
  have hshared : ((s.establish settings exposed number).1.place r a).shared = s.shared := by
    cases a <;> rfl
  refine kin_of_recorders hshared fun other hother => ?_
  rw [recorder_place, recorder_establish settings exposed hn, if_neg]
  · exact ⟨rfl, rfl⟩
  · exact fun he => hne (he ▸ hother)

/-- The resident is opened over a recorder of its own. -/
theorem quiet_residentBuild (h : s.Sound) (draft : Draft) :
    s.Quiet (s.step (.residentBuild draft)).session recorder := by
  rw [Session.step, withSettings]
  cases draft.settings with
  | error problem => exact .refl s recorder
  | ok settings =>
    unfold residentBuild open?
    dsimp only
    cases s.resident with
    | some r => exact .refl s recorder
    | none =>
      cases settings.check with
      | error problem => exact .refl s recorder
      | ok checked =>
        have hlt : s.recorders.length < s.addRecorder.1.recorders.length := by simp [addRecorder]
        have hkin := s.addRecorder.1.kin_establish settings true hlt
          (fun hnumber => (h.shared_lt recorder _ hnumber).ne rfl) .resident
          (s.addRecorder.1.establish settings true s.recorders.length).2.1
        exact ⟨(quiet_addRecorder h).kin hkin, rfl⟩

end Quiet

/-! ### Steps that are -/

section Seats
variable [Measure α] {s : Session α} {recorder name : String} {crew : List Member} {number : Nat}

/-- Whoever takes a name over another recorder makes the one who had it leave. -/
theorem Crewed.establish_elsewhere (hc : s.Crewed recorder crew) (settings : Settings)
    (exposed : Bool) (hn : number < s.recorders.length)
    (hne : s.shared.get? recorder ≠ some number) :
    ((s.establish settings exposed number).1.place (s.establish settings exposed number).2.1
      (.named name)).Crewed recorder (crew.map (Member.quits name)) := by
  refine hc.quits (s.kin_establish settings exposed hn hne _ _) (fun other hother => ?_)
    fun r hr => ?_
  · exact (Shelf.get?_insert ..).trans (if_neg hother)
  · obtain rfl := Option.some.inj (hr.symm.trans ((Shelf.get?_insert ..).trans (if_pos rfl)))
    exact hne

/-- Whoever takes a name over the recorder joins its crew. -/
theorem Crewed.establish_over (hc : s.Crewed recorder crew) (hkeeps : s.keeps = Outlet.isKept)
    (settings : Settings) (exposed : Bool) (hn : number < s.recorders.length)
    (hnumber : s.shared.get? recorder = some number) :
    ((s.establish settings exposed number).1.place (s.establish settings exposed number).2.1
      (.named name)).Crewed recorder
        (crew.map (Member.quits name) ++ [{ name := some name }]) := by
  have hleft : Crewed { s with reporters := s.reporters.erase name } recorder
      (crew.map (Member.quits name)) := by
    refine hc.quits ⟨fun _ _ _ => Iff.rfl, rfl, rfl⟩ (fun other hother => ?_) fun r hr => ?_
    · exact (Shelf.get?_erase ..).trans (if_neg hother)
    · rw [Shelf.get?_erase, if_pos rfl] at hr
      contradiction
  have hbefore : Session.common { s with reporters := s.reporters.erase name } recorder =
      s.recorder number := by
    show s.common recorder = _
    rw [common, hnumber]
    rfl
  have hopened : ((s.establish settings exposed number).1.place
      (s.establish settings exposed number).2.1 (.named name)).common recorder =
      (Desk.opened Outlet.isKept settings exposed (s.recorder number)).recorder := by
    show ((s.shared.get? recorder).map (s.establish settings exposed number).1.recorder).getD {} = _
    rw [hnumber, Option.map_some, Option.getD_some, recorder_establish settings exposed hn,
      if_pos rfl, hkeeps]
  refine hleft.joins (r := (s.establish settings exposed number).2.1) ?_ (fun _ _ _ => Iff.rfl)
    (fun other hother => ?_) ((Shelf.get?_insert ..).trans (if_pos rfl)) hnumber ?_ ?_
    fun shape => ?_
  · intro m hm hname
    obtain ⟨q, -, rfl⟩ := List.mem_map.1 hm
    exact (Member.name_quits_eq_some.1 hname).2 rfl
  · show (s.reporters.insert name _).get? other = (s.reporters.erase name).get? other
    rw [Shelf.get?_insert, Shelf.get?_erase, if_neg hother, if_neg hother]
  · show ∀ o, o ∈ (Desk.opened s.keeps settings exposed (s.recorder number)).handles.keys ↔ _
    rw [hkeeps]
    exact Desk.holdsKept_opened settings exposed (s.recorder number)
  · rw [hopened, hbefore]
    exact Desk.described_opened settings exposed (s.recorder number)
  · rw [hopened, hbefore]
    exact Desk.registered_opened settings exposed (s.recorder number) shape

end Seats

section Steps
variable [Measure α] {s : Session α} {recorder : String} {crew : List Member}

/-- A draft opens just when a reporter is opened with it. -/
theorem reply_buildOver (s : Session α) (draft : Draft) (name other : String) :
    (s.step (.buildOver draft name other)).reply = .done ↔ draft.opens = true := by
  rw [Session.step, withSettings, Draft.opens]
  cases draft.settings with
  | error problem => simp [quiet]
  | ok settings =>
    show (s.keep name (s.openOver? settings other)).reply = .done ↔ settings.check.isOk = true
    cases hcheck : settings.check <;>
      simp [openOver?, hcheck, keep, quiet, Except.isOk, Except.toBool]

theorem crewed_build (h : s.Sound) (hc : s.Crewed recorder crew) (draft : Draft) (name : String) :
    (s.step (.build draft name)).session.Crewed recorder
      ((Step.build draft name : Step α).crew recorder crew) := by
  rw [Session.step, withSettings, Step.crew, Draft.opens]
  cases draft.settings with
  | error problem => exact hc
  | ok settings =>
    show (s.keep name (s.open? settings)).session.Crewed recorder
      (if settings.check.isOk then crew.map (Member.quits name) else crew)
    cases hcheck : settings.check with
    | error problem =>
      rw [open?, hcheck]
      exact hc
    | ok checked =>
      rw [s.open?_eq_establish hcheck]
      have hadded := hc.quiet (quiet_addRecorder h)
      exact hadded.establish_elsewhere settings true (by simp [addRecorder]) fun hnumber =>
        (h.shared_lt recorder _ hnumber).ne rfl

theorem crewed_buildOver (h : s.Sound) (ho : s.Orderly) (hkeeps : s.keeps = Outlet.isKept)
    (hc : s.Crewed recorder crew) (draft : Draft) (name other : String) :
    (s.step (.buildOver draft name other)).session.Crewed recorder
      ((Step.buildOver draft name other : Step α).crew recorder crew) := by
  rw [Session.step, withSettings, Step.crew, Draft.opens]
  cases draft.settings with
  | error problem => exact hc
  | ok settings =>
    show (s.keep name (s.openOver? settings other)).session.Crewed recorder
      (if settings.check.isOk then _ else crew)
    cases hcheck : settings.check with
    | error problem =>
      rw [openOver?, hcheck]
      exact hc
    | ok checked =>
      have hopen : s.openOver? settings other =
          .ok ((s.share other).1.establish settings false (s.share other).2) := by
        rw [openOver?, hcheck]
      rw [hopen]
      have hshared := hc.quiet (quiet_share h other)
      obtain ⟨-, hlt⟩ := sound_share h other
      have hnumber := s.get?_share other
      have hopens : (Except.ok checked : Except Problem Unit).isOk = true := rfl
      rw [if_pos hopens]
      by_cases he : other = recorder
      · subst he
        rw [if_pos rfl]
        exact hshared.establish_over ((s.keeps_share other).trans hkeeps) settings false hlt hnumber
      · rw [if_neg he, List.append_nil]
        exact hshared.establish_elsewhere settings false hlt fun hsame =>
          he ((ho.share h other).single _ _ _ hnumber hsame)

theorem crewed_drop (hc : s.Crewed recorder crew) (name : String) :
    (s.step (.drop name)).session.Crewed recorder (crew.map (Member.quits name)) := by
  refine hc.quits ⟨fun _ _ _ => Iff.rfl, rfl, rfl⟩ (fun other hother => ?_) fun r hr => ?_
  · exact (Shelf.get?_erase ..).trans (if_neg hother)
  · have hgone := Shelf.get?_erase s.reporters name name
    rw [if_pos rfl] at hgone
    exact absurd (hgone.symm.trans hr) (Option.some_ne_none r).symm

theorem common_told (h : s.Sound) (recorder : String) {a : Seat} {r : Reporter} (hr : s.at? a = some r)
    (events : List Event) :
    (s.told a r events).common recorder =
      if s.shared.get? recorder = some r.recorder then (s.toldDesk r events).recorder
      else s.common recorder := by
  have hshared : (s.told a r events).shared = s.shared := by cases a <;> rfl
  have hrecorder := recorder_told (a := a) (r := r) events (h.recorder_lt a r hr)
  rw [common, common, hshared]
  cases s.shared.get? recorder with
  | none => rfl
  | some number => by_cases hn : number = r.recorder <;> simp [hrecorder, hn]

theorem crewed_report (h : s.Sound) (hkeeps : s.keeps = Outlet.isKept)
    (hc : s.Crewed recorder crew) (name : String) (events : List Event) :
    (s.step (.report name events)).session.Crewed recorder
      (crew.map (Member.hears name events)) := by
  rw [Session.step, withReporter]
  cases hr : s.reporters.get? name with
  | none =>
    have hnobody : crew.map (Member.hears name events) = crew.map id := by
      refine List.map_congr_left fun m hm => if_neg fun hname => ?_
      obtain ⟨r, hfound, -⟩ := hc.found m hm name hname
      exact absurd (hr.symm.trans hfound) (Option.some_ne_none r).symm
    rw [hnobody, List.map_id]
    exact hc
  | some r =>
    have hcommon := common_told h recorder (a := .named name) hr events
    have hheard : (events.map fun e => (s.now, e)).map Prod.snd = events := by simp
    have htold : s.toldDesk r events =
        (s.desk r).run Outlet.isKept (events.map fun e => (s.now, e)) := by rw [toldDesk, hkeeps]
    refine hc.hears hr rfl (fun other hother => (Shelf.get?_insert ..).trans (if_neg hother))
      ⟨_, (Shelf.get?_insert ..).trans (if_pos rfl), rfl, fun heard hkept => ?_⟩ ?_ fun shape => ?_
    · show (s.toldDesk r events).HoldsKept (heard ++ events)
      rw [htold]
      have hrun := hkept.run (events.map fun e => (s.now, e))
      rwa [hheard] at hrun
    · show ((s.told (.named name) r events).common recorder).described = _
      rw [hcommon]
      split
      · next hnumber =>
        rw [htold, Desk.described_run, common, hnumber]
        rfl
      · rfl
    · show ((s.told (.named name) r events).common recorder).registered.get shape = _
      rw [hcommon]
      split
      · next hnumber =>
        rw [htold, Desk.registered_run, hheard, common, hnumber]
        rfl
      · rfl

/-- What a step makes of the crew of a recorder. -/
theorem crewed_step (h : s.Sound) (ho : s.Orderly) (hkeeps : s.keeps = Outlet.isKept)
    (hc : s.Crewed recorder crew) (step : Step α) :
    (s.step step).session.Crewed recorder (step.crew recorder crew) := by
  cases step with
  | build draft name => exact crewed_build h hc draft name
  | buildOver draft name other => exact crewed_buildOver h ho hkeeps hc draft name other
  | drop name => exact crewed_drop hc name
  | report name events => exact crewed_report h hkeeps hc name events
  | clock now | holdNew holder => exact hc.quiet ⟨⟨fun _ _ _ => Iff.rfl, rfl, rfl⟩, rfl⟩
  | residentBuild draft => exact hc.quiet (s.quiet_residentBuild h draft)
  | residentRead => exact hc.quiet (s.quiet_withResident _ fun r _ => .refl s recorder)
  | residentReport events =>
    exact hc.quiet (s.quiet_withResident _ fun r hr => s.quiet_told h ho hr events)
  | residentRender => exact hc.quiet (s.quiet_withResident _ fun r _ => s.quiet_render r)
  | residentRoute route =>
    exact hc.quiet (s.quiet_withResident _ fun r _ => ⟨⟨fun _ _ _ => Iff.rfl, rfl, rfl⟩, rfl⟩)
  | settings name | tally name | display name =>
    exact hc.quiet (s.quiet_withReporter name _ fun r => .refl s recorder)
  | hold name holder | route name route =>
    exact hc.quiet (s.quiet_withReporter name _ fun r => ⟨⟨fun _ _ _ => Iff.rfl, rfl, rfl⟩, rfl⟩)
  | heldTally holder =>
    rw [Session.step]
    split <;> exact hc.quiet (.refl s recorder)
  | render name => exact hc.quiet (s.quiet_withReporter name _ fun r => s.quiet_render r)
  | ask name questions =>
    exact hc.quiet (s.quiet_withReporter name _ fun r => s.quiet_ask r questions)
  | compareHandle name =>
    exact hc.quiet (s.quiet_withReporter name _ fun r => s.quiet_compareHandle r)
  | upkeep name =>
    refine hc.quiet (s.quiet_withReporter name _ fun r => ?_)
    show s.Quiet (s.upkeep r) recorder
    rw [upkeep]
    split
    · exact quiet_setRecorder rfl rfl
    · exact .refl s recorder
  | request route method address =>
    rw [Session.step]
    split
    · next number hnumber =>
      unfold request
      dsimp only
      split
      · exact hc.quiet (s.quiet_expose number)
      · exact hc.quiet (.refl s recorder)
    · exact hc.quiet (.refl s recorder)
  | capture other => exact hc.quiet (s.quiet_withRecorder h other _ fun r => ⟨rfl, rfl⟩)
  | calls other => exact hc.quiet (s.quiet_withRecorder h other _ fun r => ⟨rfl, rfl⟩)
  | lookup other lookups => exact hc.quiet (s.quiet_withRecorder h other _ fun r => ⟨rfl, rfl⟩)
  | rawCount other id amount | rawGauge other id level | rawObserve other id value =>
    exact hc.quiet (s.quiet_withRecorder h other _ fun r => ⟨rfl, rfl⟩)

end Steps

/-! ### What a recorder was asked for -/

theorem crewed_start (now : Instant) (recorder : String) :
    (start α Outlet.isKept now).Crewed recorder [] := by
  constructor
  case manned => exact fun name r hr => absurd hr.symm (Option.some_ne_none r)
  case found => exact fun m hm => absurd hm List.not_mem_nil
  case single => exact fun name => Nat.zero_le 1
  case described => rfl
  case registered => exact fun shape => by cases shape <;> rfl

variable [Measure α]

/-- The crew of a recorder follows the steps of a session. -/
theorem crewed_after (now : Instant) (steps : List (Step α)) (recorder : String) :
    ((start α Outlet.isKept now).after steps).Crewed recorder (crewAfter recorder steps) := by
  induction steps using List.reverseRecOn with
  | nil => exact crewed_start now recorder
  | append_singleton steps step ih =>
    have hsound := sound_after (α := α) Outlet.isKept now steps
    have horderly := orderly_after (α := α) Outlet.isKept now steps
    have hkeeps := keeps_after (start α Outlet.isKept now) steps
    rw [after, crewAfter, List.foldl_append, List.foldl_append]
    exact crewed_step hsound horderly hkeeps ih step

/-- **What a shared recorder was asked for** depends on who came to it and on what they heard.
Each of `k` reporters described its seven metrics once and registered the five series that are
there from the start. Beyond these it registered gauges and counters for tracks, once for each
known kind and every time for any other one, and a counter for each failed subscription. -/
theorem calls_after (now : Instant) (steps : List (Step α)) (recorder : String) :
    let crew := crewAfter recorder steps
    let k := crew.length
    (((start α Outlet.isKept now).after steps).step (.calls recorder)).reply =
      .calls ⟨2 * k, 4 * k, k⟩
        ⟨2 * k + (crew.map fun m => countersFor m.heard).sum,
          2 * k + (crew.map fun m => gaugesFor m.heard).sum, k⟩ := by
  intro crew k
  have hcrewed := crewed_after now steps recorder
  have hregistered : (((start α Outlet.isKept now).after steps).common recorder).registered =
      ⟨2 * k + (crew.map fun m => countersFor m.heard).sum,
        2 * k + (crew.map fun m => gaugesFor m.heard).sum, k⟩ := by
    refine PerShape.ext_get fun shape => ?_
    rw [hcrewed.registered]
    simp only [requests_eq]
    cases shape <;> simp [PerShape.get, k, crew, List.sum_map_add, Nat.mul_comm]
  rw [Session.step, withRecorder_eq, common_eq]
  show Reply.calls _ _ = _
  rw [hcrewed.described, hregistered]

end Session
end Roomwatch
