import Mathlib
import Roomwatch.Proofs.Ledger
import Roomwatch.Reporter.Desk

/-! What a reporter does to its registry.

A reporter writes through handles, and registers a series only if it holds no
handle for it. Neither can be told from the registry: a desk is *sound* when every
handle names the series of its own outlet and that series is registered (`Sound`),
every update keeps it so, and the registry then changes as if each outlet were
named by its settings and registered on every use (`registry_applyAll`). So a
reporter's life is a list of acts (`registry_life`), whatever it holds on to, and
that list is always accepted (`accepts_life`). -/
namespace Roomwatch

open Number (Measure)
open Registry (Act)

/-! ### Outlets and their series -/

/-- What a metric's names end in, whatever the scope. -/
def Metric.ending (m : Metric) : String := "_" ++ m.subsystem ++ "_" ++ m.ownName

theorem Metric.name_eq_append (s : Settings) (m : Metric) : m.name s = s.scope ++ m.ending := by
  simp only [name, Settings.metricName, ending, String.append_assoc]

/-- No metric's ending ends in that of another one. -/
theorem Metric.eq_of_ending_suffix (m n : Metric) (h : m.ending.toList <:+ n.ending.toList) :
    m = n := by
  revert h
  cases m <;> cases n <;> decide

/-- Names tell scopes and metrics apart, also where one scope continues another. -/
theorem Metric.name_eq_iff (s t : Settings) (m n : Metric) :
    m.name s = n.name t ↔ s.scope = t.scope ∧ m = n := by
  refine ⟨fun h => ?_, fun h => by rw [name_eq_append, name_eq_append, h.1, h.2]⟩
  rw [name_eq_append, name_eq_append] at h
  have hsame : s.scope.toList ++ m.ending.toList = t.scope.toList ++ n.ending.toList := by
    rw [← String.toList_append, ← String.toList_append, h]
  have hmn : m = n := by
    have hm : m.ending.toList <:+ s.scope.toList ++ m.ending.toList := List.suffix_append _ _
    have hn : n.ending.toList <:+ s.scope.toList ++ m.ending.toList :=
      hsame ▸ List.suffix_append _ _
    rcases List.suffix_or_suffix_of_suffix hm hn with hmn | hnm
    · exact eq_of_ending_suffix m n hmn
    · exact (eq_of_ending_suffix n m hnm).symm
  subst hmn
  exact ⟨String.toList_inj.1 (List.append_cancel_right hsame), rfl⟩

theorem Metric.name_inj (s : Settings) (m n : Metric) : m.name s = n.name s ↔ m = n := by
  rw [name_eq_iff, and_iff_right rfl]

/-- Different settings and different outlets have different series. -/
theorem Outlet.id_eq_iff (s t : Settings) (a b : Outlet) : a.id s = b.id t ↔ s = t ∧ a = b := by
  refine ⟨fun h => ?_, fun h => by rw [h.1, h.2]⟩
  obtain ⟨hname, hlabels⟩ := SeriesId.mk.inj h
  obtain ⟨hscope, hmetric⟩ := (Metric.name_eq_iff s t _ _).1 hname
  obtain ⟨hidentity, hown⟩ := List.append_inj hlabels rfl
  obtain ⟨node, role, environment, scope⟩ := s
  obtain ⟨node', role', environment', scope'⟩ := t
  simp only [Settings.identity, List.cons.injEq, Prod.mk.injEq, true_and, and_true] at hidentity
  obtain ⟨hnode, hrole, henvironment⟩ := hidentity
  refine ⟨?_, eq_of_metric_of_labels hmetric hown⟩
  rw [Settings.mk.injEq]
  exact ⟨hnode, Role.label_injective hrole, henvironment, hscope⟩

/-- Under the same settings different outlets have different series. -/
theorem Outlet.id_inj (s : Settings) (a b : Outlet) : a.id s = b.id s ↔ a = b := by
  rw [id_eq_iff, and_iff_right rfl]

section Acts
variable {α : Type} [Measure α]

/-- What an update does to a registry, if anything. -/
def Update.acts (s : Settings) : Update → List (Act α)
  | .acquire o => [.register o.shape (o.id s)]
  | .move o d => [.move (o.id s) d]
  | .count o => [.count (o.id s) 1]
  | .observe o nanos => [.observe (o.id s) (Measure.ofNanos nanos)]
  | .tally _ _ | .note _ => []

def acts (s : Settings) (updates : List Update) : List (Act α) := updates.flatMap (Update.acts s)

theorem acts_append (s : Settings) (a b : List Update) :
    (acts s (a ++ b) : List (Act α)) = acts s a ++ acts s b := List.flatMap_append

/-- A series is registered exactly by acquiring its outlet. -/
theorem register_mem_acts (s : Settings) (updates : List Update) (shape : Shape) (id : SeriesId) :
    Act.register shape id ∈ (acts s updates : List (Act α)) ↔
      ∃ o, .acquire o ∈ updates ∧ o.shape = shape ∧ o.id s = id := by
  simp only [acts, List.mem_flatMap]
  constructor
  · intro h
    obtain ⟨u, hu, he⟩ := h
    cases u <;> simp only [Update.acts, List.mem_singleton, List.not_mem_nil, Act.register.injEq,
      reduceCtorEq] at he
    next o => exact ⟨o, hu, he.1.symm, he.2.symm⟩
  · intro h
    obtain ⟨o, ho, rfl, rfl⟩ := h
    exact ⟨_, ho, List.mem_singleton_self _⟩

end Acts

namespace Desk
variable {α : Type}

/-! ### Handles -/

/-- Every handle names the series of its outlet, and that series is registered. -/
structure Sound (d : Desk α) : Prop where
  names : ∀ o id, d.handles.get? o = some id → id = o.id d.settings
  known : ∀ o id, d.handles.get? o = some id → id ∈ d.recorder.registry.keys o.shape

theorem Sound.handle_eq {d : Desk α} (h : d.Sound) (o : Outlet) : d.handle o = o.id d.settings := by
  unfold handle
  cases hg : d.handles.get? o with
  | none => rfl
  | some id => exact h.names o id hg

/-- The desk of a new reporter before it acquires its fixed outlets. -/
def described (settings : Settings) (recorder : Recorder α) : Desk α :=
  describe { settings, recorder }

theorem registry_described (settings : Settings) (recorder : Recorder α) :
    (described settings recorder).recorder.registry = recorder.registry := by
  have (metrics : List Metric) (r : Recorder α) :
      (metrics.foldl (fun r m => r.describe m.shape (m.name settings) m.description) r).registry =
        r.registry := by
    induction metrics generalizing r with
    | nil => rfl
    | cons m rest ih => exact ih _
  exact this Metric.all recorder

theorem sound_described (settings : Settings) (recorder : Recorder α) :
    (described settings recorder).Sound :=
  ⟨fun _ _ h => (Option.some_ne_none _ h.symm).elim,
    fun _ _ h => (Option.some_ne_none _ h.symm).elim⟩

variable [Measure α]

/-- Acquiring an outlet registers its series, held or not. -/
theorem registry_acquire {d : Desk α} (keeps : Outlet → Bool) (h : d.Sound) (o : Outlet) :
    (d.acquire keeps o).recorder.registry =
      d.recorder.registry.register o.shape (o.id d.settings) := by
  cases hg : d.handles.get? o with
  | none => simp only [acquire, hg, Recorder.register]
  | some id =>
    have hk := h.known o id hg
    rw [h.names o id hg] at hk
    rw [acquire_of_held hg, Registry.register_eq_self_of_mem hk]

theorem registry_apply {d : Desk α} (keeps : Outlet → Bool) (h : d.Sound) (u : Update) :
    (d.apply keeps u).recorder.registry =
      d.recorder.registry.actAll (u.acts d.settings) := by
  cases u with
  | acquire o => exact registry_acquire keeps h o
  | move o direction => rw [apply, h.handle_eq]; rfl
  | count o => rw [apply, h.handle_eq]; rfl
  | observe o nanos => rw [apply, h.handle_eq]; rfl
  | tally field direction => rfl
  | note entry => rfl

/-- A handle after an update was held before, or is that of the outlet just acquired. -/
theorem held_apply (keeps : Outlet → Bool) (d : Desk α) (u : Update) {o : Outlet} {id : SeriesId}
    (ho : (d.apply keeps u).handles.get? o = some id) :
    d.handles.get? o = some id ∨ u = .acquire o ∧ id = o.id d.settings := by
  cases u with
  | acquire p =>
    cases hg : d.handles.get? p with
    | some held =>
      rw [apply, acquire_of_held hg] at ho
      exact .inl ho
    | none =>
      simp only [apply, acquire, hg] at ho
      split at ho
      · rw [Shelf.get?_insertIfNew, hg, Option.getD_none] at ho
        by_cases hp : o = p
        · subst hp
          rw [if_pos rfl, Option.some.injEq] at ho
          exact .inr ⟨rfl, ho.symm⟩
        · rw [if_neg hp] at ho
          exact .inl ho
      · exact .inl ho
  | _ => exact .inl ho

/-- Handles stay sound: no series is forgotten, and a new handle is that of its outlet. -/
theorem sound_apply {d : Desk α} (keeps : Outlet → Bool) (h : d.Sound) (u : Update) :
    (d.apply keeps u).Sound := by
  refine ⟨fun o id ho => ?_, fun o id ho => ?_⟩
  · rw [settings_apply]
    rcases held_apply keeps d u ho with hold | ⟨rfl, rfl⟩
    · exact h.names o id hold
    · rfl
  · rw [registry_apply keeps h, Registry.mem_keys_actAll]
    rcases held_apply keeps d u ho with hold | ⟨rfl, rfl⟩
    · exact .inl (h.known o id hold)
    · exact .inr (List.mem_singleton_self _)

/-- The registry after any updates: as if nothing were held. -/
theorem registry_applyAll {d : Desk α} (keeps : Outlet → Bool) (h : d.Sound)
    (updates : List Update) :
    (d.applyAll keeps updates).Sound ∧
      (d.applyAll keeps updates).recorder.registry =
        d.recorder.registry.actAll (acts d.settings updates) := by
  induction updates generalizing d with
  | nil => exact ⟨h, rfl⟩
  | cons u rest ih =>
    obtain ⟨hs, hr⟩ := ih (sound_apply keeps h u)
    refine ⟨hs, ?_⟩
    show ((d.apply keeps u).applyAll keeps rest).recorder.registry = _
    rw [hr, registry_apply keeps h, settings_apply, ← Registry.actAll_append]
    rfl

/-! ### Lives -/

/-- All updates in the life of a reporter: the fixed outlets are acquired, and then come the
updates of its history. -/
def life (history : List (Instant × Event)) : List Update :=
  Outlet.fixed.map Update.acquire ++ history.flatMap fun timed => timed.2.updates timed.1

theorem applyAll_append (keeps : Outlet → Bool) (d : Desk α) (a b : List Update) :
    d.applyAll keeps (a ++ b) = (d.applyAll keeps a).applyAll keeps b := List.foldl_append

theorem opened_eq (keeps : Outlet → Bool) (settings : Settings) (exposed : Bool)
    (recorder : Recorder α) :
    opened keeps settings exposed recorder =
      (described settings recorder).applyAll keeps
        (Outlet.fixed.map Update.acquire ++ [.note (.started settings exposed)]) := by
  rw [applyAll_append]
  simp only [applyAll, List.foldl_map]
  rfl

/-- A reporter's registry is what its life makes of the one it was given. -/
theorem registry_life (keeps : Outlet → Bool) (settings : Settings) (exposed : Bool)
    (recorder : Recorder α) (history : List (Instant × Event)) :
    ((opened keeps settings exposed recorder).run keeps history).Sound ∧
      ((opened keeps settings exposed recorder).run keeps history).recorder.registry =
        recorder.registry.actAll (acts settings (life history)) := by
  rw [run_eq_applyAll, opened_eq, ← applyAll_append]
  obtain ⟨hs, hr⟩ := registry_applyAll keeps (sound_described settings recorder)
    (Outlet.fixed.map Update.acquire ++ [.note (.started settings exposed)] ++
      history.flatMap fun timed => timed.2.updates timed.1)
  refine ⟨hs, ?_⟩
  rw [hr, registry_described]
  show recorder.registry.actAll (acts settings _) = _
  rw [acts_append, acts_append, life, acts_append]
  show recorder.registry.actAll (_ ++ [] ++ _) = _
  rw [List.append_nil]

/-! ### Every write finds its series -/

/-- A registry that knows the fixed outlets accepts any event. -/
theorem accepts_updates {r : Registry α} (settings : Settings) (now : Instant) (e : Event)
    (h : ∀ o ∈ Outlet.fixed, o.id settings ∈ r.keys o.shape) :
    r.Accepts (acts settings (e.updates now)) := by
  have rooms : Outlet.rooms.id settings ∈ r.keys .gauge := h .rooms (by decide)
  have lifetimes : Outlet.lifetimes.id settings ∈ r.keys .histogram := h .lifetimes (by decide)
  have participants : Outlet.participants.id settings ∈ r.keys .gauge :=
    h .participants (by decide)
  have attempts : Outlet.subscribeAttempts.id settings ∈ r.keys .counter :=
    h .subscribeAttempts (by decide)
  have successes : Outlet.subscribeSuccesses.id settings ∈ r.keys .counter :=
    h .subscribeSuccesses (by decide)
  cases e with
  | roomEnded start =>
    cases hs : start.filter Instant.isStart with
    | none => simp [Event.updates, hs, acts, Update.acts, Registry.Accepts, Registry.Knows, rooms]
    | some start =>
      simp only [Event.updates, hs, Event.lifetime]
      split <;>
        simp [acts, Update.acts, Registry.Accepts, Registry.Knows, Registry.mem_keys_act, *]
  | subscribeFailed error byUser =>
    cases byUser <;>
      simp [Event.updates, Event.failure, acts, Update.acts, Registry.Accepts, Registry.Knows,
        Registry.mem_keys_act, Outlet.shape, Outlet.metric, Metric.shape]
  | subscribeRefused reason =>
    cases reason <;>
      simp [Event.updates, Event.failure, acts, Update.acts, Registry.Accepts, Registry.Knows,
        Registry.mem_keys_act, Outlet.shape, Outlet.metric, Metric.shape, Refusal.byUser]
  | _ =>
    simp [Event.updates, acts, Update.acts, Registry.Accepts, Registry.Knows,
      Registry.mem_keys_act, Outlet.shape, Outlet.metric, Metric.shape, *]

/-- Registrations are accepted by every registry. -/
theorem accepts_acquired (r : Registry α) (settings : Settings) (outlets : List Outlet) :
    r.Accepts (acts settings (outlets.map Update.acquire)) := by
  induction outlets generalizing r with
  | nil => trivial
  | cons o rest ih => exact ⟨trivial, ih _⟩

/-- A registry that knows the fixed outlets accepts any history. -/
theorem accepts_history {r : Registry α} (settings : Settings) (history : List (Instant × Event))
    (h : ∀ o ∈ Outlet.fixed, o.id settings ∈ r.keys o.shape) :
    r.Accepts (acts settings (history.flatMap fun timed => timed.2.updates timed.1)) := by
  induction history generalizing r with
  | nil => trivial
  | cons timed rest ih =>
    rw [List.flatMap_cons, acts_append, Registry.accepts_append]
    refine ⟨accepts_updates settings timed.1 timed.2 h, ih fun o ho => ?_⟩
    rw [Registry.mem_keys_actAll]
    exact .inl (h o ho)

/-- The acts of a life are accepted by every registry. -/
theorem accepts_life (r : Registry α) (settings : Settings) (history : List (Instant × Event)) :
    r.Accepts (acts settings (life history)) := by
  rw [life, acts_append, Registry.accepts_append]
  refine ⟨accepts_acquired r settings _, accepts_history settings history fun o ho => ?_⟩
  rw [Registry.mem_keys_actAll, register_mem_acts]
  exact .inr ⟨o, List.mem_map_of_mem ho, rfl, rfl⟩

/-- However long its life, a reporter's registry knows the fixed outlets. -/
theorem fixed_known (keeps : Outlet → Bool) (settings : Settings) (exposed : Bool)
    (recorder : Recorder α) (history : List (Instant × Event)) {o : Outlet}
    (ho : o ∈ Outlet.fixed) :
    o.id settings ∈
      ((opened keeps settings exposed recorder).run keeps history).recorder.registry.keys
        o.shape := by
  rw [(registry_life keeps settings exposed recorder history).2, Registry.mem_keys_actAll,
    register_mem_acts]
  exact .inr ⟨o, List.mem_append_left _ (List.mem_map_of_mem ho), rfl, rfl⟩

theorem settings_opened (keeps : Outlet → Bool) (settings : Settings) (exposed : Bool)
    (recorder : Recorder α) : (opened keeps settings exposed recorder).settings = settings := by
  rw [opened_eq, settings_applyAll]
  rfl

end Desk
end Roomwatch
