import Mathlib
import Roomwatch.Proofs.Requests

/-! Threads that take turns at one reporter.

Several threads report to one reporter, and nothing joins the updates of a call, so
they come in any order that keeps the order of each thread (`Interleaved`). No update
is lost by that, and none is made twice: what is left depends only on which updates
were made, not on their order (`matches_applyAll`), because everything that is counted
adds up, and because a write of a thread always finds its series, which the same
thread has acquired (`accepts_interleaved`). So the threads leave what they would
leave one after the other (`matches_interleaved`). -/
namespace Roomwatch

open Number (Measure Exact)
open Registry (Act)

/-! ### Turns -/

/-- A way for threads to take turns until all of them are done: every turn goes to a thread
that still has something to do. -/
inductive Interleaved {β : Type} : List (List β) → List β → Prop
  | done {threads : List (List β)} : (∀ t ∈ threads, t = []) → Interleaved threads []
  | turn (before after : List (List β)) (x : β) (rest : List β) {l : List β} :
    Interleaved (before ++ rest :: after) l → Interleaved (before ++ (x :: rest) :: after) (x :: l)

theorem Interleaved.perm {β : Type} {threads : List (List β)} {l : List β}
    (h : Interleaved threads l) : l.Perm threads.flatten := by
  induction h with
  | done hall => rw [List.flatten_eq_nil_iff.2 hall]
  | turn before after x rest _ ih =>
    rw [List.flatten_append, List.flatten_cons] at ih ⊢
    exact (ih.cons x).trans List.perm_middle.symm

/-! ### What is left -/

/-- Desks that cannot be told apart, but for the order of observations and of entries. -/
structure Desk.Matches {α : Type} (d e : Desk α) : Prop where
  settings : d.settings = e.settings
  tally : d.tally = e.tally
  handles : ∀ o, d.handles.get? o = e.handles.get? o
  series : ∀ shape id, id ∈ d.recorder.registry.keys shape ↔ id ∈ e.recorder.registry.keys shape
  counters : ∀ id, d.recorder.registry.counter? id = e.recorder.registry.counter? id
  gauges : ∀ id, d.recorder.registry.gauge? id = e.recorder.registry.gauge? id
  observations : ∀ id,
    (d.recorder.registry.waiting id).Perm (e.recorder.registry.waiting id)
  registered : d.recorder.registered = e.recorder.registered
  described : d.recorder.described = e.recorder.described
  descriptions : d.recorder.descriptions = e.recorder.descriptions
  settled : d.recorder.settled = e.recorder.settled
  journal : d.journal.Perm e.journal

/-! ### Writes find their series -/

section Acceptance
variable {α : Type} [Measure α]

/-- What every thread may do alone, the threads may do in turns: a series stays registered. -/
theorem accepts_interleaved (s : Settings) {threads : List (List Update)} {updates : List Update}
    (h : Interleaved threads updates) {r : Registry α} (hr : ∀ t ∈ threads, r.Accepts (acts s t)) :
    r.Accepts (acts s updates) := by
  induction h generalizing r with
  | done _ => trivial
  | turn before after u rest _ ih =>
    have hu := hr (u :: rest) (by simp)
    rw [acts, List.flatMap_cons, Registry.accepts_append] at hu ⊢
    refine ⟨hu.1, ih fun t ht => ?_⟩
    rcases List.mem_append.1 ht with ht | ht
    · exact (hr t (List.mem_append_left _ ht)).mono fun shape id hid =>
        (Registry.mem_keys_actAll _ _ _ _).2 (.inl hid)
    · rcases List.mem_cons.1 ht with rfl | ht
      · exact hu.2
      · exact (hr t (List.mem_append_right _ (List.mem_cons_of_mem _ ht))).mono
          fun shape id hid => (Registry.mem_keys_actAll _ _ _ _).2 (.inl hid)

end Acceptance

/-! ### The order of updates -/

namespace Desk
variable (keeps : Outlet → Bool) {d : Desk Exact} {a b : List Update}

/-- **What updates leave does not depend on their order**, as long as every write finds its
series. -/
theorem matches_applyAll (h : d.Sound) (hp : a.Perm b)
    (ha : d.recorder.registry.Accepts (acts d.settings a))
    (hb : d.recorder.registry.Accepts (acts d.settings b)) :
    (d.applyAll keeps a).Matches (d.applyAll keeps b) := by
  obtain ⟨hsa, hra⟩ := registry_applyAll keeps h a
  obtain ⟨hsb, hrb⟩ := registry_applyAll keeps h b
  have hacts : (acts d.settings a : List (Act Exact)).Perm (acts d.settings b) :=
    hp.flatMap_right _
  have hsettings : (d.applyAll keeps a).settings = (d.applyAll keeps b).settings := by
    rw [settings_applyAll, settings_applyAll]
  have hseries (shape : Shape) (id : SeriesId) :
      id ∈ (d.applyAll keeps a).recorder.registry.keys shape ↔
        id ∈ (d.applyAll keeps b).recorder.registry.keys shape := by
    rw [hra, hrb, Registry.mem_keys_actAll, Registry.mem_keys_actAll, hacts.mem_iff]
  constructor
  case settings => exact hsettings
  case tally =>
    refine Tally.ext_get fun field => ?_
    rw [tally_applyAll, tally_applyAll, (hp.map _).sum_eq]
  case handles =>
    intro o
    refine Shelf.get?_congr (o.id d.settings) ?_ ?_
    · rw [mem_handles_applyAll, mem_handles_applyAll, hp.mem_iff]
    · have haeq := hsa.handle_eq o
      have hbeq := hsb.handle_eq o
      rw [handle, settings_applyAll] at haeq hbeq
      rw [haeq, hbeq]
  case series => exact hseries
  case counters =>
    intro id
    refine Shelf.get?_congr 0 (hseries .counter id) ?_
    show Registry.total _ id = Registry.total _ id
    rw [hra, hrb, Registry.total_actAll id ha, Registry.total_actAll id hb, (hacts.map _).sum_eq]
  case gauges =>
    intro id
    refine Shelf.get?_congr Measure.zero (hseries .gauge id) ?_
    show Registry.level _ id = Registry.level _ id
    rw [hra, hrb, Registry.level_actAll id ha, Registry.level_actAll id hb]
    rw [Registry.paced_exact, Registry.paced_exact, ((hacts.flatMap_right _).map _).sum_eq]
  case observations =>
    intro id
    rw [hra, hrb, Registry.waiting_actAll id ha, Registry.waiting_actAll id hb]
    exact (hacts.flatMap_right _).append_left _
  case registered =>
    refine PerShape.ext_get fun shape => ?_
    rw [registered_applyAll, registered_applyAll,
      (asked_perm keeps d.handles.keys (hp.filterMap _)).countP_eq]
  case described => rw [recorder_applyAll keeps d a, recorder_applyAll keeps d b]
  case descriptions => rw [recorder_applyAll keeps d a, recorder_applyAll keeps d b]
  case settled => rw [recorder_applyAll keeps d a, recorder_applyAll keeps d b]
  case journal =>
    rw [journal_applyAll, journal_applyAll]
    exact (hp.filterMap _).append_left _

end Desk

/-! ### Threads at a reporter -/

/-- The updates of a history, call by call. -/
def History.updates (h : History) : List Update := h.flatMap fun timed => timed.2.updates timed.1

theorem History.updates_flatten (threads : List History) :
    (threads.map History.updates).flatten = History.updates threads.flatten := by
  induction threads with
  | nil => rfl
  | cons calls rest ih =>
    rw [List.map_cons, List.flatten_cons, List.flatten_cons, ih]
    exact List.flatMap_append.symm

/-- **No update is lost, however threads take turns**: they leave what their calls leave one
thread after the other, and so do the calls in any other order. Every call has its own clock,
so the lifetime of an ended room is given with it. -/
theorem matches_interleaved (keeps : Outlet → Bool) (s : Settings) (exposed : Bool)
    (recorder : Recorder Exact) (past : History) (threads : List History) (updates : List Update)
    (h : Interleaved (threads.map History.updates) updates) :
    let d := (Desk.opened keeps s exposed recorder).run keeps past
    (d.applyAll keeps updates).Matches (d.run keeps threads.flatten) ∧
      ∀ calls : History, calls.Perm threads.flatten →
        (d.run keeps calls).Matches (d.run keeps threads.flatten) := by
  intro d
  have hsound : d.Sound := (Desk.registry_life keeps s exposed recorder past).1
  have hsettings : d.settings = s := by
    rw [Desk.settings_run, Desk.settings_opened]
  have hfixed (o : Outlet) (ho : o ∈ Outlet.fixed) :
      o.id d.settings ∈ d.recorder.registry.keys o.shape := by
    rw [hsettings]
    exact Desk.fixed_known keeps s exposed recorder past ho
  have haccepts (calls : History) :
      d.recorder.registry.Accepts (acts d.settings calls.updates) :=
    Desk.accepts_history d.settings calls hfixed
  constructor
  · rw [Desk.run_eq_applyAll keeps d threads.flatten]
    refine Desk.matches_applyAll keeps hsound ?_ ?_ (haccepts _)
    · have hperm := h.perm
      rwa [History.updates_flatten] at hperm
    · refine accepts_interleaved d.settings h fun t ht => ?_
      obtain ⟨calls, -, rfl⟩ := List.mem_map.1 ht
      exact haccepts calls
  · intro calls hperm
    rw [Desk.run_eq_applyAll, Desk.run_eq_applyAll]
    exact Desk.matches_applyAll keeps hsound (hperm.flatMap_right _) (haccepts _) (haccepts _)

/-- Two threads share a new kind of track: both register it before either of them writes, and
a subscription fails in between. -/
theorem matches_interleaved_two :
    let screen : Outlet := .published "screen"
    let denied : Outlet := .subscribeFailures "denied"
    let threads : List History := [[(⟨0⟩, .trackPublished "screen")],
      [(⟨1⟩, .trackUnpublished "screen"), (⟨2⟩, .subscribeFailed "denied" true)]]
    let updates : List Update := [.acquire screen, .acquire screen, .move screen .down,
      .move screen .up, .tally .published .down, .acquire denied, .count denied,
      .tally .published .up, .tally .userErrors .up, .note (.subscribeFailed "denied" true)]
    let d := Desk.opened Outlet.isKept Settings.specimen false ({} : Recorder Exact)
    Interleaved (threads.map History.updates) updates ∧
      (d.applyAll Outlet.isKept updates).Matches (d.run Outlet.isKept threads.flatten) := by
  intro screen denied threads updates d
  have h : Interleaved (threads.map History.updates) updates := by
    refine .turn [] [_] _ _ (.turn [_] [] _ _ (.turn [_] [] _ _ (.turn [] [_] _ _ ?_)))
    refine .turn [_] [] _ _ (.turn [_] [] _ _ (.turn [_] [] _ _ (.turn [] [_] _ _ ?_)))
    refine .turn [_] [] _ _ (.turn [_] [] _ _ (.done ?_))
    decide
  exact ⟨h, (matches_interleaved Outlet.isKept Settings.specimen false {} [] threads updates h).1⟩

end Roomwatch
