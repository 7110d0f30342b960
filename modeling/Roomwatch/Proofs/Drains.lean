import Mathlib
import Roomwatch.Proofs.Bookings
import Roomwatch.Proofs.Whole

/-! A reporter whose recorder is drained now and then.

Every exposition and every upkeep drains the recorder that a reporter writes to. A drain
takes what waits in the histograms and nothing else (`alike_emptied`), so however the
calls of a reporter and the drains alternate (`Desk.serve`), its series and the values of
its counters and gauges are those of its events alone (`alike_booked`), whatever the clock
showed meanwhile (`alike_booked_of_same`). Some things stay throughout: gauges hold whole
numbers (`whole_booked`), and the descriptions and the buckets of a recorder keep their form
(`framed_serve`). -/
namespace Roomwatch

open Number (Measure IsWhole isWhole_zero isWhole_stepped)
open Registry (Act)

/-! ### Drains -/

namespace Registry
variable {α : Type}

/-- Registries that differ in nothing but what waits in their histograms. -/
structure Alike (r t : Registry α) : Prop where
  counters : r.counters = t.counters
  gauges : r.gauges = t.gauges
  histograms : r.histograms.keys = t.histograms.keys

theorem Alike.keys {r t : Registry α} (h : r.Alike t) (shape : Shape) :
    r.keys shape = t.keys shape := by
  cases shape with
  | counter => exact congrArg Shelf.keys h.counters
  | gauge => exact congrArg Shelf.keys h.gauges
  | histogram => exact h.histograms

theorem Alike.trans {r t u : Registry α} (h : r.Alike t) (k : t.Alike u) : r.Alike u :=
  ⟨h.counters.trans k.counters, h.gauges.trans k.gauges, h.histograms.trans k.histograms⟩

theorem Alike.symm {r t : Registry α} (h : r.Alike t) : t.Alike r :=
  ⟨h.counters.symm, h.gauges.symm, h.histograms.symm⟩

theorem alike_emptied (r : Registry α) : r.emptied.Alike r :=
  ⟨rfl, rfl, r.keys_emptied .histogram⟩

variable [Measure α]

theorem Alike.act {r t : Registry α} (h : r.Alike t) (a : Act α) : (r.act a).Alike (t.act a) := by
  obtain ⟨hc, hg, hh⟩ := h
  cases a with
  | register shape id =>
    cases shape with
    | counter => exact ⟨congrArg (Shelf.insertIfNew · id 0) hc, hg, hh⟩
    | gauge => exact ⟨hc, congrArg (Shelf.insertIfNew · id Measure.zero) hg, hh⟩
    | histogram =>
      refine ⟨hc, hg, ?_⟩
      show (r.histograms.insertIfNew id []).keys = (t.histograms.insertIfNew id []).keys
      rw [Shelf.keys_insertIfNew, Shelf.keys_insertIfNew, hh]
  | count id amount => exact ⟨congrArg (Shelf.modify · id (· + amount)) hc, hg, hh⟩
  | move id d => exact ⟨hc, congrArg (Shelf.modify · id (stepped d)) hg, hh⟩
  | observe id value =>
    refine ⟨hc, hg, ?_⟩
    show (r.histograms.modify id _).keys = (t.histograms.modify id _).keys
    rw [Shelf.keys_modify, Shelf.keys_modify, hh]

theorem Alike.actAll {r t : Registry α} (h : r.Alike t) (acts : List (Act α)) :
    (r.actAll acts).Alike (t.actAll acts) := by
  induction acts generalizing r t with
  | nil => exact h
  | cons a rest ih => exact ih (h.act a)

end Registry

/-! ### Calls -/

/-- What a reporter is asked: to note an event, or to have its recorder drained. -/
inductive Call where
  | event (now : Instant) (e : Event)
  | drain

/-- The events among some calls. -/
def events : List Call → History
  | [] => []
  | .event now e :: rest => (now, e) :: events rest
  | .drain :: rest => events rest

namespace Desk
variable {α : Type} [Measure α]

def answer (keeps : Outlet → Bool) (d : Desk α) : Call → Desk α
  | .event now e => d.perform keeps now e
  | .drain => { d with recorder := d.recorder.drain }

def serve (keeps : Outlet → Bool) (d : Desk α) : List Call → Desk α
  | [] => d
  | call :: rest => serve keeps (d.answer keeps call) rest

theorem Sound.drain {d : Desk α} (h : d.Sound) :
    Sound { d with recorder := d.recorder.drain } :=
  ⟨h.names, fun o id ho => (d.recorder.registry.keys_emptied o.shape).symm ▸ h.known o id ho⟩

/-- Drains do not touch the series, nor the values of counters and gauges. -/
theorem alike_serve (keeps : Outlet → Bool) {d : Desk α} (h : d.Sound) (calls : List Call) :
    (d.serve keeps calls).recorder.registry.Alike (d.recorder.registry.actAll
      (acts d.settings ((events calls).flatMap fun timed => timed.2.updates timed.1))) := by
  induction calls generalizing d with
  | nil => exact ⟨rfl, rfl, rfl⟩
  | cons call rest ih =>
    cases call with
    | event now e =>
      obtain ⟨hsound, hregistry⟩ := registry_applyAll keeps h (e.updates now)
      have := ih hsound
      rw [hregistry, settings_applyAll, ← Registry.actAll_append, ← acts_append] at this
      exact this
    | drain =>
      have hempty := Registry.alike_emptied d.recorder.registry
      exact (ih h.drain).trans (hempty.actAll _)

theorem alike_booked (keeps : Outlet → Bool) (s : Settings) (exposed : Bool) (calls : List Call) :
    ((opened keeps s exposed ({} : Recorder α)).serve keeps calls).recorder.registry.Alike
      (booked α s (events calls)) := by
  obtain ⟨hsound, hregistry⟩ := registry_life keeps s exposed ({} : Recorder α) []
  have hsettings := settings_opened keeps s exposed ({} : Recorder α)
  have halike := alike_serve keeps hsound calls
  have hlife : life [] ++ ((events calls).flatMap fun timed => timed.2.updates timed.1) =
      life (events calls) := by
    rw [life, List.flatMap_nil, List.append_nil]
    rfl
  rw [hregistry, show ((opened keeps s exposed ({} : Recorder α)).run keeps []).settings = s from
    hsettings, ← Registry.actAll_append, ← acts_append, hlife] at halike
  exact halike

/-! ### The clock -/

/-- What waits is all that depends on the clock. -/
theorem alike_updates {r t : Registry α} (h : r.Alike t) (s : Settings) (e : Event)
    (now later : Instant) :
    (r.actAll (acts s (e.updates now))).Alike (t.actAll (acts s (e.updates later))) := by
  cases e with
  | roomEnded start =>
    have hlifetime (u : Registry α) (now : Instant) :
        (u.actAll (acts s (Event.updates now (.roomEnded start)))).Alike
          (u.actAll (acts s [.move .rooms .down, .tally .rooms .down])) := by
      cases hs : start.filter Instant.isStart with
      | none =>
        simp only [Event.updates, hs]
        exact ⟨rfl, rfl, rfl⟩
      | some start =>
        have hobserved : (u.actAll (acts s (Event.lifetime now start))).Alike u := by
          dsimp only [Event.lifetime]
          split <;> exact ⟨rfl, rfl, Shelf.keys_modify ..⟩
        simp only [Event.updates, hs, acts_append, Registry.actAll_append]
        exact hobserved.actAll _
    exact ((hlifetime r now).trans (h.actAll _)).trans (hlifetime t later).symm
  | _ => exact h.actAll _

/-- The same events lead to the same series and values, whenever they happened. -/
theorem alike_booked_of_same (s : Settings) {h k : History}
    (hsame : h.map Prod.snd = k.map Prod.snd) : (booked α s h).Alike (booked α s k) := by
  have hrun {r t : Registry α} (hrt : r.Alike t) :
      (r.actAll (acts s (h.flatMap fun timed => timed.2.updates timed.1))).Alike
        (t.actAll (acts s (k.flatMap fun timed => timed.2.updates timed.1))) := by
    induction h generalizing k r t with
    | nil =>
      obtain rfl := List.map_eq_nil_iff.1 hsame.symm
      exact hrt
    | cons first rest ih =>
      obtain ⟨second, others, rfl, hevent, hrest⟩ := List.map_eq_cons_iff.1 hsame.symm
      rw [List.flatMap_cons, List.flatMap_cons, acts_append, acts_append, Registry.actAll_append,
        Registry.actAll_append, hevent]
      exact ih hrest.symm (alike_updates hrt s first.2 first.1 second.1)
  rw [booked, booked, life, life, acts_append, acts_append, Registry.actAll_append,
    Registry.actAll_append]
  exact hrun ⟨rfl, rfl, rfl⟩

end Desk

/-! ### What stays of a recorder -/

/-- Gauges that hold whole numbers go on holding them. -/
theorem whole_actAll {r : Registry Float} (h : ∀ entry ∈ r.gauges, IsWhole entry.2)
    (acts : List (Act Float)) : ∀ entry ∈ (r.actAll acts).gauges, IsWhole entry.2 := by
  induction acts generalizing r with
  | nil => exact h
  | cons a rest ih =>
    refine ih ?_
    cases a with
    | register shape id =>
      cases shape with
      | counter => exact h
      | gauge => exact Shelf.forall_insertIfNew id isWhole_zero h
      | histogram => exact h
    | count id amount => exact h
    | move id d => exact Shelf.forall_modify id (fun _ => isWhole_stepped d) h
    | observe id value => exact h

theorem whole_booked (s : Settings) (h : History) :
    ∀ entry ∈ (Desk.booked Float s h).gauges, IsWhole entry.2 :=
  whole_actAll (fun _ hnone => absurd hnone List.not_mem_nil) _

namespace Recorder

/-- The part of being presentable that no event and no drain touches. -/
structure Framed (r : Recorder Float) : Prop where
  buckets : ∀ entry ∈ r.settled, entry.2.within.length = lifetimeBounds.length
  help : ∀ entry ∈ r.descriptions, '\n' ∉ entry.2.help.toList

theorem Framed.drain {r : Recorder Float} (h : r.Framed) : r.drain.Framed := by
  refine ⟨fun entry hentry => ?_, h.help⟩
  obtain ⟨⟨id, waiting⟩, -, rfl⟩ := List.mem_map.1 hentry
  have hsettled : ((r.settled.get? id).getD Distribution.empty).within.length =
      lifetimeBounds.length := by
    cases hget : r.settled.get? id with
    | none => rfl
    | some d => exact h.buckets _ (Shelf.mem_of_get? hget)
  show (List.zipWith _ _ (Distribution.tallyWithin waiting)).length = _
  rw [List.length_zipWith, hsettled, Distribution.tallyWithin, List.length_map, min_self]

end Recorder

namespace Desk

theorem framed_apply (keeps : Outlet → Bool) {d : Desk Float} (h : d.recorder.Framed)
    (u : Update) : (d.apply keeps u).recorder.Framed := by
  cases u with
  | acquire o =>
    rw [apply, acquire]
    split
    · exact h
    · exact ⟨h.buckets, h.help⟩
  | move o direction => exact ⟨h.buckets, h.help⟩
  | count o => exact ⟨h.buckets, h.help⟩
  | observe o nanos => exact ⟨h.buckets, h.help⟩
  | tally field direction => exact h
  | note entry => exact h

theorem framed_applyAll (keeps : Outlet → Bool) {d : Desk Float} (h : d.recorder.Framed)
    (updates : List Update) : (d.applyAll keeps updates).recorder.Framed := by
  induction updates generalizing d with
  | nil => exact h
  | cons u rest ih => exact ih (framed_apply keeps h u)

theorem framed_serve (keeps : Outlet → Bool) {d : Desk Float} (h : d.recorder.Framed)
    (calls : List Call) : (d.serve keeps calls).recorder.Framed := by
  induction calls generalizing d with
  | nil => exact h
  | cons call rest ih =>
    cases call with
    | event now e => exact ih (framed_applyAll keeps h (e.updates now))
    | drain => exact ih h.drain

theorem framed_opened (keeps : Outlet → Bool) (s : Settings) (exposed : Bool) :
    (opened keeps s exposed ({} : Recorder Float)).recorder.Framed := by
  rw [opened_eq]
  refine framed_applyAll keeps ?_ _
  have (metrics : List Metric) (r : Recorder Float) (h : r.Framed) :
      (metrics.foldl (fun r m => r.describe m.shape (m.name s) m.description) r).Framed := by
    induction metrics generalizing r with
    | nil => exact h
    | cons m rest ih =>
      have hm : '\n' ∉ m.description.help.toList := by cases m <;> decide
      have hinsert := Shelf.forall_insertIfNew (P := fun d : Description => '\n' ∉ d.help.toList)
        (m.shape, m.name s) hm h.help
      have hhelp := Shelf.forall_modify (P := fun d : Description => '\n' ∉ d.help.toList)
        (m.shape, m.name s) (fun _ _ => hm) hinsert
      exact ih _ ⟨h.buckets, hhelp⟩
  exact this Metric.all {} ⟨fun _ hentry => absurd hentry List.not_mem_nil,
    fun _ hentry => absurd hentry List.not_mem_nil⟩

end Desk

end Roomwatch
