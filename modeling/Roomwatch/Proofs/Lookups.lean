import Mathlib
import Roomwatch.Proofs.Handles

/-! Series one by one.

What an act does to a lookup depends on the looked up series alone: it does something to
it if the act is about that series (`counter?_act`, `gauge?_act`, `waiting?_act`), and
nothing otherwise. So registries that say the same of a series (`SameAt`) go on doing so
when the same is done to both (`SameAt.actAll`), and when something is done to other
series (`sameAt_actAll`). -/
namespace Roomwatch

open Number (Measure)
open Registry (Act)

namespace Registry
variable {α : Type}

/-- Whether two registries say the same of a series of any shape. -/
structure SameAt (r t : Registry α) (id : SeriesId) : Prop where
  counter : r.counter? id = t.counter? id
  gauge : r.gauge? id = t.gauge? id
  waiting : r.waiting? id = t.waiting? id

theorem SameAt.refl (r : Registry α) (id : SeriesId) : r.SameAt r id := ⟨rfl, rfl, rfl⟩

theorem SameAt.trans {r t u : Registry α} {id : SeriesId} (h : r.SameAt t id) (k : t.SameAt u id) :
    r.SameAt u id :=
  ⟨h.counter.trans k.counter, h.gauge.trans k.gauge, h.waiting.trans k.waiting⟩

namespace Act

/-- The series that an act is about. -/
def id : Act α → SeriesId
  | .register _ id | .count id _ | .move id _ | .observe id _ => id

/-- What an act makes of its counter. -/
def onCounter : Act α → Option UInt64 → Option UInt64
  | .register .counter _, total => some (total.getD 0)
  | .count _ amount, total => total.map (· + amount)
  | _, total => total

/-- What an act makes of its gauge. -/
def onGauge [Measure α] : Act α → Option α → Option α
  | .register .gauge _, level => some (level.getD Measure.zero)
  | .move _ d, level => level.map (stepped d)
  | _, level => level

/-- What an act makes of its histogram. -/
def onWaiting : Act α → Option (List α) → Option (List α)
  | .register .histogram _, values => some (values.getD [])
  | .observe _ value, values => values.map (· ++ [value])
  | _, values => values

end Act

variable [Measure α]

section Lookups
variable (r : Registry α) (a : Act α) (id : SeriesId)

theorem counter?_act :
    (r.act a).counter? id = if id = a.id then a.onCounter (r.counter? a.id) else r.counter? id := by
  have hother : (if id = a.id then r.counter? a.id else r.counter? id) = r.counter? id := by
    split <;> simp_all
  cases a with
  | register shape j =>
    cases shape with
    | counter => exact Shelf.get?_insertIfNew r.counters j 0 id
    | _ => exact hother.symm
  | count j n => exact Shelf.get?_modify r.counters j (· + n) id
  | _ => exact hother.symm

theorem gauge?_act :
    (r.act a).gauge? id = if id = a.id then a.onGauge (r.gauge? a.id) else r.gauge? id := by
  have hother : (if id = a.id then r.gauge? a.id else r.gauge? id) = r.gauge? id := by
    split <;> simp_all
  cases a with
  | register shape j =>
    cases shape with
    | gauge => exact Shelf.get?_insertIfNew r.gauges j Measure.zero id
    | _ => exact hother.symm
  | move j d => exact Shelf.get?_modify r.gauges j (stepped d) id
  | _ => exact hother.symm

theorem waiting?_act :
    (r.act a).waiting? id = if id = a.id then a.onWaiting (r.waiting? a.id) else r.waiting? id := by
  have hother : (if id = a.id then r.waiting? a.id else r.waiting? id) = r.waiting? id := by
    split <;> simp_all
  cases a with
  | register shape j =>
    cases shape with
    | histogram => exact Shelf.get?_insertIfNew r.histograms j [] id
    | _ => exact hother.symm
  | observe j value => exact Shelf.get?_modify r.histograms j (· ++ [value]) id
  | _ => exact hother.symm

end Lookups

/-- What an act makes of a series depends on that series alone. -/
theorem SameAt.act {r t : Registry α} {id : SeriesId} (h : r.SameAt t id) (a : Act α) :
    (r.act a).SameAt (t.act a) id := by
  by_cases hid : id = a.id
  · subst hid
    constructor
    · rw [counter?_act, counter?_act, h.counter]
    · rw [gauge?_act, gauge?_act, h.gauge]
    · rw [waiting?_act, waiting?_act, h.waiting]
  · constructor
    · rw [counter?_act, counter?_act, if_neg hid, if_neg hid, h.counter]
    · rw [gauge?_act, gauge?_act, if_neg hid, if_neg hid, h.gauge]
    · rw [waiting?_act, waiting?_act, if_neg hid, if_neg hid, h.waiting]

theorem SameAt.actAll {r t : Registry α} {id : SeriesId} (h : r.SameAt t id)
    (acts : List (Act α)) : (r.actAll acts).SameAt (t.actAll acts) id := by
  induction acts generalizing r t with
  | nil => exact h
  | cons a rest ih => exact ih (h.act a)

/-- An act on another series leaves a series alone. -/
theorem sameAt_act {r : Registry α} {a : Act α} {id : SeriesId} (h : id ≠ a.id) :
    (r.act a).SameAt r id := by
  constructor
  · rw [counter?_act, if_neg h]
  · rw [gauge?_act, if_neg h]
  · rw [waiting?_act, if_neg h]

theorem sameAt_actAll {r : Registry α} {acts : List (Act α)} {id : SeriesId}
    (h : ∀ a ∈ acts, id ≠ a.id) : (r.actAll acts).SameAt r id := by
  induction acts generalizing r with
  | nil => exact .refl r id
  | cons a rest ih =>
    rw [List.forall_mem_cons] at h
    exact (ih h.2).trans (sameAt_act h.1)

end Registry

/-- What a reporter does under its settings is done to the series of these settings. -/
theorem exists_outlet_of_mem_acts {α : Type} [Measure α] {s : Settings} {updates : List Update}
    {a : Act α} (h : a ∈ acts s updates) : ∃ o : Outlet, a.id = o.id s := by
  obtain ⟨u, -, ha⟩ := List.mem_flatMap.1 h
  cases u with
  | tally field d => exact absurd ha List.not_mem_nil
  | note entry => exact absurd ha List.not_mem_nil
  | _ =>
    rw [List.mem_singleton.1 ha]
    exact ⟨_, rfl⟩

end Roomwatch
