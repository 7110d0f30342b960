import Mathlib
import Roomwatch.Proofs.Interleaving

/-! Reporters that pool their series.

Two reporters with the same settings over one recorder write to the same series. What is
in the recorder is then the sum of what each of them would have put into a recorder of
its own (`Pooled`), in whatever order their calls came (`pooled_actAll`): counters and
gauges add up, and a histogram has the observations of both. -/
namespace Roomwatch

open Number (Measure)
open Registry (Act KeepsPace)

/-- A registry in which two reporters of the same settings have added to what there was. -/
structure Pooled {α : Type} [Measure α] (s : Settings) (h k : History)
    (before after : Registry α) : Prop where
  series : ∀ shape id, id ∈ after.keys shape ↔
    id ∈ before.keys shape ∨ Booked s h shape id ∨ Booked s k shape id
  counters : ∀ id, after.total id =
    before.total id + (Desk.booked α s h).total id + (Desk.booked α s k).total id
  gauges : ∀ (ofInt : Int → α) (bound : Nat), KeepsPace ofInt bound → ∀ (o : Outlet) (n : Int),
    before.level (o.id s) = ofInt n → n.natAbs + h.length + k.length ≤ bound →
      ∃ x y : Int, (Desk.booked α s h).level (o.id s) = ofInt x ∧
        (Desk.booked α s k).level (o.id s) = ofInt y ∧
          after.level (o.id s) = ofInt (n + x + y)
  observations : ∀ id, (after.waiting id).Perm
    (before.waiting id ++ (Desk.booked α s h).waiting id ++ (Desk.booked α s k).waiting id)

section Pooled
variable {α : Type} [Measure α] (s : Settings)

theorem History.updates_append (h k : History) :
    History.updates (h ++ k) = h.updates ++ k.updates := List.flatMap_append

theorem life_eq (h : History) :
    Desk.life h = Outlet.fixed.map Update.acquire ++ h.updates := rfl

/-- A reporter takes no more steps of a gauge than it has calls. -/
theorem length_turns_updates (h : History) (o : Outlet) :
    (h.updates.flatMap (Update.turns o)).length ≤ h.length := by
  have hlife := length_turns_life h o
  rw [life_eq, List.flatMap_append] at hlife
  exact hlife

theorem total_booked (h : History) (id : SeriesId) :
    (Desk.booked α s h).total id =
      ((acts s h.updates : List (Act α)).map (Act.amount fun j => j = id)).sum := by
  rw [Desk.booked, Registry.total_actAll id (Desk.accepts_life _ s h), life_eq, acts_append,
    List.map_append, List.sum_append]
  have hfixed : ((acts s (Outlet.fixed.map Update.acquire) : List (Act α)).map
      (Act.amount fun j => j = id)).sum = 0 := by
    simp [Outlet.fixed, acts, Update.acts, Act.amount]
  rw [hfixed, zero_add]
  exact zero_add _

theorem level_booked (h : History) (o : Outlet) :
    (Desk.booked α s h).level (o.id s) =
      Registry.paced Measure.zero (h.updates.flatMap (Update.turns o)) := by
  rw [Desk.booked, Registry.level_actAll _ (Desk.accepts_life _ s h), turns_acts, life_eq,
    List.flatMap_append]
  rfl

/-- A gauge that a reporter alone moves shows the sum of its steps. -/
theorem level_booked_of_keepsPace {ofInt : Int → α} {bound : Nat} (hpace : KeepsPace ofInt bound)
    (h : History) (o : Outlet) (hfew : h.length ≤ bound) :
    (Desk.booked α s h).level (o.id s) =
      ofInt ((h.updates.flatMap (Update.turns o)).map Direction.sign).sum := by
  have hturns := length_turns_updates h o
  have hsum : Registry.paced (ofInt 0) (h.updates.flatMap (Update.turns o)) = _ :=
    hpace.paced (by omega)
  rw [level_booked, hpace.zero, hsum, zero_add]

theorem waiting_booked (h : History) (id : SeriesId) :
    (Desk.booked α s h).waiting id =
      (acts s h.updates : List (Act α)).flatMap (Act.values id) := by
  rw [Desk.booked, Registry.waiting_actAll id (Desk.accepts_life _ s h), life_eq, acts_append,
    List.flatMap_append]
  rfl

theorem pooled_actAll {before : Registry α} {h k all : History} (hall : all.Perm (h ++ k))
    (hfixed : ∀ o ∈ Outlet.fixed, o.id s ∈ before.keys o.shape) :
    Pooled s h k before (before.actAll (acts s all.updates)) := by
  have haccepts : before.Accepts (acts s all.updates) := Desk.accepts_history s all hfixed
  have hupdates : all.updates.Perm (h.updates ++ k.updates) := by
    rw [← History.updates_append]
    exact hall.flatMap_right _
  have hacts : (acts s all.updates : List (Act α)).Perm (acts s h.updates ++ acts s k.updates) := by
    rw [← acts_append]
    exact hupdates.flatMap_right _
  constructor
  case series =>
    intro shape id
    rw [Registry.mem_keys_actAll, register_mem_acts, booked_iff, booked_iff]
    simp only [life_eq, List.mem_append, hupdates.mem_iff]
    constructor
    · intro hid
      rcases hid with hold | ⟨o, ho | ho, hshape, hid⟩
      · exact .inl hold
      · exact .inr (.inl ⟨o, .inr ho, hshape, hid⟩)
      · exact .inr (.inr ⟨o, .inr ho, hshape, hid⟩)
    · intro hid
      have hstart {o : Outlet} (ho : Update.acquire o ∈ Outlet.fixed.map Update.acquire)
          (hshape : o.shape = shape) (hid : o.id s = id) : id ∈ before.keys shape := by
        obtain ⟨p, hp, he⟩ := List.mem_map.1 ho
        rw [← hid, ← hshape, ← Update.acquire.inj he]
        exact hfixed p hp
      rcases hid with hold | ⟨o, ho | ho, hshape, hid⟩ | ⟨o, ho | ho, hshape, hid⟩
      · exact .inl hold
      · exact .inl (hstart ho hshape hid)
      · exact .inr ⟨o, .inl ho, hshape, hid⟩
      · exact .inl (hstart ho hshape hid)
      · exact .inr ⟨o, .inr ho, hshape, hid⟩
  case counters =>
    intro id
    rw [Registry.total_actAll id haccepts, total_booked, total_booked]
    rw [(hacts.map _).sum_eq, List.map_append, List.sum_append, add_assoc]
  case gauges =>
    intro ofInt bound hpace o n hn hbound
    have hh := length_turns_updates h o
    have hk := length_turns_updates k o
    have hturns := hupdates.flatMap_right (Update.turns o)
    have hlength := hturns.length_eq
    rw [List.flatMap_append, List.length_append] at hlength
    refine ⟨_, _, level_booked_of_keepsPace s hpace h o (by omega),
      level_booked_of_keepsPace s hpace k o (by omega), ?_⟩
    rw [Registry.level_actAll _ haccepts, hn, turns_acts, hpace.paced (by omega),
      (hturns.map _).sum_eq, List.flatMap_append, List.map_append, List.sum_append, add_assoc]
  case observations =>
    intro id
    rw [Registry.waiting_actAll id haccepts, waiting_booked, waiting_booked, List.append_assoc,
      ← List.flatMap_append]
    exact (hacts.flatMap_right _).append_left _

end Pooled
end Roomwatch
