import Mathlib
import Roomwatch.Proofs.Agreement

/-! What a reporter asks of its recorder, and what it keeps to itself.

Updates acquire outlets, and an outlet that is not held is asked of the recorder:
`asked` lists these requests. A kept outlet is asked for once, however often it is
acquired, and any other one every time (`count_asked`), so the requests do not depend
on the order of the updates. They are what the recorder counts as registrations
(`registered_applyAll`). Beside them a reporter holds what it keeps
(`mem_handles_applyAll`) and notes its entries (`journal_applyAll`), and nothing else
of its recorder changes but the registry (`recorder_applyAll`). -/
namespace Roomwatch

open Number (Measure)

theorem PerShape.ext_get {m n : PerShape} (h : ∀ shape, m.get shape = n.get shape) : m = n := by
  obtain ⟨⟩ := m
  obtain ⟨⟩ := n
  simp only [mk.injEq]
  exact ⟨h .counter, h .gauge, h .histogram⟩

namespace Update

/-- The outlet that an update acquires. -/
def acquired? : Update → Option Outlet
  | .acquire o => some o
  | _ => none

/-- The entry that an update notes. -/
def noted? : Update → Option Entry
  | .note entry => some entry
  | _ => none

end Update

/-- The outlets that are asked of a recorder while others are held: what is held is not
asked for, and what is kept is held from then on. -/
def asked (keeps : Outlet → Bool) (held : List Outlet) : List Outlet → List Outlet
  | [] => []
  | o :: rest =>
    if o ∈ held then asked keeps held rest
    else o :: asked keeps (if keeps o then held ++ [o] else held) rest

/-- A kept outlet is asked for at most once, any other one every time. -/
theorem count_asked (keeps : Outlet → Bool) (held outlets : List Outlet) (o : Outlet) :
    (asked keeps held outlets).count o =
      if o ∈ held then 0 else if keeps o then min 1 (outlets.count o) else outlets.count o := by
  induction outlets generalizing held with
  | nil => simp [asked]
  | cons p rest ih =>
    rw [asked, List.count_cons]
    by_cases hp : p ∈ held
    · rw [if_pos hp, ih]
      by_cases ho : o ∈ held
      · rw [if_pos ho, if_pos ho]
      · have hne : p ≠ o := fun he => ho (he ▸ hp)
        simp [ho, hne]
    · rw [if_neg hp, List.count_cons, ih]
      by_cases he : p = o
      · subst he
        cases hk : keeps p <;> simp [hp]
      · have hheld : (o ∈ if keeps p then held ++ [p] else held) ↔ o ∈ held := by
          cases keeps p <;> simp [Ne.symm he]
        simp [hheld, he]

/-- The requests are the same, whatever the order of the outlets. -/
theorem asked_perm (keeps : Outlet → Bool) (held : List Outlet) {a b : List Outlet}
    (h : a.Perm b) : (asked keeps held a).Perm (asked keeps held b) := by
  rw [List.perm_iff_count]
  intro o
  rw [count_asked, count_asked, h.count_eq]

namespace Desk
variable {α : Type} [Measure α] (keeps : Outlet → Bool)

theorem applyAll_cons (d : Desk α) (u : Update) (rest : List Update) :
    d.applyAll keeps (u :: rest) = (d.apply keeps u).applyAll keeps rest := rfl

/-- The recorder counts one registration for each request. -/
theorem registered_applyAll (d : Desk α) (updates : List Update) (shape : Shape) :
    (d.applyAll keeps updates).recorder.registered.get shape =
      d.recorder.registered.get shape +
        (asked keeps d.handles.keys (updates.filterMap Update.acquired?)).countP
          fun o => o.shape = shape := by
  induction updates generalizing d with
  | nil => rfl
  | cons u rest ih =>
    rw [applyAll_cons, ih]
    cases u with
    | acquire o =>
      rw [show (Update.acquire o :: rest).filterMap Update.acquired? =
        o :: rest.filterMap Update.acquired? from rfl, asked]
      cases hg : d.handles.get? o with
      | some id =>
        have hheld := (Shelf.isSome_get?_iff _ _).1 (Option.isSome_of_eq_some hg)
        rw [apply, acquire_of_held hg, if_pos hheld]
      | none =>
        have hfree : o ∉ d.handles.keys := by
          rw [← Shelf.isSome_get?_iff, hg]
          exact Bool.false_ne_true
        have hkeys : (d.apply keeps (.acquire o)).handles.keys =
            if keeps o then d.handles.keys ++ [o] else d.handles.keys := by
          simp only [apply, acquire, hg]
          split
          · rw [Shelf.keys_insertIfNew, if_neg hfree]
          · rfl
        have hcount : (d.apply keeps (.acquire o)).recorder.registered =
            d.recorder.registered.bump o.shape := by
          simp only [apply, acquire, hg, Recorder.register]
        rw [hkeys, hcount, PerShape.get_bump, if_neg hfree, List.countP_cons]
        simp only [decide_eq_true_eq, eq_comm (a := shape)]
        omega
    | _ => rfl

/-- What is held after updates was held before or was kept when it was acquired. -/
theorem mem_handles_applyAll (d : Desk α) (updates : List Update) (o : Outlet) :
    o ∈ (d.applyAll keeps updates).handles.keys ↔
      o ∈ d.handles.keys ∨ keeps o = true ∧ .acquire o ∈ updates := by
  induction updates generalizing d with
  | nil => simp [applyAll]
  | cons u rest ih =>
    rw [applyAll_cons, ih, List.mem_cons]
    cases u with
    | acquire p =>
      cases hg : d.handles.get? p with
      | some id =>
        have hheld := (Shelf.isSome_get?_iff _ _).1 (Option.isSome_of_eq_some hg)
        rw [apply, acquire_of_held hg]
        simp only [Update.acquire.injEq]
        grind
      | none =>
        simp only [apply, acquire, hg, Update.acquire.injEq]
        split
        · rw [Shelf.keys_insertIfNew]
          grind
        · grind
    | _ => simp [apply, write, note]

/-- Entries are noted one after the other. -/
theorem journal_applyAll (d : Desk α) (updates : List Update) :
    (d.applyAll keeps updates).journal = d.journal ++ updates.filterMap Update.noted? := by
  induction updates generalizing d with
  | nil => exact (List.append_nil _).symm
  | cons u rest ih =>
    rw [applyAll_cons, ih]
    cases u with
    | note entry =>
      show (d.journal ++ [entry]) ++ _ = d.journal ++ (entry :: _)
      rw [List.append_assoc]
      rfl
    | acquire o =>
      have hjournal : (d.acquire keeps o).journal = d.journal := by
        unfold acquire
        split <;> rfl
      rw [apply, hjournal]
      rfl
    | _ => rfl

/-- Of its recorder a reporter changes the registry and the number of registrations. -/
theorem recorder_applyAll (d : Desk α) (updates : List Update) :
    (d.applyAll keeps updates).recorder =
      { d.recorder with
        registry := (d.applyAll keeps updates).recorder.registry
        registered := (d.applyAll keeps updates).recorder.registered } := by
  induction updates generalizing d with
  | nil => rfl
  | cons u rest ih =>
    rw [applyAll_cons, ih]
    cases u with
    | acquire o =>
      rw [apply, acquire]
      split <;> rfl
    | _ => rfl

end Desk
end Roomwatch
