import Mathlib
import Roomwatch.Proofs.Handles
import Roomwatch.Reporter.Slots

/-! Slots hold what a shelf holds.

Each outlet has a slot of its own, or none (`Outlet.slot?_inj`), and it has one just when a
reporter keeps it (`Outlet.isSome_slot?`). So a reporter with slots and one with a shelf of
what it keeps stay in step (`SlotDesk.Matches`): after every update they hold the same
series, and after every history their recorders, tallies and journals are the same
(`SlotDesk.matches_run`). All that is said of desks is said of reporters with slots. -/
namespace Roomwatch

open Number (Measure)

/-! ### Slots of outlets -/

/-- The place of a kind tells the kind. -/
theorem TrackKind.place?_inj {a b : String} {row : Fin TrackKind.all.length}
    (ha : TrackKind.place? a = some row) (hb : TrackKind.place? b = some row) : a = b := by
  rw [place?, List.findFinIdx?_eq_some_iff] at ha hb
  exact (of_decide_eq_true ha.1).symm.trans (of_decide_eq_true hb.1)

theorem TrackKind.isSome_place? (kind : String) :
    (TrackKind.place? kind).isSome = TrackKind.isKnown kind := by
  rw [place?, List.isSome_findFinIdx?, isKnown]

namespace Outlet

/-- No two outlets have the same slot. -/
theorem slot?_inj {a b : Outlet} {slot : Slot} (ha : a.slot? = some slot)
    (hb : b.slot? = some slot) : a = b := by
  cases a <;> cases b <;>
    simp only [slot?, Option.map_eq_some_iff, Option.some.injEq, reduceCtorEq] at ha hb <;>
    grind [TrackKind.place?_inj]

/-- Just the outlets that are kept have a slot. -/
theorem isSome_slot? (o : Outlet) : o.slot?.isSome = o.isKept := by
  cases o <;> simp [slot?, isKept, isFixed, fixed, kind?, TrackKind.isSome_place?]

end Outlet

namespace Slots

theorem get_put_self (s : Slots) (id : SeriesId) {slot : Slot} (h : s.get slot = none) :
    (s.put id slot).get slot = some id := by
  cases slot with
  | kind row use => simp [put, get, KindSlots.get_put]
  | _ => contradiction

theorem get_put_of_ne (s : Slots) (id : SeriesId) {slot other : Slot} (h : other ≠ slot) :
    (s.put id slot).get other = s.get other := by
  cases slot with
  | kind row use =>
    cases other with
    | kind row' use' =>
      by_cases hrow : row = row'
      · subst hrow
        have huse : use' ≠ use := fun he => h (he ▸ rfl)
        simp [put, get, KindSlots.get_put, huse]
      · have hplace : (row : Nat) ≠ row' := fun he => hrow (Fin.ext he)
        simp [put, get, hplace]
    | _ => rfl
  | _ => rfl

end Slots

/-! ### Runs -/

namespace SlotDesk
variable {α : Type}

/-- A reporter with slots and one with a shelf that hold the same and have done the same. -/
structure Matches (b : SlotDesk α) (d : Desk α) : Prop where
  settings : b.settings = d.settings
  held : ∀ o, b.slots.held? o = d.handles.get? o
  recorder : b.recorder = d.recorder
  tally : b.tally = d.tally
  journal : b.journal = d.journal

section Matches
variable {b : SlotDesk α} {d : Desk α}

theorem Matches.handle_eq (h : b.Matches d) (o : Outlet) : b.handle o = d.handle o := by
  rw [handle, Desk.handle, h.held, h.settings]

theorem Matches.write (h : b.Matches d) (f : Registry α → Registry α) :
    (b.write f).Matches (d.write f) :=
  ⟨h.settings, h.held, congrArg (·.update f) h.recorder, h.tally, h.journal⟩

variable [Measure α]

/-- A slot is filled when its outlet is put on the shelf. -/
theorem Matches.acquire (h : b.Matches d) (o : Outlet) :
    (b.acquire o).Matches (d.acquire Outlet.isKept o) := by
  cases hheld : d.handles.get? o with
  | some id =>
    rw [SlotDesk.acquire, h.held, hheld, Desk.acquire_of_held hheld]
    exact h
  | none =>
    have hempty : b.slots.held? o = none := (h.held o).trans hheld
    rw [SlotDesk.acquire, hempty, Desk.acquire, hheld]
    refine ⟨h.settings, fun p => ?_, by rw [h.settings, h.recorder], h.tally, h.journal⟩
    dsimp only
    rw [← o.isSome_slot?, h.settings]
    cases hslot : o.slot? with
    | none => exact h.held p
    | some slot =>
      rw [Slots.held?, hslot, Option.bind_some] at hempty
      rw [Option.isSome_some, if_pos rfl, Option.elim_some, Shelf.get?_insertIfNew, hheld,
        Option.getD_none, ← h.held p]
      by_cases hp : p = o
      · rw [hp, if_pos rfl, Slots.held?, hslot]
        exact b.slots.get_put_self _ hempty
      · rw [if_neg hp, Slots.held?, Slots.held?]
        cases hother : p.slot? with
        | none => rfl
        | some other =>
          have hne : other ≠ slot := fun he => hp (Outlet.slot?_inj (he ▸ hother) hslot)
          exact b.slots.get_put_of_ne _ hne

theorem Matches.apply (h : b.Matches d) (u : Update) :
    (b.apply u).Matches (d.apply Outlet.isKept u) := by
  cases u with
  | acquire o => exact h.acquire o
  | move o direction =>
    rw [SlotDesk.apply, Desk.apply, h.handle_eq]
    exact h.write _
  | count o =>
    rw [SlotDesk.apply, Desk.apply, h.handle_eq]
    exact h.write _
  | observe o nanos =>
    rw [SlotDesk.apply, Desk.apply, h.handle_eq]
    exact h.write _
  | tally field direction =>
    exact ⟨h.settings, h.held, h.recorder, congrArg (·.step field direction) h.tally, h.journal⟩
  | note entry =>
    exact ⟨h.settings, h.held, h.recorder, h.tally, congrArg (· ++ [entry]) h.journal⟩

theorem Matches.applyAll (h : b.Matches d) (updates : List Update) :
    (b.applyAll updates).Matches (d.applyAll Outlet.isKept updates) := by
  induction updates generalizing b d with
  | nil => exact h
  | cons u rest ih => exact ih (h.apply u)

theorem Matches.run (h : b.Matches d) (history : List (Instant × Event)) :
    (b.run history).Matches (d.run Outlet.isKept history) := by
  induction history generalizing b d with
  | nil => exact h
  | cons timed rest ih => exact ih (h.applyAll (timed.2.updates timed.1))

end Matches

variable [Measure α]

/-- The first five slots are what is on the shelf of a new reporter. -/
theorem matches_opened (settings : Settings) (exposed : Bool) (recorder : Recorder α) :
    (opened settings exposed recorder).Matches
      (Desk.opened Outlet.isKept settings exposed recorder) := by
  have hshelf : (Desk.opened Outlet.isKept settings exposed recorder).handles =
      Outlet.fixed.map fun o => (o, o.id settings) := rfl
  have hempty (place : Option (Fin TrackKind.all.length)) (use : KindUse) :
      ((place.map fun row => Slot.kind row use).bind
        (opened settings exposed recorder).slots.get) = none := by
    cases place with
    | none => rfl
    | some row => cases use <;> simp [Slots.get, opened, KindSlots.get]
  refine ⟨rfl, fun o => ?_, rfl, rfl, rfl⟩
  rw [hshelf]
  cases o with
  | published kind => exact hempty _ .published
  | subscribed kind => exact hempty _ .subscribed
  | publishAttempts kind => exact hempty _ .publishAttempts
  | publishSuccesses kind => exact hempty _ .publishSuccesses
  | _ => rfl

/-- **A reporter with slots does what one with a shelf does**: after any history they have made
the same registrations and written the same series, and tallied and noted the same. -/
theorem matches_run (settings : Settings) (exposed : Bool) (recorder : Recorder α)
    (history : List (Instant × Event)) :
    ((opened settings exposed recorder).run history).Matches
      ((Desk.opened Outlet.isKept settings exposed recorder).run Outlet.isKept history) :=
  (matches_opened settings exposed recorder).run history

/-- Whatever is in the slot of an outlet is its series. -/
theorem held?_run (settings : Settings) (exposed : Bool) (recorder : Recorder α)
    (history : List (Instant × Event)) {o : Outlet} {id : SeriesId}
    (ho : ((opened settings exposed recorder).run history).slots.held? o = some id) :
    id = o.id settings := by
  have hmatches := matches_run settings exposed recorder history
  obtain ⟨hsound, -⟩ := Desk.registry_life Outlet.isKept settings exposed recorder history
  rw [hmatches.held] at ho
  have hid := hsound.names o id ho
  rwa [Desk.settings_run, Desk.settings_opened] at hid

end SlotDesk

/-- A kind that is not known has no row of slots. -/
example : (Outlet.published "screen").slot? = none := by decide

end Roomwatch
