/-! A shelf: one value per key, in the order in which the keys came.

`insertIfNew` puts a value under a key that is new and leaves a known key alone;
`modify` changes the value under a key, if there is one; `insert` sets it in either
case. A lookup after any of the three is a lookup before it (`get?_insertIfNew`,
`get?_modify`, `get?_insert`), and the keys of a shelf stay distinct
(`nodup_keys_insertIfNew`). Series, handles, descriptions and the named things of a
session are all kept on shelves. -/
namespace Roomwatch

abbrev Shelf (κ β : Type) := List (κ × β)

namespace Shelf
variable {κ β : Type} [DecidableEq κ]

def get? (s : Shelf κ β) (k : κ) : Option β :=
  match s with
  | [] => none
  | (j, v) :: rest => if j = k then some v else get? rest k

def keys (s : Shelf κ β) : List κ := s.map Prod.fst

/-- A new key gets the value; a known key keeps its own. -/
def insertIfNew (s : Shelf κ β) (k : κ) (v : β) : Shelf κ β :=
  match s with
  | [] => [(k, v)]
  | (j, w) :: rest => if j = k then (j, w) :: rest else (j, w) :: insertIfNew rest k v

/-- Changes the value of a known key. -/
def modify (s : Shelf κ β) (k : κ) (f : β → β) : Shelf κ β :=
  match s with
  | [] => []
  | (j, w) :: rest => if j = k then (j, f w) :: rest else (j, w) :: modify rest k f

/-- Sets the value of a key, new or known. -/
def insert (s : Shelf κ β) (k : κ) (v : β) : Shelf κ β := (s.insertIfNew k v).modify k fun _ => v

/-- Changes all values. -/
def mapValues {γ : Type} (f : β → γ) (s : Shelf κ β) : Shelf κ γ :=
  s.map fun entry => (entry.1, f entry.2)

def erase (s : Shelf κ β) (k : κ) : Shelf κ β := s.filter fun entry => entry.1 ≠ k

/-! ### Lookups after changes -/

theorem get?_insertIfNew (s : Shelf κ β) (k : κ) (v : β) (j : κ) :
    (s.insertIfNew k v).get? j = if j = k then some ((s.get? k).getD v) else s.get? j := by
  induction s with
  | nil => simp only [insertIfNew, get?]; grind
  | cons entry rest ih =>
    obtain ⟨i, w⟩ := entry
    simp only [insertIfNew, get?]
    grind [get?]

theorem get?_modify (s : Shelf κ β) (k : κ) (f : β → β) (j : κ) :
    (s.modify k f).get? j = if j = k then (s.get? k).map f else s.get? j := by
  induction s with
  | nil => simp [modify, get?]
  | cons entry rest ih =>
    obtain ⟨i, w⟩ := entry
    simp only [modify, get?]
    grind [get?]

theorem get?_insert (s : Shelf κ β) (k : κ) (v : β) (j : κ) :
    (s.insert k v).get? j = if j = k then some v else s.get? j := by
  rw [insert, get?_modify, get?_insertIfNew, get?_insertIfNew]
  grind

theorem get?_erase (s : Shelf κ β) (k j : κ) :
    (s.erase k).get? j = if j = k then none else s.get? j := by
  induction s with
  | nil => simp [erase, get?]
  | cons entry rest ih =>
    obtain ⟨i, w⟩ := entry
    simp only [erase, List.filter_cons, get?] at *
    grind [get?]

theorem isSome_get?_iff (s : Shelf κ β) (k : κ) : (s.get? k).isSome ↔ k ∈ s.keys := by
  induction s with
  | nil => simp [get?, keys]
  | cons entry rest ih =>
    obtain ⟨i, w⟩ := entry
    simp only [get?, keys, List.map_cons, List.mem_cons] at *
    grind

/-- A lookup is fixed by whether its key is known and by its value where it is. -/
theorem get?_congr {s t : Shelf κ β} {k : κ} (v : β) (hk : k ∈ s.keys ↔ k ∈ t.keys)
    (hv : (s.get? k).getD v = (t.get? k).getD v) : s.get? k = t.get? k := by
  rw [← isSome_get?_iff, ← isSome_get?_iff] at hk
  cases hs : s.get? k <;> cases ht : t.get? k <;> simp_all

theorem mem_of_get? {s : Shelf κ β} {k : κ} {v : β} (h : s.get? k = some v) : (k, v) ∈ s := by
  induction s with
  | nil => contradiction
  | cons entry rest ih =>
    obtain ⟨j, w⟩ := entry
    rw [get?] at h
    by_cases hj : j = k
    · rw [if_pos hj, Option.some.injEq] at h
      rw [hj, h]
      exact List.mem_cons_self ..
    · rw [if_neg hj] at h
      exact List.mem_cons_of_mem _ (ih h)

/-! ### Changing all values -/

section MapValues
variable {γ : Type} (f : β → γ) (s : Shelf κ β) (k : κ)

theorem get?_mapValues : (s.mapValues f).get? k = (s.get? k).map f := by
  induction s with
  | nil => rfl
  | cons entry rest ih =>
    obtain ⟨j, w⟩ := entry
    simp only [mapValues, List.map_cons, get?] at *
    split
    · rfl
    · exact ih

theorem mapValues_insert (v : β) : (s.insert k v).mapValues f = (s.mapValues f).insert k (f v) := by
  induction s with
  | nil => simp [insert, insertIfNew, modify, mapValues]
  | cons entry rest ih =>
    obtain ⟨j, w⟩ := entry
    simp only [insert, mapValues, List.map_cons, insertIfNew] at *
    split
    · next hj => simp [modify, hj]
    · next hj => simp [modify, hj, ih]

theorem mapValues_erase : (s.erase k).mapValues f = (s.mapValues f).erase k := by
  simp [erase, mapValues, List.filter_map, Function.comp_def]

end MapValues

/-! ### Values after changes -/

section Values
variable {P : β → Prop}

theorem forall_insertIfNew {s : Shelf κ β} (k : κ) {v : β} (hv : P v) (h : ∀ entry ∈ s, P entry.2) :
    ∀ entry ∈ s.insertIfNew k v, P entry.2 := by
  induction s with
  | nil =>
    intro entry hentry
    rw [List.mem_singleton.1 hentry]
    exact hv
  | cons first rest ih =>
    rw [List.forall_mem_cons] at h
    rw [insertIfNew]
    split
    · exact List.forall_mem_cons.2 h
    · exact List.forall_mem_cons.2 ⟨h.1, ih h.2⟩

theorem forall_modify {s : Shelf κ β} (k : κ) {f : β → β} (hf : ∀ v, P v → P (f v))
    (h : ∀ entry ∈ s, P entry.2) : ∀ entry ∈ s.modify k f, P entry.2 := by
  induction s with
  | nil => exact h
  | cons first rest ih =>
    rw [List.forall_mem_cons] at h
    rw [modify]
    split
    · exact List.forall_mem_cons.2 ⟨hf _ h.1, h.2⟩
    · exact List.forall_mem_cons.2 ⟨h.1, ih h.2⟩

end Values

/-! ### Keys after changes -/

theorem keys_modify (s : Shelf κ β) (k : κ) (f : β → β) : (s.modify k f).keys = s.keys := by
  induction s with
  | nil => rfl
  | cons entry rest ih =>
    obtain ⟨i, w⟩ := entry
    simp only [modify, keys] at *
    split <;> simp [ih]

theorem keys_insertIfNew (s : Shelf κ β) (k : κ) (v : β) :
    (s.insertIfNew k v).keys = if k ∈ s.keys then s.keys else s.keys ++ [k] := by
  induction s with
  | nil => simp [insertIfNew, keys]
  | cons entry rest ih =>
    obtain ⟨i, w⟩ := entry
    simp only [insertIfNew, keys, List.map_cons] at *
    grind

theorem nodup_keys_insertIfNew {s : Shelf κ β} (k : κ) (v : β) (h : s.keys.Nodup) :
    (s.insertIfNew k v).keys.Nodup := by
  rw [keys_insertIfNew]
  split
  · exact h
  · next hk => exact List.nodup_append.2 ⟨h, by simp, by grind⟩

theorem insertIfNew_of_get? {s : Shelf κ β} {k : κ} {w : β} (v : β) (h : s.get? k = some w) :
    s.insertIfNew k v = s := by
  induction s with
  | nil => simp [get?] at h
  | cons entry rest ih =>
    obtain ⟨i, u⟩ := entry
    simp only [get?] at h
    simp only [insertIfNew]
    grind

end Shelf
end Roomwatch
