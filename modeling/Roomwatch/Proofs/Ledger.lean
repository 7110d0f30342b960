import Mathlib
import Roomwatch.Registry.Basic

/-! A registry as the outcome of what was done to it.

An `Act` registers a series or writes to one. A registry *accepts* a list of acts
when each write finds its series registered (`Accepts`). What an accepted list
leaves can be read off the list: the series are the old ones and those the list
registers (`mem_keys_actAll`), the counters of any class of series have grown by
the amounts counted there (`counted_actAll`), and so has each counter (`total_actAll`);
the exact gauges of a class have moved by the steps made there (`leveled_actAll`), a
single gauge has taken its steps in order (`level_actAll`), and a histogram has its
observations added in order (`waiting_actAll`). -/
namespace Roomwatch

open Number (Measure Exact nanosPerSecond)

/-- One step of a gauge, as a number to add. -/
def Direction.sign : Direction → Int
  | .up => 1
  | .down => -1

namespace Shelf
variable {κ β γ : Type} [AddCommMonoid γ]

/-! ### Sums over a shelf -/

/-- The sum of what `g` makes of the values under the keys of a class. -/
def sumOver (s : Shelf κ β) (p : κ → Bool) (g : β → γ) : γ :=
  ((s.filter fun entry => p entry.1).map fun entry => g entry.2).sum

theorem sumOver_cons (k : κ) (v : β) (rest : Shelf κ β) (p : κ → Bool) (g : β → γ) :
    sumOver ((k, v) :: rest) p g = (if p k then g v else 0) + sumOver rest p g := by
  unfold sumOver
  cases hp : p k <;> simp [hp]

variable [DecidableEq κ]

/-- A new value that counts for nothing leaves the sum. -/
theorem sumOver_insertIfNew (s : Shelf κ β) (k : κ) (v : β) (p : κ → Bool) (g : β → γ)
    (h : g v = 0) : (s.insertIfNew k v).sumOver p g = s.sumOver p g := by
  induction s with
  | nil => simp [insertIfNew, sumOver_cons, h]
  | cons entry rest ih =>
    obtain ⟨j, w⟩ := entry
    simp only [insertIfNew]
    split
    · rfl
    · rw [sumOver_cons, sumOver_cons, ih]

/-- A change that adds `δ` to a known value adds it to every sum that counts the key. -/
theorem sumOver_modify_of_get? {s : Shelf κ β} {k : κ} {w : β} (f : β → β) (p : κ → Bool)
    (g : β → γ) (δ : γ) (hk : s.get? k = some w) (h : g (f w) = g w + δ) :
    (s.modify k f).sumOver p g = s.sumOver p g + if p k then δ else 0 := by
  induction s with
  | nil => contradiction
  | cons entry rest ih =>
    obtain ⟨j, u⟩ := entry
    simp only [get?] at hk
    simp only [modify]
    by_cases hj : j = k
    · subst hj
      rw [if_pos rfl, Option.some.injEq] at hk
      subst hk
      rw [if_pos rfl, sumOver_cons, sumOver_cons, h]
      split
      · exact add_right_comm (g u) δ _
      · rw [add_zero]
    · rw [if_neg hj] at hk
      rw [if_neg hj, sumOver_cons, sumOver_cons, ih hk, add_assoc]

theorem sumOver_modify (s : Shelf κ β) (k : κ) (f : β → β) (p : κ → Bool) (g : β → γ) (δ : γ)
    (h : ∀ w, g (f w) = g w + δ) (hk : k ∈ s.keys) :
    (s.modify k f).sumOver p g = s.sumOver p g + if p k then δ else 0 := by
  obtain ⟨w, hw⟩ := Option.isSome_iff_exists.1 ((isSome_get?_iff _ _).2 hk)
  exact sumOver_modify_of_get? f p g δ hw (h w)

theorem sumOver_of_not_mem (s : Shelf κ β) (k : κ) (g : β → γ) (h : k ∉ s.keys) :
    s.sumOver (fun j => j = k) g = 0 := by
  induction s with
  | nil => rfl
  | cons entry rest ih =>
    obtain ⟨j, w⟩ := entry
    simp only [keys, List.map_cons, List.mem_cons, not_or] at h
    rw [sumOver_cons, ih h.2, if_neg (by simpa using fun he : j = k => h.1 he.symm), add_zero]

/-- Under distinct keys the class of one key sums to the value under it. -/
theorem sumOver_of_get? {s : Shelf κ β} {k : κ} {v : β} (g : β → γ) (hs : s.keys.Nodup)
    (h : s.get? k = some v) : s.sumOver (fun j => j = k) g = g v := by
  induction s with
  | nil => simp [get?] at h
  | cons entry rest ih =>
    obtain ⟨j, w⟩ := entry
    simp only [keys, List.map_cons, List.nodup_cons] at hs
    simp only [get?] at h
    rw [sumOver_cons]
    by_cases hj : j = k
    · subst hj
      rw [if_pos rfl] at h
      rw [if_pos (by simp), sumOver_of_not_mem rest j g hs.1, add_zero, Option.some.inj h]
    · rw [if_neg hj] at h
      rw [if_neg (by simpa using hj), zero_add, ih hs.2 h]

end Shelf

namespace Registry

/-- One change of a registry. -/
inductive Act (α : Type) where
  | register (shape : Shape) (id : SeriesId)
  | count (id : SeriesId) (amount : UInt64)
  | move (id : SeriesId) (d : Direction)
  | observe (id : SeriesId) (value : α)

variable {α : Type}

/-- The series of a shape, in the order of their registration. -/
def keys (r : Registry α) : Shape → List SeriesId
  | .counter => r.counters.keys
  | .gauge => r.gauges.keys
  | .histogram => r.histograms.keys

theorem keys_emptied (r : Registry α) (shape : Shape) : r.emptied.keys shape = r.keys shape := by
  cases shape with
  | histogram => simp [emptied, keys, Shelf.keys]
  | _ => rfl

/-- Whether an act finds the series that it writes to. -/
def Knows (r : Registry α) : Act α → Prop
  | .register _ _ => True
  | .count id _ => id ∈ r.keys .counter
  | .move id _ => id ∈ r.keys .gauge
  | .observe id _ => id ∈ r.keys .histogram

/-! ### What series say -/

/-- The sum, in 64 bits, of the counters of a class. -/
def counted (r : Registry α) (p : SeriesId → Bool) : UInt64 := r.counters.sumOver p id

/-- The sum of the counters of a class, however large. -/
def summed (r : Registry α) (p : SeriesId → Bool) : Nat := r.counters.sumOver p UInt64.toNat

/-- The sum of all counters of a name that carry a filter, however large. -/
def counterTotal (r : Registry α) (name : String) (filter : List Label) : Nat :=
  r.summed fun id => id.name = name && carries id.labels filter

/-- The total of a counter, and zero when there is none. -/
def total (r : Registry α) (id : SeriesId) : UInt64 := (r.counter? id).getD 0

/-- The sum of the gauges of a class, in billionths. -/
def leveled (r : Registry Exact) (p : SeriesId → Bool) : Int :=
  r.gauges.sumOver p Exact.billionths

/-- The level of a gauge, and zero when there is none. -/
def level [Measure α] (r : Registry α) (id : SeriesId) : α := (r.gauge? id).getD Measure.zero

def waiting (r : Registry α) (id : SeriesId) : List α := (r.waiting? id).getD []

/-- What an act adds to the counters of a class. -/
def Act.amount (p : SeriesId → Bool) : Act α → UInt64
  | .count id amount => if p id then amount else 0
  | _ => 0

/-- How far an act moves the gauges of a class. -/
def Act.steps (p : SeriesId → Bool) : Act α → Int
  | .move id d => if p id then d.sign else 0
  | _ => 0

/-- The steps that an act makes of one gauge. -/
def Act.turns (id : SeriesId) : Act α → List Direction
  | .move j d => if j = id then [d] else []
  | _ => []

/-- What an act adds to a histogram. -/
def Act.values (id : SeriesId) : Act α → List α
  | .observe j value => if j = id then [value] else []
  | _ => []

theorem counter?_of_mem {r : Registry α} {id : SeriesId} (hr : (r.keys .counter).Nodup)
    (h : id ∈ r.keys .counter) : r.counter? id = some (r.counted fun j => j = id) := by
  obtain ⟨v, hv⟩ := Option.isSome_iff_exists.1 ((Shelf.isSome_get?_iff _ _).2 h)
  rw [counted, Shelf.sumOver_of_get? _ hr hv]
  exact hv

theorem counter?_eq_total {r : Registry α} {id : SeriesId} (h : id ∈ r.keys .counter) :
    r.counter? id = some (r.total id) := by
  obtain ⟨v, hv⟩ := Option.isSome_iff_exists.1 ((Shelf.isSome_get?_iff _ _).2 h)
  rw [total, counter?, hv, Option.getD_some]

theorem gauge?_of_mem [Measure α] {r : Registry α} {id : SeriesId} (h : id ∈ r.keys .gauge) :
    r.gauge? id = some (r.level id) := by
  obtain ⟨v, hv⟩ := Option.isSome_iff_exists.1 ((Shelf.isSome_get?_iff _ _).2 h)
  rw [level, gauge?, hv, Option.getD_some]

theorem waiting?_of_mem {r : Registry α} {id : SeriesId} (h : id ∈ r.keys .histogram) :
    r.waiting? id = some (r.waiting id) := by
  obtain ⟨v, hv⟩ := Option.isSome_iff_exists.1 ((Shelf.isSome_get?_iff _ _).2 h)
  rw [waiting, waiting?, hv, Option.getD_some]

/-- A counter that does not wrap around adds what it counts to the sum of its class. -/
theorem summed_count {r : Registry α} {id : SeriesId} {n : UInt64} (p : SeriesId → Bool)
    (h : id ∈ r.keys .counter) (hroom : (r.total id).toNat + n.toNat < 2 ^ 64) :
    (r.count id n).summed p = r.summed p + if p id then n.toNat else 0 := by
  refine Shelf.sumOver_modify_of_get? (· + n) p UInt64.toNat n.toNat (counter?_eq_total h) ?_
  rw [UInt64.toNat_add, Nat.mod_eq_of_lt hroom]

/-- A counter is no more than the sum of its class. -/
theorem total_le_summed (r : Registry α) (id : SeriesId) :
    (r.total id).toNat ≤ r.summed fun j => j = id := by
  rw [total, counter?, summed]
  induction r.counters with
  | nil => simp [Shelf.get?]
  | cons entry rest ih =>
    obtain ⟨j, n⟩ := entry
    rw [Shelf.get?, Shelf.sumOver_cons]
    by_cases hj : j = id
    · simp [hj]
    · simpa [hj] using ih

/-- Whatever is known to a registry is known to one with more series. -/
theorem Knows.mono {r t : Registry α} (h : ∀ s id, id ∈ r.keys s → id ∈ t.keys s) {a : Act α}
    (hr : r.Knows a) : t.Knows a := by
  cases a with
  | register shape id => trivial
  | count id amount => exact h _ _ hr
  | move id d => exact h _ _ hr
  | observe id value => exact h _ _ hr

/-! ### Acts -/

variable [Measure α]

def act (r : Registry α) : Act α → Registry α
  | .register shape id => r.register shape id
  | .count id amount => r.count id amount
  | .move id d => r.move id d
  | .observe id value => r.observe id value

def actAll (r : Registry α) (acts : List (Act α)) : Registry α := acts.foldl act r

/-- Every write of the list finds its series registered. -/
def Accepts (r : Registry α) : List (Act α) → Prop
  | [] => True
  | a :: rest => r.Knows a ∧ (r.act a).Accepts rest

theorem actAll_cons (r : Registry α) (a : Act α) (rest : List (Act α)) :
    r.actAll (a :: rest) = (r.act a).actAll rest := rfl

theorem actAll_append (r : Registry α) (a b : List (Act α)) :
    r.actAll (a ++ b) = (r.actAll a).actAll b := List.foldl_append

theorem accepts_append (r : Registry α) (a b : List (Act α)) :
    r.Accepts (a ++ b) ↔ r.Accepts a ∧ (r.actAll a).Accepts b := by
  induction a generalizing r with
  | nil => simp [Accepts, actAll]
  | cons x rest ih => simp only [List.cons_append, Accepts, actAll_cons, ih, and_assoc]

/-! ### Which series there are -/

theorem mem_keys_register (r : Registry α) (shape s : Shape) (j id : SeriesId) :
    id ∈ (r.register shape j).keys s ↔ id ∈ r.keys s ∨ s = shape ∧ id = j := by
  cases shape <;> cases s <;> simp only [register, keys, Shelf.keys_insertIfNew] <;> grind

/-- An act makes a series known only by registering it, and no act forgets one. -/
theorem mem_keys_act (r : Registry α) (a : Act α) (s : Shape) (id : SeriesId) :
    id ∈ (r.act a).keys s ↔ id ∈ r.keys s ∨ a = .register s id := by
  cases a with
  | register shape j =>
    rw [act, mem_keys_register, Act.register.injEq, eq_comm (a := shape), eq_comm (a := j)]
  | count j n => cases s <;> simp [act, count, keys, Shelf.keys_modify]
  | move j d => cases s <;> simp [act, move, keys, Shelf.keys_modify]
  | observe j v => cases s <;> simp [act, observe, keys, Shelf.keys_modify]

theorem mem_keys_actAll (r : Registry α) (acts : List (Act α)) (s : Shape) (id : SeriesId) :
    id ∈ (r.actAll acts).keys s ↔ id ∈ r.keys s ∨ .register s id ∈ acts := by
  induction acts generalizing r with
  | nil => simp [actAll]
  | cons a rest ih =>
    rw [actAll_cons, ih, mem_keys_act, List.mem_cons, or_assoc, eq_comm (a := a)]

theorem Accepts.mono {r t : Registry α} (h : ∀ s id, id ∈ r.keys s → id ∈ t.keys s)
    {acts : List (Act α)} (hr : r.Accepts acts) : t.Accepts acts := by
  induction acts generalizing r t with
  | nil => trivial
  | cons a rest ih =>
    refine ⟨hr.1.mono h, ih (fun s id hid => ?_) hr.2⟩
    rw [mem_keys_act] at hid ⊢
    exact hid.imp_left (h s id)

theorem nodup_keys_act (r : Registry α) (a : Act α) (h : ∀ s, (r.keys s).Nodup) (s : Shape) :
    ((r.act a).keys s).Nodup := by
  have hs := h s
  cases a with
  | register shape j =>
    cases shape <;> cases s <;>
      first | exact Shelf.nodup_keys_insertIfNew _ _ hs | exact hs
  | count j n => cases s <;> simpa [act, count, keys, Shelf.keys_modify] using hs
  | move j d => cases s <;> simpa [act, move, keys, Shelf.keys_modify] using hs
  | observe j v => cases s <;> simpa [act, observe, keys, Shelf.keys_modify] using hs

/-- No series is registered twice. -/
theorem nodup_keys_actAll (r : Registry α) (acts : List (Act α)) (h : ∀ s, (r.keys s).Nodup) :
    ∀ s, ((r.actAll acts).keys s).Nodup := by
  induction acts generalizing r with
  | nil => exact h
  | cons a rest ih => exact ih _ (nodup_keys_act r a h)

/-- Registering a known series changes nothing. -/
theorem register_eq_self_of_mem {r : Registry α} {shape : Shape} {id : SeriesId}
    (h : id ∈ r.keys shape) : r.register shape id = r := by
  cases shape with
  | counter =>
    obtain ⟨v, hv⟩ := Option.isSome_iff_exists.1 ((Shelf.isSome_get?_iff _ _).2 h)
    exact register_eq_self_of_counter? hv
  | gauge =>
    obtain ⟨v, hv⟩ := Option.isSome_iff_exists.1 ((Shelf.isSome_get?_iff _ _).2 h)
    exact register_eq_self_of_gauge? hv
  | histogram =>
    obtain ⟨v, hv⟩ := Option.isSome_iff_exists.1 ((Shelf.isSome_get?_iff _ _).2 h)
    exact register_eq_self_of_waiting? hv

/-! ### What acts add to what series say -/

theorem billionths_stepped (d : Direction) (x : Exact) :
    (stepped d x).billionths = x.billionths + nanosPerSecond * d.sign := by
  cases d
  · show x.billionths + _ = _
    simp [Direction.sign]
  · show x.billionths - _ = _
    simp [Direction.sign, Int.sub_eq_add_neg]

theorem summed_register (r : Registry α) (shape : Shape) (id : SeriesId)
    (p : SeriesId → Bool) : (r.register shape id).summed p = r.summed p := by
  cases shape with
  | counter => exact Shelf.sumOver_insertIfNew _ _ _ _ _ rfl
  | gauge => rfl
  | histogram => rfl

theorem counted_act {r : Registry α} {a : Act α} (p : SeriesId → Bool) (h : r.Knows a) :
    (r.act a).counted p = r.counted p + a.amount p := by
  cases a with
  | register shape j =>
    show _ = _ + 0
    rw [add_zero]
    cases shape with
    | counter => exact Shelf.sumOver_insertIfNew _ _ _ _ _ rfl
    | gauge => rfl
    | histogram => rfl
  | count j n => exact Shelf.sumOver_modify _ _ _ _ _ n (fun _ => rfl) h
  | move j d => exact (add_zero _).symm
  | observe j v => exact (add_zero _).symm

/-- Accepted acts add up in every class of counters. -/
theorem counted_actAll {r : Registry α} {acts : List (Act α)} (p : SeriesId → Bool)
    (h : r.Accepts acts) :
    (r.actAll acts).counted p = r.counted p + (acts.map (Act.amount p)).sum := by
  induction acts generalizing r with
  | nil => exact (add_zero _).symm
  | cons a rest ih =>
    rw [actAll_cons, ih h.2, counted_act p h.1, List.map_cons, List.sum_cons, add_assoc]

theorem total_act {r : Registry α} {a : Act α} (id : SeriesId) (h : r.Knows a) :
    (r.act a).total id = r.total id + a.amount fun j => j = id := by
  cases a with
  | register shape j =>
    show _ = _ + 0
    rw [add_zero]
    cases shape with
    | counter =>
      simp only [total, counter?, act, register, Shelf.get?_insertIfNew]
      split
      · next he => rw [he, Option.getD_some]
      · rfl
    | gauge => rfl
    | histogram => rfl
  | count j n =>
    obtain ⟨v, hv⟩ := Option.isSome_iff_exists.1 ((Shelf.isSome_get?_iff _ _).2 h)
    simp only [total, act, counter?_count, Act.amount, eq_comm (a := j), decide_eq_true_eq]
    split
    · next he => simp [he, counter?, hv]
    · rw [add_zero]
  | move j d => exact (add_zero _).symm
  | observe j v => exact (add_zero _).symm

/-- Accepted acts add up in each counter. -/
theorem total_actAll {r : Registry α} {acts : List (Act α)} (id : SeriesId)
    (h : r.Accepts acts) :
    (r.actAll acts).total id = r.total id + (acts.map (Act.amount fun j => j = id)).sum := by
  induction acts generalizing r with
  | nil => exact (add_zero _).symm
  | cons a rest ih =>
    rw [actAll_cons, ih h.2, total_act id h.1, List.map_cons, List.sum_cons, add_assoc]

theorem leveled_act {r : Registry Exact} {a : Act Exact} (p : SeriesId → Bool) (h : r.Knows a) :
    (r.act a).leveled p = r.leveled p + nanosPerSecond * a.steps p := by
  cases a with
  | register shape j =>
    show _ = _ + (nanosPerSecond : Int) * 0
    rw [mul_zero, add_zero]
    cases shape with
    | counter => rfl
    | gauge => exact Shelf.sumOver_insertIfNew _ _ _ _ _ rfl
    | histogram => rfl
  | count j n => simp [Act.steps, act, count, leveled]
  | move j d =>
    have := Shelf.sumOver_modify r.gauges j (stepped d) p Exact.billionths _
      (billionths_stepped d) h
    rw [Act.steps, mul_ite, mul_zero]
    exact this
  | observe j v => simp [Act.steps, act, observe, leveled]

/-- Accepted acts add up in every class of gauges. -/
theorem leveled_actAll {r : Registry Exact} {acts : List (Act Exact)} (p : SeriesId → Bool)
    (h : r.Accepts acts) :
    (r.actAll acts).leveled p = r.leveled p + nanosPerSecond * (acts.map (Act.steps p)).sum := by
  induction acts generalizing r with
  | nil => simp [actAll]
  | cons a rest ih =>
    rw [actAll_cons, ih h.2, leveled_act p h.1, List.map_cons, List.sum_cons, mul_add, add_assoc]

/-- A gauge after some steps, the first of them first. -/
def paced (level : α) (turns : List Direction) : α := turns.foldl (fun x d => stepped d x) level

theorem level_act {r : Registry α} {a : Act α} (id : SeriesId) (h : r.Knows a) :
    (r.act a).level id = paced (r.level id) (a.turns id) := by
  cases a with
  | register shape j =>
    cases shape with
    | counter => rfl
    | gauge =>
      simp only [level, gauge?, act, register, Shelf.get?_insertIfNew]
      split
      · next he => rw [he, Option.getD_some]; rfl
      · rfl
    | histogram => rfl
  | count j n => rfl
  | move j d =>
    obtain ⟨x, hx⟩ := Option.isSome_iff_exists.1 ((Shelf.isSome_get?_iff _ _).2 h)
    simp only [level, gauge?, act, move, Shelf.get?_modify, Act.turns, eq_comm (a := j)]
    split
    · next he => simp [he, hx, paced]
    · rfl
  | observe j v => rfl

/-- Accepted acts step each gauge in order. -/
theorem level_actAll {r : Registry α} {acts : List (Act α)} (id : SeriesId)
    (h : r.Accepts acts) :
    (r.actAll acts).level id = paced (r.level id) (acts.flatMap (Act.turns id)) := by
  induction acts generalizing r with
  | nil => rfl
  | cons a rest ih =>
    rw [actAll_cons, ih h.2, level_act id h.1, List.flatMap_cons, paced, paced, paced,
      List.foldl_append]

/-- The steps of an exact gauge add up. -/
theorem paced_exact (x : Exact) (turns : List Direction) :
    paced x turns = ⟨x.billionths + nanosPerSecond * (turns.map Direction.sign).sum⟩ := by
  induction turns generalizing x with
  | nil => simp [paced]
  | cons d rest ih =>
    show paced (stepped d x) rest = _
    rw [ih, billionths_stepped, List.map_cons, List.sum_cons, mul_add, add_assoc]

/-- Numbers that keep pace with the integers as long as these stay within a bound. -/
structure KeepsPace (ofInt : Int → α) (bound : Nat) : Prop where
  zero : Measure.zero = ofInt 0
  step : ∀ n d, n.natAbs < bound → stepped d (ofInt n) = ofInt (n + d.sign)

/-- Within the bound the steps of a gauge add up. -/
theorem KeepsPace.paced {ofInt : Int → α} {bound : Nat} (h : KeepsPace ofInt bound) {n : Int}
    {turns : List Direction} (hn : n.natAbs + turns.length ≤ bound) :
    paced (ofInt n) turns = ofInt (n + (turns.map Direction.sign).sum) := by
  induction turns generalizing n with
  | nil => simp [Registry.paced]
  | cons d rest ih =>
    rw [List.length_cons] at hn
    have hsign : d.sign = 1 ∨ d.sign = -1 := by cases d <;> simp [Direction.sign]
    have hstep := h.step n d (by omega)
    have hrest := ih (n := n + d.sign) (by omega)
    rw [Registry.paced, List.foldl_cons, hstep]
    show Registry.paced _ rest = _
    rw [hrest, List.map_cons, List.sum_cons, add_assoc]

theorem keepsPace_exact (bound : Nat) : KeepsPace Exact.ofInt bound := by
  refine ⟨rfl, fun n d _ => ?_⟩
  cases d with
  | up => exact Exact.up_ofInt n
  | down => exact Exact.down_ofInt n

theorem waiting_act {r : Registry α} {a : Act α} (id : SeriesId) (h : r.Knows a) :
    (r.act a).waiting id = r.waiting id ++ a.values id := by
  cases a with
  | register shape j =>
    show _ = _ ++ []
    rw [List.append_nil]
    cases shape with
    | counter => rfl
    | gauge => rfl
    | histogram =>
      simp only [waiting, waiting?, act, register, Shelf.get?_insertIfNew]
      split
      · next he => rw [he, Option.getD_some]
      · rfl
  | count j n => simp [Act.values, act, count, waiting, waiting?]
  | move j d => simp [Act.values, act, move, waiting, waiting?]
  | observe j v =>
    obtain ⟨values, hv⟩ := Option.isSome_iff_exists.1 ((Shelf.isSome_get?_iff _ _).2 h)
    simp only [waiting, act, waiting?_observe, Act.values, eq_comm (a := j)]
    split
    · next he => simp [he, waiting?, hv]
    · rw [List.append_nil]

/-- Accepted acts add their observations to each histogram, in order. -/
theorem waiting_actAll {r : Registry α} {acts : List (Act α)} (id : SeriesId)
    (h : r.Accepts acts) :
    (r.actAll acts).waiting id = r.waiting id ++ acts.flatMap (Act.values id) := by
  induction acts generalizing r with
  | nil => simp [actAll]
  | cons a rest ih =>
    rw [actAll_cons, ih h.2, waiting_act id h.1, List.flatMap_cons, List.append_assoc]

end Registry
end Roomwatch
