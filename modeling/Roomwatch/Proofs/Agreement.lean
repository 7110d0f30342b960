import Mathlib
import Roomwatch.Proofs.Accounts

/-! The tally agrees with the series.

A reporter keeps the same accounts twice: in its series, which split published and
subscribed tracks, attempts, successes and failures over ever more kinds and texts,
and in nine numbers of 32 bits. `Agrees` says how the two views fit: each number is
what its series add up to, cut down to 32 bits, and the failures for which a user is
to blame are no more than all of them. `agrees_run`: they fit after every history,
since every event moves the two views alike. -/
namespace Roomwatch

open Number (Measure Exact nanosPerSecond)
open Registry (keepsPace_exact)

/-! ### The tally of a history -/

/-- How far an event moves a field of the tally. -/
def Event.tallied (field : Tally.Field) : Event → Int
  | .roomStarted => if field = .rooms then 1 else 0
  | .roomEnded _ => if field = .rooms then -1 else 0
  | .participantJoined => if field = .participants then 1 else 0
  | .participantLeft => if field = .participants then -1 else 0
  | .trackPublished _ => if field = .published then 1 else 0
  | .trackUnpublished _ => if field = .published then -1 else 0
  | .publishAttempted _ => if field = .publishAttempts then 1 else 0
  | .publishSucceeded _ => if field = .publishSuccesses then 1 else 0
  | .subscribeAttempted => if field = .subscribeAttempts then 1 else 0
  | .subscribed _ => if field = .subscribed ∨ field = .subscribeSuccesses then 1 else 0
  | .unsubscribed _ => if field = .subscribed then -1 else 0
  | .subscribeFailed _ byUser => if field = .userErrors ∧ byUser then 1 else 0
  | .subscribeRefused reason => if field = .userErrors ∧ reason.byUser then 1 else 0

theorem Event.sum_tallied (field : Tally.Field) (now : Instant) (e : Event) :
    ((e.updates now).map (Update.tallied field)).sum = e.tallied field := by
  cases e with
  | roomEnded start =>
    rw [sum_updates_roomEnded _ _ _ (fun _ => rfl) (fun _ _ => rfl)]
    cases field <;> rfl
  | subscribeFailed error byUser =>
    rw [updates, sum_failure _ _ _ (fun _ => rfl)]
    cases field <;> cases byUser <;> rfl
  | subscribeRefused reason =>
    rw [updates, sum_failure _ _ _ (fun _ => rfl)]
    cases field <;> cases reason <;> rfl
  | _ => cases field <;> rfl

namespace Desk
variable {α : Type} [Measure α]

theorem change_eq_ofInt (d : Direction) : Tally.change d = Int32.ofInt d.sign := by
  cases d <;> rfl

theorem tally_apply (keeps : Outlet → Bool) (d : Desk α) (u : Update) (field : Tally.Field) :
    (d.apply keeps u).tally.get field = d.tally.get field + Int32.ofInt (u.tallied field) := by
  cases u with
  | tally f direction =>
    simp only [apply, Tally.get_step, change_eq_ofInt, Update.tallied, eq_comm (a := field)]
    split <;> rfl
  | acquire o =>
    have : (d.acquire keeps o).tally = d.tally := by
      unfold acquire
      split <;> rfl
    rw [apply, this]
    exact (Int32.add_zero _).symm
  | _ => exact (Int32.add_zero _).symm

theorem tally_applyAll (keeps : Outlet → Bool) (d : Desk α) (updates : List Update)
    (field : Tally.Field) :
    (d.applyAll keeps updates).tally.get field =
      d.tally.get field + Int32.ofInt (updates.map (Update.tallied field)).sum := by
  induction updates generalizing d with
  | nil => exact (Int32.add_zero _).symm
  | cons u rest ih =>
    show ((d.apply keeps u).applyAll keeps rest).tally.get field = _
    rw [ih, tally_apply, List.map_cons, List.sum_cons, Int32.ofInt_add, Int32.add_assoc]

/-- The tally of a reporter is what the calls of its history add up to. -/
theorem tally_run (keeps : Outlet → Bool) (s : Settings) (exposed : Bool) (recorder : Recorder α)
    (h : History) (field : Tally.Field) :
    ((opened keeps s exposed recorder).run keeps h).tally.get field =
      Int32.ofInt (h.map fun timed => timed.2.tallied field).sum := by
  have opening : (opened keeps s exposed recorder).tally.get field = 0 := by
    rw [opened_eq, tally_applyAll]
    show Tally.get {} field + Int32.ofInt 0 = 0
    cases field <;> rfl
  rw [run_eq_applyAll, tally_applyAll, opening, Int32.zero_add]
  congr 1
  induction h with
  | nil => rfl
  | cons timed rest ih =>
    rw [List.flatMap_cons, List.map_append, List.sum_append, ih, Event.sum_tallied, List.map_cons,
      List.sum_cons]

end Desk

/-! ### Sums over series -/

namespace Registry

/-- The sum of all gauges of a name. -/
def gaugeSum {α : Type} [Measure α] (r : Registry α) (name : String) : α :=
  (r.gauges.filter fun entry => entry.1.name = name).foldl
    (fun total entry => Measure.add total entry.2) Measure.zero

theorem counterSum_eq_counted {α : Type} (r : Registry α) (name : String) (filter : List Label) :
    r.counterSum name filter = r.counted fun id => id.name = name && carries id.labels filter := by
  rw [counterSum, counted, Shelf.sumOver, List.sum_eq_foldl, List.foldl_map]
  rfl

/-- A sum of counters that fits into 64 bits does not wrap around. -/
theorem toNat_counterSum {α : Type} (r : Registry α) (name : String) (filter : List Label)
    (h : r.counterTotal name filter < 2 ^ 64) :
    (r.counterSum name filter).toNat = r.counterTotal name filter := by
  rw [counterSum_eq_counted, counted]
  rw [counterTotal, summed] at h ⊢
  generalize (fun id : SeriesId => decide (id.name = name) && carries id.labels filter) = p at h ⊢
  generalize r.counters = counters at h ⊢
  induction counters with
  | nil => rfl
  | cons entry rest ih =>
    obtain ⟨series, total⟩ := entry
    rw [Shelf.sumOver_cons] at h
    have hrest := ih (by omega)
    have hfirst : (if p series then id total else 0).toNat = if p series then total.toNat else 0 :=
      apply_ite UInt64.toNat _ _ _
    rw [Shelf.sumOver_cons, Shelf.sumOver_cons, UInt64.toNat_add, hrest, hfirst]
    exact Nat.mod_eq_of_lt h

theorem gaugeSum_eq_leveled (r : Registry Exact) (name : String) :
    r.gaugeSum name = ⟨r.leveled fun id => id.name = name⟩ := by
  have (entries : List (SeriesId × Exact)) (total : Exact) :
      entries.foldl (fun total entry => Measure.add total entry.2) total =
        ⟨total.billionths + (entries.map fun entry => entry.2.billionths).sum⟩ := by
    induction entries generalizing total with
    | nil => simp
    | cons entry rest ih =>
      rw [List.foldl_cons, ih, List.map_cons, List.sum_cons, ← add_assoc]
      rfl
  rw [gaugeSum, this]
  show Exact.mk (0 + _) = _
  rw [zero_add]
  rfl

end Registry

/-! ### The two views -/

/-- How many subscriptions failed. -/
def History.refusals (h : History) : Nat := h.countP fun timed => timed.2.failure?.isSome

/-- How the tally of a reporter fits the series of its registry. -/
structure Agrees (s : Settings) (h : History) (r : Registry Exact) (t : Tally) : Prop where
  rooms : ∃ n : Int, r.gauge? (s.series "room_total" []) = some (Exact.ofInt n) ∧
    t.rooms = Int32.ofInt n
  participants : ∃ n : Int, r.gauge? (s.series "participant_total" []) = some (Exact.ofInt n) ∧
    t.participants = Int32.ofInt n
  published : ∃ n : Int, r.gaugeSum (s.metricName "track" "published_total") = Exact.ofInt n ∧
    t.published = Int32.ofInt n
  subscribed : ∃ n : Int, r.gaugeSum (s.metricName "track" "subscribed_total") = Exact.ofInt n ∧
    t.subscribed = Int32.ofInt n
  publishAttempts : t.publishAttempts = Int32.ofNat
    (r.counterSum (s.metricName "track" "publish_counter") [("state", "attempt")]).toNat
  publishSuccesses : t.publishSuccesses = Int32.ofNat
    (r.counterSum (s.metricName "track" "publish_counter") [("state", "success")]).toNat
  subscribeAttempts : ∃ n : UInt64,
    r.counter? (s.series "track_subscribe_counter" [("state", "attempt"), ("error", "")]) = some n ∧
      t.subscribeAttempts = Int32.ofNat n.toNat
  subscribeSuccesses : ∃ n : UInt64,
    r.counter? (s.series "track_subscribe_counter" [("state", "success"), ("error", "")]) = some n ∧
      t.subscribeSuccesses = Int32.ofNat n.toNat
  userErrors : h.refusals < 2 ^ 64 → t.userErrors.toInt ≤
    (r.counterSum (s.metricName "track" "subscribe_counter") [("state", "failure")]).toNat

/-! ### Classes of outlets -/

theorem name_id_eq_iff (s : Settings) (o : Outlet) (m : Metric) :
    (o.id s).name = m.name s ↔ o.metric = m := Metric.name_inj s o.metric m

/-- No label of a node's identity is a state. -/
theorem carries_state (s : Settings) (o : Outlet) (state : String) :
    Registry.carries (o.id s).labels [("state", state)] = o.labels.contains ("state", state) := by
  simp [Registry.carries, Outlet.id, Settings.identity]

/-- A counter cut down to 32 bits says what its count says, cut down. -/
theorem ofNat_toNat_ofNat (n : Nat) : Int32.ofNat (UInt64.ofNat n).toNat = Int32.ofInt n := by
  have hmod : n % 2 ^ 64 % 2 ^ 32 = n % 2 ^ 32 := Nat.mod_mod_of_dvd n (by decide)
  rw [UInt64.toNat_ofNat', ← Int32.ofInt_eq_ofNat, ← Int32.toInt_inj, Int32.toInt_ofInt,
    Int32.toInt_ofInt, Int.bmod_def, Int.bmod_def]
  simp only [Int32.size]
  omega

/-- A count cut down to 32 bits says no more than the count. -/
theorem toInt_ofInt_le (n : Nat) : (Int32.ofInt n).toInt ≤ n := by
  rw [Int32.toInt_ofInt, Int.bmod_def, ← Int.natCast_emod]
  have hmod : n % Int32.size ≤ n := Nat.mod_le n _
  split <;> omega

/-! ### Every event moves both views alike -/

section Views
variable (s : Settings) (h : History) {f : Tally.Field}

/-- A gauge and a field that every event moves alike. -/
theorem gauge?_agrees {o : Outlet} (ho : Booked s h .gauge (o.id s))
    (hf : ∀ e : Event, (e.moved fun p => p = o) = e.tallied f) :
    (Desk.booked Exact s h).gauge? (o.id s) =
      some (Exact.ofInt (h.map fun timed => timed.2.tallied f).sum) := by
  simp only [gauge?_booked s h (keepsPace_exact h.length) (le_refl _) ho, hf]

/-- The gauges of a metric and a field that every event moves alike. -/
theorem gaugeSum_agrees {m : Metric}
    (hf : ∀ e : Event, (e.moved fun o => o.metric = m) = e.tallied f) :
    (Desk.booked Exact s h).gaugeSum (m.name s) =
      Exact.ofInt (h.map fun timed => timed.2.tallied f).sum := by
  rw [Registry.gaugeSum_eq_leveled, leveled_booked]
  simp only [name_id_eq_iff, hf]
  rfl

/-- A count and a field that every event moves alike. -/
theorem total_agrees {p : Outlet → Bool} (hf : ∀ e : Event, (e.counted p : Int) = e.tallied f) :
    Int32.ofNat (UInt64.ofNat (h.map fun timed => timed.2.counted p).sum).toNat =
      Int32.ofInt (h.map fun timed => timed.2.tallied f).sum := by
  rw [ofNat_toNat_ofNat]
  congr 1
  rw [Nat.cast_list_sum, List.map_map]
  congr 1
  exact List.map_congr_left fun timed _ => hf timed.2

/-- A counter and a field that every event counts alike. -/
theorem counter?_agrees {o : Outlet} (ho : Booked s h .counter (o.id s))
    (hf : ∀ e : Event, (e.counted fun p => p = o : Int) = e.tallied f) :
    ∃ n, (Desk.booked Exact s h).counter? (o.id s) = some n ∧
      Int32.ofInt (h.map fun timed => timed.2.tallied f).sum = Int32.ofNat n.toNat :=
  ⟨_, counter?_booked s h ho, (total_agrees h hf).symm⟩

/-- The counters of a metric that are in a state count in that class of outlets. -/
theorem counterSum_booked (m : Metric) (state : String) :
    (Desk.booked Exact s h).counterSum (m.name s) [("state", state)] =
      UInt64.ofNat (h.map fun timed =>
        timed.2.counted fun o => o.metric = m && o.labels.contains ("state", state)).sum := by
  rw [Registry.counterSum_eq_counted, counted_booked]
  simp only [name_id_eq_iff, carries_state]

/-- The counters of a metric in a state, and a field that every event counts alike. -/
theorem counterSum_agrees {m : Metric} {state : String}
    (hf : ∀ e : Event,
      (e.counted fun o => o.metric = m && o.labels.contains ("state", state) : Int) =
        e.tallied f) :
    Int32.ofInt (h.map fun timed => timed.2.tallied f).sum =
      Int32.ofNat ((Desk.booked Exact s h).counterSum (m.name s) [("state", state)]).toNat := by
  rw [counterSum_booked]
  exact (total_agrees h hf).symm

end Views

/-- Only a failure is put down to a user. -/
theorem Event.tallied_userErrors (e : Event) :
    ∃ n : Nat, e.tallied .userErrors = n ∧ n ≤ if e.failure?.isSome then 1 else 0 := by
  cases e with
  | subscribeFailed error byUser => exact ⟨byUser.toNat, by cases byUser <;> rfl, Bool.toNat_le _⟩
  | subscribeRefused reason =>
    exact ⟨reason.byUser.toNat, by cases reason <;> rfl, Bool.toNat_le _⟩
  | _ => exact ⟨0, rfl, Nat.zero_le _⟩

/-- Failures for which the user is to blame are failures. -/
theorem tallied_userErrors_le (h : History) :
    ∃ n : Nat, (h.map fun timed => timed.2.tallied .userErrors).sum = n ∧ n ≤ h.refusals := by
  induction h with
  | nil => exact ⟨0, rfl, Nat.le_refl 0⟩
  | cons timed rest ih =>
    obtain ⟨later, hlater, hle⟩ := ih
    obtain ⟨first, hfirst, hone⟩ := timed.2.tallied_userErrors
    refine ⟨first + later, ?_, ?_⟩
    · rw [List.map_cons, List.sum_cons, hfirst, hlater, Nat.cast_add]
    · rw [History.refusals, List.countP_cons, ← History.refusals]
      omega

/-- The failures of a history are counted in the failed state. -/
theorem sum_failed (h : History) :
    (h.map fun timed => timed.2.counted fun o =>
      o.metric = .subscribing && o.labels.contains ("state", "failure")).sum = h.refusals := by
  refine sum_eq_countP h _ _ ?_
  intro timed
  obtain ⟨now, e⟩ := timed
  cases e <;> simp [Event.counted, Event.failure?, Outlet.metric, Outlet.labels, attemptLabel,
    successLabel, failureLabel]

/-- **The two views of a reporter agree after every history**, when it alone writes to a new
recorder. -/
theorem agrees_run (keeps : Outlet → Bool) (s : Settings) (exposed : Bool) (h : History) :
    let d : Desk Exact := (Desk.opened keeps s exposed {}).run keeps h
    Agrees s h d.recorder.registry d.tally := by
  intro d
  have tally (f : Tally.Field) :
      d.tally.get f = Int32.ofInt (h.map fun timed => timed.2.tallied f).sum :=
    Desk.tally_run keeps s exposed {} h f
  rw [show d.recorder.registry = Desk.booked Exact s h from
    (Desk.registry_life keeps s exposed {} h).2]
  have booked {o : Outlet} (ho : o ∈ Outlet.fixed) : Booked s h o.shape (o.id s) :=
    (booked_iff s h _ _).2 ⟨o, acquired_of_fixed h ho, rfl, rfl⟩
  constructor
  case rooms =>
    refine ⟨_, ?_, tally .rooms⟩
    have := gauge?_agrees s h (f := .rooms) (booked (o := .rooms) (by decide))
      (by intro e; cases e <;> rfl)
    rwa [Outlet.id_eq_series] at this
  case participants =>
    refine ⟨_, ?_, tally .participants⟩
    have := gauge?_agrees s h (f := .participants) (booked (o := .participants) (by decide))
      (by intro e; cases e <;> rfl)
    rwa [Outlet.id_eq_series] at this
  case published =>
    exact ⟨_, gaugeSum_agrees s h (m := .published) (by intro e; cases e <;> rfl),
      tally .published⟩
  case subscribed =>
    exact ⟨_, gaugeSum_agrees s h (m := .subscribed) (by intro e; cases e <;> rfl),
      tally .subscribed⟩
  case publishAttempts =>
    refine (tally .publishAttempts).trans (counterSum_agrees s h (m := .publishing) ?_)
    intro e
    cases e <;> simp [Event.counted, Event.tallied, Outlet.metric, Outlet.labels, attemptLabel,
      successLabel, failureLabel]
  case publishSuccesses =>
    refine (tally .publishSuccesses).trans (counterSum_agrees s h (m := .publishing) ?_)
    intro e
    cases e <;> simp [Event.counted, Event.tallied, Outlet.metric, Outlet.labels, attemptLabel,
      successLabel, failureLabel]
  case subscribeAttempts =>
    obtain ⟨n, hn, ht⟩ := counter?_agrees s h (f := .subscribeAttempts)
      (booked (o := .subscribeAttempts) (by decide)) (by intro e; cases e <;> rfl)
    rw [Outlet.id_eq_series] at hn
    exact ⟨n, hn, (tally .subscribeAttempts).trans ht⟩
  case subscribeSuccesses =>
    obtain ⟨n, hn, ht⟩ := counter?_agrees s h (f := .subscribeSuccesses)
      (booked (o := .subscribeSuccesses) (by decide)) (by intro e; cases e <;> rfl)
    rw [Outlet.id_eq_series] at hn
    exact ⟨n, hn, (tally .subscribeSuccesses).trans ht⟩
  case userErrors =>
    intro hfew
    obtain ⟨n, hn, hle⟩ := tallied_userErrors_le h
    have hsum : ((Desk.booked Exact s h).counterSum (s.metricName "track" "subscribe_counter")
        [("state", "failure")]).toNat = h.refusals := by
      rw [show s.metricName "track" "subscribe_counter" = Metric.subscribing.name s from rfl,
        counterSum_booked, sum_failed, UInt64.toNat_ofNat_of_lt' hfew]
    have ht : d.tally.userErrors = Int32.ofInt n := hn ▸ tally .userErrors
    rw [ht, hsum]
    exact (toInt_ofInt_le n).trans (by exact_mod_cast hle)

end Roomwatch
