import Mathlib
import Roomwatch.Proofs.Bookings
import Roomwatch.Proofs.Requests

/-! How often a reporter registers series.

A reporter registers its five fixed series when it is opened. From then on it registers
the series of a known track kind at its first use, those of other kinds and of failed
subscriptions at every use, and nothing else (`requests_heard`). What it has asked for
up to some point and what it asks for later add up (`requests_append`), because what it
holds by then is what it keeps of the outlets that it has acquired. -/
namespace Roomwatch

open Number (Measure)

/-! ### What is heard of tracks -/

namespace Event

/-- The kind of a track that was published or is so no longer. -/
def published? : Event → Option String
  | .trackPublished kind | .trackUnpublished kind => some kind
  | _ => none

/-- The kind of a track that was subscribed to or is so no longer. -/
def subscription? : Event → Option String
  | .subscribed kind | .unsubscribed kind => some kind
  | _ => none

/-- The kind of a track whose publication was attempted. -/
def attempted? : Event → Option String
  | .publishAttempted kind => some kind
  | _ => none

/-- The kind of a track whose publication succeeded. -/
def succeeded? : Event → Option String
  | .publishSucceeded kind => some kind
  | _ => none

end Event

/-- How often series are registered for tracks of some kinds: once for each known kind, and
every time for any other one. -/
def registrations (kinds : List String) : Nat :=
  (TrackKind.all.countP fun known => known.label ∈ kinds) +
    kinds.countP fun kind => !TrackKind.isKnown kind

/-- How often a reporter registers gauges for what it has heard. -/
def gaugesFor (heard : List Event) : Nat :=
  registrations (heard.filterMap Event.published?) +
    registrations (heard.filterMap Event.subscription?)

/-- How often a reporter registers counters for what it has heard. -/
def countersFor (heard : List Event) : Nat :=
  registrations (heard.filterMap Event.attempted?) +
    registrations (heard.filterMap Event.succeeded?) +
    heard.countP fun e => e.failure?.isSome

/-- The outlets that a reporter has acquired, the fixed ones first. -/
def acquiredBy (heard : List Event) : List Outlet :=
  Outlet.fixed ++ heard.filterMap Event.acquired?

/-- How often a reporter registers series of a shape for what it has heard. -/
def requests (shape : Shape) (heard : List Event) : Nat :=
  (asked Outlet.isKept [] (acquiredBy heard)).countP fun o => o.shape = shape

/-! ### One more use -/

/-- A known kind that was used before is registered already. -/
theorem registrations_concat (kinds : List String) (kind : String) :
    registrations (kinds ++ [kind]) =
      registrations kinds + if TrackKind.isKnown kind ∧ kind ∈ kinds then 0 else 1 := by
  have hlabel (known : TrackKind) :
      known.label ∈ kinds ++ [kind] ↔ known.label ∈ kinds ∨ known.label = kind := by simp
  by_cases hknown : TrackKind.isKnown kind = true
  · obtain ⟨known, -, hkind⟩ := List.any_eq_true.1 hknown
    obtain rfl : known.label = kind := by simpa using hkind
    have hothers : TrackKind.all.countP (fun other => other.label ∈ kinds ++ [known.label]) =
        TrackKind.all.countP (fun other => other.label ∈ kinds) +
          if known.label ∈ kinds then 0 else 1 := by
      simp only [hlabel]
      cases known <;> simp [TrackKind.all, List.countP_cons, TrackKind.label] <;> grind
    rw [registrations, registrations, hothers, List.countP_append]
    simp [hknown]
    omega
  · have hothers : TrackKind.all.countP (fun known => known.label ∈ kinds ++ [kind]) =
        TrackKind.all.countP fun known => known.label ∈ kinds := by
      refine List.countP_congr fun known hmem => ?_
      have hne : known.label ≠ kind := fun he =>
        hknown (List.any_eq_true.2 ⟨known, hmem, by simpa using he⟩)
      simp [hne]
    rw [registrations, registrations, hothers, List.countP_append]
    simp [hknown]
    omega

/-- What is asked for later depends on what is held by then. -/
theorem asked_append (keeps : Outlet → Bool) (held first more : List Outlet)
    (h : ∀ o, o ∈ held ↔ keeps o = true ∧ o ∈ first) :
    (asked keeps [] (first ++ more)).Perm (asked keeps [] first ++ asked keeps held more) := by
  rw [List.perm_iff_count]
  intro o
  rw [List.count_append, count_asked, count_asked, count_asked, List.count_append]
  simp only [List.not_mem_nil, if_false, h]
  by_cases ho : o ∈ first
  · have hpos : 0 < first.count o := List.count_pos_iff.2 ho
    cases keeps o <;> simp [ho]
    omega
  · have hzero : first.count o = 0 := List.count_eq_zero.2 ho
    cases keeps o <;> simp [ho, hzero]

theorem countP_asked_concat (p : Outlet → Bool) (outlets : List Outlet) (o : Outlet) :
    (asked Outlet.isKept [] (outlets ++ [o])).countP p =
      (asked Outlet.isKept [] outlets).countP p +
        if o.isKept ∧ o ∈ outlets then 0 else if p o then 1 else 0 := by
  have hperm := asked_append Outlet.isKept (outlets.filter Outlet.isKept) outlets [o]
    fun q => List.mem_filter.trans and_comm
  rw [hperm.countP_eq, List.countP_append]
  congr 1
  by_cases ho : o.isKept = true ∧ o ∈ outlets
  · simp [asked, ho]
  · have hfree : o ∉ outlets.filter Outlet.isKept := fun hmem =>
      ho (List.mem_filter.1 hmem).symm
    rw [if_neg ho, asked, if_neg hfree]
    simp [asked, List.countP_cons]

/-! ### What a reporter registers -/

section Heard
variable (heard : List Event) (kind : String)

/-- The outlets of a sort that were acquired are those of the kinds that were heard of. -/
theorem mem_acquiredBy {o : String → Outlet} {f : Event → Option String}
    (hfree : ∀ kind, o kind ∉ Outlet.fixed)
    (hf : ∀ e kind, e.acquired? = some (o kind) ↔ f e = some kind) :
    o kind ∈ acquiredBy heard ↔ kind ∈ heard.filterMap f := by
  simp only [acquiredBy, List.mem_append, hfree, false_or, List.mem_filterMap, hf]

theorem published_mem_acquiredBy :
    .published kind ∈ acquiredBy heard ↔ kind ∈ heard.filterMap Event.published? :=
  mem_acquiredBy heard kind (by simp [Outlet.fixed]) fun e _ => by
    cases e <;> simp [Event.acquired?, Event.published?]

theorem subscribed_mem_acquiredBy :
    .subscribed kind ∈ acquiredBy heard ↔ kind ∈ heard.filterMap Event.subscription? :=
  mem_acquiredBy heard kind (by simp [Outlet.fixed]) fun e _ => by
    cases e <;> simp [Event.acquired?, Event.subscription?]

theorem publishAttempts_mem_acquiredBy :
    .publishAttempts kind ∈ acquiredBy heard ↔ kind ∈ heard.filterMap Event.attempted? :=
  mem_acquiredBy heard kind (by simp [Outlet.fixed]) fun e _ => by
    cases e <;> simp [Event.acquired?, Event.attempted?]

theorem publishSuccesses_mem_acquiredBy :
    .publishSuccesses kind ∈ acquiredBy heard ↔ kind ∈ heard.filterMap Event.succeeded? :=
  mem_acquiredBy heard kind (by simp [Outlet.fixed]) fun e _ => by
    cases e <;> simp [Event.acquired?, Event.succeeded?]

end Heard

theorem Outlet.isKept_eq_isKnown {o : Outlet} {kind : String} (h : o.kind? = some kind) :
    o.isKept = TrackKind.isKnown kind := by
  cases o <;> simp_all [Outlet.isKept, Outlet.isFixed, Outlet.fixed, Outlet.kind?]

theorem registrations_heard_concat (f : Event → Option String) (heard : List Event) (e : Event) :
    registrations ((heard ++ [e]).filterMap f) = registrations (heard.filterMap f) +
      match f e with
      | none => 0
      | some kind => if TrackKind.isKnown kind ∧ kind ∈ heard.filterMap f then 0 else 1 := by
  rw [List.filterMap_append]
  cases hf : f e with
  | none => simp [hf]
  | some kind => simp only [List.filterMap_cons, List.filterMap_nil, hf, registrations_concat]

/-- How often an outlet of a shape is asked for when it is acquired once more. -/
def moreRequests (shape : Shape) (heard : List Event) (e : Event) : Nat :=
  match e.acquired? with
  | none => 0
  | some o => if o.isKept ∧ o ∈ acquiredBy heard then 0 else if o.shape = shape then 1 else 0

theorem requests_concat (shape : Shape) (heard : List Event) (e : Event) :
    requests shape (heard ++ [e]) = requests shape heard + moreRequests shape heard e := by
  rw [moreRequests]
  cases ho : e.acquired? with
  | none => simp [requests, acquiredBy, ho]
  | some o =>
    have happend : acquiredBy (heard ++ [e]) = acquiredBy heard ++ [o] := by
      simp [acquiredBy, ho]
    rw [requests, happend, countP_asked_concat]
    simp [requests]

theorem gaugesFor_concat (heard : List Event) (e : Event) :
    gaugesFor (heard ++ [e]) = gaugesFor heard + moreRequests .gauge heard e := by
  simp only [gaugesFor, moreRequests, registrations_heard_concat]
  cases e with
  | trackPublished kind | trackUnpublished kind =>
    simp only [Event.acquired?, Event.published?, Event.subscription?, published_mem_acquiredBy,
      Outlet.isKept_eq_isKnown (o := .published kind) rfl]
    rw [if_pos (c := (Outlet.published kind).shape = .gauge) rfl]
    omega
  | subscribed kind | unsubscribed kind =>
    simp only [Event.acquired?, Event.published?, Event.subscription?, subscribed_mem_acquiredBy,
      Outlet.isKept_eq_isKnown (o := .subscribed kind) rfl]
    rw [if_pos (c := (Outlet.subscribed kind).shape = .gauge) rfl]
    omega
  | _ => simp [Event.acquired?, Event.published?, Event.subscription?, Outlet.shape,
      Outlet.metric, Metric.shape]

theorem countersFor_concat (heard : List Event) (e : Event) :
    countersFor (heard ++ [e]) = countersFor heard + moreRequests .counter heard e := by
  simp only [countersFor, moreRequests, registrations_heard_concat, List.countP_append,
    List.countP_singleton]
  cases e with
  | publishAttempted kind =>
    simp only [Event.acquired?, Event.attempted?, Event.succeeded?, publishAttempts_mem_acquiredBy,
      Outlet.isKept_eq_isKnown (o := .publishAttempts kind) rfl]
    rw [if_pos (c := (Outlet.publishAttempts kind).shape = .counter) rfl]
    simp only [Event.failure?, Option.isSome_none, Bool.false_eq_true, if_false]
    omega
  | publishSucceeded kind =>
    simp only [Event.acquired?, Event.attempted?, Event.succeeded?,
      publishSuccesses_mem_acquiredBy, Outlet.isKept_eq_isKnown (o := .publishSuccesses kind) rfl]
    rw [if_pos (c := (Outlet.publishSuccesses kind).shape = .counter) rfl]
    simp only [Event.failure?, Option.isSome_none, Bool.false_eq_true, if_false]
    omega
  | subscribeFailed error byUser | subscribeRefused reason =>
    -- A failure is registered every time.
    simp [Event.acquired?, Event.attempted?, Event.succeeded?, Event.failure?, Outlet.isKept,
      Outlet.isFixed, Outlet.fixed, Outlet.kind?, Outlet.shape, Outlet.metric, Metric.shape,
      Nat.add_assoc]
  | _ => simp [Event.acquired?, Event.attempted?, Event.succeeded?, Event.failure?, Outlet.shape,
      Outlet.metric, Metric.shape]

theorem moreRequests_histogram (heard : List Event) (e : Event) :
    moreRequests .histogram heard e = 0 := by
  rw [moreRequests]
  cases e <;> simp [Event.acquired?, Outlet.shape, Outlet.metric, Metric.shape]

/-- **What a reporter registers**, from when it is opened and for what it has heard since. -/
theorem requests_eq (shape : Shape) (heard : List Event) :
    requests shape heard =
      PerShape.get ⟨2 + countersFor heard, 2 + gaugesFor heard, 1⟩ shape := by
  induction heard using List.reverseRecOn with
  | nil => cases shape <;> rfl
  | append_singleton heard e ih =>
    rw [requests_concat, ih]
    cases shape with
    | counter => rw [PerShape.get, PerShape.get, countersFor_concat, Nat.add_assoc]
    | gauge => rw [PerShape.get, PerShape.get, gaugesFor_concat, Nat.add_assoc]
    | histogram => rw [PerShape.get, PerShape.get, moreRequests_histogram]

/-! ### At the desk -/

namespace Desk
variable {α : Type}

/-- A desk that holds what it keeps of all that it has acquired. -/
def HoldsKept (d : Desk α) (heard : List Event) : Prop :=
  ∀ o, o ∈ d.handles.keys ↔ o.isKept = true ∧ o ∈ acquiredBy heard

/-- What a reporter registers for some more events. -/
def newRequests (d : Desk α) (shape : Shape) (more : List Event) : Nat :=
  (asked Outlet.isKept d.handles.keys (more.filterMap Event.acquired?)).countP
    fun o => o.shape = shape

theorem HoldsKept.requests_append {d : Desk α} {heard : List Event} (hd : d.HoldsKept heard)
    (shape : Shape) (more : List Event) :
    requests shape (heard ++ more) = requests shape heard + d.newRequests shape more := by
  have hperm := asked_append Outlet.isKept d.handles.keys (acquiredBy heard)
    (more.filterMap Event.acquired?) hd
  rw [requests, acquiredBy, List.filterMap_append, ← List.append_assoc]
  exact (hperm.countP_eq _).trans List.countP_append

variable [Measure α]

theorem filterMap_acquired (now : Instant) (e : Event) :
    (e.updates now).filterMap Update.acquired? = e.acquired?.toList := by
  cases e with
  | roomEnded start =>
    cases hs : start.filter Instant.isStart with
    | none => simp [Event.updates, hs, Update.acquired?, Event.acquired?]
    | some start =>
      simp only [Event.updates, hs, Event.lifetime]
      split <;> simp [Update.acquired?, Event.acquired?]
  | subscribeFailed error byUser =>
    cases byUser <;> simp [Event.updates, Event.failure, Update.acquired?, Event.acquired?]
  | subscribeRefused reason =>
    cases hb : reason.byUser <;>
      simp [Event.updates, Event.failure, Update.acquired?, Event.acquired?, hb]
  | _ => simp [Event.updates, List.filterMap_cons, Update.acquired?, Event.acquired?]

/-- Which events a reporter hears decides what it acquires, and no clock. -/
theorem filterMap_acquired_history (h : History) :
    (h.flatMap fun timed => timed.2.updates timed.1).filterMap Update.acquired? =
      (h.map Prod.snd).filterMap Event.acquired? := by
  induction h with
  | nil => rfl
  | cons timed rest ih =>
    rw [List.flatMap_cons, List.filterMap_append, filterMap_acquired, ih, List.map_cons,
      List.filterMap_cons]
    cases timed.2.acquired? <;> rfl

section Opened
variable (s : Settings) (exposed : Bool) (recorder : Recorder α)

theorem holdsKept_opened : (opened Outlet.isKept s exposed recorder).HoldsKept [] := by
  intro o
  rw [opened_eq, mem_handles_applyAll]
  simp [described, describe, Shelf.keys, acquiredBy]

theorem registered_opened (shape : Shape) :
    (opened Outlet.isKept s exposed recorder).recorder.registered.get shape =
      recorder.registered.get shape + requests shape [] := by
  rw [opened_eq, registered_applyAll]
  rfl

/-- Each reporter describes its seven metrics once. -/
theorem described_opened :
    (opened Outlet.isKept s exposed recorder).recorder.described =
      ⟨recorder.described.counter + 2, recorder.described.gauge + 4,
        recorder.described.histogram + 1⟩ := by
  rw [opened_eq, recorder_applyAll]
  rfl

end Opened

section Run
variable {d : Desk α} {heard : List Event} (h : History)

theorem acquire_mem_history (o : Outlet) :
    .acquire o ∈ (h.flatMap fun timed => timed.2.updates timed.1) ↔
      o ∈ (h.map Prod.snd).filterMap Event.acquired? := by
  rw [← filterMap_acquired_history, List.mem_filterMap]
  constructor
  · exact fun ho => ⟨_, ho, rfl⟩
  · rintro ⟨u, hu, ho⟩
    cases u <;> simp_all [Update.acquired?]

theorem HoldsKept.run (hd : d.HoldsKept heard) :
    (d.run Outlet.isKept h).HoldsKept (heard ++ h.map Prod.snd) := by
  intro o
  rw [run_eq_applyAll, mem_handles_applyAll, hd o, acquire_mem_history, acquiredBy, acquiredBy,
    List.filterMap_append, ← List.append_assoc, List.mem_append (s := Outlet.fixed ++ _)]
  tauto

theorem registered_run (shape : Shape) :
    (d.run Outlet.isKept h).recorder.registered.get shape =
      d.recorder.registered.get shape + d.newRequests shape (h.map Prod.snd) := by
  rw [run_eq_applyAll, registered_applyAll, filterMap_acquired_history, newRequests]

theorem described_run : (d.run Outlet.isKept h).recorder.described = d.recorder.described := by
  rw [run_eq_applyAll, recorder_applyAll]

end Run
end Desk
end Roomwatch
