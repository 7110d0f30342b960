import Mathlib
import Roomwatch.Proofs.Buckets
import Roomwatch.Proofs.Residence
import Roomwatch.Proofs.Hosting

/-! The histogram of room lifetimes.

The end of a room whose start counts adds one lifetime to the histogram: the time from its
start to the clock, or zero when the clock is behind, which is noted. However the ends of
rooms, other events and drains alternate, and whatever texts the reporter is given, its page
answers as the lifetimes do (`answers_serve`): their number, and how many are within each
bound. Whether or not it has a lifetime, a room that ends takes one off the gauge of rooms and
off its tally (`ends_serve`). -/
namespace Roomwatch

open Exposition
open Number (Measure Exact Numeral Printed whole wholeBound nanosPerSecond)

/-! ### The page of a reporter -/

namespace Desk
variable {α : Type}

/-- Help texts are of one line. -/
theorem help_described (s : Settings) :
    ∀ entry ∈ (described s ({} : Recorder α)).recorder.descriptions,
      '\n' ∉ entry.2.help.toList := by
  have hsame : (described s ({} : Recorder α)).recorder.descriptions =
      (described s ({} : Recorder Float)).recorder.descriptions := rfl
  rw [hsame, ← descriptions_serve Outlet.isKept s true []]
  exact (framed_opened Outlet.isKept s true).help

variable [Measure α]

/-- A recorder with the page that a reporter shows. -/
def shownBy (s : Settings) (h : History) (lifetimes : Distribution α) : Recorder α where
  registry := booked α s h
  descriptions := (described s ({} : Recorder α)).recorder.descriptions
  settled := [(Outlet.lifetimes.id s, lifetimes)]

variable {s : Settings} (h : History) {lifetimes : Distribution α}

theorem page_shownBy : (shownBy s h lifetimes).page = shown α s h lifetimes := rfl

/-- The series that are booked are outlets of the reporter. -/
theorem outlet_of_booked {shape : Shape} {id : SeriesId}
    (hid : id ∈ (booked α s h).keys shape) : ∃ o : Outlet, o.id s = id := by
  obtain ⟨o, -, -, ho⟩ := (booked_iff s h shape id).1 ((mem_keys_booked s h shape id).1 hid)
  exact ⟨o, ho⟩

theorem readable_shownBy (hs : s.check = .ok ()) : (shownBy s h lifetimes).Readable := by
  have hbooked (shape : Shape) : ∀ id ∈ (booked α s h).keys shape, id.Readable := by
    intro id hid
    obtain ⟨o, rfl⟩ := outlet_of_booked h hid
    exact readable_id hs o
  constructor
  case counters => exact hbooked .counter
  case gauges => exact hbooked .gauge
  case histograms =>
    intro id hid
    rw [List.mem_singleton.1 hid]
    exact readable_id hs .lifetimes
  case help =>
    dsimp only [shownBy]
    exact help_described s

theorem lone_shownBy {values : List α} (hd : lifetimes.Covers values) :
    (shownBy s h lifetimes).Lone (Outlet.lifetimes.id s) values := by
  have hbooked (shape : Shape) : ∀ other ∈ (booked α s h).keys shape,
      ∀ head ∈ histogramHeads (Outlet.lifetimes.id s), head.1 ≠ other.name := by
    intro other hother head hhead
    obtain ⟨o, rfl⟩ := outlet_of_booked h hother
    exact o.metric.name_ne_head s head hhead
  refine ⟨⟨lifetimes, hd, rfl⟩, ?_, hbooked .counter, hbooked .gauge⟩
  show ["node_id", "node_type", "env", "le"].Nodup
  decide

/-- **The page of a reporter answers as the lifetimes of its rooms do**, however it is listed,
whatever happened besides and whatever texts were told. -/
theorem answers_serve (hp : Printed α) (keeps : Outlet → Bool) (hs : s.check = .ok ())
    (calls : List Call) {text : String}
    (ht : ((opened keeps s true ({} : Recorder α)).serve keeps
      calls).recorder.expose.1.Lists text) :
    ∃ samples, read text = .ok samples ∧ ∀ filter, filter ⊆ s.identity.map seenLabel →
      AnswersHistogram samples (Metric.lifetimes.name s)
        ((events calls).lifetimes.map Measure.ofNanos : List α) filter := by
  obtain ⟨d, hgathered, hpage, -⟩ := page_drained (α := α) keeps s true calls
  have hshown : (shownBy s (events calls) d).page.Lists text := by
    rw [page_shownBy, ← hpage]
    exact ht
  obtain ⟨samples, scalars, hread, hleaves, hperm⟩ :=
    Recorder.read_lines hp (readable_shownBy _ hs) hshown
  refine ⟨samples, hread, fun filter hfilter => ?_⟩
  have hlabels : (Outlet.lifetimes.id s).labels = s.identity := List.append_nil _
  have hknown : ∀ l ∈ scalars, l ∈ Registry.lines _ := fun l hl =>
    (Recorder.scalarLines_page _).mem_iff.1 (hleaves.known l hl)
  exact answers_lone hknown (lone_shownBy (events calls) hgathered.covers) hperm
    (hlabels ▸ hfilter)

end Desk

/-! ### Exact lifetimes -/

/-- What samples answer to questions about lifetimes, in nanoseconds, with a filter. The number
before a bucket goes up with its bound, and there are no other buckets than those of the bounds
and the last one. -/
structure AnswersLifetimes (samples : List Sample) (name : String) (lifetimes : List Nat)
    (filter : List Label) : Prop where
  count : Sample.count? samples name filter = some (.decimal false lifetimes.length 0)
  bucket : ∀ bound ∈ lifetimeBounds, Sample.bucket? samples name (Float.ofNat bound) filter =
    some (.decimal false (lifetimes.countP fun nanos => nanos ≤ bound * nanosPerSecond) 0)
  last : Sample.bucket? samples name infinity filter = Sample.count? samples name filter
  elsewhere : ∀ le, le ≠ infinity → (∀ bound ∈ lifetimeBounds, le ≠ Float.ofNat bound) →
    Sample.bucket? samples name le filter = none
  undefined : Sample.bucket? samples name Float.nan filter = none
  cumulative : ∀ x y : Float, x ≤ y → ∀ m n : Nat,
    Sample.bucket? samples name x filter = some (.decimal false m 0) →
    Sample.bucket? samples name y filter = some (.decimal false n 0) → m ≤ n

theorem le_of_ofNat_le : ∀ a ∈ lifetimeBounds, ∀ b ∈ lifetimeBounds,
    Float.ofNat a ≤ Float.ofNat b → a ≤ b := by
  decide +kernel

theorem not_infinity_le : ∀ b ∈ lifetimeBounds, ¬ infinity ≤ Float.ofNat b := by
  decide +kernel

/-- Exact lifetimes are compared with bounds as they are. -/
theorem countP_within (lifetimes : List Nat) (bound : Nat) :
    (lifetimes.map Measure.ofNanos : List Exact).countP (fun value => Measure.within value bound) =
      lifetimes.countP fun nanos => nanos ≤ bound * nanosPerSecond := by
  rw [List.countP_map]
  refine List.countP_congr fun nanos _ => ?_
  show decide ((nanos : Int) ≤ bound * nanosPerSecond) = true ↔ _
  rw [decide_eq_true_eq, decide_eq_true_eq]
  norm_cast

section Answers
variable {samples : List Sample} {name : String} {lifetimes : List Nat} {filter : List Label}

/-- A bucket is that of a bound, or the last one. -/
theorem of_bucket? (h : AnswersHistogram samples name
      (lifetimes.map Measure.ofNanos : List Exact) filter) {le : Float} {n : Nat}
    (hle : Sample.bucket? samples name le filter = some (.decimal false n 0)) :
    (le = infinity ∧ n = lifetimes.length) ∨ ∃ bound ∈ lifetimeBounds, le = Float.ofNat bound ∧
      n = lifetimes.countP fun nanos => nanos ≤ bound * nanosPerSecond := by
  by_cases hinf : le = infinity
  · rw [hinf, h.last, Option.some.injEq, Numeral.decimal.injEq, List.length_map] at hle
    exact .inl ⟨hinf, hle.2.1.symm⟩
  by_cases hbound : ∃ bound ∈ lifetimeBounds, le = Float.ofNat bound
  · obtain ⟨bound, hb, rfl⟩ := hbound
    rw [h.bucket bound hb, Option.some.injEq, Numeral.decimal.injEq, countP_within] at hle
    exact .inr ⟨bound, hb, rfl, hle.2.1.symm⟩
  · have hnone := h.elsewhere le hinf fun bound hb he => hbound ⟨bound, hb, he⟩
    rw [hnone] at hle
    contradiction

theorem countP_within_le {a b : Nat} (h : a ≤ b) :
    (lifetimes.countP fun nanos => nanos ≤ a * nanosPerSecond) ≤
      lifetimes.countP fun nanos => nanos ≤ b * nanosPerSecond := by
  refine List.countP_mono_left fun nanos _ hnanos => ?_
  rw [decide_eq_true_eq] at hnanos ⊢
  exact hnanos.trans (Nat.mul_le_mul_right _ h)

theorem answersLifetimes (h : AnswersHistogram samples name
    (lifetimes.map Measure.ofNanos : List Exact) filter) :
    AnswersLifetimes samples name lifetimes filter := by
  constructor
  case count =>
    rw [h.count, List.length_map]
  case bucket =>
    intro bound hb
    rw [h.bucket bound hb, countP_within]
  case last => exact h.last.trans h.count.symm
  case elsewhere => exact h.elsewhere
  case undefined =>
    exact h.elsewhere _ infinity_facts.1.symm fun bound hb => (bounds_facts bound hb).1.symm
  case cumulative =>
    intro x y hxy m n hm hn
    rcases of_bucket? h hm with ⟨rfl, rfl⟩ | ⟨a, ha, rfl, rfl⟩
    · rcases of_bucket? h hn with ⟨rfl, rfl⟩ | ⟨b, hb, rfl, -⟩
      · exact le_refl _
      · exact absurd hxy (not_infinity_le b hb)
    · rcases of_bucket? h hn with ⟨rfl, rfl⟩ | ⟨b, hb, rfl, rfl⟩
      · exact List.countP_le_length
      · exact countP_within_le (le_of_ofNat_le a ha b hb hxy)

end Answers

/-! ### Clocks that are behind -/

/-- The start of a room that ended, when it counts and the clock is behind it. -/
def Event.ahead? (now : Instant) : Event → Option Instant
  | .roomEnded (some start) =>
    if 0 < start.seconds ∧ now.nanos < start.nanos then some start else none
  | _ => none

/-- The start that an entry says is still to come. -/
def Entry.ahead? : Entry → Option Instant
  | .startAhead start => some start
  | _ => none

/-- The end of a room notes nothing but that its start is still to come. -/
theorem noted_roomEnded (now : Instant) (start : Option Instant) :
    ((Event.roomEnded start).updates now).filterMap Update.noted? =
      ((Event.roomEnded start).ahead? now).toList.map Entry.startAhead := by
  cases start with
  | none => rfl
  | some start =>
    by_cases hs : 0 < start.seconds
    · have hbehind : start.elapsed now < 0 ↔ now.nanos < start.nanos := by
        unfold Instant.elapsed
        omega
      simp only [Event.updates, Event.ahead?, Option.filter, Instant.isStart, hs, decide_true,
        if_true, Event.lifetime, hbehind, true_and]
      split <;> rfl
    · simp [Event.updates, Event.ahead?, Option.filter, Instant.isStart, hs, Update.noted?]

theorem ahead_updates (now : Instant) (e : Event) :
    ((e.updates now).filterMap Update.noted?).filterMap Entry.ahead? = (e.ahead? now).toList := by
  cases e with
  | roomEnded start =>
    rw [noted_roomEnded, List.filterMap_map]
    cases (Event.roomEnded start).ahead? now <;> rfl
  | subscribeFailed error byUser => cases byUser <;> rfl
  | subscribeRefused reason => cases reason <;> rfl
  | _ => rfl

namespace Desk

/-- **Exactly the ends of rooms by a clock that is behind are noted as such**, one after the
other. -/
theorem ahead_serve {α : Type} [Measure α] (keeps : Outlet → Bool) (d : Desk α)
    (calls : List Call) : (d.serve keeps calls).journal.filterMap Entry.ahead? =
      d.journal.filterMap Entry.ahead? ++
        (events calls).filterMap fun timed => timed.2.ahead? timed.1 := by
  induction calls generalizing d with
  | nil => exact (List.append_nil _).symm
  | cons call rest ih =>
    rw [serve, ih]
    cases call with
    | event now e =>
      rw [answer, perform, journal_applyAll, List.filterMap_append, ahead_updates, events,
        List.filterMap_cons, List.append_assoc]
      cases e.ahead? now <;> rfl
    | drain => rfl

end Desk

/-! ### Instants that have a date -/

namespace Instant

/-- The year that an instant lies in. -/
def year (t : Instant) : Int := (date (t.seconds.fdiv 86400)).1

/-- Instants of the years that a calendar date can have. -/
def Dated (t : Instant) : Prop := -262144 ≤ t.year ∧ t.year ≤ 262143

/-- The nanoseconds that signed 64-bit milliseconds reach to. -/
def longest : Nat := (2 ^ 63 - 1) * 1000000

/-- The year of a day is not far from its era. -/
theorem year_near (day : Int) : (day + 719468).fdiv 146097 * 400 ≤ (date day).1 ∧
    (date day).1 ≤ (day + 719468).fdiv 146097 * 400 + 401 := by
  have hmod : ((day + 719468).fmod 146097).toNat < 146097 := by
    rw [Int.fmod_eq_emod_of_nonneg _ (by decide)]
    omega
  simp only [date]
  split <;> omega

theorem natAbs_nanos_le {t : Instant} (h : t.Dated) : t.nanos.natAbs ≤ longest / 2 := by
  have hyear := year_near (t.seconds.fdiv 86400)
  unfold Dated year at h
  rw [seconds, Int.fdiv_eq_ediv_of_nonneg _ (by decide), Int.fdiv_eq_ediv_of_nonneg _ (by decide),
    Int.fdiv_eq_ediv_of_nonneg _ (by decide)] at *
  unfold longest nanosPerSecond at *
  omega

/-- **The time between two dates is never too long to be told.** -/
theorem natAbs_elapsed_le {start finish : Instant} (hs : start.Dated) (hf : finish.Dated) :
    (start.elapsed finish).natAbs ≤ longest := by
  have hstart := natAbs_nanos_le hs
  have hfinish := natAbs_nanos_le hf
  unfold elapsed
  omega

end Instant

/-! ### Rooms that end -/

/-- What the end of a room does to a reporter, whether or not its lifetime is observed. The
gauge of rooms holds a whole number, as `ofInt` writes it, and goes down by one. -/
structure EndsRoom {α : Type} [Measure α] (ofInt : Int → α) (keeps : Outlet → Bool) (s : Settings)
    (d : Desk α) (now : Instant) (start : Option Instant) : Prop where
  gauge : ∃ n : Int, d.recorder.registry.gauge? (Outlet.rooms.id s) = some (ofInt n) ∧
    (d.perform keeps now (.roomEnded start)).recorder.registry.gauge? (Outlet.rooms.id s) =
      some (ofInt (n - 1))
  tally : (d.perform keeps now (.roomEnded start)).tally = d.tally.step .rooms .down
  logged : (d.perform keeps now (.roomEnded start)).journal.map Entry.record =
    d.journal.map Entry.record ++ ((Event.roomEnded start).ahead? now).toList.map fun start =>
      .event .debug "room_telemetry.room"
        "Room start time is in the future, recording zero duration"
        [("started_at", .text start.text)]
  fits : ∀ t ∈ start, t.Dated → now.Dated → (t.elapsed now).natAbs ≤ Instant.longest

namespace Desk
variable {α : Type} [Measure α] (keeps : Outlet → Bool)

theorem gauge?_serve {ofInt : Int → α} {bound : Nat} (hpace : Registry.KeepsPace ofInt bound)
    (s : Settings) (exposed : Bool) (calls : List Call) (hfew : (events calls).length ≤ bound) :
    ((opened keeps s exposed ({} : Recorder α)).serve keeps calls).recorder.registry.gauge?
        (Outlet.rooms.id s) =
      some (ofInt ((events calls).map fun timed => timed.2.moved fun o => o = .rooms).sum) := by
  have hbooked : Booked s (events calls) .gauge (Outlet.rooms.id s) :=
    (booked_iff s _ _ _).2 ⟨_, acquired_of_fixed _ (by decide), rfl, rfl⟩
  rw [← gauge?_booked s (events calls) hpace hfew hbooked, Registry.gauge?, Registry.gauge?,
    (alike_booked keeps s exposed calls).gauges]

/-- **Whenever a room ends, one is taken off the gauge of rooms and off its tally**, and a start
that is still to come is noted. -/
theorem ends_serve {ofInt : Int → α} {bound : Nat} (hpace : Registry.KeepsPace ofInt bound)
    (s : Settings) (exposed : Bool) (calls : List Call) (hfew : (events calls).length < bound)
    (now : Instant) (start : Option Instant) :
    EndsRoom ofInt keeps s ((opened keeps s exposed ({} : Recorder α)).serve keeps calls) now
      start := by
  constructor
  case gauge =>
    refine ⟨_, gauge?_serve keeps hpace s exposed calls hfew.le, ?_⟩
    have hmore : (events (calls ++ [.event now (.roomEnded start)])).length ≤ bound := by
      rw [events_append]
      simpa [events] using hfew
    have hone : ((events [.event now (.roomEnded start)]).map fun timed =>
        timed.2.moved fun o => o = .rooms).sum = -1 := by simp [events, Event.moved]
    have hnext := gauge?_serve keeps hpace s exposed _ hmore
    rw [events_append, serve_append, List.map_append, List.sum_append, hone,
      ← Int.sub_eq_add_neg] at hnext
    exact hnext
  case tally =>
    refine Tally.ext_get fun field => ?_
    rw [perform, tally_applyAll, Event.sum_tallied, Tally.get_step]
    cases field <;> rfl
  case logged =>
    rw [perform, journal_applyAll, noted_roomEnded, List.map_append, List.map_map]
    rfl
  case fits => exact fun t _ ht hnow => Instant.natAbs_elapsed_le ht hnow

end Desk

/-- What a reporter tells of the lifetimes of its rooms after a history: its pages do, with any
filter that the identity of its node meets as a reader sees it, and its journal, where exactly
the ends of rooms stand whose start counts and was still to come. -/
structure TellsLifetimes (keeps : Outlet → Bool) (s : Settings) (h : History) (d : Desk Exact) :
    Prop where
  pages : ∀ text, d.recorder.expose.1.Lists text → ∃ samples, read text = .ok samples ∧
    ∀ filter, filter ⊆ s.identity.map seenLabel →
      AnswersLifetimes samples (s.metricName "room" "duration_seconds") h.lifetimes filter
  ahead : d.journal.filterMap Entry.ahead? = h.filterMap fun timed => timed.2.ahead? timed.1
  ends : ∀ now start, EndsRoom Exact.ofInt keeps s d now start

/-- **A reporter's histogram tells the lifetimes of its rooms exactly**, however the reporter is
used, whatever its clock shows and whatever texts it is given. Every end of a room takes one off
the gauge and off the tally of rooms: always when gauges are exact, and in binary64 as long as
there are fewer calls than whole numbers without a gap. -/
theorem lifetimes_exposed (keeps : Outlet → Bool) (s : Settings) (hs : s.check = .ok ())
    (calls : List Call) :
    TellsLifetimes keeps s (events calls) ((Desk.opened keeps s true {}).serve keeps calls) ∧
      ((events calls).length < wholeBound → ∀ now start,
        EndsRoom whole keeps s ((Desk.opened keeps s true {}).serve keeps calls) now start) := by
  refine ⟨⟨fun text ht => ?_, ?_, fun now start => ?_⟩, fun hfew now start => ?_⟩
  · obtain ⟨samples, hread, hanswers⟩ := Desk.answers_serve Number.printed_exact keeps hs calls ht
    exact ⟨samples, hread, fun filter hfilter => answersLifetimes (hanswers filter hfilter)⟩
  · rw [Desk.ahead_serve, Desk.journal_opened]
    rfl
  · exact Desk.ends_serve keeps (Registry.keepsPace_exact _) s true calls
      (Nat.lt_succ_self _) now start
  · exact Desk.ends_serve keeps Number.keepsPace_whole s true calls hfew now start

/-- Of six rooms four have a lifetime: five seconds, a billionth more, none at all and very long.
One of the others started within the first second of 1970, and the start of the last one is not
known. The texts of the node are not clean. -/
theorem lifetimes_exposed_six :
    let s : Settings := ⟨"a\\\"b", .media, "\\\\", "sfu_1"⟩
    let ends (now start : Int) : Call := .event ⟨now⟩ (.roomEnded (some ⟨start⟩))
    let calls : List Call := [ends 100000000000 95000000000, .drain,
      ends 100000000000 94999999999, ends 100000000000 101000000000,
      .event ⟨0⟩ (.subscribeFailed "\\\n\"" true), ends 100000000000 500000000,
      .event ⟨0⟩ (.roomEnded none), ends 1000000000000000 1000000000]
    let d := (Desk.opened Outlet.isKept s true ({} : Recorder Exact)).serve Outlet.isKept calls
    let name := "sfu_1_room_duration_seconds"
    s.check = .ok () ∧ (events calls).length < wholeBound ∧
      (∃ samples, read d.recorder.expose.1.text = .ok samples ∧
        Sample.count? samples name [] = some (.decimal false 4 0) ∧
        Sample.bucket? samples name (Float.ofNat 5) [("env", "\\")] = some (.decimal false 2 0) ∧
        Sample.bucket? samples name (Float.ofNat 36000) [] = some (.decimal false 3 0) ∧
        Sample.bucket? samples name (Float.ofNat 7) [] = none) ∧
      d.journal.filterMap Entry.ahead? = [⟨101000000000⟩] ∧
      EndsRoom whole Outlet.isKept s
        ((Desk.opened Outlet.isKept s true {}).serve Outlet.isKept calls) ⟨0⟩ none := by
  intro s ends calls d name
  have hs : s.check = .ok () := by decide
  have hfew : (events calls).length < wholeBound := by decide
  obtain ⟨htells, hends⟩ := lifetimes_exposed Outlet.isKept s hs calls
  obtain ⟨samples, hread, hanswers⟩ := htells.pages _ (Page.lists_text _)
  have hall := hanswers [] (List.nil_subset _)
  have hfiltered := hanswers [("env", "\\")] (by decide)
  refine ⟨hs, hfew, ⟨samples, hread, hall.count, hfiltered.bucket 5 (by decide),
    hall.bucket 36000 (by decide), ?_⟩, htells.ahead, hends hfew ⟨0⟩ none⟩
  exact hall.elsewhere (Float.ofNat 7) (by decide +kernel) (by decide +kernel)

end Roomwatch
