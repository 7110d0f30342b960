import Mathlib
import Roomwatch.Proofs.Gathering
import Roomwatch.Proofs.Sharing

/-! What captures find.

A capture lists every series of a recorder once (`Recorder.lists_rows`) and takes the
observations that wait in its histograms. Whatever else is done to the recorder between
captures, an observation is found by exactly one of them: what was taken and what waits
make up all that was recorded, in order (`Session.taken_append_waiting`). Nothing else is
taken, so a second capture finds the same counters and gauges, and every histogram without
an observation (`Session.captured_after`). -/
namespace Roomwatch

open Number (Measure)
open Registry (Act)

/-! ### What a capture lists -/

namespace Shelf
variable {κ β : Type} [DecidableEq κ]

theorem get?_eq_some_iff {s : Shelf κ β} (h : s.keys.Nodup) (k : κ) (v : β) :
    s.get? k = some v ↔ (k, v) ∈ s := by
  refine ⟨mem_of_get?, fun hmem => ?_⟩
  obtain ⟨w, hw⟩ := Option.isSome_iff_exists.1
    ((isSome_get?_iff s k).2 (List.mem_map_of_mem (f := Prod.fst) hmem))
  have hsame := List.inj_on_of_nodup_map h (mem_of_get? hw) hmem rfl
  rw [hw, (Prod.mk.inj hsame).2]

/-- A lookup among distinct keys does not depend on their order. -/
theorem get?_of_perm {s t : Shelf κ β} (h : s.Perm t) (ht : t.keys.Nodup) (k : κ) :
    s.get? k = t.get? k := by
  have hs : s.keys.Nodup := (h.map Prod.fst).nodup_iff.2 ht
  refine Option.ext fun v => ?_
  rw [get?_eq_some_iff hs, get?_eq_some_iff ht, h.mem_iff]

end Shelf

section Rows
variable {α : Type}

/-- The counter that a row is about. -/
def Row.counter? (row : Row α) : Option (SeriesId × UInt64) :=
  match row.reading with
  | .counter total => some (row.id, total)
  | _ => none

/-- The gauge that a row is about. -/
def Row.gauge? (row : Row α) : Option (SeriesId × α) :=
  match row.reading with
  | .gauge level => some (row.id, level)
  | _ => none

/-- The histogram that a row is about. -/
def Row.histogram? (row : Row α) : Option (SeriesId × List α) :=
  match row.reading with
  | .histogram waiting => some (row.id, waiting)
  | _ => none

/-! What is found, had no observation waited. -/

def Reading.emptied : Reading α → Reading α
  | .histogram _ => .histogram []
  | reading => reading

def Row.emptied (row : Row α) : Row α := { row with reading := row.reading.emptied }

def Found.emptied : Found α → Found α
  | .waiting _ => .waiting []
  | found => found

namespace Reply

def emptied : Reply α → Reply α
  | .rows listed => .rows (listed.map Row.emptied)
  | .found finds => .found (finds.map Found.emptied)
  | reply => reply

def counters : Reply α → Shelf SeriesId UInt64
  | .rows listed => listed.filterMap Row.counter?
  | _ => []

def gauges : Reply α → Shelf SeriesId α
  | .rows listed => listed.filterMap Row.gauge?
  | _ => []

def histograms : Reply α → Shelf SeriesId (List α)
  | .rows listed => listed.filterMap Row.histogram?
  | _ => []

/-- Without the observations a reply lists the same series. -/
theorem emptied_rows (rows : List (Row α)) :
    (Reply.rows rows).emptied.counters = (Reply.rows rows).counters ∧
      (Reply.rows rows).emptied.gauges = (Reply.rows rows).gauges ∧
      (Reply.rows rows).emptied.histograms =
        (Reply.rows rows).histograms.mapValues fun _ => [] := by
  simp only [emptied, counters, gauges, histograms, Shelf.mapValues, List.filterMap_map,
    List.map_filterMap]
  refine ⟨?_, ?_, ?_⟩ <;> refine List.filterMap_congr fun row _ => ?_ <;>
    obtain ⟨id, reading, description⟩ := row <;> cases reading <;> rfl

/-- A reply that lists all series of a registry, each of them once. -/
structure Lists (reply : Reply α) (g : Registry α) : Prop where
  counters : ∀ id, reply.counters.get? id = g.counter? id
  gauges : ∀ id, reply.gauges.get? id = g.gauge? id
  histograms : ∀ id, reply.histograms.get? id = g.waiting? id
  once : reply.counters.keys.Nodup ∧ reply.gauges.keys.Nodup ∧ reply.histograms.keys.Nodup

end Reply

namespace Recorder
variable (r : Recorder α)

theorem filterMap_shelfRows {β γ : Type} (shelf : Shelf SeriesId β) (reading : β → Reading α)
    (f : Row α → Option γ) :
    ((r.shelfRows shelf reading).filterMap f).Perm
      (shelf.filterMap fun entry => f (r.row entry.1 (reading entry.2))) := by
  have hrows : (r.shelfRows shelf reading).Perm
      (shelf.map fun entry => r.row entry.1 (reading entry.2)) := List.mergeSort_perm _ _
  have hfiltered := hrows.filterMap f
  rwa [List.filterMap_map] at hfiltered

theorem filterMap_rows {γ : Type} (f : Row α → Option γ) :
    (r.rows.filterMap f).Perm
      (r.registry.counters.filterMap (fun entry => f (r.row entry.1 (.counter entry.2))) ++
        r.registry.gauges.filterMap (fun entry => f (r.row entry.1 (.gauge entry.2))) ++
        r.registry.histograms.filterMap fun entry => f (r.row entry.1 (.histogram entry.2))) := by
  rw [rows, List.filterMap_append, List.filterMap_append]
  exact ((r.filterMap_shelfRows _ _ f).append (r.filterMap_shelfRows _ _ f)).append
    (r.filterMap_shelfRows _ _ f)

/-- **A capture lists every series once**, with what it says. -/
theorem lists_rows (h : ∀ shape, (r.registry.keys shape).Nodup) :
    (Reply.rows r.rows).Lists r.registry := by
  have hcounters : (r.rows.filterMap Row.counter?).Perm r.registry.counters := by
    simpa [row, Row.counter?] using r.filterMap_rows Row.counter?
  have hgauges : (r.rows.filterMap Row.gauge?).Perm r.registry.gauges := by
    simpa [row, Row.gauge?] using r.filterMap_rows Row.gauge?
  have hhistograms : (r.rows.filterMap Row.histogram?).Perm r.registry.histograms := by
    simpa [row, Row.histogram?] using r.filterMap_rows Row.histogram?
  refine ⟨fun id => Shelf.get?_of_perm hcounters (h .counter) id,
    fun id => Shelf.get?_of_perm hgauges (h .gauge) id,
    fun id => Shelf.get?_of_perm hhistograms (h .histogram) id, ?_, ?_, ?_⟩
  · exact (hcounters.map Prod.fst).nodup_iff.2 (h .counter)
  · exact (hgauges.map Prod.fst).nodup_iff.2 (h .gauge)
  · exact (hhistograms.map Prod.fst).nodup_iff.2 (h .histogram)

theorem shelfRows_emptied {β : Type} (shelf : Shelf SeriesId β) (reading : β → Reading α) :
    (r.shelfRows shelf reading).map Row.emptied =
      r.shelfRows shelf fun value => (reading value).emptied := by
  have hshape (value : β) : (reading value).emptied.shape = (reading value).shape := by
    cases reading value <;> rfl
  have hsorted := List.map_mergeSort (f := Row.emptied) (s := fun a b => a.id.atMost b.id)
    (l := shelf.map fun entry => r.row entry.1 (reading entry.2))
    (r := fun a b => a.id.atMost b.id) fun _ _ _ _ => rfl
  rw [shelfRows, shelfRows, hsorted, List.map_map]
  congr 1
  refine List.map_congr_left fun entry _ => ?_
  simp [row, Row.emptied, hshape]

/-- A second capture lists the same series, and no observations. -/
theorem rows_capture : r.capture.2.rows = r.rows.map Row.emptied := by
  have hhistograms : r.capture.2.shelfRows r.registry.emptied.histograms .histogram =
      r.shelfRows r.registry.histograms fun _ => .histogram [] := by
    simp only [shelfRows, Registry.emptied, List.map_map]
    rfl
  have hrows : r.rows.map Row.emptied = r.shelfRows r.registry.counters .counter ++
      r.shelfRows r.registry.gauges .gauge ++
      r.shelfRows r.registry.histograms fun _ => .histogram [] := by
    rw [rows, List.map_append, List.map_append, shelfRows_emptied, shelfRows_emptied,
      shelfRows_emptied]
    rfl
  rw [hrows, ← hhistograms]
  rfl

end Recorder

/-- A lookup where the observations were taken. -/
theorem Registry.find_emptied (g : Registry α) (lookup : Lookup) :
    g.emptied.find lookup = (g.find lookup).emptied := by
  have hwaiting (id : SeriesId) :
      g.emptied.waiting? id = (g.waiting? id).map fun _ => [] :=
    Shelf.get?_map (fun _ _ => []) g.histograms id
  cases lookup with
  | counter id =>
    rw [find, find]
    show (g.counter? id).elim _ _ = _
    cases g.counter? id <;> rfl
  | gauge id =>
    rw [find, find]
    show (g.gauge? id).elim _ _ = _
    cases g.gauge? id <;> rfl
  | histogram id =>
    rw [find, find, hwaiting]
    cases g.waiting? id <;> rfl
  | counterSum name filter => rfl
  | seriesCount name =>
    rw [find, find, seriesCount, seriesCount]
    show Found.size (_ + _ + (g.emptied.keys .histogram).countP _) = _
    rw [keys_emptied]
    rfl

end Rows

/-! ### What is recorded in a histogram -/

/-- Nothing but lifetimes is ever observed. -/
theorem Event.eq_lifetimes_of_observe {now : Instant} {e : Event} {o : Outlet} {nanos : Nat}
    (h : .observe o nanos ∈ e.updates now) : o = .lifetimes := by
  cases e with
  | roomEnded start =>
    cases hs : start.filter Instant.isStart <;> simp_all [updates, lifetime]
  | subscribeFailed error byUser => cases byUser <;> simp [updates, failure] at h
  | subscribeRefused reason => cases hb : reason.byUser <;> simp [updates, failure, hb] at h
  | _ => simp [updates] at h

/-- A history records its lifetimes, and nothing anywhere else. -/
theorem values_history {α : Type} [Measure α] (settings : Settings) (h : History)
    (id : SeriesId) :
    (acts settings (h.flatMap fun timed => timed.2.updates timed.1)).flatMap (Act.values id) =
      if Outlet.lifetimes.id settings = id then
        h.lifetimes.map (Measure.ofNanos : Nat → α)
      else [] := by
  split
  · next hid =>
    have hobserved : (h.flatMap fun timed => timed.2.updates timed.1).flatMap
        (Update.observed .lifetimes) = h.lifetimes := observed_life h
    rw [← hid, values_acts, hobserved]
  · next hid =>
    refine List.flatMap_eq_nil_iff.2 fun act hact => ?_
    obtain ⟨u, hu, hmade⟩ := List.mem_flatMap.1 hact
    obtain ⟨timed, -, hevent⟩ := List.mem_flatMap.1 hu
    cases u with
    | observe o nanos =>
      obtain rfl := Event.eq_lifetimes_of_observe hevent
      rw [List.mem_singleton.1 hmade]
      exact if_neg hid
    | acquire | move | count =>
      rw [List.mem_singleton.1 hmade]
      rfl
    | tally | note => exact absurd hmade List.not_mem_nil

namespace Session
variable {α : Type} [Measure α]

/-- What a step records in a histogram of a shared recorder: what is observed there directly, and
the lifetimes of the rooms that a reporter over it is told of. -/
def recorded (recorder : String) (id : SeriesId) (s : Session α) : Step α → List α
  | .rawObserve name series value => if name = recorder ∧ series = id then [value] else []
  | .report name events =>
    match s.at? (.named name) with
    | some r =>
      if s.shared.get? recorder = some r.recorder ∧ Outlet.lifetimes.id r.settings = id then
        (History.lifetimes (events.map fun e => (s.now, e))).map Measure.ofNanos
      else []
    | none => []
  | _ => []

/-- What a capture of a shared recorder lists of a histogram. -/
def listed (recorder : String) (id : SeriesId) (s : Session α) : List α :=
  ((s.step (.capture recorder)).reply.histograms.get? id).getD []

/-- What a step takes out of a histogram of a shared recorder. -/
def taken (recorder : String) (id : SeriesId) (s : Session α) : Step α → List α
  | .capture name | .lookup name _ => if name = recorder then s.listed recorder id else []
  | _ => []

section Steps
variable {s : Session α} {recorder : String} {id : SeriesId}

theorem reply_capture (s : Session α) (recorder : String) :
    (s.step (.capture recorder)).reply = .rows (s.common recorder).rows := by
  rw [Session.step, withRecorder_eq, common_eq]
  rfl

theorem reply_lookup (s : Session α) (recorder : String) (lookups : List Lookup) :
    (s.step (.lookup recorder lookups)).reply =
      .found (lookups.map (s.common recorder).registry.find) := by
  rw [Session.step, withRecorder_eq, common_eq]
  rfl

theorem lists_capture (h : s.Distinct) (recorder : String) :
    (s.step (.capture recorder)).reply.Lists (s.common recorder).registry := by
  rw [reply_capture]
  exact Recorder.lists_rows _ (h.common recorder)

/-- A capture lists what waits. -/
theorem listed_eq (h : s.Distinct) (recorder : String) (id : SeriesId) :
    s.listed recorder id = (s.common recorder).registry.waiting id := by
  rw [listed, (lists_capture h recorder).histograms id]
  rfl

theorem recorded_minor {step : Step α} (h : step.isMinor = true) :
    s.recorded recorder id step = [] := by
  cases step with
  | report | rawObserve => contradiction
  | _ => rfl

theorem taken_minor {step : Step α} (h : step.isMinor = true) :
    s.taken recorder id step = [] := by
  cases step with
  | capture | lookup => contradiction
  | _ => rfl

theorem waiting_observed (r : Recorder α) (series : SeriesId) (value : α) :
    (r.serviced (.observe series value)).registry.waiting id =
      r.registry.waiting id ++ if series = id then [value] else [] := by
  have haccepts : r.registry.Accepts [.register .histogram series, .observe series value] :=
    ⟨trivial, (Registry.mem_keys_act _ (.register _ _) _ _).2 (.inr rfl), trivial⟩
  exact (Registry.waiting_actAll id haccepts).trans (by simp [Act.values])

/-- What waits in a shared recorder once one of its reporters was told of events. -/
theorem waiting_told (h : s.Sound) {a : Seat} {r : Reporter} (hr : s.at? a = some r)
    (events : List Event) :
    ((s.told a r events).common recorder).registry.waiting id =
      (s.common recorder).registry.waiting id ++
        if s.shared.get? recorder = some r.recorder ∧ Outlet.lifetimes.id r.settings = id then
          (History.lifetimes (events.map fun e => (s.now, e))).map Measure.ofNanos
        else [] := by
  rw [common_told h recorder hr]
  by_cases hover : s.shared.get? recorder = some r.recorder
  · have hcommon : s.common recorder = s.recorder r.recorder := by
      rw [common, hover]
      rfl
    have hregistry := (Desk.registry_applyAll s.keeps (h.desks a r hr)
      ((events.map fun e => (s.now, e)).flatMap fun timed => timed.2.updates timed.1)).2
    rw [if_pos hover, hcommon, toldDesk, Desk.run_eq_applyAll, hregistry]
    simp only [hover, true_and]
    rw [← values_history r.settings]
    exact Registry.waiting_actAll id (Desk.accepts_history r.settings _ (h.fixed a r hr))
  · simp [hover]

/-- A step takes what waits, or it adds what it records. -/
theorem taken_step (h : s.Tidy) (hd : s.Distinct) (step : Step α) :
    s.taken recorder id step ++ ((s.step step).session.common recorder).registry.waiting id =
      (s.common recorder).registry.waiting id ++ s.recorded recorder id step := by
  have hcapture (name : String) : (if name = recorder then s.listed recorder id else []) ++
      ((s.served name .capture).common recorder).registry.waiting id =
        (s.common recorder).registry.waiting id ++ [] := by
    rw [common_served h, listed_eq hd]
    split
    · have hempty : ((s.common recorder).serviced .capture).registry.waiting id = [] :=
        Recorder.waiting_drain (s.common recorder) id
      rw [hempty]
    · rw [List.nil_append, List.append_nil]
  have hroute (a : Seat) (route : String) :
      ((s.step (a.makeRoute route)).session.common recorder).registry.waiting id =
        (s.common recorder).registry.waiting id ++ [] := by
    rw [session_makeRoute]
    cases (s.at? a).filter Reporter.exposed <;> exact (List.append_nil _).symm
  by_cases hminor : step.isMinor = true
  · rw [recorded_minor hminor, taken_minor hminor, List.nil_append, List.append_nil]
    exact (waiting_minors h (s.minor_step step hminor) recorder id).2
  · cases step with
    | report name events =>
      rw [session_report, recorded]
      cases hr : s.at? (.named name) with
      | none => exact (List.append_nil _).symm
      | some r => exact waiting_told h.toSound hr events
    | residentReport events =>
      rw [session_residentReport]
      cases hr : s.at? .resident with
      | none => exact (List.append_nil _).symm
      | some r =>
        show ((s.told .resident r events).common recorder).registry.waiting id = _ ++ []
        rw [waiting_told h.toSound hr, if_neg]
        exact fun hover => h.own .resident r hr (h.resident r hr) recorder hover.1
    | route name route => exact hroute (.named name) route
    | residentRoute route => exact hroute .resident route
    | capture name =>
      rw [session_capture]
      exact hcapture name
    | lookup name lookups =>
      rw [session_lookup]
      exact hcapture name
    | rawObserve name series value =>
      rw [session_rawObserve, common_served h, recorded]
      by_cases hname : name = recorder
      · simp only [hname, if_true, true_and]
        exact waiting_observed (s.common recorder) series value
      · simp only [hname, if_false, false_and, List.append_nil]
        rfl
    | _ => exact absurd rfl hminor

/-- **What was taken and what waits is what was recorded**, in order, and with what had waited
before. -/
theorem taken_append_waiting (h : s.Tidy) (hd : s.Distinct) (steps : List (Step α)) :
    s.collect (taken recorder id) steps ++
        ((s.after steps).common recorder).registry.waiting id =
      (s.common recorder).registry.waiting id ++ s.collect (recorded recorder id) steps := by
  induction steps generalizing s with
  | nil => exact (List.append_nil _).symm
  | cons step rest ih =>
    have hchanged := s.changed_step step
    have hboth := of_changed (P := fun s => s.Tidy ∧ s.Distinct)
      (fun _ _ h hchange => ⟨tidy_change h.1 hchange, distinct_change h.1.toSound h.2 hchange⟩)
      ⟨h, hd⟩ hchanged
    calc s.taken recorder id step ++ (s.step step).session.collect (taken recorder id) rest ++
          (((s.step step).session.after rest).common recorder).registry.waiting id
      _ = s.taken recorder id step ++
          (((s.step step).session.common recorder).registry.waiting id ++
            (s.step step).session.collect (recorded recorder id) rest) := by
        rw [List.append_assoc, ih hboth.1 hboth.2]
      _ = (s.common recorder).registry.waiting id ++ (s.recorded recorder id step ++
            (s.step step).session.collect (recorded recorder id) rest) := by
        rw [← List.append_assoc, taken_step h hd, List.append_assoc]

end Steps

/-! ### Captures in a session -/

/-- What a step that captures a recorder leaves as it was: everything but the observations that
wait there. -/
structure Spares (s t : Session α) (recorder : String) : Prop where
  reporters : t.reporters = s.reporters
  resident : t.resident = s.resident
  tallies : t.tallies = s.tallies
  held : t.held = s.held
  routes : t.routes = s.routes
  others : ∀ number, s.shared.get? recorder ≠ some number →
    t.recorder number = s.recorder number
  counters : (t.common recorder).registry.counters = (s.common recorder).registry.counters
  gauges : (t.common recorder).registry.gauges = (s.common recorder).registry.gauges
  /-- A second capture lists the same counters and gauges ... -/
  sameCounters : (t.step (.capture recorder)).reply.counters =
    (s.step (.capture recorder)).reply.counters
  sameGauges : (t.step (.capture recorder)).reply.gauges =
    (s.step (.capture recorder)).reply.gauges
  /-- ... and every histogram as empty ... -/
  emptied : (t.step (.capture recorder)).reply.histograms =
    (s.step (.capture recorder)).reply.histograms.mapValues fun _ => []
  /-- ... and so says every lookup in it. -/
  finds : ∀ lookups, (t.step (.lookup recorder lookups)).reply =
    (s.step (.lookup recorder lookups)).reply.emptied

section Spares
variable {s : Session α}

/-- A recorder of another number is not captured. -/
theorem recorder_captured (h : s.Sound) (recorder : String) {number : Nat}
    (hnumber : s.shared.get? recorder ≠ some number) :
    (s.served recorder .capture).recorder number = s.recorder number := by
  obtain ⟨-, hlt⟩ := sound_share h recorder
  rw [served, recorder_setRecorder _ _ _ hlt, recorder_share, recorder_share]
  split
  · next he =>
    -- The name is new, and so is its recorder, which holds nothing.
    have hnew : s.recorder number = {} := by
      rcases s.shared_share recorder (s.get?_share recorder) with hknown | ⟨-, hlength, -⟩
      · exact absurd (he ▸ hknown) hnumber
      · rw [Session.recorder, he, hlength, List.getElem?_eq_none (le_refl _)]
        rfl
    rw [← he, hnew]
    rfl
  · rfl

theorem spares_served (h : s.Tidy) (recorder : String) :
    s.Spares (s.served recorder .capture) recorder := by
  have hcommon : (s.served recorder .capture).common recorder =
      (s.common recorder).capture.2 := by
    rw [common_served h, if_pos rfl]
    rfl
  have hkept : (s.served recorder .capture).reporters = s.reporters ∧
      (s.served recorder .capture).resident = s.resident ∧
      (s.served recorder .capture).tallies = s.tallies ∧
      (s.served recorder .capture).held = s.held ∧
      (s.served recorder .capture).routes = s.routes := by
    rw [served, share]
    cases s.shared.get? recorder <;> exact ⟨rfl, rfl, rfl, rfl, rfl⟩
  have hreply : ((s.served recorder .capture).step (.capture recorder)).reply =
      (s.step (.capture recorder)).reply.emptied := by
    rw [reply_capture, reply_capture, hcommon, Recorder.rows_capture]
    rfl
  obtain ⟨hcounters, hgauges, hhistograms⟩ := Reply.emptied_rows (s.common recorder).rows
  rw [← reply_capture] at hcounters hgauges hhistograms
  constructor
  case reporters => exact hkept.1
  case resident => exact hkept.2.1
  case tallies => exact hkept.2.2.1
  case held => exact hkept.2.2.2.1
  case routes => exact hkept.2.2.2.2
  case others => exact fun number hnumber => recorder_captured h.toSound recorder hnumber
  case counters => rw [hcommon]; rfl
  case gauges => rw [hcommon]; rfl
  case sameCounters => rw [hreply, hcounters]
  case sameGauges => rw [hreply, hgauges]
  case emptied => rw [hreply, hhistograms]
  case finds =>
    intro lookups
    rw [reply_lookup, reply_lookup, hcommon, Reply.emptied, List.map_map]
    refine congrArg Reply.found (List.map_congr_left fun lookup _ => ?_)
    exact Registry.find_emptied _ lookup

end Spares

/-- What holds of captures of a recorder after some steps. -/
structure Captured (s : Session α) (recorder : String) (steps : List (Step α)) : Prop where
  /-- What was taken out of a histogram, and what the next capture lists of it, is what was
  recorded there, in order. -/
  kept : ∀ id, s.collect (taken recorder id) steps ++ (s.after steps).listed recorder id =
    s.collect (recorded recorder id) steps
  /-- A capture lists all series that are registered by now, each of them once ... -/
  lists : ((s.after steps).step (.capture recorder)).reply.Lists
    ((s.after steps).common recorder).registry
  /-- ... and lookups find what it lists. -/
  finds : ∀ lookups, ((s.after steps).step (.lookup recorder lookups)).reply =
    .found (lookups.map ((s.after steps).common recorder).registry.find)
  /-- A histogram that was ever registered is listed, whether or not anything waits there. -/
  known : ∀ before since, steps = before ++ since →
    ∀ id ∈ ((s.after before).common recorder).registry.keys .histogram,
      ((s.after steps).step (.capture recorder)).reply.histograms.get? id =
        some ((s.after steps).listed recorder id)
  /-- A capture, with lookups or without, takes nothing but observations. -/
  spares : (s.after steps).Spares ((s.after steps).step (.capture recorder)).session recorder ∧
    ∀ lookups,
      (s.after steps).Spares ((s.after steps).step (.lookup recorder lookups)).session recorder

/-- **No observation is lost by captures, and none is found twice.** -/
theorem captured_after (keeps : Outlet → Bool) (now : Instant) (recorder : String)
    (steps : List (Step α)) : (start α keeps now).Captured recorder steps := by
  have htidy := tidy_after (α := α) keeps now steps
  have hdistinct := distinct_after (α := α) keeps now steps
  constructor
  case kept =>
    intro id
    have hnothing : (start α keeps now).Distinct := fun _ hr => absurd hr List.not_mem_nil
    rw [listed_eq hdistinct, taken_append_waiting (tidy_start keeps now) hnothing]
    rfl
  case lists => exact lists_capture hdistinct recorder
  case finds => exact reply_lookup _ recorder
  case known =>
    rintro before since rfl id hid
    have hknown := known_after (sound_after keeps now before) hid since
    have hafter : (start α keeps now).after (before ++ since) =
      ((start α keeps now).after before).after since := List.foldl_append
    rw [(lists_capture hdistinct recorder).histograms, listed_eq hdistinct, hafter]
    exact Registry.waiting?_of_mem hknown
  case spares =>
    refine ⟨?_, fun lookups => ?_⟩
    · rw [session_capture]
      exact spares_served htidy recorder
    · rw [session_lookup]
      exact spares_served htidy recorder

end Session
end Roomwatch
