import Mathlib
import Roomwatch.Proofs.Rows
import Roomwatch.Proofs.Unsigned

/-! Visits to a reporter.

The host program visits a reporter to tell it of events and to look at its tally, its page
and its routes (`Visit`). Whoever looks at a page has the recorder drained, at times that
the host program chooses. That cannot be told from anything that is seen later: two
reporters that heard the same show the same page, which is that of what they heard, however
often they were looked at in between (`drains_unseen`). Only where two series are written
with the same labels it is open which of their rows is sent, and then the same page may come
out with other rows each time (`renders_differ`). -/
namespace Roomwatch

open Exposition (Question Line Page Merges merged merges_merged)
open Number (Measure Exact whole wholeBound keepsPace_whole)
open Registry (keepsPace_exact)

/-- What the host program does with a reporter that has a recorder of its own. -/
inductive Visit where
  | clock (now : Instant)
  | tell (events : List Event)
  | tally
  | upkeep
  | render
  | compareHandle
  | ask (questions : List Question)
  | route (number : String)
  | request (number method address : String)

namespace Visit

/-- The step that a visit to the reporter of a name is. -/
def step (α : Type) (name : String) : Visit → Step α
  | .clock now => .clock now
  | .tell events => .report name events
  | .tally => .tally name
  | .upkeep => .upkeep name
  | .render => .render name
  | .compareHandle => .compareHandle name
  | .ask questions => .ask name questions
  | .route number => .route name number
  | .request number method address => .request number method address

/-- What the clock shows after a visit. -/
def later (now : Instant) : Visit → Instant
  | .clock later => later
  | _ => now

/-- What a reporter hears of a visit. -/
def heard (now : Instant) : Visit → History
  | .tell events => events.map fun e => (now, e)
  | _ => []

/-- What a reporter hears in the course of some visits, by a clock that first shows `now`. -/
def history : Instant → List Visit → History := historyOf later heard

/-- Whether a reporter hears nothing of a visit. -/
def isQuiet : Visit → Bool
  | .tell _ => false
  | _ => true

theorem history_quiet {visits : List Visit} (h : ∀ v ∈ visits, v.isQuiet = true) (now : Instant) :
    history now visits = [] := by
  induction visits generalizing now with
  | nil => rfl
  | cons v rest ih =>
    rw [List.forall_mem_cons] at h
    rw [history, historyOf, show historyOf later heard _ rest = [] from ih h.2 _, List.append_nil]
    cases v with
    | tell events => exact absurd h.1 Bool.false_ne_true
    | _ => rfl

end Visit

/-- The texts that a page may be sent as. -/
def Reply.SentAs {α : Type} (reply : Reply α) (text : String) : Prop :=
  ∃ p, reply = .page (some p) ∧ p.Lists text

/-- A page that shows a registry and some lifetimes, whichever text it is sent as: all comments, all
rows of lifetimes, and the lines of counters and gauges, of which one stays of all that are
written alike, and so every single one when all are written apart. -/
structure Reply.Shows {α : Type} [Measure α] (reply : Reply α) (settings : Settings)
    (r : Registry α) (lifetimes : List α) (sum : α) : Prop where
  sent : ∃ text, reply.SentAs text
  rows : ∀ text, reply.SentAs text → ∃ kept, Merges r.lines kept ∧
    (r.WrittenApart → kept.Perm r.lines) ∧
    (Exposition.rows text).Perm
      (commentRows settings r ++ kept.map Line.text ++ lifetimeRows settings lifetimes sum)

namespace Session
variable {α : Type} [Measure α]

/-- The session after some visits to the reporter of a name. -/
def visited (s : Session α) (name : String) (visits : List Visit) : Session α :=
  s.after (visits.map (Visit.step α name))

/-- What the reporter of a name answers when its page is asked for after some visits. -/
def rendered (s : Session α) (name : String) (visits : List Visit) : Reply α :=
  ((s.visited name visits).step (.render name)).reply

/-- What it answers when its tally is asked for. -/
def tallied (s : Session α) (name : String) (visits : List Visit) : Reply α :=
  ((s.visited name visits).step (.tally name)).reply

/-- Visits of which nobody can tell afterwards which of them it were: the tallies are the same
wherever the same was heard, and whoever looks again without telling anything sees the same page,
with the same lines if that can be said of any page. -/
structure Unseen (s : Session α) (name : String) (a b : List Visit) (apart : Prop) : Prop where
  tallies : ∀ a' b', a' <+: a → b' <+: b → Visit.history s.now a' = Visit.history s.now b' →
    ∃ tally, s.tallied name a' = .tally tally ∧ s.tallied name b' = .tally tally
  again : ∀ quiet : List Visit, (∀ v ∈ quiet, v.isQuiet = true) →
    s.rendered name (a ++ quiet) = s.rendered name a
  compared : apart → ((s.visited name a).step (.compareHandle name)).reply = .sameText true

section Visits
variable {s : Session α} {name : String} {r : Reporter} {d : Desk α}

/-- After a visit the clock has gone on, and a reporter has performed what it heard, among
drains. -/
theorem Hosts.visit (h : s.Hosts (.named name) r d) (hexposed : r.exposed = true) (v : Visit) :
    (s.step (v.step α name)).session.now = v.later s.now ∧
      ∃ calls, events calls = v.heard s.now ∧
        (s.step (v.step α name)).session.Hosts (.named name) r (d.serve s.keeps calls) := by
  have hfound (act : Reporter → Outcome α) :
    s.withReporter name act = act { r with handles := d.handles } := withReporter_eq h.seat act
  have hquiet : ∃ calls, events calls = [] ∧ s.Hosts (.named name) r (d.serve s.keeps calls) :=
    ⟨[], rfl, h⟩
  have hrender := render_of_exposed (s := s) (r := { r with handles := d.handles }) hexposed
  cases v with
  | clock now => exact ⟨rfl, [], rfl, { h with }⟩
  | tell told =>
    rw [Visit.step, step, hfound]
    refine ⟨rfl, (told.map fun e => (s.now, e)).map fun timed => .event timed.1 timed.2,
      events_of_history _, ?_⟩
    rw [Desk.serve_events]
    exact h.told told
  | tally =>
    rw [Visit.step, step, hfound]
    exact ⟨rfl, hquiet⟩
  | upkeep =>
    rw [Visit.step, step, hfound, upkeep, if_pos hexposed]
    exact ⟨rfl, h.expose r.recorder⟩
  | render =>
    rw [Visit.step, step, hfound, hrender]
    exact ⟨rfl, h.expose r.recorder⟩
  | compareHandle =>
    rw [Visit.step, step, hfound, compareHandle, hrender]
    obtain ⟨first, hfirst, hhosts⟩ := h.expose r.recorder
    obtain ⟨second, hsecond, hhosts⟩ := hhosts.expose r.recorder
    refine ⟨rfl, first ++ second, ?_, ?_⟩
    · rw [events_append, hfirst, hsecond]
      rfl
    · rw [Desk.serve_append]
      exact hhosts
  | ask questions =>
    rw [Visit.step, step, hfound, ask, hrender]
    dsimp only
    split <;> exact ⟨rfl, h.expose r.recorder⟩
  | route number =>
    rw [Visit.step, step, hfound]
    exact ⟨rfl, [], rfl, { h with }⟩
  | request number method address =>
    rw [Visit.step, step]
    cases s.routes.get? number with
    | none => exact ⟨rfl, hquiet⟩
    | some n =>
      dsimp only
      unfold request
      dsimp only
      split
      · exact ⟨rfl, h.expose n⟩
      · exact ⟨rfl, hquiet⟩

theorem Hosts.visited (h : s.Hosts (.named name) r d) (hexposed : r.exposed = true)
    (visits : List Visit) :
    ∃ calls, events calls = Visit.history s.now visits ∧
      (s.visited name visits).Hosts (.named name) r (d.serve s.keeps calls) := by
  induction visits generalizing s d with
  | nil => exact ⟨[], rfl, h⟩
  | cons v rest ih =>
    obtain ⟨hnow, calls, hcalls, hvisit⟩ := h.visit hexposed v
    obtain ⟨more, hmore, hrest⟩ := ih hvisit
    refine ⟨calls ++ more, ?_, ?_⟩
    · rw [events_append, hcalls, hmore, hnow]
      rfl
    · rw [keeps_step] at hrest
      rw [Desk.serve_append]
      exact hrest

/-! ### Answers -/

theorem Hosts.render (h : s.Hosts (.named name) r d) (hexposed : r.exposed = true) :
    (s.step (.render name)).reply = .page (some d.recorder.drain.page) := by
  have hfound : s.step (.render name) = _ := withReporter_eq h.seat _
  rw [hfound, render_of_exposed (r := { r with handles := d.handles }) hexposed, Session.expose,
    h.recorder]
  rfl

theorem Hosts.compare (h : s.Hosts (.named name) r d) (hexposed : r.exposed = true) :
    (s.step (.compareHandle name)).reply =
      .sameText (d.recorder.drain.page.sameLines d.recorder.drain.drain.page) := by
  have hfound : s.step (.compareHandle name) = _ := withReporter_eq h.seat _
  have hdrained := h.setRecorder d.recorder.drain
  rw [hfound, compareHandle, render_of_exposed (r := { r with handles := d.handles }) hexposed,
    Session.expose, h.recorder]
  simp only [Session.expose, hdrained.recorder, Recorder.expose]
  rfl

theorem Hosts.tally_eq (h : s.Hosts (.named name) r d) :
    (s.step (.tally name)).reply = .tally d.tally := by
  have hfound : s.step (.tally name) = _ := withReporter_eq h.seat _
  rw [hfound, ← h.tally]
  rfl

/-- A new reporter is hosted. -/
theorem hosts_build (s : Session α) (name : String) {draft : Draft} {settings : Settings}
    (hdraft : draft.settings = .ok settings) (hcheck : settings.check = .ok ()) :
    ∃ r, r.exposed = true ∧ (s.step (.build draft name)).session.Hosts (.named name) r
      (Desk.opened s.keeps settings true {}) := by
  have hopen := s.open?_eq_establish hcheck
  obtain ⟨hhosts, -, hexposed⟩ := hosts_open hopen (.named name)
  refine ⟨_, hexposed, ?_⟩
  rw [step, withSettings, hdraft]
  dsimp only
  rw [hopen]
  exact hhosts

end Visits

/-! ### What can be seen -/

section Seen
variable (s : Session α) (name : String) {draft : Draft} {settings : Settings}
  (hdraft : draft.settings = .ok settings) (hcheck : settings.check = .ok ())
include hdraft hcheck

/-- After some visits a new reporter is where it would be at a desk of its own. -/
theorem visited_build (visits : List Visit) :
    let t := (s.step (.build draft name)).session
    let h := Visit.history t.now visits
    ∃ r d, r.exposed = true ∧ (t.visited name visits).Hosts (.named name) r d ∧
      d.recorder.Tells settings h ∧
      d.tally = ((Desk.opened t.keeps settings true ({} : Recorder α)).run t.keeps h).tally := by
  intro t h
  have hkeeps : t.keeps = s.keeps := s.keeps_step (.build draft name)
  obtain ⟨r, hexposed, hbuilt⟩ := s.hosts_build name hdraft hcheck
  obtain ⟨calls, hcalls, hvisited⟩ := hbuilt.visited hexposed visits
  have htells := Desk.tells_serve (α := α) t.keeps settings true calls
  have hserve := Desk.serve_congr t.keeps calls
    (d := Desk.opened t.keeps settings true ({} : Recorder α)) rfl rfl rfl
  rw [hcalls] at htells hserve
  rw [← hkeeps] at hvisited
  exact ⟨r, _, hexposed, hvisited, htells, hserve.2.2⟩

/-- The page of a new reporter after some visits. -/
theorem rendered_build (visits : List Visit) :
    let t := (s.step (.build draft name)).session
    let h := Visit.history t.now visits
    ∃ d : Distribution α, d.Gathered (h.lifetimes.map Measure.ofNanos) ∧
      t.rendered name visits = .page (some (Desk.shown α settings h d)) := by
  intro t h
  obtain ⟨r, d, hexposed, hhosts, htells, -⟩ := s.visited_build name hdraft hcheck visits
  obtain ⟨settled, hgathered, hpage, -⟩ := htells.page
  refine ⟨settled, hgathered, ?_⟩
  rw [rendered, hhosts.render hexposed, hpage]

/-- It shows what was booked and all lifetimes. -/
theorem shows_build (hp : Number.Printed α) (visits : List Visit) :
    let t := (s.step (.build draft name)).session
    let h := Visit.history t.now visits
    ∃ d : Distribution α, d.Gathered (h.lifetimes.map Measure.ofNanos) ∧
      (t.rendered name visits).Shows settings (Desk.booked α settings h)
        (h.lifetimes.map Measure.ofNanos) d.sum := by
  intro t h
  obtain ⟨d, hgathered, hrendered⟩ := s.rendered_build name hdraft hcheck visits
  refine ⟨d, hgathered, ⟨⟨_, _, hrendered, Page.lists_text _⟩, ?_⟩⟩
  rintro text ⟨p, hreply, ht⟩
  rw [hrendered] at hreply
  obtain rfl := Option.some.inj (Reply.page.inj hreply)
  exact Desk.rows_shown h d hp hcheck hgathered.covers ht

theorem tallied_build (visits : List Visit) :
    let t := (s.step (.build draft name)).session
    t.tallied name visits = .tally
      ((Desk.opened t.keeps settings true ({} : Recorder α)).run t.keeps
        (Visit.history t.now visits)).tally := by
  intro t
  obtain ⟨r, d, -, hhosts, -, htally⟩ := s.visited_build name hdraft hcheck visits
  rw [tallied, hhosts.tally_eq, htally]

/-- Two renders in a row have surely the same lines if it does not show what is merged. -/
theorem compared_build (visits : List Visit)
    (hidle : ∀ (nanos : List Nat) (d : Distribution α), d.Gathered (nanos.map Measure.ofNanos) →
      d.addBatch [] = d) {p : Page}
    (hp : let t := (s.step (.build draft name)).session
      t.rendered name visits = .page (some p)) :
    let t := (s.step (.build draft name)).session
    ((t.visited name visits).step (.compareHandle name)).reply = .sameText p.isCertain := by
  intro t
  obtain ⟨r, d, hexposed, hhosts, htells, -⟩ := s.visited_build name hdraft hcheck visits
  have hquiet : events [.drain] = [] := rfl
  have hsame := htells.page_idle (hidle _) t.keeps d rfl hquiet
  dsimp only at hp
  rw [rendered, hhosts.render hexposed] at hp
  obtain rfl := Option.some.inj (Reply.page.inj hp)
  rw [hhosts.compare hexposed, show d.recorder.drain.drain.page = _ from hsame, Page.sameLines]
  simp

/-- Visits of which a reporter heard the same cannot be told apart, as long as a further drain adds
nothing to a distribution of lifetimes. -/
theorem unseen_build (a b : List Visit)
    (hidle : ∀ (nanos : List Nat) (d : Distribution α), d.Gathered (nanos.map Measure.ofNanos) →
      d.addBatch [] = d) :
    let t := (s.step (.build draft name)).session
    Unseen t name a b (Desk.booked α settings (Visit.history t.now a)).WrittenApart := by
  intro t
  obtain ⟨r, d, hexposed, hhosts, htells, -⟩ := s.visited_build name hdraft hcheck a
  constructor
  case tallies =>
    intro a' b' _ _ hheard
    refine ⟨_, s.tallied_build name hdraft hcheck a', ?_⟩
    rw [s.tallied_build name hdraft hcheck b', hheard]
  case again =>
    intro quiet hquiet
    obtain ⟨calls, hcalls, hlater⟩ := hhosts.visited hexposed quiet
    rw [Visit.history_quiet hquiet] at hcalls
    rw [show (t.visited name a).keeps = t.keeps from t.keeps_after _] at hlater
    have hsame := htells.page_idle (hidle _) t.keeps d rfl hcalls
    have hafter : t.visited name (a ++ quiet) = (t.visited name a).visited name quiet := by
      rw [visited, List.map_append, after, List.foldl_append]
      rfl
    rw [rendered, rendered, hafter, hlater.render hexposed, hhosts.render hexposed, hsame]
  case compared =>
    intro hapart
    obtain ⟨settled, -, hrendered⟩ := s.rendered_build name hdraft hcheck a
    rw [s.compared_build name hdraft hcheck a hidle hrendered,
      (Desk.apart_shown _ settled hapart).isCertain]

end Seen

end Session
open Session

/-- **Drains cannot be seen.** Take a new reporter in any session and two lists of visits of
which it hears the same, wherever they look at its page, drain it or request its routes.
With exact numbers the page shows the same after both: what was booked, and each lifetime
once. In binary64 the same holds but for the sum, which may have been put together in other
batches. -/
theorem drains_unseen (keeps : Outlet → Bool) (now : Instant) (name : String) {draft : Draft}
    {settings : Settings} (hdraft : draft.settings = .ok settings)
    (hcheck : settings.check = .ok ()) (a b : List Visit) :
    (∀ before : List (Step Exact),
      let s := (((start Exact keeps now).after before).step (.build draft name)).session
      let h := Visit.history s.now a
      let booked := Desk.booked Exact settings h
      let lifetimes : List Exact := h.lifetimes.map Measure.ofNanos
      h = Visit.history s.now b →
        Balanced Exact.ofInt settings h booked ∧ Unseen s name a b booked.WrittenApart ∧
        (s.rendered name a).Shows settings booked lifetimes ⟨h.lifetimes.sum⟩ ∧
        (s.rendered name b).Shows settings booked lifetimes ⟨h.lifetimes.sum⟩) ∧
    ∀ before : List (Step Float),
      let s := (((start Float keeps now).after before).step (.build draft name)).session
      let h := Visit.history s.now a
      let booked := Desk.booked Float settings h
      let lifetimes : List Float := h.lifetimes.map Measure.ofNanos
      h = Visit.history s.now b →
        (h.length ≤ wholeBound → Balanced whole settings h booked) ∧
        Unseen s name a b booked.WrittenApart ∧
        ∃ d e : Distribution Float, d.Gathered lifetimes ∧ e.Gathered lifetimes ∧
          (s.rendered name a).Shows settings booked lifetimes d.sum ∧
          (s.rendered name b).Shows settings booked lifetimes e.sum := by
  constructor
  · intro before s h booked lifetimes hsame
    let t := (start Exact keeps now).after before
    obtain ⟨d, hd, hshows⟩ := t.shows_build name hdraft hcheck Number.printed_exact a
    obtain ⟨e, he, hshows'⟩ := t.shows_build name hdraft hcheck Number.printed_exact b
    rw [← hsame] at he hshows'
    rw [hd.exact] at hshows
    rw [he.exact] at hshows'
    exact ⟨balanced_booked settings h (keepsPace_exact h.length) (le_refl _),
      t.unseen_build name hdraft hcheck a b fun _ _ => Distribution.Gathered.addBatch_nil,
      hshows, hshows'⟩
  · intro before s h booked lifetimes hsame
    let t := (start Float keeps now).after before
    obtain ⟨d, hd, hshows⟩ := t.shows_build name hdraft hcheck Number.printed_float a
    obtain ⟨e, he, hshows'⟩ := t.shows_build name hdraft hcheck Number.printed_float b
    rw [← hsame] at he hshows'
    exact ⟨balanced_booked settings h keepsPace_whole,
      t.unseen_build name hdraft hcheck a b fun _ _ => Distribution.Gathered.idle,
      d, e, hd, he, hshows, hshows'⟩

/-- Two rooms end, with every kind of drain in between or with none at all. -/
theorem drains_unseen_two :
    let draft : Draft := ⟨"n1", "server", "test", some "sfu"⟩
    let settings : Settings := ⟨"n1", .server, "test", "sfu"⟩
    let first : Visit := .tell [.roomStarted, .roomStarted, .roomEnded (some (.ofParts 2 0))]
    let last : Visit := .tell [.roomEnded (some (.ofParts 1 0)), .subscribed "a \"b\""]
    let a : List Visit := [first, .clock (.ofParts 9 0), last]
    let b : List Visit := [.route "m", first, .upkeep, .request "m" "GET" "/metrics", .render,
      .clock (.ofParts 9 0), .request "m" "HEAD" "/metrics", last, .compareHandle]
    let s := (((start Exact Outlet.isKept (.ofParts 5 0)).after []).step (.build draft "r")).session
    let h := Visit.history s.now a
    let booked := Desk.booked Exact settings h
    let lifetimes : List Exact := [⟨3000000000⟩, ⟨8000000000⟩]
    draft.settings = .ok settings ∧ settings.check = .ok () ∧ h = Visit.history s.now b ∧
      booked.WrittenApart ∧ Balanced Exact.ofInt settings h booked ∧
      Unseen s "r" a b booked.WrittenApart ∧
      (s.rendered "r" a).Shows settings booked lifetimes ⟨11000000000⟩ ∧
      (s.rendered "r" b).Shows settings booked lifetimes ⟨11000000000⟩ := by
  intro draft settings first last a b s h booked lifetimes
  have hdraft : draft.settings = .ok settings := by decide +kernel
  have hcheck : settings.check = .ok () := by decide +kernel
  have hsame : h = Visit.history s.now b := by decide +kernel
  have hlifetimes : h.lifetimes = [3000000000, 8000000000] := by decide +kernel
  have hapart : booked.WrittenApart := by
    refine Desk.writtenApart_booked h fun timed htimed text htext => clean_of_notMem ?_
    have hplain : ∀ timed ∈ h, ∀ text ∈ timed.2.text?, '\\' ∉ text.toList := by decide +kernel
    exact hplain timed htimed text htext
  obtain ⟨hbalanced, hunseen, hshows, hshows'⟩ :=
    (drains_unseen Outlet.isKept (.ofParts 5 0) "r" hdraft hcheck a b).1 [] hsame
  rw [show Visit.history _ a = h from rfl, hlifetimes] at hshows hshows'
  exact ⟨hdraft, hcheck, hsame, hapart, hbalanced, hunseen, hshows, hshows'⟩

/-- Two kinds that differ in a backslash before a quote are written alike. Which of their rows is
sent may differ between two renders with nothing in between. -/
theorem renders_differ :
    let draft : Draft := ⟨"n1", "server", "test", some "sfu"⟩
    let settings : Settings := ⟨"n1", .server, "test", "sfu"⟩
    let a : List Visit :=
      [.tell [.trackPublished "a\"", .trackPublished "a\\\"", .trackPublished "a\\\""]]
    let s := (((start Exact Outlet.isKept (.ofParts 5 0)).after []).step (.build draft "r")).session
    draft.settings = .ok settings ∧ settings.check = .ok () ∧
      ((s.visited "r" a).step (.compareHandle "r")).reply = .sameText false ∧
      ∃ text other, (s.rendered "r" a).SentAs text ∧
        (s.rendered "r" (a ++ [.render])).SentAs other ∧
        ¬ (Exposition.rows text).Perm (Exposition.rows other) := by
  intro draft settings a s
  have hdraft : draft.settings = .ok settings := by decide +kernel
  have hcheck : settings.check = .ok () := by decide +kernel
  let t := (start Exact Outlet.isKept (.ofParts 5 0)).after []
  have hidle (nanos : List Nat) (d : Distribution Exact) :
      d.Gathered (nanos.map Measure.ofNanos) → d.addBatch [] = d :=
    Distribution.Gathered.addBatch_nil
  obtain ⟨d, hgathered, hpage⟩ := t.rendered_build "r" hdraft hcheck a
  rw [hgathered.exact] at hpage
  have hagain := (t.unseen_build "r" hdraft hcheck a a hidle).again [.render] (by decide)
  have hcompared := t.compared_build "r" hdraft hcheck a hidle hpage
  let page := Desk.shown Exact settings (Visit.history s.now a)
    (.ofLifetimes (Visit.history s.now a).lifetimes)
  have hreadable : ∀ f ∈ page.families, f.Readable :=
    Recorder.readable_page Number.printed_exact (Desk.readable_shownBy _ hcheck)
  have huncertain : page.isCertain = false := by decide +kernel
  have hlast := page.arranges_kept merges_merged
  have hfirst : page.Arranges (page.kept fun lines => merged lines.reverse) :=
    page.arranges_kept fun lines => (merges_merged lines.reverse).of_perm (List.reverse_perm lines)
  refine ⟨hdraft, hcheck, hcompared.trans (congrArg _ huncertain), _, _,
    ⟨page, hpage, _, hlast, rfl⟩, ⟨page, hagain.trans hpage, _, hfirst, rfl⟩, ?_⟩
  rw [hlast.rows_eq hreadable, hfirst.rows_eq hreadable]
  decide +kernel

end Roomwatch
