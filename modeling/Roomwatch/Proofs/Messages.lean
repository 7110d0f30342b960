import Mathlib
import Roomwatch.Proofs.Changes
import Roomwatch.Proofs.Totals

/-! Messages to reporters.

A message tells one reporter of one event (`Message`). The reporter performs the event at
its desk, and no other seat, tally or recorder changes (`heard`). So while two reporters
hear their messages in any order, each of them is and tallies what it would be and tally
at a desk of its own (`Pair.hear`). -/
namespace Roomwatch

open Number (Measure)

/-- A reporter is told of an event, by a clock that shows `now`. -/
structure Message where
  seat : Seat
  now : Instant
  event : Event

def Seat.tell (α : Type) (events : List Event) : Seat → Step α
  | .named name => .report name events
  | .resident => .residentReport events

namespace Message

def steps (α : Type) (m : Message) : List (Step α) := [.clock m.now, m.seat.tell α [m.event]]

/-- What one reporter is told. -/
def history (a : Seat) (messages : List Message) : History :=
  (messages.filter fun m => m.seat = a).map fun m => (m.now, m.event)

theorem history_cons_own (a : Seat) {m : Message} (hm : m.seat = a)
    (rest : List Message) :
    history a (m :: rest) = (m.now, m.event) :: history a rest := by
  simp [history, hm]

theorem history_cons_other (a : Seat) {m : Message} (hm : m.seat ≠ a)
    (rest : List Message) : history a (m :: rest) = history a rest := by
  simp [history, hm]

/-- Messages to two reporters are those to the one and those to the other. -/
theorem perm_history {a b : Seat} (hne : a ≠ b) {messages : List Message}
    (h : ∀ m ∈ messages, m.seat = a ∨ m.seat = b) :
    (messages.map fun m => (m.now, m.event)).Perm (history a messages ++ history b messages) := by
  induction messages with
  | nil => exact .nil
  | cons m rest ih =>
    rw [List.forall_mem_cons] at h
    rcases h.1 with hfirst | hsecond
    · rw [history_cons_own a hfirst, history_cons_other b (hfirst ▸ hne)]
      exact (ih h.2).cons _
    · rw [history_cons_own b hsecond, history_cons_other a (hsecond ▸ hne.symm)]
      exact ((ih h.2).cons _).trans List.perm_middle.symm

end Message

namespace Desk
variable {α : Type} [Measure α] (keeps : Outlet → Bool) {d e : Desk α}

/-- What a reporter holds and tallies does not depend on its recorder. -/
theorem apply_congr (u : Update) (hs : d.settings = e.settings) (hh : d.handles = e.handles)
    (ht : d.tally = e.tally) :
    (d.apply keeps u).handles = (e.apply keeps u).handles ∧
      (d.apply keeps u).tally = (e.apply keeps u).tally := by
  cases u with
  | acquire o =>
    simp only [apply, acquire, hh, hs]
    split <;> simp [hh, ht]
  | tally field direction => exact ⟨hh, congrArg (Tally.step · field direction) ht⟩
  | _ => exact ⟨hh, ht⟩

theorem perform_congr (now : Instant) (event : Event) (hs : d.settings = e.settings)
    (hh : d.handles = e.handles) (ht : d.tally = e.tally) :
    (d.perform keeps now event).handles = (e.perform keeps now event).handles ∧
      (d.perform keeps now event).tally = (e.perform keeps now event).tally := by
  rw [perform, perform]
  induction event.updates now generalizing d e with
  | nil => exact ⟨hh, ht⟩
  | cons u rest ih =>
    obtain ⟨hh, ht⟩ := apply_congr keeps u hs hh ht
    refine ih ?_ hh ht
    rw [settings_apply, settings_apply, hs]

end Desk

namespace Session
variable {α : Type}

/-- A reporter at a seat of a session, as it would be had it worked at a desk of its own. -/
structure Follows (s : Session α) (a : Seat) (r : Reporter) (d : Desk α) : Prop where
  seat : s.at? a = some { r with handles := d.handles }
  settings : d.settings = r.settings
  tally : s.tally r.tally = d.tally

/-- Two reporters at different seats, as they would be at desks of their own. -/
structure Pair (s : Session α) (a b : Seat) (r q : Reporter) (d e : Desk α) : Prop where
  sound : s.Sound
  apart : a ≠ b
  first : s.Follows a r d
  second : s.Follows b q e

theorem Pair.symm {s : Session α} {a b : Seat} {r q : Reporter} {d e : Desk α}
    (h : s.Pair a b r q d e) : s.Pair b a q r e d :=
  ⟨h.sound, h.apart.symm, h.second, h.first⟩

variable [Measure α]

/-- The session after some messages. -/
def hear (s : Session α) (messages : List Message) : Session α :=
  s.after (messages.flatMap (Message.steps α))

/-- What a message to a reporter leaves: the reporter has performed the event, and no other
seat, tally or recorder has changed. -/
structure Heard (s t : Session α) (m : Message) (r : Reporter) : Prop where
  keeps : t.keeps = s.keeps
  seats : ∀ b, t.at? b =
    if b = m.seat then
      some { r with handles := ((s.desk r).perform s.keeps m.now m.event).handles }
    else s.at? b
  tallies : ∀ number, t.tally number =
    if number = r.tally then ((s.desk r).perform s.keeps m.now m.event).tally
    else s.tally number
  recorders : ∀ number, t.recorder number =
    if number = r.recorder then ((s.desk r).perform s.keeps m.now m.event).recorder
    else s.recorder number

section Messages
variable {s : Session α} {a b : Seat} {r q : Reporter} {d e : Desk α} {m : Message}

theorem hear_cons (s : Session α) (m : Message) (rest : List Message) :
    s.hear (m :: rest) = (s.hear [m]).hear rest := by
  simp only [hear, after, List.flatMap_cons, List.flatMap_nil, List.append_nil, List.foldl_append]

theorem sound_hear (h : s.Sound) (messages : List Message) : (s.hear messages).Sound :=
  of_after (fun _ _ => sound_change) h _

theorem heard (h : s.Sound) (hr : s.at? m.seat = some r) : s.Heard (s.hear [m]) m r := by
  have htold : s.hear [m] = { s with now := m.now }.told m.seat r [m.event] := by
    obtain ⟨seat, now, event⟩ := m
    cases seat with
    | named name =>
      have hfound : { s with now }.reporters.get? name = some r := hr
      show (withReporter { s with now } name _).session = _
      rw [withReporter, hfound]
      rfl
    | resident =>
      have hfound : { s with now }.resident = some r := hr
      show (withResident { s with now } _).session = _
      rw [withResident, hfound]
      rfl
  have hrecorder := h.recorder_lt _ r hr
  have htally := h.tally_lt _ r hr
  rw [htold]
  constructor
  case keeps => exact keeps_told _
  case seats => exact at?_told _
  case tallies => exact tally_told (s := { s with now := m.now }) _ htally
  case recorders => exact recorder_told (s := { s with now := m.now }) _ hrecorder

/-- A reporter goes on to be as it would be at a desk of its own when it hears a message. -/
theorem Follows.own (h : s.Sound) (hf : s.Follows m.seat r d) :
    (s.hear [m]).Follows m.seat r (d.perform s.keeps m.now m.event) := by
  have hheard := heard h hf.seat
  obtain ⟨hhandles, htally⟩ := Desk.perform_congr (d := s.desk { r with handles := d.handles })
    (e := d) s.keeps m.now m.event hf.settings.symm rfl hf.tally
  constructor
  case seat => rw [hheard.seats, if_pos rfl, hhandles]
  case settings => exact (Desk.settings_applyAll _ _ _).trans hf.settings
  case tally => rw [hheard.tallies, if_pos rfl, htally]

/-- A message to another reporter is none of its business. -/
theorem Follows.other (h : s.Sound) (hf : s.Follows a r d) (hq : s.at? m.seat = some q)
    (hne : a ≠ m.seat) : (s.hear [m]).Follows a r d := by
  have hheard := heard h hq
  have htally : r.tally ≠ q.tally := fun he => hne (h.apart a m.seat _ q hf.seat hq he)
  constructor
  case seat => rw [hheard.seats, if_neg hne, hf.seat]
  case settings => exact hf.settings
  case tally => rw [hheard.tallies, if_neg htally, hf.tally]

/-- What a message does to the registries. -/
theorem registry_heard (h : s.Sound) (hr : s.at? m.seat = some r) (number : Nat) :
    ((s.hear [m]).recorder number).registry =
      if number = r.recorder then
        (s.recorder number).registry.actAll (acts r.settings (m.event.updates m.now))
      else (s.recorder number).registry := by
  rw [(heard h hr).recorders]
  split
  · next hn =>
    subst hn
    exact (Desk.registry_applyAll s.keeps (h.desks _ r hr) _).2
  · rfl

/-! ### Two reporters -/

theorem Pair.hear_first (h : s.Pair a b r q d e) (hm : m.seat = a) :
    (s.hear [m]).Pair a b r q (d.perform s.keeps m.now m.event) e := by
  subst hm
  exact ⟨sound_hear h.sound _, h.apart, h.first.own h.sound,
    h.second.other h.sound h.first.seat h.apart.symm⟩

theorem Pair.hear_second (h : s.Pair a b r q d e) (hm : m.seat = b) :
    (s.hear [m]).Pair a b r q d (e.perform s.keeps m.now m.event) :=
  (h.symm.hear_first hm).symm

variable {messages : List Message}

/-- **What a reporter is and tallies depends on its own messages alone.** -/
theorem Pair.hear (h : s.Pair a b r q d e) (hm : ∀ m ∈ messages, m.seat = a ∨ m.seat = b) :
    (s.hear messages).Pair a b r q (d.run s.keeps (Message.history a messages))
      (e.run s.keeps (Message.history b messages)) := by
  induction messages generalizing s d e with
  | nil => exact h
  | cons m rest ih =>
    rw [List.forall_mem_cons] at hm
    rw [hear_cons]
    rcases hm.1 with hfirst | hsecond
    · have hpair := ih (h.hear_first hfirst) hm.2
      rw [(heard h.sound (hfirst ▸ h.first.seat)).keeps] at hpair
      rwa [Message.history_cons_own a hfirst, Message.history_cons_other b (hfirst ▸ h.apart)]
    · have hpair := ih (h.hear_second hsecond) hm.2
      rw [(heard h.sound (hsecond ▸ h.second.seat)).keeps] at hpair
      rwa [Message.history_cons_own b hsecond,
        Message.history_cons_other a (hsecond ▸ h.apart.symm)]

end Messages
end Session
end Roomwatch
