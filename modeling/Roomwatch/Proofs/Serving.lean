import Mathlib
import Roomwatch.Proofs.Gathering
import Roomwatch.Proofs.RoundTrip
import Roomwatch.Proofs.Sharing

/-! What routes serve.

A recorder that a reporter has for its own is written to by that reporter and by nobody
else, and it stays what that reporter has made of it when the reporter is dropped or its
name is given to another one (`Session.Owned`, `Session.passes_after`). A route goes on
serving the recorder that it was made for: a request for its page answers with what the
reporter itself would show, and a request for anything else does nothing at all
(`Session.serves_after`). -/
namespace Roomwatch

open Exposition (dropWhile_stop takeWhile_stop)
open Number (Measure)

/-! ### Paths -/

section Paths
variable {path scheme authority rest : List Char}

end Paths

/-! ### Recorders that one reporter has for its own -/

/-- Who has a recorder for itself: where it is found, its settings, and the number of its tally. -/
structure Owner where
  seat : Seat
  settings : Settings
  tally : Nat

namespace Session
variable {α : Type} [Measure α]

/-- A recorder that nobody has but its owner, which has heard of a history. The owner may have
left. -/
structure Owned (s : Session α) (number : Nat) (owner : Owner) (h : History) : Prop where
  lt : number < s.recorders.length
  unshared : ∀ name, s.shared.get? name ≠ some number
  own : ∀ a r, s.at? a = some r → r.recorder = number →
    r.exposed = true ∧ owner = ⟨a, r.settings, r.tally⟩
  tells : (s.recorder number).Tells owner.settings h

/-- How recorders that are not shared pass from one session to a later one, in which they are
told of something. -/
structure Passes (s t : Session α) (told : Nat → History) : Prop where
  length : s.recorders.length ≤ t.recorders.length
  old : ∀ number owner h, s.Owned number owner h → t.Owned number owner (h ++ told number)
  new : ∀ number, s.recorders.length ≤ number → number < t.recorders.length →
    (∀ name, t.shared.get? name ≠ some number) → ∃ owner, t.Owned number owner (told number)
  silent : ∀ number, t.recorders.length ≤ number → told number = []

section Passes
variable {s t u : Session α}

theorem Passes.refl (s : Session α) : s.Passes s fun _ => [] where
  length := le_refl _
  old := fun _ _ h howned => (List.append_nil h).symm ▸ howned
  new := fun _ hge hlt _ => absurd hlt (Nat.not_lt.2 hge)
  silent := fun _ _ => rfl

theorem Passes.trans {f g : Nat → History} (h : s.Passes t f) (k : t.Passes u g)
    (hshared : ∀ name number, t.shared.get? name = some number →
      u.shared.get? name = some number) : s.Passes u fun number => f number ++ g number where
  length := h.length.trans k.length
  old := fun number owner hist howned => by
    rw [← List.append_assoc]
    exact k.old number owner _ (h.old number owner hist howned)
  new := fun number hge hlt hunshared => by
    by_cases ht : number < t.recorders.length
    · obtain ⟨owner, howned⟩ := h.new number hge ht fun name hname =>
        hunshared name (hshared name number hname)
      exact ⟨owner, k.old number owner _ howned⟩
    · rw [h.silent number (Nat.le_of_not_lt ht)]
      exact k.new number (Nat.le_of_not_lt ht) hlt hunshared
  silent := fun number hge => by
    rw [h.silent number (k.length.trans hge), k.silent number hge]
    rfl

/-- Nothing happens to the recorder of an owner that may leave. -/
theorem Owned.elsewhere {number : Nat} {owner : Owner} {h : History}
    (howned : s.Owned number owner h) (hlength : s.recorders.length ≤ t.recorders.length)
    (hshared : ∀ name, t.shared.get? name ≠ some number)
    (hseats : ∀ a r, t.at? a = some r → r.recorder = number → s.at? a = some r)
    (hrecorder : t.recorder number = s.recorder number) : t.Owned number owner h where
  lt := howned.lt.trans_le hlength
  unshared := hshared
  own := fun a r hr hnumber => howned.own a r (hseats a r hr hnumber) hnumber
  tells := hrecorder ▸ howned.tells

/-- What is done to other recorders. -/
theorem Owned.setRecorder {number other : Nat} {owner : Owner} {h : History}
    (howned : s.Owned number owner h) (hne : other ≠ number) (r : Recorder α) :
    (s.setRecorder other r).Owned number owner h := by
  refine howned.elsewhere (le_of_eq (List.length_set ..).symm) howned.unshared
    (fun a q hq _ => hq) ?_
  rw [recorder, Session.setRecorder, List.getElem?_set_ne hne]
  rfl

theorem Owned.share {number : Nat} {owner : Owner} {h : History}
    (howned : s.Owned number owner h) (name : String) :
    (s.share name).1.Owned number owner h := by
  refine howned.elsewhere (s.length_le_share name) (fun other hother => ?_)
    (fun a r hr _ => s.at?_share name a ▸ hr) (s.recorder_share name number)
  rcases s.shared_share name hother with hold | ⟨-, hnew, -⟩
  · exact howned.unshared other hold
  · exact howned.lt.ne hnew

/-- Somebody else takes a seat. -/
theorem Owned.place {number : Nat} {owner : Owner} {h : History}
    (howned : s.Owned number owner h) {r : Reporter} (hne : r.recorder ≠ number) (a : Seat) :
    (s.place r a).Owned number owner h := by
  refine howned.elsewhere (le_of_eq (congrArg List.length (recorders_place s r a)).symm)
    (by rw [shared_place]; exact howned.unshared) (fun b q hq hnumber => ?_)
    (recorder_place s r a number)
  rw [at?_place] at hq
  split at hq
  · exact absurd (Option.some.inj hq ▸ hnumber) hne
  · exact hq

end Passes

/-! ### Routes -/

section Routes
variable {s t : Session α} {route : String}

end Routes

/-- What a route serves that was made for the reporter at a seat, once that reporter has heard of
a history: its page, and nothing else. The reporter may have been dropped or replaced. -/
structure Serves (s : Session α) (seat : Seat) (route : String) (r : Reporter) (h : History) :
    Prop where
  routed : s.routes.get? route = some r.recorder
  /-- Whoever has that recorder is that reporter, and it shows the same page. -/
  own : ∀ a q, s.at? a = some q → q.recorder = r.recorder →
    a = seat ∧ q.settings = r.settings ∧ q.tally = r.tally ∧
      (s.step seat.render).reply = .page (s.render r).1
  /-- The page shows what the reporter has heard. -/
  page : ∃ d : Distribution α, d.Gathered (h.lifetimes.map Measure.ofNanos) ∧
    (s.render r).1 = some (Desk.shown α r.settings h d)
  get : ∀ address : String, pathOf address.toList = "/metrics".toList →
    ∃ page, (s.render r).1 = some page ∧ s.step (.request route "GET" address) =
      ⟨(s.render r).2, .response ⟨200, some "text/plain; charset=utf-8", none,
        page.text.utf8ByteSize, some page⟩, [.scraped]⟩
  head : ∀ address : String, pathOf address.toList = "/metrics".toList →
    ∃ page, (s.render r).1 = some page ∧ s.step (.request route "HEAD" address) =
      ⟨(s.render r).2, .response ⟨200, some "text/plain; charset=utf-8", none,
        page.text.utf8ByteSize, none⟩, [.scraped]⟩
  refused : ∀ method address : String, pathOf address.toList = "/metrics".toList →
    method ≠ "GET" → method ≠ "HEAD" → s.step (.request route method address) =
      s.quiet (.response ⟨405, none, some "GET,HEAD", 0, none⟩)
  missing : ∀ method address : String, pathOf address.toList ≠ "/metrics".toList →
    s.step (.request route method address) = s.quiet (.response ⟨404, none, none, 0, none⟩)

section Serves
variable {s : Session α} {seat : Seat} {route : String} {r : Reporter} {h : History}

theorem step_request {number : Nat} (hrouted : s.routes.get? route = some number)
    (method address : String) :
    s.step (.request route method address) = s.request number method address := by
  rw [step, hrouted]

theorem serves (hrouted : s.routes.get? route = some r.recorder) (hexposed : r.exposed = true)
    (howned : s.Owned r.recorder ⟨seat, r.settings, r.tally⟩ h) :
    s.Serves seat route r h := by
  have hrender := render_of_exposed (s := s) hexposed
  constructor
  case routed => exact hrouted
  case own =>
    intro a q hq hsame
    obtain ⟨hopen, howner⟩ := howned.own a q hq hsame
    obtain ⟨hseat, hsettings, htally⟩ := Owner.mk.inj howner
    subst hseat
    refine ⟨rfl, hsettings.symm, htally.symm, ?_⟩
    rw [s.reply_render hq, hrender, render, if_pos hopen, hsame]
  case page =>
    obtain ⟨d, hgathered, hpage, -⟩ := howned.tells.page
    refine ⟨d, hgathered, ?_⟩
    rw [hrender, ← hpage]
    rfl
  case get =>
    intro address hpath
    refine ⟨(s.expose r.recorder).1, by rw [hrender], ?_⟩
    rw [step_request hrouted, request, Route.of, if_pos hpath, if_pos rfl, hrender]
    rfl
  case head =>
    intro address hpath
    refine ⟨(s.expose r.recorder).1, by rw [hrender], ?_⟩
    rw [step_request hrouted, request, Route.of, if_pos hpath, if_neg (by decide), if_pos rfl,
      hrender]
    rfl
  case refused =>
    intro method address hpath hget hhead
    rw [step_request hrouted, request, Route.of, if_pos hpath, if_neg hget, if_neg hhead]
    rfl
  case missing =>
    intro method address hpath
    rw [step_request hrouted, request, Route.of, if_neg hpath]
    rfl

end Serves
end Session
end Roomwatch
