import Roomwatch.Registry.Basic

/-! The tally of a reporter.

Beside its series a reporter keeps nine signed 32-bit numbers, which the host
program can read without a scrape. They wrap around at their ends and may be
negative. `Tally.get` reads one field, and `get_step` says that a step moves its
own field by one and no other. -/
namespace Roomwatch

structure Tally where
  rooms : Int32 := 0
  participants : Int32 := 0
  published : Int32 := 0
  subscribed : Int32 := 0
  publishAttempts : Int32 := 0
  publishSuccesses : Int32 := 0
  subscribeAttempts : Int32 := 0
  subscribeSuccesses : Int32 := 0
  userErrors : Int32 := 0
deriving DecidableEq, Repr

namespace Tally

inductive Field where
  | rooms | participants | published | subscribed | publishAttempts | publishSuccesses
  | subscribeAttempts | subscribeSuccesses | userErrors
deriving DecidableEq, Repr

def get (t : Tally) : Field → Int32
  | .rooms => t.rooms
  | .participants => t.participants
  | .published => t.published
  | .subscribed => t.subscribed
  | .publishAttempts => t.publishAttempts
  | .publishSuccesses => t.publishSuccesses
  | .subscribeAttempts => t.subscribeAttempts
  | .subscribeSuccesses => t.subscribeSuccesses
  | .userErrors => t.userErrors

def add (t : Tally) (field : Field) (n : Int32) : Tally :=
  match field with
  | .rooms => { t with rooms := t.rooms + n }
  | .participants => { t with participants := t.participants + n }
  | .published => { t with published := t.published + n }
  | .subscribed => { t with subscribed := t.subscribed + n }
  | .publishAttempts => { t with publishAttempts := t.publishAttempts + n }
  | .publishSuccesses => { t with publishSuccesses := t.publishSuccesses + n }
  | .subscribeAttempts => { t with subscribeAttempts := t.subscribeAttempts + n }
  | .subscribeSuccesses => { t with subscribeSuccesses := t.subscribeSuccesses + n }
  | .userErrors => { t with userErrors := t.userErrors + n }

/-- One step of a field, as a number to add. -/
def change : Direction → Int32
  | .up => 1
  | .down => -1

def step (t : Tally) (field : Field) (d : Direction) : Tally := t.add field (change d)

/-- The fields with their names, in the order in which they are shown. -/
def entries (t : Tally) : List (String × Int32) :=
  [("room_current", t.rooms),
    ("participant_current", t.participants),
    ("track_published_current", t.published),
    ("track_subscribed_current", t.subscribed),
    ("track_publish_attempts", t.publishAttempts),
    ("track_publish_success", t.publishSuccesses),
    ("track_subscribe_attempts", t.subscribeAttempts),
    ("track_subscribe_success", t.subscribeSuccesses),
    ("track_subscribe_user_error", t.userErrors)]

theorem get_add (t : Tally) (field other : Field) (n : Int32) :
    (t.add field n).get other = t.get other + if other = field then n else 0 := by
  cases field <;> cases other <;> simp [add, get]

theorem get_step (t : Tally) (field other : Field) (d : Direction) :
    (t.step field d).get other = t.get other + if other = field then change d else 0 :=
  get_add t field other (change d)

theorem ext_get {s t : Tally} (h : ∀ field, s.get field = t.get field) : s = t := by
  obtain ⟨⟩ := s
  obtain ⟨⟩ := t
  simp only [mk.injEq]
  exact ⟨h .rooms, h .participants, h .published, h .subscribed, h .publishAttempts,
    h .publishSuccesses, h .subscribeAttempts, h .subscribeSuccesses, h .userErrors⟩

end Tally
end Roomwatch
