import Roomwatch.Journal
import Roomwatch.Reporter.Outlet
import Roomwatch.Tally

/-! Events and the updates they are made of.

The host tells its reporter what happens to rooms, participants and tracks. Each
event is a short list of updates, made one after the other: registering a series
that is written for the first time, moving a series, moving the tally, noting an
entry. Nothing joins the updates of one event, so another caller may come in
between two of them; `Event.updates` is their order. -/
namespace Roomwatch

inductive Event where
  | roomStarted
  /-- A room ended; its start may not be known. -/
  | roomEnded (start : Option Instant)
  | participantJoined
  | participantLeft
  | trackPublished (kind : String)
  | trackUnpublished (kind : String)
  | publishAttempted (kind : String)
  | publishSucceeded (kind : String)
  | subscribeAttempted
  | subscribed (kind : String)
  | unsubscribed (kind : String)
  | subscribeFailed (error : String) (byUser : Bool)
  | subscribeRefused (reason : Refusal)
deriving DecidableEq, Repr

/-- One indivisible change. -/
inductive Update where
  /-- Makes the series of an outlet known, unless the reporter holds it already. -/
  | acquire (outlet : Outlet)
  | move (outlet : Outlet) (d : Direction)
  | count (outlet : Outlet)
  /-- Observes a lifetime of so many nanoseconds. -/
  | observe (outlet : Outlet) (nanos : Nat)
  | tally (field : Tally.Field) (d : Direction)
  | note (entry : Entry)
deriving DecidableEq, Repr

/-- Whether a room with this start has a lifetime to observe: the start must lie in a whole
second after the first one of 1970. -/
def Instant.isStart (t : Instant) : Bool := 0 < t.seconds

namespace Event

/-- The observation of a lifetime. A start that is still to come is noted, and the lifetime
is then zero. -/
def lifetime (now start : Instant) : List Update :=
  let nanos := start.elapsed now
  (if nanos < 0 then [.note (.startAhead start)] else []) ++ [.observe .lifetimes nanos.toNat]

def failure (error : String) (byUser : Bool) : List Update :=
  [.acquire (.subscribeFailures error), .count (.subscribeFailures error)] ++
    (if byUser then [.tally .userErrors .up] else []) ++ [.note (.subscribeFailed error byUser)]

/-- The updates of an event, in order, by a clock that shows `now`. -/
def updates (now : Instant) : Event → List Update
  | .roomStarted => [.move .rooms .up, .tally .rooms .up]
  | .roomEnded start =>
    (match start.filter Instant.isStart with
      | some start => lifetime now start
      | none => []) ++ [.move .rooms .down, .tally .rooms .down]
  | .participantJoined => [.move .participants .up, .tally .participants .up]
  | .participantLeft => [.move .participants .down, .tally .participants .down]
  | .trackPublished kind =>
    [.acquire (.published kind), .move (.published kind) .up, .tally .published .up]
  | .trackUnpublished kind =>
    [.acquire (.published kind), .move (.published kind) .down, .tally .published .down]
  | .publishAttempted kind =>
    [.tally .publishAttempts .up, .acquire (.publishAttempts kind), .count (.publishAttempts kind)]
  | .publishSucceeded kind =>
    [.tally .publishSuccesses .up, .acquire (.publishSuccesses kind),
      .count (.publishSuccesses kind)]
  | .subscribeAttempted => [.tally .subscribeAttempts .up, .count .subscribeAttempts]
  | .subscribed kind =>
    [.acquire (.subscribed kind), .move (.subscribed kind) .up, .count .subscribeSuccesses,
      .tally .subscribed .up, .tally .subscribeSuccesses .up]
  | .unsubscribed kind =>
    [.acquire (.subscribed kind), .move (.subscribed kind) .down, .tally .subscribed .down]
  | .subscribeFailed error byUser => failure error byUser
  | .subscribeRefused reason => failure reason.label reason.byUser

end Event

/-- What a failed subscription may be told with: anything that has a text. -/
inductive Cause where
  | text (value : String)
  | number (value : Int)
  | fault (value : Fault)
  | refusal (value : Refusal)
  | kind (value : TrackKind)

def Cause.message : Cause → String
  | .text value => value
  | .number value => toString value
  | .fault value => value.message
  | .refusal value => value.label
  | .kind value => value.label

end Roomwatch
