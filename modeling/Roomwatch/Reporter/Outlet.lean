import Roomwatch.Settings
import Roomwatch.Track

/-! What a reporter writes to.

A node has seven metrics. An `Outlet` is one series of them: it fixes the metric
and the labels that the series carries after the identity of the node, so
`Outlet.id` is the name of the series under given settings. Three metrics have
one series, the others one per track kind, per stage of an attempt or per error
text. An outlet is *fixed* when its series exists from the start, and *kept* when
its reporter holds on to it after the first use: the fixed ones, and those of the
three known track kinds. -/
namespace Roomwatch

/-- The metrics of a node. -/
inductive Metric where
  | rooms | lifetimes | participants | published | subscribed | publishing | subscribing
deriving DecidableEq, Repr

namespace Metric

/-- The metrics in the order in which they are described. -/
def all : List Metric :=
  [.rooms, .participants, .published, .subscribed, .lifetimes, .publishing, .subscribing]

def shape : Metric → Shape
  | .rooms | .participants | .published | .subscribed => .gauge
  | .lifetimes => .histogram
  | .publishing | .subscribing => .counter

def subsystem : Metric → String
  | .rooms | .lifetimes => "room"
  | .participants => "participant"
  | .published | .subscribed | .publishing | .subscribing => "track"

/-- The name of a metric within its subsystem. -/
def ownName : Metric → String
  | .rooms | .participants => "total"
  | .lifetimes => "duration_seconds"
  | .published => "published_total"
  | .subscribed => "subscribed_total"
  | .publishing => "publish_counter"
  | .subscribing => "subscribe_counter"

def description : Metric → Description
  | .rooms => ⟨none, "Number of live rooms"⟩
  | .participants => ⟨none, "Number of live participants across all rooms"⟩
  | .published => ⟨none, "Number of live published tracks by kind"⟩
  | .subscribed => ⟨none, "Number of live track subscriptions by kind"⟩
  | .lifetimes => ⟨some .seconds, "Room lifetime measured when the room ends"⟩
  | .publishing => ⟨none, "Track publish events by kind and state"⟩
  | .subscribing => ⟨none, "Track subscribe events by state and error"⟩

def name (m : Metric) (settings : Settings) : String := settings.metricName m.subsystem m.ownName

end Metric

def attemptLabel : String := "attempt"

def successLabel : String := "success"

def failureLabel : String := "failure"

inductive Outlet where
  | rooms
  | lifetimes
  | participants
  | published (kind : String)
  | subscribed (kind : String)
  | publishAttempts (kind : String)
  | publishSuccesses (kind : String)
  | subscribeAttempts
  | subscribeSuccesses
  | subscribeFailures (error : String)
deriving DecidableEq, Repr

namespace Outlet

def metric : Outlet → Metric
  | .rooms => .rooms
  | .lifetimes => .lifetimes
  | .participants => .participants
  | .published _ => .published
  | .subscribed _ => .subscribed
  | .publishAttempts _ | .publishSuccesses _ => .publishing
  | .subscribeAttempts | .subscribeSuccesses | .subscribeFailures _ => .subscribing

def shape (o : Outlet) : Shape := o.metric.shape

/-- The labels after the identity of the node. -/
def labels : Outlet → List Label
  | .rooms | .lifetimes | .participants => []
  | .published kind | .subscribed kind => [("kind", kind)]
  | .publishAttempts kind => [("kind", kind), ("state", attemptLabel)]
  | .publishSuccesses kind => [("kind", kind), ("state", successLabel)]
  | .subscribeAttempts => [("state", attemptLabel), ("error", "")]
  | .subscribeSuccesses => [("state", successLabel), ("error", "")]
  | .subscribeFailures error => [("state", failureLabel), ("error", error)]

/-- The series of an outlet. -/
def id (o : Outlet) (settings : Settings) : SeriesId :=
  ⟨o.metric.name settings, settings.identity ++ o.labels⟩

/-- The outlets whose series exist from the start, in the order of their registration. -/
def fixed : List Outlet :=
  [.rooms, .lifetimes, .participants, .subscribeAttempts, .subscribeSuccesses]

def isFixed (o : Outlet) : Bool := fixed.contains o

def kind? : Outlet → Option String
  | .published kind | .subscribed kind | .publishAttempts kind | .publishSuccesses kind => some kind
  | _ => none

/-- Whether a reporter holds on to an outlet after its first use. -/
def isKept (o : Outlet) : Bool := o.isFixed || o.kind?.any TrackKind.isKnown

/-- Under the same settings, outlets with equal metric and labels are the same. -/
theorem eq_of_metric_of_labels {a b : Outlet} (hm : a.metric = b.metric)
    (hl : a.labels = b.labels) : a = b := by
  cases a <;> cases b <;>
    simp_all [metric, labels, attemptLabel, successLabel, failureLabel]

end Outlet
end Roomwatch
