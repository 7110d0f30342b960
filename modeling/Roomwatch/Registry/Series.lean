/-! Naming series.

A series is named by a metric name and a list of labels, in the order in which
they were given: the same labels in another order name another series. A metric
is a counter, a gauge or a histogram, and one name may be used by several of
these shapes at once without their series being confused. -/
namespace Roomwatch

inductive Shape where
  | counter | gauge | histogram
deriving DecidableEq, Repr

def Shape.label : Shape → String
  | .counter => "counter"
  | .gauge => "gauge"
  | .histogram => "histogram"

abbrev Label := String × String

structure SeriesId where
  name : String
  labels : List Label
deriving DecidableEq, Repr

/-- The value of a label: the first one, should its key be repeated. -/
def labelValue? (labels : List Label) (key : String) : Option String :=
  (labels.find? fun label => label.1 = key).map Prod.snd

inductive TimeUnit where
  | seconds
deriving DecidableEq, Repr

def TimeUnit.label : TimeUnit → String
  | .seconds => "seconds"

/-- What a metric is for. -/
structure Description where
  unit : Option TimeUnit
  help : String
deriving DecidableEq, Repr

/-- One natural number per shape. -/
structure PerShape where
  counter : Nat := 0
  gauge : Nat := 0
  histogram : Nat := 0
deriving DecidableEq, Repr

def PerShape.bump (n : PerShape) : Shape → PerShape
  | .counter => { n with counter := n.counter + 1 }
  | .gauge => { n with gauge := n.gauge + 1 }
  | .histogram => { n with histogram := n.histogram + 1 }

def PerShape.get (n : PerShape) : Shape → Nat
  | .counter => n.counter
  | .gauge => n.gauge
  | .histogram => n.histogram

theorem PerShape.get_bump (n : PerShape) (s t : Shape) :
    (n.bump s).get t = n.get t + if t = s then 1 else 0 := by
  cases s <;> cases t <;> simp [bump, get]

end Roomwatch
