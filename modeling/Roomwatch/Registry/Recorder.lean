import Roomwatch.Registry.Basic

/-! Recorders.

A recorder is what reporters register their series with. It holds a registry,
the descriptions of its metrics, and how often it was asked to describe and to
register each shape. What waits in its histograms leaves in one of two ways: a
capture takes the raw observations (`Recorder.capture`), and a drain adds them to
the buckets that an exposition shows (`Recorder.drain`). Either way an
observation leaves once. -/
namespace Roomwatch

open Number (Measure)

/-- The upper ends of the buckets of room lifetimes, in whole seconds: five seconds to
ten hours. -/
def lifetimeBounds : List Nat := [5, 10, 60, 300, 600, 1800, 3600, 7200, 18000, 36000]

/-- Observations in buckets: how many are within each bound, how many there are, and
their sum. -/
structure Distribution (α : Type) where
  within : List Nat
  count : Nat
  sum : α
deriving Repr

namespace Distribution
variable {α : Type} [Measure α]

def empty : Distribution α := ⟨lifetimeBounds.map fun _ => 0, 0, Measure.zero⟩

def tallyWithin (values : List α) : List Nat :=
  lifetimeBounds.map fun bound => values.countP fun value => Measure.within value bound

/-- Adds a batch: the batch is summed first, in the order of its observations, and its
sum is added to the running sum. -/
def addBatch (d : Distribution α) (batch : List α) : Distribution α :=
  { within := List.zipWith (· + ·) d.within (tallyWithin batch)
    count := d.count + batch.length
    sum := Measure.add d.sum (batch.foldl Measure.add Measure.zero) }

end Distribution

structure Recorder (α : Type) where
  registry : Registry α := {}
  descriptions : Shelf (Shape × String) Description := []
  described : PerShape := {}
  registered : PerShape := {}
  /-- The drained observations of each histogram. -/
  settled : Shelf SeriesId (Distribution α) := []
deriving Repr

namespace Recorder
variable {α : Type} [Measure α]

def describe (r : Recorder α) (shape : Shape) (name : String) (d : Description) : Recorder α :=
  { r with
    descriptions := r.descriptions.insert (shape, name) d
    described := r.described.bump shape }

/-- A registration by a reporter, which is counted. -/
def register (r : Recorder α) (shape : Shape) (id : SeriesId) : Recorder α :=
  { r with
    registry := r.registry.register shape id
    registered := r.registered.bump shape }

def update (r : Recorder α) (f : Registry α → Registry α) : Recorder α :=
  { r with registry := f r.registry }

/-- Everything registered, with the waiting observations; they are gone afterwards. -/
def capture (r : Recorder α) : Registry α × Recorder α :=
  (r.registry, r.update Registry.emptied)

/-- The distribution of a histogram once its waiting observations are added. -/
def drained (r : Recorder α) (id : SeriesId) (waiting : List α) : Distribution α :=
  ((r.settled.get? id).getD Distribution.empty).addBatch waiting

/-- Adds all waiting observations to the buckets. -/
def drain (r : Recorder α) : Recorder α :=
  { r with
    registry := r.registry.emptied
    settled := r.registry.histograms.map fun entry => (entry.1, r.drained entry.1 entry.2) }

end Recorder
end Roomwatch
