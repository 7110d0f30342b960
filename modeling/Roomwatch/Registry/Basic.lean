import Roomwatch.Number.Measure
import Roomwatch.Registry.Series
import Roomwatch.Shelf

/-! A registry of series.

Counters, gauges and histograms stand on three shelves. A counter is a 64-bit
word, a gauge a number that goes both ways, and a histogram the list of
observations that nobody has collected yet, oldest first. `register` makes a
series known and starts it at zero; registering a known series changes nothing.
The writers `count`, `move` and `observe` act on known series only. -/
namespace Roomwatch

open Number (Measure)

structure Registry (α : Type) where
  counters : Shelf SeriesId UInt64 := []
  gauges : Shelf SeriesId α := []
  histograms : Shelf SeriesId (List α) := []
deriving Repr

/-- Which way a gauge or a tally moves. -/
inductive Direction where
  | up | down
deriving DecidableEq, Repr

namespace Registry
variable {α : Type}

def register [Measure α] (r : Registry α) (shape : Shape) (id : SeriesId) : Registry α :=
  match shape with
  | .counter => { r with counters := r.counters.insertIfNew id 0 }
  | .gauge => { r with gauges := r.gauges.insertIfNew id Measure.zero }
  | .histogram => { r with histograms := r.histograms.insertIfNew id [] }

def count (r : Registry α) (id : SeriesId) (amount : UInt64) : Registry α :=
  { r with counters := r.counters.modify id (· + amount) }

/-- A gauge's level after one step. -/
def stepped [Measure α] (d : Direction) (level : α) : α :=
  match d with
  | .up => Measure.up level
  | .down => Measure.down level

def move [Measure α] (r : Registry α) (id : SeriesId) (d : Direction) : Registry α :=
  { r with gauges := r.gauges.modify id (stepped d) }

def setGauge (r : Registry α) (id : SeriesId) (level : α) : Registry α :=
  { r with gauges := r.gauges.modify id fun _ => level }

def observe (r : Registry α) (id : SeriesId) (value : α) : Registry α :=
  { r with histograms := r.histograms.modify id (· ++ [value]) }

/-- Takes all waiting observations out of the registry. -/
def emptied (r : Registry α) : Registry α :=
  { r with histograms := r.histograms.map fun entry => (entry.1, []) }

/-! ### Lookups -/

def counter? (r : Registry α) (id : SeriesId) : Option UInt64 := r.counters.get? id

def gauge? (r : Registry α) (id : SeriesId) : Option α := r.gauges.get? id

def waiting? (r : Registry α) (id : SeriesId) : Option (List α) := r.histograms.get? id

/-- Every pair of the filter is among the labels, in any place. -/
def carries (labels filter : List Label) : Bool := filter.all fun label => labels.contains label

/-- The sum, in 64 bits, of all counters of a name that carry a filter. -/
def counterSum (r : Registry α) (name : String) (filter : List Label) : UInt64 :=
  (r.counters.filter fun entry => entry.1.name = name && carries entry.1.labels filter).foldl
    (fun total entry => total + entry.2) 0

/-- How many series of any shape have a name. -/
def seriesCount (r : Registry α) (name : String) : Nat :=
  (r.counters.keys.countP fun id => id.name = name) +
    (r.gauges.keys.countP fun id => id.name = name) +
    r.histograms.keys.countP fun id => id.name = name

/-! ### What a registration and a write do to lookups -/

theorem register_eq_self_of_counter? [Measure α] {r : Registry α} {id : SeriesId} {v : UInt64}
    (h : r.counter? id = some v) : r.register .counter id = r := by
  simp only [register, Shelf.insertIfNew_of_get? 0 h]

theorem register_eq_self_of_gauge? [Measure α] {r : Registry α} {id : SeriesId} {v : α}
    (h : r.gauge? id = some v) : r.register .gauge id = r := by
  simp only [register, Shelf.insertIfNew_of_get? _ h]

theorem register_eq_self_of_waiting? [Measure α] {r : Registry α} {id : SeriesId} {v : List α}
    (h : r.waiting? id = some v) : r.register .histogram id = r := by
  simp only [register, Shelf.insertIfNew_of_get? _ h]

theorem counter?_count (r : Registry α) (id j : SeriesId) (n : UInt64) :
    (r.count id n).counter? j =
      if j = id then (r.counter? id).map (· + n) else r.counter? j :=
  Shelf.get?_modify _ _ _ _

theorem waiting?_observe (r : Registry α) (id j : SeriesId) (value : α) :
    (r.observe id value).waiting? j =
      if j = id then (r.waiting? id).map (· ++ [value]) else r.waiting? j :=
  Shelf.get?_modify _ _ _ _

end Registry
end Roomwatch
