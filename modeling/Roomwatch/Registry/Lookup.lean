import Roomwatch.Registry.Basic

/-! Lookups in a captured registry.

A lookup of one series asks for its shape, its name and its full list of labels in
order. The two aggregates ask by name: `counterSum` adds up the counters that
carry a filter, and `seriesCount` counts series of every shape. -/
namespace Roomwatch

inductive Lookup where
  | counter (id : SeriesId)
  | gauge (id : SeriesId)
  | histogram (id : SeriesId)
  | counterSum (name : String) (filter : List Label)
  | seriesCount (name : String)
deriving DecidableEq, Repr

inductive Found (α : Type) where
  | total (value : UInt64)
  | level (value : α)
  | waiting (values : List α)
  | size (n : Nat)
  | nothing
deriving Repr

def Registry.find {α : Type} (r : Registry α) : Lookup → Found α
  | .counter id => (r.counter? id).elim .nothing .total
  | .gauge id => (r.gauge? id).elim .nothing .level
  | .histogram id => (r.waiting? id).elim .nothing .waiting
  | .counterSum name filter => .total (r.counterSum name filter)
  | .seriesCount name => .size (r.seriesCount name)

end Roomwatch
