import Roomwatch.Number.Numeral
import Roomwatch.Registry.Series

/-! Samples and the questions asked of them.

A sample is a metric name, labels and a value. A list of samples answers by name
and filter: a filter is met when each of its pairs agrees with the first label of
its key. `value?` and `count?` take the first sample that fits, `sum` adds up all
of them, and `bucket?` looks for the bucket with a given upper bound. -/
namespace Roomwatch.Exposition

open Number (Numeral)

structure Sample where
  name : String
  labels : List Label
  value : Numeral
deriving DecidableEq, Repr

namespace Sample

def label? (s : Sample) (key : String) : Option String := labelValue? s.labels key

def meets (s : Sample) (filter : List Label) : Bool :=
  filter.all fun label => s.label? label.1 = some label.2

/-- The samples of a name that meet a filter. -/
def matching (samples : List Sample) (name : String) (filter : List Label) : List Sample :=
  samples.filter fun s => s.name = name && s.meets filter

def value? (samples : List Sample) (name : String) (filter : List Label) : Option Numeral :=
  (matching samples name filter).head?.map Sample.value

/-- The sum of all that fits, added up from negative zero in the order of the samples. -/
def sum (samples : List Sample) (name : String) (filter : List Label) : Float :=
  (matching samples name filter).foldl (fun total s => total + s.value.toFloat) (-0.0)

/-- The bucket of a histogram whose upper bound equals a number. -/
def bucket? (samples : List Sample) (name : String) (bound : Float) (filter : List Label) :
    Option Numeral :=
  ((matching samples (name ++ "_bucket") filter).find? fun s =>
    ((s.label? "le").bind fun text => Numeral.read? text.toList).any fun n => n.toFloat == bound
  ).map Sample.value

/-- How many observations a histogram holds. -/
def count? (samples : List Sample) (name : String) (filter : List Label) : Option Numeral :=
  value? samples (name ++ "_count") filter

end Sample
end Roomwatch.Exposition
