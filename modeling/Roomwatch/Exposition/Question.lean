import Roomwatch.Exposition.Sample

/-! Questions to a list of samples.

A question asks for one number or for a label of every sample; `Question.answer`
gives it, rounding a numeral to binary64 only here. -/
namespace Roomwatch.Exposition

inductive Question where
  | value (name : String) (filter : List Label)
  | sum (name : String) (filter : List Label)
  | bucket (name : String) (bound : Float) (filter : List Label)
  | count (name : String) (filter : List Label)
  | label (key : String)

inductive Answer where
  | number (value : Option Float)
  | texts (values : List (Option String))

def Question.answer (samples : List Sample) : Question → Answer
  | .value name filter => .number ((Sample.value? samples name filter).map (·.toFloat))
  | .sum name filter => .number (some (Sample.sum samples name filter))
  | .bucket name bound filter =>
    .number ((Sample.bucket? samples name bound filter).map (·.toFloat))
  | .count name filter => .number ((Sample.count? samples name filter).map (·.toFloat))
  | .label key => .texts (samples.map fun s => s.label? key)

end Roomwatch.Exposition
