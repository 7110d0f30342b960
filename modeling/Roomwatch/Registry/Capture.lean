import Roomwatch.Registry.Recorder
import Roomwatch.Text.Order

/-! The listing of a capture.

`Recorder.rows` lists every registered series with its value and description,
sorted by shape, then by name, then by labels, texts being compared character by
character. The shapes stand in the order counter, gauge, histogram. -/
namespace Roomwatch

open Number (Measure)

inductive Reading (α : Type) where
  | counter (total : UInt64)
  | gauge (level : α)
  | histogram (waiting : List α)
deriving Repr

def Reading.shape {α : Type} : Reading α → Shape
  | .counter _ => .counter
  | .gauge _ => .gauge
  | .histogram _ => .histogram

structure Row (α : Type) where
  id : SeriesId
  reading : Reading α
  description : Option Description
deriving Repr

/-- Labels compare by key, then by value. -/
def Label.before (a b : Label) : Bool := a.1 < b.1 || (a.1 = b.1 && a.2 < b.2)

def SeriesId.atMost (a b : SeriesId) : Bool :=
  a.name < b.name || (a.name = b.name && Text.atMost Label.before a.labels b.labels)

namespace Recorder
variable {α : Type} [Measure α]

def row (r : Recorder α) (id : SeriesId) (reading : Reading α) : Row α :=
  ⟨id, reading, r.descriptions.get? (reading.shape, id.name)⟩

/-- The rows of one shelf in the order of their series. -/
def shelfRows {β : Type} (r : Recorder α) (shelf : Shelf SeriesId β) (reading : β → Reading α) :
    List (Row α) :=
  (shelf.map fun entry => r.row entry.1 (reading entry.2)).mergeSort fun a b => a.id.atMost b.id

def rows (r : Recorder α) : List (Row α) :=
  r.shelfRows r.registry.counters .counter ++ r.shelfRows r.registry.gauges .gauge ++
    r.shelfRows r.registry.histograms .histogram

end Recorder
end Roomwatch
