import Roomwatch.Exposition.Escape
import Roomwatch.Registry.Recorder
import Roomwatch.Text.Order

/-! Exposition pages.

A page shows a recorder's series, one family per metric name: a line of help, a
line with the shape, and a line per sample. A histogram is shown by thirteen
samples for each of its series: a bucket per bound, cumulative, a last bucket for
everything, the sum and the count. Families and samples come in no particular
order from a registry, so a page is written in a canonical one: the samples of a
counter or gauge family are sorted, and families are sorted by their lines.

Escaping is not one to one, so two series of a counter or gauge family may be
written with the same labels. Such lines are merged: the one that comes last from
the registry stays, whichever that is. A `Page` has all lines; the canonical text
keeps those registered last, and `Page.isCertain` says that it does not matter.
A reporter has one histogram, so that lines of histograms are never merged.

Only drained observations are shown, so `Recorder.expose` drains first. -/
namespace Roomwatch
namespace Exposition

open Number (Measure)

/-- A sample as it is written. -/
structure Line where
  name : String
  labels : List Label
  token : List Char
deriving DecidableEq, Repr

def labelText (label : Label) : List Char :=
  label.1.toList ++ ['=', '"'] ++ escape label.2.toList ++ ['"']

/-- The labels in braces, or nothing when there are none. -/
def blockText : List Label → List Char
  | [] => []
  | labels => '{' :: [','].intercalate (labels.map labelText) ++ ['}']

def Line.text (l : Line) : String :=
  String.ofList (l.name.toList ++ blockText l.labels ++ ' ' :: l.token)

/-- The name and the labels as they are written: by them lines are told apart. -/
def Line.written (l : Line) : String × List (List Char) := (l.name, l.labels.map labelText)

/-- Of all lines that are written with the same name and labels the last one. -/
def merged : List Line → List Line
  | [] => []
  | l :: rest => if rest.any fun m => m.written = l.written then merged rest else l :: merged rest

structure Family where
  name : String
  shape : Shape
  description : Option Description
  lines : List Line
deriving Repr

namespace Family

def header (f : Family) : List String :=
  (f.description.map fun d => "# HELP " ++ f.name ++ " " ++ d.help).toList ++
    ["# TYPE " ++ f.name ++ " " ++ f.shape.label]

/-- The sample lines: those of a histogram in their own order, all others merged and sorted. -/
def body (f : Family) : List String :=
  match f.shape with
  | .histogram => f.lines.map Line.text
  | _ => ((merged f.lines).map Line.text).mergeSort

def texts (f : Family) : List String := f.header ++ f.body

/-- Whether lines that are merged say the same. -/
def isCertain (f : Family) : Bool :=
  f.shape = .histogram ||
    f.lines.all fun l => f.lines.all fun m => l.written ≠ m.written || l.text = m.text

end Family

/-- The distinct metric names of some series, in the order of their first appearance. -/
def familyNames (ids : List SeriesId) : List String := (ids.map SeriesId.name).eraseDups

/-- The families of one shelf. -/
def shelfFamilies {β : Type} (descriptions : Shelf (Shape × String) Description) (shape : Shape)
    (shelf : Shelf SeriesId β) (lines : SeriesId → β → List Line) : List Family :=
  (familyNames shelf.keys).map fun name =>
    { name, shape
      description := descriptions.get? (shape, name)
      lines := (shelf.filter fun entry => entry.1.name = name).flatMap fun entry =>
        lines entry.1 entry.2 }

def natToken (n : Nat) : List Char := Nat.toDigits 10 n

/-- The one line of a counter or a gauge. -/
def plainLines (token : List Char) (id : SeriesId) : List Line := [⟨id.name, id.labels, token⟩]

/-- The lines of a histogram. -/
def histogramLines {α : Type} [Measure α] (id : SeriesId) (d : Distribution α) : List Line :=
  let bucket (bound : String) (n : Nat) : Line :=
    ⟨id.name ++ "_bucket", id.labels ++ [("le", bound)], natToken n⟩
  List.zipWith (fun bound n => bucket (String.ofList (natToken bound)) n) lifetimeBounds d.within ++
    [bucket "+Inf" d.count,
      ⟨id.name ++ "_sum", id.labels, Measure.text d.sum⟩,
      ⟨id.name ++ "_count", id.labels, natToken d.count⟩]

structure Page where
  families : List Family
deriving Repr

namespace Page

/-- The families' lines in canonical order. -/
def blocks (p : Page) : List (List String) :=
  (p.families.map Family.texts).mergeSort Text.linesAtMost

def lines (p : Page) : List String := p.blocks.flatten

/-- Whether the page has the same lines whichever of those stay that are merged. -/
def isCertain (p : Page) : Bool := p.families.all Family.isCertain

/-- Whether two pages have the same lines, however they are written. -/
def sameLines (p q : Page) : Bool := p.isCertain && q.isCertain && p.lines = q.lines

/-- The whole text: every line ends in a line feed, and an empty line follows each family. -/
def text (p : Page) : String :=
  String.join (p.blocks.map fun block => String.join (block.map (· ++ "\n")) ++ "\n")

end Page
end Exposition

namespace Recorder
open Exposition
variable {α : Type} [Number.Measure α]

/-- The page of what is registered and drained. -/
def page (r : Recorder α) : Page :=
  ⟨shelfFamilies r.descriptions .counter r.registry.counters
      (fun id total => plainLines (natToken total.toNat) id) ++
    shelfFamilies r.descriptions .gauge r.registry.gauges
      (fun id level => plainLines (Number.Measure.text level) id) ++
    shelfFamilies r.descriptions .histogram r.settled histogramLines⟩

/-- Drains and shows the recorder. -/
def expose (r : Recorder α) : Page × Recorder α :=
  let drained := r.drain
  (drained.page, drained)

end Recorder
end Roomwatch
