/-! Sets of characters given by ranges of code points.

A property of characters is written as a table of ranges. `covers` says whether a
character lies in one of them. A table that `ascending` accepts names no code
point twice and is as short as it can be, and `size` counts its code points. -/
namespace Roomwatch.Text

/-- The code points from `first` to `last`, both included. -/
structure CodeRange where
  first : Nat
  last : Nat

namespace CodeRange

def covers (table : List CodeRange) (c : Char) : Bool :=
  table.any fun r => decide (r.first ≤ c.toNat) && decide (c.toNat ≤ r.last)

/-- No range is empty, and a code point outside the table stands between any two
neighbours. -/
def ascending (table : List CodeRange) : Bool :=
  (table.all fun r => decide (r.first ≤ r.last)) &&
    (table.zip (table.drop 1)).all fun p => decide (p.1.last + 1 < p.2.first)

def size (table : List CodeRange) : Nat :=
  table.foldl (fun n r => n + (r.last + 1 - r.first)) 0

end CodeRange

end Roomwatch.Text
