/-! The order of lists by their first difference.

Listings are sorted so that equal contents read alike. Two lists are compared at
the first place where they differ, and a list comes before its extensions.
Strings compare so by the code points of their characters. -/
namespace Roomwatch.Text

def atMost {β : Type} [DecidableEq β] (before : β → β → Bool) : List β → List β → Bool
  | [], _ => true
  | _ :: _, [] => false
  | a :: as, b :: bs => before a b || (a = b && atMost before as bs)

def stringBefore (a b : String) : Bool := a < b

/-- Whether a list of lines comes before another one, or is the same. -/
def linesAtMost (a b : List String) : Bool := atMost stringBefore a b

end Roomwatch.Text
