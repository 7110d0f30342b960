/-! Blank space in text.

`isBlank` is the Unicode property `White_Space`, so a text may be indented with
any of its 25 characters. `trim` drops blank characters from both ends, and
`firstWord?` is the first run of characters that are not blank. Texts are lists
of characters, and each function keeps one piece of its input unchanged. -/
namespace Roomwatch.Text

/-- The Unicode property `White_Space`. -/
def isBlank (c : Char) : Bool :=
  let n := c.toNat
  (0x09 ≤ n && n ≤ 0x0D) || n == 0x20 || n == 0x85 || n == 0xA0 || n == 0x1680 ||
    (0x2000 ≤ n && n ≤ 0x200A) || n == 0x2028 || n == 0x2029 || n == 0x202F || n == 0x205F ||
    n == 0x3000

def trimStart (s : List Char) : List Char := s.dropWhile isBlank

def trimEnd (s : List Char) : List Char := (s.reverse.dropWhile isBlank).reverse

def trim (s : List Char) : List Char := trimEnd (trimStart s)

/-- The first word of a text, or nothing when the text is blank throughout. -/
def firstWord? (s : List Char) : Option (List Char) :=
  match trimStart s with
  | [] => none
  | c :: rest => some ((c :: rest).takeWhile fun d => !isBlank d)

end Roomwatch.Text
