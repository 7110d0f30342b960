import Roomwatch.Text.Extender
import Roomwatch.Text.Invisible

/-! String literals in diagnostics.

A diagnostic shows a string between double quotes, so that blank ends and line
feeds in an identity can be seen. `quoted` escapes the quote, the backslash, the
characters that cannot be told by sight and those that would merge with the one
before them, and leaves every other character as it is. -/
namespace Roomwatch.Text

/-- A character that has no escape of its own is shown by its code point. -/
def isHidden (c : Char) : Bool := isAttached c || isInvisible c

def literalChar (c : Char) : List Char :=
  match c with
  | '"' => ['\\', '"']
  | '\\' => ['\\', '\\']
  | '\n' => ['\\', 'n']
  | '\r' => ['\\', 'r']
  | '\t' => ['\\', 't']
  | '\x00' => ['\\', '0']
  | _ => if isHidden c then
      ['\\', 'u', '{'] ++ Nat.toDigits 16 c.toNat ++ ['}']
    else [c]

/-- A string between double quotes, with its special characters escaped. -/
def quoted (s : String) : String :=
  String.ofList ('"' :: s.toList.flatMap literalChar ++ ['"'])

end Roomwatch.Text
