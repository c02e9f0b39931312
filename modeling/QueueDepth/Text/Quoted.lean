import QueueDepth.Text.Extending
import QueueDepth.Text.Hidden

/-!
# Quoted text

A text between double quotation marks in which every character can be told apart. The quotation
mark, the backslash and the common controls have short escapes; hidden characters and characters
that would join the one before them are written as `\u{…}` with their code point in hexadecimal.
-/

namespace QueueDepth.Text

/-- The form of a character inside quotation marks. -/
def escaped (c : Char) : List Char :=
  match c with
  | '\x00' => ['\\', '0']
  | '\t' => ['\\', 't']
  | '\r' => ['\\', 'r']
  | '\n' => ['\\', 'n']
  | '\\' => ['\\', '\\']
  | '"' => ['\\', '"']
  | c =>
    if isExtending c || isHidden c then
      "\\u\x7b".toList ++ Nat.toDigits 16 c.toNat ++ ['}']
    else
      [c]

/-- A text in quotation marks, unambiguous to the eye. -/
def quoted (text : List Char) : List Char :=
  '"' :: text.flatMap escaped ++ ['"']

end QueueDepth.Text
