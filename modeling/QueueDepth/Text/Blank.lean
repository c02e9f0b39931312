/-!
# Blank characters

The characters of the Unicode property `White_Space`, and the removal of blank margins.
-/

namespace QueueDepth.Text

/-- Whether a character has the property `White_Space`. -/
def isBlank (c : Char) : Bool :=
  let n := c.toNat
  (9 ≤ n && n ≤ 13) || n == 0x20 || n == 0x85 || n == 0xA0 || n == 0x1680 ||
    (0x2000 ≤ n && n ≤ 0x200A) || n == 0x2028 || n == 0x2029 || n == 0x202F || n == 0x205F ||
    n == 0x3000

/-- A text without the leading and trailing items that `drop` accepts. -/
def trimBy {α : Type} (drop : α → Bool) (text : List α) : List α :=
  ((text.dropWhile drop).reverse.dropWhile drop).reverse

/-- A text without its blank margins. -/
def trim (text : List Char) : List Char :=
  trimBy isBlank text

/-- The blanks of plain ASCII: space, tab, line feed, form feed and carriage return. -/
def isAsciiBlank (byte : UInt8) : Bool :=
  byte == 0x20 || byte == 0x09 || byte == 0x0A || byte == 0x0C || byte == 0x0D

/-- Bytes without their margins of ASCII blanks. -/
def trimAscii (bytes : List UInt8) : List UInt8 :=
  trimBy isAsciiBlank bytes

/-- Every blank that core knows is blank here. -/
theorem isBlank_of_isWhitespace {c : Char} (h : c.isWhitespace = true) : isBlank c = true := by
  simp only [Char.isWhitespace, Bool.or_eq_true, decide_eq_true_eq] at h
  rcases h with ((rfl | rfl) | rfl) | rfl <;> decide

end QueueDepth.Text
