/-!
# Ranges of bytes

The characters of a range are written in UTF-8 with one to four bytes. A range is cut into spans so
that the characters of a span are just those whose bytes lie, one by one, in certain ranges of bytes.

* `spans`: the spans of a range of code points.
* `byteRanges`: the ranges of bytes of each span of a range of characters.
-/

namespace QueueDepth.Text

/-! ## Spans -/

/-- Where a range may have to be cut so that the last bytes below a power of 64, its `block`, run
through all their values: behind the block that its lower end lies in, or else in front of the block
that its upper end lies in. -/
def blockCuts (low high block : Nat) : List Nat :=
  (if low % block = 0 then [] else [low / block * block + (block - 1)])
    ++ (if (high + 1) % block = 0 then [] else [high / block * block - 1])

/-- Where a range of code points may have to be cut, the first place first: around the code points
that belong to no character, where the number of bytes changes, and where bytes do not run through all
their values. A cut is given by the last code point in front of it. -/
def cuts (low high : Nat) : List Nat :=
  [0xD7FF, 0xDFFF, 0x7F, 0x7FF, 0xFFFF]
    ++ if high < 0x80 then [] else [64, Nat.pow 64 2, Nat.pow 64 3].flatMap (blockCuts low high)

/-- Where a range has to be cut first. -/
def cut? (low high : Nat) : Option Nat :=
  (cuts low high).find? fun last => low ≤ last && last < high

theorem cut?_bounds {low high last : Nat} (h : cut? low high = some last) :
    low ≤ last ∧ last < high := by
  simpa using List.find?_some h

/-- The spans of a range of code points, both ends included. -/
def spans (low high : Nat) : List (Nat × Nat) :=
  match _h : cut? low high with
  | some last => spans low last ++ spans (last + 1) high
  | none => [(low, high)]
termination_by high - low
decreasing_by all_goals have := cut?_bounds ‹_›; omega

/-! ## Bytes -/

/-- The least and the greatest value of a byte. -/
abbrev ByteRange := UInt8 × UInt8

/-- The ranges that the bytes of the characters of a span run through. -/
def bytesOfSpan (span : Nat × Nat) : List ByteRange :=
  (String.utf8EncodeChar (Char.ofNat span.1)).zip (String.utf8EncodeChar (Char.ofNat span.2))

/-- The ranges of bytes of each span of a range of characters, both ends included. -/
def byteRanges (low high : Char) : List (List ByteRange) :=
  ((spans low.toNat high.toNat).filter fun span => span.1.isValidChar).map bytesOfSpan

end QueueDepth.Text
