/-!
# Places in texts

A reader that takes a text from its head always holds a suffix of the whole. Two such suffixes bound a
part of the text: `Place` names a part in this way, and `Place.position` says where it begins.
-/

namespace QueueDepth.Text

/-- A part of a text, between two of its suffixes. -/
structure Place where
  /-- The text from the part on. -/
  start : List Char
  /-- The text behind the part. -/
  rest : List Char

/-- Something that stands in a text. -/
structure Placed (α : Type) where
  place : Place
  item : α

/-- The lines that are over at the end of a text, and the characters on its last line. -/
def extent (text : List Char) : Nat × Nat :=
  (text.count '\n', (text.reverse.takeWhile (· ≠ '\n')).length)

namespace Place

/-- The characters of a part. -/
def content (place : Place) : List Char :=
  place.start.take (place.start.length - place.rest.length)

/-- The lines of `text` that are over before a part begins, and the characters on its line in front of
it. -/
def position (text : List Char) (place : Place) : Nat × Nat :=
  extent (text.take (text.length - place.start.length))

/-- The lines of `text` that are over before a part ends, and the characters on its last line up to its
end. -/
def finish (text : List Char) (place : Place) : Nat × Nat :=
  extent (text.take (text.length - place.rest.length))

end Place

end QueueDepth.Text
