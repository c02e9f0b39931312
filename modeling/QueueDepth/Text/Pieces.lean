/-!
# Pieces of text

A text is cut at each separator, which belongs to no piece.
-/

namespace QueueDepth.Text

/-- The pieces of a text between separators. There is one more of them than there are separators. -/
def split (separator : Char) : List Char → List (List Char)
  | [] => [[]]
  | c :: rest =>
    if c = separator then [] :: split separator rest
    else
      match split separator rest with
      | piece :: pieces => (c :: piece) :: pieces
      | [] => [[c]]

/-- The pieces of a string between separators. -/
def pieces (separator : Char) (text : String) : List String :=
  (split separator text.toList).map String.ofList

end QueueDepth.Text
