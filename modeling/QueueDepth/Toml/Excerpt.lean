import QueueDepth.Text.Pieces
import QueueDepth.Text.Place

/-!
# Excerpts of TOML documents

How a fault in a document is shown: where it is, the line it stands on, and carets below the part at
fault. A part that runs over several lines is marked up to the end of its first one.
-/

namespace QueueDepth.Toml

/-- How many bytes a text takes. -/
def byteCount (text : List Char) : Nat :=
  text.foldl (fun count c => count + c.utf8Size) 0

/-- A number of equal characters. -/
def repeated (count : Nat) (c : Char) : String :=
  String.ofList (List.replicate count c)

/-- A fault at a place of a document, with an excerpt. -/
def excerpt (text : List Char) (place : Text.Place) (message : String) : String :=
  let (lines, column) := place.position text
  let number := (lines + 1).repr
  let content := (Text.split '\n' text).getD lines []
  let margin := repeated (number.length + 1) ' '
  let marked := max 1 (min (byteCount place.content) (byteCount content - column))
  "TOML parse error at line " ++ number ++ ", column " ++ (column + 1).repr ++ "\n"
    ++ margin ++ "|\n"
    ++ number ++ " | " ++ String.ofList content ++ "\n"
    ++ margin ++ "|" ++ repeated (column + 1) ' ' ++ repeated marked '^' ++ "\n"
    ++ message ++ "\n"

end QueueDepth.Toml
