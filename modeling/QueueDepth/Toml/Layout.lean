/-!
# Layout of TOML documents

Blanks, line ends and comments: what stands in a document without meaning anything. A line ends in a
line feed, which may have a carriage return in front of it. No other carriage return stands in a
document; `returnsEndLines` makes sure of that before reading starts, so that a reader may take every
carriage return for a part of a line end.
-/

namespace QueueDepth.Toml

/-- Something that reads the head of a text, or finds it ill-formed. -/
abbrev Reader (α : Type) := List Char → Option (α × List Char)

/-- Whether every carriage return stands in front of a line feed. -/
def returnsEndLines : List Char → Bool
  | '\r' :: '\n' :: rest => returnsEndLines rest
  | c :: rest => c ≠ '\r' && returnsEndLines rest
  | [] => true

/-- Whether a character belongs to a line end. -/
def isLineEnd (c : Char) : Bool :=
  c = '\r' || c = '\n'

/-- Whether a character is a blank within a line. -/
def isBlank (c : Char) : Bool :=
  c = ' ' || c = '\t'

/-- Whether a character may stand in strings and comments: every one but the controls, and the tab
too. -/
def isVisible (c : Char) : Bool :=
  c = '\t' || (0x20 ≤ c.toNat && c.toNat ≠ 0x7F)

/-- A text behind its leading blanks. -/
def skipBlanks (text : List Char) : List Char :=
  text.dropWhile isBlank

/-- A text behind blanks, line ends and comments. A flag says whether a comment is open. -/
def skipSpaceFrom (comment : Bool) : List Char → Option (List Char)
  | [] => some []
  | c :: rest =>
    if isLineEnd c then skipSpaceFrom false rest
    else if comment then
      if isVisible c then skipSpaceFrom true rest else none
    else if isBlank c then skipSpaceFrom false rest
    else if c = '#' then skipSpaceFrom true rest
    else some (c :: rest)

/-- A text behind blanks, line ends and comments, unless a comment is ill-formed. -/
def skipSpace (text : List Char) : Option (List Char) :=
  skipSpaceFrom false text

/-- Whether the end of a line follows, but for blanks and a comment. -/
def atLineEnd (text : List Char) : Bool :=
  match skipBlanks text with
  | [] => true
  | c :: _ => isLineEnd c || c = '#'

end QueueDepth.Toml
