/-!
# Padding

Texts brought to a width with blanks. A text that is wider stays as it is. Widths count characters.
-/

namespace QueueDepth.Text

/-- A text with blanks in front of it. -/
def padStart (width : Nat) (text : String) : String :=
  String.ofList (List.replicate (width - text.length) ' ') ++ text

/-- A text with blanks behind it. -/
def padEnd (width : Nat) (text : String) : String :=
  text ++ String.ofList (List.replicate (width - text.length) ' ')

end QueueDepth.Text
