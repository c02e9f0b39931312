/-!
# Styled messages

Messages to the user begin with a symbol and bear a style in terminal escapes: errors are red,
warnings yellow, hints dim.
-/

namespace QueueDepth.Terminal

/-- A text between the escapes that switch a style on and off. -/
def styled (on off text : String) : String :=
  "\x1b[" ++ on ++ "m" ++ text ++ "\x1b[" ++ off ++ "m"

/-- The message of an error. -/
def errorMessage (text : String) : String :=
  "❌ " ++ styled "31" "39" text

/-- The message of a hint. -/
def hintMessage (text : String) : String :=
  "💡 " ++ styled "2" "22" text

/-- The message of a warning. -/
def warningMessage (text : String) : String :=
  "🟡 " ++ styled "33" "39" text

end QueueDepth.Terminal
