import QueueDepth.Environment
import QueueDepth.Terminal.Plain

/-!
# Colour

Output keeps its escapes only if the environment demands it, for it is never taken to go to a
terminal. A wish for no colour outweighs a demand for it.
-/

namespace QueueDepth.Terminal

/-- Whether output keeps its escapes. -/
def keepsColour (environment : Environment) : Bool :=
  let refused := (environment "NO_COLOR").any (· ≠ "")
  let forced := (environment "CLICOLOR_FORCE").any (· ≠ "")
  !refused && forced

/-- What comes out of pieces of output. -/
def shown (colour : Bool) (pieces : List String) : String :=
  if colour then String.join pieces else plain pieces

end QueueDepth.Terminal
