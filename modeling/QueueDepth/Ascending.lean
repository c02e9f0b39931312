/-!
# Ascending lists

Lists in ascending order without repetitions stand for finite sets here. `ascending` brings any list
into that form.
-/

namespace QueueDepth

/-- A list without the items equal to the one right before them. -/
def dropRepeats {α : Type} [DecidableEq α] : List α → List α
  | [] => []
  | [a] => [a]
  | a :: b :: rest => if a = b then dropRepeats (b :: rest) else a :: dropRepeats (b :: rest)

/-- The items of a list in ascending order, each once. -/
def ascending {α : Type} [DecidableEq α] [Ord α] (items : List α) : List α :=
  dropRepeats (items.mergeSort fun a b => (compare a b).isLE)

end QueueDepth
