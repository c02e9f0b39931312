/-!
# Joining in rounds

Many things are joined to one by joining neighbours, round after round, so that none of them is taken
up more often than there are rounds.
-/

namespace QueueDepth

variable {α : Type}

/-- Join every item with its neighbour. -/
def joinPairs (join : α → α → α) : List α → List α
  | first :: second :: rest => join first second :: joinPairs join rest
  | rest => rest

/-- Join neighbours in so many rounds, and then whatever is left. -/
def joinRounds (join : α → α → α) (none : α) : Nat → List α → α
  | 0, items => items.foldr join none
  | _, [] => none
  | _, [item] => item
  | rounds + 1, items => joinRounds join none rounds (joinPairs join items)

/-- Join items, or answer with `none` if there are none. -/
def joinAll (join : α → α → α) (none : α) (items : List α) : α :=
  joinRounds join none items.length items

end QueueDepth
