import Std.Data.ExtTreeMap.Lemmas
import QueueDepth.Ascending
import QueueDepth.Event

/-!
# Event counts

How many events of each kind each key owns, for every kind, also those that move no queue. Counts are
listed by key and then by kind in display order.
-/

namespace QueueDepth

/-- One cell of the table of counts. -/
structure Cell where
  key : Key
  kind : Kind
  deriving DecidableEq

namespace Cell

instance : Ord Cell :=
  ⟨compareLex (compareOn key) (compareOn kind)⟩

instance : Std.TransOrd Cell :=
  inferInstanceAs (Std.TransCmp (compareLex (compareOn key) (compareOn kind)))

instance : Std.LawfulEqOrd Cell where
  eq_of_compare {a b} h := by
    have h' : (compareOn key a b).then (compareOn kind a b) = .eq := h
    rw [Ordering.then_eq_eq] at h'
    have hkey : a.key = b.key := Std.LawfulEqOrd.eq_of_compare h'.1
    have hkind : a.kind = b.kind := Std.LawfulEqOrd.eq_of_compare h'.2
    cases a
    cases b
    simp_all

/-- The cell an event is counted in. -/
def ofEvent (event : Event) : Cell :=
  ⟨event.scope, event.kind⟩

end Cell

/-- The counts of all cells; a cell that is not listed counts nothing. -/
structure EventCounts where
  cells : Std.ExtTreeMap Cell Nat

namespace EventCounts

/-- One more event in a cell. -/
def add (counts : EventCounts) (event : Event) : EventCounts :=
  ⟨counts.cells.alter (.ofEvent event) fun count => some (count.getD 0 + 1)⟩

/-- The counts of events. -/
def ofEvents (events : List Event) : EventCounts :=
  events.foldl add ⟨∅⟩

/-- How many events a cell counts. -/
def count (counts : EventCounts) (key : Key) (kind : Kind) : Nat :=
  counts.cells.getD ⟨key, kind⟩ 0

/-- The cells that count something, with their counts, in order. -/
def entries (counts : EventCounts) : List (Cell × Nat) :=
  counts.cells.toList

/-- The cells that count something, in order. -/
def occupied (counts : EventCounts) : List Cell :=
  counts.cells.keys

/-- The keys that own an event, in order. -/
def keys (counts : EventCounts) : List Key :=
  dropRepeats (counts.occupied.map Cell.key)

/-- The kinds that occur, in display order. -/
def kinds (counts : EventCounts) : List Kind :=
  ascending (counts.occupied.map Cell.kind)

/-- How many events are counted in all. -/
def total (counts : EventCounts) : Nat :=
  counts.cells.values.foldl (· + ·) 0

/-- Whether nothing is counted. -/
def isEmpty (counts : EventCounts) : Bool :=
  counts.cells.isEmpty

end EventCounts

end QueueDepth
