import QueueDepth.Event

/-!
# Traces

A trace is a list of events in timestamp order. Rows are logged by many threads and arrive roughly
in order; `Trace.ofLog` sorts them and keeps the order of the log inside one millisecond.
-/

namespace QueueDepth

/-- Events in timestamp order. -/
structure Trace where
  events : List Event
  sorted : events.Pairwise fun a b => a.timestamp ≤ b.timestamp

namespace Trace

/-- The order of events by timestamp alone. -/
def notAfter (a b : Event) : Bool :=
  a.timestamp ≤ b.timestamp

theorem pairwise_mergeSort_notAfter (log : List Event) :
    (log.mergeSort notAfter).Pairwise fun a b => a.timestamp ≤ b.timestamp := by
  have hsorted : (log.mergeSort notAfter).Pairwise fun a b => notAfter a b = true :=
    List.pairwise_mergeSort (fun a b c hab hbc => by
      simp only [notAfter, decide_eq_true_eq] at hab hbc ⊢
      exact Nat.le_trans hab hbc)
    (fun a b => by
      simp only [notAfter, Bool.or_eq_true, decide_eq_true_eq]
      exact Nat.le_total a.timestamp b.timestamp) log
  exact hsorted.imp fun h => by simpa [notAfter] using h

/-- The trace of events in the order in which they were logged. -/
def ofLog (log : List Event) : Trace :=
  ⟨log.mergeSort notAfter, pairwise_mergeSort_notAfter log⟩

/-- How many events a trace holds. -/
def size (trace : Trace) : Nat :=
  trace.events.length

/-- Whether a trace holds no event. -/
def isEmpty (trace : Trace) : Bool :=
  trace.events.isEmpty

/-- The highest actor that some event is counted under. -/
def highestActor? (trace : Trace) : Option Nat :=
  (trace.events.filterMap fun event => event.scope.actor?).max?

/-- The first and the last timestamp. -/
def timeRange? (trace : Trace) : Option (Nat × Nat) := do
  let first ← trace.events.head?
  let last ← trace.events.getLast?
  return (first.timestamp, last.timestamp)

end Trace

end QueueDepth
