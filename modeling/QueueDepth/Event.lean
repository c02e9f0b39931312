import QueueDepth.Event.Key
import QueueDepth.Event.Kind

/-!
# Trace events

One event is one row of a trace. Its scope is the key it is counted under, and its side says which
way it moves the queue of a given key, if it moves it at all: an actor's mailbox moves on enqueue
and dequeue, the pool's queue on their pool counterparts, and the system has no queue.
-/

namespace QueueDepth

/-- One row of a trace. -/
structure Event where
  /-- Milliseconds since the arbitrary epoch of the trace. -/
  timestamp : Nat
  /-- The actor the row names; absent on rows of the pool and of the system. -/
  actor : Option Nat
  /-- The incarnation of the actor, if recorded. -/
  generation : Option Nat
  /-- The thread that wrote the row. -/
  thread : String
  /-- What happened. -/
  kind : Kind
  deriving DecidableEq

/-- The two ways an event can move a queue. -/
inductive Side where
  | enqueue
  | dequeue
  deriving DecidableEq

/-- The side of the queue of `key` that events of this kind move. -/
def Kind.side (kind : Kind) : Key → Option Side
  | .actor _ =>
    match kind with
    | enqueue => some .enqueue
    | dequeue => some .dequeue
    | _ => none
  | .pool =>
    match kind with
    | poolEnqueue => some .enqueue
    | poolDequeue => some .dequeue
    | _ => none
  | .system => none

namespace Event

/-- The key an event is counted under. The actor written on a row of the pool or on a stop is
informational and does not count. -/
def scope (event : Event) : Key :=
  match event.kind with
  | .poolEnqueue | .poolDequeue => .pool
  | .stopSystem => .system
  | _ =>
    match event.actor with
    | some id => .actor id
    | none => .system

end Event

end QueueDepth
