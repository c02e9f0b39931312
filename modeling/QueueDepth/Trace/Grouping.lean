import Std.Data.ExtTreeMap.Lemmas
import QueueDepth.Event

/-!
# Events by owner

A grouping splits events by the queue they belong to: for each actor that owns an event, the traffic
of its mailbox and its restarts; the traffic of the pool; and the stops of the system. Each part
keeps the order of the events. An actor is known as soon as it owns any event, of whatever kind.
-/

namespace QueueDepth

/-- The events of one actor that matter to its depth series. -/
structure ActorEvents where
  /-- The traffic of the mailbox. -/
  mailbox : List Event := []
  /-- The restarts of the actor. -/
  restarts : List Event := []
  deriving DecidableEq

namespace ActorEvents

/-- One more event in front. -/
def cons (event : Event) (entry : ActorEvents) : ActorEvents :=
  if (event.kind.side event.scope).isSome then
    { entry with mailbox := event :: entry.mailbox }
  else if event.kind = .restart then
    { entry with restarts := event :: entry.restarts }
  else
    entry

end ActorEvents

/-- Events split by owner. -/
structure Grouping where
  actors : Std.ExtTreeMap Nat ActorEvents := ∅
  pool : List Event := []
  stops : List Event := []

namespace Grouping

/-- One more event in front of its group. -/
def cons (event : Event) (grouping : Grouping) : Grouping :=
  match event.scope with
  | .actor id =>
    { grouping with
      actors := grouping.actors.alter id fun entry => some ((entry.getD {}).cons event) }
  | .pool => { grouping with pool := event :: grouping.pool }
  | .system =>
    if event.kind = .stopSystem then { grouping with stops := event :: grouping.stops }
    else grouping

/-- The grouping of events. -/
def ofEvents (events : List Event) : Grouping :=
  events.foldr cons {}

/-- The actors that own an event, ascending. -/
def actorIds (grouping : Grouping) : List Nat :=
  grouping.actors.keys

/-- The events of one actor; an unknown actor has none. -/
def actorEvents (grouping : Grouping) (id : Nat) : ActorEvents :=
  grouping.actors.getD id {}

/-- The traffic of the queue of a key. -/
def traffic (grouping : Grouping) : Key → List Event
  | .actor id => (grouping.actorEvents id).mailbox
  | .pool => grouping.pool
  | .system => []

/-- The restarts of an actor. -/
def restarts (grouping : Grouping) (id : Nat) : List Event :=
  (grouping.actorEvents id).restarts

end Grouping

end QueueDepth
