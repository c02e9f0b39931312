import QueueDepth.Proofs.Ascending
import QueueDepth.Trace.Grouping

/-!
# What a grouping holds

A grouping is built event by event; each of its parts is a selection from the events, in their order.

* `traffic_ofEvents`, `restarts_ofEvents`, `stops_ofEvents`: which events the parts hold.
* `mem_actorIds_ofEvents`, `ascending_actorIds`: which actors are known.
-/

namespace QueueDepth

/-! ## Scopes -/

/-- Only events of the pool move the queue of the pool, and they always do. -/
theorem Event.scope_eq_pool_iff {event : Event} :
    event.scope = .pool ↔ (event.kind.side .pool).isSome = true := by
  obtain ⟨timestamp, actor, generation, thread, kind⟩ := event
  cases kind <;> cases actor <;> simp [Event.scope, Kind.side]

/-- A stop is counted under the system, whatever actor its row names. -/
theorem Event.scope_of_stopSystem {event : Event} (stops : event.kind = .stopSystem) :
    event.scope = .system := by
  rw [Event.scope, stops]

namespace ActorEvents

variable {event : Event} {entry : ActorEvents} {id : Nat}

theorem mailbox_cons (owned : event.scope = .actor id) :
    (entry.cons event).mailbox =
      [event].filter (fun other => (other.kind.side (.actor id)).isSome) ++ entry.mailbox := by
  rw [cons, owned]
  by_cases moves : (event.kind.side (.actor id)).isSome = true
  · simp [moves]
  · have none : [event].filter (fun other => (other.kind.side (.actor id)).isSome) = [] := by
      simp [moves]
    rw [if_neg moves, none]
    split <;> rfl

theorem restarts_cons (owned : event.scope = .actor id) :
    (entry.cons event).restarts =
      [event].filter (fun other => other.kind = .restart) ++ entry.restarts := by
  rw [cons, owned]
  by_cases moves : (event.kind.side (.actor id)).isSome = true
  · have other : event.kind ≠ .restart := by
      intro restart
      rw [restart] at moves
      cases moves
    simp [moves, other]
  · rw [if_neg moves]
    by_cases restart : event.kind = .restart <;> simp [restart]

end ActorEvents

namespace Grouping

variable {event : Event} {grouping : Grouping} {id : Nat}

/-! ## One event -/

theorem actorEvents_cons_of_owned (owned : event.scope = .actor id) :
    (grouping.cons event).actorEvents id = (grouping.actorEvents id).cons event := by
  rw [cons, owned]
  simp only [actorEvents, Std.ExtTreeMap.getD_alter, Std.ReflOrd.compare_self, if_true,
    Option.getD_some]
  rw [Std.ExtTreeMap.getD_eq_getD_getElem?]

theorem actorEvents_cons_of_ne (other : event.scope ≠ .actor id) :
    (grouping.cons event).actorEvents id = grouping.actorEvents id := by
  rw [cons]
  split
  · rename_i owner owned
    have differs : ¬ compare owner id = .eq := by
      intro same
      rw [Std.LawfulEqOrd.eq_of_compare same] at owned
      exact other owned
    simp only [actorEvents, Std.ExtTreeMap.getD_alter, if_neg differs]
  · rfl
  · split <;> rfl

theorem mem_actors_cons :
    id ∈ (grouping.cons event).actors ↔ event.scope = .actor id ∨ id ∈ grouping.actors := by
  rw [cons]
  split
  · rename_i owner owned
    rw [Std.ExtTreeMap.mem_alter, owned]
    by_cases same : owner = id
    · simp [same, Std.ReflOrd.compare_self]
    · have differs : ¬ compare owner id = .eq := fun h => same (Std.LawfulEqOrd.eq_of_compare h)
      simp [same, differs]
  · rename_i owned
    simp [owned]
  · rename_i owned
    split <;> simp [owned]

theorem pool_cons :
    (grouping.cons event).pool = [event].filter (fun other => other.scope = .pool) ++ grouping.pool := by
  rw [cons]
  split
  · rename_i owner owned
    simp [owned]
  · rename_i owned
    simp [owned]
  · rename_i owned
    split <;> simp [owned]

theorem stops_cons :
    (grouping.cons event).stops =
      [event].filter (fun other => other.kind = .stopSystem) ++ grouping.stops := by
  rw [cons]
  by_cases stop : event.kind = .stopSystem
  · rw [Event.scope_of_stopSystem stop]
    simp [stop]
  · split <;> simp [stop]

/-! ## All events -/

variable {events : List Event}

/-- The traffic of a key is what moves its queue among the events it owns. -/
theorem traffic_ofEvents (key : Key) :
    (ofEvents events).traffic key =
      events.filter fun event => event.scope = key ∧ (event.kind.side key).isSome = true := by
  cases key with
  | actor id =>
    rw [traffic]
    induction events with
    | nil => rfl
    | cons event rest ih =>
      rw [ofEvents, List.foldr_cons, ← ofEvents]
      by_cases owned : event.scope = .actor id
      · rw [actorEvents_cons_of_owned owned, ActorEvents.mailbox_cons owned, ih]
        by_cases moves : (event.kind.side (.actor id)).isSome = true <;> simp [owned, moves]
      · rw [actorEvents_cons_of_ne owned, ih]
        simp [owned]
  | pool =>
    rw [traffic]
    induction events with
    | nil => rfl
    | cons event rest ih =>
      rw [ofEvents, List.foldr_cons, ← ofEvents, pool_cons, ih]
      by_cases owned : event.scope = .pool
      · have moves := Event.scope_eq_pool_iff.mp owned
        simp [owned, moves]
      · simp [owned]
  | system => simp [traffic, Kind.side]

/-- The restarts of an actor are those it owns. -/
theorem restarts_ofEvents (id : Nat) :
    (ofEvents events).restarts id =
      events.filter fun event => event.scope = .actor id ∧ event.kind = .restart := by
  rw [restarts]
  induction events with
  | nil => rfl
  | cons event rest ih =>
    rw [ofEvents, List.foldr_cons, ← ofEvents]
    by_cases owned : event.scope = .actor id
    · rw [actorEvents_cons_of_owned owned, ActorEvents.restarts_cons owned, ih]
      by_cases restart : event.kind = .restart <;> simp [owned, restart]
    · rw [actorEvents_cons_of_ne owned, ih]
      simp [owned]

theorem stops_ofEvents :
    (ofEvents events).stops = events.filter fun event => event.kind = .stopSystem := by
  induction events with
  | nil => rfl
  | cons event rest ih =>
    rw [ofEvents, List.foldr_cons, ← ofEvents, stops_cons, ih]
    by_cases stop : event.kind = .stopSystem <;> simp [stop]

/-- An actor is known if it owns any event. -/
theorem mem_actorIds_ofEvents :
    id ∈ (ofEvents events).actorIds ↔ ∃ event ∈ events, event.scope = .actor id := by
  rw [actorIds, Std.ExtTreeMap.mem_keys]
  induction events with
  | nil => simp [ofEvents]
  | cons event rest ih =>
    rw [ofEvents, List.foldr_cons, ← ofEvents, mem_actors_cons, ih]
    simp

theorem ascending_actorIds : Ascending grouping.actorIds :=
  Std.ExtTreeMap.ordered_keys

end Grouping

end QueueDepth
