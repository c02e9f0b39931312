import Mathlib.Logic.ExistsUnique
import QueueDepth.Proofs.Depth.Instants
import QueueDepth.Proofs.Trace.Grouping
import QueueDepth.Proofs.Trace.Loaded

/-!
# Views of a trace

A trace is read through the parts of its grouping: the traffic of each queue, the restarts of each actor
and the stops. Each view shows the events of certain kinds with a certain owner, all of them and in the
order of the trace. In a loaded trace no event of these kinds is without an owner, so each is shown in
one view, and in no other.

* `view_ofEvents`: what a view shows.
* `View.existsUnique_shows`: who shows an event.
* `views_of_log`: from the log to the views.
-/

namespace QueueDepth

/-- A part of a grouping. -/
inductive View where
  /-- The traffic of the queue of a key. -/
  | traffic (key : Key)
  /-- The restarts of an actor. -/
  | restarts (id : Nat)
  /-- The stops of the system. -/
  | stops
  deriving DecidableEq

/-- The events that a view of a grouping holds. -/
def Grouping.view (grouping : Grouping) : View → List Event
  | .traffic key => grouping.traffic key
  | .restarts id => grouping.restarts id
  | .stops => grouping.stops

/-- The kinds of events that some view shows. -/
def Kind.shown : List Kind :=
  [.enqueue, .dequeue, .restart, .poolEnqueue, .poolDequeue, .stopSystem]

/-- Whether a view shows an event. -/
def View.Shows (event : Event) : View → Prop
  | .traffic (.actor id) =>
    event.scope = .actor id ∧ (event.kind = .enqueue ∨ event.kind = .dequeue)
  | .traffic .pool => event.kind = .poolEnqueue ∨ event.kind = .poolDequeue
  | .traffic .system => False
  | .restarts id => event.scope = .actor id ∧ event.kind = .restart
  | .stops => event.kind = .stopSystem

instance (event : Event) : (view : View) → Decidable (view.Shows event)
  | .traffic (.actor _) => inferInstanceAs (Decidable (_ ∧ _))
  | .traffic .pool => inferInstanceAs (Decidable (_ ∨ _))
  | .traffic .system => inferInstanceAs (Decidable False)
  | .restarts _ => inferInstanceAs (Decidable (_ ∧ _))
  | .stops => inferInstanceAs (Decidable (_ = _))

/-! ## What a view shows -/

theorem Kind.isSome_side_actor_iff {kind : Kind} {id : Nat} :
    (kind.side (.actor id)).isSome = true ↔ kind = .enqueue ∨ kind = .dequeue := by
  cases kind <;> simp [side]

theorem Kind.isSome_side_pool_iff {kind : Kind} :
    (kind.side .pool).isSome = true ↔ kind = .poolEnqueue ∨ kind = .poolDequeue := by
  cases kind <;> simp [side]

/-- A view shows all its events, in the order in which they stand. -/
theorem Grouping.view_ofEvents (events : List Event) (view : View) :
    (ofEvents events).view view = events.filter fun event => view.Shows event := by
  cases view with
  | traffic key =>
    rw [view, traffic_ofEvents]
    apply List.filter_congr
    intro event _
    rw [decide_eq_decide]
    cases key with
    | actor id => rw [View.Shows, Kind.isSome_side_actor_iff]
    | pool => rw [View.Shows, Event.scope_eq_pool_iff, and_self, Kind.isSome_side_pool_iff]
    | system => simp [View.Shows, Kind.side]
  | restarts id => exact restarts_ofEvents id
  | stops => exact stops_ofEvents

/-! ## Who shows an event -/

/-- An event that needs an actor and names one is owned by an actor. -/
theorem Event.exists_scope_of_named {event : Event} (needs : event.kind.needsActor = true)
    (named : event.actor.isSome = true) : ∃ id, event.scope = .actor id := by
  obtain ⟨timestamp, actor, generation, thread, kind⟩ := event
  obtain ⟨id, rfl⟩ := Option.isSome_iff_exists.mp named
  refine ⟨id, ?_⟩
  cases kind <;> first | rfl | cases needs

namespace View

variable {event : Event} {view : View}

/-- The view that shows an event, if one does. -/
def of? (event : Event) : Option View :=
  match event.kind, event.scope with
  | .enqueue, .actor id | .dequeue, .actor id => some (.traffic (.actor id))
  | .restart, .actor id => some (.restarts id)
  | .poolEnqueue, _ | .poolDequeue, _ => some (.traffic .pool)
  | .stopSystem, _ => some .stops
  | _, _ => none

theorem of?_of_shows (here : view.Shows event) : of? event = some view := by
  cases view with
  | traffic key =>
    cases key with
    | actor id => obtain ⟨owned, kind | kind⟩ := here <;> simp [of?, owned, kind]
    | pool => rcases here with kind | kind <;> simp [of?, kind]
    | system => cases here
  | restarts id =>
    obtain ⟨owned, kind⟩ := here
    simp [of?, owned, kind]
  | stops =>
    have kind : event.kind = .stopSystem := here
    simp [of?, kind]

theorem exists_shows (shown : event.kind ∈ Kind.shown)
    (named : event.kind.needsActor = true → event.actor.isSome = true) :
    ∃ view : View, view.Shows event := by
  simp only [Kind.shown, List.mem_cons, List.not_mem_nil, or_false] at shown
  have owner (needs : event.kind.needsActor = true) : ∃ id, event.scope = .actor id :=
    Event.exists_scope_of_named needs (named needs)
  rcases shown with kind | kind | kind | kind | kind | kind
  · obtain ⟨id, owned⟩ := owner (by rw [kind]; rfl)
    exact ⟨.traffic (.actor id), owned, .inl kind⟩
  · obtain ⟨id, owned⟩ := owner (by rw [kind]; rfl)
    exact ⟨.traffic (.actor id), owned, .inr kind⟩
  · obtain ⟨id, owned⟩ := owner (by rw [kind]; rfl)
    exact ⟨.restarts id, owned, kind⟩
  · exact ⟨.traffic .pool, .inl kind⟩
  · exact ⟨.traffic .pool, .inr kind⟩
  · exact ⟨.stops, kind⟩

/-- An event of a kind that is shown has one view, and no other, unless it fails to name its actor. -/
theorem existsUnique_shows (shown : event.kind ∈ Kind.shown)
    (named : event.kind.needsActor = true → event.actor.isSome = true) :
    ∃! view : View, view.Shows event := by
  obtain ⟨view, here⟩ := exists_shows shown named
  refine ⟨view, here, fun other there => ?_⟩
  exact Option.some.inj ((of?_of_shows there).symm.trans (of?_of_shows here))

end View

namespace Trace

/-- What becomes of a log on its way into the views. Sorting loses no event, doubles none, and keeps those
of one timestamp in the order of the log. A view shows exactly the events that it is for, in that order,
so each of them is in timestamp order. Known are the actors that own an event of any kind, each once and
ascending. If the log was read from a text, every event of a kind that is shown stands in one view only,
as often as in the log. -/
theorem views_of_log (log : List Event) :
    (ofLog log).events.Perm log ∧
    Depth.InOrder (ofLog log).events ∧
    (∀ instant, (ofLog log).events.filter (fun event => event.timestamp = instant) =
      log.filter fun event => event.timestamp = instant) ∧
    (∀ view : View, (Grouping.ofEvents (ofLog log).events).view view =
      (ofLog log).events.filter fun event => view.Shows event) ∧
    (∀ view, Depth.InOrder ((Grouping.ofEvents (ofLog log).events).view view)) ∧
    (Grouping.ofEvents (ofLog log).events).actorIds.Pairwise (· < ·) ∧
    (∀ id, id ∈ (Grouping.ofEvents (ofLog log).events).actorIds ↔
      ∃ event ∈ log, event.scope = .actor id) ∧
    ∀ text, ofCsv text = .ok (ofLog log) → ∀ event ∈ log, event.kind ∈ Kind.shown →
      (∃! view, event ∈ (Grouping.ofEvents (ofLog log).events).view view) ∧
      ∀ view, event ∈ (Grouping.ofEvents (ofLog log).events).view view →
        ((Grouping.ofEvents (ofLog log).events).view view).count event = log.count event := by
  have sorted := (ofLog log).sorted
  have whole := perm_ofLog log
  refine ⟨whole, sorted, filter_timestamp_ofLog log, Grouping.view_ofEvents _, ?_,
    ascending_iff_lt.mp Grouping.ascending_actorIds, ?_, ?_⟩
  · intro view
    rw [Grouping.view_ofEvents]
    exact sorted.filter _
  · intro id
    simp only [Grouping.mem_actorIds_ofEvents, whole.mem_iff]
  · intro text loaded event member shown
    have inside : event ∈ (ofLog log).events := whole.mem_iff.mpr member
    have mem_view_iff (view : View) :
        event ∈ (Grouping.ofEvents (ofLog log).events).view view ↔ view.Shows event := by
      rw [Grouping.view_ofEvents, List.mem_filter, and_iff_right inside, decide_eq_true_eq]
    refine ⟨?_, ?_⟩
    · simp only [mem_view_iff]
      exact View.existsUnique_shows shown (named_of_mem loaded inside)
    · intro view here
      rw [mem_view_iff] at here
      rw [Grouping.view_ofEvents,
        List.count_filter (p := fun event => view.Shows event) (decide_eq_true here), whole.count_eq]

/-- A text out of order, with two equal rows, and with an actor that is named by an unknown event only. -/
def doubledText : List UInt8 :=
  Text.Utf8.encode ("timestamp,actor_id,gen_id,thread_id,eventType\n" ++ "9,,,main,StopSystem\n" ++
    "5,7,,main,Dequeue\n" ++ "5,7,,main,Enqueue\n" ++ "3,4,,main,CacheMiss\n" ++
    "5,7,,main,Enqueue\n" ++ "6,7,2,main,Restart\n").toList

/-- The event of the two equal rows. -/
def doubledEvent : Event :=
  ⟨5, some 7, none, "main", .enqueue⟩

/-- The events of all rows. -/
def doubledLog : List Event :=
  [⟨9, none, none, "main", .stopSystem⟩, ⟨5, some 7, none, "main", .dequeue⟩, doubledEvent,
    ⟨3, some 4, none, "main", .other "CacheMiss"⟩, doubledEvent,
    ⟨6, some 7, some 2, "main", .restart⟩]

theorem views_of_doubledLog :
    ofCsv doubledText = .ok (ofLog doubledLog) ∧ doubledEvent ∈ doubledLog ∧
      doubledEvent.kind ∈ Kind.shown ∧
      (∃! view, doubledEvent ∈ (Grouping.ofEvents (ofLog doubledLog).events).view view) ∧
      ((Grouping.ofEvents (ofLog doubledLog).events).view (.traffic (.actor 7))).count doubledEvent = 2 ∧
      4 ∈ (Grouping.ofEvents (ofLog doubledLog).events).actorIds := by
  have read : Event.ofRows (Csv.rows doubledText) = .ok doubledLog := by decide +kernel
  have loaded : ofCsv doubledText = .ok (ofLog doubledLog) := by
    rw [ofCsv, read]
    rfl
  have member : doubledEvent ∈ doubledLog := by decide
  have shown : doubledEvent.kind ∈ Kind.shown := by decide
  obtain ⟨whole, _, _, views, _, _, known, once⟩ := views_of_log doubledLog
  obtain ⟨one, count⟩ := once doubledText loaded _ member shown
  have here : doubledEvent ∈ (Grouping.ofEvents (ofLog doubledLog).events).view (.traffic (.actor 7)) := by
    rw [views, List.mem_filter, whole.mem_iff]
    exact ⟨member, by decide⟩
  refine ⟨loaded, member, shown, one, (count _ here).trans (by decide), ?_⟩
  rw [known]
  exact ⟨⟨3, some 4, none, "main", .other "CacheMiss"⟩, by decide, rfl⟩

end Trace

end QueueDepth
