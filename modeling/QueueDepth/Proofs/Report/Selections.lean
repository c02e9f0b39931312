import QueueDepth.Proofs.Report.Outcomes

/-!
# What a selection decides

A selection decides which keys a report asks for and how many actors it calls idle, and nothing else. It
asks by its actors alone: a list of them stands for a set, and all actors are those that own an event.
-/

namespace QueueDepth

/-- Selections that cover the same actors ask for the same keys. -/
theorem Selection.keys_eq_of_covers {selection other : Selection} {events : List Event}
    (same : ∀ id, selection.Covers events (.actor id) ↔ other.Covers events (.actor id)) :
    selection.keys (.ofEvents events) = other.keys (.ofEvents events) := by
  apply ascending_keys.eq_of_mem_iff ascending_keys
  intro key
  rw [mem_keys_iff, mem_keys_iff]
  cases key with
  | actor id => exact same id
  | pool => rfl
  | system => rfl

namespace Report

variable {trace : Trace} {selection other : Selection}

/-- Apart from the idle actors, the keys decide the report. -/
theorem made_eq_of_keys
    (same : selection.keys (.ofEvents trace.events) = other.keys (.ofEvents trace.events))
    (stop : Nat) :
    made trace selection stop =
      { made trace other stop with idleActors := selection.idle (.ofEvents trace.events) } := by
  simp only [made, tracks, same]

theorem ofTrace_eq_of_covers
    (same : ∀ id, selection.Covers trace.events (.actor id) ↔
      other.Covers trace.events (.actor id)) :
    ofTrace trace selection = (ofTrace trace other).map fun report =>
      { report with idleActors := selection.idle (.ofEvents trace.events) } := by
  have reports := made_eq_of_keys (Selection.keys_eq_of_covers same)
  rw [ofTrace_eq, ofTrace_eq, funext reports]
  cases onlyStop (stopTimes trace) <;> rfl

/-- What a report says of the trace as a whole: its size, its stop, what lies behind that, and the
counts. -/
def overview (report : Report) : Nat × Nat × Nat × EventCounts :=
  (report.records, report.timeline.stop, report.afterStop, report.counts)

theorem map_overview_ofTrace :
    (ofTrace trace selection).map overview =
      (onlyStop (stopTimes trace)).map fun stop =>
        (trace.size, stop, trace.events.countP (fun event => stop < event.timestamp),
          .ofEvents trace.events) := by
  rw [ofTrace_eq]
  cases onlyStop (stopTimes trace) <;> rfl

/-- Lists of the same actors, in any order and with any repetitions, have the same report or the same
fault. Where the list holds just the actors that own an event, the report on all actors differs from it
in the number of idle actors only. And whatever is selected, there is a report or the same fault, with
the same overview of the trace. -/
theorem selections_are_sets (trace : Trace) :
    (∀ ids others : List Nat, (∀ id, id ∈ ids ↔ id ∈ others) →
      ofTrace trace (.only ids) = ofTrace trace (.only others)) ∧
    (∀ ids : List Nat, (∀ id, id ∈ ids ↔ ∃ event ∈ trace.events, event.scope = .actor id) →
      ofTrace trace .all = (ofTrace trace (.only ids)).map fun report =>
        { report with idleActors := Selection.all.idle (.ofEvents trace.events) }) ∧
    ∀ selection other : Selection,
      (ofTrace trace selection).map overview = (ofTrace trace other).map overview := by
  refine ⟨?_, ?_, ?_⟩
  · intro ids others same
    have keys : (Selection.only ids).keys (.ofEvents trace.events) =
        (Selection.only others).keys (.ofEvents trace.events) := Selection.keys_eq_of_covers same
    rw [ofTrace_eq, ofTrace_eq]
    exact congrArg (Except.map · _) (funext (made_eq_of_keys keys))
  · intro ids owned
    exact ofTrace_eq_of_covers fun id => (owned id).symm
  · intro selection other
    rw [map_overview_ofTrace, map_overview_ofTrace]

/-- Actors 5 and 2 own events, the latter only a failure, and a row of the pool names actor 8. -/
def sparseTrace : Trace :=
  ⟨[⟨1, some 5, none, "t", .enqueue⟩, ⟨2, some 2, none, "t", .fail⟩,
    ⟨2, some 8, none, "t", .poolEnqueue⟩, ⟨3, some 5, none, "t", .dequeue⟩,
    ⟨4, none, none, "t", .stopSystem⟩], by decide⟩

theorem selections_of_sparseTrace :
    (∀ id, id ∈ [5, 9, 5, 2] ↔ id ∈ [2, 5, 9]) ∧
      ofTrace sparseTrace (.only [5, 9, 5, 2]) = ofTrace sparseTrace (.only [2, 5, 9]) ∧
      (∀ id, id ∈ [5, 2, 5] ↔ ∃ event ∈ sparseTrace.events, event.scope = .actor id) ∧
      ofTrace sparseTrace .all = (ofTrace sparseTrace (.only [5, 2, 5])).map fun report =>
        { report with idleActors := Selection.all.idle (.ofEvents sparseTrace.events) } := by
  have same (id : Nat) : id ∈ [5, 9, 5, 2] ↔ id ∈ [2, 5, 9] := by
    simp only [List.mem_cons, List.not_mem_nil, or_false]
    omega
  have owned (id : Nat) :
      id ∈ [5, 2, 5] ↔ ∃ event ∈ sparseTrace.events, event.scope = .actor id := by
    simp [sparseTrace, Event.scope]
    omega
  obtain ⟨sets, all, _⟩ := selections_are_sets sparseTrace
  exact ⟨same, sets _ _ same, owned, all _ owned⟩

end Report

end QueueDepth
