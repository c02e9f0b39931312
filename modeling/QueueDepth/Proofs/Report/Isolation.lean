import QueueDepth.Proofs.Report.Findings
import QueueDepth.Proofs.Report.Significance

/-!
# Keys do not disturb one another

What a report says of a key follows from the events that move its queue, and for an actor from its
restarts. Other keys, their violations, the selection they come with and all events that move no queue
are of no account.

* `outcomeOf_congr_moves`: the moves of a queue decide its outcome.
* `isolated_keys`: so two reports on the same moves of a key agree on it.
-/

namespace QueueDepth

/-- When and how the queue of a key is moved by the events of that key. -/
def Trace.movesOf (trace : Trace) (key : Key) : List (Nat × Kind) :=
  (trace.events.filter fun event =>
    event.scope = key ∧ (event.kind.side key).isSome = true).map fun event =>
      (event.timestamp, event.kind)

namespace Report

variable {trace other : Trace} {selection otherSelection : Selection} {key : Key}

/-- The moves of a queue at an instant are counted over timestamps and kinds alone. -/
theorem movedAt_traffic (side : Side) (instant : Nat) :
    Depth.movedAt key side ((Grouping.ofEvents trace.events).traffic key) instant =
      (trace.movesOf key).countP fun move =>
        decide (move.2.side key = some side) && move.1 == instant := by
  rw [Grouping.traffic_ofEvents, Trace.movesOf, List.countP_map]
  rfl

theorem outcomeOf_congr_moves (same : (trace.movesOf key).Perm (other.movesOf key)) :
    outcomeOf trace key = outcomeOf other key := by
  refine Depth.outcome_congr ?_ (inOrder_traffic trace key) (inOrder_traffic other key)
  intro side instant
  rw [movedAt_traffic, movedAt_traffic, same.countP_eq]

/-- With the same restarts besides, an actor has the same track. -/
theorem findingOf_congr_moves {id : Nat}
    (same : (trace.movesOf (.actor id)).Perm (other.movesOf (.actor id)))
    (restarts : trace.restartsOf id = other.restartsOf id) :
    findingOf trace (.actor id) = findingOf other (.actor id) := by
  have bears := key_outcomeOf trace (.actor id)
  rw [findingOf, findingOf, ← outcomeOf_congr_moves same]
  cases outcome : outcomeOf trace (.actor id) with
  | error violation => rfl
  | ok series =>
    rw [outcome] at bears
    have owner : series.key = .actor id := bears
    have track_eq : trackOf (.ofEvents trace.events) series =
        trackOf (.ofEvents other.events) series := by
      rw [trackOf_eq, trackOf_eq, owner]
      exact congrArg (Track.mk series) restarts
    exact congrArg Except.ok track_eq

/-- Two reports on any two traces and selections that both cover a key have one finding on it each. If
the queue of the key is moved alike, in any order, these are the same series or the same violation; if
the key is an actor that also restarts alike, they are the same in all. -/
theorem isolated_keys (trace other : Trace) (selection otherSelection : Selection)
    {report otherReport : Report} (ok : ofTrace trace selection = .ok report)
    (otherOk : ofTrace other otherSelection = .ok otherReport) {key : Key}
    (covered : selection.Covers trace.events key)
    (otherCovered : otherSelection.Covers other.events key)
    (same : (trace.movesOf key).Perm (other.movesOf key)) :
    ∃ finding otherFinding,
      report.findings key = [finding] ∧ otherReport.findings key = [otherFinding] ∧
      finding.map Track.series = otherFinding.map Track.series ∧
      ∀ id, key = .actor id → trace.restartsOf id = other.restartsOf id →
        finding = otherFinding := by
  obtain ⟨stop, _, rfl⟩ := of_ofTrace_eq_ok ok
  obtain ⟨otherStop, _, rfl⟩ := of_ofTrace_eq_ok otherOk
  refine ⟨findingOf trace key, findingOf other key, findings_made covered,
    findings_made otherCovered, ?_, ?_⟩
  · rw [map_series_findingOf, map_series_findingOf, outcomeOf_congr_moves same]
  · rintro id rfl restarts
    exact findingOf_congr_moves same restarts

/-- Actor 0 alone, with a restart. -/
def quietTrace : Trace :=
  ⟨[⟨1, some 0, none, "t", .enqueue⟩, ⟨1, some 0, none, "t", .dequeue⟩,
    ⟨2, some 0, some 1, "t", .restart⟩, ⟨3, some 0, none, "t", .enqueue⟩,
    ⟨9, none, none, "t", .stopSystem⟩], by decide⟩

/-- The same events of actor 0 among those of others: actor 1 is overdrawn, and the stop comes early. -/
def noisyTrace : Trace :=
  ⟨[⟨0, some 1, none, "u", .dequeue⟩, ⟨1, some 0, some 4, "u", .dequeue⟩,
    ⟨1, none, none, "u", .poolEnqueue⟩, ⟨1, some 0, none, "u", .enqueue⟩,
    ⟨2, none, some 6, "u", .stopSystem⟩, ⟨2, some 0, some 1, "u", .restart⟩,
    ⟨3, some 0, none, "u", .fail⟩, ⟨3, some 0, none, "u", .enqueue⟩], by decide⟩

theorem isolated_in_noisyTrace :
    (quietTrace.movesOf (.actor 0)).Perm (noisyTrace.movesOf (.actor 0)) ∧
      quietTrace.restartsOf 0 = noisyTrace.restartsOf 0 ∧
      ∃ report noisy, ofTrace quietTrace (.only [0, 7]) = .ok report ∧
        ofTrace noisyTrace .all = .ok noisy ∧
        ∃ finding, report.findings (.actor 0) = [finding] ∧ noisy.findings (.actor 0) = [finding] := by
  have same : (quietTrace.movesOf (.actor 0)).Perm (noisyTrace.movesOf (.actor 0)) := by decide
  have restarts : quietTrace.restartsOf 0 = noisyTrace.restartsOf 0 := by decide
  have ok : ofTrace quietTrace (.only [0, 7]) = .ok (made quietTrace (.only [0, 7]) 9) :=
    ofTrace_eq_ok rfl
  have noisyOk : ofTrace noisyTrace .all = .ok (made noisyTrace .all 2) := ofTrace_eq_ok rfl
  have listed : (Selection.only [0, 7]).Covers quietTrace.events (.actor 0) :=
    List.mem_cons_self
  have owned : Selection.all.Covers noisyTrace.events (.actor 0) :=
    ⟨⟨1, some 0, some 4, "u", .dequeue⟩, by decide, rfl⟩
  obtain ⟨finding, _, first, second, _, agree⟩ := isolated_keys quietTrace noisyTrace
    (.only [0, 7]) .all ok noisyOk listed owned same
  rw [← agree 0 rfl restarts] at second
  exact ⟨same, restarts, _, _, ok, noisyOk, finding, first, second⟩

end Report

end QueueDepth
