import QueueDepth.Proofs.Depth.Checked
import QueueDepth.Proofs.Depth.Totals
import QueueDepth.Proofs.EventCounts
import QueueDepth.Proofs.Report.Accounting
import QueueDepth.Proofs.Report.Depths
import QueueDepth.Proofs.Report.Findings
import QueueDepth.Proofs.Trace.Loaded

/-!
# Conservation

A report counts every move of a queue twice: in the rows of the series of its key, and in the table of
all events. Both agree key by key. Where no key failed and every event of an actor names it, as in a
loaded trace, they agree in all: the moves in the series are the moves in the trace.
-/

namespace QueueDepth

/-! ## What moves a queue -/

/-- The kind of events that move the queue of a key to a side. The system has no queue. -/
def Key.mover : Key → Side → Kind
  | .actor _, .enqueue => .enqueue
  | .actor _, .dequeue => .dequeue
  | _, .enqueue => .poolEnqueue
  | _, .dequeue => .poolDequeue

/-- The kinds of events that move some queue to a side. -/
def Side.movers : Side → List Kind
  | .enqueue => [.enqueue, .poolEnqueue]
  | .dequeue => [.dequeue, .poolDequeue]

theorem Kind.side_eq_some_iff {kind : Kind} {key : Key} {side : Side} (queue : key ≠ .system) :
    kind.side key = some side ↔ kind = key.mover side := by
  cases key with
  | actor id => cases side <;> cases kind <;> simp [Kind.side, Key.mover]
  | pool => cases side <;> cases kind <;> simp [Kind.side, Key.mover]
  | system => exact absurd rfl queue

namespace Event

variable {event : Event} {side : Side}

/-- Of the kinds that move some queue, an event has the one that moves the queue of its owner. -/
theorem kind_eq_mover_iff (queue : event.scope ≠ .system) :
    event.kind = event.scope.mover side ↔ event.kind ∈ side.movers := by
  obtain ⟨timestamp, actor, generation, thread, kind⟩ := event
  cases kind <;> cases actor <;> cases side <;> simp_all [scope, Key.mover, Side.movers]

/-- A move belongs to a queue if an event that needs an actor names it. -/
theorem scope_ne_system (moves : event.kind ∈ side.movers)
    (named : event.kind.needsActor = true → event.actor.isSome = true) : event.scope ≠ .system := by
  obtain ⟨timestamp, actor, generation, thread, kind⟩ := event
  cases side <;> cases kind <;> cases actor <;> simp_all [scope, Side.movers, Kind.needsActor]

end Event

namespace Report

variable {trace : Trace} {selection : Selection} {stop : Nat} {key : Key}

/-- The traffic of a key and the table of counts agree on its moves. -/
theorem countP_traffic (queue : key ≠ .system) (side : Side) :
    ((Grouping.ofEvents trace.events).traffic key).countP (Depth.movesTo key side) =
      (EventCounts.ofEvents trace.events).count key (key.mover side) := by
  rw [EventCounts.count_ofEvents, Grouping.traffic_ofEvents, List.countP_filter]
  apply List.countP_congr
  intro event _
  have moves : event.kind.side key = some side ↔ event.kind = key.mover side :=
    Kind.side_eq_some_iff queue
  simp only [Depth.movesTo, Cell.ofEvent, Cell.mk.injEq, Bool.and_eq_true, decide_eq_true_eq]
  rw [← moves]
  constructor
  · rintro ⟨moved, owned, _⟩
    exact ⟨owned, moved⟩
  · rintro ⟨owned, moved⟩
    exact ⟨moved, owned, by rw [moved]; rfl⟩

theorem count_le (trace : Trace) (key : Key) (kind : Kind) :
    (EventCounts.ofEvents trace.events).count key kind ≤ trace.size := by
  rw [EventCounts.count_ofEvents]
  exact List.countP_le_length

theorem ne_system_of_covers (covered : selection.Covers trace.events key) : key ≠ .system := by
  rintro rfl
  exact covered

section Small

variable (small : trace.size < 2 ^ 63)

include small

theorem few_traffic (key : Key) : ((Grouping.ofEvents trace.events).traffic key).length < 2 ^ 63 :=
  length_traffic_le.trans_lt small

/-- The series of a track holds every move of its queue. -/
theorem total_of_mem_tracks {track : Track}
    (member : track ∈ (made trace selection stop).timeline.tracks) (side : Side) :
    track.series.total side =
      (EventCounts.ofEvents trace.events).count track.key (track.key.mover side) := by
  have covered := Selection.mem_keys_iff.mp (mem_tracks_made_iff.mp member).1
  rw [← countP_traffic (ne_system_of_covers covered)]
  exact Depth.total_eq (few_traffic small track.key) (inOrder_traffic trace track.key)
    (outcomeOf_of_mem_tracks member) side

/-- The rows before a violation hold no more than the moves of its queue. -/
theorem sum_rows_of_mem_violations {violation : Depth.Violation}
    (member : violation ∈ (made trace selection stop).violations) (side : Side) :
    (violation.rows.map fun row => row.moved side).sum ≤
      (EventCounts.ofEvents trace.events).count violation.key (violation.key.mover side) := by
  have covered := Selection.mem_keys_iff.mp (mem_violations_made_iff.mp member).1
  have rows : ((outcomeOf trace violation.key).rows.map fun row => row.moved side).sum ≤
      ((Grouping.ofEvents trace.events).traffic violation.key).countP
        (Depth.movesTo violation.key side) :=
    Depth.sum_rows_le (few_traffic small violation.key) (inOrder_traffic trace violation.key)
  rw [outcomeOf_of_mem_violations member] at rows
  rw [← countP_traffic (ne_system_of_covers covered)]
  exact rows

end Small

/-! ## All keys -/

/-- Counted key by key, all moves of events that belong to a selected key. -/
theorem sum_count_keys (side : Side) :
    ((selection.keys (.ofEvents trace.events)).map fun key =>
        (EventCounts.ofEvents trace.events).count key (key.mover side)).sum =
      trace.events.countP fun event =>
        decide (event.kind ∈ side.movers) &&
          decide (event.scope ∈ selection.keys (.ofEvents trace.events)) := by
  rw [← sum_countP_label Selection.ascending_keys.nodup]
  congr 1
  apply List.map_congr_left
  intro key selected
  have queue : key ≠ .system := ne_system_of_covers (Selection.mem_keys_iff.mp selected)
  rw [EventCounts.count_ofEvents]
  apply List.countP_congr
  intro event _
  simp only [Cell.ofEvent, Cell.mk.injEq, Bool.and_eq_true, decide_eq_true_eq]
  rw [and_comm]
  refine and_congr_left ?_
  rintro rfl
  exact Event.kind_eq_mover_iff queue

/-- Where every event that needs an actor names it, all moves of the trace belong to selected keys. -/
theorem sum_count_all
    (named : ∀ event ∈ trace.events, event.kind.needsActor = true → event.actor.isSome = true)
    (side : Side) :
    ((Selection.all.keys (.ofEvents trace.events)).map fun key =>
        (EventCounts.ofEvents trace.events).count key (key.mover side)).sum =
      trace.events.countP fun event => event.kind ∈ side.movers := by
  rw [sum_count_keys]
  apply List.countP_congr
  intro event member
  rw [Bool.and_eq_true, decide_eq_true_eq, decide_eq_true_eq, Selection.mem_keys_iff]
  refine ⟨And.left, fun moves => ⟨moves, ?_⟩⟩
  have queue : event.scope ≠ .system := Event.scope_ne_system moves (named event member)
  cases owner : event.scope with
  | actor id => exact ⟨event, member, owner⟩
  | pool => trivial
  | system => exact absurd owner queue

theorem sum_total_tracks (small : trace.size < 2 ^ 63)
    (named : ∀ event ∈ trace.events, event.kind.needsActor = true → event.actor.isSome = true)
    (clean : (made trace .all stop).violations = []) (side : Side) :
    ((made trace .all stop).timeline.tracks.map fun track => track.series.total side).sum =
      trace.events.countP fun event => event.kind ∈ side.movers := by
  have every : ((made trace .all stop).timeline.tracks.map Track.key ++ []).Perm
      (Selection.all.keys (.ofEvents trace.events)) := by
    rw [← List.map_nil (f := Depth.Violation.key), ← clean]
    exact keys_perm
  rw [List.append_nil] at every
  rw [← sum_count_all named, ← (every.map _).sum_nat, List.map_map]
  congr 1
  exact List.map_congr_left fun track member => total_of_mem_tracks small member side

/-- The depths of a report and its table of counts tell the same. No word overflows on the way to any
outcome. A series has as many enqueues and dequeues as the table counts for its key, and ends with
what is left of them; the rows before a violation have no more. In a loaded trace on which all keys are
asked for and none fails, the series together have the moves of the whole trace. -/
theorem conserves_moves (trace : Trace) (selection : Selection) (small : trace.size < 2 ^ 63)
    {report : Report} (ok : ofTrace trace selection = .ok report) :
    (∀ key, Depth.checkedOutcome key ((Grouping.ofEvents trace.events).traffic key) =
      some (outcomeOf trace key)) ∧
    (∀ key kind, report.counts.count key kind ≤ trace.size) ∧
    (∀ track ∈ report.timeline.tracks,
      track.series.totalEnqueued = report.counts.count track.key (track.key.mover .enqueue) ∧
      track.series.totalDequeued = report.counts.count track.key (track.key.mover .dequeue) ∧
      track.series.finalDepth + track.series.totalDequeued = track.series.totalEnqueued) ∧
    (∀ violation ∈ report.violations,
      (violation.rows.map Depth.Row.enqueued).sum ≤
        report.counts.count violation.key (violation.key.mover .enqueue) ∧
      (violation.rows.map Depth.Row.dequeued).sum ≤
        report.counts.count violation.key (violation.key.mover .dequeue)) ∧
    ∀ text, Trace.ofCsv text = .ok trace → selection = .all → report.violations = [] →
      (report.timeline.tracks.map fun track => track.series.totalEnqueued).sum =
        trace.events.countP (fun event => event.kind = .enqueue ∨ event.kind = .poolEnqueue) ∧
      (report.timeline.tracks.map fun track => track.series.totalDequeued).sum =
        trace.events.countP fun event => event.kind = .dequeue ∨ event.kind = .poolDequeue := by
  obtain ⟨stop, _, rfl⟩ := of_ofTrace_eq_ok ok
  refine ⟨fun key => Depth.checkedOutcome_eq_some (few_traffic small key), count_le trace, ?_, ?_, ?_⟩
  · intro track member
    refine ⟨total_of_mem_tracks small member .enqueue, total_of_mem_tracks small member .dequeue, ?_⟩
    exact Depth.finalDepth_add_dequeued (few_traffic small track.key)
      (inOrder_traffic trace track.key) (outcomeOf_of_mem_tracks member)
  · intro violation member
    exact ⟨sum_rows_of_mem_violations small member .enqueue,
      sum_rows_of_mem_violations small member .dequeue⟩
  · rintro text loaded rfl clean
    have named (event : Event) (member : event ∈ trace.events) :
        event.kind.needsActor = true → event.actor.isSome = true :=
      Trace.named_of_mem loaded member
    have sums := sum_total_tracks small named clean
    refine ⟨(sums .enqueue).trans ?_, (sums .dequeue).trans ?_⟩
    · apply List.countP_congr
      intro event _
      simp [Side.movers]
    · apply List.countP_congr
      intro event _
      simp [Side.movers]

/-- A text with the moves of one actor and of the pool. -/
def ledgerText : List UInt8 :=
  Text.Utf8.encode ("timestamp,actor_id,gen_id,thread_id,eventType\n" ++ "5,7,,main,Enqueue\n" ++
    "6,,,main,PoolEnqueue\n" ++ "6,7,,main,Enqueue\n" ++ "8,7,1,worker,Dequeue\n" ++
    "9,,,main,StopSystem\n").toList

/-- The trace it holds. -/
def ledgerTrace : Trace :=
  ⟨[⟨5, some 7, none, "main", .enqueue⟩, ⟨6, none, none, "main", .poolEnqueue⟩,
    ⟨6, some 7, none, "main", .enqueue⟩, ⟨8, some 7, some 1, "worker", .dequeue⟩,
    ⟨9, none, none, "main", .stopSystem⟩], by decide⟩

theorem ofCsv_ledgerText : Trace.ofCsv ledgerText = .ok ledgerTrace :=
  Trace.ofCsv_eq_ok (by decide +kernel)

theorem moves_of_ledgerTrace :
    ledgerTrace.size < 2 ^ 63 ∧ Trace.ofCsv ledgerText = .ok ledgerTrace ∧
      ∃ report, ofTrace ledgerTrace .all = .ok report ∧ report.violations = [] ∧
        (report.timeline.tracks.map fun track => track.series.totalEnqueued).sum = 3 ∧
        (report.timeline.tracks.map fun track => track.series.totalDequeued).sum = 1 := by
  have small : ledgerTrace.size < 2 ^ 63 := by decide
  have ok : ofTrace ledgerTrace .all = .ok (made ledgerTrace .all 9) := ofTrace_eq_ok rfl
  have clean : (made ledgerTrace .all 9).violations = [] := by decide +kernel
  obtain ⟨_, _, _, _, sums⟩ := conserves_moves ledgerTrace .all small ok
  obtain ⟨came, went⟩ := sums ledgerText ofCsv_ledgerText rfl clean
  exact ⟨small, ofCsv_ledgerText, _, ok, clean, came, went⟩

end Report

end QueueDepth
