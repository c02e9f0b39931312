import QueueDepth.Proofs.Report.Accounting
import QueueDepth.Proofs.Report.Points
import QueueDepth.Proofs.Report.Significance
import QueueDepth.Proofs.Timeline.Extent

/-!
# The extent of a report

Everything on the timeline of a report comes from an event of the trace: the rows of a track from moves
of its queue, its restarts from restarts, and the stop from the stop. So the extent of the timeline lies
within that of the trace, and as nothing on it can be later than the last event, it ends with the stop
where no event comes after that.

* `Trace.timeRange?_of_mem`: the extent of a trace.
* `exists_event_of_marked`: where the instants of a timeline come from.
-/

namespace QueueDepth

/-- A trace that holds an event begins and ends with events, and all others lie between. -/
theorem Trace.timeRange?_of_mem {trace : Trace} {event : Event} (member : event ∈ trace.events) :
    ∃ first last, trace.timeRange? = some (first, last) ∧
      ∀ other ∈ trace.events, first ≤ other.timestamp ∧ other.timestamp ≤ last := by
  have nonempty : trace.events ≠ [] := List.ne_nil_of_mem member
  refine ⟨(trace.events.head nonempty).timestamp, (trace.events.getLast nonempty).timestamp, ?_, ?_⟩
  · rw [timeRange?, List.head?_eq_some_head nonempty, List.getLast?_eq_some_getLast nonempty]
    rfl
  · intro other inside
    constructor
    · have sorted := trace.sorted
      rw [← List.cons_head_tail nonempty] at inside sorted
      exact timestamp_le_of_mem sorted inside
    · have sorted := trace.sorted
      rw [← List.dropLast_append_getLast nonempty] at inside sorted
      rcases List.mem_append.mp inside with early | last
      · exact (List.pairwise_append.mp sorted).2.2 other early _ (by simp)
      · rw [List.mem_singleton.mp last]

namespace Report

variable {trace : Trace} {selection : Selection} {stop : Nat} {track : Track}

/-! ## Where the instants come from -/

/-- A row stands at the instant of an event that moves the queue. -/
theorem exists_event_of_mem_rows
    (listed : track ∈ (made trace selection stop).timeline.tracks) {row : Depth.Row}
    (member : row ∈ track.rows) : ∃ event ∈ trace.events, event.timestamp = row.timestamp := by
  obtain ⟨early, late, split, rows⟩ := Depth.rows_outcome track.key (inOrder_traffic trace track.key)
  rw [← outcomeOf, outcomeOf_of_mem_tracks listed] at rows
  have inside : row ∈ early.map (Depth.rowAt track.key
      ((Grouping.ofEvents trace.events).traffic track.key)) := rows ▸ member
  obtain ⟨instant, front, rfl⟩ := List.mem_map.mp inside
  have stirs : instant ∈ Depth.stirred track.key
      ((Grouping.ofEvents trace.events).traffic track.key) := by
    rw [split]
    exact List.mem_append_left _ front
  obtain ⟨event, moves, now⟩ := Depth.exists_timestamp_of_stirs (Depth.mem_stirred.mp stirs)
  rw [Grouping.traffic_ofEvents] at moves
  exact ⟨event, (List.mem_filter.mp moves).1, now⟩

theorem exists_event_of_mem_restarts
    (listed : track ∈ (made trace selection stop).timeline.tracks) {restart : Restart}
    (member : restart ∈ track.restarts) :
    ∃ event ∈ trace.events, event.timestamp = restart.timestamp := by
  obtain ⟨_, found⟩ := mem_tracks_made_iff.mp listed
  obtain ⟨series, _, rfl⟩ := trackFor_eq_some_iff.mp found
  rw [trackOf_eq] at member
  cases owner : series.key with
  | actor id =>
    rw [owner] at member
    obtain ⟨event, inside, rfl⟩ := List.mem_map.mp member
    exact ⟨event, (List.mem_filter.mp inside).1, rfl⟩
  | pool =>
    rw [owner] at member
    cases member
  | system =>
    rw [owner] at member
    cases member

theorem exists_event_of_stop (single : stopTimes trace = [stop]) :
    ∃ event ∈ trace.events, event.timestamp = stop := by
  have listed : stop ∈ stopTimes trace := by simp [single]
  obtain ⟨event, inside, now⟩ := List.mem_map.mp listed
  exact ⟨event, (List.mem_filter.mp inside).1, now⟩

theorem exists_event_of_marked (single : stopTimes trace = [stop]) {instant : Nat}
    (marked : (made trace selection stop).timeline.Marked instant) :
    ∃ event ∈ trace.events, event.timestamp = instant := by
  rcases marked with rfl | ⟨track, listed, ⟨row, member, rfl⟩ | ⟨restart, member, rfl⟩⟩
  · exact exists_event_of_stop single
  · exact exists_event_of_mem_rows listed member
  · exact exists_event_of_mem_restarts listed member

theorem hull_made : (made trace selection stop).timeline.Hull :=
  Timeline.hull_of_ofTracks (ofTracks_tracks [stop])

/-! ## Reports -/

/-- The extent of a report is the hull of what stands on its timeline, the stop with it, and lies within
the trace. Ahead of it all depths are zero, and from its end on they are final. It ends with the stop if
no event comes after that. -/
theorem extent_is_hull (trace : Trace) (selection : Selection) {report : Report}
    (ok : ofTrace trace selection = .ok report) :
    ∃ first last, trace.timeRange? = some (first, last) ∧
      first ≤ report.timeline.start ∧ report.timeline.start ≤ report.timeline.stop ∧
      report.timeline.stop ≤ report.timeline.finish ∧ report.timeline.finish ≤ last ∧
      (∀ track ∈ report.timeline.tracks,
        (∀ row ∈ track.rows, report.timeline.start ≤ row.timestamp ∧
          row.timestamp ≤ report.timeline.finish) ∧
        ∀ restart ∈ track.restarts, report.timeline.start ≤ restart.timestamp ∧
          restart.timestamp ≤ report.timeline.finish) ∧
      report.timeline.Marked report.timeline.start ∧
      report.timeline.Marked report.timeline.finish ∧
      (∀ track ∈ report.timeline.tracks,
        (∀ instant < report.timeline.start, track.depthAt instant = 0) ∧
        ∀ instant, report.timeline.finish ≤ instant →
          track.depthAt instant = track.series.finalDepth) ∧
      (report.afterStop = 0 → report.timeline.finish = report.timeline.stop) := by
  obtain ⟨stop, single, rfl⟩ := of_ofTrace_eq_ok ok
  have hull : (made trace selection stop).timeline.Hull := hull_made
  have stop_marked : (made trace selection stop).timeline.Marked stop := .inl rfl
  have sorted : ∀ track ∈ (made trace selection stop).timeline.tracks,
      track.rows.Pairwise fun a b => a.timestamp ≤ b.timestamp :=
    fun track listed => (pairwise_rows_of_mem_tracks listed).imp Nat.le_of_lt
  obtain ⟨opening, openingMember, atStart⟩ := exists_event_of_marked single hull.start_marked
  obtain ⟨closing, closingMember, atFinish⟩ := exists_event_of_marked single hull.finish_marked
  obtain ⟨first, last, range, within⟩ := Trace.timeRange?_of_mem openingMember
  refine ⟨first, last, range, ?_, hull.start_le stop stop_marked, hull.le_finish stop stop_marked, ?_,
    ?_, hull.start_marked, hull.finish_marked, ?_, ?_⟩
  · rw [← atStart]
    exact (within opening openingMember).1
  · rw [← atFinish]
    exact (within closing closingMember).2
  · intro track listed
    exact ⟨fun row => hull.row_inside listed, fun restart => hull.restart_inside listed⟩
  · intro track listed
    exact ⟨fun instant => hull.depthAt_before listed (sorted track listed),
      fun instant => hull.depthAt_after listed (sorted track listed)⟩
  · intro silent
    refine le_antisymm ?_ (hull.le_finish stop stop_marked)
    have early := List.countP_eq_zero.mp silent closing closingMember
    rw [decide_eq_true_eq, not_lt] at early
    rw [← atFinish]
    exact early

/-- Actor 0 restarts before it is ever busy and moves on after the stop; the actors that are not selected
come earlier and later still. -/
def strayingTrace : Trace :=
  ⟨[⟨0, some 7, none, "t", .register⟩, ⟨2, some 0, some 1, "t", .restart⟩,
    ⟨3, some 0, none, "t", .enqueue⟩, ⟨4, none, none, "t", .stopSystem⟩,
    ⟨6, some 0, none, "t", .enqueue⟩, ⟨9, some 7, none, "t", .enqueue⟩], by decide⟩

theorem extent_of_strayingTrace :
    ∃ report, ofTrace strayingTrace (.only [0]) = .ok report ∧
      strayingTrace.timeRange? = some (0, 9) ∧ report.timeline.start = 2 ∧
      report.timeline.finish = 6 ∧ report.timeline.Marked 2 ∧ report.timeline.Marked 6 ∧
      ∀ track ∈ report.timeline.tracks,
        track.depthAt 1 = 0 ∧ track.depthAt 8 = track.series.finalDepth := by
  have ok : ofTrace strayingTrace (.only [0]) = .ok (made strayingTrace (.only [0]) 4) :=
    ofTrace_eq_ok rfl
  have start : (made strayingTrace (.only [0]) 4).timeline.start = 2 := by decide +kernel
  have finish : (made strayingTrace (.only [0]) 4).timeline.finish = 6 := by decide +kernel
  obtain ⟨_, _, _, _, _, _, _, _, startMarked, finishMarked, depths, _⟩ :=
    extent_is_hull strayingTrace (.only [0]) ok
  rw [start] at startMarked depths
  rw [finish] at finishMarked depths
  exact ⟨_, ok, rfl, start, finish, startMarked, finishMarked,
    fun track listed => ⟨(depths track listed).1 1 (by decide), (depths track listed).2 8 (by decide)⟩⟩

end Report

end QueueDepth
