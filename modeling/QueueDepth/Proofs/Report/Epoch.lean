import QueueDepth.Proofs.EventCounts
import QueueDepth.Proofs.Report.Outcomes
import QueueDepth.Proofs.Timeline.Epoch
import QueueDepth.Proofs.Trace.Order

/-!
# The epoch is arbitrary

No timestamp is special, zero neither: an offset on all timestamps of a log is an offset on all timestamps
of its report, or of its fault, and changes nothing else. Every step from the log to the report has a lemma
that says so, and `Report.ofTrace_ofLog_shift` puts them together.
-/

namespace QueueDepth

/-- A report with an offset added to all timestamps. -/
def Report.shift (offset : Nat) (report : Report) : Report :=
  { report with
    timeline := report.timeline.shift offset
    violations := report.violations.map (Depth.Violation.shift offset) }

variable (offset : Nat) (events : List Event)

/-! ## Traces -/

/-- A trace with an offset added to all timestamps. -/
def Trace.shift (trace : Trace) : Trace where
  events := trace.events.map (Event.shift offset)
  sorted := List.pairwise_map.mpr (trace.sorted.imp fun order => Nat.add_le_add_right order offset)

/-- Sorting by timestamp does not notice the offset. -/
theorem Trace.ofLog_shift (log : List Event) :
    ofLog (log.map (Event.shift offset)) = (ofLog log).shift offset := by
  have sorted_eq : (log.map (Event.shift offset)).mergeSort notAfter =
      (log.mergeSort notAfter).map (Event.shift offset) := by
    symm
    apply List.map_mergeSort
    intro a _ b _
    exact decide_eq_decide.mpr Nat.add_le_add_iff_right.symm
  rw [ofLog, Trace.mk.injEq]
  exact sorted_eq

/-! ## Groups -/

namespace Grouping

theorem traffic_shift (key : Key) :
    (ofEvents (events.map (Event.shift offset))).traffic key =
      ((ofEvents events).traffic key).map (Event.shift offset) := by
  rw [traffic_ofEvents, traffic_ofEvents, List.filter_map]
  rfl

theorem restarts_shift (id : Nat) :
    (ofEvents (events.map (Event.shift offset))).restarts id =
      ((ofEvents events).restarts id).map (Event.shift offset) := by
  rw [restarts_ofEvents, restarts_ofEvents, List.filter_map]
  rfl

theorem stops_shift :
    (ofEvents (events.map (Event.shift offset))).stops =
      (ofEvents events).stops.map (Event.shift offset) := by
  rw [stops_ofEvents, stops_ofEvents, List.filter_map]
  rfl

theorem actorIds_shift :
    (ofEvents (events.map (Event.shift offset))).actorIds = (ofEvents events).actorIds := by
  apply ascending_actorIds.eq_of_mem_iff ascending_actorIds
  intro id
  rw [mem_actorIds_ofEvents, mem_actorIds_ofEvents]
  simp

end Grouping

namespace Selection

variable (selection : Selection)

theorem keys_shift :
    selection.keys (.ofEvents (events.map (Event.shift offset))) =
      selection.keys (.ofEvents events) := by
  cases selection with
  | all => simp only [keys, actors, Grouping.actorIds_shift]
  | only ids => rfl

theorem idle_shift :
    selection.idle (.ofEvents (events.map (Event.shift offset))) =
      selection.idle (.ofEvents events) := by
  cases selection with
  | all => simp only [idle, Grouping.actorIds_shift]
  | only ids => rfl

end Selection

theorem EventCounts.ofEvents_shift :
    ofEvents (events.map (Event.shift offset)) = ofEvents events := by
  apply ofEvents_congr
  intro cell
  rw [occurrences, List.countP_map]
  rfl

/-! ## Reports -/

namespace Report

variable (selection : Selection)

theorem trackOf_shift (series : Depth.Series) :
    trackOf (.ofEvents (events.map (Event.shift offset))) (series.shift offset) =
      (trackOf (.ofEvents events) series).shift offset := by
  have owner : (series.shift offset).key = series.key := rfl
  rw [trackOf, trackOf, owner]
  cases series.key with
  | actor id =>
    simp only [Track.shift, Grouping.restarts_shift, List.map_map]
    rfl
  | pool => rfl
  | system => rfl

theorem outcomes_shift :
    outcomes (.ofEvents (events.map (Event.shift offset))) selection =
      (outcomes (.ofEvents events) selection).map (Depth.Outcome.shift offset) := by
  rw [outcomes, outcomes, Selection.keys_shift, List.map_map]
  apply List.map_congr_left
  intro key _
  rw [Grouping.traffic_shift, Depth.outcome_shift]
  rfl

theorem seriesOf_shift (outcomes : List Depth.Outcome) :
    seriesOf (outcomes.map (Depth.Outcome.shift offset)) =
      (seriesOf outcomes).map (Depth.Series.shift offset) := by
  rw [seriesOf, seriesOf, List.filterMap_map, List.map_filterMap]
  apply List.filterMap_congr
  intro outcome _
  cases outcome <;> rfl

theorem filterMap_violation?_shift (outcomes : List Depth.Outcome) :
    (outcomes.map (Depth.Outcome.shift offset)).filterMap violation? =
      (outcomes.filterMap violation?).map (Depth.Violation.shift offset) := by
  rw [List.filterMap_map, List.map_filterMap]
  apply List.filterMap_congr
  intro outcome _
  cases outcome <;> rfl

theorem afterStop_shift (stop : Nat) :
    (events.map (Event.shift offset)).countP (fun event => stop + offset < event.timestamp) =
      events.countP fun event => stop < event.timestamp := by
  rw [List.countP_map]
  apply List.countP_congr
  intro event _
  simp [Event.shift]

theorem tracks_shift :
    (seriesOf (outcomes (.ofEvents (events.map (Event.shift offset))) selection)).map
        (trackOf (.ofEvents (events.map (Event.shift offset)))) =
      ((seriesOf (outcomes (.ofEvents events) selection)).map (trackOf (.ofEvents events))).map
        (Track.shift offset) := by
  rw [outcomes_shift, seriesOf_shift, List.map_map, List.map_map]
  exact List.map_congr_left fun series _ => trackOf_shift offset events series

theorem ofTrace_shift (trace : Trace) :
    ofTrace (trace.shift offset) selection =
      ((ofTrace trace selection).map (shift offset)).mapError (StopFault.shift offset) := by
  have shifted : (trace.shift offset).events = trace.events.map (Event.shift offset) := rfl
  have stops : (Grouping.ofEvents (trace.shift offset).events).stops.map Event.timestamp =
      ((Grouping.ofEvents trace.events).stops.map Event.timestamp).map (· + offset) := by
    rw [shifted, Grouping.stops_shift, List.map_map, List.map_map]
    rfl
  simp only [ofTrace, stops, onlyStop_shift]
  rw [shifted, tracks_shift, Timeline.ofTracks_shift]
  cases onlyStop ((Grouping.ofEvents trace.events).stops.map Event.timestamp) with
  | error fault => rfl
  | ok stop =>
    cases Timeline.ofTracks ((seriesOf (outcomes (.ofEvents trace.events) selection)).map
      (trackOf (.ofEvents trace.events)))
      ((Grouping.ofEvents trace.events).stops.map Event.timestamp) with
    | error fault => rfl
    | ok timeline =>
      simp only [Except.map, Except.mapError, bind, Except.bind, pure, Except.pure, outcomes_shift,
        filterMap_violation?_shift, afterStop_shift, Selection.idle_shift,
        EventCounts.ofEvents_shift, Trace.size, shifted, List.length_map]
      rfl

/-- With an offset on all timestamps of a log, its report has the offset on all timestamps (of rows,
violations, restarts, the extent and the stop) and is the same in all else; and if the log has no single
stop, the fault is the same, with the offset on the stops it lists. The points and the markers of any
timeline keep their order, and take the offset on as well. -/
theorem ofTrace_ofLog_shift (log : List Event) :
    ofTrace (.ofLog (log.map (Event.shift offset))) selection =
      ((ofTrace (.ofLog log) selection).map (shift offset)).mapError (StopFault.shift offset) ∧
    ∀ timeline : Timeline,
      (timeline.shift offset).points = timeline.points.map (Point.shift offset) ∧
      (timeline.shift offset).markers = timeline.markers.map (Marker.shift offset) := by
  refine ⟨?_, fun timeline => ?_⟩
  · rw [Trace.ofLog_shift]
    exact ofTrace_shift offset selection (.ofLog log)
  · exact ⟨timeline.points_shift offset, timeline.markers_shift offset⟩

end Report

end QueueDepth
