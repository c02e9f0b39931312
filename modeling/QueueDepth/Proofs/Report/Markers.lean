import QueueDepth.Proofs.Report.Accounting
import QueueDepth.Proofs.Report.Points
import QueueDepth.Proofs.Report.Significance
import QueueDepth.Proofs.Timeline.Markers
import QueueDepth.Proofs.Trace.Order

/-!
# The markers of a report

The tracks of a report bear the restarts of their actors in the order of the trace. So their markers are
the events of the trace, gathered by key, as far as these are restarts; and what the sort of the log and
the sort of the markers leave in place is in the order of the log.
-/

namespace QueueDepth.Report

variable {trace : Trace} {selection : Selection} {stop : Nat}

/-- The markers of a track are the restarts among the events of its key. -/
theorem markers_of_mem_tracks {track : Track}
    (member : track ∈ (made trace selection stop).timeline.tracks) :
    track.markers =
      (trace.events.filter fun event => event.scope = track.key).filterMap Marker.ofEvent? := by
  obtain ⟨_, found⟩ := mem_tracks_made_iff.mp member
  obtain ⟨series, _, bears⟩ := trackFor_eq_some_iff.mp found
  have owner : series.key = track.key := by rw [← bears, key_trackOf]
  rw [trackOf_eq, owner] at bears
  rw [Track.markers, List.filterMap_filter]
  cases key : track.key with
  | actor id =>
    have restarts : track.restarts = trace.restartsOf id := by rw [← bears, key]; rfl
    dsimp only
    rw [restarts, Trace.restartsOf, List.map_map, ← List.filterMap_eq_map, List.filterMap_filter]
    apply List.filterMap_congr
    intro event _
    by_cases owned : event.scope = .actor id
    · by_cases restart : event.kind = .restart
      · simp [owned, restart, Marker.ofEvent?_eq_some owned restart, Restart.ofEvent]
      · simp [restart, Marker.ofEvent?_eq_none restart]
    · simp [owned]
  | pool =>
    symm
    rw [List.filterMap_eq_nil_iff]
    intro event _
    by_cases owned : event.scope = .pool <;> simp [owned, Marker.ofEvent?, Key.actor?]
  | system =>
    symm
    rw [List.filterMap_eq_nil_iff]
    intro event _
    by_cases owned : event.scope = .system <;> simp [owned, Marker.ofEvent?, Key.actor?]

/-- The markers of all tracks are the restarts among the events, gathered by the keys of the tracks. -/
theorem flatMap_markers_tracks :
    (made trace selection stop).timeline.tracks.flatMap Track.markers =
      (gathered Event.scope ((made trace selection stop).timeline.tracks.map Track.key)
        trace.events).filterMap Marker.ofEvent? := by
  rw [gathered, List.flatMap_map, List.filterMap_flatMap]
  exact List.flatMap_congr fun track member => markers_of_mem_tracks member

theorem isSome_track?_eq {timeline : Timeline} {key : Key} :
    (timeline.track? key).isSome = decide (key ∈ timeline.tracks.map Track.key) := by
  rw [Bool.eq_iff_iff, Timeline.track?, List.find?_isSome, decide_eq_true_eq, List.mem_map]
  simp

/-- The restarts of an actor at an instant stand in the markers of a report as they do in the log. -/
theorem filter_markers_made {log : List Event} {actor : Nat}
    (clean : .actor actor ∈ (made (.ofLog log) selection stop).timeline.tracks.map Track.key)
    (instant : Nat) :
    (made (.ofLog log) selection stop).timeline.markers.filter (Marker.isRestartOf actor instant) =
      (log.filter fun event => event.scope = .actor actor ∧ event.timestamp = instant).filterMap
        Marker.ofEvent? := by
  have both (events : List Event) :
      (events.filter fun event => event.scope = .actor actor ∧ event.timestamp = instant) =
        (events.filter fun event => event.scope = .actor actor).filter
          fun event => event.timestamp = instant := by
    rw [List.filter_filter]
    simp only [Bool.decide_and, Bool.and_comm]
  rw [Timeline.filter_markers, flatMap_markers_tracks, Marker.filter_filterMap_ofEvent?, both,
    filter_gathered nodup_map_key_tracks clean, List.filter_comm,
    Trace.filter_timestamp_ofLog, List.filter_comm, ← both]

/-- The markers of a report are its stop, once, and the restarts in the log of those actors that are
selected and have no violation, each as often as it is there. They are in order of timestamps, at one
timestamp restarts by actor and then the stop, and the restarts of one actor at one timestamp are in the
order of the log. -/
theorem markers_of_log (log : List Event) (selection : Selection) {report : Report}
    (ok : ofTrace (.ofLog log) selection = .ok report) :
    (∀ key, (report.timeline.track? key).isSome = true ↔
      selection.Covers log key ∧ ∀ violation ∈ report.violations, violation.key ≠ key) ∧
    report.timeline.markers.Perm (.stop report.timeline.stop ::
      (log.filter fun event => (report.timeline.track? event.scope).isSome).filterMap
        Marker.ofEvent?) ∧
    report.timeline.markers.Pairwise Marker.Precedes ∧
    ∀ actor instant, (report.timeline.track? (.actor actor)).isSome = true →
      report.timeline.markers.filter (Marker.isRestartOf actor instant) =
        (log.filter fun event => event.scope = .actor actor ∧ event.timestamp = instant).filterMap
          Marker.ofEvent? := by
  obtain ⟨stop, _, rfl⟩ := of_ofTrace_eq_ok ok
  refine ⟨?_, ?_, Timeline.pairwise_markers ascending_map_key_tracks, ?_⟩
  · intro key
    rw [isSome_track?_made_iff, Selection.covers_perm (Trace.perm_ofLog log)]
  · refine Timeline.perm_markers.trans (.cons _ ?_)
    rw [flatMap_markers_tracks]
    refine ((perm_gathered nodup_map_key_tracks _).trans ?_).filterMap _
    simp only [isSome_track?_eq]
    exact (Trace.perm_ofLog log).filter _
  · intro actor instant clean
    rw [isSome_track?_eq, decide_eq_true_eq] at clean
    exact filter_markers_made clean instant

/-- A log out of order: actor 0 restarts twice and actor 3 once in the millisecond of the stop, actor 3
once more before that, and actor 1 is overdrawn. -/
def restartLog : List Event :=
  [⟨4, some 3, some 1, "t", .restart⟩, ⟨4, none, none, "t", .stopSystem⟩,
    ⟨4, some 0, some 7, "t", .restart⟩, ⟨4, some 0, some 5, "t", .restart⟩,
    ⟨2, some 1, none, "t", .dequeue⟩, ⟨3, some 1, some 1, "t", .restart⟩,
    ⟨1, some 3, none, "t", .restart⟩]

theorem outcomeOf_restartLog : outcomeOf (.ofLog restartLog) (.actor 0) = .ok ⟨.actor 0, []⟩ := by
  have traffic : (Grouping.ofEvents (Trace.ofLog restartLog).events).traffic (.actor 0) = [] := by
    rw [Grouping.traffic_ofEvents]
    exact ((Trace.perm_ofLog restartLog).filter _).eq_nil
  rw [outcomeOf, traffic]
  rfl

theorem markers_of_restartLog :
    ∃ report, ofTrace (.ofLog restartLog) .all = .ok report ∧
      (report.timeline.track? (.actor 0)).isSome = true ∧
      report.timeline.markers.Pairwise Marker.Precedes ∧
      report.timeline.markers.filter (Marker.isRestartOf 0 4) =
        [.restart 4 0 (some 7), .restart 4 0 (some 5)] := by
  have single : (stopTimes (.ofLog restartLog)).length = 1 := by
    rw [length_stopTimes, (Trace.perm_ofLog restartLog).countP_eq]
    decide
  obtain ⟨report, ok⟩ := ofTrace_ok_iff.mpr single
  obtain ⟨clean_iff, _, ordered, inLogOrder⟩ := markers_of_log restartLog .all ok
  have owned : Selection.all.Covers restartLog (.actor 0) :=
    ⟨⟨4, some 0, some 7, "t", .restart⟩, by decide, rfl⟩
  have clean : (report.timeline.track? (.actor 0)).isSome = true := by
    refine (clean_iff _).mpr ⟨owned, ?_⟩
    obtain ⟨stop, _, rfl⟩ := of_ofTrace_eq_ok ok
    intro violation member bears
    have failed := outcomeOf_of_mem_violations member
    rw [bears, outcomeOf_restartLog] at failed
    cases failed
  refine ⟨report, ok, clean, ordered, ?_⟩
  rw [inLogOrder 0 4 clean]
  decide

end QueueDepth.Report
