import QueueDepth.Proofs.Depth.Rows
import QueueDepth.Proofs.Report.Findings
import QueueDepth.Proofs.Timeline.Points

/-!
# The table of a report

The tracks of a report have distinct keys and rows that ascend strictly, so its table of points is in
strict order and nothing of the tracks is lost in it.
-/

namespace QueueDepth.Report

variable {trace : Trace} {selection : Selection} {stop : Nat}

theorem nodup_map_key_tracks :
    ((made trace selection stop).timeline.tracks.map Track.key).Nodup :=
  ascending_map_key_tracks.nodup

/-- The rows of every track of a report ascend strictly. -/
theorem pairwise_rows_of_mem_tracks {track : Track}
    (member : track ∈ (made trace selection stop).timeline.tracks) :
    track.rows.Pairwise fun a b => a.timestamp < b.timestamp := by
  have ascends := Depth.pairwise_rows_outcome track.key (inOrder_traffic trace track.key)
  rw [← outcomeOf, outcomeOf_of_mem_tracks member] at ascends
  exact ascends

/-- The points of a report are in strict order by timestamp, key and measure, three to each row, and no
two agree in all of these. Those of the key of a track, taken three by three, are its rows again, and
every point is of the key of some track. -/
theorem points_lossless (trace : Trace) (selection : Selection) {report : Report}
    (ok : ofTrace trace selection = .ok report) :
    report.timeline.points.Pairwise Point.Precedes ∧
    (report.timeline.points.map fun point =>
      (point.timestamp, point.key, point.measure)).Nodup ∧
    report.timeline.points.length =
      3 * (report.timeline.tracks.map fun track => track.rows.length).sum ∧
    (∀ track ∈ report.timeline.tracks,
      Depth.Row.regroup (report.timeline.points.filter fun point => point.key = track.key) =
        some track.rows) ∧
    ∀ point ∈ report.timeline.points, ∃ track ∈ report.timeline.tracks,
      track.key = point.key := by
  obtain ⟨stop, _, rfl⟩ := of_ofTrace_eq_ok ok
  have distinct : ((made trace selection stop).timeline.tracks.map Track.key).Nodup :=
    nodup_map_key_tracks
  have ascends : ∀ track ∈ (made trace selection stop).timeline.tracks,
      track.rows.Pairwise fun a b => a.timestamp < b.timestamp :=
    fun _ listed => pairwise_rows_of_mem_tracks listed
  have strict : (made trace selection stop).timeline.points.Pairwise Point.Precedes :=
    (Timeline.pairwise_lt_points distinct ascends).imp Point.precedes_iff_order_lt.mpr
  refine ⟨strict, ?_, Timeline.length_points, ?_, ?_⟩
  · exact List.pairwise_map.mpr (strict.imp Point.ne_of_precedes)
  · intro track listed
    exact Timeline.regroup_filter_points distinct ascends listed
  · intro point member
    exact Timeline.exists_track_of_mem_points member

/-- Two actors and the pool, all of them busy in the first millisecond. -/
def crowdedTrace : Trace :=
  ⟨[⟨1, some 3, none, "t", .enqueue⟩, ⟨1, none, none, "t", .poolEnqueue⟩,
    ⟨1, some 0, none, "t", .enqueue⟩, ⟨2, some 0, none, "t", .dequeue⟩,
    ⟨4, none, none, "t", .stopSystem⟩], by decide⟩

theorem points_of_crowdedTrace :
    ∃ report, ofTrace crowdedTrace .all = .ok report ∧
      report.timeline.points.Pairwise Point.Precedes ∧
      ∃ track ∈ report.timeline.tracks, track.key = .actor 0 ∧
        Depth.Row.regroup (report.timeline.points.filter fun point => point.key = track.key) =
          some [⟨1, 1, 0, 1⟩, ⟨2, 0, 1, 0⟩] := by
  have ok : ofTrace crowdedTrace .all = .ok (made crowdedTrace .all 4) := ofTrace_eq_ok rfl
  obtain ⟨strict, _, _, lossless, _⟩ := points_lossless crowdedTrace .all ok
  have clean : outcomeOf crowdedTrace (.actor 0) =
      .ok ⟨.actor 0, [⟨1, 1, 0, 1⟩, ⟨2, 0, 1, 0⟩]⟩ := by
    rw [outcomeOf, Grouping.traffic_ofEvents]
    decide
  have found : trackFor crowdedTrace (.actor 0) =
      some (trackOf (.ofEvents crowdedTrace.events)
        ⟨.actor 0, [⟨1, 1, 0, 1⟩, ⟨2, 0, 1, 0⟩]⟩) := by
    rw [trackFor, clean]
    rfl
  have owned : ∃ event ∈ crowdedTrace.events, event.scope = .actor 0 := by decide
  have bears := key_of_trackFor found
  have listed : trackOf (.ofEvents crowdedTrace.events)
      ⟨.actor 0, [⟨1, 1, 0, 1⟩, ⟨2, 0, 1, 0⟩]⟩ ∈ (made crowdedTrace .all 4).timeline.tracks := by
    rw [mem_tracks_made_iff, Selection.mem_keys_iff, bears]
    exact ⟨owned, found⟩
  exact ⟨_, ok, strict, _, listed, bears, lossless _ listed⟩

end QueueDepth.Report
