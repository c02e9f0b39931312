import QueueDepth.Proofs.Depth.Peak
import QueueDepth.Proofs.Report.Points
import QueueDepth.Proofs.Timeline.Lookup

/-!
# The peak of a track

A track holds the depth of each row until the next, and zero before them all. So what the rows say of
their peak the curve says at every instant: it is never deeper, and it was not as deep before, unless it is
never deep at all.

* `Track.depthAt_le_peak`, `Track.depthAt_lt_peak`: from the rows to the curve.
* `Report.peak_is_first_maximum`: the peaks of a report.
-/

namespace QueueDepth

namespace Track

variable {track : Track} {peak : Depth.Row} {instant : Nat}
  (ascends : track.rows.Pairwise fun a b => a.timestamp < b.timestamp)
  (deepest : Depth.FirstDeepest track.rows peak)

include ascends deepest

theorem depthAt_le_peak (instant : Nat) : track.depthAt instant ≤ peak.depth := by
  rcases depthAt_eq_zero_or_row (ascends.imp Nat.le_of_lt) instant with none | ⟨row, member, _, held⟩
  · rw [none]
    exact Nat.zero_le _
  · rw [held]
    exact deepest.depth_le row member

theorem depthAt_lt_peak (busy : 0 < peak.depth) (early : instant < peak.timestamp) :
    track.depthAt instant < peak.depth := by
  rcases depthAt_eq_zero_or_row (ascends.imp Nat.le_of_lt) instant with
    none | ⟨row, member, reached, held⟩
  · rw [none]
    exact busy
  · obtain ⟨before, after, split, shallower⟩ := deepest.first
    rw [split] at ascends member
    -- neither the peak nor a row behind it has been reached yet
    have inFront : row ∈ before := by
      rcases List.mem_append.mp member with front | behind
      · exact front
      · rcases List.mem_cons.mp behind with rfl | later
        · omega
        · have := (List.pairwise_cons.mp (List.pairwise_append.mp ascends).2.1).1 row later
          omega
    rw [held]
    exact shallower row inFront

end Track

namespace Report

/-- Every track of a report that has a row has a peak. That is one of its rows, the rows before it are less
deep, and the depth at no instant is greater than it is there. Unless that is zero, the depth at every
earlier instant is less. -/
theorem peak_is_first_maximum (trace : Trace) (selection : Selection) {report : Report}
    (ok : ofTrace trace selection = .ok report) {track : Track}
    (listed : track ∈ report.timeline.tracks) (moved : track.rows ≠ []) :
    ∃ peak, track.series.peak? = some peak ∧
      (∃ before after, track.rows = before ++ peak :: after ∧
        ∀ row ∈ before, row.depth < peak.depth) ∧
      track.depthAt peak.timestamp = peak.depth ∧
      (∀ instant, track.depthAt instant ≤ peak.depth) ∧
      (0 < peak.depth → ∀ instant < peak.timestamp, track.depthAt instant < peak.depth) := by
  obtain ⟨stop, _, rfl⟩ := of_ofTrace_eq_ok ok
  have ascends := pairwise_rows_of_mem_tracks listed
  obtain ⟨peak, found, deepest⟩ := Depth.Series.exists_peak? moved
  exact ⟨peak, found, deepest.first, Track.depthAt_timestamp ascends deepest.mem,
    Track.depthAt_le_peak ascends deepest,
    fun busy _ early => Track.depthAt_lt_peak ascends deepest busy early⟩

/-- An actor that is at its deepest twice, and stays there for a while the first time. -/
def twinPeaksTrace : Trace :=
  ⟨[⟨2, some 4, none, "t", .enqueue⟩, ⟨5, some 4, none, "t", .enqueue⟩,
    ⟨6, some 4, none, "t", .dequeue⟩, ⟨6, some 4, none, "t", .enqueue⟩,
    ⟨7, some 4, none, "t", .dequeue⟩, ⟨8, some 4, none, "t", .enqueue⟩,
    ⟨9, none, none, "t", .stopSystem⟩], by decide⟩

theorem peak_of_twinPeaksTrace :
    ∃ report, ofTrace twinPeaksTrace .all = .ok report ∧
      ∃ track ∈ report.timeline.tracks, track.key = .actor 4 ∧ track.rows ≠ [] ∧
        track.series.peak? = some ⟨5, 1, 0, 2⟩ ∧ (∀ instant, track.depthAt instant ≤ 2) ∧
        ∀ instant < 5, track.depthAt instant < 2 := by
  have ok : ofTrace twinPeaksTrace .all = .ok (made twinPeaksTrace .all 9) := ofTrace_eq_ok rfl
  have clean : outcomeOf twinPeaksTrace (.actor 4) =
      .ok ⟨.actor 4, [⟨2, 1, 0, 1⟩, ⟨5, 1, 0, 2⟩, ⟨6, 1, 1, 2⟩, ⟨7, 0, 1, 1⟩, ⟨8, 1, 0, 2⟩]⟩ := by
    rw [outcomeOf, Grouping.traffic_ofEvents]
    decide +kernel
  obtain ⟨track, found, series⟩ : ∃ track, trackFor twinPeaksTrace (.actor 4) = some track ∧
      track.series =
        ⟨.actor 4, [⟨2, 1, 0, 1⟩, ⟨5, 1, 0, 2⟩, ⟨6, 1, 1, 2⟩, ⟨7, 0, 1, 1⟩, ⟨8, 1, 0, 2⟩]⟩ :=
    ⟨_, trackFor_eq_some_iff.mpr ⟨_, clean, rfl⟩, series_trackOf _ _⟩
  have bears := key_of_trackFor found
  have owned : ∃ event ∈ twinPeaksTrace.events, event.scope = .actor 4 := by decide
  have listed : track ∈ (made twinPeaksTrace .all 9).timeline.tracks := by
    rw [mem_tracks_made_iff, Selection.mem_keys_iff, bears]
    exact ⟨owned, found⟩
  have moved : track.rows ≠ [] := by
    rw [Track.rows, series]
    decide
  obtain ⟨peak, top, _, _, highest, first⟩ :=
    peak_is_first_maximum twinPeaksTrace .all ok listed moved
  have peak_eq : peak = ⟨5, 1, 0, 2⟩ := by
    rw [series] at top
    exact (Option.some.inj top).symm
  rw [peak_eq] at top highest first
  exact ⟨_, ok, track, listed, bears, moved, top, highest, first (by decide)⟩

end Report

end QueueDepth
