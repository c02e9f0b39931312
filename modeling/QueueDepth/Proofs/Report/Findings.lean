import QueueDepth.Proofs.Report.Outcomes

/-!
# The finding on a key

A report says one thing of each selected key: its track, or its violation. `findings` lists what it
says, and for a selected key the list has one item, made from the outcome of that key in the trace.
-/

namespace QueueDepth.Report

/-- What a report says of a key: its tracks and its violations. -/
def findings (report : Report) (key : Key) : List (Except Depth.Violation Track) :=
  (report.timeline.tracks.filter fun track => track.key = key).map .ok ++
    (report.violations.filter fun violation => violation.key = key).map .error

/-- The outcome of a key in a trace, with its restarts. -/
def findingOf (trace : Trace) (key : Key) : Except Depth.Violation Track :=
  (outcomeOf trace key).map (trackOf (.ofEvents trace.events))

variable {trace : Trace} {selection : Selection} {key : Key} {stop : Nat}

/-- The series in a finding, or its violation, is the outcome of the key. -/
theorem map_series_findingOf : (findingOf trace key).map Track.series = outcomeOf trace key := by
  rw [findingOf]
  cases outcomeOf trace key with
  | error violation => rfl
  | ok series => exact congrArg Except.ok (series_trackOf _ series)

theorem tracks_made (key : Key) :
    (made trace selection stop).timeline.tracks.filter (fun track => track.key = key) =
      if key ∈ selection.keys (.ofEvents trace.events) then (trackFor trace key).toList else [] :=
  filter_label_filterMap (fun _ _ found => key_of_trackFor found)
    Selection.ascending_keys.nodup key

/-- A selected key has one finding. -/
theorem findings_made (covered : selection.Covers trace.events key) :
    (made trace selection stop).findings key = [findingOf trace key] := by
  have selected := Selection.mem_keys_iff.mpr covered
  rw [findings, tracks_made, violations_made, if_pos selected, if_pos selected, trackFor,
    violationFor, findingOf]
  cases outcomeOf trace key <;> rfl

/-- The series of a track is the outcome of its key. -/
theorem outcomeOf_of_mem_tracks {track : Track}
    (member : track ∈ (made trace selection stop).timeline.tracks) :
    outcomeOf trace track.key = .ok track.series := by
  obtain ⟨_, found⟩ := mem_tracks_made_iff.mp member
  obtain ⟨series, clean, bears⟩ := trackFor_eq_some_iff.mp found
  have same : series = track.series := by rw [← bears, series_trackOf]
  rw [clean, same]

/-- A violation in a report is the outcome of its key. -/
theorem outcomeOf_of_mem_violations {violation : Depth.Violation}
    (member : violation ∈ (made trace selection stop).violations) :
    outcomeOf trace violation.key = .error violation :=
  violationFor_eq_some_iff.mp (mem_violations_made_iff.mp member).2

end QueueDepth.Report
