import QueueDepth.Proofs.Report.Outcomes

/-!
# Every selected key once

Only the stops of a trace decide whether there is a report: there must be exactly one. A report then
accounts for every selected key once, by a track or by a violation, each kind in strict key order.
-/

namespace QueueDepth.Report

variable {trace : Trace} {selection : Selection} {stop : Nat}

/-! ## Stops -/

theorem length_stopTimes :
    (stopTimes trace).length = trace.events.countP fun event => event.kind = .stopSystem := by
  rw [stopTimes, List.length_map, List.countP_eq_length_filter]

theorem ofTrace_ok_iff :
    (∃ report, ofTrace trace selection = .ok report) ↔ (stopTimes trace).length = 1 := by
  rw [List.length_eq_one_iff]
  constructor
  · rintro ⟨report, ok⟩
    obtain ⟨stop, single, _⟩ := of_ofTrace_eq_ok ok
    exact ⟨stop, single⟩
  · rintro ⟨stop, single⟩
    exact ⟨_, ofTrace_eq_ok single⟩

theorem ofTrace_missing (none : (stopTimes trace).length = 0) :
    ofTrace trace selection = .error .missing := by
  rw [ofTrace_eq, List.eq_nil_of_length_eq_zero none]
  rfl

theorem ofTrace_ambiguous (several : 2 ≤ (stopTimes trace).length) :
    ofTrace trace selection = .error (.ambiguous (stopTimes trace)) := by
  rw [ofTrace_eq]
  match times : stopTimes trace with
  | [] =>
    rw [times] at several
    cases several
  | [stop] =>
    rw [times, List.length_singleton] at several
    omega
  | first :: second :: more => rfl

/-- The stop of a report is that of every stop event. -/
theorem stop_eq_of_mem (single : stopTimes trace = [stop]) {event : Event}
    (member : event ∈ trace.events) (stops : event.kind = .stopSystem) : stop = event.timestamp := by
  have listed : event.timestamp ∈ stopTimes trace :=
    List.mem_map_of_mem (List.mem_filter.mpr ⟨member, by simpa using stops⟩)
  rw [single, List.mem_singleton] at listed
  exact listed.symm

/-! ## Keys -/

theorem map_key_violations :
    (made trace selection stop).violations.map Depth.Violation.key =
      (selection.keys (.ofEvents trace.events)).filter fun key =>
        (violationFor trace key).isSome :=
  map_label_filterMap fun _ _ found => key_of_violationFor found

theorem ascending_map_key_violations :
    Ascending ((made trace selection stop).violations.map Depth.Violation.key) := by
  rw [map_key_violations]
  exact Selection.ascending_keys.filter _

/-- The keys of the tracks and those of the violations together are the selected keys. -/
theorem keys_perm :
    ((made trace selection stop).timeline.tracks.map Track.key ++
        (made trace selection stop).violations.map Depth.Violation.key).Perm
      (selection.keys (.ofEvents trace.events)) := by
  have other (key : Key) : (violationFor trace key).isSome = !(trackFor trace key).isSome := by
    rw [isSome_trackFor]
    cases violationFor trace key <;> rfl
  change ((tracks trace selection).map Track.key ++ _).Perm _
  simp only [map_key_tracks, map_key_violations, other]
  exact List.filter_append_perm _ _

theorem isSome_track?_made_iff {key : Key} :
    ((made trace selection stop).timeline.track? key).isSome = true ↔
      selection.Covers trace.events key ∧
        ∀ violation ∈ (made trace selection stop).violations, violation.key ≠ key := by
  have listed : key ∈ (made trace selection stop).violations.map Depth.Violation.key ↔
      key ∈ selection.keys (.ofEvents trace.events) ∧ (violationFor trace key).isSome = true := by
    rw [map_key_violations, List.mem_filter]
  have failed : (∀ violation ∈ (made trace selection stop).violations, violation.key ≠ key) ↔
      ¬ (key ∈ selection.keys (.ofEvents trace.events) ∧ (violationFor trace key).isSome = true) := by
    rw [← listed, List.mem_map]
    simp
  rw [track?_made, failed, ← Selection.mem_keys_iff]
  by_cases selected : key ∈ selection.keys (.ofEvents trace.events)
  · rw [if_pos selected, isSome_trackFor]
    simp [selected]
  · simp [selected]

/-- A report is made exactly if the trace has one stop, and accounts for every selected key once: no
key has two entries, the tracks and the violations ascend by key, and a track is found for a selected
key exactly if it has no violation. Without a stop, or with several, there is none, whatever the depths
are; several are listed in the order of their timestamps. -/
theorem accounts_for_every_key (trace : Trace) (selection : Selection) :
    ((∃ report, ofTrace trace selection = .ok report) ↔
      trace.events.countP (fun event => event.kind = .stopSystem) = 1) ∧
    (trace.events.countP (fun event => event.kind = .stopSystem) = 0 →
      ofTrace trace selection = .error .missing) ∧
    (2 ≤ trace.events.countP (fun event => event.kind = .stopSystem) →
      ofTrace trace selection = .error (.ambiguous (stopTimes trace)) ∧
        (stopTimes trace).Pairwise (· ≤ ·)) ∧
    ∀ report, ofTrace trace selection = .ok report →
      (report.timeline.tracks.map Track.key ++
        report.violations.map Depth.Violation.key).Nodup ∧
      (∀ key, key ∈ report.timeline.tracks.map Track.key ++
          report.violations.map Depth.Violation.key ↔ selection.Covers trace.events key) ∧
      Ascending (report.timeline.tracks.map Track.key) ∧
      Ascending (report.violations.map Depth.Violation.key) ∧
      (∀ event ∈ trace.events, event.kind = .stopSystem →
        report.timeline.stop = event.timestamp) ∧
      ∀ key, (report.timeline.track? key).isSome = true ↔
        selection.Covers trace.events key ∧
          ∀ violation ∈ report.violations, violation.key ≠ key := by
  rw [← length_stopTimes]
  refine ⟨ofTrace_ok_iff, ofTrace_missing,
    fun several => ⟨ofTrace_ambiguous several, pairwise_stopTimes⟩, ?_⟩
  intro report ok
  obtain ⟨stop, single, rfl⟩ := of_ofTrace_eq_ok ok
  refine ⟨keys_perm.nodup_iff.mpr Selection.ascending_keys.nodup, ?_, ascending_map_key_tracks,
    ascending_map_key_violations, ?_, ?_⟩
  · intro key
    rw [keys_perm.mem_iff, Selection.mem_keys_iff]
  · intro event member stops
    exact stop_eq_of_mem single member stops
  · intro key
    exact isSome_track?_made_iff

end QueueDepth.Report
