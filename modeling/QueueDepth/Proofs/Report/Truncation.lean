import QueueDepth.Proofs.Depth.Truncation
import QueueDepth.Proofs.Report.Findings
import QueueDepth.Proofs.Report.Significance
import QueueDepth.Proofs.Trace.Order

/-!
# Reports on a log that is cut short

Leave out of a log with one stop all events behind some later instant. The report on listed actors then
says of each key what the report on the whole log says of it up to that instant: rows and restarts
behind it are gone, and so is a violation behind it, whose earlier rows become those of a track.
-/

namespace QueueDepth.Report

/-- What the whole log and the log up to a cut have to say of one key. -/
inductive CutShort (cut : Nat) :
    Except Depth.Violation Track → Except Depth.Violation Track → Prop
  /-- A violation up to the cut stands as it is. -/
  | failed {violation : Depth.Violation} : violation.timestamp ≤ cut →
    CutShort cut (.error violation) (.error violation)
  /-- A violation behind the cut is none yet. -/
  | spared {violation : Depth.Violation} {track : Track} : cut < violation.timestamp →
    track.key = violation.key → track.rows = violation.rows.filter (·.timestamp ≤ cut) →
    CutShort cut (.error violation) (.ok track)
  | clean {whole track : Track} : track.key = whole.key →
    track.rows = whole.rows.filter (·.timestamp ≤ cut) →
    track.restarts = whole.restarts.filter (·.timestamp ≤ cut) →
    CutShort cut (.ok whole) (.ok track)

variable {trace short : Trace} {cut : Nat}

section Cut

variable (cutOff : short.events = trace.events.filter (·.timestamp ≤ cut))

include cutOff

theorem traffic_of_cut (key : Key) :
    (Grouping.ofEvents short.events).traffic key =
      ((Grouping.ofEvents trace.events).traffic key).filter (·.timestamp ≤ cut) := by
  rw [Grouping.traffic_ofEvents, Grouping.traffic_ofEvents, cutOff, List.filter_comm]

theorem outcomeOf_of_cut (key : Key) : outcomeOf short key = (outcomeOf trace key).upTo cut := by
  rw [outcomeOf, traffic_of_cut cutOff]
  exact Depth.outcome_filter_le (inOrder_traffic trace key)

theorem restartsOf_of_cut (id : Nat) :
    short.restartsOf id = (trace.restartsOf id).filter (·.timestamp ≤ cut) := by
  rw [Trace.restartsOf, Trace.restartsOf, cutOff, List.filter_comm, List.filter_map]
  rfl

theorem stopTimes_of_cut : stopTimes short = (stopTimes trace).filter (· ≤ cut) := by
  rw [stopTimes, stopTimes, cutOff, List.filter_comm, List.filter_map]
  rfl

/-- The restarts of a track up to the cut are those of the track of the shorter trace. -/
theorem restarts_trackOf_of_cut {series part : Depth.Series} (bears : part.key = series.key) :
    (trackOf (.ofEvents short.events) part).restarts =
      (trackOf (.ofEvents trace.events) series).restarts.filter (·.timestamp ≤ cut) := by
  rw [trackOf_eq, trackOf_eq, bears]
  cases series.key with
  | actor id => exact restartsOf_of_cut cutOff id
  | pool => rfl
  | system => rfl

theorem cutShort_findingOf (key : Key) :
    CutShort cut (findingOf trace key) (findingOf short key) := by
  rw [findingOf, findingOf, outcomeOf_of_cut cutOff]
  cases outcomeOf trace key with
  | error violation =>
    rw [Depth.Outcome.upTo]
    by_cases early : violation.timestamp ≤ cut
    · rw [if_pos early]
      exact .failed early
    · rw [if_neg early]
      exact .spared (Nat.lt_of_not_le early) (key_trackOf _ _) (rows_trackOf _ _)
  | ok series =>
    refine .clean ?_ ?_ (restarts_trackOf_of_cut cutOff rfl)
    · rw [key_trackOf, key_trackOf]
    · rw [rows_trackOf, rows_trackOf]

end Cut

theorem covers_only (ids : List Nat) (events others : List Event) (key : Key) :
    (Selection.only ids).Covers events key ↔ (Selection.only ids).Covers others key := by
  cases key <;> rfl

theorem stopTimes_ofLog {log : List Event} {stop : Nat}
    (single : (log.filter fun event => event.kind = .stopSystem).map Event.timestamp = [stop]) :
    stopTimes (.ofLog log) = [stop] := by
  have perm : (stopTimes (.ofLog log)).Perm [stop] := by
    rw [← single]
    exact ((Trace.perm_ofLog log).filter _).map _
  exact List.perm_singleton.mp perm

/-- A log that stops once, at `stop`, has a report on listed actors, and so has the log up to any later
cut. Both stop at `stop`, and of each listed actor and of the pool the second says what the first says
up to the cut. -/
theorem findings_of_cut (log : List Event) (ids : List Nat) (stop cut : Nat)
    (single : (log.filter fun event => event.kind = .stopSystem).map Event.timestamp = [stop])
    (closed : stop ≤ cut) :
    ∃ report shorter, ofTrace (.ofLog log) (.only ids) = .ok report ∧
      ofTrace (.ofLog (log.filter (·.timestamp ≤ cut))) (.only ids) = .ok shorter ∧
      report.timeline.stop = stop ∧ shorter.timeline.stop = stop ∧
      ∀ key, (Selection.only ids).Covers log key →
        ∃ whole part, report.findings key = [whole] ∧ shorter.findings key = [part] ∧
          CutShort cut whole part := by
  have cutOff : (Trace.ofLog (log.filter (·.timestamp ≤ cut))).events =
      (Trace.ofLog log).events.filter (·.timestamp ≤ cut) := Trace.events_ofLog_filter _ log
  have times := stopTimes_ofLog single
  have shortTimes : stopTimes (.ofLog (log.filter (·.timestamp ≤ cut))) = [stop] := by
    rw [stopTimes_of_cut cutOff, times, List.filter_cons_of_pos (by simpa using closed),
      List.filter_nil]
  refine ⟨_, _, ofTrace_eq_ok times, ofTrace_eq_ok shortTimes, rfl, rfl, ?_⟩
  intro key covered
  exact ⟨_, _, findings_made ((covers_only ids _ _ key).mp covered),
    findings_made ((covers_only ids _ _ key).mp covered), cutShort_findingOf cutOff key⟩

/-- A log out of order that goes on after its stop: actor 0 is overdrawn at 5, actor 1 at 1, and actor 2
restarts before and after the cut at 3. -/
def straggling : List Event :=
  [⟨5, some 0, none, "t", .dequeue⟩, ⟨1, some 1, none, "t", .dequeue⟩,
    ⟨1, some 0, none, "t", .enqueue⟩, ⟨2, none, none, "t", .stopSystem⟩,
    ⟨3, some 0, none, "t", .dequeue⟩, ⟨6, some 2, some 2, "t", .restart⟩,
    ⟨3, some 2, some 1, "t", .restart⟩]

theorem findings_of_straggling :
    (straggling.filter fun event => event.kind = .stopSystem).map Event.timestamp = [2] ∧ 2 ≤ 3 ∧
      ∃ report shorter, ofTrace (.ofLog straggling) (.only [0, 1, 2]) = .ok report ∧
        ofTrace (.ofLog (straggling.filter (·.timestamp ≤ 3))) (.only [0, 1, 2]) = .ok shorter ∧
        shorter.timeline.stop = 2 ∧
        ∀ id ∈ [0, 1, 2], ∃ whole part, report.findings (.actor id) = [whole] ∧
          shorter.findings (.actor id) = [part] ∧ CutShort 3 whole part := by
  have single : (straggling.filter fun event => event.kind = .stopSystem).map Event.timestamp =
      [2] := by decide
  obtain ⟨report, shorter, ok, shortOk, _, stops, found⟩ :=
    findings_of_cut straggling [0, 1, 2] 2 3 single (by decide)
  exact ⟨single, by decide, report, shorter, ok, shortOk, stops,
    fun id listed => found (.actor id) listed⟩

end QueueDepth.Report
