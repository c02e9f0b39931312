import QueueDepth.Proofs.Depth.Exact
import QueueDepth.Proofs.Report.Outcomes
import QueueDepth.Proofs.Timeline.Lookup
import QueueDepth.Proofs.Trace.Order

/-!
# What the depths of a report mean

The balance of a key is counted straight from the log, in whatever order it was written: enqueues up to
and including an instant less dequeues. A report holds a series for a key exactly if its balance is
never negative, and the series then gives the balance at every instant, between and outside its rows
too. Any other key has one violation, at the first instant with a negative balance.
-/

namespace QueueDepth.Report

/-- The balance of a key over a log: enqueues up to and including an instant less dequeues, among the
events that the key owns. -/
def balanceOf (log : List Event) (key : Key) (instant : Nat) : Int :=
  Depth.balance key (log.filter fun event => event.scope = key) instant

variable {log : List Event} {trace : Trace} {selection : Selection} {key : Key}

theorem movedBy_traffic (events : List Event) (side : Side) (instant : Nat) :
    Depth.movedBy key side ((Grouping.ofEvents events).traffic key) instant =
      Depth.movedBy key side (events.filter fun event => event.scope = key) instant := by
  rw [Grouping.traffic_ofEvents, Depth.movedBy, Depth.movedBy, List.countP_filter,
    List.countP_filter]
  apply List.countP_congr
  intro event _
  cases side_eq : event.kind.side key <;> simp [Depth.movesTo, side_eq]

/-- The traffic of a key has the balance of all its events, and the order of the log is of no
account. -/
theorem balance_traffic (key : Key) (perm : trace.events.Perm log) (instant : Nat) :
    Depth.balance key ((Grouping.ofEvents trace.events).traffic key) instant =
      balanceOf log key instant := by
  rw [balanceOf, ← Depth.balance_perm (perm.filter _), Depth.balance, movedBy_traffic,
    movedBy_traffic]
  rfl

theorem length_traffic_le :
    ((Grouping.ofEvents trace.events).traffic key).length ≤ trace.events.length := by
  rw [Grouping.traffic_ofEvents]
  exact List.length_filter_le _ _

/-! ## Series -/

theorem pairwise_rows (events : List Event) :
    ((Depth.stirred key events).map (Depth.rowAt key events)).Pairwise
      fun a b => a.timestamp ≤ b.timestamp := by
  rw [List.pairwise_map]
  exact (ascending_iff_lt.mp Depth.ascending_stirred).imp fun order => order.le

/-- A track with the rows of a curve holds the balance at every instant. -/
theorem depthAt_of_rows {track : Track} {events : List Event} (small : events.length < 2 ^ 63)
    (nonneg : ∀ instant, 0 ≤ Depth.balance key events instant)
    (rows : track.rows = (Depth.stirred key events).map (Depth.rowAt key events)) (instant : Nat) :
    (track.depthAt instant : Int) = Depth.balance key events instant := by
  have sorted : track.rows.Pairwise fun a b => a.timestamp ≤ b.timestamp := by
    rw [rows]
    exact pairwise_rows events
  have upTo : track.rows.filter (·.timestamp ≤ instant) =
      ((Depth.stirred key events).filter (· ≤ instant)).map (Depth.rowAt key events) := by
    rw [rows, List.filter_map]
    rfl
  rw [Track.depthAt_eq_last sorted, Depth.balance_eq_last small, upTo, List.getLast?_map]
  cases ((Depth.stirred key events).filter (· ≤ instant)).getLast? with
  | none => rfl
  | some last => exact Depth.depth_rowAt small (nonneg last)

/-! ## One key of a report -/

/-- What a report says of a key, by its balance. -/
theorem outcome_of_key (key : Key) (perm : trace.events.Perm log) (small : log.length < 2 ^ 63) :
    ((trackFor trace key).isSome = true ↔ ∀ instant, 0 ≤ balanceOf log key instant) ∧
      (∀ track, trackFor trace key = some track →
        ∀ instant, (track.depthAt instant : Int) = balanceOf log key instant) ∧
      ∀ violation, violationFor trace key = some violation →
        balanceOf log key violation.timestamp < 0 ∧
          (∀ instant < violation.timestamp, 0 ≤ balanceOf log key instant) ∧
          violation.depth = balanceOf log key violation.timestamp := by
  have few : ((Grouping.ofEvents trace.events).traffic key).length < 2 ^ 63 :=
    (length_traffic_le.trans perm.length_eq.le).trans_lt small
  have sorted := inOrder_traffic trace key
  have same := balance_traffic key perm
  rw [trackFor, violationFor]
  cases made : outcomeOf trace key with
  | ok series =>
    obtain ⟨nonneg, rfl⟩ := (Depth.outcome_eq_ok_iff few sorted).mp made
    refine ⟨⟨fun _ instant => ?_, fun _ => rfl⟩, ?_, ?_⟩
    · rw [← same]
      exact nonneg instant
    · intro track found instant
      cases found
      rw [← same]
      exact depthAt_of_rows few nonneg (rows_trackOf _ _) instant
    · intro violation found
      cases found
  | error failure =>
    obtain ⟨neg, first, depth⟩ := Depth.of_outcome_eq_error few sorted made
    rw [same] at neg depth
    refine ⟨⟨fun found => ?_, fun nonneg => ?_⟩, ?_, ?_⟩
    · cases found
    · exact absurd neg (nonneg failure.timestamp).not_gt
    · intro track found
      cases found
    · intro violation found
      cases found
      refine ⟨neg, ?_, depth⟩
      intro instant before
      rw [← same]
      exact first instant before

theorem stopTimes_of_single (perm : trace.events.Perm log)
    (single : log.countP (fun event => event.kind = .stopSystem) = 1) :
    ∃ stop, stopTimes trace = [stop] := by
  apply List.length_eq_one_iff.mp
  rw [stopTimes, List.length_map, ← List.countP_eq_length_filter, perm.countP_eq]
  exact single

/-- The report of a log with one stop. A selected key has a series exactly if its balance is never
negative, and the series gives the balance at every instant; any other selected key has one violation,
at the first instant with a negative balance. -/
theorem depths_of_log (log : List Event) (selection : Selection) (small : log.length < 2 ^ 63)
    (single : log.countP (fun event => event.kind = .stopSystem) = 1) :
    ∃ report, ofTrace (.ofLog log) selection = .ok report ∧
      ∀ key, selection.Covers log key →
        ((∃ track ∈ report.timeline.tracks, track.key = key) ↔
          ∀ instant, 0 ≤ balanceOf log key instant) ∧
        (∀ track ∈ report.timeline.tracks, track.key = key →
          ∀ instant, (track.depthAt instant : Int) = balanceOf log key instant) ∧
        ((∃ instant, balanceOf log key instant < 0) →
          ∃ violation,
            report.violations.filter (fun violation => violation.key = key) = [violation] ∧
            balanceOf log key violation.timestamp < 0 ∧
            (∀ instant < violation.timestamp, 0 ≤ balanceOf log key instant) ∧
            violation.depth = balanceOf log key violation.timestamp) := by
  have perm := Trace.perm_ofLog log
  obtain ⟨stop, times⟩ := stopTimes_of_single perm single
  refine ⟨made (.ofLog log) selection stop, ofTrace_eq_ok times, ?_⟩
  intro key covered
  have selected : key ∈ selection.keys (.ofEvents (Trace.ofLog log).events) := by
    rw [Selection.mem_keys_iff, Selection.covers_perm perm]
    exact covered
  obtain ⟨clean, depths, failed⟩ := outcome_of_key key perm small
  have found_iff (track : Track) :
      track ∈ (made (.ofLog log) selection stop).timeline.tracks ∧ track.key = key ↔
        trackFor (.ofLog log) key = some track := by
    rw [mem_tracks_made_iff]
    exact ⟨fun ⟨⟨_, found⟩, bears⟩ => bears ▸ found,
      fun found => ⟨by rw [key_of_trackFor found]; exact ⟨selected, found⟩, key_of_trackFor found⟩⟩
  refine ⟨?_, ?_, ?_⟩
  · rw [← clean, Option.isSome_iff_exists]
    exact exists_congr found_iff
  · intro track member bears
    exact depths track ((found_iff track).mp ⟨member, bears⟩)
  · rintro ⟨instant, neg⟩
    have none : (trackFor (.ofLog log) key).isSome = false := by
      rw [Bool.eq_false_iff, ne_eq, clean]
      exact fun nonneg => absurd neg (nonneg instant).not_gt
    rw [isSome_trackFor, Option.isNone_eq_false_iff, Option.isSome_iff_exists] at none
    obtain ⟨violation, found⟩ := none
    refine ⟨violation, ?_, failed violation found⟩
    rw [violations_made, if_pos selected, found]
    rfl

/-- A log out of order, in which actor 1 gives away two messages and gets one. -/
def overdrawnLog : List Event :=
  [⟨7, some 1, none, "t", .dequeue⟩, ⟨3, some 1, none, "t", .enqueue⟩,
    ⟨5, some 0, none, "t", .enqueue⟩, ⟨5, some 1, none, "t", .dequeue⟩,
    ⟨9, none, none, "t", .stopSystem⟩]

theorem depths_of_overdrawnLog :
    overdrawnLog.length < 2 ^ 63 ∧
      overdrawnLog.countP (fun event => event.kind = .stopSystem) = 1 ∧
      ∃ report, ofTrace (.ofLog overdrawnLog) .all = .ok report ∧
        (∀ track ∈ report.timeline.tracks, track.key = .actor 0 → track.depthAt 6 = 1) ∧
        ∃ violation,
          report.violations.filter (fun violation => violation.key = .actor 1) = [violation] ∧
          violation.timestamp = 7 ∧ violation.depth = -1 := by
  refine ⟨by decide, by decide, ?_⟩
  obtain ⟨report, ok, meaning⟩ := depths_of_log overdrawnLog .all (by decide) (by decide)
  have owned : ∀ id ∈ [0, 1], ∃ event ∈ overdrawnLog, event.scope = .actor id := by decide
  obtain ⟨_, depths, _⟩ := meaning (.actor 0) (owned 0 (by simp))
  obtain ⟨_, _, failed⟩ := meaning (.actor 1) (owned 1 (by simp))
  have overdrawn : balanceOf overdrawnLog (.actor 1) 7 = -1 := by decide
  have before : ∀ instant < 7, ¬ balanceOf overdrawnLog (.actor 1) instant < 0 := by decide
  obtain ⟨violation, only, neg, first, depth⟩ := failed ⟨7, by decide⟩
  have at7 : violation.timestamp = 7 := by
    refine le_antisymm ?_ ?_
    · by_contra late
      have := first 7 (by omega)
      omega
    · by_contra early
      exact before violation.timestamp (by omega) neg
  refine ⟨report, ok, ?_, violation, only, at7, ?_⟩
  · intro track member bears
    have exact' := depths track member bears 6
    have one : balanceOf overdrawnLog (.actor 0) 6 = 1 := by decide
    omega
  · rw [depth, at7, overdrawn]

end QueueDepth.Report
