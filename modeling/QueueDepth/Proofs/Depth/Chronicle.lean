import QueueDepth.Proofs.Depth.Checked
import QueueDepth.Proofs.Depth.Exact
import QueueDepth.Proofs.Depth.Rows

/-!
# What the rows of an outcome say

A chronicle of a queue has one row for each instant at which some event moves it, with the moves of that
instant and the balance behind them. The rows of a series are the chronicle of all instants, those of a
violation the chronicle of the instants before it, as long as there are not so many events that words
wrap.

* `chronicle_stirred`: the rows at the instants at which a queue stirs.
* `chronicle_of_outcome`: series and violations, with every operation on the way checked.
-/

namespace QueueDepth.Depth

/-- Rows that tell what a queue did at the instants that are covered. -/
structure Chronicle (key : Key) (events : List Event) (covered : Nat → Prop) (rows : List Row) :
    Prop where
  /-- The rows are in order, and no instant has two. -/
  ascends : rows.Pairwise fun a b => a.timestamp < b.timestamp
  /-- A row stands for each covered instant at which some event moves the queue, and for no other. -/
  instants : ∀ instant, (∃ row ∈ rows, row.timestamp = instant) ↔
    covered instant ∧
      ∃ event ∈ events, event.timestamp = instant ∧ (event.kind.side key).isSome = true
  enqueued : ∀ row ∈ rows, row.enqueued = movedAt key .enqueue events row.timestamp
  dequeued : ∀ row ∈ rows, row.dequeued = movedAt key .dequeue events row.timestamp
  busy : ∀ row ∈ rows, row.enqueued ≠ 0 ∨ row.dequeued ≠ 0
  /-- The depth is the balance, which is therefore not negative. -/
  depth : ∀ row ∈ rows, (row.depth : Int) = balance key events row.timestamp

variable {key : Key} {events : List Event} {instant : Nat}

/-! ## Moves -/

theorem movedAt_ne_zero_iff {side : Side} :
    movedAt key side events instant ≠ 0 ↔
      ∃ event ∈ events, event.timestamp = instant ∧ event.kind.side key = some side := by
  rw [← Nat.pos_iff_ne_zero, movedAt, List.countP_pos_iff]
  simp [movesTo, and_comm]

/-- Events of other kinds are inert: a queue stirs where some event has a side for it. -/
theorem stirs_iff_exists (small : events.length < 2 ^ 63) :
    Stirs key events instant ↔
      ∃ event ∈ events, event.timestamp = instant ∧ (event.kind.side key).isSome = true := by
  rw [stirs_iff small, movedAt_ne_zero_iff, movedAt_ne_zero_iff]
  constructor
  · rintro (⟨event, member, now, side⟩ | ⟨event, member, now, side⟩)
    · exact ⟨event, member, now, by rw [side]; rfl⟩
    · exact ⟨event, member, now, by rw [side]; rfl⟩
  · rintro ⟨event, member, now, moves⟩
    obtain ⟨side, side_eq⟩ := Option.isSome_iff_exists.mp moves
    cases side with
    | enqueue => exact .inl ⟨event, member, now, side_eq⟩
    | dequeue => exact .inr ⟨event, member, now, side_eq⟩

/-! ## Rows -/

/-- Where no balance is negative, the rows at the instants at which a queue stirs are its chronicle. -/
theorem chronicle_stirred (small : events.length < 2 ^ 63) {covered : Nat → Prop}
    [DecidablePred covered]
    (nonneg : ∀ instant, covered instant → 0 ≤ balance key events instant) :
    Chronicle key events covered
      (((stirred key events).filter fun instant => covered instant).map (rowAt key events)) := by
  have listed {row : Row}
      (member : row ∈ ((stirred key events).filter fun instant => covered instant).map
        (rowAt key events)) :
      ∃ instant, Stirs key events instant ∧ covered instant ∧ row = rowAt key events instant := by
    obtain ⟨instant, inside, rfl⟩ := List.mem_map.mp member
    rw [List.mem_filter, mem_stirred, decide_eq_true_eq] at inside
    exact ⟨instant, inside.1, inside.2, rfl⟩
  refine ⟨?_, ?_, ?_, ?_, ?_, ?_⟩
  · rw [List.pairwise_map]
    exact (ascending_iff_lt.mp ascending_stirred).filter _
  · intro instant
    rw [← stirs_iff_exists small]
    constructor
    · rintro ⟨row, member, rfl⟩
      obtain ⟨instant, stirs, inside, rfl⟩ := listed member
      exact ⟨inside, stirs⟩
    · rintro ⟨inside, stirs⟩
      refine ⟨rowAt key events instant, List.mem_map_of_mem ?_, rfl⟩
      rw [List.mem_filter, mem_stirred, decide_eq_true_eq]
      exact ⟨stirs, inside⟩
  · intro row member
    obtain ⟨instant, _, _, rfl⟩ := listed member
    exact toNat_ofNat_movedAt small
  · intro row member
    obtain ⟨instant, _, _, rfl⟩ := listed member
    exact toNat_ofNat_movedAt small
  · intro row member
    obtain ⟨instant, stirs, _, rfl⟩ := listed member
    simp only [rowAt, toNat_ofNat_movedAt small]
    exact (stirs_iff small).mp stirs
  · intro row member
    obtain ⟨instant, _, inside, rfl⟩ := listed member
    exact depth_rowAt small (nonneg instant inside)

/-- A violation keeps the rows of all earlier instants at which the queue stirs. -/
theorem rows_of_outcome_eq_error (sorted : InOrder events) {violation : Violation}
    (failed : outcome key events = .error violation) :
    violation.rows =
      ((stirred key events).filter (· < violation.timestamp)).map (rowAt key events) := by
  rw [outcome_eq_curve sorted] at failed
  obtain ⟨early, first, late, split, _, _, rfl⟩ := curve_eq_error_iff.mp failed
  have order : (stirred key events).Pairwise (· < ·) := ascending_iff_lt.mp ascending_stirred
  rw [split] at order
  obtain ⟨_, lateOrder, across⟩ := List.pairwise_append.mp order
  have before : early.filter (· < first) = early := by
    rw [List.filter_eq_self]
    intro instant member
    exact decide_eq_true (across instant member first List.mem_cons_self)
  have behind : (first :: late).filter (· < first) = [] := by
    rw [List.filter_eq_nil_iff]
    intro instant member
    rcases List.mem_cons.mp member with rfl | later
    · simp
    · have := (List.pairwise_cons.mp lateOrder).1 instant later
      simpa using this.le
  rw [split, List.filter_append, before, behind, List.append_nil]

theorem violation_eq_of_outcome_eq_error (small : events.length < 2 ^ 63) (sorted : InOrder events)
    {violation : Violation} (failed : outcome key events = .error violation) :
    violation = ⟨key, violation.timestamp, balance key events violation.timestamp,
      ((stirred key events).filter (· < violation.timestamp)).map (rowAt key events)⟩ := by
  obtain ⟨_, _, depth⟩ := of_outcome_eq_error small sorted failed
  have bears : violation.key = key := by
    have same := key_outcome key sorted
    rwa [failed] at same
  rw [← rows_of_outcome_eq_error sorted failed, ← depth, ← bears]

/-- A violation stands where the balance is negative for the first time, and that determines it. -/
theorem outcome_eq_error_iff (small : events.length < 2 ^ 63) (sorted : InOrder events)
    {violation : Violation} :
    outcome key events = .error violation ↔
      balance key events violation.timestamp < 0 ∧
      (∀ moment < violation.timestamp, 0 ≤ balance key events moment) ∧
      violation = ⟨key, violation.timestamp, balance key events violation.timestamp,
        ((stirred key events).filter (· < violation.timestamp)).map (rowAt key events)⟩ := by
  constructor
  · intro failed
    obtain ⟨neg, first, _⟩ := of_outcome_eq_error small sorted failed
    exact ⟨neg, first, violation_eq_of_outcome_eq_error small sorted failed⟩
  · rintro ⟨neg, first, violation_eq⟩
    cases result : outcome key events with
    | ok series =>
      have nonneg := ((outcome_eq_ok_iff small sorted).mp result).1 violation.timestamp
      omega
    | error fault =>
      obtain ⟨faultNeg, faultFirst, _⟩ := of_outcome_eq_error small sorted result
      -- neither of the two can come before the other
      have together : fault.timestamp = violation.timestamp := by
        rcases Nat.lt_trichotomy fault.timestamp violation.timestamp with before | same | behind
        · have := first _ before
          omega
        · exact same
        · have := faultFirst _ behind
          omega
      rw [violation_eq_of_outcome_eq_error small sorted result, violation_eq, together]

/-! ## Outcomes -/

/-- What becomes of fewer than 2⁶³ events in timestamp order, of any kinds. No operation on the way wraps.
There is a series exactly if at no instant more was dequeued than enqueued, and it is the chronicle of
all instants. Otherwise there is a violation at the first instant with a negative balance; it bears that
balance, and its rows are the chronicle of all instants before. -/
theorem chronicle_of_outcome (key : Key) (events : List Event) (sorted : InOrder events)
    (small : events.length < 2 ^ 63) :
    checkedOutcome key events = some (outcome key events) ∧
    ((∃ series, outcome key events = .ok series) ↔
      ∀ instant, movedBy key .dequeue events instant ≤ movedBy key .enqueue events instant) ∧
    (∀ series, outcome key events = .ok series →
      series.key = key ∧ Chronicle key events (fun _ => True) series.rows) ∧
    ∀ violation, outcome key events = .error violation →
      violation.key = key ∧
      balance key events violation.timestamp < 0 ∧
      (∀ instant < violation.timestamp, 0 ≤ balance key events instant) ∧
      violation.depth = balance key events violation.timestamp ∧
      Chronicle key events (· < violation.timestamp) violation.rows := by
  have nonneg_iff (instant : Nat) : 0 ≤ balance key events instant ↔
      movedBy key .dequeue events instant ≤ movedBy key .enqueue events instant := by
    rw [balance]
    omega
  refine ⟨checkedOutcome_eq_some small, ?_, ?_, ?_⟩
  · simp only [outcome_eq_ok_iff small sorted, exists_and_left, exists_eq, and_true, nonneg_iff]
  · intro series made
    obtain ⟨nonneg, rfl⟩ := (outcome_eq_ok_iff small sorted).mp made
    have rows := chronicle_stirred small fun instant (_ : True) => nonneg instant
    rw [List.filter_eq_self.mpr fun _ _ => decide_eq_true trivial] at rows
    exact ⟨rfl, rows⟩
  · intro violation failed
    obtain ⟨neg, first, depth⟩ := of_outcome_eq_error small sorted failed
    have bears := key_outcome key sorted
    rw [failed] at bears
    have rows := chronicle_stirred small first
    rw [← rows_of_outcome_eq_error sorted failed] at rows
    exact ⟨bears, neg, first, depth, rows⟩

/-- Actor 1 gets and gives away messages, both in one millisecond too, restarts, and then gives away two
more than it has. -/
def overdraft : List Event :=
  [⟨3, some 1, none, "t", .dequeue⟩, ⟨3, some 1, none, "t", .enqueue⟩,
    ⟨3, some 1, none, "t", .enqueue⟩, ⟨4, some 1, some 2, "t", .restart⟩,
    ⟨5, some 1, none, "t", .dequeue⟩, ⟨7, some 1, none, "t", .dequeue⟩,
    ⟨7, none, none, "t", .poolEnqueue⟩, ⟨7, some 1, none, "t", .dequeue⟩,
    ⟨9, some 1, none, "t", .enqueue⟩]

theorem chronicle_of_overdraft :
    InOrder overdraft ∧ overdraft.length < 2 ^ 63 ∧
      checkedOutcome (.actor 1) overdraft =
        some (.error ⟨.actor 1, 7, -2, [⟨3, 2, 1, 1⟩, ⟨5, 0, 1, 0⟩]⟩) ∧
      (∀ instant < 7, 0 ≤ balance (.actor 1) overdraft instant) ∧
      Chronicle (.actor 1) overdraft (· < 7) [⟨3, 2, 1, 1⟩, ⟨5, 0, 1, 0⟩] := by
  have sorted : InOrder overdraft := by decide
  have small : overdraft.length < 2 ^ 63 := by decide
  have failed : outcome (.actor 1) overdraft =
      .error ⟨.actor 1, 7, -2, [⟨3, 2, 1, 1⟩, ⟨5, 0, 1, 0⟩]⟩ := by decide
  obtain ⟨checked, _, _, faulty⟩ := chronicle_of_outcome (.actor 1) overdraft sorted small
  obtain ⟨_, _, first, _, rows⟩ := faulty _ failed
  exact ⟨sorted, small, checked.trans (congrArg some failed), first, rows⟩

end QueueDepth.Depth
