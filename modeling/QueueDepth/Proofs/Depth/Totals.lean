import Mathlib.Algebra.BigOperators.Group.List.Basic
import Mathlib.Algebra.Order.BigOperators.Group.List
import Mathlib.Algebra.Order.Group.Nat
import Mathlib.Algebra.Ring.Nat
import QueueDepth.Proofs.Arrangement
import QueueDepth.Proofs.Depth.Exact
import QueueDepth.Proofs.Depth.Rows

/-!
# The totals of a series

The counts in the rows of a series add up to the moves of the queue over all events, because every move
happens at an instant with a row. What is left at the end is therefore all enqueues less all dequeues.
The rows in front of a violation cover some of the instants, and add up to no more than all moves.

* `total_eq`, `finalDepth_add_dequeued`: a series and the moves of its queue.
* `sum_rows_le`: the rows of any outcome.
-/

namespace QueueDepth

/-! ## Counting by labels -/

section Labels

variable {α β : Type} [DecidableEq β] {label : α → β} {counts : α → Bool}

/-- Items counted label by label, no label twice, are the items with one of the labels. -/
theorem sum_countP_label {labels : List β} (distinct : labels.Nodup) (items : List α) :
    (labels.map fun b => items.countP fun a => counts a && decide (label a = b)).sum =
      items.countP fun a => counts a && decide (label a ∈ labels) := by
  rw [← List.countP_filter, ← (perm_gathered distinct items).countP_eq, gathered, List.countP_flatMap]
  congr 1
  apply List.map_congr_left
  intro b _
  exact List.countP_filter.symm

end Labels

namespace Depth

/-- How often a row says that the queue moved to a side. -/
def Row.moved (row : Row) : Side → Nat
  | .enqueue => row.enqueued
  | .dequeue => row.dequeued

/-- All moves of a series to a side. -/
def Series.total (series : Series) : Side → Nat
  | .enqueue => series.totalEnqueued
  | .dequeue => series.totalDequeued

theorem Series.total_eq_sum (series : Series) (side : Side) :
    series.total side = (series.rows.map fun row => row.moved side).sum := by
  have folded (count : Row → Nat) (rows : List Row) (start : Nat) :
      rows.foldl (fun total row => total + count row) start = start + (rows.map count).sum := by
    induction rows generalizing start with
    | nil => rfl
    | cons row rest ih => rw [List.foldl_cons, ih, List.map_cons, List.sum_cons, Nat.add_assoc]
  cases side with
  | enqueue => exact (folded Row.enqueued series.rows 0).trans (Nat.zero_add _)
  | dequeue => exact (folded Row.dequeued series.rows 0).trans (Nat.zero_add _)

variable {key : Key} {side : Side} {events : List Event}

/-- Moves counted instant by instant, no instant twice. -/
theorem sum_movedAt {instants : List Nat} (distinct : instants.Nodup) :
    (instants.map (movedAt key side events)).sum =
      events.countP fun event =>
        movesTo key side event && decide (event.timestamp ∈ instants) := by
  rw [← sum_countP_label distinct]
  rfl

theorem sum_movedAt_le {instants : List Nat} (distinct : instants.Nodup) :
    (instants.map (movedAt key side events)).sum ≤ events.countP (movesTo key side) := by
  rw [sum_movedAt distinct]
  apply List.countP_mono_left
  intro event _ counted
  rw [Bool.and_eq_true] at counted
  exact counted.1

/-! ## Behind all events -/

section Reached

variable {late : Nat} (reached : ∀ event ∈ events, event.timestamp ≤ late)

include reached

theorem movedBy_of_reached : movedBy key side events late = events.countP (movesTo key side) := by
  apply List.countP_congr
  intro event member
  simp [reached event member]

theorem filter_stirred_of_reached : (stirred key events).filter (· ≤ late) = stirred key events := by
  apply List.filter_eq_self.mpr
  intro instant stirs
  obtain ⟨event, member, rfl⟩ := exists_timestamp_of_stirs (mem_stirred.mp stirs)
  exact decide_eq_true (reached event member)

end Reached

/-! ## Rows -/

section Small

variable (small : events.length < 2 ^ 63)

include small

theorem moved_rowAt (instant : Nat) :
    (rowAt key events instant).moved side = movedAt key side events instant := by
  cases side with
  | enqueue => exact toNat_ofNat_movedAt small
  | dequeue => exact toNat_ofNat_movedAt small

theorem map_moved_rowAt (instants : List Nat) :
    (instants.map (rowAt key events)).map (fun row => row.moved side) =
      instants.map (movedAt key side events) := by
  rw [List.map_map]
  exact List.map_congr_left fun instant _ => moved_rowAt small instant

theorem mem_stirred_of_movesTo {event : Event} (member : event ∈ events)
    (moves : movesTo key side event = true) : event.timestamp ∈ stirred key events := by
  by_contra quiet
  have none : movedAt key side events event.timestamp = 0 :=
    movedAt_eq_zero_of_not_mem_stirred small quiet
  exact List.countP_eq_zero.mp none event member (by simp [moves])

/-- Every move happens at an instant with a row. -/
theorem sum_movedAt_stirred :
    ((stirred key events).map (movedAt key side events)).sum =
      events.countP (movesTo key side) := by
  rw [sum_movedAt ascending_stirred.nodup]
  apply List.countP_congr
  intro event member
  rw [Bool.and_eq_true, decide_eq_true_eq]
  exact ⟨And.left, fun moves => ⟨moves, mem_stirred_of_movesTo small member moves⟩⟩

/-- The rows of an outcome count each move at most once. -/
theorem sum_rows_le (sorted : InOrder events) :
    ((outcome key events).rows.map fun row => row.moved side).sum ≤
      events.countP (movesTo key side) := by
  obtain ⟨early, late, split, rows⟩ := rows_outcome key sorted
  have distinct : (early ++ late).Nodup := split ▸ ascending_stirred.nodup
  rw [rows, map_moved_rowAt small]
  exact sum_movedAt_le (List.nodup_append.mp distinct).1

variable (sorted : InOrder events) {series : Series} (made : outcome key events = .ok series)

include sorted made

theorem total_eq (side : Side) : series.total side = events.countP (movesTo key side) := by
  obtain ⟨_, rfl⟩ := (outcome_eq_ok_iff small sorted).mp made
  rw [Series.total_eq_sum, map_moved_rowAt small, sum_movedAt_stirred small]

/-- The last row holds the balance of all events. -/
theorem finalDepth_add_dequeued :
    series.finalDepth + series.totalDequeued = series.totalEnqueued := by
  have came : series.totalEnqueued = events.countP (movesTo key .enqueue) :=
    total_eq small sorted made .enqueue
  have went : series.totalDequeued = events.countP (movesTo key .dequeue) :=
    total_eq small sorted made .dequeue
  obtain ⟨nonneg, rfl⟩ := (outcome_eq_ok_iff small sorted).mp made
  -- an instant behind everything that happens
  let late := (events.map Event.timestamp).sum
  have reached : ∀ event ∈ events, event.timestamp ≤ late := fun event member =>
    List.le_sum_of_mem (List.mem_map_of_mem member)
  have final : (((⟨key, (stirred key events).map (rowAt key events)⟩ : Series).finalDepth : Nat) :
      Int) = balance key events late := by
    rw [balance_eq_last small, filter_stirred_of_reached reached, Series.finalDepth, List.getLast?_map]
    cases (stirred key events).getLast? with
    | none => rfl
    | some last => exact depth_rowAt small (nonneg last)
  rw [balance, movedBy_of_reached reached, movedBy_of_reached reached] at final
  omega

end Small

end Depth

end QueueDepth
