import Mathlib.Order.Interval.Finset.Nat
import QueueDepth.Depth

/-!
# The balance of a queue

The balance of a queue at an instant is the number of enqueues up to and including it less the number
of dequeues. It is counted over the events as they stand, in any order, and it moves only where the
queue moves.

Depths are computed in words. `toInt_difference` says when they are exact: as long as both totals stay
below 2⁶³.
-/

namespace QueueDepth.Depth

/-- How many events move the queue of `key` to a side at exactly this instant. -/
def movedAt (key : Key) (side : Side) (events : List Event) (instant : Nat) : Nat :=
  events.countP fun event => movesTo key side event && event.timestamp == instant

/-- How many events move the queue of `key` to a side up to and including this instant. -/
def movedBy (key : Key) (side : Side) (events : List Event) (instant : Nat) : Nat :=
  events.countP fun event => movesTo key side event && decide (event.timestamp ≤ instant)

/-- Enqueues less dequeues up to and including this instant. -/
def balance (key : Key) (events : List Event) (instant : Nat) : Int :=
  (movedBy key .enqueue events instant : Int) - (movedBy key .dequeue events instant : Int)

section Counts

variable {key : Key} {side : Side} {events others : List Event} {instant later : Nat}

theorem movedBy_le_length : movedBy key side events instant ≤ events.length :=
  List.countP_le_length

theorem movedBy_perm (perm : events.Perm others) :
    movedBy key side events instant = movedBy key side others instant :=
  perm.countP_eq _

theorem balance_perm (perm : events.Perm others) :
    balance key events instant = balance key others instant := by
  rw [balance, balance, movedBy_perm perm, movedBy_perm perm]

theorem movedAt_append :
    movedAt key side (events ++ others) instant =
      movedAt key side events instant + movedAt key side others instant :=
  List.countP_append

theorem movedBy_append :
    movedBy key side (events ++ others) instant =
      movedBy key side events instant + movedBy key side others instant :=
  List.countP_append

/-! ## From one instant to the next -/

theorem movedBy_zero : movedBy key side events 0 = movedAt key side events 0 := by
  apply List.countP_congr
  intro event _
  simp

theorem movedBy_succ :
    movedBy key side events (instant + 1) =
      movedBy key side events instant + movedAt key side events (instant + 1) := by
  induction events with
  | nil => rfl
  | cons event rest ih =>
    simp only [movedBy, movedAt] at ih
    simp only [movedBy, movedAt, List.countP_cons, ih, Bool.and_eq_true, decide_eq_true_eq,
      beq_iff_eq]
    by_cases moves : movesTo key side event = true
    · simp only [moves, true_and]
      split <;> split <;> split <;> omega
    · simp [moves]

theorem movedAt_le_movedBy : movedAt key side events instant ≤ movedBy key side events instant := by
  cases instant with
  | zero => rw [movedBy_zero]
  | succ before =>
    rw [movedBy_succ]
    omega

/-- The counts at the single instants determine the counts up to an instant. -/
theorem movedBy_congr
    (same : ∀ moment, movedAt key side events moment = movedAt key side others moment) :
    movedBy key side events instant = movedBy key side others instant := by
  induction instant with
  | zero => rw [movedBy_zero, movedBy_zero, same]
  | succ before ih => rw [movedBy_succ, movedBy_succ, ih, same]

/-- Between two instants without a move nothing is added. -/
theorem movedBy_eq_of_quiet (order : instant ≤ later)
    (quiet : ∀ moment, instant < moment → moment ≤ later → movedAt key side events moment = 0) :
    movedBy key side events later = movedBy key side events instant := by
  induction later, order using Nat.le_induction with
  | base => rfl
  | succ before order ih =>
    rw [movedBy_succ, quiet (before + 1) (by omega) le_rfl, Nat.add_zero]
    exact ih fun moment after upTo => quiet moment after (by omega)

/-- Up to an instant before any move nothing is counted. -/
theorem movedBy_eq_zero_of_quiet
    (quiet : ∀ moment, moment ≤ instant → movedAt key side events moment = 0) :
    movedBy key side events instant = 0 := by
  rw [movedBy_eq_of_quiet (Nat.zero_le instant) fun moment _ upTo => quiet moment upTo, movedBy_zero]
  exact quiet 0 (Nat.zero_le instant)

end Counts

/-! ## Words -/

/-- Both totals below 2⁶³, their difference as a signed word is exact. -/
theorem toInt_difference {enqueued dequeued : Nat} (came : enqueued < 2 ^ 63)
    (went : dequeued < 2 ^ 63) :
    (difference (.ofNat enqueued) (.ofNat dequeued)).toInt = (enqueued : Int) - dequeued := by
  rw [difference, UInt64.toInt64_ofNat', UInt64.toInt64_ofNat', Int64.toInt_sub,
    Int64.toInt_ofNat_of_lt came, Int64.toInt_ofNat_of_lt went]
  refine Int.bmod_eq_of_le ?_ ?_ <;> omega

/-- A signed word that is not negative is the same number without its sign. -/
theorem toNat_toUInt64_of_nonneg {word : Int64} (nonneg : 0 ≤ word.toInt) :
    word.toUInt64.toNat = word.toInt.toNat := by
  rw [Int64.toNat_toInt]
  apply Int64.toNat_toUInt64_of_le
  rw [Int64.le_iff_toInt_le, Int64.toInt_zero]
  exact nonneg

end QueueDepth.Depth
