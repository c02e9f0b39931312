import Mathlib.Algebra.Group.Int.Defs
import Mathlib.Algebra.Group.Nat.Defs
import Mathlib.Data.List.Basic
import QueueDepth.Proofs.Depth.Instants

/-!
# Reconstruction with checked words

`outcomeFrom` computes in words that wrap. `checkedFrom` is the same fold with every operation checked:
it gives up as soon as a count, a total, a conversion or a difference does not fit. On fewer than 2⁶³
events it never gives up, so nothing wraps on the way to the outcome, in totals that cancel out either.

* `checkedOutcome_eq_some`: both folds agree on events that are not too many.
-/

namespace QueueDepth.Depth

/-! ## Operations that may fail -/

/-- A number as a word, if it fits. -/
def word? (number : Nat) : Option UInt64 :=
  if number < 2 ^ 64 then some (.ofNat number) else none

/-- The sum of two words, if it fits. -/
def sum? (a b : UInt64) : Option UInt64 :=
  word? (a.toNat + b.toNat)

/-- A word as a signed one, if it fits. -/
def signed? (word : UInt64) : Option Int64 :=
  if word.toNat < 2 ^ 63 then some word.toInt64 else none

/-- The difference of two signed words, if it fits. -/
def minus? (a b : Int64) : Option Int64 :=
  if -2 ^ 63 ≤ a.toInt - b.toInt ∧ a.toInt - b.toInt < 2 ^ 63 then some (a - b) else none

/-- The depth behind two totals, if both and their difference fit into signed words. -/
def difference? (enqueued dequeued : UInt64) : Option Int64 := do
  minus? (← signed? enqueued) (← signed? dequeued)

theorem word?_of_lt {number : Nat} (fits : number < 2 ^ 64) : word? number = some (.ofNat number) :=
  if_pos fits

theorem sum?_of_lt {a b : UInt64} (fits : a.toNat + b.toNat < 2 ^ 64) : sum? a b = some (a + b) := by
  rw [sum?, word?_of_lt fits, UInt64.ofNat_add, UInt64.ofNat_toNat, UInt64.ofNat_toNat]

theorem toInt_toInt64_of_lt {word : UInt64} (fits : word.toNat < 2 ^ 63) :
    word.toInt64.toInt = word.toNat := by
  have value := Int64.toInt_ofNat_of_lt fits
  rwa [← UInt64.toInt64_ofNat', UInt64.ofNat_toNat] at value

theorem difference?_of_lt {enqueued dequeued : UInt64} (came : enqueued.toNat < 2 ^ 63)
    (went : dequeued.toNat < 2 ^ 63) :
    difference? enqueued dequeued = some (difference enqueued dequeued) := by
  have fits : -2 ^ 63 ≤ enqueued.toInt64.toInt - dequeued.toInt64.toInt ∧
      enqueued.toInt64.toInt - dequeued.toInt64.toInt < 2 ^ 63 := by
    rw [toInt_toInt64_of_lt came, toInt_toInt64_of_lt went]
    omega
  have first : signed? enqueued = some enqueued.toInt64 := if_pos came
  have second : signed? dequeued = some dequeued.toInt64 := if_pos went
  rw [difference?, first, second]
  exact if_pos fits

/-! ## The checked fold -/

/-- `outcomeFrom` with all its operations checked. -/
def checkedFrom (key : Key) (enqueued dequeued : UInt64) : List (List Event) → Option Outcome
  | [] => some (.ok ⟨key, []⟩)
  | [] :: rest => checkedFrom key enqueued dequeued rest
  | (event :: more) :: rest => do
    let came ← word? ((event :: more).countP (movesTo key .enqueue))
    let went ← word? ((event :: more).countP (movesTo key .dequeue))
    if came = 0 ∧ went = 0 then
      checkedFrom key enqueued dequeued rest
    else
      let enqueued ← sum? enqueued came
      let dequeued ← sum? dequeued went
      let depth ← difference? enqueued dequeued
      if depth < 0 then
        some (.error ⟨key, event.timestamp, depth.toInt, []⟩)
      else
        let later ← checkedFrom key enqueued dequeued rest
        some (later.behind ⟨event.timestamp, came.toNat, went.toNat, depth.toUInt64.toNat⟩)

/-- The outcome of the queue of `key`, unless some operation on the way does not fit. -/
def checkedOutcome (key : Key) (events : List Event) : Option Outcome :=
  checkedFrom key 0 0 (instants events)

variable {key : Key} {side : Side}

/-- The moves of a group that is not too large are counted exactly. -/
theorem toNat_moves {group : List Event} (fits : group.countP (movesTo key side) < 2 ^ 64) :
    (moves key side group).toNat = group.countP (movesTo key side) :=
  UInt64.toNat_ofNat_of_lt' fits

/-- A total with the moves of one more group is exact while it stays small. -/
theorem toNat_add_moves {total : UInt64} {group : List Event}
    (fits : total.toNat + group.countP (movesTo key side) < 2 ^ 64) :
    (total + moves key side group).toNat = total.toNat + group.countP (movesTo key side) := by
  rw [UInt64.toNat_add, toNat_moves (Nat.lt_of_le_of_lt (Nat.le_add_left _ _) fits),
    Nat.mod_eq_of_lt fits]

theorem sum?_moves {total : UInt64} {group : List Event}
    (fits : total.toNat + group.countP (movesTo key side) < 2 ^ 64) :
    sum? total (moves key side group) = some (total + moves key side group) := by
  apply sum?_of_lt
  rwa [toNat_moves (Nat.lt_of_le_of_lt (Nat.le_add_left _ _) fits)]

/-- While the totals with all that is left stay below 2⁶³, the checked fold goes on as the other
does. -/
theorem checkedFrom_eq_some {enqueued dequeued : UInt64} {groups : List (List Event)}
    (came : enqueued.toNat + groups.flatten.countP (movesTo key .enqueue) < 2 ^ 63)
    (went : dequeued.toNat + groups.flatten.countP (movesTo key .dequeue) < 2 ^ 63) :
    checkedFrom key enqueued dequeued groups =
      some (outcomeFrom key enqueued dequeued groups) := by
  -- what a group adds to the totals it takes from what is left, so the bounds carry over to the rest
  induction groups generalizing enqueued dequeued with
  | nil => rfl
  | cons group rest ih =>
    cases group with
    | nil => exact ih came went
    | cons event more =>
      rw [List.flatten_cons, List.countP_append] at came went
      have enqueued_eq : (enqueued + moves key .enqueue (event :: more)).toNat =
          enqueued.toNat + (event :: more).countP (movesTo key .enqueue) :=
        toNat_add_moves (by omega)
      have dequeued_eq : (dequeued + moves key .dequeue (event :: more)).toNat =
          dequeued.toNat + (event :: more).countP (movesTo key .dequeue) :=
        toNat_add_moves (by omega)
      have counted (side : Side) (fits : (event :: more).countP (movesTo key side) < 2 ^ 64) :
          word? ((event :: more).countP (movesTo key side)) =
            some (moves key side (event :: more)) := word?_of_lt fits
      rw [checkedFrom, outcomeFrom, counted .enqueue (by omega), counted .dequeue (by omega)]
      simp only [Option.bind_eq_bind, Option.bind_some]
      by_cases quiet : moves key .enqueue (event :: more) = 0 ∧ moves key .dequeue (event :: more) = 0
      · rw [if_pos quiet, if_pos quiet]
        exact ih (by omega) (by omega)
      · rw [if_neg quiet, if_neg quiet, sum?_moves (by omega), sum?_moves (by omega)]
        simp only [Option.bind_some]
        rw [difference?_of_lt (by omega) (by omega), ih (by omega) (by omega)]
        simp only [Option.bind_some]
        split <;> rfl

/-- Fewer than 2⁶³ events never overflow a word. -/
theorem checkedOutcome_eq_some {events : List Event} (small : events.length < 2 ^ 63) :
    checkedOutcome key events = some (outcome key events) := by
  have counted (side : Side) : events.countP (movesTo key side) < 2 ^ 63 :=
    Nat.lt_of_le_of_lt List.countP_le_length small
  have zero : (0 : UInt64).toNat = 0 := rfl
  apply checkedFrom_eq_some
  · rw [zero, flatten_instants, Nat.zero_add]
    exact counted .enqueue
  · rw [zero, flatten_instants, Nat.zero_add]
    exact counted .dequeue

end QueueDepth.Depth
