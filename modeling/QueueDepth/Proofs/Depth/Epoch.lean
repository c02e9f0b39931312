import Mathlib.Data.List.SplitBy
import QueueDepth.Depth

/-!
# Outcomes under another epoch

Timestamps count from an epoch of their own. Counting from an earlier one adds the same offset to all of
them, and the depths of a queue do not notice: `outcome_shift` says that the outcome has the offset on
its timestamps, too, and is the same in all else. It holds group by group, whatever order the events are
in.
-/

namespace QueueDepth

/-- An event with an offset added to its timestamp. -/
def Event.shift (offset : Nat) (event : Event) : Event :=
  { event with timestamp := event.timestamp + offset }

@[simp]
theorem Event.scope_shift (offset : Nat) (event : Event) :
    (event.shift offset).scope = event.scope :=
  rfl

namespace Depth

/-- A row with an offset added to its timestamp. -/
def Row.shift (offset : Nat) (row : Row) : Row :=
  { row with timestamp := row.timestamp + offset }

/-- A series with an offset added to the timestamps of its rows. -/
def Series.shift (offset : Nat) (series : Series) : Series :=
  { series with rows := series.rows.map (Row.shift offset) }

/-- A violation with an offset added to its timestamp and to those of its rows. -/
def Violation.shift (offset : Nat) (violation : Violation) : Violation :=
  { violation with
    timestamp := violation.timestamp + offset
    rows := violation.rows.map (Row.shift offset) }

/-- An outcome with an offset added to all timestamps. -/
def Outcome.shift (offset : Nat) : Outcome → Outcome
  | .ok series => .ok (series.shift offset)
  | .error violation => .error (violation.shift offset)

variable {key : Key} {offset : Nat}

theorem Outcome.shift_behind (row : Row) (later : Outcome) :
    Outcome.shift offset (later.behind row) = (later.shift offset).behind (row.shift offset) := by
  cases later <;> rfl

/-! ## Groups -/

/-- Items are cut apart where their images are. -/
theorem splitBy_map {α β : Type} {f : α → β} {together : β → β → Bool} (items : List α) :
    (items.map f).splitBy together =
      (items.splitBy fun a b => together (f a) (f b)).map (List.map f) := by
  rw [List.splitBy_eq_iff]
  refine ⟨?_, ?_, ?_, ?_⟩
  · rw [← List.map_flatten, List.flatten_splitBy]
  · intro empty
    obtain ⟨group, member, none⟩ := List.mem_map.mp empty
    exact List.ne_nil_of_mem_splitBy member (List.map_eq_nil_iff.mp none)
  · intro group member
    obtain ⟨items, inside, rfl⟩ := List.mem_map.mp member
    rw [List.isChain_map]
    exact List.isChain_of_mem_splitBy inside
  · rw [List.isChain_map]
    refine (List.isChain_getLast_head_splitBy _ items).imp ?_
    rintro group next ⟨last, first, apart⟩
    refine ⟨by simpa using last, by simpa using first, ?_⟩
    rwa [List.getLast_map, List.head_map]

theorem instants_map_shift (events : List Event) :
    instants (events.map (Event.shift offset)) =
      (instants events).map (List.map (Event.shift offset)) := by
  have together : (fun a b : Event => (a.shift offset).timestamp == (b.shift offset).timestamp) =
      fun a b => a.timestamp == b.timestamp := by
    funext a b
    rw [Bool.eq_iff_iff, beq_iff_eq, beq_iff_eq]
    exact Nat.add_right_cancel_iff
  rw [instants, splitBy_map, together]
  rfl

theorem moves_map_shift (side : Side) (group : List Event) :
    moves key side (group.map (Event.shift offset)) = moves key side group := by
  rw [moves, List.countP_map]
  rfl

/-! ## Outcomes -/

theorem outcomeFrom_shift (enqueued dequeued : UInt64) (groups : List (List Event)) :
    outcomeFrom key enqueued dequeued (groups.map (List.map (Event.shift offset))) =
      (outcomeFrom key enqueued dequeued groups).shift offset := by
  induction groups generalizing enqueued dequeued with
  | nil => rfl
  | cons group rest ih =>
    cases group with
    | nil => exact ih enqueued dequeued
    | cons event more =>
      have counted (side : Side) :
          moves key side (event.shift offset :: more.map (Event.shift offset)) =
            moves key side (event :: more) := moves_map_shift side (event :: more)
      rw [List.map_cons, List.map_cons, outcomeFrom, outcomeFrom, counted, counted, ih, ih]
      by_cases quiet : moves key .enqueue (event :: more) = 0 ∧ moves key .dequeue (event :: more) = 0
      · rw [if_pos quiet, if_pos quiet]
      · rw [if_neg quiet, if_neg quiet]
        dsimp only
        split
        · rfl
        · rw [Outcome.shift_behind]
          rfl

/-- The offset on the events is the offset on the outcome. -/
theorem outcome_shift (events : List Event) :
    outcome key (events.map (Event.shift offset)) = (outcome key events).shift offset := by
  rw [outcome, instants_map_shift, outcomeFrom_shift]
  rfl

end Depth

end QueueDepth
