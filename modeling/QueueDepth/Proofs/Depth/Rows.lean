import QueueDepth.Proofs.Depth.Curve

/-!
# The rows of an outcome

A series has a row for every instant at which the queue stirs, and a violation keeps those before it.
Either way the rows ascend strictly by timestamp, and each says what the queue did at its own instant.
-/

namespace QueueDepth.Depth

/-- The rows of a series, or those in front of a violation. -/
def Outcome.rows : Outcome → List Row
  | .ok series => series.rows
  | .error violation => violation.rows

variable {key : Key} {events : List Event}

theorem Outcome.rows_behind (row : Row) (later : Outcome) :
    Outcome.rows (later.behind row) = row :: later.rows := by
  cases later <;> rfl

/-- The rows of a curve are those of the first instants. -/
theorem rows_curve (instants : List Nat) :
    ∃ early late, instants = early ++ late ∧
      (curve key events instants).rows = early.map (rowAt key events) := by
  induction instants with
  | nil => exact ⟨[], [], rfl, rfl⟩
  | cons instant rest ih =>
    by_cases below : level key events instant < 0
    · refine ⟨[], instant :: rest, rfl, ?_⟩
      rw [curve, if_pos below]
      rfl
    · obtain ⟨early, late, split, rows⟩ := ih
      refine ⟨instant :: early, late, by rw [split, List.cons_append], ?_⟩
      rw [curve, if_neg below, Outcome.rows_behind, rows, List.map_cons]

theorem rows_outcome (key : Key) (sorted : InOrder events) :
    ∃ early late, stirred key events = early ++ late ∧
      (outcome key events).rows = early.map (rowAt key events) := by
  rw [outcome_eq_curve sorted]
  exact rows_curve (stirred key events)

/-- No two rows of an outcome share a timestamp, and the earlier ones come first. -/
theorem pairwise_rows_outcome (key : Key) (sorted : InOrder events) :
    (outcome key events).rows.Pairwise fun a b => a.timestamp < b.timestamp := by
  obtain ⟨early, late, split, rows⟩ := rows_outcome key sorted
  have ascends : (stirred key events).Pairwise (· < ·) := ascending_iff_lt.mp ascending_stirred
  rw [split] at ascends
  rw [rows, List.pairwise_map]
  exact (List.pairwise_append.mp ascends).1

end QueueDepth.Depth
