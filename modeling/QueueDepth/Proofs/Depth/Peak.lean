import QueueDepth.Depth

/-!
# The peak of a series

`peak?` runs through the rows and keeps the deeper of two, of equals the first. So at every row it holds the
first of the deepest rows it has seen (`FirstDeepest.push`), and at the end that of all rows
(`Series.exists_peak?`).
-/

namespace QueueDepth.Depth

/-- No row is deeper than this one, and all rows in front of it are less deep. -/
structure FirstDeepest (rows : List Row) (peak : Row) : Prop where
  first : ∃ before after, rows = before ++ peak :: after ∧ ∀ row ∈ before, row.depth < peak.depth
  depth_le : ∀ row ∈ rows, row.depth ≤ peak.depth

namespace FirstDeepest

variable {rows : List Row} {peak : Row}

theorem mem (deepest : FirstDeepest rows peak) : peak ∈ rows := by
  obtain ⟨before, after, split, _⟩ := deepest.first
  rw [split]
  exact List.mem_append_right _ List.mem_cons_self

theorem single (row : Row) : FirstDeepest [row] row where
  first := ⟨[], [], rfl, by simp⟩
  depth_le other member := Nat.le_of_eq (congrArg Row.depth (List.mem_singleton.mp member))

/-- One more row is the peak only if it is deeper than all before it. -/
theorem push (deepest : FirstDeepest rows peak) (row : Row) :
    FirstDeepest (rows ++ [row]) (Series.deeper peak row) := by
  unfold Series.deeper
  split
  · rename_i deeper
    have below : ∀ other ∈ rows, other.depth < row.depth := by
      intro other member
      exact Nat.lt_of_le_of_lt (deepest.depth_le other member) deeper
    refine ⟨⟨rows, [], rfl, below⟩, ?_⟩
    intro other member
    rcases List.mem_append.mp member with old | new
    · exact Nat.le_of_lt (below other old)
    · exact Nat.le_of_eq (congrArg Row.depth (List.mem_singleton.mp new))
  · rename_i notDeeper
    obtain ⟨before, after, split, shallower⟩ := deepest.first
    refine ⟨⟨before, after ++ [row], by simp [split], shallower⟩, ?_⟩
    intro other member
    rcases List.mem_append.mp member with old | new
    · exact deepest.depth_le other old
    · rw [List.mem_singleton.mp new]
      exact Nat.le_of_not_lt notDeeper

theorem foldl (deepest : FirstDeepest rows peak) (rest : List Row) :
    FirstDeepest (rows ++ rest) (rest.foldl Series.deeper peak) := by
  induction rest generalizing rows peak with
  | nil =>
    rw [List.append_nil]
    exact deepest
  | cons row rest ih =>
    rw [List.append_cons]
    exact ih (deepest.push row)

end FirstDeepest

/-- A series with rows has a peak, and that is the first of its deepest rows. -/
theorem Series.exists_peak? {series : Series} (moved : series.rows ≠ []) :
    ∃ peak, series.peak? = some peak ∧ FirstDeepest series.rows peak := by
  obtain ⟨key, rows⟩ := series
  cases rows with
  | nil => exact absurd rfl moved
  | cons row rest => exact ⟨_, rfl, (FirstDeepest.single row).foldl rest⟩

end QueueDepth.Depth
