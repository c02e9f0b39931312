import QueueDepth.Proofs.Depth.Rows

/-!
# Outcomes up to an instant

What a queue did up to an instant does not depend on what comes later. So the events up to a cut have
the outcome of all events, cut off there: a violation that comes later is not one yet, and the rows in
front of it are a series.

* `outcome_filter_le`: cutting the events and cutting the outcome are the same.
-/

namespace QueueDepth.Depth

/-- What an outcome says up to and including an instant. -/
def Outcome.upTo (cut : Nat) : Outcome → Outcome
  | .ok series => .ok ⟨series.key, series.rows.filter (·.timestamp ≤ cut)⟩
  | .error violation =>
    if violation.timestamp ≤ cut then .error violation
    else .ok ⟨violation.key, violation.rows.filter (·.timestamp ≤ cut)⟩

variable {key : Key} {side : Side} {events : List Event} {instant cut : Nat}

/-! ## Counts up to the cut -/

/-- What is counted up to the cut only is counted among the events up to there. -/
theorem countP_filter_le {counts : Event → Bool}
    (early : ∀ event, counts event = true → event.timestamp ≤ cut) :
    (events.filter (·.timestamp ≤ cut)).countP counts = events.countP counts := by
  rw [List.countP_filter]
  apply List.countP_congr
  intro event _
  rw [Bool.and_eq_true, decide_eq_true_eq]
  exact ⟨And.left, fun counted => ⟨counted, early event counted⟩⟩

theorem movedAt_filter_le (before : instant ≤ cut) :
    movedAt key side (events.filter (·.timestamp ≤ cut)) instant =
      movedAt key side events instant := by
  apply countP_filter_le
  intro event counted
  rw [Bool.and_eq_true, beq_iff_eq] at counted
  exact counted.2.le.trans before

theorem movedAt_filter_of_lt (behind : cut < instant) :
    movedAt key side (events.filter (·.timestamp ≤ cut)) instant = 0 := by
  apply List.countP_eq_zero.mpr
  intro event member counted
  rw [List.mem_filter, decide_eq_true_eq] at member
  rw [Bool.and_eq_true, beq_iff_eq] at counted
  omega

theorem movedBy_filter_le (before : instant ≤ cut) :
    movedBy key side (events.filter (·.timestamp ≤ cut)) instant =
      movedBy key side events instant := by
  apply countP_filter_le
  intro event counted
  rw [Bool.and_eq_true, decide_eq_true_eq] at counted
  exact counted.2.trans before

theorem level_filter_le (before : instant ≤ cut) :
    level key (events.filter (·.timestamp ≤ cut)) instant = level key events instant := by
  rw [level, level, movedBy_filter_le before, movedBy_filter_le before]

theorem rowAt_filter_le (before : instant ≤ cut) :
    rowAt key (events.filter (·.timestamp ≤ cut)) instant = rowAt key events instant := by
  rw [rowAt, rowAt, movedAt_filter_le before, movedAt_filter_le before, level_filter_le before]

theorem stirs_filter_le_iff :
    Stirs key (events.filter (·.timestamp ≤ cut)) instant ↔
      Stirs key events instant ∧ instant ≤ cut := by
  by_cases before : instant ≤ cut
  · rw [Stirs, Stirs, movedAt_filter_le before, movedAt_filter_le before, and_iff_left before]
  · have behind : cut < instant := by omega
    rw [Stirs, movedAt_filter_of_lt behind, movedAt_filter_of_lt behind]
    simp [before]

/-- Of the instants at which the queue stirs, those up to the cut are left. -/
theorem stirred_filter_le :
    stirred key (events.filter (·.timestamp ≤ cut)) =
      (stirred key events).filter fun moment => moment ≤ cut := by
  apply ascending_stirred.eq_of_mem_iff (ascending_stirred.filter _)
  intro moment
  rw [mem_stirred, List.mem_filter, mem_stirred, decide_eq_true_eq, stirs_filter_le_iff]

/-! ## Curves up to the cut -/

theorem Outcome.upTo_behind {row : Row} (later : Outcome) (before : row.timestamp ≤ cut) :
    Outcome.upTo cut (later.behind row) = (later.upTo cut).behind row := by
  have kept (rows : List Row) : (row :: rows).filter (·.timestamp ≤ cut) =
      row :: rows.filter (·.timestamp ≤ cut) :=
    List.filter_cons_of_pos (by simpa using before)
  cases later with
  | ok series =>
    simp only [Outcome.behind, Outcome.upTo, kept]
  | error violation =>
    by_cases early : violation.timestamp ≤ cut
    · simp only [Outcome.behind, Outcome.upTo, if_pos early]
    · simp only [Outcome.behind, Outcome.upTo, if_neg early, kept]

theorem Outcome.upTo_behind_of_lt {row : Row} {later : Outcome} (behind : cut < row.timestamp)
    (silent : later.upTo cut = .ok ⟨key, []⟩) :
    Outcome.upTo cut (later.behind row) = .ok ⟨key, []⟩ := by
  have dropped (rows : List Row) : (row :: rows).filter (·.timestamp ≤ cut) =
      rows.filter (·.timestamp ≤ cut) :=
    List.filter_cons_of_neg (by simpa using behind)
  cases later with
  | ok series => simpa only [Outcome.behind, Outcome.upTo, dropped] using silent
  | error violation =>
    by_cases early : violation.timestamp ≤ cut
    · rw [Outcome.upTo, if_pos early] at silent
      cases silent
    · simpa only [Outcome.behind, Outcome.upTo, if_neg early, dropped] using silent

/-- Nothing is left of a curve that begins behind the cut. -/
theorem upTo_curve_of_lt {instants : List Nat} (behind : ∀ moment ∈ instants, cut < moment) :
    Outcome.upTo cut (curve key events instants) = .ok ⟨key, []⟩ := by
  induction instants with
  | nil => rfl
  | cons moment rest ih =>
    obtain ⟨now, later⟩ := List.forall_mem_cons.mp behind
    rw [curve]
    by_cases below : level key events moment < 0
    · rw [if_pos below, Outcome.upTo, if_neg (Nat.not_le.mpr now)]
      rfl
    · rw [if_neg below]
      exact Outcome.upTo_behind_of_lt now (ih later)

theorem curve_filter_le {instants : List Nat} (ascends : instants.Pairwise (· < ·)) :
    curve key events (instants.filter fun moment => moment ≤ cut) =
      Outcome.upTo cut (curve key events instants) := by
  induction instants with
  | nil => rfl
  | cons moment rest ih =>
    obtain ⟨first, later⟩ := List.pairwise_cons.mp ascends
    by_cases before : moment ≤ cut
    · rw [List.filter_cons_of_pos (by simpa using before), curve, curve, ih later]
      by_cases below : level key events moment < 0
      · rw [if_pos below, if_pos below, Outcome.upTo, if_pos before]
      · rw [if_neg below, if_neg below]
        exact (Outcome.upTo_behind _ before).symm
    · have behind : ∀ other ∈ moment :: rest, cut < other := by
        intro other member
        rcases List.mem_cons.mp member with rfl | tail
        · omega
        · have := first other tail
          omega
      have none : (moment :: rest).filter (fun moment => moment ≤ cut) = [] := by
        apply List.filter_eq_nil_iff.mpr
        intro other member
        simpa using behind other member
      rw [none, upTo_curve_of_lt behind]
      rfl

/-- The events up to a cut have the outcome of all events up to there. -/
theorem outcome_filter_le (sorted : InOrder events) :
    outcome key (events.filter (·.timestamp ≤ cut)) = (outcome key events).upTo cut := by
  have ascends : (stirred key events).Pairwise (· < ·) := ascending_iff_lt.mp ascending_stirred
  rw [outcome_eq_curve (sorted.filter _), outcome_eq_curve sorted, ← curve_filter_le ascends,
    stirred_filter_le]
  apply curve_congr
  intro moment member
  rw [List.mem_filter, decide_eq_true_eq] at member
  exact ⟨level_filter_le member.2, rowAt_filter_le member.2⟩

end QueueDepth.Depth
