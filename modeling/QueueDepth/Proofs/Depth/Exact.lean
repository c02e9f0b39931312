import QueueDepth.Proofs.Depth.Curve

/-!
# Exact depths

Fewer than 2⁶³ events never make a total or a depth wrap. Then the levels of a curve are balances, and
the balance between two rows is that of the row before.
-/

namespace QueueDepth.Depth

variable {key : Key} {side : Side} {events : List Event} {instant : Nat}

section Small

variable (small : events.length < 2 ^ 63)

include small

theorem toInt_level : (level key events instant).toInt = balance key events instant :=
  toInt_difference (movedBy_le_length.trans_lt small) (movedBy_le_length.trans_lt small)

theorem level_neg_iff : level key events instant < 0 ↔ balance key events instant < 0 := by
  rw [Int64.lt_iff_toInt_lt, Int64.toInt_zero, toInt_level small]

theorem not_level_neg_iff : ¬ level key events instant < 0 ↔ 0 ≤ balance key events instant := by
  rw [level_neg_iff small, not_lt]

theorem toNat_ofNat_movedAt :
    (UInt64.ofNat (movedAt key side events instant)).toNat = movedAt key side events instant := by
  apply UInt64.toNat_ofNat_of_lt'
  have counted : movedAt key side events instant ≤ events.length :=
    movedAt_le_movedBy.trans movedBy_le_length
  have word : UInt64.size = 2 ^ 64 := rfl
  omega

theorem ofNat_movedAt_eq_zero_iff :
    UInt64.ofNat (movedAt key side events instant) = 0 ↔ movedAt key side events instant = 0 := by
  rw [← UInt64.toNat_inj, toNat_ofNat_movedAt small]
  rfl

/-- A queue stirs at an instant if some event moves it then. -/
theorem stirs_iff :
    Stirs key events instant ↔
      movedAt key .enqueue events instant ≠ 0 ∨ movedAt key .dequeue events instant ≠ 0 := by
  rw [Stirs, ofNat_movedAt_eq_zero_iff small, ofNat_movedAt_eq_zero_iff small, not_and_or]

theorem movedAt_eq_zero_of_not_mem_stirred (quiet : instant ∉ stirred key events) :
    movedAt key side events instant = 0 := by
  rw [mem_stirred, stirs_iff small, not_or, not_not, not_not] at quiet
  cases side with
  | enqueue => exact quiet.1
  | dequeue => exact quiet.2

/-- The depth in a row is the balance at its instant, where that is not negative. -/
theorem depth_rowAt (nonneg : 0 ≤ balance key events instant) :
    ((rowAt key events instant).depth : Int) = balance key events instant := by
  have word : 0 ≤ (level key events instant).toInt := by
    rw [toInt_level small]
    exact nonneg
  rw [rowAt, toNat_toUInt64_of_nonneg word, toInt_level small, Int.toNat_of_nonneg nonneg]

/-! ## Between the rows -/

/-- The balance at an instant is that of the last instant up to it at which the queue stirred, and
zero before the first one. -/
theorem balance_eq_last :
    balance key events instant =
      (((stirred key events).filter (· ≤ instant)).getLast?.map (balance key events)).getD 0 := by
  have sorted : ((stirred key events).filter (· ≤ instant)).Pairwise (· < ·) :=
    (ascending_iff_lt.mp ascending_stirred).filter _
  cases last : ((stirred key events).filter (· ≤ instant)).getLast? with
  | none =>
    have quiet (side : Side) : movedBy key side events instant = 0 := by
      apply movedBy_eq_zero_of_quiet
      intro moment upTo
      apply movedAt_eq_zero_of_not_mem_stirred small
      intro member
      have empty := List.getLast?_eq_none_iff.mp last
      rw [List.filter_eq_nil_iff] at empty
      exact empty moment member (by simpa using upTo)
    rw [balance, quiet, quiet]
    rfl
  | some moment =>
    obtain ⟨early, split⟩ := List.getLast?_eq_some_iff.mp last
    have member : moment ∈ (stirred key events).filter (· ≤ instant) := by simp [split]
    rw [List.mem_filter, decide_eq_true_eq] at member
    have still (side : Side) :
        movedBy key side events instant = movedBy key side events moment := by
      apply movedBy_eq_of_quiet member.2
      intro other after upTo
      apply movedAt_eq_zero_of_not_mem_stirred small
      intro stirs
      have inside : other ∈ early ++ [moment] := by
        rw [← split, List.mem_filter, decide_eq_true_eq]
        exact ⟨stirs, upTo⟩
      rw [split] at sorted
      rcases List.mem_append.mp inside with old | new
      · have := (List.pairwise_append.mp sorted).2.2 other old moment (by simp)
        omega
      · have := List.mem_singleton.mp new
        omega
    rw [balance, still, still]
    rfl

theorem balance_nonneg_of_stirred
    (nonneg : ∀ moment ∈ stirred key events, moment ≤ instant → 0 ≤ balance key events moment) :
    0 ≤ balance key events instant := by
  rw [balance_eq_last small]
  cases last : ((stirred key events).filter (· ≤ instant)).getLast? with
  | none => exact le_rfl
  | some moment =>
    have member := List.mem_of_getLast? last
    rw [List.mem_filter, decide_eq_true_eq] at member
    exact nonneg moment member.1 member.2

/-! ## Outcomes -/

/-- A series is made if the balance is never negative, and its rows are those of all instants at which
the queue stirs. -/
theorem outcome_eq_ok_iff (sorted : InOrder events) {series : Series} :
    outcome key events = .ok series ↔
      (∀ moment, 0 ≤ balance key events moment) ∧
        series = ⟨key, (stirred key events).map (rowAt key events)⟩ := by
  rw [outcome_eq_curve sorted, curve_eq_ok_iff]
  apply and_congr_left
  intro _
  constructor
  · intro nonneg moment
    apply balance_nonneg_of_stirred small
    intro other stirs _
    exact (not_level_neg_iff small).mp (nonneg other stirs)
  · intro nonneg moment _
    exact (not_level_neg_iff small).mpr (nonneg moment)

/-- A violation stands at the first instant with a negative balance, and bears that balance. -/
theorem of_outcome_eq_error (sorted : InOrder events) {violation : Violation}
    (failed : outcome key events = .error violation) :
    balance key events violation.timestamp < 0 ∧
      (∀ moment < violation.timestamp, 0 ≤ balance key events moment) ∧
      violation.depth = balance key events violation.timestamp := by
  rw [outcome_eq_curve sorted] at failed
  obtain ⟨early, first, late, split, nonneg, neg, rfl⟩ := curve_eq_error_iff.mp failed
  have order : (stirred key events).Pairwise (· < ·) := ascending_iff_lt.mp ascending_stirred
  rw [split] at order
  refine ⟨(level_neg_iff small).mp neg, ?_, toInt_level small⟩
  intro moment before
  apply balance_nonneg_of_stirred small
  intro other stirs upTo
  rw [split] at stirs
  -- what stirs before the first negative instant stands in front of it
  have inFront : other ∈ early := by
    rcases List.mem_append.mp stirs with front | behind
    · exact front
    · rcases List.mem_cons.mp behind with rfl | tail
      · exact absurd before (by simpa using upTo)
      · have := (List.pairwise_cons.mp (List.pairwise_append.mp order).2.1).1 other tail
        exact absurd before (by simp only at *; omega)
  exact (not_level_neg_iff small).mp (nonneg other inFront)

end Small

end QueueDepth.Depth
