import QueueDepth.Proofs.Report.Accounting
import QueueDepth.Proofs.Report.Depths

/-!
# Overdrawn keys

A key is overdrawn if its depth is below zero at the end of some instant. The violations of a report are
those of the overdrawn keys among the selected ones, the least key first, whatever the order in time in
which they were overdrawn.

The depth is the word that is computed for it. In a trace of fewer than 2⁶³ events it is the balance
(`Report.overdrawn_iff`).
-/

namespace QueueDepth

namespace Depth

variable {key : Key} {events : List Event}

/-- A depth below zero is reached where the queue stirs. -/
theorem exists_stirred_of_level_neg {instant : Nat} (below : level key events instant < 0) :
    ∃ moment ∈ stirred key events, level key events moment < 0 := by
  induction instant with
  | zero =>
    by_cases stirs : Stirs key events 0
    · exact ⟨0, mem_stirred.mpr stirs, below⟩
    · obtain ⟨came, went⟩ := not_not.mp stirs
      rw [level, movedBy_zero, movedBy_zero, came, went] at below
      exact absurd below (by decide)
  | succ before ih =>
    by_cases stirs : Stirs key events (before + 1)
    · exact ⟨before + 1, mem_stirred.mpr stirs, below⟩
    · obtain ⟨came, went⟩ := not_not.mp stirs
      rw [level, movedBy_succ, movedBy_succ, UInt64.ofNat_add, UInt64.ofNat_add, came, went,
        UInt64.add_zero, UInt64.add_zero] at below
      exact ih below

/-- A key has a violation exactly if its depth is below zero at the end of some instant. -/
theorem exists_outcome_eq_error_iff (sorted : InOrder events) :
    (∃ violation, outcome key events = .error violation) ↔
      ∃ instant, level key events instant < 0 := by
  rw [outcome_eq_curve sorted]
  constructor
  · rintro ⟨violation, failed⟩
    obtain ⟨_, instant, _, _, _, below, _⟩ := curve_eq_error_iff.mp failed
    exact ⟨instant, below⟩
  · rintro ⟨instant, below⟩
    obtain ⟨moment, stirs, neg⟩ := exists_stirred_of_level_neg below
    cases drawn : curve key events (stirred key events) with
    | error violation => exact ⟨violation, rfl⟩
    | ok series => exact absurd neg ((curve_eq_ok_iff.mp drawn).1 moment stirs)

end Depth

namespace Report

variable {trace : Trace} {selection : Selection} {key : Key} {stop : Nat}

/-- The depth of a key is below zero at the end of some instant. -/
def Overdrawn (trace : Trace) (key : Key) : Prop :=
  ∃ instant, Depth.level key (trace.events.filter fun event => event.scope = key) instant < 0

/-- The word for the depth is below zero exactly where the balance is, as long as no total wraps. -/
theorem overdrawn_iff (small : trace.size < 2 ^ 63) :
    Overdrawn trace key ↔ ∃ instant, balanceOf trace.events key instant < 0 := by
  have few : (trace.events.filter fun event => event.scope = key).length < 2 ^ 63 :=
    (List.length_filter_le _ _).trans_lt small
  exact exists_congr fun instant => Depth.level_neg_iff few

theorem overdrawn_iff_outcome :
    Overdrawn trace key ↔ ∃ violation, outcomeOf trace key = .error violation := by
  rw [outcomeOf, Depth.exists_outcome_eq_error_iff (inOrder_traffic trace key)]
  apply exists_congr
  intro instant
  rw [Depth.level, Depth.level, movedBy_traffic, movedBy_traffic]

theorem mem_violations_iff_outcome {violation : Depth.Violation} :
    violation ∈ (made trace selection stop).violations ↔
      selection.Covers trace.events violation.key ∧
        outcomeOf trace violation.key = .error violation := by
  rw [mem_violations_made_iff, Selection.mem_keys_iff, violationFor_eq_some_iff]

/-- A report is clean exactly if no selected key is overdrawn. -/
theorem isClean_made_iff :
    (made trace selection stop).isClean = true ↔
      ∀ key, selection.Covers trace.events key → ¬ Overdrawn trace key := by
  rw [isClean, List.isEmpty_iff, List.eq_nil_iff_forall_not_mem]
  constructor
  · intro none key covered overdrawn
    obtain ⟨violation, failed⟩ := overdrawn_iff_outcome.mp overdrawn
    have bears : violation.key = key := key_of_violationFor (violationFor_eq_some_iff.mpr failed)
    rw [← bears] at covered failed
    exact none violation (mem_violations_iff_outcome.mpr ⟨covered, failed⟩)
  · intro sound violation member
    obtain ⟨covered, failed⟩ := mem_violations_iff_outcome.mp member
    exact sound violation.key covered (overdrawn_iff_outcome.mpr ⟨violation, failed⟩)

/-- The first violation of a report is that of the least overdrawn key. -/
theorem first_violation_made {violation : Depth.Violation} {more : List Depth.Violation}
    (split : (made trace selection stop).violations = violation :: more) :
    selection.Covers trace.events violation.key ∧
      outcomeOf trace violation.key = .error violation ∧
      ∀ key, selection.Covers trace.events key → Overdrawn trace key →
        key = violation.key ∨ compare violation.key key = .lt := by
  have listed : violation ∈ (made trace selection stop).violations := by simp [split]
  obtain ⟨covered, failed⟩ := mem_violations_iff_outcome.mp listed
  refine ⟨covered, failed, ?_⟩
  intro key asked overdrawn
  obtain ⟨other, wrong⟩ := overdrawn_iff_outcome.mp overdrawn
  have bears : other.key = key := key_of_violationFor (violationFor_eq_some_iff.mpr wrong)
  rw [← bears] at asked wrong ⊢
  have member : other ∈ (made trace selection stop).violations :=
    mem_violations_iff_outcome.mpr ⟨asked, wrong⟩
  have order : Ascending ((made trace selection stop).violations.map Depth.Violation.key) :=
    ascending_map_key_violations
  rw [split] at member order
  rcases List.mem_cons.mp member with rfl | later
  · exact .inl rfl
  · exact .inr ((List.pairwise_cons.mp order).1 other.key (List.mem_map_of_mem later))

end Report

end QueueDepth
