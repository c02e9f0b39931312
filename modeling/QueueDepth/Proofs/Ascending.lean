import Mathlib.Data.List.Sort
import QueueDepth.Ascending

/-!
# Ascending lists as finite sets

`ascending` keeps the items of a list and puts them in strict order, and a strictly ascending list is
determined by its items. So every list with the same items is brought to the same form, whatever the
order and the repetitions in it.
-/

namespace QueueDepth

/-- Of two items one is not behind the other. -/
theorem isLE_total {α : Type} (order : α → α → Ordering) [Std.OrientedCmp order] (a b : α) :
    ((order a b).isLE || (order b a).isLE) = true := by
  rw [Bool.or_eq_true]
  cases compared : order a b with
  | lt => exact .inl rfl
  | eq => exact .inl rfl
  | gt =>
    refine .inr ?_
    rw [Std.OrientedCmp.gt_iff_lt.mp compared]
    rfl

/-- Sorting by an order leaves no item in front of one that is strictly before it. -/
theorem pairwise_mergeSort_isLE {α : Type} (order : α → α → Ordering) [Std.TransCmp order]
    (items : List α) :
    (items.mergeSort fun a b => (order a b).isLE).Pairwise fun a b => (order a b).isLE = true :=
  List.pairwise_mergeSort (fun _ _ _ => Std.TransCmp.isLE_trans) (isLE_total order) items

section Ascending

variable {α : Type} [Ord α]

/-- Every item lies strictly before all that follow it. -/
abbrev Ascending (items : List α) : Prop :=
  items.Pairwise fun a b => compare a b = .lt

theorem Ascending.nodup [Std.TransOrd α] {items : List α} (sorted : Ascending items) :
    items.Nodup := by
  apply sorted.imp
  intro a b before same
  rw [same, Std.ReflOrd.compare_self] at before
  cases before

/-- Two strictly ascending lists of the same items are one list. -/
theorem Ascending.eq_of_mem_iff [Std.TransOrd α] [Std.LawfulEqOrd α] {items others : List α}
    (left : Ascending items) (right : Ascending others)
    (same : ∀ a, a ∈ items ↔ a ∈ others) : items = others := by
  have hperm : items.Perm others :=
    (List.perm_ext_iff_of_nodup left.nodup right.nodup).mpr same
  refine hperm.eq_of_pairwise ?_ left right
  intro a b _ _ before after
  exact absurd after (Std.OrientedCmp.not_lt_of_lt before)

/-! ## Repetitions -/

variable [DecidableEq α]

omit [Ord α] in
theorem mem_dropRepeats {a : α} {items : List α} : a ∈ dropRepeats items ↔ a ∈ items := by
  induction items using dropRepeats.induct with
  | case1 => rfl
  | case2 => rfl
  | case3 b rest ih => simp [dropRepeats, ih]
  | case4 b c rest different ih => simp [dropRepeats, different, ih]

/-- In a list in order, equal items stand together; without repetitions the order is strict. -/
theorem ascending_dropRepeats [Std.TransOrd α] [Std.LawfulEqOrd α] {items : List α}
    (sorted : items.Pairwise fun a b => (compare a b).isLE = true) :
    Ascending (dropRepeats items) := by
  induction items using dropRepeats.induct with
  | case1 => exact .nil
  | case2 a => exact List.pairwise_singleton _ a
  | case3 b rest ih =>
    rw [dropRepeats, if_pos rfl]
    exact ih sorted.of_cons
  | case4 a b rest different ih =>
    rw [dropRepeats, if_neg different]
    refine List.Pairwise.cons ?_ (ih sorted.of_cons)
    intro c member
    rw [mem_dropRepeats] at member
    obtain ⟨first, later⟩ := List.pairwise_cons.mp sorted
    have hab : compare a b = .lt := by
      have hle := first b (by simp)
      cases hcompare : compare a b with
      | lt => rfl
      | eq => exact absurd (Std.LawfulEqOrd.eq_of_compare hcompare) different
      | gt => rw [hcompare] at hle; cases hle
    rcases List.mem_cons.mp member with rfl | tail
    · exact hab
    · exact Std.TransCmp.lt_of_lt_of_isLE hab ((List.pairwise_cons.mp later).1 c tail)

/-! ## The normal form -/

theorem mem_ascending {a : α} {items : List α} : a ∈ ascending items ↔ a ∈ items := by
  rw [ascending, mem_dropRepeats, List.mem_mergeSort]

theorem ascending_ascending [Std.TransOrd α] [Std.LawfulEqOrd α] (items : List α) :
    Ascending (ascending items) :=
  ascending_dropRepeats (pairwise_mergeSort_isLE compare items)

end Ascending

theorem ascending_iff_lt {items : List Nat} : Ascending items ↔ items.Pairwise (· < ·) := by
  simp only [Ascending, Nat.compare_eq_lt]

end QueueDepth
