import Mathlib.Data.List.Basic
import Mathlib.Data.List.Nodup
import Mathlib.Data.List.Pairwise

/-!
# Arranged lists

Two ways of arranging a list: sorting it by a number, and gathering it by labels, one label after the
other. Both keep the order of items that they do not tell apart.

* `filter_mergeSort`: what sorting leaves alone.
* `pairwise_mergeSort_by`, `filter_mergeSort_by`: a list sorted by a number.
* `perm_gathered`, `filter_gathered`: a list gathered by labels.
* `filter_flatMap_part`: a list of parts with a label each.
-/

namespace QueueDepth

/-! ## Sorted -/

/-- A stable sort leaves alone what it may put in any order. -/
theorem filter_mergeSort {α : Type} {le : α → α → Bool}
    (trans : ∀ a b c, le a b = true → le b c = true → le a c = true)
    (total : ∀ a b, (le a b || le b a) = true) {keep : α → Bool}
    (level : ∀ a b, keep a = true → keep b = true → le a b = true) (items : List α) :
    (items.mergeSort le).filter keep = items.filter keep := by
  have inOrder : (items.filter keep).Pairwise fun a b => le a b = true := by
    apply List.pairwise_of_forall_mem_list
    intro a first b second
    exact level a b (List.mem_filter.mp first).2 (List.mem_filter.mp second).2
  have kept := (List.sublist_mergeSort trans total inOrder List.filter_sublist).filter keep
  rw [List.filter_filter] at kept
  simp only [Bool.and_self] at kept
  exact (kept.eq_of_length ((List.mergeSort_perm items _).filter _).length_eq.symm).symm

/-! ## Sorted by a number -/

section Sorted

variable {α : Type} {number : α → Nat} {items : List α}

theorem decide_le_trans (a b c : α) (first : decide (number a ≤ number b) = true)
    (second : decide (number b ≤ number c) = true) : decide (number a ≤ number c) = true :=
  decide_eq_true (Nat.le_trans (of_decide_eq_true first) (of_decide_eq_true second))

theorem decide_le_total (a b : α) :
    (decide (number a ≤ number b) || decide (number b ≤ number a)) = true := by
  rw [Bool.or_eq_true, decide_eq_true_eq, decide_eq_true_eq]
  exact Nat.le_total _ _

theorem pairwise_le_mergeSort_by :
    (items.mergeSort fun a b => number a ≤ number b).Pairwise fun a b => number a ≤ number b :=
  (List.pairwise_mergeSort decide_le_trans decide_le_total items).imp of_decide_eq_true

/-- Items of one number keep their order. -/
theorem filter_mergeSort_by (items : List α) (n : Nat) :
    (items.mergeSort fun a b => number a ≤ number b).filter (fun a => number a = n) =
      items.filter fun a => number a = n := by
  apply filter_mergeSort decide_le_trans decide_le_total
  intro a b first second
  rw [decide_eq_true_eq] at first second ⊢
  exact Nat.le_of_eq (first.trans second.symm)

/-- Sorting puts a number in front of the order that there was. -/
theorem pairwise_mergeSort_by {order : α → α → Prop} (ordered : items.Pairwise order) :
    (items.mergeSort fun a b => number a ≤ number b).Pairwise fun a b =>
      number a < number b ∨ number a = number b ∧ order a b := by
  rw [List.pairwise_iff_forall_sublist]
  intro a b inside
  have notAfter := List.pairwise_iff_forall_sublist.mp pairwise_le_mergeSort_by inside
  rcases Nat.lt_or_eq_of_le notAfter with before | same
  · exact .inl before
  · -- both lie in one class, and that stands in the sorted list as it did before
    have kept := inside.filter fun c => number c = number a
    rw [filter_mergeSort_by] at kept
    simp only [same, decide_true, List.filter_cons_of_pos, List.filter_nil] at kept
    exact .inr ⟨same,
      List.pairwise_iff_forall_sublist.mp ordered (kept.trans List.filter_sublist)⟩

end Sorted

/-! ## Gathered by labels -/

section Gathered

variable {α κ : Type} [DecidableEq κ] {label : α → κ}

/-- The items with one label, then those with the next. -/
def gathered (label : α → κ) (labels : List κ) (items : List α) : List α :=
  labels.flatMap fun k => items.filter fun a => label a = k

/-- Gathering by distinct labels loses no item with one of them, and doubles none. -/
theorem perm_gathered {labels : List κ} (distinct : labels.Nodup) (items : List α) :
    (gathered label labels items).Perm (items.filter fun a => label a ∈ labels) := by
  induction labels with
  | nil => simp [gathered]
  | cons k rest ih =>
    obtain ⟨fresh, later⟩ := List.nodup_cons.mp distinct
    have first : (items.filter fun a => label a ∈ k :: rest).filter (fun a => label a = k) =
        items.filter fun a => label a = k := by
      rw [List.filter_filter]
      apply List.filter_congr
      intro a _
      by_cases same : label a = k <;> simp [same]
    have others : (items.filter fun a => label a ∈ k :: rest).filter (fun a => !decide (label a = k)) =
        items.filter fun a => label a ∈ rest := by
      rw [List.filter_filter]
      apply List.filter_congr
      intro a _
      by_cases same : label a = k <;> simp [same, fresh]
    have split := List.filter_append_perm (fun a => decide (label a = k))
      (items.filter fun a => label a ∈ k :: rest)
    rw [first, others] at split
    exact ((ih later).append_left _).trans split

/-- Where every part bears a label of its own, the items with that label are the part. -/
theorem filter_flatMap_part {β : Type} {parts : List β} {part : β → List α} {name : β → κ}
    (bears : ∀ b, ∀ a ∈ part b, label a = name b) (distinct : (parts.map name).Nodup) {b : β}
    (listed : b ∈ parts) : (parts.flatMap part).filter (fun a => label a = name b) = part b := by
  have apart {others : List β} (differ : ∀ other ∈ others, name other ≠ name b) :
      (others.flatMap part).filter (fun a => label a = name b) = [] := by
    rw [List.filter_eq_nil_iff]
    intro a member same
    obtain ⟨other, inside, within⟩ := List.mem_flatMap.mp member
    exact differ other inside ((bears other a within).symm.trans (of_decide_eq_true same))
  have whole : (part b).filter (fun a => label a = name b) = part b := by
    rw [List.filter_eq_self]
    intro a member
    exact decide_eq_true (bears b a member)
  obtain ⟨before, after, split⟩ := List.append_of_mem listed
  rw [split, List.map_append, List.map_cons] at distinct
  obtain ⟨_, later, disjoint⟩ := List.nodup_append.mp distinct
  have ahead : ∀ other ∈ before, name other ≠ name b := by
    intro other member
    exact disjoint _ (List.mem_map_of_mem member) _ List.mem_cons_self
  have behind : ∀ other ∈ after, name other ≠ name b := by
    intro other member same
    exact (List.nodup_cons.mp later).1 (same ▸ List.mem_map_of_mem member)
  rw [split, List.flatMap_append, List.flatMap_cons, List.filter_append, List.filter_append,
    apart ahead, apart behind, whole, List.nil_append, List.append_nil]

/-- The items with one of the labels keep their order. -/
theorem filter_gathered {labels : List κ} (distinct : labels.Nodup) {k : κ} (listed : k ∈ labels)
    (items : List α) :
    (gathered label labels items).filter (fun a => label a = k) =
      items.filter fun a => label a = k := by
  have bears (k : κ) : ∀ a ∈ items.filter (fun a => label a = k), label a = id k := by
    intro a member
    exact of_decide_eq_true (List.mem_filter.mp member).2
  exact filter_flatMap_part bears (by rwa [List.map_id]) listed

end Gathered

end QueueDepth
