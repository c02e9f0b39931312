import QueueDepth.Proofs.Text.Within
import QueueDepth.Text.Quoted

/-!
# Quoted texts hide nothing

Between quotation marks every character is shown: it stands for itself unless it is hidden or joins the
one before it, and then it is written as an escape in plain characters (`Text.shown_quoted`). No control
character is shown as it stands (`Text.not_control_of_isShown`).
-/

namespace QueueDepth.Text

/-- A control character of ASCII, such as a line feed, an escape or a delete character. -/
def IsControl (c : Char) : Prop :=
  c.toNat < 0x20 ∨ c.toNat = 0x7F

/-- Whether a character stands for itself between quotation marks, but for the marks themselves. -/
def isShown (c : Char) : Bool :=
  !(isExtending c || isHidden c)

/-- A text of characters that are shown as they stand. -/
abbrev Shown (text : String) : Prop :=
  Within isShown text

theorem not_control_of_isShown {c : Char} (shown : isShown c = true) : ¬ IsControl c := by
  intro control
  rw [isShown, isHidden_of_control control, Bool.or_true] at shown
  cases shown

/-- No range of code points that are hidden or join others holds a visible character of ASCII. -/
theorem isShown_of_isVisible (c : Char) (visible : isVisible c = true) : isShown c = true := by
  have outside : ∀ range ∈ extendingRanges ++ hiddenRanges, range.2 < 0x20 ∨ 0x7F ≤ range.1 := by
    decide +kernel
  obtain ⟨low, high⟩ : 0x20 ≤ c.toNat ∧ c.toNat < 0x7F := by simpa [isVisible] using visible
  have missed : ∀ range ∈ extendingRanges ++ hiddenRanges,
      ¬ (range.1 ≤ c.toNat && c.toNat ≤ range.2) = true := by
    intro range member inside
    rw [Bool.and_eq_true, decide_eq_true_eq, decide_eq_true_eq] at inside
    have apart := outside range member
    omega
  obtain ⟨extending, hidden⟩ := List.forall_mem_append.mp missed
  rw [isShown, isExtending, isHidden, List.any_eq_false.mpr extending, List.any_eq_false.mpr hidden]
  rfl

theorem Visible.shown {text : String} (visible : Visible text) : Shown text :=
  visible.mono isShown_of_isVisible

theorem isVisible_digitChar (digit : Nat) : isVisible digit.digitChar = true := by
  have hexadecimal : ∀ digit < 16, isVisible digit.digitChar = true := by decide
  by_cases small : digit < 16
  · exact hexadecimal digit small
  · rw [Nat.digitChar_eq_star.mpr (Nat.le_of_not_lt small)]
    rfl

theorem isVisible_of_mem_toDigits {base n : Nat} (some : 1 < base) :
    ∀ c ∈ Nat.toDigits base n, isVisible c = true := by
  induction n using Nat.strongRecOn with
  | ind n ih =>
    rw [Nat.toDigits_eq_if some]
    split
    case isTrue => simp [isVisible_digitChar]
    case isFalse large =>
      have smaller : n / base < n := Nat.div_lt_self (by omega) some
      rw [List.forall_mem_append]
      exact ⟨ih _ smaller, by simp [isVisible_digitChar]⟩

/-- A character is replaced by visible ones, or it is shown as it stands. -/
theorem isShown_of_mem_escaped (c : Char) : ∀ d ∈ escaped c, isShown d = true := by
  have visible {text : List Char} (seen : text.all isVisible = true) : ∀ d ∈ text, isShown d = true :=
    fun d member => isShown_of_isVisible d (List.all_eq_true.mp seen d member)
  unfold escaped
  split
  case h_7 =>
    split
    case isTrue =>
      have digits : (Nat.toDigits 16 c.toNat).all isVisible = true :=
        List.all_eq_true.mpr (isVisible_of_mem_toDigits (by decide))
      refine visible ?_
      rw [List.all_append, List.all_append, digits]
      rfl
    case isFalse plain =>
      rw [List.forall_mem_singleton, isShown, Bool.not_eq_true', ← Bool.not_eq_true]
      exact plain
  all_goals exact visible (by decide)

theorem shown_quoted (text : List Char) : Shown (String.ofList (quoted text)) := by
  have mark : isShown '"' = true := isShown_of_isVisible '"' rfl
  have inside : ∀ d ∈ text.flatMap escaped, isShown d = true :=
    List.forall_mem_flatMap.mpr fun c _ => isShown_of_mem_escaped c
  unfold Shown Within
  rw [String.toList_ofList, quoted, List.cons_append, List.forall_mem_cons, List.forall_mem_append,
    List.forall_mem_singleton]
  exact ⟨mark, inside, mark⟩

end QueueDepth.Text
