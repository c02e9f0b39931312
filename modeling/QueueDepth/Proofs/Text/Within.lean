import QueueDepth.Proofs.Json
import QueueDepth.Text.Padding

/-!
# Classes of characters

A text is within a class of characters if all its characters are. Texts that are put together from others
are within a class exactly if the others are, as far as the class holds the blanks that padding adds.
Numbers are within the visible characters.
-/

namespace QueueDepth.Text

/-- All characters of a text are in a class. -/
def Within (allowed : Char → Bool) (text : String) : Prop :=
  ∀ c ∈ text.toList, allowed c = true

instance (allowed : Char → Bool) (text : String) : Decidable (Within allowed text) :=
  List.decidableBAll (fun c => allowed c = true) text.toList

section Within

variable {allowed : Char → Bool}

theorem Within.mono {wider : Char → Bool} {text : String} (within : Within allowed text)
    (wide : ∀ c, allowed c = true → wider c = true) : Within wider text :=
  fun c member => wide c (within c member)

@[simp]
theorem within_append {a b : String} :
    Within allowed (a ++ b) ↔ Within allowed a ∧ Within allowed b := by
  rw [Within, String.toList_append]
  exact List.forall_mem_append

@[simp]
theorem within_join {texts : List String} :
    Within allowed (String.join texts) ↔ ∀ text ∈ texts, Within allowed text := by
  rw [Within, String.toList_join]
  exact List.forall_mem_flatMap

theorem within_replicate {c : Char} (held : allowed c = true) (n : Nat) :
    Within allowed (String.ofList (List.replicate n c)) := by
  intro d member
  rw [String.toList_ofList] at member
  rw [List.eq_of_mem_replicate member]
  exact held

theorem within_padStart (blank : allowed ' ' = true) {width : Nat} {text : String} :
    Within allowed (padStart width text) ↔ Within allowed text := by
  simp [padStart, within_replicate blank]

theorem within_padEnd (blank : allowed ' ' = true) {width : Nat} {text : String} :
    Within allowed (padEnd width text) ↔ Within allowed text := by
  simp [padEnd, within_replicate blank]

end Within

/-! ## Numbers -/

theorem within_natRepr (n : Nat) : Within Json.isNumeral n.repr :=
  fun _ => Json.isNumeral_of_mem_decimal

theorem within_intRepr (value : Int) : Within Json.isNumeral value.repr :=
  fun _ => Json.isNumeral_of_mem_repr

/-- A number is free of every other character. -/
theorem within_ne_natRepr {d : Char} (other : Json.isNumeral d = false) (n : Nat) :
    Within (· != d) n.repr := by
  intro c member
  rw [bne_iff_ne]
  rintro rfl
  rw [within_natRepr n c member] at other
  cases other

/-! ## Visible characters -/

/-- A blank, or a character of ASCII that is seen. -/
def isVisible (c : Char) : Bool :=
  decide (0x20 ≤ c.toNat) && decide (c.toNat < 0x7F)

/-- A text of visible characters. -/
abbrev Visible (text : String) : Prop :=
  Within isVisible text

/-- A character of a numeral is a digit or a sign. -/
theorem isVisible_of_isNumeral (c : Char) (numeral : Json.isNumeral c = true) :
    isVisible c = true := by
  rcases Bool.or_eq_true _ _ |>.mp numeral with digit | sign
  · have zero : '0'.toNat = 48 := rfl
    have nine : '9'.toNat = 57 := rfl
    have bounds := Char.isDigit_iff_toNat.mp digit
    rw [isVisible, Bool.and_eq_true, decide_eq_true_eq, decide_eq_true_eq]
    omega
  · rw [eq_of_beq sign]
    rfl

@[simp]
theorem visible_natRepr (n : Nat) : Visible n.repr :=
  (within_natRepr n).mono isVisible_of_isNumeral

@[simp]
theorem visible_intRepr (value : Int) : Visible value.repr :=
  (within_intRepr value).mono isVisible_of_isNumeral

@[simp]
theorem visible_padStart {width : Nat} {text : String} :
    Visible (padStart width text) ↔ Visible text :=
  within_padStart rfl

end QueueDepth.Text
