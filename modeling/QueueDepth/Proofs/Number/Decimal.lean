import QueueDepth.Number.Unsigned

/-!
# Decimal numbers

Digits are read to the number they stand for, as long as it fits in 64 bits (`readDigits_eq_ok_iff`). With
a plus sign in front or without, they are all that is read (`readUnsigned_eq_ok_iff`). So the shortest
decimal form of such a number is read back (`readUnsigned_toDigits`).
-/

namespace QueueDepth.Number

/-- Further digits never make a number smaller. -/
theorem le_ofDigitChars (digits : List Char) (value : Nat) :
    value ≤ Nat.ofDigitChars 10 digits value := by
  rw [Nat.ofDigitChars_eq_ofDigitChars_zero]
  have positive : 0 < 10 ^ digits.length := Nat.pow_pos (by decide)
  have scaled := Nat.le_mul_of_pos_left value positive
  omega

theorem readDigits_eq_ok {digits : List Char} {value : Nat}
    (decimal : ∀ c ∈ digits, c.isDigit = true)
    (small : Nat.ofDigitChars 10 digits value < unsignedBound) :
    readDigits value digits = .ok (Nat.ofDigitChars 10 digits value) := by
  induction digits generalizing value with
  | nil => simp [readDigits]
  | cons c rest ih =>
    have digit : digit? c = some (c.toNat - '0'.toNat) := by
      unfold digit?
      rw [if_pos (decimal c (by simp))]
    rw [Nat.ofDigitChars_cons, Nat.mul_comm] at small ⊢
    have fits : value * 10 + (c.toNat - '0'.toNat) < unsignedBound :=
      Nat.lt_of_le_of_lt (le_ofDigitChars rest _) small
    simp only [readDigits, digit, if_pos fits]
    exact ih (fun c member => decimal c (by simp [member])) small

/-- Digits are read exactly if they are digits and their number fits. -/
theorem readDigits_eq_ok_iff {digits : List Char} {value n : Nat} (small : value < unsignedBound) :
    readDigits value digits = .ok n ↔
      (∀ c ∈ digits, c.isDigit = true) ∧ Nat.ofDigitChars 10 digits value = n ∧ n < unsignedBound := by
  constructor
  · intro read
    induction digits generalizing value with
    | nil =>
      cases read
      exact ⟨List.forall_mem_nil _, rfl, small⟩
    | cons c rest ih =>
      rw [readDigits] at read
      cases digit : digit? c with
      | none =>
        rw [digit] at read
        cases read
      | some d =>
        simp only [digit] at read
        split at read
        · rename_i fits
          obtain ⟨decimal, number, bounded⟩ := ih fits read
          unfold digit? at digit
          split at digit
          · rename_i isDigit
            cases digit
            rw [Nat.ofDigitChars_cons, Nat.mul_comm]
            exact ⟨List.forall_mem_cons.mpr ⟨isDigit, decimal⟩, number, bounded⟩
          · cases digit
        · cases read
  · rintro ⟨decimal, rfl, bounded⟩
    exact readDigits_eq_ok decimal bounded

theorem isDigit_of_mem_decimal {c : Char} {n : Nat} (member : c ∈ Nat.toDigits 10 n) :
    c.isDigit = true :=
  Nat.isDigit_of_mem_toDigits (by decide) (by decide) member

/-- A text writes a number of 64 bits: digits, at least one of them, after an optional plus sign. -/
def Writes (text : List Char) (n : Nat) : Prop :=
  ∃ digits, (text = digits ∨ text = '+' :: digits) ∧ digits ≠ [] ∧
    (∀ c ∈ digits, c.isDigit = true) ∧ Nat.ofDigitChars 10 digits 0 = n ∧ n < unsignedBound

theorem readUnsigned_eq_ok_iff {text : List Char} {n : Nat} :
    readUnsigned text = .ok n ↔ Writes text n := by
  have decimal (digits : List Char) : readDigits 0 digits = .ok n ↔
      (∀ c ∈ digits, c.isDigit = true) ∧ Nat.ofDigitChars 10 digits 0 = n ∧ n < unsignedBound :=
    readDigits_eq_ok_iff (by decide)
  have unsigned : '+'.isDigit = false := rfl
  unfold readUnsigned
  split
  · simp [Writes]
  · simp [Writes, unsigned]
  · rename_i digits filled
    rw [decimal]
    constructor
    · intro read
      exact ⟨digits, .inr rfl, by rintro rfl; exact filled rfl, read⟩
    · rintro ⟨others, rfl | same, nonempty, read⟩
      · have first := read.1 '+' (by simp)
        rw [unsigned] at first
        cases first
      · cases same
        exact read
  · rename_i nonempty _ noSign
    rw [decimal]
    constructor
    · intro read
      exact ⟨text, .inl rfl, nonempty, read⟩
    · rintro ⟨others, rfl | same, nonempty, read⟩
      · exact read
      · exact absurd same (noSign _)

/-- A number of 64 bits is read back from its decimal form. -/
theorem readUnsigned_toDigits {n : Nat} (small : n < unsignedBound) :
    readUnsigned (Nat.toDigits 10 n) = .ok n :=
  readUnsigned_eq_ok_iff.mpr ⟨Nat.toDigits 10 n, .inl rfl, Nat.toDigits_ne_nil,
    fun _ => isDigit_of_mem_decimal, Nat.ofDigitChars_ten_toDigits, small⟩

end QueueDepth.Number
