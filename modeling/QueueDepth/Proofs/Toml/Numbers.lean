import QueueDepth.Proofs.Toml.Layout

/-!
# Numbers are read back

A word that a natural number is written as means that number (`valueOfWord?_written`), whatever its base is
and however underscores part its digits. It has no minus sign, so it is no date.
-/

namespace QueueDepth.Toml

/-! ## Digits -/

section Digits

variable {base before total : Nat} {text : List Char}

theorem isAlphanum_of_digitIn? {c : Char} {digit : Nat} (read : digitIn? base c = some digit) :
    c.isAlphanum = true := by
  have lowerCase (letter : c.isLower = true) : c.isAlphanum = true :=
    Bool.or_eq_true_iff.mpr (.inl (Bool.or_eq_true_iff.mpr (.inr letter)))
  have upperCase (letter : c.isUpper = true) : c.isAlphanum = true :=
    Bool.or_eq_true_iff.mpr (.inl (Bool.or_eq_true_iff.mpr (.inl letter)))
  by_cases decimal : c.isDigit = true
  · exact Bool.or_eq_true_iff.mpr (.inr decimal)
  · by_cases lower : 'a' ≤ c ∧ c ≤ 'f'
    · have last : c ≤ 'z' := Char.le_trans lower.2 (by decide)
      exact lowerCase (Bool.and_eq_true_iff.mpr ⟨decide_eq_true lower.1, decide_eq_true last⟩)
    · by_cases upper : 'A' ≤ c ∧ c ≤ 'F'
      · have last : c ≤ 'Z' := Char.le_trans upper.2 (by decide)
        exact upperCase (decide_eq_true ⟨upper.1, last⟩)
      · simp [digitIn?, Text.hexDigit?, decimal, lower, upper] at read

theorem Digits.head (digits : Digits base before total text) :
    ∃ c digit rest, text = c :: rest ∧ digitIn? base c = some digit := by
  cases digits with
  | last read => exact ⟨_, _, _, rfl, read⟩
  | next read _ => exact ⟨_, _, _, rfl, read⟩
  | parted read _ => exact ⟨_, _, _, rfl, read⟩

theorem digitsFrom?_written (digits : Digits base before total text) :
    digitsFrom? base before text = some total := by
  induction digits with
  | last read =>
    rw [digitsFrom?, read]
    rfl
  | @next before digit total c rest read later ih =>
    obtain ⟨d, _, more, rfl, read'⟩ := later.head
    have noBar : d ≠ '_' := by
      rintro rfl
      cases read'
    rw [digitsFrom?, read, ← ih]
    · rfl
    · simp
    · simp [noBar]
  | parted read _ ih =>
    rw [digitsFrom?, read, ← ih]
    rfl

/-- Digits and underscores. -/
theorem Digits.forall_mem (digits : Digits base before total text) :
    ∀ c ∈ text, c.isAlphanum = true ∨ c = '_' := by
  induction digits with
  | last read => simpa using .inl (isAlphanum_of_digitIn? read)
  | next read _ ih => exact List.forall_mem_cons.mpr ⟨.inl (isAlphanum_of_digitIn? read), ih⟩
  | parted read _ ih =>
    exact List.forall_mem_cons.mpr
      ⟨.inl (isAlphanum_of_digitIn? read), List.forall_mem_cons.mpr ⟨.inr rfl, ih⟩⟩

end Digits

/-! ## Words -/

section Numbers

variable {n : Nat} {word rest : List Char}

theorem whole?_written (digits : Digits 10 0 n word) (shortest : Shortest word) :
    whole? word = some n := by
  have value := digitsFrom?_written digits
  unfold whole?
  split
  · cases shortest _ rfl
  · exact value

theorem signed_of_digits (digits : Digits 10 0 n word) : signed word = (false, word) := by
  obtain ⟨c, digit, more, rfl, read⟩ := digits.head
  unfold signed
  split
  · rename_i whole
    rw [(List.cons.inj whole).1] at read
    cases read
  · rename_i whole
    rw [(List.cons.inj whole).1] at read
    cases read
  · rfl

/-- A decimal does not look like a number of another base. -/
theorem integer?_of_digits (digits : Digits 10 0 n word) (shortest : Shortest word) :
    integer? word = some (n : Int) := by
  have value : (whole? word).map (withSign false) = some (n : Int) := by
    rw [whole?_written digits shortest]
    rfl
  unfold integer?
  split
  · cases shortest _ rfl
  · cases shortest _ rfl
  · cases shortest _ rfl
  · rw [signed_of_digits digits]
    exact value

theorem integer?_written (written : WrittenNumber n word) : integer? word = some (n : Int) := by
  cases written with
  | decimal digits shortest => exact integer?_of_digits digits shortest
  | @plus word digits shortest =>
    change (whole? word).map (withSign false) = some (n : Int)
    rw [whole?_written digits shortest]
    rfl
  | hexadecimal digits =>
    rw [integer?, digitsFrom?_written digits]
    rfl
  | octal digits =>
    rw [integer?, digitsFrom?_written digits]
    rfl
  | binary digits =>
    rw [integer?, digitsFrom?_written digits]
    rfl

/-- The characters of a number, of which no minus sign is one. -/
theorem WrittenNumber.forall_mem (written : WrittenNumber n word) :
    ∀ c ∈ word, c.isAlphanum = true ∨ c = '_' ∨ c = '+' := by
  have wide {digits : List Char} (all : ∀ c ∈ digits, c.isAlphanum = true ∨ c = '_') :
      ∀ c ∈ digits, c.isAlphanum = true ∨ c = '_' ∨ c = '+' :=
    fun c member => (all c member).imp_right .inl
  cases written with
  | decimal digits _ => exact wide digits.forall_mem
  | plus digits _ => exact List.forall_mem_cons.mpr ⟨.inr (.inr rfl), wide digits.forall_mem⟩
  | hexadecimal digits =>
    exact List.forall_mem_cons.mpr ⟨.inl rfl, List.forall_mem_cons.mpr ⟨.inl rfl, wide digits.forall_mem⟩⟩
  | octal digits =>
    exact List.forall_mem_cons.mpr ⟨.inl rfl, List.forall_mem_cons.mpr ⟨.inl rfl, wide digits.forall_mem⟩⟩
  | binary digits =>
    exact List.forall_mem_cons.mpr ⟨.inl rfl, List.forall_mem_cons.mpr ⟨.inl rfl, wide digits.forall_mem⟩⟩

theorem WrittenNumber.keepsReturns (written : WrittenNumber n word) : KeepsReturns word := by
  refine .of_notMem fun member => ?_
  rcases written.forall_mem _ member with same | same | same <;> cases same

/-- A number begins with a decimal digit or a plus sign. -/
theorem WrittenNumber.head (written : WrittenNumber n word) :
    ∃ c more, word = c :: more ∧ ((∃ digit, digitIn? 10 c = some digit) ∨ c = '+') := by
  cases written with
  | decimal digits _ =>
    obtain ⟨c, digit, more, rfl, read⟩ := digits.head
    exact ⟨c, more, rfl, .inl ⟨digit, read⟩⟩
  | plus _ _ => exact ⟨_, _, rfl, .inr rfl⟩
  | hexadecimal _ => exact ⟨_, _, rfl, .inl ⟨0, rfl⟩⟩
  | octal _ => exact ⟨_, _, rfl, .inl ⟨0, rfl⟩⟩
  | binary _ => exact ⟨_, _, rfl, .inl ⟨0, rfl⟩⟩

theorem valueOfWord?_written (written : WrittenNumber n word) :
    valueOfWord? word = some (.integer n) := by
  obtain ⟨c, more, rfl, start⟩ := written.head
  have noTrue : c :: more ≠ "true".toList := by
    intro same
    rw [(List.cons.inj same).1] at start
    rcases start with ⟨_, read⟩ | plus
    · cases read
    · cases plus
  have noFalse : c :: more ≠ "false".toList := by
    intro same
    rw [(List.cons.inj same).1] at start
    rcases start with ⟨_, read⟩ | plus
    · cases read
    · cases plus
  rw [valueOfWord?, if_neg noTrue, if_neg noFalse, integer?_written written]

/-- The year of a date ends in a minus sign. -/
theorem date?_eq_none (none : '-' ∉ word) : date? word = .none := by
  unfold date?
  cases year : fixedDigits? 4 word with
  | none => rfl
  | some read =>
    obtain ⟨value, rest⟩ := read
    have suffix : rest = word.drop 4 := by
      simp only [fixedDigits?] at year
      split at year
      · cases year
        rfl
      · cases year
    have absent : expect? (· = '-') rest = .none := by
      cases rest with
      | nil => rfl
      | cons c rest =>
        have other : c ≠ '-' := by
          rintro rfl
          exact none (List.mem_of_mem_drop (suffix ▸ List.mem_cons_self))
        simp [expect?, other]
    simp [absent]

end Numbers

end QueueDepth.Toml
