import Mathlib.Algebra.Order.BigOperators.Group.Finset
import Mathlib.Data.List.Lex
import QueueDepth.Proofs.Calendar.Gregorian
import QueueDepth.Proofs.Text.Within

/-!
# What the text of an instant says

The numbers in the text of an instant are the fields of a date and a time of the day, and it is that many
milliseconds since 1970 began (`wallClock_denotes`). So no two instants have the same text as long as they
have one, and comparing the fields, from the year down, is comparing the instants.

* `DateTime.elapsed_lt_iff`: the order of dates and times.
* `numbers_text`: the numbers in a text.
-/

namespace QueueDepth

/-! ## Numbers in a text -/

namespace Text

/-- The numbers in a text, each a longest run of digits. The text may go on with digits of a number whose
value so far is `value`. -/
def numbersFrom (value : Option Nat) : List Char → List Nat
  | [] => value.toList
  | c :: rest =>
    if c.isDigit then numbersFrom (some (10 * value.getD 0 + (c.toNat - '0'.toNat))) rest
    else value.toList ++ numbersFrom none rest

/-- The numbers in a text, in order. -/
def numbers (text : String) : List Nat :=
  numbersFrom none text.toList

theorem numbersFrom_digits {digits : List Char} (decimal : ∀ c ∈ digits, c.isDigit = true)
    (value : Nat) (rest : List Char) :
    numbersFrom (some value) (digits ++ rest) =
      numbersFrom (some (Nat.ofDigitChars 10 digits value)) rest := by
  induction digits generalizing value with
  | nil => rfl
  | cons c digits ih =>
    obtain ⟨digit, decimal⟩ := List.forall_mem_cons.mp decimal
    rw [List.cons_append, numbersFrom, if_pos digit, ih decimal, Nat.ofDigitChars_cons]
    rfl

/-- Digits of which there are some begin a number. -/
theorem numbersFrom_numeral {digits : List Char} (decimal : ∀ c ∈ digits, c.isDigit = true)
    (some : digits ≠ []) (rest : List Char) :
    numbersFrom none (digits ++ rest) =
      numbersFrom (Option.some (Nat.ofDigitChars 10 digits 0)) rest := by
  rw [← numbersFrom_digits decimal]
  cases digits with
  | nil => exact absurd rfl some
  | cons c digits =>
    have digit := decimal c List.mem_cons_self
    rw [List.cons_append, numbersFrom, numbersFrom, if_pos digit, if_pos digit]
    rfl

/-- Wording without digits is passed over, and ends the number before it. -/
theorem numbersFrom_word {word : String} (plain : Within (fun c => !c.isDigit) word) (some : word ≠ "")
    (value : Option Nat) (rest : List Char) :
    numbersFrom value (word.toList ++ rest) = value.toList ++ numbersFrom none rest := by
  have passed (chars : List Char) (plain : ∀ c ∈ chars, (!c.isDigit) = true) :
      numbersFrom none (chars ++ rest) = numbersFrom none rest := by
    induction chars with
    | nil => rfl
    | cons c more ih =>
      obtain ⟨mark, plain⟩ := List.forall_mem_cons.mp plain
      rw [Bool.not_eq_true'] at mark
      rw [List.cons_append, numbersFrom, mark, ← ih plain]
      rfl
  unfold Within at plain
  cases chars : word.toList with
  | nil => exact absurd (String.toList_eq_nil_iff.mp chars) some
  | cons c more =>
    rw [chars] at plain
    obtain ⟨mark, plain⟩ := List.forall_mem_cons.mp plain
    rw [Bool.not_eq_true'] at mark
    rw [List.cons_append, numbersFrom, mark, passed more plain]
    rfl

end Text

namespace Calendar

open Text (numbers numbersFrom numbersFrom_word)

theorem numbersFrom_padded (width value : Nat) (rest : List Char) :
    numbersFrom none ((padded width value).toList ++ rest) = numbersFrom (some value) rest := by
  have digits : (padded width value).toList =
      List.replicate (width - value.repr.length) '0' ++ Nat.toDigits 10 value := by
    rw [padded, String.toList_append, String.toList_ofList, Nat.toList_repr]
  have decimal : ∀ c ∈ (padded width value).toList, c.isDigit = true := by
    rw [digits, List.forall_mem_append]
    refine ⟨?_, fun _ => Number.isDigit_of_mem_decimal⟩
    intro c member
    rw [List.eq_of_mem_replicate member]
    rfl
  have nonempty : (padded width value).toList ≠ [] := by
    rw [digits]
    exact List.append_ne_nil_of_right_ne_nil _ Nat.toDigits_ne_nil
  have read : Nat.ofDigitChars 10 (padded width value).toList 0 = value := by
    rw [digits, Nat.ofDigitChars_append, Nat.ofDigitChars_replicate_zero, Nat.mul_zero,
      Nat.ofDigitChars_ten_toDigits]
  rw [Text.numbersFrom_numeral decimal nonempty, read]

theorem numbersFrom_yearText (year : Nat) (rest : List Char) :
    numbersFrom none ((yearText year).toList ++ rest) = numbersFrom (some year) rest := by
  unfold yearText
  split
  case isTrue => exact numbersFrom_padded 4 year rest
  case isFalse =>
    have bare : padded 0 year = year.repr := by simp [padded]
    have sign : Text.Within (fun c => !c.isDigit) "+" := by decide
    have read := numbersFrom_padded 0 year rest
    rw [bare] at read
    rw [String.toList_append, ← read, List.append_assoc]
    exact numbersFrom_word sign (by decide) none _

namespace DateTime

/-- The fields of a date and a time, from the year down. -/
def fields (time : DateTime) : List Nat :=
  [time.year, time.month, time.day, time.hour, time.minute, time.second, time.millisecond]

theorem fields_injective : Function.Injective fields := by
  intro a b same
  cases a
  cases b
  simpa [fields] using same

theorem numbers_text (time : DateTime) : numbers time.text = time.fields := by
  have whole : numbers time.text = numbersFrom none (time.text.toList ++ []) := by
    rw [List.append_nil, numbers]
  rw [whole]
  simp (disch := decide) only [text, String.toList_append, List.append_assoc, numbersFrom_yearText,
    numbersFrom_padded, numbersFrom_word]
  rfl

/-! ## Order -/

/-- A sum over the units before a later one is greater, whatever is over of the earlier unit. -/
theorem sum_add_lt (size : Nat → Nat) {start a b r : Nat} (s : Nat) (begun : start ≤ a) (before : a < b)
    (inside : r < size a) :
    ∑ unit ∈ Finset.Ico start a, size unit + r < ∑ unit ∈ Finset.Ico start b, size unit + s := by
  have whole : ∑ unit ∈ Finset.Ico start (a + 1), size unit ≤ ∑ unit ∈ Finset.Ico start b, size unit :=
    Finset.sum_le_sum_of_subset (Finset.Ico_subset_Ico_right before)
  rw [Finset.sum_Ico_succ_top begun] at whole
  omega

theorem sum_daysOfMonth_eq (year : Nat) :
    ∑ month ∈ Finset.Ico 1 13, daysOfMonth year month = daysOfYear year := by
  have autumn : ∑ month ∈ Finset.Ico 1 12, daysOfMonth year month =
      31 + daysOfMonth year 2 + daysBeforeMonth 9 := sum_daysOfMonth year (by decide)
  have february := daysOfMonth_february year
  have start : daysBeforeMonth 9 = 275 := rfl
  have december : daysOfMonth year 12 = 31 := rfl
  rw [Finset.sum_Ico_succ_top (by decide)]
  omega

variable {a b : DateTime}

theorem Valid.dayOfYear_lt (valid : a.Valid) : a.dayOfYear < daysOfYear a.year := by
  have inMonth : a.day - 1 < daysOfMonth a.year a.month := by
    have day := valid.day
    omega
  have inYear := sum_add_lt (daysOfMonth a.year) 0 valid.month.1 (Nat.lt_succ_of_le valid.month.2) inMonth
  rwa [Nat.add_zero, sum_daysOfMonth_eq] at inYear

theorem Valid.millisOfDay_lt (valid : a.Valid) : a.millisOfDay < millisPerDay := by
  have hour := valid.hour
  have minute := valid.minute
  have second := valid.second
  have millisecond := valid.millisecond
  unfold millisOfDay millisPerDay
  omega

/-- The day decides, and on the same day the time. -/
theorem elapsed_lt_of_daysSince1970_lt (valid : a.Valid) (before : a.daysSince1970 < b.daysSince1970) :
    a.elapsed < b.elapsed := by
  have inDay := valid.millisOfDay_lt
  have days := Nat.mul_le_mul_right millisPerDay before
  rw [Nat.succ_mul] at days
  unfold elapsed
  omega

/-- Within a day, a later field counts for less than one unit of an earlier one. -/
theorem elapsed_lt_of_sameDay (ha : a.Valid) (sameDay : a.daysSince1970 = b.daysSince1970)
    (less : [a.hour, a.minute, a.second, a.millisecond] < [b.hour, b.minute, b.second, b.millisecond]) :
    a.elapsed < b.elapsed := by
  have minutes := ha.minute
  have seconds := ha.second
  have millis := ha.millisecond
  have earlier : a.millisOfDay < b.millisOfDay := by
    simp only [List.cons_lt_cons_iff, List.lt_irrefl, and_false, or_false] at less
    unfold millisOfDay
    omega
  rw [elapsed, elapsed, sameDay]
  omega

theorem elapsed_lt_of_fields_lt (ha : a.Valid) (less : a.fields < b.fields) :
    a.elapsed < b.elapsed := by
  unfold fields at less
  obtain year | ⟨year, less⟩ := List.cons_lt_cons_iff.mp less
  · exact elapsed_lt_of_daysSince1970_lt ha
      (sum_add_lt daysOfYear b.dayOfYear ha.year year ha.dayOfYear_lt)
  have lengths : daysOfMonth a.year = daysOfMonth b.year := by rw [year]
  have ofYear (before : a.dayOfYear < b.dayOfYear) : a.elapsed < b.elapsed := by
    refine elapsed_lt_of_daysSince1970_lt ha ?_
    rw [daysSince1970, daysSince1970, year]
    omega
  obtain month | ⟨month, less⟩ := List.cons_lt_cons_iff.mp less
  · refine ofYear ?_
    have inMonth : a.day - 1 < daysOfMonth b.year a.month := by
      have day := ha.day
      rw [lengths] at day
      omega
    rw [dayOfYear, dayOfYear, lengths]
    exact sum_add_lt _ _ ha.month.1 month inMonth
  obtain day | ⟨day, less⟩ := List.cons_lt_cons_iff.mp less
  · refine ofYear ?_
    have first := ha.day.1
    rw [dayOfYear, dayOfYear, lengths, month]
    omega
  · refine elapsed_lt_of_sameDay ha ?_ less
    rw [daysSince1970, daysSince1970, dayOfYear, dayOfYear, lengths, year, month, day]

/-- Comparing the fields is comparing the instants. -/
theorem elapsed_lt_iff (ha : a.Valid) (hb : b.Valid) : a.elapsed < b.elapsed ↔ a.fields < b.fields := by
  refine ⟨?_, elapsed_lt_of_fields_lt ha⟩
  intro less
  obtain earlier | same | later := lt_trichotomy a.fields b.fields
  · exact earlier
  · rw [fields_injective same] at less
    exact absurd less (Nat.lt_irrefl _)
  · exact absurd less (Nat.lt_asymm (elapsed_lt_of_fields_lt hb later))

end DateTime

/-! ## Texts of instants -/

open DateTime

theorem elapsed_newYear {year : Nat} (late : 1969 ≤ year) :
    elapsed ⟨year + 1, 1, 1, 0, 0, 0, 0⟩ =
      (daysBeforeMarch year + 306 - daysBefore1970) * millisPerDay := by
  have years := sum_daysOfYear late
  have days : daysSince1970 ⟨year + 1, 1, 1, 0, 0, 0, 0⟩ =
      daysBeforeMarch year + 306 - daysBefore1970 := by
    unfold daysSince1970 dayOfYear
    rw [Finset.Ico_self, Finset.sum_empty]
    dsimp only
    omega
  have time : millisOfDay ⟨year + 1, 1, 1, 0, 0, 0, 0⟩ = 0 := by simp [millisOfDay]
  rw [elapsed, days, time, Nat.add_zero]

/-- The calendar ends with the year 262142. -/
theorem elapsed_endOfCalendar : elapsed ⟨262143, 1, 1, 0, 0, 0, 0⟩ = endOfCalendar := by
  have late : 1969 ≤ 262142 := by decide
  have days : daysBeforeMarch 262142 + 306 - daysBefore1970 = 95026237 := rfl
  have start := elapsed_newYear late
  rw [days] at start
  exact start

theorem wallClock_of_lt {millis : Nat} (early : millis < endOfCalendar) :
    wallClock millis = (ofMillis millis).text := by
  rw [wallClock, if_pos early]

theorem wallClock_eq_iff {millis : Nat} : wallClock millis = "out of range" ↔ endOfCalendar ≤ millis := by
  constructor
  · intro text
    by_contra early
    rw [wallClock_of_lt (Nat.lt_of_not_le early)] at text
    -- The wording holds no numbers.
    have read := numbers_text (ofMillis millis)
    rw [text] at read
    cases read
  · intro late
    rw [wallClock, if_neg (Nat.not_lt_of_le late)]

/-- An instant is out of range or its text is that of a date of the calendar and a time of the day, the
numbers in it are their fields, and it is the instant that many milliseconds after 1970 began. Out of range
is whatever lies behind the year 262142. Elsewhere, different instants have different texts, and the numbers
in the texts are in the order of the instants. -/
theorem wallClock_denotes :
    (∀ millis, wallClock millis = "out of range" ∨
      ∃ time : DateTime, time.Valid ∧ time.elapsed = millis ∧ wallClock millis = time.text ∧
        numbers (wallClock millis) = time.fields) ∧
    (∀ millis, wallClock millis = "out of range" ↔
      DateTime.elapsed ⟨262143, 1, 1, 0, 0, 0, 0⟩ ≤ millis) ∧
    (∀ a b, wallClock a ≠ "out of range" → wallClock b ≠ "out of range" →
      (wallClock a = wallClock b → a = b) ∧
      (a < b ↔ numbers (wallClock a) < numbers (wallClock b))) ∧
    (∀ a b, a ≤ b → wallClock a = "out of range" → wallClock b = "out of range") ∧
    ∀ millis, 2 ^ 63 ≤ millis → wallClock millis = "out of range" := by
  have read {millis : Nat} (inside : wallClock millis ≠ "out of range") :
      wallClock millis = (ofMillis millis).text ∧
        numbers (wallClock millis) = (ofMillis millis).fields := by
    have text := wallClock_of_lt (Nat.lt_of_not_le (mt wallClock_eq_iff.mpr inside))
    exact ⟨text, by rw [text, numbers_text]⟩
  refine ⟨?_, ?_, ?_, ?_, ?_⟩
  · intro millis
    by_cases outside : wallClock millis = "out of range"
    · exact .inl outside
    · exact .inr ⟨ofMillis millis, valid_ofMillis millis, elapsed_ofMillis millis, read outside⟩
  · intro millis
    rw [elapsed_endOfCalendar, wallClock_eq_iff]
  · intro a b insideA insideB
    constructor
    · intro same
      have fields : (ofMillis a).fields = (ofMillis b).fields := by
        rw [← (read insideA).2, ← (read insideB).2, same]
      rw [← elapsed_ofMillis a, ← elapsed_ofMillis b, fields_injective fields]
    · rw [(read insideA).2, (read insideB).2, ← elapsed_lt_iff (valid_ofMillis a) (valid_ofMillis b),
        elapsed_ofMillis, elapsed_ofMillis]
  · intro a b later outside
    exact wallClock_eq_iff.mpr (Nat.le_trans (wallClock_eq_iff.mp outside) later)
  · intro millis large
    have limit : endOfCalendar ≤ 2 ^ 63 := by decide
    exact wallClock_eq_iff.mpr (Nat.le_trans limit large)

theorem wallClock_of_leapDay :
    wallClock 951827696789 = "2000-02-29 12:34:56.789 UTC" ∧
      wallClock 253402300800000 = "+10000-01-01 00:00:00.000 UTC" ∧
      (951827696789 < 253402300800000 ↔
        numbers "2000-02-29 12:34:56.789 UTC" < numbers "+10000-01-01 00:00:00.000 UTC") := by
  have early : wallClock 951827696789 = "2000-02-29 12:34:56.789 UTC" := by decide +kernel
  have late : wallClock 253402300800000 = "+10000-01-01 00:00:00.000 UTC" := by decide +kernel
  obtain ⟨_, _, apart, _, _⟩ := wallClock_denotes
  obtain ⟨_, order⟩ := apart 951827696789 253402300800000 (by rw [early]; decide) (by rw [late]; decide)
  rw [early, late] at order
  exact ⟨early, late, order⟩

end Calendar

end QueueDepth
