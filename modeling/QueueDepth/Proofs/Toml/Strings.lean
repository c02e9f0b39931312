import QueueDepth.Proofs.Toml.Layout

/-!
# Strings and keys are read back

A string is read to its content, whichever marks enclose it and however its characters are escaped
(`stringText_written`), and so is a key without dots (`bareOrQuoted_written`). Between double marks the
reader goes from state to state, one step for each character.
-/

namespace QueueDepth.Toml

open Text (hexDigit? charOfCode?)

/-! ## Characters -/

/-- What holds of the first characters of two texts holds of the first of both together. -/
theorem forall_mem_head?_append {p : Char → Prop} {text rest : List Char} (here : ∀ c ∈ text.head?, p c)
    (later : ∀ c ∈ rest.head?, p c) : ∀ c ∈ (text ++ rest).head?, p c := by
  cases text with
  | nil => exact later
  | cons c text => exact here

theorem isBlank_iff {c : Char} : isBlank c = true ↔ c = ' ' ∨ c = '\t' := by
  rw [isBlank, Bool.or_eq_true, decide_eq_true_eq, decide_eq_true_eq]

theorem isLineEnd_iff {c : Char} : isLineEnd c = true ↔ c = '\r' ∨ c = '\n' := by
  rw [isLineEnd, Bool.or_eq_true, decide_eq_true_eq, decide_eq_true_eq]

theorem Blanks.isBlank {blanks : List Char} (only : Blanks blanks) :
    ∀ c ∈ blanks, isBlank c = true :=
  fun c member => isBlank_iff.mpr (only c member)

theorem isLineEnd_of_isVisible {c : Char} (visible : isVisible c = true) : isLineEnd c = false := by
  rw [Bool.eq_false_iff]
  intro ending
  rcases isLineEnd_iff.mp ending with rfl | rfl <;> cases visible

/-! ## Strings -/

section Basic

variable {marks : Marks} {content text rest : List Char}

theorem basicFrom_drop {escape next : Escape} {c : Char} (step : escape.step? marks c = some (.drop next))
    (rest : List Char) : basicFrom marks escape (c :: rest) = basicFrom marks next rest := by
  rw [basicFrom]
  simp only [step]

theorem basicFrom_keep {escape next : Escape} {c kept : Char}
    (step : escape.step? marks c = some (.keep kept next)) (rest : List Char) :
    basicFrom marks escape (c :: rest) = keep kept (basicFrom marks next rest) := by
  rw [basicFrom]
  simp only [step]

/-- The digits of a code point are read to its character. -/
theorem basicFrom_code {digits : List Char} {value code : Nat} {c : Char} (some : digits ≠ [])
    (read : codeFrom? value digits = .some code) (char : charOfCode? code = .some c) :
    basicFrom marks (.code (digits.length - 1) value) (digits ++ rest) =
      keep c (basicFrom marks .free rest) := by
  induction digits generalizing value with
  | nil => exact absurd rfl some
  | cons first digits ih =>
    obtain ⟨digit, hexadecimal, later⟩ := Option.bind_eq_some_iff.mp read
    cases digits with
    | nil =>
      cases later
      have step : (Escape.code 0 value).step? marks first = .some (.keep c .free) := by
        simp [Escape.step?, codeStep?, hexadecimal, char]
      exact basicFrom_keep step rest
    | cons second digits =>
      have step : (Escape.code (digits.length + 1) value).step? marks first =
          .some (.drop (.code digits.length (16 * value + digit))) := by
        simp [Escape.step?, codeStep?, hexadecimal]
      rw [← ih (by simp) later]
      exact basicFrom_drop step _

theorem Fold.forall_mem {space : List Char} (fold : Fold space) :
    ∀ c ∈ space, (isLineEnd c || isBlank c) = true := by
  have blank {blanks : List Char} (only : Blanks blanks) :
      ∀ c ∈ blanks, (isLineEnd c || isBlank c) = true := by
    intro c member
    rw [only.isBlank c member, Bool.or_true]
  induction fold with
  | blanks only => exact blank only
  | line only ends _ ih =>
    refine List.forall_mem_append.mpr ⟨blank only, List.forall_mem_append.mpr ⟨?_, ih⟩⟩
    cases ends <;> simp [isLineEnd]

/-- Behind the end of a line, blanks and further line ends are dropped. -/
theorem basicFrom_fold {space : List Char} (fold : Fold space) (rest : List Char) :
    basicFrom marks .afterLineEnd (space ++ rest) = basicFrom marks .afterLineEnd rest := by
  have only := fold.forall_mem
  clear fold
  induction space with
  | nil => rfl
  | cons c space ih =>
    obtain ⟨here, later⟩ := List.forall_mem_cons.mp only
    have step : Escape.afterLineEnd.step? marks c = some (.drop .afterLineEnd) := by
      simp only [Escape.step?, here, if_true]
    rw [List.cons_append, basicFrom_drop step, ih later]

theorem basicFrom_stop {stop : List Char} (ends : LineEnd stop) (rest : List Char) :
    basicFrom marks .beforeLineEnd (stop ++ rest) = basicFrom marks .afterLineEnd rest := by
  have feed : Escape.beforeLineEnd.step? marks '\n' = some (.drop .afterLineEnd) := rfl
  have feed' : Escape.afterLineEnd.step? marks '\n' = some (.drop .afterLineEnd) := rfl
  have back : Escape.beforeLineEnd.step? marks '\r' = some (.drop .afterLineEnd) := rfl
  cases ends with
  | feed => exact basicFrom_drop feed rest
  | pair =>
    rw [List.cons_append, basicFrom_drop back]
    exact basicFrom_drop feed' rest

theorem basicFrom_beforeLineEnd {blanks stop : List Char} (only : Blanks blanks) (ends : LineEnd stop)
    (rest : List Char) :
    basicFrom marks .beforeLineEnd (blanks ++ (stop ++ rest)) = basicFrom marks .afterLineEnd rest := by
  induction blanks with
  | nil => exact basicFrom_stop ends rest
  | cons c blanks ih =>
    obtain ⟨here, later⟩ := List.forall_mem_cons.mp only
    have step : Escape.beforeLineEnd.step? marks c = some (.drop .beforeLineEnd) := by
      rcases here with rfl | rfl <;> rfl
    rw [List.cons_append, basicFrom_drop step, ih later]

/-- A backslash ends a line, with or without blanks behind it. -/
theorem basicFrom_opened {blanks stop : List Char} (only : Blanks blanks) (ends : LineEnd stop)
    (rest : List Char) :
    basicFrom .three .opened (blanks ++ (stop ++ rest)) = basicFrom .three .afterLineEnd rest := by
  cases blanks with
  | nil =>
    have feed : Escape.opened.step? .three '\n' = some (.drop .afterLineEnd) := rfl
    have feed' : Escape.afterLineEnd.step? .three '\n' = some (.drop .afterLineEnd) := rfl
    have back : Escape.opened.step? .three '\r' = some (.drop .afterLineEnd) := rfl
    cases ends with
    | feed => exact basicFrom_drop feed rest
    | pair =>
      rw [List.nil_append, List.cons_append, basicFrom_drop back]
      exact basicFrom_drop feed' rest
  | cons c blanks =>
    obtain ⟨here, later⟩ := List.forall_mem_cons.mp only
    have step : Escape.opened.step? .three c = some (.drop .beforeLineEnd) := by
      rcases here with rfl | rfl <;> rfl
    rw [List.cons_append, basicFrom_drop step, basicFrom_beforeLineEnd later ends]

theorem basicFrom_afterLineEnd (unspaced : Unspaced text) :
    basicFrom marks .afterLineEnd text = basicFrom marks .free text := by
  cases text with
  | nil => rfl
  | cons c text =>
    obtain ⟨solid, within⟩ := unspaced c rfl
    have step : Escape.afterLineEnd.step? marks c = Escape.free.step? marks c := by
      simp [Escape.step?, solid, within]
    rw [basicFrom, basicFrom, step]

/-- What is written between double marks is read up to the next one. -/
theorem basicFrom_written (basic : WrittenBasic marks content text) (marked : rest.head? = some '"') :
    basicFrom marks .free (text ++ rest) =
      (basicFrom marks .free rest).map fun (more, rest) => (content ++ more, rest) := by
  have kept (c : Char) {content : List Char} :
      keep c ((basicFrom marks .free rest).map fun (more, rest) => (content ++ more, rest)) =
        (basicFrom marks .free rest).map fun (more, rest) => (c :: content ++ more, rest) := by
    simp [keep]
    rfl
  induction basic with
  | nil => simp
  | @plain c content text visible noMark noBackslash _ ih =>
    have step : Escape.free.step? marks c = some (.keep c .free) := by
      simp [Escape.step?, freeStep?, noMark, noBackslash, isKept, visible]
    rw [List.cons_append, basicFrom_keep step, ih, kept]
  | @short escape c content text escaped _ ih =>
    have opened : Escape.free.step? marks '\\' = some (.drop .opened) := rfl
    have noCode : codeLength? escape = none := by
      unfold shortEscape? at escaped
      split at escaped <;> first | rfl | cases escaped
    have step : Escape.opened.step? marks escape = some (.keep c .free) := by
      simp only [Escape.step?, openedStep?, noCode, escaped]
    rw [List.cons_append, basicFrom_drop opened, List.cons_append, basicFrom_keep step, ih, kept]
  | @code letter c digits content text code length read char _ ih =>
    have opened : Escape.free.step? marks '\\' = some (.drop .opened) := rfl
    have step : Escape.opened.step? marks letter = some (.drop (.code (digits.length - 1) 0)) := by
      simp [Escape.step?, openedStep?, length]
    have some : digits ≠ [] := by
      rintro rfl
      unfold codeLength? at length
      split at length <;> cases length
    rw [List.cons_append, basicFrom_drop opened, List.cons_append, basicFrom_drop step,
      List.append_assoc, basicFrom_code some read char, ih, kept]
  | @fold blanks stop space content text three only ends folded unspaced _ ih =>
    have opened : Escape.free.step? marks '\\' = some (.drop .opened) := rfl
    have next : Unspaced (text ++ rest) := by
      refine forall_mem_head?_append unspaced ?_
      intro c head
      rw [marked] at head
      cases head
      exact ⟨rfl, rfl⟩
    simp only [List.cons_append, List.append_assoc]
    rw [basicFrom_drop opened, three, basicFrom_opened only ends, ← three, basicFrom_fold folded,
      basicFrom_afterLineEnd next, ih]

end Basic

theorem literalFrom_append {marks : Marks} {content : List Char}
    (plain : ∀ c ∈ content, isVisible c = true ∧ c ≠ '\'') (rest : List Char) :
    literalFrom marks (content ++ rest) =
      (literalFrom marks rest).map fun (text, rest) => (content ++ text, rest) := by
  induction content with
  | nil => simp
  | cons c content ih =>
    obtain ⟨⟨visible, noMark⟩, later⟩ := List.forall_mem_cons.mp plain
    have kept : isKept marks c = true := by simp [isKept, visible]
    rw [List.cons_append, literalFrom]
    simp only [noMark, if_false, kept, if_true, ih later, keep, Option.map_map]
    rfl

/-- A string on one line is read back, whatever follows. -/
theorem lineText_enclosed {content text : List Char} (written : Enclosed content text)
    (rest : List Char) : lineText (text ++ rest) = some (content, rest) := by
  cases written with
  | @double text basic =>
    have closed : basicFrom .one .free ('"' :: rest) = some ([], rest) := rfl
    have read : basicFrom .one .free (text ++ '"' :: rest) = some (content, rest) := by
      rw [basicFrom_written basic rfl, closed]
      simp
    simpa [lineText] using read
  | single plain =>
    have closed : literalFrom .one ('\'' :: rest) = some ([], rest) := rfl
    simp [lineText, literalFrom_append plain, closed]

/-- Three marks close a string if no further one follows. -/
theorem closing?_three {mark : Char} {rest : List Char} (other : rest.head? ≠ some mark) :
    closing? .three mark (mark :: mark :: mark :: rest) = some ([], rest) := by
  cases rest with
  | nil => simp [closing?]
  | cons c rest =>
    have different : c ≠ mark := fun same => other (congrArg some same)
    simp [closing?, different]

theorem dropLineEnd_append {first text : List Char} (optional : first = [] ∨ LineEnd first)
    (within : ∀ c ∈ text.head?, isLineEnd c = false) : dropLineEnd (first ++ text) = text := by
  rcases optional with rfl | ends
  · cases text with
    | nil => rfl
    | cons c text =>
      have inside : isLineEnd c = false := within c rfl
      rw [List.nil_append]
      unfold dropLineEnd
      split
      · rename_i whole
        rw [(List.cons.inj whole).1] at inside
        cases inside
      · rename_i whole
        rw [(List.cons.inj whole).1] at inside
        cases inside
      · rfl
  · cases ends <;> rfl

/-- Nothing that is written between double marks begins with one, or with a line end. -/
theorem WrittenBasic.head {marks : Marks} {content text : List Char}
    (basic : WrittenBasic marks content text) :
    ∀ c ∈ text.head?, c ≠ '"' ∧ isLineEnd c = false := by
  intro c head
  cases basic with
  | nil => cases head
  | plain visible noMark _ _ =>
    cases head
    exact ⟨noMark, isLineEnd_of_isVisible visible⟩
  | short => cases head; decide
  | code => cases head; decide
  | fold => cases head; decide

theorem Enclosed.head {content text : List Char} (enclosed : Enclosed content text) :
    ∃ c more, text = c :: more ∧ (c = '"' ∨ c = '\'') := by
  cases enclosed with
  | double _ => exact ⟨_, _, rfl, .inl rfl⟩
  | single _ => exact ⟨_, _, rfl, .inr rfl⟩

theorem WrittenString.head {content text : List Char} (string : WrittenString content text) :
    ∃ c more, text = c :: more ∧ (c = '"' ∨ c = '\'') := by
  cases string with
  | line enclosed => exact enclosed.head
  | double _ _ => exact ⟨_, _, rfl, .inl rfl⟩
  | single _ _ => exact ⟨_, _, rfl, .inr rfl⟩

/-- Three marks at the head would be an empty string and a mark behind it. -/
theorem stringText_enclosed {content text rest : List Char} (enclosed : Enclosed content text)
    (noDouble : rest.head? ≠ some '"') (noSingle : rest.head? ≠ some '\'') :
    stringText (text ++ rest) = lineText (text ++ rest) := by
  unfold stringText
  split
  · rename_i whole
    cases enclosed with
    | @double text basic =>
      cases text with
      | nil => simp_all
      | cons c text =>
        have same : c = '"' := (List.cons.inj (List.cons.inj whole).2).1
        exact absurd same (basic.head c rfl).1
    | single plain => simp at whole
  · rename_i whole
    cases enclosed with
    | double basic => simp at whole
    | single plain => cases content <;> simp_all
  · rfl

/-- A string is read back if no quotation mark follows. -/
theorem stringText_written {content text rest : List Char} (written : WrittenString content text)
    (noDouble : rest.head? ≠ some '"') (noSingle : rest.head? ≠ some '\'') :
    stringText (text ++ rest) = some (content, rest) := by
  cases written with
  | line enclosed => rw [stringText_enclosed enclosed noDouble noSingle, lineText_enclosed enclosed]
  | @double first text optional basic =>
    have within : ∀ c ∈ (text ++ '"' :: '"' :: '"' :: rest).head?, isLineEnd c = false := by
      refine forall_mem_head?_append (fun c head => (basic.head c head).2) ?_
      intro c head
      cases head
      rfl
    have closed : basicFrom .three .free ('"' :: '"' :: '"' :: rest) = some ([], rest) := by
      have marks : Escape.free.step? .three '"' = some .mark := rfl
      rw [basicFrom]
      simp only [marks, closing?_three noDouble]
    have read : basicFrom .three .free (dropLineEnd (first ++ (text ++ '"' :: '"' :: '"' :: rest))) =
        some (content, rest) := by
      rw [dropLineEnd_append optional within, basicFrom_written basic rfl, closed]
      simp
    simpa [stringText] using read
  | @single first optional plain =>
    have within : ∀ c ∈ (content ++ '\'' :: '\'' :: '\'' :: rest).head?, isLineEnd c = false := by
      refine forall_mem_head?_append ?_ ?_
      · exact fun c head => isLineEnd_of_isVisible (plain c (List.mem_of_mem_head? head)).1
      · intro c head
        cases head
        rfl
    have closed : literalFrom .three ('\'' :: '\'' :: '\'' :: rest) = some ([], rest) := by
      rw [literalFrom]
      simp only [if_true, closing?_three noSingle]
    have read : literalFrom .three (dropLineEnd (first ++ (content ++ '\'' :: '\'' :: '\'' :: rest))) =
        some (content, rest) := by
      rw [dropLineEnd_append optional within, literalFrom_append plain, closed]
      simp
    simpa [stringText] using read

/-! ## Keys -/

/-- Characters of a class are cut off up to the first other one. -/
theorem span_append {p : Char → Bool} {word rest : List Char} (within : ∀ c ∈ word, p c = true)
    (other : ∀ c ∈ rest.head?, p c = false) :
    (word ++ rest).takeWhile p = word ∧ (word ++ rest).dropWhile p = rest := by
  rw [List.takeWhile_append_of_pos within, List.dropWhile_append_of_pos within]
  cases rest with
  | nil => simp
  | cons c rest => simp [other c rfl]

theorem bareOrQuoted_of_bare {c : Char} (bare : isBareChar c = true) (text : List Char) :
    bareOrQuoted (c :: text) =
      some ((c :: text).takeWhile isBareChar, (c :: text).dropWhile isBareChar) := by
  unfold bareOrQuoted
  split
  · rename_i whole
    rw [(List.cons.inj whole).1] at bare
    cases bare
  · rename_i whole
    rw [(List.cons.inj whole).1] at bare
    cases bare
  · rw [List.takeWhile_cons_of_pos bare]

theorem bareOrQuoted_written {name text rest : List Char} (written : WrittenKey name text)
    (other : ∀ c ∈ rest.head?, isBareChar c = false) :
    bareOrQuoted (text ++ rest) = some (name, rest) := by
  cases written with
  | bare some bare =>
    obtain ⟨taken, dropped⟩ := span_append bare other
    obtain ⟨c, more, rfl⟩ := List.exists_cons_of_ne_nil some
    rw [List.cons_append, bareOrQuoted_of_bare (bare c List.mem_cons_self), ← List.cons_append, taken,
      dropped]
  | enclosed enclosed =>
    rw [← lineText_enclosed enclosed rest]
    cases enclosed <;> rfl

end QueueDepth.Toml
