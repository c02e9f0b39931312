import Mathlib.Data.List.Forall2
import QueueDepth.Proofs.Toml.Numbers
import QueueDepth.Proofs.Toml.Roots
import QueueDepth.Proofs.Toml.Strings

/-!
# Documents are read back

A document of pairs whose keys differ has just these fields, in whatever layout it is written
(`document_written`). Each reader takes what is written for it and leaves what stands behind (`Reads`), as
far as that ends a value; the arrays, the pairs and the lines of a document are built on that.
-/

namespace QueueDepth.Toml

/-! ## Space -/

theorem skipBlanks_append {blanks : List Char} (only : Blanks blanks) (rest : List Char) :
    skipBlanks (blanks ++ rest) = skipBlanks rest :=
  List.dropWhile_append_of_pos only.isBlank

theorem skipBlanks_cons {c : Char} (other : isBlank c = false) (rest : List Char) :
    skipBlanks (c :: rest) = c :: rest := by
  rw [skipBlanks, List.dropWhile_cons_of_neg (by simp [other])]

theorem skipSpaceFrom_visible {content : List Char} (visible : ∀ c ∈ content, isVisible c = true)
    (rest : List Char) : skipSpaceFrom true (content ++ rest) = skipSpaceFrom true rest := by
  induction content with
  | nil => rfl
  | cons c content ih =>
    obtain ⟨here, later⟩ := List.forall_mem_cons.mp visible
    rw [List.cons_append, skipSpaceFrom]
    simp only [isLineEnd_of_isVisible here, here, if_true, Bool.false_eq_true, if_false, ih later]

theorem skipSpace_blanks {blanks : List Char} (only : Blanks blanks) (rest : List Char) :
    skipSpace (blanks ++ rest) = skipSpace rest := by
  induction blanks with
  | nil => rfl
  | cons c blanks ih =>
    obtain ⟨here, later⟩ := List.forall_mem_cons.mp only
    rw [← ih later]
    rcases here with rfl | rfl <;> rfl

theorem skipSpaceFrom_stop {stop : List Char} (ends : LineEnd stop) (comment : Bool) (rest : List Char) :
    skipSpaceFrom comment (stop ++ rest) = skipSpace rest := by
  cases ends <;> rfl

theorem skipSpace_comment {comment stop : List Char} (optional : Comment comment) (ends : LineEnd stop)
    (rest : List Char) : skipSpace (comment ++ (stop ++ rest)) = skipSpace rest := by
  cases optional with
  | none => exact skipSpaceFrom_stop ends false rest
  | @some content visible =>
    calc skipSpace ('#' :: content ++ (stop ++ rest))
      _ = skipSpaceFrom true (content ++ (stop ++ rest)) := rfl
      _ = skipSpaceFrom true (stop ++ rest) := skipSpaceFrom_visible visible _
      _ = skipSpace rest := skipSpaceFrom_stop ends true rest

/-- Space means nothing. -/
theorem skipSpace_append {space : List Char} (only : Space space) (rest : List Char) :
    skipSpace (space ++ rest) = skipSpace rest := by
  induction only with
  | blanks only => exact skipSpace_blanks only rest
  | line only optional ends _ ih =>
    rw [List.append_assoc, List.append_assoc, List.append_assoc, skipSpace_blanks only,
      skipSpace_comment optional ends, ih]

theorem skipSpace_lastComment {comment : List Char} (optional : Comment comment) :
    skipSpace comment = some [] := by
  cases optional with
  | none => rfl
  | @some content visible =>
    calc skipSpace ('#' :: content)
      _ = skipSpaceFrom true (content ++ []) := by rw [List.append_nil]; rfl
      _ = some [] := by rw [skipSpaceFrom_visible visible]; rfl

/-- A line may be over behind blanks and a comment. -/
theorem atLineEnd_append {blanks comment stop : List Char} (only : Blanks blanks)
    (optional : Comment comment) (ends : LineEnd stop) (rest : List Char) :
    atLineEnd (blanks ++ (comment ++ (stop ++ rest))) = true := by
  rw [atLineEnd, skipBlanks_append only]
  cases optional with
  | none => cases ends <;> rfl
  | some _ => rfl

theorem atLineEnd_last {blanks comment : List Char} (only : Blanks blanks)
    (optional : Comment comment) : atLineEnd (blanks ++ comment) = true := by
  rw [atLineEnd, skipBlanks_append only]
  cases optional with
  | none => rfl
  | some _ => rfl

/-! ## Values -/

/-- What may stand right behind a value. -/
def EndsValue (rest : List Char) : Prop :=
  ∀ c ∈ rest.head?, isBlank c = true ∨ isLineEnd c = true ∨ c = '#' ∨ c = ',' ∨ c = ']'

/-- A reader takes a text for something that means this, whatever else stands behind it. -/
def Reads {β : Type} (reader : Reader β) (text : List Char) (means : β → Prop) : Prop :=
  ∀ rest, EndsValue rest → ∃ item, reader (text ++ rest) = some (item, rest) ∧ means item

theorem Reads.placed {β : Type} {reader : Reader β} {text : List Char} {means : β → Prop}
    (reads : Reads reader text means) : Reads (placed reader) text fun placed => means placed.item := by
  intro rest ends
  obtain ⟨item, read, meant⟩ := reads rest ends
  refine ⟨⟨⟨text ++ rest, rest⟩, item⟩, ?_, meant⟩
  rw [Toml.placed, read]
  rfl

theorem EndsValue.other {rest : List Char} (ends : EndsValue rest) {c : Char}
    (solid : isBlank c = false) (within : isLineEnd c = false) (free : c ∉ ['#', ',', ']']) :
    rest.head? ≠ some c := by
  intro head
  rcases ends c head with blank | stop | mark
  · rw [solid] at blank
    cases blank
  · rw [within] at stop
    cases stop
  · exact free (by simpa using mark)

/-- A string is read as a value. -/
theorem reads_string {content text : List Char} (written : WrittenString content text) (depth : Nat) :
    Reads (valueWithin depth) text (· = .text content) := by
  intro rest ends
  have read := stringText_written written (ends.other rfl rfl (by decide)) (ends.other rfl rfl (by decide))
  obtain ⟨mark, more, rfl, marked⟩ := written.head
  refine ⟨.text content, ?_, rfl⟩
  rw [List.cons_append] at read ⊢
  rcases marked with rfl | rfl
  · rw [valueWithin, read]
    rfl
  · rw [valueWithin, read]
    rfl

section Numbers

variable {n : Nat} {word rest : List Char}

theorem splitWord_append (within : ∀ c ∈ word, isWordChar c = true) (noDate : date? word = none)
    (ends : EndsValue rest) : splitWord (word ++ rest) = (word, rest) := by
  have other : ∀ c ∈ rest.head?, isWordChar c = false := by
    intro c head
    rcases ends c head with blank | stop | mark
    · rcases isBlank_iff.mp blank with rfl | rfl <;> rfl
    · rcases isLineEnd_iff.mp stop with rfl | rfl <;> rfl
    · rcases mark with rfl | rfl | rfl <;> rfl
  obtain ⟨taken, dropped⟩ := span_append within other
  unfold splitWord
  rw [taken, dropped]
  split
  · simp [noDate]
  · rfl

/-- A number is read as a value. -/
theorem reads_number (written : WrittenNumber n word) (depth : Nat) :
    Reads (valueWithin depth) word (· = .integer n) := by
  intro rest ends
  refine ⟨.integer n, ?_, rfl⟩
  have within : ∀ c ∈ word, isWordChar c = true := by
    intro c member
    rcases written.forall_mem c member with letter | rfl | rfl
    · simp [isWordChar, letter]
    · rfl
    · rfl
  have noMinus : '-' ∉ word := by
    intro member
    rcases written.forall_mem _ member with letter | bar | plus
    · cases letter
    · cases bar
    · cases plus
  have read : scalar (word ++ rest) = some (.integer n, rest) := by
    simp only [scalar, splitWord_append within (date?_eq_none noMinus) ends,
      valueOfWord?_written written]
    rfl
  rw [← read]
  obtain ⟨c, more, rfl, _⟩ := written.head
  have plain := written.forall_mem c List.mem_cons_self
  rw [List.cons_append, valueWithin]
  all_goals
    intro _ whole
    rw [(List.cons.inj whole).1] at plain
    revert plain
    decide

end Numbers

/-! ## Arrays -/

/-- The first character of a text is no space and no bracket. -/
def Starts (text : List Char) : Prop :=
  ∃ c more, text = c :: more ∧ isBlank c = false ∧ isLineEnd c = false ∧
    c ∉ ['#', '[', ']', byteOrderMark]

theorem skipSpace_starts {text : List Char} (starts : Starts text) (rest : List Char) :
    skipSpace (text ++ rest) = some (text ++ rest) := by
  obtain ⟨c, more, rfl, solid, within, other⟩ := starts
  have noComment : c ≠ '#' := fun same => other (by simp [same])
  rw [List.cons_append, skipSpace, skipSpaceFrom]
  simp [within, solid, noComment]

theorem EndsValue.behind_blanks {blanks rest : List Char} (only : Blanks blanks) (ends : EndsValue rest) :
    EndsValue (blanks ++ rest) :=
  forall_mem_head?_append (fun c head => .inl (only.isBlank c (List.mem_of_mem_head? head))) ends

theorem EndsValue.behind_comment {comment rest : List Char} (optional : Comment comment)
    (ends : EndsValue rest) : EndsValue (comment ++ rest) := by
  cases optional with
  | none => exact ends
  | some _ =>
    intro c head
    cases head
    exact .inr (.inr (.inl rfl))

theorem EndsValue.of_stop {stop : List Char} (ends : LineEnd stop) (rest : List Char) :
    EndsValue (stop ++ rest) := by
  intro c head
  cases ends <;> cases head <;> exact .inr (.inl rfl)

theorem EndsValue.behind_space {space rest : List Char} (only : Space space) (ends : EndsValue rest) :
    EndsValue (space ++ rest) := by
  cases only with
  | blanks only => exact ends.behind_blanks only
  | line only optional stop _ =>
    simp only [List.append_assoc]
    exact (EndsValue.of_stop stop _).behind_comment optional |>.behind_blanks only

section Items

variable {α β : Type} {written : α → List Char → Prop} {means : α → β → Prop} {reader : Reader β}
  {items : List α} {text : List Char}

/-- Behind an item that is read, either the array is closed or a comma and further items follow. -/
theorem itemsWithin_item {before rest behind : List Char} {first : β} (only : Space before)
    (starts : Starts text) (read : reader (text ++ rest) = some (first, behind)) (limit : Nat) :
    itemsWithin reader ']' (limit + 1) (before ++ (text ++ rest)) =
      (skipSpace behind).bind fun
        | [] => none
        | c :: rest =>
          if c = ']' then some ([first], rest)
          else if c = ',' then
            (itemsWithin reader ']' limit rest).map fun (items, rest) => (first :: items, rest)
          else none := by
  rw [itemsWithin, skipSpace_append only, skipSpace_starts starts]
  obtain ⟨c, more, rfl, _, _, other⟩ := starts
  have noClosing : c ≠ ']' := fun same => other (by simp [same])
  simp only [List.cons_append] at read ⊢
  simp only [Option.bind_eq_bind, Option.bind_some, noClosing, if_false, read]
  refine Option.bind_congr fun after _ => ?_
  cases after with
  | nil => rfl
  | cons c rest =>
    dsimp only
    split
    · rfl
    · split
      · cases itemsWithin reader ']' limit rest <;> rfl
      · rfl

/-- Items up to the closing bracket are read one by one. -/
theorem itemsWithin_written (starts : ∀ item text, written item text → Starts text)
    (reads : ∀ item text, written item text → Reads reader text (means item))
    (array : WrittenItems written items text) (rest : List Char) {limit : Nat}
    (enough : text.length < limit) :
    ∃ results, itemsWithin reader ']' limit (text ++ rest) = some (results, rest) ∧
      List.Forall₂ means items results := by
  obtain ⟨limit, rfl⟩ : ∃ less, limit = less + 1 := ⟨limit - 1, by omega⟩
  have closing : EndsValue (']' :: rest) := by
    intro c head
    cases head
    simp
  have comma (more : List Char) : EndsValue (',' :: more) := by
    intro c head
    cases head
    simp
  induction array generalizing limit with
  | @none space only =>
    have skipped : skipSpace (space ++ [']'] ++ rest) = some (']' :: rest) := by
      rw [List.append_assoc, skipSpace_append only]
      rfl
    refine ⟨[], ?_, .nil⟩
    rw [itemsWithin, skipped]
    rfl
  | @last before text behind item only here only' =>
    obtain ⟨first, read, meant⟩ := reads item text here _ (closing.behind_space only')
    have skipped : skipSpace (behind ++ ']' :: rest) = some (']' :: rest) := by
      rw [skipSpace_append only']
      rfl
    refine ⟨[first], ?_, .cons meant .nil⟩
    simp only [List.append_assoc, List.singleton_append]
    rw [itemsWithin_item only (starts item text here) read, skipped]
    rfl
  | @next before text behind more item items only here only' _ ih =>
    obtain ⟨first, read, meant⟩ := reads item text here _ ((comma (more ++ rest)).behind_space only')
    have skipped : skipSpace (behind ++ ',' :: (more ++ rest)) = some (',' :: (more ++ rest)) := by
      rw [skipSpace_append only']
      rfl
    have shorter : more.length < limit := by
      simp only [List.length_append, List.length_cons] at enough
      omega
    obtain ⟨limit, rfl⟩ : ∃ less, limit = less + 1 := ⟨limit - 1, by omega⟩
    obtain ⟨others, later, meanings⟩ := ih limit shorter
    refine ⟨first :: others, ?_, .cons meant meanings⟩
    simp only [List.append_assoc, List.cons_append]
    rw [itemsWithin_item only (starts item text here) read, skipped]
    simp [later]

/-- An array is read as a value, one level above its items. -/
theorem reads_array {depth : Nat} {means : α → Value → Prop}
    (starts : ∀ item text, written item text → Starts text)
    (reads : ∀ item text, written item text → Reads (valueWithin depth) text (means item))
    (array : WrittenItems written items text) :
    Reads (valueWithin (depth + 1)) ('[' :: text) fun value =>
      ∃ results : List (Text.Placed Value), value = .array results ∧
        List.Forall₂ (fun item result => means item result.item) items results := by
  intro rest _
  have enough : text.length < (text ++ rest).length + 1 := by
    rw [List.length_append]
    omega
  obtain ⟨results, read, meanings⟩ := itemsWithin_written starts
    (fun item text here => (reads item text here).placed) array rest enough
  refine ⟨.array results, ?_, results, rfl, meanings⟩
  rw [List.cons_append, valueWithin, Toml.items, read]
  rfl

end Items

/-! ## Pairs -/

/-- A key is read as a path without dots. The blanks behind it are dropped. -/
theorem path_written {name key before : List Char} (written : WrittenKey name key)
    (only : Blanks before) (rest : List Char) :
    ∃ last : Key, path (key ++ (before ++ '=' :: rest)) = some (⟨[], last⟩, '=' :: rest) ∧
      last.item = name := by
  have other : ∀ c ∈ (before ++ '=' :: rest).head?, isBareChar c = false := by
    refine forall_mem_head?_append ?_ ?_
    · intro c head
      rcases only c (List.mem_of_mem_head? head) with rfl | rfl <;> rfl
    · intro c head
      cases head
      rfl
  have read := bareOrQuoted_written written other
  have skipped : skipBlanks (before ++ '=' :: rest) = '=' :: rest := by
    rw [skipBlanks_append only, skipBlanks_cons rfl]
  refine ⟨⟨⟨key ++ (before ++ '=' :: rest), before ++ '=' :: rest⟩, name⟩, ?_, rfl⟩
  rw [path, pathWithin, placed, read]
  simp only [Option.pure_def, Option.bind_eq_bind, Option.bind_some, skipped]
  rfl

section Pairs

variable {name text : List Char} {written : List Char → Prop} {means : Value → Prop}

theorem WrittenString.solid {content : List Char} (string : WrittenString content text) :
    ∃ c more, text = c :: more ∧ isBlank c = false := by
  obtain ⟨c, more, rfl, marked⟩ := string.head
  refine ⟨c, more, rfl, ?_⟩
  rcases marked with rfl | rfl <;> rfl

/-- What begins with a letter or a digit, with one of these marks, begins with no space. -/
theorem starts_cons {c : Char} (start : c.isAlphanum = true ∨ c ∈ ['_', '-', '+', '"', '\''])
    (more : List Char) : Starts (c :: more) := by
  refine ⟨c, more, rfl, ?_, ?_, ?_⟩
  · rw [Bool.eq_false_iff]
    intro blank
    rcases isBlank_iff.mp blank with rfl | rfl <;> revert start <;> decide
  · rw [Bool.eq_false_iff]
    intro stop
    rcases isLineEnd_iff.mp stop with rfl | rfl <;> revert start <;> decide
  · intro member
    simp only [List.mem_cons, List.not_mem_nil, or_false] at member
    rcases member with rfl | rfl | rfl | rfl <;> revert start <;> decide

theorem WrittenKey.starts (key : WrittenKey name text) (rest : List Char) : Starts (text ++ rest) := by
  cases key with
  | bare some bare =>
    obtain ⟨c, more, rfl⟩ := List.exists_cons_of_ne_nil some
    refine starts_cons ?_ _
    have letter := bare c List.mem_cons_self
    simp only [isBareChar, Bool.or_eq_true, decide_eq_true_eq] at letter
    rcases letter with (letter | rfl) | rfl
    · exact .inl letter
    · exact .inr (by decide)
    · exact .inr (by decide)
  | enclosed enclosed =>
    obtain ⟨c, more, rfl, marked⟩ := enclosed.head
    refine starts_cons (.inr ?_) _
    rcases marked with rfl | rfl <;> decide

theorem WrittenNumber.starts {n : Nat} (number : WrittenNumber n text) : Starts text := by
  obtain ⟨c, more, rfl, _⟩ := number.head
  refine starts_cons ?_ _
  rcases number.forall_mem c List.mem_cons_self with letter | rfl | rfl
  · exact .inl letter
  · exact .inr (by decide)
  · exact .inr (by decide)

/-- A statement that begins with a key is a pair. -/
theorem statement_of_starts (starts : Starts text) :
    statement text = (pair (some ∘ skipBlanks) value text).map fun ((path, value), rest) =>
      (.pair path value, rest) := by
  obtain ⟨c, more, rfl, _, _, other⟩ := starts
  have noBracket : c ≠ '[' := fun same => other (by simp [same])
  unfold statement
  split
  · rename_i whole
    exact absurd (List.cons.inj whole).1 noBracket
  · rename_i whole
    exact absurd (List.cons.inj whole).1 noBracket
  · cases pair (some ∘ skipBlanks) value (c :: more) <;> rfl

/-- A pair is read as a statement about its key. -/
theorem reads_pair (solid : ∀ shown, written shown → ∃ c more, shown = c :: more ∧ isBlank c = false)
    (reads : ∀ shown, written shown → Reads value shown means)
    (pair : WrittenPair name written text) :
    Reads statement text fun result => ∃ (last : Key) (value : Text.Placed Value),
      result = .pair ⟨[], last⟩ value ∧ last.item = name ∧ means value.item := by
  intro rest ends
  cases pair with
  | @mk key before behind shown writtenKey only only' here =>
    obtain ⟨last, readPath, named⟩ := path_written writtenKey only (behind ++ (shown ++ rest))
    obtain ⟨found, readValue, meant⟩ := (reads shown here).placed rest ends
    have skipped : skipBlanks (behind ++ (shown ++ rest)) = shown ++ rest := by
      obtain ⟨c, more, rfl, noBlank⟩ := solid shown here
      rw [skipBlanks_append only', List.cons_append, skipBlanks_cons noBlank]
    have read : Toml.pair (some ∘ skipBlanks) value (key ++ (before ++ '=' :: (behind ++ (shown ++ rest)))) =
        some ((⟨[], last⟩, found), rest) := by
      simp only [Toml.pair, readPath, Option.bind_eq_bind, Option.bind_some, Function.comp_apply,
        skipBlanks_cons (show isBlank '=' = false from rfl), skipped, readValue]
      rfl
    refine ⟨.pair ⟨[], last⟩ found, ?_, last, found, rfl, named, meant⟩
    simp only [List.append_assoc, List.cons_append]
    rw [statement_of_starts (writtenKey.starts _), read]
    rfl

end Pairs

/-! ## Documents -/

section Lines

variable {α : Type} {written : α → List Char → Prop} {means : α → Statement → Prop} {items : List α}
  {text : List Char}

/-- A statement that is read is the first, if its line is over. -/
theorem statementsWithin_item {space rest behind : List Char} {first : Statement} (only : Space space)
    (starts : Starts text) (read : statement (text ++ rest) = some (first, behind))
    (ended : atLineEnd behind = true) (limit : Nat) :
    statementsWithin (limit + 1) (space ++ (text ++ rest)) =
      (statementsWithin limit behind).map (first :: ·) := by
  rw [statementsWithin, skipSpace_append only, skipSpace_starts starts]
  obtain ⟨c, more, rfl, _⟩ := starts
  simp only [List.cons_append] at read ⊢
  simp only [Option.bind_eq_bind, Option.bind_some, read, ended, if_true]
  cases statementsWithin limit behind <;> rfl

theorem Space.append {space more : List Char} (only : Space space) (only' : Space more) :
    Space (space ++ more) := by
  induction only with
  | @blanks blanks only =>
    cases only' with
    | blanks only' => exact .blanks (List.forall_mem_append.mpr ⟨only, only'⟩)
    | line only' optional stop rest =>
      rw [← List.append_assoc]
      exact .line (List.forall_mem_append.mpr ⟨only, only'⟩) optional stop rest
  | line only optional stop _ ih =>
    simp only [List.append_assoc]
    exact .line only optional stop ih

/-- Statements are read one by one. What is left of a line that is over is space before the next. -/
theorem statementsWithin_written (starts : ∀ item text, written item text → Starts text)
    (reads : ∀ item text, written item text → Reads statement text (means item))
    (lines : WrittenLines written items text) {front : List Char} (only : Space front) {limit : Nat}
    (enough : (front ++ text).length < limit) :
    ∃ results, statementsWithin limit (front ++ text) = some results ∧
      List.Forall₂ means items results := by
  obtain ⟨limit, rfl⟩ : ∃ less, limit = less + 1 := ⟨limit - 1, by omega⟩
  induction lines generalizing front limit with
  | @none space comment only' optional =>
    have skipped : skipSpace (front ++ (space ++ comment)) = some [] := by
      rw [skipSpace_append only, skipSpace_append only', skipSpace_lastComment optional]
    refine ⟨[], ?_, .nil⟩
    rw [statementsWithin, skipped]
    rfl
  | @last before text blanks comment item only' here blank optional =>
    have nothing : EndsValue [] := nofun
    have ends : EndsValue (blanks ++ comment) := by
      have commented := nothing.behind_comment optional
      rw [List.append_nil] at commented
      exact commented.behind_blanks blank
    obtain ⟨first, read, meant⟩ := reads item text here _ ends
    have last : statementsWithin limit (blanks ++ comment) = some [] := by
      obtain ⟨_, _, rfl, _⟩ := starts item text here
      obtain ⟨limit, rfl⟩ : ∃ less, limit = less + 1 := by
        simp only [List.length_append, List.length_cons] at enough
        exact ⟨limit - 1, by omega⟩
      rw [statementsWithin, skipSpace_blanks blank, skipSpace_lastComment optional]
      rfl
    refine ⟨[first], ?_, .cons meant .nil⟩
    rw [← List.append_assoc, statementsWithin_item (only.append only') (starts item text here) read
      (atLineEnd_last blank optional), last]
    rfl
  | @next before text blanks comment stop more item items only' here blank optional stops _ ih =>
    have ends : EndsValue (blanks ++ (comment ++ (stop ++ more))) :=
      (EndsValue.of_stop stops more).behind_comment optional |>.behind_blanks blank
    obtain ⟨first, read, meant⟩ := reads item text here _ ends
    have tail : Space (blanks ++ (comment ++ (stop ++ []))) :=
      .line blank optional stops (.blanks nofun)
    have shorter : (blanks ++ (comment ++ (stop ++ [])) ++ more).length < limit := by
      obtain ⟨_, _, rfl, _⟩ := starts item text here
      simp only [List.length_append, List.length_cons, List.length_nil] at enough ⊢
      omega
    obtain ⟨limit, rfl⟩ : ∃ less, limit = less + 1 := ⟨limit - 1, by omega⟩
    obtain ⟨others, later, meanings⟩ := ih tail limit shorter
    simp only [List.append_assoc, List.nil_append] at later
    refine ⟨first :: others, ?_, .cons meant meanings⟩
    rw [← List.append_assoc, statementsWithin_item (only.append only') (starts item text here) read
      (atLineEnd_append blank optional stops more), later]
    rfl

theorem unmarked_append {space rest : List Char} (only : Space space)
    (unmarked : rest.head? ≠ some byteOrderMark) : (space ++ rest).head? ≠ some byteOrderMark := by
  cases space with
  | nil => exact unmarked
  | cons c space =>
    have nothing : EndsValue [] := nofun
    have ends := nothing.behind_space only
    rw [List.append_nil] at ends
    have other : (c :: space).head? ≠ some byteOrderMark := ends.other rfl rfl (by decide)
    exact other

/-- Lines do not begin with a mark of their own. -/
theorem WrittenLines.unmarked (starts : ∀ item text, written item text → Starts text)
    (lines : WrittenLines written items text) : dropByteOrderMark text = text := by
  have item {shown : List Char} (start : Starts shown) (rest : List Char) :
      (shown ++ rest).head? ≠ some byteOrderMark := by
    obtain ⟨c, more, rfl, _, _, other⟩ := start
    intro head
    cases head
    exact other (by simp)
  have unmarked : text.head? ≠ some byteOrderMark := by
    cases lines with
    | none only optional =>
      refine unmarked_append only ?_
      cases optional <;> simp [byteOrderMark]
    | last only here _ _ => exact unmarked_append only (item (starts _ _ here) _)
    | next only here _ _ _ _ => exact unmarked_append only (item (starts _ _ here) _)
  cases text with
  | nil => rfl
  | cons c text =>
    have other : c ≠ byteOrderMark := fun same => unmarked (congrArg some same)
    rw [dropByteOrderMark, if_neg other]

theorem statements_written (starts : ∀ item text, written item text → Starts text)
    (keeps : ∀ item text, written item text → KeepsReturns text)
    (reads : ∀ item text, written item text → Reads statement text (means item))
    (document : WrittenDocument written items text) :
    ∃ results, statements text = some results ∧ List.Forall₂ means items results := by
  have returns := document.returnsEndLines keeps
  have lines {text : List Char} (lines : WrittenLines written items text) {limit : Nat}
      (enough : text.length < limit) :
      ∃ results, statementsWithin limit text = some results ∧ List.Forall₂ means items results :=
    statementsWithin_written starts reads lines (.blanks nofun : Space []) enough
  rw [statements, if_pos returns]
  cases document with
  | bare written =>
    rw [written.unmarked starts]
    exact lines written (Nat.lt_succ_self _)
  | @marked text written =>
    have dropped : dropByteOrderMark (byteOrderMark :: text) = text := by
      rw [dropByteOrderMark, if_pos rfl]
    rw [dropped]
    refine lines written ?_
    rw [List.length_cons]
    omega

end Lines

/-! ## Fields -/

/-- The statement that gives a document one field, by a key without dots. -/
def Statement.ofField (field : Field) : Statement :=
  .pair ⟨[], field.1⟩ field.2

theorem apply_ofField {done : Fields} {field : Field} (fresh : field.1.item ∉ done.names) :
    Draft.apply ⟨done, []⟩ (.ofField field) = some ⟨done ++ [field], []⟩ := by
  have absent : (done.find? field.1.item).isSome = false :=
    Bool.eq_false_iff.mpr (mt Fields.isSome_find?_iff.mp fresh)
  simp [Draft.apply, Statement.ofField, Fields.change, Fields.insert, Fields.add, absent]

/-- Fields are added one by one, as long as no name is added twice. -/
theorem foldlM_apply_ofField {done todo : Fields} (distinct : (Fields.names (done ++ todo)).Nodup) :
    (todo.map Statement.ofField).foldlM Draft.apply ⟨done, []⟩ = some ⟨done ++ todo, []⟩ := by
  induction todo generalizing done with
  | nil => simp
  | cons field todo ih =>
    have fresh : field.1.item ∉ done.names := by
      rw [Fields.names, List.map_append, List.nodup_append] at distinct
      obtain ⟨_, _, apart⟩ := distinct
      exact fun member => apart _ member _ (List.mem_map_of_mem List.mem_cons_self) rfl
    rw [List.append_cons] at distinct ⊢
    rw [List.map_cons, List.foldlM_cons, apply_ofField fresh]
    exact ih distinct

/-- Pairs whose keys have no dots and differ are the fields of a document. -/
theorem ofStatements_ofField {fields : Fields} (distinct : fields.names.Nodup) :
    Fields.ofStatements (fields.map Statement.ofField) = some fields := by
  have grown : _ = some (⟨[] ++ fields, []⟩ : Draft) := foldlM_apply_ofField distinct
  rw [Fields.ofStatements, grown]
  rfl

section Document

variable {α : Type} {name : α → List Char} {means : α → Value → Prop} {items : List α}

/-- Pairs are fields if none of their keys has a dot. -/
theorem exists_fields_of_pairs {results : List Statement}
    (meant : List.Forall₂ (fun item result => ∃ (last : Key) (value : Text.Placed Value),
      result = .pair ⟨[], last⟩ value ∧ last.item = name item ∧ means item value.item) items results) :
    ∃ fields : Fields, results = fields.map Statement.ofField ∧
      List.Forall₂ (fun item field => field.1.item = name item ∧ means item field.2.item) items
        fields := by
  induction meant with
  | nil => exact ⟨[], rfl, .nil⟩
  | cons here _ ih =>
    obtain ⟨last, found, rfl, meant⟩ := here
    obtain ⟨fields, rfl, later⟩ := ih
    exact ⟨(last, found) :: fields, rfl, .cons meant later⟩

/-- A document of pairs is read back, whatever its layout. -/
theorem document_written {shows : α → List Char → Prop} {text : List Char}
    (solid : ∀ item shown, shows item shown → ∃ c more, shown = c :: more ∧ isBlank c = false)
    (keeps : ∀ item shown, shows item shown → KeepsReturns shown)
    (reads : ∀ item shown, shows item shown → Reads value shown (means item))
    (distinct : (items.map name).Nodup)
    (written : WrittenDocument (fun item => WrittenPair (name item) (shows item)) items text) :
    ∃ fields, document text = some fields ∧
      List.Forall₂ (fun item field => field.1.item = name item ∧ means item field.2.item) items
        fields := by
  have starts : ∀ item text, WrittenPair (name item) (shows item) text → Starts text := by
    intro item text pair
    cases pair with
    | mk key => exact key.starts _
  obtain ⟨results, read, meant⟩ := statements_written starts
    (fun item _ pair => pair.keepsReturns (keeps item))
    (fun item _ pair => reads_pair (solid item) (reads item) pair) written
  obtain ⟨fields, rfl, meanings⟩ := exists_fields_of_pairs meant
  have names : List.Forall₂ (· = ·) (items.map name) fields.names := by
    rw [Fields.names, List.forall₂_map_left_iff, List.forall₂_map_right_iff]
    exact meanings.imp fun _ _ here => here.1.symm
  rw [List.forall₂_eq_eq_eq] at names
  refine ⟨fields, ?_, meanings⟩
  rw [document, read]
  exact ofStatements_ofField (names ▸ distinct)

end Document

end QueueDepth.Toml
