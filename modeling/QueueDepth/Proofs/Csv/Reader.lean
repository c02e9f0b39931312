import Mathlib.Data.List.TakeWhile
import QueueDepth.Csv

/-!
# Stopping and going on

Rows are read byte by byte, so that the reader can be stopped anywhere. A `Reader` is what it then holds;
`Reader.next` takes one more byte and `Reader.behind` a run of them.

* `Reader.rows_append`: what lies ahead changes none of the rows that are complete.
* `rows_append`: so a text that ends with a line keeps its rows, however it is continued.
* `exists_parted_of_rows`: where the rows of a text begin, and which place they are given. The place is
  right behind the byte that ended the row before, so all line ends in between lie behind it.
-/

namespace QueueDepth.Csv

/-- What the reader holds in the middle of a text. -/
structure Reader where
  phase : Phase
  draft : Draft
  here : Position
  deriving DecidableEq

namespace Reader

/-- The reader right behind the end of a row. -/
def resting (here : Position) : Reader :=
  ⟨.between, .blank here, here⟩

/-- The reader behind one more byte. -/
def next (reader : Reader) (byte : UInt8) : Reader :=
  let here := reader.here.after byte
  match reader.phase.step byte with
  | .skip => ⟨.between, reader.draft, here⟩
  | .keep phase => ⟨phase, reader.draft.keep byte, here⟩
  | .mark phase => ⟨phase, reader.draft, here⟩
  | .endField => ⟨.fieldStart, reader.draft.endField, here⟩
  | .endRow => .resting here.nextRecord

/-- The row that a byte ends, if it ends one. -/
def ended (reader : Reader) (byte : UInt8) : List Row :=
  match reader.phase.step byte with
  | .endRow => [reader.draft.toRow]
  | _ => []

/-- The reader behind some more bytes. -/
def behind (reader : Reader) (bytes : List UInt8) : Reader :=
  bytes.foldl next reader

/-- The rows that some more bytes complete. -/
def completed (reader : Reader) : List UInt8 → List Row
  | [] => []
  | byte :: rest => reader.ended byte ++ (reader.next byte).completed rest

/-- The rows that are read if the text ends behind these bytes. -/
def rows (reader : Reader) (bytes : List UInt8) : List Row :=
  rowsFrom reader.phase reader.draft reader.here bytes

variable {reader : Reader} {byte : UInt8} {bytes rest : List UInt8} {row : Row} {later : List Row}
  {here : Position}

/-! ## One byte -/

theorem rows_cons : reader.rows (byte :: rest) = reader.ended byte ++ (reader.next byte).rows rest := by
  unfold rows ended next
  rw [rowsFrom]
  cases reader.phase.step byte <;> rfl

theorem rows_nil_of_between (between : reader.phase = .between) : reader.rows [] = [] := by
  rw [rows, between]
  rfl

theorem line_next :
    (reader.next byte).here.line = reader.here.line + if byte = 0x0A then 1 else 0 := by
  have line : (reader.here.after byte).line = reader.here.line + if byte = 0x0A then 1 else 0 := by
    unfold Position.after
    split <;> rfl
  rw [← line]
  unfold next
  cases reader.phase.step byte <;> rfl

/-- A byte ends the row that is being read, or it leaves it open where it began. -/
theorem ends_or_goes_on (reader : Reader) (byte : UInt8) :
    (reader.ended byte = [reader.draft.toRow] ∧
      reader.next byte = resting (reader.here.after byte).nextRecord) ∨
    (reader.ended byte = [] ∧ (reader.next byte).draft.start = reader.draft.start) := by
  unfold ended next
  cases reader.phase.step byte with
  | endRow => exact .inl ⟨rfl, rfl⟩
  | skip => exact .inr ⟨rfl, rfl⟩
  | keep phase => exact .inr ⟨rfl, rfl⟩
  | mark phase => exact .inr ⟨rfl, rfl⟩
  | endField => exact .inr ⟨rfl, rfl⟩

/-- A line feed leaves the reader between two rows, unless it stands between quotation marks. -/
theorem between_of_lineFeed (open_ : reader.phase ≠ .quoted) :
    (reader.next 0x0A).phase = .between := by
  unfold next
  cases phase : reader.phase with
  | quoted => exact absurd phase open_
  | between => rfl
  | fieldStart => rfl
  | plain => rfl
  | quoteSeen => rfl

/-! ## Runs of bytes -/

theorem behind_append : reader.behind (bytes ++ rest) = (reader.behind bytes).behind rest :=
  List.foldl_append

theorem completed_append :
    reader.completed (bytes ++ rest) = reader.completed bytes ++ (reader.behind bytes).completed rest := by
  induction bytes generalizing reader with
  | nil => rfl
  | cons byte bytes ih =>
    rw [List.cons_append, completed, completed, ih, List.append_assoc]
    rfl

/-- The rows that are complete do not depend on what follows. -/
theorem rows_append :
    reader.rows (bytes ++ rest) = reader.completed bytes ++ (reader.behind bytes).rows rest := by
  induction bytes generalizing reader with
  | nil => rfl
  | cons byte bytes ih =>
    rw [List.cons_append, rows_cons, ih, completed, List.append_assoc]
    rfl

theorem completed_eq_rows (between : (reader.behind bytes).phase = .between) :
    reader.completed bytes = reader.rows bytes := by
  have whole : reader.rows (bytes ++ []) = _ := rows_append
  rw [List.append_nil, rows_nil_of_between between, List.append_nil] at whole
  exact whole.symm

/-- Every line feed counts as a line, wherever it stands. -/
theorem line_behind :
    (reader.behind bytes).here.line = reader.here.line + bytes.count 0x0A := by
  induction bytes generalizing reader with
  | nil => rfl
  | cons byte bytes ih =>
    have first : (reader.behind (byte :: bytes)).here.line = ((reader.next byte).behind bytes).here.line :=
      rfl
    rw [first, ih, line_next, List.count_cons]
    simp only [beq_iff_eq]
    omega

/-! ## Where rows begin -/

/-- At the end of the text there is at most the row that is being read. -/
theorem rows_nil : reader.rows [] = [] ∨ reader.rows [] = [reader.draft.toRow] := by
  unfold rows
  cases reader.phase with
  | between => exact .inl rfl
  | fieldStart => exact .inr rfl
  | plain => exact .inr rfl
  | quoted => exact .inr rfl
  | quoteSeen => exact .inr rfl

/-- The first row begins where the reader began to read it. -/
theorem start_of_rows (read : reader.rows bytes = row :: later) : row.start = reader.draft.start := by
  induction bytes generalizing reader with
  | nil =>
    rcases reader.rows_nil with none | last
    · cases none.symm.trans read
    · cases last.symm.trans read
      rfl
  | cons byte rest ih =>
    rw [rows_cons] at read
    rcases reader.ends_or_goes_on byte with ⟨finished, rests⟩ | ⟨open_, same⟩
    · rw [finished] at read
      rw [← (List.cons.inj read).1]
      rfl
    · rw [open_] at read
      rw [← same]
      exact ih read

/-- A row with another behind it ends somewhere, and the reader rests there. -/
theorem exists_end_of_rows (read : reader.rows bytes = row :: later) (notLast : later ≠ []) :
    ∃ first rest here, bytes = first ++ rest ∧ reader.completed first = [row] ∧
      reader.behind first = resting here ∧ (resting here).rows rest = later := by
  induction bytes generalizing reader with
  | nil =>
    rcases reader.rows_nil with none | last
    · cases none.symm.trans read
    · cases last.symm.trans read
      exact absurd rfl notLast
  | cons byte bytes ih =>
    rw [rows_cons] at read
    rcases reader.ends_or_goes_on byte with ⟨finished, rests⟩ | ⟨open_, _⟩
    · rw [finished, rests] at read
      obtain ⟨rfl, more⟩ := List.cons.inj read
      refine ⟨[byte], bytes, _, rfl, ?_, rests, more⟩
      rw [completed, finished]
      rfl
    · rw [open_] at read
      obtain ⟨first, rest, here, rfl, whole, rests, more⟩ := ih read
      refine ⟨byte :: first, rest, here, rfl, ?_, rests, more⟩
      rw [completed, open_]
      exact whole

/-- Between two rows, line ends are passed over. -/
theorem rows_lineEnds (reader : Reader) (ends : ∀ byte ∈ bytes, isLineEnd byte = true)
    (between : reader.phase = .between) :
    (reader.behind bytes).phase = .between ∧ reader.completed bytes = [] := by
  induction bytes generalizing reader with
  | nil => exact ⟨between, rfl⟩
  | cons byte bytes ih =>
    obtain ⟨first, others⟩ := List.forall_mem_cons.mp ends
    have step : reader.phase.step byte = .skip := by
      rw [between, Phase.step, if_pos first]
    have none : reader.ended byte = [] := by rw [ended, step]
    have skipped : (reader.next byte).phase = .between := by rw [next, step]
    obtain ⟨still, nothing⟩ := ih _ others skipped
    refine ⟨still, ?_⟩
    rw [completed, none]
    exact nothing

/-- The rows that are read from a place of rest: each begins behind the line ends that follow the row
before it, and is placed in front of them. -/
theorem exists_place_of_rows {early : List Row}
    (read : (resting here).rows bytes = early ++ row :: later) :
    ∃ before gap rest place, bytes = before ++ (gap ++ rest) ∧
      (resting here).completed before = early ∧ (resting here).behind before = resting place ∧
      (∀ byte ∈ gap, isLineEnd byte = true) ∧
      (∃ byte more, rest = byte :: more ∧ isLineEnd byte = false) ∧ row.start = place := by
  induction early generalizing bytes here with
  | nil =>
    refine ⟨[], bytes.takeWhile isLineEnd, bytes.dropWhile isLineEnd, here, ?_, rfl, rfl, ?_, ?_,
      start_of_rows read⟩
    · exact List.takeWhile_append_dropWhile.symm
    · intro byte member
      exact List.mem_takeWhile_imp member
    · cases left : bytes.dropWhile isLineEnd with
      | cons byte more =>
        have stays := List.head_dropWhile_not isLineEnd (by rw [left]; exact List.cons_ne_nil _ _)
        simp only [left, List.head_cons] at stays
        exact ⟨byte, more, rfl, stays⟩
      | nil =>
        -- There would be no row in line ends alone.
        have ends : ∀ byte ∈ bytes, isLineEnd byte = true := List.dropWhile_eq_nil_iff.mp left
        obtain ⟨still, nothing⟩ := (resting here).rows_lineEnds ends rfl
        rw [← completed_eq_rows still, nothing] at read
        cases read
  | cons first early ih =>
    obtain ⟨head, tail, there, rfl, whole, rests, more⟩ :=
      exists_end_of_rows read (List.append_ne_nil_of_right_ne_nil _ (List.cons_ne_nil _ _))
    obtain ⟨before, gap, rest, place, rfl, done, restsThere, ends, filled, begins⟩ := ih more
    refine ⟨head ++ before, gap, rest, place, ?_, ?_, ?_, ends, filled, begins⟩
    · rw [List.append_assoc]
    · rw [completed_append, whole, rests, done]
      rfl
    · rw [behind_append, rests, restsThere]

end Reader

/-! ## Texts -/

/-- The byte order mark that a text begins with, if there is one. -/
def mark (text : List UInt8) : List UInt8 :=
  if byteOrderMark.isPrefixOf text then byteOrderMark else []

namespace Reader

/-- The reader behind the byte order mark of a text. -/
def opened (text : List UInt8) : Reader :=
  ⟨.between, .blank .start, { Position.start with byte := (mark text).length }⟩

/-- The reader behind a whole text. -/
def ofText (text : List UInt8) : Reader :=
  (opened text).behind (text.drop (mark text).length)

end Reader

/-- The last byte of the text is a line feed, and it stands outside of quotation marks. -/
def Terminated (text : List UInt8) : Prop :=
  ∃ early, text = early ++ [0x0A] ∧ (Reader.ofText early).phase ≠ .quoted

variable {text more before : List UInt8}

theorem rows_eq : rows text = (Reader.opened text).rows (text.drop (mark text).length) := by
  unfold rows Reader.opened mark
  split <;> rfl

theorem mark_begins (text : List UInt8) : mark text <+: text := by
  unfold mark
  split
  · rename_i marked
    exact List.isPrefixOf_iff_prefix.mp marked
  · exact List.nil_prefix

theorem count_lineFeed_mark : (mark text).count 0x0A = 0 := by
  unfold mark
  split <;> rfl

/-- The beginning of a text has its byte order mark, once it is long enough. -/
theorem mark_of_begins (begins : before <+: text) (long : (mark text).length ≤ before.length) :
    mark before = mark text := by
  by_cases marked : byteOrderMark.isPrefixOf text = true
  · have same : mark text = byteOrderMark := if_pos marked
    have inside : byteOrderMark <+: before := by
      rw [← same]
      exact List.prefix_of_prefix_length_le (mark_begins text) begins long
    rw [same, mark, if_pos (List.isPrefixOf_iff_prefix.mpr inside)]
  · have unmarked : ¬ byteOrderMark.isPrefixOf before = true := by
      rw [List.isPrefixOf_iff_prefix] at marked ⊢
      exact fun inside => marked (inside.trans begins)
    rw [mark, mark, if_neg marked, if_neg unmarked]

theorem ofText_append (same : mark (text ++ more) = mark text) :
    Reader.ofText (text ++ more) = (Reader.ofText text).behind more := by
  have long : (mark text).length ≤ text.length := (mark_begins text).length_le
  unfold Reader.ofText Reader.opened
  rw [same, List.drop_append_of_le_length long, Reader.behind_append]

theorem rows_append_of_mark (same : mark (text ++ more) = mark text) :
    rows (text ++ more) =
      (Reader.opened text).completed (text.drop (mark text).length) ++ (Reader.ofText text).rows more := by
  have long : (mark text).length ≤ text.length := (mark_begins text).length_le
  have opened : Reader.opened (text ++ more) = Reader.opened text := by
    rw [Reader.opened, same]
    rfl
  rw [rows_eq, opened, same, List.drop_append_of_le_length long, Reader.rows_append]
  rfl

theorem rows_of_between (between : (Reader.ofText text).phase = .between) :
    rows text = (Reader.opened text).completed (text.drop (mark text).length) := by
  rw [rows_eq, ← Reader.completed_eq_rows between]

/-- No byte order mark reaches across a line feed. -/
theorem mark_append_of_lineFeed : mark (before ++ 0x0A :: more) = mark before := by
  symm
  apply mark_of_begins (List.prefix_append _ _)
  by_contra short
  rw [not_le] at short
  have reaches : 0x0A ∈ mark (before ++ 0x0A :: more) := by
    obtain ⟨rest, whole⟩ := mark_begins (before ++ 0x0A :: more)
    have here := congrArg (fun bytes => bytes[before.length]?) whole
    simp only [List.getElem?_append_left short, List.getElem?_append_right (Nat.le_refl _),
      Nat.sub_self, List.getElem?_cons_zero] at here
    exact List.mem_of_getElem? here
  exact absurd count_lineFeed_mark (List.count_pos_iff.mpr reaches).ne'

theorem Terminated.between (ended : Terminated text) : (Reader.ofText text).phase = .between := by
  obtain ⟨early, rfl, outside⟩ := ended
  rw [ofText_append mark_append_of_lineFeed]
  exact Reader.between_of_lineFeed outside

theorem Terminated.mark_append (ended : Terminated text) : mark (text ++ more) = mark text := by
  obtain ⟨early, rfl, _⟩ := ended
  rw [List.append_assoc]
  exact mark_append_of_lineFeed.trans mark_append_of_lineFeed.symm

/-- A text that ends with a line keeps its rows, whatever follows. -/
theorem rows_append (ended : Terminated text) :
    rows (text ++ more) = rows text ++ (Reader.ofText text).rows more := by
  rw [rows_append_of_mark ended.mark_append, rows_of_between ended.between]

theorem line_ofText : (Reader.ofText text).here.line = 1 + text.count 0x0A := by
  have counted := congrArg (List.count 0x0A) (List.prefix_iff_eq_append.mp (mark_begins text))
  rw [List.count_append, count_lineFeed_mark, Nat.zero_add] at counted
  rw [Reader.ofText, Reader.line_behind, counted]
  rfl

/-- A text that is parted in front of a row: the last byte of `before` ends the last of the rows `done`,
`gap` holds the line ends that follow it, and the next row begins with the first byte of `rest`. -/
structure Parted (text : List UInt8) (done : List Row) (before gap rest : List UInt8) : Prop where
  whole : text = before ++ (gap ++ rest)
  done : rows before = done
  rests : ∃ place, Reader.ofText before = .resting place
  ends : ∀ byte ∈ gap, isLineEnd byte = true
  begins : ∃ byte more, rest = byte :: more ∧ isLineEnd byte = false

/-- A row below the header is placed in front of the line ends that it begins behind, on the line that
counts the line feeds up to there. -/
theorem exists_parted_of_rows {header row : Row} {early later : List Row}
    (read : rows text = header :: (early ++ row :: later)) :
    ∃ before gap rest, Parted text (header :: early) before gap rest ∧
      row.start.line = 1 + before.count 0x0A := by
  have whole := List.prefix_iff_eq_append.mp (mark_begins text)
  rw [rows_eq] at read
  obtain ⟨first, tail, there, split, head, rests, more⟩ := Reader.exists_end_of_rows read
    (List.append_ne_nil_of_right_ne_nil _ (List.cons_ne_nil _ _))
  obtain ⟨before, gap, rest, place, rfl, done, restsThere, ends, begins, rfl⟩ :=
    Reader.exists_place_of_rows more
  rw [split] at whole
  have front : mark text ++ (first ++ before) <+: text :=
    ⟨gap ++ rest, by simpa only [List.append_assoc] using whole⟩
  have same : mark (mark text ++ (first ++ before)) = mark text :=
    mark_of_begins front (by simp)
  have opened : Reader.opened (mark text ++ (first ++ before)) = Reader.opened text := by
    rw [Reader.opened, same]
    rfl
  have reached : Reader.ofText (mark text ++ (first ++ before)) = .resting row.start := by
    rw [Reader.ofText, opened, same, List.drop_left, Reader.behind_append, rests, restsThere]
  have complete : rows (mark text ++ (first ++ before)) = header :: early := by
    rw [rows_of_between (by rw [reached]; rfl), opened, same, List.drop_left, Reader.completed_append,
      head, rests, done]
    rfl
  refine ⟨mark text ++ (first ++ before), gap, rest, ⟨?_, complete, ⟨_, reached⟩, ends, begins⟩, ?_⟩
  · simpa only [List.append_assoc] using whole.symm
  · rw [← line_ofText, reached]
    rfl

end QueueDepth.Csv
