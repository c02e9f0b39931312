import Mathlib.Data.List.Basic

/-!
# Ways to write a table

One table of fields can be written as text in many ways. `WrittenField`, `WrittenRow`, `WrittenTable` and
`WrittenText` relate contents to every text they may be written as: each field bare or between quotation
marks, each line ended in either manner, empty lines between rows, the end of the last line left out or
not, and a byte order mark in front or none.

The first field of a table may itself begin with the character of the byte order mark. A reader that takes
the mark away then finds a table whose first field lacks it (`WrittenTable.unmarked`).
-/

namespace QueueDepth.Csv

/-! ## Fields -/

/-- A quotation mark inside quotation marks is written twice. -/
def doubled (c : Char) : List Char :=
  if c = '"' then ['"', '"'] else [c]

/-- The texts that a content can be written as. -/
inductive WrittenField : List Char → List Char → Prop where
  | quoted (content : List Char) :
    WrittenField content ('"' :: (content.flatMap doubled ++ ['"']))
  | bare {left content right : List Char} :
    (∀ c ∈ left, c = ' ' ∨ c = '\t') → (∀ c ∈ right, c = ' ' ∨ c = '\t') →
    (∀ c ∈ content, c ≠ ',' ∧ c ≠ '"' ∧ c ≠ '\r' ∧ c ≠ '\n') →
    WrittenField content (left ++ content ++ right)

/-- Fields with commas between them. -/
inductive WrittenRow : List (List Char) → List Char → Prop where
  | last {content text : List Char} : WrittenField content text → WrittenRow [content] text
  | next {content text : List Char} {contents : List (List Char)} {more : List Char} :
    WrittenField content text → WrittenRow contents more →
    WrittenRow (content :: contents) (text ++ ',' :: more)

/-! ## Lines -/

/-- Line ends, each a line feed or a carriage return and a line feed. -/
inductive LineEnds : List Char → Prop where
  | none : LineEnds []
  | feed {more : List Char} : LineEnds more → LineEnds ('\n' :: more)
  | pair {more : List Char} : LineEnds more → LineEnds ('\r' :: '\n' :: more)

/-- Rows with line ends between them. More than one line end in a row makes empty lines. -/
inductive WrittenTable : List (List (List Char)) → List Char → Prop where
  | last {contents : List (List Char)} {text ends : List Char} :
    WrittenRow contents text → LineEnds ends → WrittenTable [contents] (text ++ ends)
  | next {contents : List (List Char)} {text ends : List Char} {table : List (List (List Char))}
    {more : List Char} :
    WrittenRow contents text → LineEnds ends → ends ≠ [] → WrittenTable table more →
    WrittenTable (contents :: table) (text ++ (ends ++ more))

theorem LineEnds.forall_mem {text : List Char} (ends : LineEnds text) :
    ∀ c ∈ text, c = '\n' ∨ c = '\r' := by
  induction ends with
  | none => simp
  | feed _ ih => simpa using ih
  | pair _ ih => simpa using ih

/-- No field begins with the end of a line. -/
theorem WrittenField.head {content : List Char} {c : Char} {text : List Char}
    (written : WrittenField content (c :: text)) : c ≠ '\n' ∧ c ≠ '\r' := by
  generalize whole : c :: text = field at written
  cases written with
  | quoted content =>
    rw [(List.cons.inj whole).1]
    decide
  | @bare left content right leftBlank rightBlank plain =>
    have member : c ∈ left ++ content ++ right := by simp [← whole]
    rw [List.mem_append, List.mem_append] at member
    rcases member with (inLeft | inContent) | inRight
    · rcases leftBlank c inLeft with rfl | rfl <;> decide
    · exact ⟨(plain c inContent).2.2.2, (plain c inContent).2.2.1⟩
    · rcases rightBlank c inRight with rfl | rfl <;> decide

/-- A row of several fields does not look like an empty line. -/
theorem WrittenRow.head {contents : List (List Char)} {text : List Char}
    (written : WrittenRow contents text) (several : 2 ≤ contents.length) :
    ∃ c rest, text = c :: rest ∧ c ≠ '\n' ∧ c ≠ '\r' := by
  cases written with
  | last _ => simp at several
  | @next content field contents more writtenField _ =>
    cases field with
    | nil => exact ⟨',', more, rfl, by decide⟩
    | cons c field => exact ⟨c, field ++ ',' :: more, rfl, writtenField.head⟩

/-! ## The byte order mark -/

/-- The character whose bytes are the byte order mark. -/
def orderMark : Char := '\uFEFF'

/-- A text without the mark that it may begin with. -/
def withoutMark : List Char → List Char
  | [] => []
  | c :: rest => if c = orderMark then rest else c :: rest

/-- A table with or without a mark in front. -/
inductive WrittenText (table : List (List (List Char))) : List Char → Prop where
  | bare {text : List Char} : WrittenTable table text → WrittenText table text
  | marked {text : List Char} : WrittenTable table text → WrittenText table (orderMark :: text)

theorem withoutMark_eq_self {text : List Char} (other : orderMark ∉ text) :
    withoutMark text = text := by
  cases text with
  | nil => rfl
  | cons c rest =>
    have different : c ≠ orderMark := by
      rintro rfl
      exact other (by simp)
    simp [withoutMark, different]

theorem WrittenField.unmarked {content text : List Char}
    (written : WrittenField content (orderMark :: text)) :
    ∃ rest, content = orderMark :: rest ∧ WrittenField rest text := by
  generalize whole : orderMark :: text = field at written
  cases written with
  | quoted content => exact absurd (List.cons.inj whole).1 (by decide)
  | @bare left content right leftBlank rightBlank plain =>
    cases left with
    | cons c left =>
      have same : orderMark = c := (List.cons.inj whole).1
      rcases leftBlank c (by simp) with rfl | rfl <;> exact absurd same (by decide)
    | nil =>
      cases content with
      | nil =>
        have first : orderMark ∈ right := by
          rw [List.nil_append, List.nil_append] at whole
          simp [← whole]
        rcases rightBlank _ first with same | same <;> exact absurd same (by decide)
      | cons c content =>
        obtain ⟨rfl, rfl⟩ := List.cons.inj whole
        have bare : WrittenField content ([] ++ content ++ right) :=
          .bare leftBlank rightBlank fun c member => plain c (by simp [member])
        exact ⟨content, rfl, bare⟩

theorem WrittenRow.unmarked {contents : List (List Char)} {text : List Char}
    (written : WrittenRow contents (orderMark :: text)) :
    ∃ first others, contents = (orderMark :: first) :: others ∧
      WrittenRow (first :: others) text := by
  generalize whole : orderMark :: text = row at written
  cases written with
  | last field =>
    subst whole
    obtain ⟨first, rfl, unmarked⟩ := field.unmarked
    exact ⟨first, [], rfl, .last unmarked⟩
  | @next content field contents more writtenField writtenMore =>
    cases field with
    | nil => exact absurd (List.cons.inj whole).1 (by decide)
    | cons c field =>
      obtain ⟨rfl, rfl⟩ := List.cons.inj whole
      obtain ⟨first, rfl, unmarked⟩ := writtenField.unmarked
      exact ⟨first, contents, rfl, .next unmarked writtenMore⟩

/-- Taking a byte order mark away takes it out of the first field. -/
theorem WrittenTable.unmarked {table : List (List (List Char))} {text : List Char}
    (written : WrittenTable table (orderMark :: text)) :
    ∃ first others rows, table = ((orderMark :: first) :: others) :: rows ∧
      WrittenTable ((first :: others) :: rows) text := by
  have noLineEnd {c : Char} {ends : List Char} (lineEnds : LineEnds (c :: ends)) :
      orderMark ≠ c := by
    rcases lineEnds.forall_mem c (by simp) with rfl | rfl <;> decide
  generalize whole : orderMark :: text = lines at written
  cases written with
  | @last contents row ends writtenRow lineEnds =>
    cases row with
    | nil =>
      rw [List.nil_append] at whole
      subst whole
      exact absurd rfl (noLineEnd lineEnds)
    | cons c row =>
      obtain ⟨rfl, rfl⟩ := List.cons.inj whole
      obtain ⟨first, others, rfl, unmarked⟩ := writtenRow.unmarked
      exact ⟨first, others, [], rfl, .last unmarked lineEnds⟩
  | @next contents row ends table more writtenRow lineEnds apart writtenMore =>
    cases row with
    | nil =>
      obtain ⟨c, ends, rfl⟩ := List.exists_cons_of_ne_nil apart
      exact absurd (List.cons.inj whole).1 (noLineEnd lineEnds)
    | cons c row =>
      obtain ⟨rfl, rfl⟩ := List.cons.inj whole
      obtain ⟨first, others, rfl, unmarked⟩ := writtenRow.unmarked
      exact ⟨first, others, table, rfl, .next unmarked lineEnds apart writtenMore⟩

end QueueDepth.Csv
