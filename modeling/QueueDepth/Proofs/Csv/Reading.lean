import Mathlib.Data.List.Forall2
import QueueDepth.Csv
import QueueDepth.Proofs.Csv.Layout
import QueueDepth.Proofs.Text.Ascii

/-!
# Reading written tables

A table of several columns is read back from every text it can be written as: there is one row for each
row, and its fields carry the contents (`forall₂_rows`). What a field carries may have kept the blanks
around its content, and the first one may lack a byte order mark.

The reader takes one byte at a time. So the proof goes from runs of bytes that are kept, over fields and
rows, to the table; behind a field the reader stands in one of three phases (`Phase.Behind`), and all of
them end the field at a comma and the row at the end of a line.
-/

namespace QueueDepth.Csv

open Text

/-- The place behind some more bytes. -/
def Position.behind (here : Position) (bytes : List UInt8) : Position :=
  bytes.foldl Position.after here

/-- Some more bytes in the last field. -/
def Draft.hold (draft : Draft) (bytes : List UInt8) : Draft :=
  { draft with field := bytes.reverse ++ draft.field }

/-- The phases behind a field. -/
inductive Phase.Behind : Phase → Prop where
  | empty : Behind .fieldStart
  | bare : Behind .plain
  | closed : Behind .quoteSeen

/-- The bytes hold a content, possibly with more blanks around it. -/
def Carries (bytes : List UInt8) (content : List Char) : Prop :=
  ∃ kept, bytes = Utf8.encode kept ∧ trim kept = trim content

section

variable {phase next : Phase} {draft : Draft} {here : Position} {byte : UInt8}
  {bytes rest : List UInt8}

/-! ## Bytes -/

@[simp]
theorem Position.behind_nil : here.behind [] = here :=
  rfl

@[simp]
theorem Position.behind_cons : here.behind (byte :: bytes) = (here.after byte).behind bytes :=
  rfl

@[simp]
theorem Position.behind_append : here.behind (bytes ++ rest) = (here.behind bytes).behind rest := by
  simp [Position.behind]

@[simp]
theorem Draft.hold_nil : draft.hold [] = draft :=
  rfl

@[simp]
theorem Draft.hold_keep : (draft.keep byte).hold bytes = draft.hold (byte :: bytes) := by
  simp [Draft.hold, Draft.keep]

@[simp]
theorem Draft.hold_hold : (draft.hold bytes).hold rest = draft.hold (bytes ++ rest) := by
  simp [Draft.hold]

theorem rowsFrom_keep (step : phase.step byte = .keep next) :
    rowsFrom phase draft here (byte :: rest)
      = rowsFrom next (draft.keep byte) (here.after byte) rest := by
  rw [rowsFrom, step]

theorem rowsFrom_mark (step : phase.step byte = .mark next) :
    rowsFrom phase draft here (byte :: rest) = rowsFrom next draft (here.after byte) rest := by
  rw [rowsFrom, step]

/-- A run of bytes that the phase keeps. -/
theorem rowsFrom_keeps (steps : ∀ byte ∈ bytes, phase.step byte = .keep phase) :
    rowsFrom phase draft here (bytes ++ rest)
      = rowsFrom phase (draft.hold bytes) (here.behind bytes) rest := by
  induction bytes generalizing draft here with
  | nil => rfl
  | cons byte bytes ih =>
    rw [List.cons_append, rowsFrom_keep (steps byte (by simp)),
      ih fun byte member => steps byte (by simp [member])]
    simp

theorem rowsFrom_comma (behind : phase.Behind) :
    rowsFrom phase draft here (comma :: rest)
      = rowsFrom .fieldStart draft.endField (here.after comma) rest := by
  have step : phase.step comma = .endField := by cases behind <;> rfl
  rw [rowsFrom, step]

theorem rowsFrom_lineEnd (behind : phase.Behind) (lineEnd : isLineEnd byte = true) :
    rowsFrom phase draft here (byte :: rest)
      = draft.toRow :: rowsFrom .between (.blank (here.after byte).nextRecord)
          (here.after byte).nextRecord rest := by
  have step : phase.step byte = .endRow := by
    rcases (by simpa [isLineEnd] using lineEnd : byte = 0x0A ∨ byte = 0x0D) with rfl | rfl <;>
      cases behind <;> rfl
  rw [rowsFrom, step]

theorem rowsFrom_nil (behind : phase.Behind) : rowsFrom phase draft here [] = [draft.toRow] := by
  cases behind <;> rfl

/-- Only the end of a line keeps the reader between two rows. -/
theorem rowsFrom_between (noLineEnd : isLineEnd byte = false) :
    rowsFrom .between draft here (byte :: rest)
      = rowsFrom .fieldStart draft here (byte :: rest) := by
  have step : Phase.between.step byte = Phase.fieldStart.step byte := by
    simp [Phase.step, noLineEnd]
  rw [rowsFrom, rowsFrom, step]

end

/-! ## Fields -/

section

variable {draft : Draft} {here : Position} {rest : List UInt8}

/-- The bytes of characters that have no part in the layout have no part in it either. -/
theorem unquoted_of_mem_encode {text : List Char} {byte : UInt8}
    (plain : ∀ c ∈ text, c ≠ ',' ∧ c ≠ '"' ∧ c ≠ '\r' ∧ c ≠ '\n')
    (member : byte ∈ Utf8.encode text) : byte ≠ quote ∧ unquotedStep byte = .keep .plain := by
  obtain ⟨c, inText, inChar⟩ := List.mem_flatMap.mp member
  obtain ⟨noComma, noQuote, noReturn, noFeed⟩ := plain c inText
  have commaFree : byte ≠ comma :=
    Utf8.ne_of_mem_encodeChar (by decide) noComma inChar
  have quoteFree : byte ≠ quote :=
    Utf8.ne_of_mem_encodeChar (by decide) noQuote inChar
  have returnFree : byte ≠ 0x0D :=
    Utf8.ne_of_mem_encodeChar (by decide) noReturn inChar
  have feedFree : byte ≠ 0x0A :=
    Utf8.ne_of_mem_encodeChar (by decide) noFeed inChar
  refine ⟨quoteFree, ?_⟩
  simp [unquotedStep, isLineEnd, commaFree, returnFree, feedFree]

theorem rowsFrom_bare (draft : Draft) (here : Position) (rest : List UInt8) {text : List Char}
    (plain : ∀ c ∈ text, c ≠ ',' ∧ c ≠ '"' ∧ c ≠ '\r' ∧ c ≠ '\n') :
    ∃ phase : Phase, phase.Behind ∧
      rowsFrom .fieldStart draft here (Utf8.encode text ++ rest)
        = rowsFrom phase (draft.hold (Utf8.encode text)) (here.behind (Utf8.encode text)) rest := by
  have unquoted : ∀ byte ∈ Utf8.encode text, byte ≠ quote ∧ unquotedStep byte = .keep .plain :=
    fun byte member => unquoted_of_mem_encode plain member
  cases bytes : Utf8.encode text with
  | nil => exact ⟨.fieldStart, .empty, rfl⟩
  | cons byte bytes =>
    rw [bytes] at unquoted
    obtain ⟨noQuote, kept⟩ := unquoted byte (by simp)
    have first : Phase.fieldStart.step byte = .keep .plain := by
      simp [Phase.step, fieldStep, noQuote, kept]
    refine ⟨.plain, .bare, ?_⟩
    rw [List.cons_append, rowsFrom_keep first, rowsFrom_keeps]
    · simp
    · intro byte member
      exact (unquoted byte (by simp [member])).2

theorem rowsFrom_doubled (content : List Char) :
    rowsFrom .quoted draft here (Utf8.encode (content.flatMap doubled) ++ rest)
      = rowsFrom .quoted (draft.hold (Utf8.encode content))
          (here.behind (Utf8.encode (content.flatMap doubled))) rest := by
  induction content generalizing draft here with
  | nil => rfl
  | cons c content ih =>
    rw [List.flatMap_cons, Utf8.encode_append, List.append_assoc, Utf8.encode_cons]
    by_cases isQuote : c = '"'
    · -- The first of the two marks might close the field; the second one is kept.
      subst isQuote
      have written : Utf8.encode (doubled '"') = [quote, quote] := rfl
      have single : String.utf8EncodeChar '"' = [quote] := rfl
      have first : Phase.quoted.step quote = .mark .quoteSeen := rfl
      have second : Phase.quoteSeen.step quote = .keep .quoted := rfl
      rw [written, single, List.cons_append, List.cons_append, List.nil_append,
        rowsFrom_mark first, rowsFrom_keep second, ih]
      simp
    · have written : Utf8.encode (doubled c) = String.utf8EncodeChar c := by
        simp [doubled, isQuote]
      rw [written, rowsFrom_keeps, ih]
      · simp
      · intro byte member
        have noQuote : byte ≠ quote :=
          Utf8.ne_of_mem_encodeChar (by decide) isQuote member
        simp [Phase.step, noQuote]

/-- A written field is held without its quotation marks. -/
theorem rowsFrom_field (draft : Draft) (here : Position) (rest : List UInt8)
    {content text : List Char} (written : WrittenField content text) :
    ∃ (phase : Phase) (bytes : List UInt8), phase.Behind ∧ Carries bytes content ∧
      rowsFrom .fieldStart draft here (Utf8.encode text ++ rest)
        = rowsFrom phase (draft.hold bytes) (here.behind (Utf8.encode text)) rest := by
  cases written with
  | quoted content =>
    refine ⟨.quoteSeen, Utf8.encode content, .closed, ⟨content, rfl, rfl⟩, ?_⟩
    have single : String.utf8EncodeChar '"' = [quote] := rfl
    have opening : Phase.fieldStart.step quote = .mark .quoted := rfl
    have closing : Phase.quoted.step quote = .mark .quoteSeen := rfl
    rw [Utf8.encode_cons, Utf8.encode_append, Utf8.encode_cons, Utf8.encode_nil, single,
      List.append_nil, List.append_assoc, List.append_assoc, List.cons_append, List.nil_append,
      rowsFrom_mark opening, rowsFrom_doubled, List.cons_append, List.nil_append,
      rowsFrom_mark closing]
    simp
  | @bare left content right leftBlank rightBlank plain =>
    have outside : ∀ c ∈ left ++ content ++ right, c ≠ ',' ∧ c ≠ '"' ∧ c ≠ '\r' ∧ c ≠ '\n' := by
      intro c member
      rw [List.mem_append, List.mem_append] at member
      rcases member with (inLeft | inContent) | inRight
      · rcases leftBlank c inLeft with rfl | rfl <;> decide
      · exact plain c inContent
      · rcases rightBlank c inRight with rfl | rfl <;> decide
    have blank {margin : List Char} (blanks : ∀ c ∈ margin, c = ' ' ∨ c = '\t') :
        ∀ c ∈ margin, isBlank c = true := by
      intro c member
      rcases blanks c member with rfl | rfl <;> decide
    obtain ⟨phase, behind, read⟩ := rowsFrom_bare draft here rest outside
    refine ⟨phase, _, behind, ⟨_, rfl, ?_⟩, read⟩
    exact trimBy_padded content (blank leftBlank) (blank rightBlank)

end

/-! ## Rows -/

theorem rowsFrom_row {contents : List (List Char)} {text : List Char}
    (written : WrittenRow contents text) (start : Position) (before : List (List UInt8))
    (here : Position) (rest : List UInt8) :
    ∃ (phase : Phase) (draft : Draft) (fields : List (List UInt8)), phase.Behind ∧
      draft.toRow = ⟨start, before.reverse ++ fields⟩ ∧ List.Forall₂ Carries fields contents ∧
      rowsFrom .fieldStart ⟨start, before, []⟩ here (Utf8.encode text ++ rest)
        = rowsFrom phase draft (here.behind (Utf8.encode text)) rest := by
  induction written generalizing before here with
  | last field =>
    obtain ⟨phase, bytes, behind, carries, read⟩ :=
      rowsFrom_field ⟨start, before, []⟩ here rest field
    refine ⟨phase, _, [bytes], behind, ?_, .cons carries .nil, read⟩
    simp [Draft.toRow, Draft.endField, Draft.hold]
  | @next content field contents more writtenField _ ih =>
    obtain ⟨phase, bytes, behind, carries, read⟩ := rowsFrom_field ⟨start, before, []⟩ here
      (comma :: (Utf8.encode more ++ rest)) writtenField
    obtain ⟨last, draft, fields, lastBehind, row, carried, readMore⟩ :=
      ih (bytes :: before) ((here.behind (Utf8.encode field)).after comma)
    refine ⟨last, draft, bytes :: fields, lastBehind, ?_, .cons carries carried, ?_⟩
    · rw [row]
      simp
    · have single : String.utf8EncodeChar ',' = [comma] := rfl
      have ended : (Draft.hold ⟨start, before, []⟩ bytes).endField = ⟨start, bytes :: before, []⟩ := by
        simp [Draft.hold, Draft.endField]
      rw [Utf8.encode_append, Utf8.encode_cons, single, List.append_assoc, List.append_assoc,
        List.cons_append, List.nil_append, read, rowsFrom_comma behind, ended, readMore]
      simp

/-! ## Tables -/

theorem isLineEnd_of_mem_encode {ends : List Char} {byte : UInt8}
    (lineEnds : ∀ c ∈ ends, c = '\n' ∨ c = '\r') (member : byte ∈ Utf8.encode ends) :
    isLineEnd byte = true := by
  obtain ⟨c, inEnds, inChar⟩ := List.mem_flatMap.mp member
  rcases lineEnds c inEnds with rfl | rfl
  · rw [Utf8.encodeChar_of_plain (by decide), List.mem_singleton] at inChar
    rw [inChar]
    rfl
  · rw [Utf8.encodeChar_of_plain (by decide), List.mem_singleton] at inChar
    rw [inChar]
    rfl

/-- Empty lines are skipped. -/
theorem rowsFrom_ends (draft : Draft) (here : Position) (rest : List UInt8) {ends : List UInt8}
    (lineEnds : ∀ byte ∈ ends, isLineEnd byte = true) :
    rowsFrom .between draft here (ends ++ rest) = rowsFrom .between draft (here.behind ends) rest := by
  induction ends generalizing here with
  | nil => rfl
  | cons byte ends ih =>
    have step : Phase.between.step byte = .skip := by
      simp [Phase.step, lineEnds byte (by simp)]
    rw [List.cons_append, rowsFrom, step]
    exact ih _ fun byte member => lineEnds byte (by simp [member])

/-- The line ends behind a row end it, and the next row begins somewhere behind them. -/
theorem rowsFrom_rowEnd {phase : Phase} (behind : phase.Behind) (draft : Draft) (here : Position)
    (rest : List UInt8) {ends : List Char} (lineEnds : LineEnds ends) (apart : ends ≠ []) :
    ∃ start behindEnds, rowsFrom phase draft here (Utf8.encode ends ++ rest)
      = draft.toRow :: rowsFrom .between (.blank start) behindEnds rest := by
  have allEnds : ∀ byte ∈ Utf8.encode ends, isLineEnd byte = true :=
    fun byte member => isLineEnd_of_mem_encode lineEnds.forall_mem member
  cases bytes : Utf8.encode ends with
  | nil =>
    obtain ⟨c, more, rfl⟩ := List.exists_cons_of_ne_nil apart
    rw [Utf8.encode_cons] at bytes
    exact absurd (List.append_eq_nil_iff.mp bytes).1 (Utf8.encodeChar_ne_nil c)
  | cons byte bytes' =>
    rw [bytes] at allEnds
    refine ⟨(here.after byte).nextRecord, (here.after byte).nextRecord.behind bytes', ?_⟩
    rw [List.cons_append, rowsFrom_lineEnd behind (allEnds byte (by simp)), rowsFrom_ends]
    exact fun byte member => allEnds byte (by simp [member])

/-- A row of several fields is begun where the reader stands between two rows. -/
theorem rowsFrom_rowStart {contents : List (List Char)} {text : List Char}
    (written : WrittenRow contents text) (several : 2 ≤ contents.length) (draft : Draft)
    (here : Position) (rest : List UInt8) :
    rowsFrom .between draft here (Utf8.encode text ++ rest)
      = rowsFrom .fieldStart draft here (Utf8.encode text ++ rest) := by
  obtain ⟨c, more, rfl, noFeed, noReturn⟩ := written.head several
  obtain ⟨byte, bytes, first⟩ := List.exists_cons_of_ne_nil (Utf8.encodeChar_ne_nil c)
  have member : byte ∈ String.utf8EncodeChar c := by simp [first]
  have feedFree : byte ≠ 0x0A :=
    Utf8.ne_of_mem_encodeChar (by decide) noFeed member
  have returnFree : byte ≠ 0x0D :=
    Utf8.ne_of_mem_encodeChar (by decide) noReturn member
  rw [Utf8.encode_cons, first, List.append_assoc, List.cons_append]
  apply rowsFrom_between
  simp [isLineEnd, feedFree, returnFree]

/-- A written table is read row by row and field by field. -/
theorem rowsFrom_table {table : List (List (List Char))} {text : List Char}
    (written : WrittenTable table text) (several : ∀ contents ∈ table, 2 ≤ contents.length)
    (start here : Position) :
    List.Forall₂ (fun row contents => List.Forall₂ Carries row.fields contents)
      (rowsFrom .between (.blank start) here (Utf8.encode text)) table := by
  induction written generalizing start here with
  | @last contents row ends writtenRow lineEnds =>
    obtain ⟨phase, draft, fields, behind, done, carried, read⟩ :=
      rowsFrom_row writtenRow start [] here (Utf8.encode ends)
    have alone : ∀ here', rowsFrom phase draft here' (Utf8.encode ends) = [draft.toRow] := by
      intro here'
      by_cases empty : ends = []
      · rw [empty, Utf8.encode_nil]
        exact rowsFrom_nil behind
      · obtain ⟨next, behindEnds, ended⟩ := rowsFrom_rowEnd behind draft here' [] lineEnds empty
        rw [List.append_nil] at ended
        rw [ended]
        rfl
    rw [Utf8.encode_append, rowsFrom_rowStart writtenRow (several _ (by simp)), Draft.blank, read,
      alone, done]
    exact .cons carried .nil
  | @next contents row ends table more writtenRow lineEnds apart _ ih =>
    obtain ⟨phase, draft, fields, behind, done, carried, read⟩ :=
      rowsFrom_row writtenRow start [] here (Utf8.encode ends ++ Utf8.encode more)
    obtain ⟨next, behindEnds, ended⟩ := rowsFrom_rowEnd behind draft
      (here.behind (Utf8.encode row)) (Utf8.encode more) lineEnds apart
    rw [Utf8.encode_append, Utf8.encode_append,
      rowsFrom_rowStart writtenRow (several _ (by simp)), Draft.blank, read, ended]
    refine .cons ?_ (ih (fun contents member => several contents (by simp [member])) next behindEnds)
    rw [done]
    exact carried

/-! ## Texts -/

theorem rows_marked (text : List Char) :
    rows (Utf8.encode (orderMark :: text))
      = rowsFrom .between (.blank .start) { Position.start with byte := byteOrderMark.length }
          (Utf8.encode text) := by
  have mark : String.utf8EncodeChar orderMark = byteOrderMark := rfl
  have begins : byteOrderMark.isPrefixOf (byteOrderMark ++ Utf8.encode text) = true :=
    List.isPrefixOf_iff_prefix.mpr (List.prefix_append _ _)
  rw [Utf8.encode_cons, mark, rows, if_pos begins, List.drop_left]

theorem rows_unmarked {text : List Char} (other : text.head? ≠ some orderMark) :
    rows (Utf8.encode text) = rowsFrom .between (.blank .start) .start (Utf8.encode text) := by
  unfold rows
  rw [if_neg]
  intro begins
  obtain ⟨more, whole⟩ := List.isPrefixOf_iff_prefix.mp begins
  cases text with
  | nil => cases whole
  | cons c rest =>
    -- The bytes begin with one character only.
    have mark : Utf8.first? (byteOrderMark ++ more) = some orderMark :=
      Utf8.first?_encodeChar_append orderMark more
    rw [whole, Utf8.encode_cons, Utf8.first?_encodeChar_append] at mark
    exact other mark

/-- A written table is read from its text, apart from a byte order mark that its first field begins
with. -/
theorem forall₂_rows {header : List (List Char)} {body : List (List (List Char))} {text : List Char}
    (written : WrittenText (header :: body) text)
    (several : ∀ contents ∈ header :: body, 2 ≤ contents.length) :
    ∃ names, List.Forall₂ (fun name content => name = content ∨ name = withoutMark content)
        names header ∧
      List.Forall₂ (fun row contents => List.Forall₂ Carries row.fields contents)
        (rows (Utf8.encode text)) (names :: body) := by
  have same (contents : List (List Char)) :
      List.Forall₂ (fun name content => name = content ∨ name = withoutMark content)
        contents contents :=
    List.forall₂_same.mpr fun content _ => .inl rfl
  cases written with
  | @marked text table =>
    refine ⟨header, same header, ?_⟩
    rw [rows_marked]
    exact rowsFrom_table table several _ _
  | bare table =>
    by_cases mark : text.head? = some orderMark
    · obtain ⟨rest, rfl⟩ : ∃ rest, text = orderMark :: rest := by
        cases text with
        | nil => cases mark
        | cons c rest => exact ⟨rest, by rw [Option.some.inj mark]⟩
      obtain ⟨first, others, _, marked, unmarked⟩ := table.unmarked
      obtain ⟨rfl, rfl⟩ := List.cons.inj marked
      refine ⟨first :: others, .cons (.inr rfl) (same others), ?_⟩
      rw [rows_marked]
      obtain ⟨wide, wideBody⟩ := List.forall_mem_cons.mp several
      exact rowsFrom_table unmarked (List.forall_mem_cons.mpr ⟨wide, wideBody⟩) _ _
    · refine ⟨header, same header, ?_⟩
      rw [rows_unmarked mark]
      exact rowsFrom_table table several _ _

end QueueDepth.Csv
