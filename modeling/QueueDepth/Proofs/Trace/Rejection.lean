import QueueDepth.Proofs.Csv.Reader
import QueueDepth.Proofs.Trace.Faults
import QueueDepth.Proofs.Trace.Loaded

/-!
# Which row rejects a text

A text whose header names all columns is rejected by the first of its rows that cannot be read, and by
nothing that stands behind it (`first_fault_decides`).

The line that a rejected row is reported on counts the line feeds up to the byte that ended the row
before. A line feed that follows this byte is not counted: the second half of a pair of carriage return
and line feed, or the end of an empty line. So the line is that of the row where no such line feed stands
in between, and otherwise it is too low by their number (`line_of_rejected_row`).
-/

namespace QueueDepth

/-! ## The line of a fault -/

/-- Whatever goes wrong is reported on a line. -/
def BlamesLine {α : Type} (line : Nat) (result : Except Malformed α) : Prop :=
  ∀ rejected, result = .error rejected → rejected.line = line

/-- A row is blamed on the line at which its reading began. -/
theorem BlamesLine.ofRow (columns : Columns) (width : Nat) (row : Csv.Row) :
    BlamesLine row.start.line (Event.ofRow columns width row) :=
  (blames_ofRow columns width row).mono fun _ onLine => onLine.line

/-! ## Headers -/

/-- The text has a header that names all columns, with `body` below it. -/
structure Headed (text : List UInt8) (header : Csv.Row) (body : List Csv.Row) (columns : Columns) :
    Prop where
  rows : Csv.rows text = header :: body
  named : (fieldTexts header.start header.fields).bind Columns.ofHeader = .ok columns

namespace Trace

variable {text : List UInt8} {trace : Trace} {rejected : Malformed} {header : Csv.Row}
  {body : List Csv.Row} {columns : Columns}

theorem ofCsv_of_headed (headed : Headed text header body columns) :
    ofCsv text = (body.mapM (Event.ofRow columns header.fields.length)).map ofLog := by
  have named := headed.named
  unfold ofCsv
  rw [headed.rows]
  cases texts : fieldTexts header.start header.fields with
  | error fault =>
    rw [texts] at named
    cases named
  | ok names =>
    rw [texts] at named
    have found : Columns.ofHeader names = .ok columns := named
    simp only [Event.ofRows, texts, found, bind, Except.bind]

/-- Only a text with a header is accepted. -/
theorem exists_headed_of_ofCsv (loaded : ofCsv text = .ok trace) :
    ∃ header body columns, Headed text header body columns := by
  unfold ofCsv at loaded
  cases rows : Csv.rows text with
  | nil =>
    rw [rows] at loaded
    cases loaded
  | cons header body =>
    rw [rows] at loaded
    cases texts : fieldTexts header.start header.fields with
    | error fault =>
      simp only [Event.ofRows, texts, bind, Except.bind] at loaded
      cases loaded
    | ok names =>
      cases found : Columns.ofHeader names with
      | error fault =>
        simp only [Event.ofRows, texts, found, bind, Except.bind] at loaded
        cases loaded
      | ok columns => exact ⟨header, body, columns, rows, by rw [texts]; exact found⟩

theorem ofCsv_eq_error_iff (headed : Headed text header body columns) :
    ofCsv text = .error rejected ↔
      ∃ early row later, body = early ++ row :: later ∧
        (∀ good ∈ early, ∃ event, Event.ofRow columns header.fields.length good = .ok event) ∧
        Event.ofRow columns header.fields.length row = .error rejected := by
  rw [ofCsv_of_headed headed, ← mapM_eq_error_iff]
  cases body.mapM (Event.ofRow columns header.fields.length) <;> simp [Except.map]

/-- A fault in some rows stays the first one when more rows follow. -/
theorem ofRows_append_eq_error {rows more : List Csv.Row} (filled : rows ≠ [])
    (failed : Event.ofRows rows = .error rejected) : Event.ofRows (rows ++ more) = .error rejected := by
  rcases rows with _ | ⟨header, body⟩
  · exact absurd rfl filled
  · simp only [List.cons_append, Event.ofRows] at failed ⊢
    cases texts : fieldTexts header.start header.fields with
    | error fault =>
      rw [texts] at failed
      exact failed
    | ok names =>
      rw [texts] at failed
      cases found : Columns.ofHeader names with
      | error fault =>
        simp only [found, bind, Except.bind] at failed ⊢
        exact failed
      | ok columns =>
        simp only [found, bind, Except.bind] at failed ⊢
        obtain ⟨early, row, later, rfl, good, fault⟩ := mapM_eq_error_iff.mp failed
        exact mapM_eq_error_iff.mpr ⟨early, row, later ++ more, by simp, good, fault⟩

/-! ## The first fault -/

/-- A text that ends with a line and is rejected stays rejected for the same reason, whatever follows.
Under a header that names all columns, the first row that cannot be read rejects the text. A text is
accepted only if each of its rows is read, and its trace holds the events of these rows and no others. -/
theorem first_fault_decides (text : List UInt8) :
    (∀ more rejected, Csv.Terminated text → Csv.rows text ≠ [] → ofCsv text = .error rejected →
      ofCsv (text ++ more) = .error rejected) ∧
    (∀ header body columns, Headed text header body columns → ∀ rejected,
      (ofCsv text = .error rejected ↔
        ∃ early row later, body = early ++ row :: later ∧
          (∀ good ∈ early, ∃ event, Event.ofRow columns header.fields.length good = .ok event) ∧
          Event.ofRow columns header.fields.length row = .error rejected)) ∧
    ∀ trace, ofCsv text = .ok trace → ∃ header body columns log,
      Headed text header body columns ∧
      List.Forall₂ (fun row event => Event.ofRow columns header.fields.length row = .ok event) body log ∧
      trace = ofLog log := by
  refine ⟨?_, ?_, ?_⟩
  · intro more rejected ended filled failed
    have rows : Event.ofRows (Csv.rows text) = .error rejected := by
      unfold ofCsv at failed
      cases read : Event.ofRows (Csv.rows text) <;> rw [read] at failed <;> cases failed
      rfl
    apply ofCsv_eq_error
    rw [Csv.rows_append ended, ofRows_append_eq_error filled rows]
  · intro header body columns headed rejected
    exact ofCsv_eq_error_iff headed
  · intro trace loaded
    obtain ⟨header, body, columns, headed⟩ := exists_headed_of_ofCsv loaded
    rw [ofCsv_of_headed headed] at loaded
    cases read : body.mapM (Event.ofRow columns header.fields.length) with
    | error fault =>
      rw [read] at loaded
      cases loaded
    | ok log =>
      rw [read] at loaded
      cases loaded
      exact ⟨header, body, columns, log, headed, (mapM_eq_ok_iff _ _ _).mp read, rfl⟩

/-- A row with its number missing its first figure, and behind it a quotation mark that is never closed
and bytes that are no text. -/
def misprintedText : List UInt8 :=
  Text.Utf8.encode ("timestamp,actor_id,gen_id,thread_id,eventType\n" ++ "5,7,,main,Enqueue\n" ++
    "x6,7,,main,Enqueue\n").toList

theorem ofCsv_misprintedText :
    ofCsv misprintedText = .error ⟨3, .notANumber .timestamp "x6"⟩ :=
  ofCsv_eq_error (by decide +kernel)

theorem first_fault_of_misprintedText :
    Csv.Terminated misprintedText ∧ Csv.rows misprintedText ≠ [] ∧
      ofCsv misprintedText = .error ⟨3, .notANumber .timestamp "x6"⟩ ∧
      ofCsv (misprintedText ++ [0x22, 0xFF, 0x0A]) = .error ⟨3, .notANumber .timestamp "x6"⟩ := by
  have ended : Csv.Terminated misprintedText :=
    ⟨misprintedText.dropLast, by decide +kernel, by decide +kernel⟩
  have filled : Csv.rows misprintedText ≠ [] := by decide +kernel
  obtain ⟨stays, _, _⟩ := first_fault_decides misprintedText
  exact ⟨ended, filled, ofCsv_misprintedText, stays _ _ ended filled ofCsv_misprintedText⟩

/-! ## The line of the first fault -/

/-- A row that is rejected is reported on the line that counts the line feeds up to the byte that ended
the row before it. The line on which it begins counts those in the gap as well. So the report is right
where there is no line feed in the gap, and otherwise it falls short by their number. -/
theorem line_of_rejected_row (headed : Headed text header body columns)
    (failed : ofCsv text = .error rejected) :
    ∃ early row later before gap rest, body = early ++ row :: later ∧
      (∀ good ∈ early, ∃ event, Event.ofRow columns header.fields.length good = .ok event) ∧
      Event.ofRow columns header.fields.length row = .error rejected ∧
      Csv.Parted text (header :: early) before gap rest ∧
      rejected.line + gap.count 0x0A = 1 + (before ++ gap).count 0x0A ∧
      (rejected.line = 1 + (before ++ gap).count 0x0A ↔ 0x0A ∉ gap) := by
  obtain ⟨early, row, later, split, good, fault⟩ := (ofCsv_eq_error_iff headed).mp failed
  have read : Csv.rows text = header :: (early ++ row :: later) := by rw [headed.rows, split]
  obtain ⟨before, gap, rest, parted, line⟩ := Csv.exists_parted_of_rows read
  have blamed : rejected.line = 1 + before.count 0x0A :=
    (BlamesLine.ofRow _ _ row rejected fault).trans line
  refine ⟨early, row, later, before, gap, rest, split, good, fault, parted, ?_, ?_⟩
  · rw [blamed, List.count_append, Nat.add_assoc]
  · rw [blamed, List.count_append, ← List.count_eq_zero]
    omega

/-- A field with a line feed in it, and an empty line before the row that cannot be read. -/
def looseText : List UInt8 :=
  Text.Utf8.encode ("timestamp,actor_id,gen_id,thread_id,eventType\n" ++ "5,7,,\"ma\nin\",Enqueue\n\n" ++
    "x6,7,,main,Enqueue\n").toList

theorem line_in_looseText :
    ∃ header body columns, Headed looseText header body columns ∧
      ofCsv looseText = .error ⟨4, .notANumber .timestamp "x6"⟩ ∧
      ∃ done before gap rest, Csv.Parted looseText done before gap rest ∧
        4 + gap.count 0x0A = 1 + (before ++ gap).count 0x0A := by
  have headed : Headed looseText ((Csv.rows looseText).headD ⟨.start, []⟩) (Csv.rows looseText).tail
      ⟨0, 1, 2, 3, 4⟩ := ⟨by decide +kernel, by decide +kernel⟩
  have failed : ofCsv looseText = .error ⟨4, .notANumber .timestamp "x6"⟩ :=
    ofCsv_eq_error (by decide +kernel)
  obtain ⟨early, _, _, before, gap, rest, _, _, _, parted, line, _⟩ :=
    line_of_rejected_row headed failed
  exact ⟨_, _, _, headed, failed, _, before, gap, rest, parted, line⟩

/-- Two lines that end in carriage return and line feed, up to the second carriage return. -/
def pairedHead : List UInt8 :=
  Text.Utf8.encode ("timestamp,actor_id,gen_id,thread_id,eventType\r\n" ++ "5,7,,main,Enqueue\r").toList

/-- A third line that cannot be read. -/
def pairedTail : List UInt8 :=
  Text.Utf8.encode "x6,7,,main,Enqueue\r\n".toList

/-- The row on the third line is reported on the second. -/
theorem line_of_pairedTail :
    ofCsv (pairedHead ++ ([0x0A] ++ pairedTail)) = .error ⟨2, .notANumber .timestamp "x6"⟩ ∧
      Csv.Parted (pairedHead ++ ([0x0A] ++ pairedTail)) (Csv.rows pairedHead) pairedHead [0x0A]
        pairedTail ∧
      1 + (pairedHead ++ [0x0A]).count 0x0A = 3 := by
  refine ⟨ofCsv_eq_error (by decide +kernel), ⟨rfl, rfl, ⟨⟨2, 2, 65⟩, by decide +kernel⟩, ?_, ?_⟩,
    by decide +kernel⟩
  · intro byte member
    rw [List.mem_singleton.mp member]
    rfl
  · exact ⟨0x78, pairedTail.tail, by decide +kernel, by decide⟩

end Trace

end QueueDepth
