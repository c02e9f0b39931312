import QueueDepth.Proofs.Number.Decimal
import QueueDepth.Proofs.Trace.Rows

/-!
# Layouts of a log

A log can be laid out as text in many ways: the needed columns in any order and further columns between
them, a missing number as blanks, and the table itself as comma-separated rows allow. `Trace.Layout`
says what all these texts are, and `Trace.ofCsv_layout` reads the log back from each of them.
-/

namespace QueueDepth

open Text

/-! ## What a trace can say -/

/-- The events that rows can report. -/
structure Event.Loadable (event : Event) : Prop where
  timestamp : event.timestamp < Number.unsignedBound
  actor : ∀ id ∈ event.actor, id < Number.unsignedBound
  generation : ∀ id ∈ event.generation, id < Number.unsignedBound
  thread : trim event.thread.toList = event.thread.toList
  kind : ∃ name : String, name ≠ "" ∧ trim name.toList = name.toList ∧ event.kind = Kind.ofName name
  named : event.kind.needsActor = true → event.actor.isSome = true

/-- What the columns of a table are for. -/
inductive Heading where
  | needed (column : Column)
  | extra (name : List Char)

namespace Heading

/-- What stands in the header. -/
def name : Heading → List Char
  | needed column => column.name.toList
  | extra name => name

/-- An extra column must not be taken for a needed one. -/
def Apart : Heading → Prop
  | needed _ => True
  | extra name => ∀ column : Column, trim (Csv.withoutMark name) ≠ column.name.toList

end Heading

/-- The contents of a cell for a number that may be absent. -/
inductive Figure : Option Nat → List Char → Prop where
  | decimal (n : Nat) : Figure (some n) (Nat.toDigits 10 n)
  | absent {content : List Char} : trim content = [] → Figure none content

/-- The contents of the cells of an event. -/
def Event.Shows (event : Event) : Heading → List Char → Prop
  | .needed .timestamp, content => Figure (some event.timestamp) content
  | .needed .actor, content => Figure event.actor content
  | .needed .generation, content => Figure event.generation content
  | .needed .thread, content => content = event.thread.toList
  | .needed .kind, content => content = event.kind.name.toList
  | .extra _, _ => True

/-- A text that a log is laid out as. -/
structure Trace.Layout (log : List Event) (text : List Char) where
  headings : List Heading
  complete : ∀ column, .needed column ∈ headings
  apart : ∀ heading ∈ headings, heading.Apart
  /-- The contents of the rows below the header. -/
  cells : List (List (List Char))
  shown : List.Forall₂ (fun event row => List.Forall₂ event.Shows headings row) log cells
  written : Csv.WrittenText (headings.map Heading.name :: cells) text

/-! ## The header -/

theorem Column.name_injective {a b : Column} (same : a.name = b.name) : a = b := by
  cases a <;> cases b <;> simp_all [Column.name]

/-- A text in the header is the name of a column exactly if the column is there. -/
def Heading.Reads (heading : Heading) (text : String) : Prop :=
  ∀ column : Column, text = column.name ↔ heading = .needed column

/-- A byte order mark in front of a name changes nothing. -/
theorem Heading.reads_cellText (heading : Heading) (apart : heading.Apart) {name : List Char}
    (read : name = heading.name ∨ name = Csv.withoutMark heading.name) :
    heading.Reads (cellText name) := by
  intro column
  have unmarked (column : Column) : Csv.orderMark ∉ column.name.toList := by
    cases column <;> decide
  cases heading with
  | needed own =>
    have unchanged : name = own.name.toList := by
      rcases read with same | same
      · exact same
      · rw [same]
        exact Csv.withoutMark_eq_self (unmarked own)
    have untrimmed : cellText own.name.toList = own.name := by
      cases own <;> decide
    rw [unchanged, untrimmed]
    constructor
    · intro same
      rw [Column.name_injective same]
    · intro same
      rw [Heading.needed.inj same]
  | extra other =>
    have different : cellText name ≠ column.name := by
      intro same
      have spelled : trim name = column.name.toList := by
        rw [← same, cellText, String.toList_ofList]
      rcases read with whole | tail
      · by_cases marked : Csv.orderMark ∈ name
        · -- The mark is no blank and stays in the name, but no column bears it.
          have kept : Csv.orderMark ∈ trim name := mem_trimBy (by decide) marked
          rw [spelled] at kept
          exact unmarked column kept
        · apply apart column
          rw [← spelled, ← show name = other from whole, Csv.withoutMark_eq_self marked]
      · apply apart column
        rw [← spelled, tail]
        rfl
    simp [different]

theorem forall₂_reads {headings : List Heading} (apart : ∀ heading ∈ headings, heading.Apart)
    {names : List (List Char)}
    (read : List.Forall₂ (fun name content => name = content ∨ name = Csv.withoutMark content)
      names (headings.map Heading.name)) :
    List.Forall₂ Heading.Reads headings (names.map cellText) := by
  induction headings generalizing names with
  | nil =>
    cases read
    exact .nil
  | cons heading headings ih =>
    cases read with
    | cons first more =>
      obtain ⟨firstApart, othersApart⟩ := List.forall_mem_cons.mp apart
      exact .cons (heading.reads_cellText firstApart first) (ih othersApart more)

theorem heading_of_findIdx? {headings : List Heading} {texts : List String}
    (named : List.Forall₂ Heading.Reads headings texts)
    {column : Column} {place : Nat} (found : texts.findIdx? (· = column.name) = some place) :
    headings[place]? = some (.needed column) := by
  obtain ⟨bound, isName, -⟩ := List.findIdx?_eq_some_iff_getElem.mp found
  have inside : place < headings.length := by
    rw [named.length_eq]
    exact bound
  have iff := named.get inside bound column
  rw [List.getElem?_eq_getElem inside]
  exact congrArg some (iff.mp (by simpa using isName))

theorem name_mem_of_complete {headings : List Heading} {texts : List String}
    (named : List.Forall₂ Heading.Reads headings texts)
    {column : Column} (member : .needed column ∈ headings) : column.name ∈ texts := by
  obtain ⟨place, inside, here⟩ := List.getElem_of_mem member
  have bound : place < texts.length := by
    rw [← named.length_eq]
    exact inside
  have iff := named.get inside bound column
  rw [← iff.mpr here]
  exact List.getElem_mem bound

/-! ## The rows -/

theorem trim_decimal (n : Nat) : trim (Nat.toDigits 10 n) = Nat.toDigits 10 n := by
  apply trimBy_eq_self
  intro c member
  have digit := Number.isDigit_of_mem_decimal member
  have range : 48 ≤ c.toNat ∧ c.toNat ≤ 57 := by
    simpa [Char.isDigit, UInt32.le_iff_toNat_le] using digit
  simp [isBlank]
  omega

theorem numberField_figure {value : Option Nat} {content : List Char} (figure : Figure value content)
    (small : ∀ n ∈ value, n < Number.unsignedBound) (line : Nat) (column : Column) :
    numberField line column (cellText content) = .ok value := by
  cases figure with
  | absent blank =>
    rw [cellText, blank]
    rfl
  | decimal n =>
    have filled : (String.ofList (Nat.toDigits 10 n)).isEmpty = false := by
      simp [Nat.toDigits_ne_nil]
    rw [cellText, trim_decimal, numberField, filled, String.toList_ofList,
      Number.readUnsigned_toDigits (small n rfl)]
    rfl

/-- Where a row shows an event, the text under a needed column is that of the event. -/
theorem text_of_shows {event : Event} {headings : List Heading} {contents : List (List Char)}
    {columns : Columns} {column : Column} (shown : List.Forall₂ event.Shows headings contents)
    (placed : headings[columns.place column]? = some (.needed column)) :
    ∃ content, columns.text (contents.map cellText) column = cellText content ∧
      event.Shows (.needed column) content := by
  obtain ⟨inside, here⟩ := List.getElem?_eq_some_iff.mp placed
  have bound : columns.place column < contents.length := by
    rw [← shown.length_eq]
    exact inside
  have shows := shown.get inside bound
  refine ⟨contents[columns.place column], ?_, ?_⟩
  · simp [Columns.text, bound]
  · rw [← here]
    exact shows

/-- A row that shows an event is read as this event. -/
theorem Event.ofRow_eq_ok {event : Event} (loadable : event.Loadable) {headings : List Heading}
    {columns : Columns} (placed : ∀ column, headings[columns.place column]? = some (.needed column))
    {row : Csv.Row} {contents : List (List Char)}
    (carried : List.Forall₂ Csv.Carries row.fields contents)
    (shown : List.Forall₂ event.Shows headings contents) :
    Event.ofRow columns headings.length row = .ok event := by
  have even : row.fields.length = headings.length := by
    rw [carried.length_eq, shown.length_eq]
  have texts : fieldTexts row.start (row.fields.map trimAscii) = .ok (contents.map cellText) := by
    apply fieldTexts_eq_ok
    rw [List.forall₂_map_left_iff]
    exact carried.imp fun bytes content => carries_trimAscii
  obtain ⟨timestampContent, timestampText, timestampShown⟩ := text_of_shows shown (placed .timestamp)
  obtain ⟨actorContent, actorText, actorShown⟩ := text_of_shows shown (placed .actor)
  obtain ⟨generationContent, generationText, generationShown⟩ :=
    text_of_shows shown (placed .generation)
  obtain ⟨threadContent, threadText, threadShown⟩ := text_of_shows shown (placed .thread)
  obtain ⟨kindContent, kindText, kindShown⟩ := text_of_shows shown (placed .kind)
  obtain ⟨name, filled, untrimmed, known⟩ := loadable.kind
  have kindName : columns.text (contents.map cellText) .kind = name := by
    rw [kindText, kindShown, known, Kind.name_ofName, cellText, untrimmed, String.ofList_toList]
  have read : Event.ofFields columns row.start.line (contents.map cellText) = .ok event := by
    apply Event.ofFields_eq_ok
    · rw [timestampText]
      apply numberField_figure timestampShown
      intro n same
      rw [← Option.some.inj same]
      exact loadable.timestamp
    · rw [actorText]
      exact numberField_figure actorShown loadable.actor _ _
    · rw [generationText]
      exact numberField_figure generationShown loadable.generation _ _
    · rw [threadText, threadShown, cellText, loadable.thread, String.ofList_toList]
    · rw [kindName]
      exact filled
    · rw [kindName, known]
    · exact loadable.named
  simp only [Event.ofRow, even, texts, bind, Except.bind]
  simpa using read

/-- The rows that show a log are read as this log. -/
theorem mapM_ofRow_eq_ok {headings : List Heading} {columns : Columns}
    (placed : ∀ column, headings[columns.place column]? = some (.needed column))
    {rows : List Csv.Row} {cells : List (List (List Char))} {log : List Event}
    (read : List.Forall₂ (fun row contents => List.Forall₂ Csv.Carries row.fields contents) rows cells)
    (shown : List.Forall₂ (fun event row => List.Forall₂ event.Shows headings row) log cells)
    (loadable : ∀ event ∈ log, event.Loadable) :
    rows.mapM (Event.ofRow columns headings.length) = .ok log := by
  rw [mapM_eq_ok_iff]
  induction shown generalizing rows with
  | nil =>
    cases read
    exact .nil
  | cons shows _ ih =>
    cases read with
    | cons carried more =>
      obtain ⟨first, others⟩ := List.forall_mem_cons.mp loadable
      exact .cons (Event.ofRow_eq_ok first placed carried shows) (ih more others)

/-! ## The log -/

namespace Trace

theorem two_le_length_of_complete {headings : List Heading}
    (complete : ∀ column, .needed column ∈ headings) : 2 ≤ headings.length := by
  cases headings with
  | nil => cases complete .timestamp
  | cons heading rest =>
    cases rest with
    | cons _ _ => simp
    | nil =>
      have timestamp := List.mem_singleton.mp (complete .timestamp)
      have actor := List.mem_singleton.mp (complete .actor)
      cases timestamp.trans actor.symm

theorem length_eq_of_shown {headings : List Heading} {log : List Event}
    {cells : List (List (List Char))}
    (shown : List.Forall₂ (fun event row => List.Forall₂ event.Shows headings row) log cells) :
    ∀ contents ∈ cells, contents.length = headings.length := by
  induction shown with
  | nil => simp
  | cons shows _ ih => exact List.forall_mem_cons.mpr ⟨shows.length_eq.symm, ih⟩

/-- No row of a layout is so short that it could be taken for an empty line. -/
theorem Layout.several {log : List Event} {text : List Char} (layout : Layout log text) :
    ∀ contents ∈ layout.headings.map Heading.name :: layout.cells, 2 ≤ contents.length := by
  have wide := two_le_length_of_complete layout.complete
  refine List.forall_mem_cons.mpr ⟨by simpa using wide, ?_⟩
  intro contents member
  rw [length_eq_of_shown layout.shown contents member]
  exact wide

/-- A log is read back from all its layouts. -/
theorem ofCsv_layout {log : List Event} {text : List Char} (layout : Layout log text)
    (loadable : ∀ event ∈ log, event.Loadable) :
    Trace.ofCsv (Utf8.encode text) = .ok (Trace.ofLog log) := by
  obtain ⟨names, marked, read⟩ := Csv.forall₂_rows layout.written layout.several
  have named := forall₂_reads layout.apart marked
  obtain ⟨columns, header, found⟩ := Columns.ofHeader_eq_ok fun column =>
    name_mem_of_complete named (layout.complete column)
  have placed (column : Column) := heading_of_findIdx? named (found column)
  have width : names.length = layout.headings.length := by
    rw [marked.length_eq, List.length_map]
  unfold Trace.ofCsv
  cases rows : Csv.rows (Utf8.encode text) with
  | nil =>
    rw [rows] at read
    cases read
  | cons first body =>
    rw [rows] at read
    cases read with
    | cons carried readBody =>
      have texts := fieldTexts_eq_ok first.start carried
      have events := mapM_ofRow_eq_ok placed readBody layout.shown loadable
      rw [← width, ← carried.length_eq] at events
      simp only [Event.ofRows, texts, header, events, bind, Except.bind]
      rfl

/-- The later one of two events. It bears the greatest timestamp of all. -/
def lateEvent : Event :=
  ⟨18446744073709551615, some 7, none, "main", .enqueue⟩

/-- The earlier one, of an unknown kind. -/
def earlyEvent : Event :=
  ⟨5, none, some 0, "worker, 1", .other "Poolé"⟩

/-- The two events under shuffled columns, with a column of notes, padding, an empty line and no end of
the last line. -/
def scatteredText : List Char :=
  "eventType ,note,\"timestamp\",thread_id,gen_id,\tactor_id".toList ++ ("\r\n\n".toList ++
    ("Enqueue,\"a \"\"b\"\"\n\",18446744073709551615, main ,,7".toList ++ ("\n".toList ++
      ("Poolé,,5,\"worker, 1\",0,\"  \"".toList ++ []))))

theorem lateEvent_loadable : lateEvent.Loadable where
  timestamp := by decide
  actor := by simp [lateEvent, Number.unsignedBound]
  generation := by simp [lateEvent]
  thread := by decide
  kind := ⟨"Enqueue", by decide, by decide, by decide⟩
  named := by decide

theorem earlyEvent_loadable : earlyEvent.Loadable where
  timestamp := by decide
  actor := by simp [earlyEvent]
  generation := by simp [earlyEvent, Number.unsignedBound]
  thread := by decide
  kind := ⟨"Poolé", by decide, by decide, by decide⟩
  named := by decide

/-- The columns of `scatteredText`. -/
def scatteredHeadings : List Heading :=
  [.needed .kind, .extra "note".toList, .needed .timestamp, .needed .thread, .needed .generation,
    .needed .actor]

/-- The contents of its first row. -/
def lateCells : List (List Char) :=
  ["Enqueue".toList, "a \"b\"\n".toList, "18446744073709551615".toList, "main".toList, [], "7".toList]

/-- The contents of its second row. -/
def earlyCells : List (List Char) :=
  ["Poolé".toList, [], "5".toList, "worker, 1".toList, "0".toList, "  ".toList]

theorem scatteredText_written :
    Csv.WrittenText (scatteredHeadings.map Heading.name :: [lateCells, earlyCells])
      scatteredText := by
  have padded {content : List Char} (left right : List Char)
      (leftBlank : left.all (fun c => c = ' ' ∨ c = '\t') = true)
      (rightBlank : right.all (fun c => c = ' ' ∨ c = '\t') = true)
      (plain : content.all (fun c => c ≠ ',' ∧ c ≠ '"' ∧ c ≠ '\r' ∧ c ≠ '\n') = true) :
      Csv.WrittenField content (left ++ (content ++ right)) := by
    rw [← List.append_assoc]
    simp only [List.all_eq_true, decide_eq_true_eq] at leftBlank rightBlank plain
    exact .bare leftBlank rightBlank plain
  have plain (content : List Char)
      (plain : content.all (fun c => c ≠ ',' ∧ c ≠ '"' ∧ c ≠ '\r' ∧ c ≠ '\n') = true) :
      Csv.WrittenField content content := by
    have bare := padded [] [] rfl rfl plain
    rwa [List.nil_append, List.append_nil] at bare
  have header : Csv.WrittenRow (scatteredHeadings.map Heading.name)
      "eventType ,note,\"timestamp\",thread_id,gen_id,\tactor_id".toList :=
    .next (padded [] [' '] (by decide) (by decide) (by decide)) <|
    .next (plain "note".toList (by decide)) <|
    .next (.quoted "timestamp".toList) <|
    .next (plain "thread_id".toList (by decide)) <|
    .next (plain "gen_id".toList (by decide)) <|
    .last (padded ['\t'] [] (by decide) (by decide) (by decide))
  have late : Csv.WrittenRow lateCells
      "Enqueue,\"a \"\"b\"\"\n\",18446744073709551615, main ,,7".toList :=
    .next (plain "Enqueue".toList (by decide)) <|
    .next (.quoted "a \"b\"\n".toList) <|
    .next (plain "18446744073709551615".toList (by decide)) <|
    .next (padded [' '] [' '] (by decide) (by decide) (by decide)) <|
    .next (plain [] (by decide)) <|
    .last (plain "7".toList (by decide))
  have early : Csv.WrittenRow earlyCells "Poolé,,5,\"worker, 1\",0,\"  \"".toList :=
    .next (plain "Poolé".toList (by decide)) <|
    .next (plain [] (by decide)) <|
    .next (plain "5".toList (by decide)) <|
    .next (.quoted "worker, 1".toList) <|
    .next (plain "0".toList (by decide)) <|
    .last (.quoted "  ".toList)
  have emptyLine : Csv.LineEnds "\r\n\n".toList := .pair (.feed .none)
  have lineEnd : Csv.LineEnds "\n".toList := .feed .none
  exact .bare (.next header emptyLine (by decide) (.next late lineEnd (by decide)
    (.last early .none)))

/-- The layout that `scatteredText` is. -/
def scatteredLayout : Layout [lateEvent, earlyEvent] scatteredText where
  headings := scatteredHeadings
  complete := by
    intro column
    cases column <;> simp [scatteredHeadings]
  apart := by
    have note : Heading.Apart (.extra "note".toList) := by
      intro column
      cases column <;> decide
    have needed (column : Column) : Heading.Apart (.needed column) := trivial
    simp only [scatteredHeadings, List.forall_mem_cons]
    exact ⟨needed _, note, needed _, needed _, needed _, needed _, by simp⟩
  cells := [lateCells, earlyCells]
  shown := by
    have late : List.Forall₂ lateEvent.Shows scatteredHeadings lateCells :=
      .cons rfl <| .cons trivial <| .cons (Figure.decimal 18446744073709551615) <| .cons rfl <|
        .cons (Figure.absent rfl) <| .cons (Figure.decimal 7) .nil
    have early : List.Forall₂ earlyEvent.Shows scatteredHeadings earlyCells :=
      .cons rfl <| .cons trivial <| .cons (Figure.decimal 5) <| .cons rfl <|
        .cons (Figure.decimal 0) <| .cons (Figure.absent rfl) .nil
    exact .cons late (.cons early .nil)
  written := scatteredText_written

theorem ofCsv_scatteredText :
    (∀ event ∈ [lateEvent, earlyEvent], event.Loadable) ∧
      Trace.ofCsv (Utf8.encode scatteredText) = .ok (Trace.ofLog [lateEvent, earlyEvent]) := by
  have loadable : ∀ event ∈ [lateEvent, earlyEvent], event.Loadable := by
    simp [lateEvent_loadable, earlyEvent_loadable]
  exact ⟨loadable, ofCsv_layout scatteredLayout loadable⟩

end Trace

end QueueDepth
