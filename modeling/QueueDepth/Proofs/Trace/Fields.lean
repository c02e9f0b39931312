import Mathlib.Order.WellFounded
import QueueDepth.Proofs.Number.Decimal
import QueueDepth.Proofs.Trace.Loaded

/-!
# Which rows are events

The fields of a row are an event if the columns of numbers hold numbers or nothing, the timestamp and
the kind are filled, and an actor is named where the kind needs one. Otherwise the first column at fault
rejects the row, in the order timestamp, kind, actor, generation.

* `numberField_eq_ok_iff`: what a column of numbers may hold.
* `Event.ofFields_eq_ok_iff`, `Event.ofFields_of_firstFault`: the two ends that a row can come to.
* `Event.grammar_of_fields`: both, under any header that names all columns.
-/

namespace QueueDepth

/-! ## Columns of numbers -/

/-- A field says a number, or it says none and is empty. -/
def NumberCell (text : String) : Option Nat → Prop
  | none => text = ""
  | some n => Number.Writes text.toList n

theorem numberField_eq_ok_iff {line : Nat} {column : Column} {text : String} {value : Option Nat} :
    numberField line column text = .ok value ↔ NumberCell text value := by
  unfold numberField
  by_cases empty : text = ""
  · rw [if_pos (String.isEmpty_iff.mpr empty), empty]
    cases value with
    | none => simp [NumberCell]
    | some n => simp [NumberCell, Number.Writes]
  · rw [if_neg (mt String.isEmpty_iff.mp empty)]
    cases value with
    | none =>
      cases read : Number.readUnsigned text.toList <;> simp [NumberCell, empty]
    | some n =>
      rw [NumberCell, ← Number.readUnsigned_eq_ok_iff]
      cases Number.readUnsigned text.toList <;> simp

theorem NumberCell.ne_empty_iff {text : String} {value : Option Nat} (holds : NumberCell text value) :
    text ≠ "" ↔ value.isSome = true := by
  cases value with
  | none => simpa [NumberCell] using holds
  | some n =>
    have filled : text ≠ "" := by
      rintro rfl
      simp [NumberCell, Number.Writes] at holds
    simp [filled]

/-- A field that says neither is reported as such. -/
theorem numberField_eq_error {line : Nat} {column : Column} {text : String}
    (bad : ¬ ∃ value, NumberCell text value) :
    numberField line column text = .error ⟨line, .notANumber column text⟩ := by
  cases read : numberField line column text with
  | ok value => exact absurd ⟨value, numberField_eq_ok_iff.mp read⟩ bad
  | error rejected =>
    unfold numberField at read
    split at read
    · cases read
    · split at read
      · cases read
      · exact read.symm ▸ rfl

/-! ## Kinds that need an actor -/

/-- The names of the kinds that belong to an actor. -/
def Kind.namesOwned : List String :=
  ["Register", "Unregister", "Restart", "Fail", "DrainStart", "DrainEnd", "Enqueue", "Dequeue"]

theorem Kind.name_mem_namesOwned {kind : Kind} (needs : kind.needsActor = true) :
    kind.name ∈ namesOwned := by
  cases kind <;> first | decide | cases needs

theorem Kind.needsActor_ofName_iff {name : String} :
    (ofName name).needsActor = true ↔ name ∈ namesOwned := by
  constructor
  · intro needs
    have member := name_mem_namesOwned needs
    rwa [name_ofName] at member
  · intro member
    simp only [namesOwned, List.mem_cons, List.not_mem_nil, or_false] at member
    rcases member with rfl | rfl | rfl | rfl | rfl | rfl | rfl | rfl <;> decide

/-! ## Rows -/

/-- A row, given by its text in each column, says what the event is. -/
structure RowOf (text : Column → String) (event : Event) : Prop where
  timestamp : Number.Writes (text .timestamp).toList event.timestamp
  filled : text .kind ≠ ""
  kind : event.kind = Kind.ofName (text .kind)
  actor : NumberCell (text .actor) event.actor
  owned : text .kind ∈ Kind.namesOwned → text .actor ≠ ""
  generation : NumberCell (text .generation) event.generation
  thread : event.thread = text .thread

/-- What can be wrong in a column. A thread may be anything. -/
def Offends (text : Column → String) : Column → Prop
  | .timestamp => ¬ ∃ n, Number.Writes (text .timestamp).toList n
  | .kind => text .kind = ""
  | .actor =>
    (¬ ∃ value, NumberCell (text .actor) value) ∨
      text .kind ∈ Kind.namesOwned ∧ text .actor = ""
  | .generation => ¬ ∃ value, NumberCell (text .generation) value
  | .thread => False

/-- When a column is checked. -/
def Column.turn : Column → Nat
  | timestamp => 0
  | kind => 1
  | actor => 2
  | generation => 3
  | thread => 4

/-- The first column at fault. -/
structure FirstFault (text : Column → String) (column : Column) : Prop where
  offends : Offends text column
  earlier : ∀ other : Column, other.turn < column.turn → ¬ Offends text other

theorem exists_firstFault {text : Column → String} {column : Column} (bad : Offends text column) :
    ∃ first, FirstFault text first := by
  obtain ⟨first, offends, least⟩ :=
    WellFounded.has_min (measure Column.turn).wf {other | Offends text other} ⟨column, bad⟩
  exact ⟨first, offends, fun other earlier offends => least other offends earlier⟩

theorem RowOf.not_offends {text : Column → String} {event : Event} (row : RowOf text event)
    (column : Column) : ¬ Offends text column := by
  cases column with
  | timestamp => exact not_not_intro ⟨_, row.timestamp⟩
  | kind => exact row.filled
  | actor =>
    rintro (bad | ⟨owned, empty⟩)
    · exact bad ⟨_, row.actor⟩
    · exact row.owned owned empty
  | generation => exact not_not_intro ⟨_, row.generation⟩
  | thread => exact id

/-- A row without a column at fault says what some event is. -/
theorem exists_rowOf {text : Column → String} (good : ∀ column, ¬ Offends text column) :
    ∃ event, RowOf text event := by
  obtain ⟨timestamp, stamp⟩ := not_not.mp (good .timestamp)
  obtain ⟨named, owned⟩ := not_or.mp (good .actor)
  obtain ⟨actor, actorCell⟩ := not_not.mp named
  obtain ⟨generation, generationCell⟩ := not_not.mp (good .generation)
  exact ⟨⟨timestamp, actor, generation, text .thread, Kind.ofName (text .kind)⟩, stamp, good .kind,
    rfl, actorCell, fun member empty => owned ⟨member, empty⟩, generationCell, rfl⟩

/-- The wording of the defect begins with the name of the column. -/
def Defect.Names (column : Column) (defect : Defect) : Prop :=
  ∃ rest, defect.reason = "`" ++ column.name ++ "`" ++ rest

theorem Defect.names_blank (column : Column) : (blank column).Names column := by
  have parted : "` is empty" = "`" ++ " is empty" := rfl
  refine ⟨" is empty", ?_⟩
  change "`" ++ column.name ++ "` is empty" = _
  rw [parted]
  simp only [String.append_assoc]

theorem Defect.names_notANumber (column : Column) (text : String) :
    (notANumber column text).Names column := by
  have parted : "` is not a non-negative integer: " = "`" ++ " is not a non-negative integer: " := rfl
  refine ⟨" is not a non-negative integer: " ++ String.ofList (Text.quoted text.toList), ?_⟩
  change "`" ++ column.name ++ "` is not a non-negative integer: " ++ _ = _
  rw [parted]
  simp only [String.append_assoc]

theorem Defect.names_noActor (kind : Kind) : (noActor kind).Names .actor := by
  have parted : "` is empty but " = "`" ++ " is empty but " := rfl
  refine ⟨" is empty but " ++ kind.name ++ " events belong to an actor", ?_⟩
  change "`" ++ Column.actor.name ++ "` is empty but " ++ kind.name ++ " events belong to an actor" = _
  rw [parted]
  simp only [String.append_assoc]

/-! ## The first fault -/

section Faults

variable {columns : Columns} {line timestamp : Nat} {texts : List String} {rejected : Malformed}
  {actor : Option Nat}

theorem Event.ofFields_of_timestamp
    (failed : numberField line .timestamp (columns.text texts .timestamp) = .error rejected) :
    ofFields columns line texts = .error rejected := by
  simp only [Columns.text, Columns.place] at failed
  simp only [ofFields, failed, bind, Except.bind]

theorem Event.ofFields_of_no_timestamp
    (blank : numberField line .timestamp (columns.text texts .timestamp) = .ok none) :
    ofFields columns line texts = .error ⟨line, .blank .timestamp⟩ := by
  simp only [Columns.text, Columns.place] at blank
  simp only [ofFields, blank, bind, Except.bind]

variable
  (stamped : numberField line .timestamp (columns.text texts .timestamp) = .ok (some timestamp))

include stamped

theorem Event.ofFields_of_no_kind (blank : columns.text texts .kind = "") :
    ofFields columns line texts = .error ⟨line, .blank .kind⟩ := by
  simp only [Columns.text, Columns.place] at stamped blank
  simp only [ofFields, stamped, blank, bind, Except.bind]
  rfl

variable (filled : columns.text texts .kind ≠ "")

include filled

theorem Event.ofFields_of_actor
    (failed : numberField line .actor (columns.text texts .actor) = .error rejected) :
    ofFields columns line texts = .error rejected := by
  simp only [Columns.text, Columns.place] at stamped filled failed
  have notBlank := String.isEmpty_eq_false_iff.mpr filled
  simp only [ofFields, stamped, notBlank, failed, bind, Except.bind]
  rfl

theorem Event.ofFields_of_no_actor
    (blank : numberField line .actor (columns.text texts .actor) = .ok none)
    (needs : (Kind.ofName (columns.text texts .kind)).needsActor = true) :
    ofFields columns line texts =
      .error ⟨line, .noActor (Kind.ofName (columns.text texts .kind))⟩ := by
  simp only [Columns.text, Columns.place] at stamped filled blank needs ⊢
  have notBlank := String.isEmpty_eq_false_iff.mpr filled
  simp only [ofFields, stamped, notBlank, blank, needs, bind, Except.bind]
  rfl

theorem Event.ofFields_of_generation
    (read : numberField line .actor (columns.text texts .actor) = .ok actor)
    (named : (Kind.ofName (columns.text texts .kind)).needsActor = true → actor.isSome = true)
    (failed : numberField line .generation (columns.text texts .generation) = .error rejected) :
    ofFields columns line texts = .error rejected := by
  simp only [Columns.text, Columns.place] at stamped filled read named failed
  have notBlank := String.isEmpty_eq_false_iff.mpr filled
  have known : (actor.isNone && (Kind.ofName (texts.getD columns.kind "")).needsActor) = false := by
    cases actor <;> simp_all
  simp only [ofFields, stamped, notBlank, read, known, failed, bind, Except.bind]
  rfl

end Faults

/-! ## Both ends -/

section Ends

variable {columns : Columns} {line : Nat} {texts : List String}

theorem Event.ofFields_eq_ok_iff {event : Event} :
    ofFields columns line texts = .ok event ↔ RowOf (columns.text texts) event := by
  constructor
  · intro ok
    obtain ⟨timestamp, actor, generation, thread, filled, kind, named⟩ := of_ofFields_eq_ok ok
    have actorCell := numberField_eq_ok_iff.mp actor
    refine ⟨numberField_eq_ok_iff.mp timestamp, filled, kind.symm, actorCell, ?_,
      numberField_eq_ok_iff.mp generation, thread.symm⟩
    intro owned
    rw [← Kind.needsActor_ofName_iff, kind] at owned
    exact actorCell.ne_empty_iff.mpr (named owned)
  · intro row
    refine ofFields_eq_ok (numberField_eq_ok_iff.mpr row.timestamp)
      (numberField_eq_ok_iff.mpr row.actor) (numberField_eq_ok_iff.mpr row.generation)
      row.thread.symm row.filled row.kind.symm ?_
    intro needs
    rw [row.kind, Kind.needsActor_ofName_iff] at needs
    exact row.actor.ne_empty_iff.mp (row.owned needs)

/-- The first column at fault rejects the row, and the wording names it. -/
theorem Event.ofFields_of_firstFault (line : Nat) {column : Column}
    (fault : FirstFault (columns.text texts) column) :
    ∃ defect, defect.Names column ∧ ofFields columns line texts = .error ⟨line, defect⟩ := by
  have stamped (later : Column.timestamp.turn < column.turn) :
      ∃ timestamp, numberField line .timestamp (columns.text texts .timestamp) =
        .ok (some timestamp) := by
    obtain ⟨timestamp, holds⟩ := not_not.mp (fault.earlier .timestamp later)
    exact ⟨timestamp, numberField_eq_ok_iff.mpr holds⟩
  have filled (later : Column.kind.turn < column.turn) : columns.text texts .kind ≠ "" :=
    fault.earlier .kind later
  cases column with
  | timestamp =>
    by_cases empty : columns.text texts .timestamp = ""
    · exact ⟨_, Defect.names_blank _, ofFields_of_no_timestamp (numberField_eq_ok_iff.mpr empty)⟩
    · refine ⟨_, Defect.names_notANumber _ _, ofFields_of_timestamp (numberField_eq_error ?_)⟩
      rintro ⟨_ | n, holds⟩
      · exact empty holds
      · exact fault.offends ⟨n, holds⟩
  | kind =>
    obtain ⟨timestamp, stamp⟩ := stamped (by decide)
    exact ⟨_, Defect.names_blank _, ofFields_of_no_kind stamp fault.offends⟩
  | actor =>
    obtain ⟨timestamp, stamp⟩ := stamped (by decide)
    have named := filled (by decide)
    rcases fault.offends with bad | ⟨owned, empty⟩
    · exact ⟨_, Defect.names_notANumber _ _,
        ofFields_of_actor stamp named (numberField_eq_error bad)⟩
    · exact ⟨_, Defect.names_noActor _,
        ofFields_of_no_actor stamp named (numberField_eq_ok_iff.mpr empty)
          (Kind.needsActor_ofName_iff.mpr owned)⟩
  | generation =>
    obtain ⟨timestamp, stamp⟩ := stamped (by decide)
    have named := filled (by decide)
    obtain ⟨numbered, owned⟩ := not_or.mp (fault.earlier .actor (by decide))
    obtain ⟨actor, holds⟩ := not_not.mp numbered
    refine ⟨_, Defect.names_notANumber _ _,
      ofFields_of_generation stamp named (numberField_eq_ok_iff.mpr holds) ?_
        (numberField_eq_error fault.offends)⟩
    intro needs
    exact holds.ne_empty_iff.mp fun empty => owned ⟨Kind.needsActor_ofName_iff.mp needs, empty⟩
  | thread => exact fault.offends.elim

end Ends

/-! ## Any header -/

/-- The text of a row under the first column of the header that bears the name. -/
def cell (header texts : List String) (column : Column) : String :=
  texts.getD (header.idxOf column.name) ""

/-- A column that was found in the header stands at the first of its names. -/
theorem Columns.text_eq_cell {columns : Columns} {header : List String}
    (found : ∀ column : Column, header.findIdx? (· = column.name) = some (columns.place column))
    (texts : List String) : columns.text texts = cell header texts := by
  funext column
  have place : header.idxOf column.name = columns.place column :=
    (List.findIdx?_eq_some_iff_findIdx_eq.mp (found column)).2
  rw [Columns.text, cell, place]

/-- Under a header that names all columns, wherever they stand, a row is an event exactly if no column is
at fault, and then it is the event that the row says, with the name that the row bears. Otherwise the row
is rejected on its line, for the first column at fault and by the name of that column. -/
theorem Event.grammar_of_fields (header : List String)
    (complete : ∀ column : Column, column.name ∈ header) :
    ∃ columns, Columns.ofHeader header = .ok columns ∧ ∀ line texts,
      ((∃ event, ofFields columns line texts = .ok event) ↔
        ∀ column, ¬ Offends (cell header texts) column) ∧
      (∀ event, ofFields columns line texts = .ok event ↔ RowOf (cell header texts) event) ∧
      (∀ event, ofFields columns line texts = .ok event →
        event.kind.name = cell header texts .kind) ∧
      ∀ rejected, ofFields columns line texts = .error rejected →
        rejected.line = line ∧
          ∃ column, FirstFault (cell header texts) column ∧ rejected.defect.Names column := by
  obtain ⟨columns, ok, found⟩ := Columns.ofHeader_eq_ok complete
  refine ⟨columns, ok, fun line texts => ?_⟩
  rw [← Columns.text_eq_cell found texts]
  refine ⟨?_, fun event => ofFields_eq_ok_iff, ?_, ?_⟩
  · constructor
    · rintro ⟨event, accepted⟩
      exact (ofFields_eq_ok_iff.mp accepted).not_offends
    · intro good
      obtain ⟨event, row⟩ := exists_rowOf good
      exact ⟨event, ofFields_eq_ok_iff.mpr row⟩
  · intro event accepted
    rw [(ofFields_eq_ok_iff.mp accepted).kind, Kind.name_ofName]
  · intro rejected failed
    have bad : ∃ column, Offends (columns.text texts) column := by
      by_contra none
      obtain ⟨event, row⟩ := exists_rowOf (not_exists.mp none)
      cases (ofFields_eq_ok_iff.mpr row).symm.trans failed
    obtain ⟨column, offends⟩ := bad
    obtain ⟨first, fault⟩ := exists_firstFault offends
    obtain ⟨defect, names, result⟩ := ofFields_of_firstFault line fault
    cases failed.symm.trans result
    exact ⟨rfl, first, fault, names⟩

/-- A header in another order, with a column that is not needed and with one that stands there twice. -/
def shuffledHeader : List String :=
  ["note", "eventType", "gen_id", "timestamp", "timestamp", "thread_id", "actor_id"]

/-- A row with a sign and zeros in front of a number, and with the greatest number there is. -/
def signedRow : List String :=
  ["", "Enqueue", "", "+007", "soon", "main", "18446744073709551615"]

/-- A row without an actor for an event that needs one. -/
def ownerlessRow : List String :=
  ["", "Dequeue", "first", "7", "", "main", ""]

theorem grammar_of_shuffledHeader :
    (∀ column : Column, column.name ∈ shuffledHeader) ∧
      ∃ columns, Columns.ofHeader shuffledHeader = .ok columns ∧
        Event.ofFields columns 2 signedRow =
          .ok ⟨7, some 18446744073709551615, none, "main", .enqueue⟩ ∧
        ∃ rejected, Event.ofFields columns 3 ownerlessRow = .error rejected ∧ rejected.line = 3 ∧
          ∃ column, FirstFault (cell shuffledHeader ownerlessRow) column ∧
            rejected.defect.Names column := by
  have complete : ∀ column : Column, column.name ∈ shuffledHeader := by
    intro column
    cases column <;> decide
  have row : RowOf (cell shuffledHeader signedRow)
      ⟨7, some 18446744073709551615, none, "main", .enqueue⟩ := by
    have generation : cell shuffledHeader signedRow .generation = "" := by decide
    exact ⟨⟨['0', '0', '7'], .inr (by decide), by decide, List.all_eq_true.mp rfl, by decide, by decide⟩,
      by decide, by decide, ⟨_, .inl rfl, by decide, List.all_eq_true.mp rfl, by decide, by decide⟩,
      by decide, generation, by decide⟩
  have ownerless : Offends (cell shuffledHeader ownerlessRow) .actor := .inr ⟨by decide, by decide⟩
  obtain ⟨columns, ok, rows⟩ := Event.grammar_of_fields shuffledHeader complete
  obtain ⟨_, accepted, _, _⟩ := rows 2 signedRow
  obtain ⟨good, _, _, rejects⟩ := rows 3 ownerlessRow
  refine ⟨complete, columns, ok, (accepted _).mpr row, ?_⟩
  cases result : Event.ofFields columns 3 ownerlessRow with
  | ok event => exact absurd ownerless (good.mp ⟨event, result⟩ .actor)
  | error rejected =>
    obtain ⟨line, fault⟩ := rejects rejected result
    exact ⟨rejected, rfl, line, fault⟩

end QueueDepth
