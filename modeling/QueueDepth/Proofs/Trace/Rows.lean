import Mathlib.Data.List.Forall2
import QueueDepth.Proofs.Csv.Reading
import QueueDepth.Trace.Reading

/-!
# From rows to events

One lemma for each step from the fields of a row to its event: what the texts of carried fields are
(`fieldTexts_eq_ok`), where the needed columns are found (`Columns.ofHeader_eq_ok`) and when the texts
of a row are an event (`Event.ofFields_eq_ok`).
-/

namespace QueueDepth

open Text

/-- A list is read item by item. -/
theorem mapM_eq_ok_iff {α β ε : Type} (read : α → Except ε β) (items : List α) (results : List β) :
    items.mapM read = .ok results ↔
      List.Forall₂ (fun item result => read item = .ok result) items results := by
  induction items generalizing results with
  | nil => cases results <;> simp [pure, Except.pure]
  | cons item items ih =>
    rw [List.mapM_cons]
    cases first : read item with
    | error fault => cases results <;> simp [bind, Except.bind, first]
    | ok result =>
      cases more : items.mapM read with
      | error fault => cases results <;> simp [bind, Except.bind, ← ih, more, first]
      | ok others =>
        cases results <;> simp [bind, Except.bind, pure, Except.pure, ← ih, more, first]

/-! ## Texts -/

/-- The content of a field without blank margins. -/
def cellText (content : List Char) : String :=
  String.ofList (trim content)

theorem carries_trimAscii {bytes : List UInt8} {content : List Char}
    (carries : Csv.Carries bytes content) : Csv.Carries (trimAscii bytes) content := by
  obtain ⟨kept, rfl, same⟩ := carries
  refine ⟨trimBy isPlainBlank kept, trimAscii_encode kept, ?_⟩
  rw [trim_trimBy_isPlainBlank, same]

/-- The texts of fields are what they carry. -/
theorem fieldTexts_eq_ok (start : Csv.Position) {fields : List (List UInt8)}
    {contents : List (List Char)} (carried : List.Forall₂ Csv.Carries fields contents) :
    fieldTexts start fields = .ok (contents.map cellText) := by
  unfold fieldTexts
  rw [mapM_eq_ok_iff]
  generalize 0 = first
  induction carried generalizing first with
  | nil => exact .nil
  | @cons bytes content fields contents carries _ ih =>
    obtain ⟨kept, rfl, same⟩ := carries
    rw [List.zipIdx_cons, List.map_cons]
    refine .cons ?_ (ih (first + 1))
    simp only [Utf8.decode_encode]
    rw [same, cellText]

/-! ## Columns -/

/-- Where a column stands. -/
def Columns.place (columns : Columns) : Column → Nat
  | .timestamp => columns.timestamp
  | .actor => columns.actor
  | .generation => columns.generation
  | .thread => columns.thread
  | .kind => columns.kind

/-- A header with all needed columns is accepted, and each is found at the first of its names. -/
theorem Columns.ofHeader_eq_ok {header : List String}
    (complete : ∀ column : Column, column.name ∈ header) :
    ∃ columns, Columns.ofHeader header = .ok columns ∧
      ∀ column, header.findIdx? (· = column.name) = some (columns.place column) := by
  have found (column : Column) :
      header.findIdx? (· = column.name) = some (header.findIdx (· = column.name)) :=
    List.findIdx?_eq_some_of_exists ⟨column.name, complete column, by simp⟩
  let place (column : Column) : Nat := header.findIdx (· = column.name)
  refine ⟨⟨place .timestamp, place .actor, place .generation, place .thread, place .kind⟩, ?_, ?_⟩
  · simp only [Columns.ofHeader, found]
    rfl
  · intro column
    rw [found]
    cases column <;> rfl

/-! ## Events -/

/-- The text of a row under a column. -/
def Columns.text (columns : Columns) (texts : List String) (column : Column) : String :=
  texts.getD (columns.place column) ""

/-- The texts of a row are an event if they say what it is, column by column. -/
theorem Event.ofFields_eq_ok {columns : Columns} {line : Nat} {texts : List String} {event : Event}
    (timestamp : numberField line .timestamp (columns.text texts .timestamp)
      = .ok (some event.timestamp))
    (actor : numberField line .actor (columns.text texts .actor) = .ok event.actor)
    (generation : numberField line .generation (columns.text texts .generation)
      = .ok event.generation)
    (thread : columns.text texts .thread = event.thread)
    (filled : columns.text texts .kind ≠ "")
    (kind : Kind.ofName (columns.text texts .kind) = event.kind)
    (named : event.kind.needsActor = true → event.actor.isSome = true) :
    Event.ofFields columns line texts = .ok event := by
  simp only [Columns.text, Columns.place] at timestamp actor generation thread filled kind
  have notBlank : (texts.getD columns.kind "").isEmpty = false := by
    rw [String.isEmpty_eq_false_iff]
    exact filled
  have known : (event.actor.isNone && event.kind.needsActor) = false := by
    cases needs : event.kind.needsActor with
    | false => simp
    | true => simp [named needs]
  simp only [Event.ofFields, timestamp, notBlank, kind, actor, generation, thread, bind,
    Except.bind, pure, Except.pure]
  simp [known]

end QueueDepth
