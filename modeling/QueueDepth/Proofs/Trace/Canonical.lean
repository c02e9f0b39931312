import QueueDepth.Proofs.Text.Trim
import QueueDepth.Proofs.Trace.Loaded

/-!
# The form of loaded events

An event that is made by hand may have any texts, and an unknown kind may bear a name of the vocabulary.
Loaded events have one form only. Their texts are the trimmed fields of a row, a kind is always found by
its name, and a row without a name or without the actor that its kind needs is rejected.

* `Event.Canonical`: the form.
* `Trace.canonical_of_mem`: every event of a loaded trace has it.
-/

namespace QueueDepth

/-! ## Texts -/

/-- A text without blank margins. -/
def Text.Trimmed (text : String) : Prop :=
  String.ofList (Text.trim text.toList) = text

theorem Text.trimmed_ofList_trim (text : List Char) : Trimmed (String.ofList (trim text)) := by
  unfold Trimmed
  rw [String.toList_ofList]
  exact congrArg String.ofList (trimBy_trimBy (fun _ blank => blank) text)

theorem trimmed_of_fieldTexts {start : Csv.Position} {fields : List (List UInt8)}
    {texts : List String} (decoded : fieldTexts start fields = .ok texts) :
    ∀ text ∈ texts, Text.Trimmed text := by
  intro text member
  obtain ⟨⟨bytes, field⟩, _, read⟩ := (mem_iff_of_mapM decoded).mp member
  dsimp only at read
  split at read
  · cases read
    exact Text.trimmed_ofList_trim _
  · cases read

/-- A column that a row lacks has the empty text, and that is trimmed as well. -/
theorem Columns.trimmed_text {columns : Columns} {texts : List String}
    (trimmed : ∀ text ∈ texts, Text.Trimmed text) (column : Column) :
    Text.Trimmed (columns.text texts column) := by
  rw [text, List.getD_eq_getElem?_getD]
  cases found : texts[columns.place column]? with
  | none => rfl
  | some field => exact trimmed field (List.mem_of_getElem? found)

/-! ## Events -/

/-- A kind that reading its name gives back. -/
def Kind.Readable (kind : Kind) : Prop :=
  Kind.ofName kind.name = kind

theorem Kind.Readable.eq {a b : Kind} (ha : a.Readable) (hb : b.Readable) (same : a.name = b.name) :
    a = b := by
  rw [← ha, ← hb, same]

/-- The form of an event that was read. -/
structure Event.Canonical (event : Event) : Prop where
  /-- No unknown kind bears a name of the vocabulary. -/
  kind : event.kind.Readable
  named : event.kind.name ≠ ""
  trimmedName : Text.Trimmed event.kind.name
  trimmedThread : Text.Trimmed event.thread
  owned : event.kind.needsActor = true → event.actor.isSome = true

theorem Event.canonical_of_ofFields {columns : Columns} {line : Nat} {texts : List String}
    {event : Event} (trimmed : ∀ text ∈ texts, Text.Trimmed text)
    (ok : Event.ofFields columns line texts = .ok event) : event.Canonical := by
  obtain ⟨_, _, _, thread, filled, kind, owned⟩ := of_ofFields_eq_ok ok
  have name : event.kind.name = columns.text texts .kind := by rw [← kind, Kind.name_ofName]
  exact {
    kind := by rw [Kind.Readable, name, kind]
    named := by rwa [name]
    trimmedName := by
      rw [name]
      exact Columns.trimmed_text trimmed .kind
    trimmedThread := by
      rw [← thread]
      exact Columns.trimmed_text trimmed .thread
    owned }

theorem Trace.canonical_of_mem {text : List UInt8} {trace : Trace} (loaded : ofCsv text = .ok trace)
    {event : Event} (member : event ∈ trace.events) : event.Canonical := by
  obtain ⟨_, _, _, _, decoded, ok⟩ := exists_texts_of_mem loaded member
  exact Event.canonical_of_ofFields (trimmed_of_fieldTexts decoded) ok

end QueueDepth
