import QueueDepth.Proofs.Json
import QueueDepth.Proofs.Report.Text
import QueueDepth.Report.Json

/-!
# Characters in the JSON of a report

JSON writes control characters as escapes, except the delete character. So the text of a value is
printable exactly if none of its texts holds that (`Json.printable_render_iff`), and the JSON of a report
if no name of a kind does (`Report.printable_json_iff`).
-/

namespace QueueDepth

open Terminal

namespace Json

mutual

/-- The texts inside a value, with the names of fields. -/
def texts : Json → List String
  | null => []
  | number _ => []
  | text value => [value]
  | list items => textsOfItems items
  | object fields => textsOfFields fields

/-- The texts inside the items of a list. -/
def textsOfItems : List Json → List String
  | [] => []
  | item :: items => item.texts ++ textsOfItems items

/-- The names of fields and the texts inside their values. -/
def textsOfFields : List (String × Json) → List String
  | [] => []
  | (name, value) :: fields => name :: value.texts ++ textsOfFields fields

end

/-- The delete character is nowhere in a value. -/
def Clean (json : Json) : Prop :=
  ∀ text ∈ json.texts, '\x7f' ∉ text.toList

@[simp]
theorem clean_null : null.Clean := by
  simp [Clean, texts]

@[simp]
theorem clean_number (value : Int) : (number value).Clean := by
  simp [Clean, texts]

@[simp]
theorem clean_text {value : String} : (text value).Clean ↔ '\x7f' ∉ value.toList := by
  simp [Clean, texts]

@[simp]
theorem clean_list {items : List Json} : (list items).Clean ↔ ∀ item ∈ items, item.Clean := by
  have texts_eq : textsOfItems items = items.flatMap texts := by
    induction items with
    | nil => rfl
    | cons item items ih => rw [textsOfItems, ih, List.flatMap_cons]
  rw [Clean, texts, texts_eq]
  exact List.forall_mem_flatMap

@[simp]
theorem clean_object {fields : List (String × Json)} :
    (object fields).Clean ↔ ∀ field ∈ fields, '\x7f' ∉ field.1.toList ∧ field.2.Clean := by
  have texts_eq : textsOfFields fields = fields.flatMap fun field => field.1 :: field.2.texts := by
    induction fields with
    | nil => rfl
    | cons field fields ih => rw [textsOfFields, ih, List.flatMap_cons]
  rw [Clean, texts, texts_eq, List.forall_mem_flatMap]
  exact forall₂_congr fun _ _ => List.forall_mem_cons

/-! ## What is written of a text -/

theorem isStripped_digitChar : ∀ d < 16, isStripped (Nat.digitChar d) = false := by
  decide

/-- Of all characters only the delete character is written in a form that is stripped. -/
theorem kept_escaped_iff {c : Char} :
    Kept (escaped c) ↔ c ≠ '\x7f' := by
  unfold escaped
  split
  case h_8 =>
    split
    · rename_i control
      have other : c ≠ '\x7f' := by
        rintro rfl
        exact absurd control (by decide)
      have high := isStripped_digitChar (c.toNat / 16) (by omega)
      have low := isStripped_digitChar (c.toNat % 16) (by omega)
      simp +decide [other, high, low]
    · rename_i graphic
      have code : c = '\x7f' ↔ c.toNat = 0x7F := by
        rw [← Char.toNat_inj]
        rfl
      simp [isStripped, graphic, code]
  all_goals decide

theorem kept_quoted_iff {text : String} : Kept (quoted text) ↔ '\x7f' ∉ text.toList := by
  have escapes : Kept (text.toList.flatMap escaped) ↔ ∀ c ∈ text.toList, c ≠ '\x7f' :=
    List.forall_mem_flatMap.trans (forall₂_congr fun _ _ => kept_escaped_iff)
  simp +decide only [quoted, List.cons_append, kept_cons, kept_append, escapes, and_true, true_and]
  exact ⟨fun all member => all _ member rfl, fun none c member same => none (same ▸ member)⟩

/-! ## What is written of a value -/

@[simp]
theorem kept_newline (level : Nat) : Kept (newline level) :=
  kept_cons.mpr ⟨rfl, kept_replicate rfl _⟩

mutual

theorem kept_layout_iff (level : Nat) (json : Json) : Kept (layout level json) ↔ json.Clean := by
  rcases json with _ | value | value | items | fields
  · simp +decide [layout]
  · have numeral : Kept value.repr.toList := printable_intRepr value
    simp [layout, numeral]
  · simpa [layout] using kept_quoted_iff
  · cases items with
    | nil => simp +decide [layout]
    | cons item items =>
      simp +decide [layout, kept_layout_iff (level + 1) item, kept_layoutItems_iff (level + 1) items]
  · rcases fields with _ | ⟨⟨name, value⟩, fields⟩
    · simp +decide [layout]
    · simp +decide [layout, kept_quoted_iff, kept_layout_iff (level + 1) value,
        kept_layoutFields_iff (level + 1) fields, and_assoc]

theorem kept_layoutItems_iff (level : Nat) (items : List Json) :
    Kept (layoutItems level items) ↔ ∀ item ∈ items, item.Clean := by
  rcases items with _ | ⟨item, items⟩
  · simp [layoutItems]
  · simp +decide [layoutItems, kept_layout_iff level item, kept_layoutItems_iff level items]

theorem kept_layoutFields_iff (level : Nat) (fields : List (String × Json)) :
    Kept (layoutFields level fields) ↔
      ∀ field ∈ fields, '\x7f' ∉ field.1.toList ∧ field.2.Clean := by
  rcases fields with _ | ⟨⟨name, value⟩, fields⟩
  · simp [layoutFields]
  · simp +decide [layoutFields, kept_quoted_iff, kept_layout_iff level value,
      kept_layoutFields_iff level fields, and_assoc]

end

/-- The text of a value is printable exactly if the delete character is nowhere in it. -/
theorem printable_render_iff {json : Json} : Printable json.render ↔ json.Clean := by
  rw [render, Printable, String.toList_ofList, kept_layout_iff]

@[simp]
theorem clean_nat (value : Nat) : (nat value).Clean :=
  clean_number value

@[simp]
theorem clean_nat? (value : Option Nat) : (nat? value).Clean := by
  cases value with
  | none => exact clean_null
  | some value => exact clean_nat value

end Json

/-! ## Reports -/

theorem Key.delete_notMem_label (key : Key) : '\x7f' ∉ key.label.toList := by
  intro member
  exact absurd (key.printable_label _ member) (by decide)

theorem Measure.delete_notMem_name (measure : Measure) : '\x7f' ∉ measure.name.toList := by
  cases measure <;> decide

@[simp]
theorem Depth.Row.clean_json (row : Depth.Row) : row.json.Clean := by
  simp +decide [json]

@[simp]
theorem Timeline.clean_json (timeline : Timeline) : timeline.json.Clean := by
  have restarts (restart : Restart) : restart.json.Clean := by
    simp +decide [Restart.json]
  simp +decide [json, Track.json, Key.delete_notMem_label, restarts]

theorem Depth.Violation.clean_json (violation : Depth.Violation) : violation.json.Clean := by
  simp +decide [json, Key.delete_notMem_label]

theorem Point.clean_json (point : Point) : point.json.Clean := by
  simp +decide [json, Key.delete_notMem_label, Measure.delete_notMem_name]

theorem Marker.clean_json (marker : Marker) : marker.json.Clean := by
  cases marker <;> simp +decide [json]

theorem EventCounts.clean_json_iff {counts : EventCounts} :
    counts.json.Clean ↔ ∀ kind ∈ counts.kinds, '\x7f' ∉ kind.name.toList := by
  have cells : counts.json.Clean ↔
      ∀ entry ∈ counts.entries, '\x7f' ∉ entry.1.kind.name.toList := by
    rw [json, Json.clean_list, List.forall_mem_map]
    simp +decide [Key.delete_notMem_label]
  simp only [cells, mem_kinds_iff]
  constructor
  · intro all kind occurs
    obtain ⟨entry, listed, rfl⟩ := occurs
    exact all entry listed
  · intro all entry listed
    exact all _ ⟨entry, listed, rfl⟩

/-- The JSON of a report is printable exactly if no name of a kind holds the delete character. -/
theorem Report.printable_json_iff {report : Report} :
    Printable report.json.render ↔ ∀ kind ∈ report.counts.kinds, '\x7f' ∉ kind.name.toList := by
  rw [Json.printable_render_iff, ← EventCounts.clean_json_iff]
  simp +decide [json, Depth.Violation.clean_json, Point.clean_json, Marker.clean_json]

end QueueDepth
