import QueueDepth.Proofs.Trace.Order
import QueueDepth.Proofs.Trace.Rows

/-!
# What a loaded trace holds

Every event of a trace that was read from a text passed the checks of its row. The lemmas go from the
text down to the fields, one step of the reader each.

* `Event.of_ofFields_eq_ok`: what the fields of an accepted row say.
* `Trace.exists_texts_of_mem`: where the events of a loaded trace come from.
-/

namespace QueueDepth

/-- A chain of steps succeeds if each does on what the one before gives. -/
theorem bind_eq_ok_iff {ε α β : Type} {first : Except ε α} {next : α → Except ε β} {result : β} :
    (first >>= next) = .ok result ↔ ∃ a, first = .ok a ∧ next a = .ok result := by
  cases first <;> simp [bind, Except.bind]

/-- What is read item by item comes from the items. -/
theorem mem_iff_of_mapM {α β ε : Type} {read : α → Except ε β} {items : List α}
    {results : List β} (ok : items.mapM read = .ok results) {result : β} :
    result ∈ results ↔ ∃ item ∈ items, read item = .ok result := by
  have pairs := (mapM_eq_ok_iff read items results).mp ok
  clear ok
  induction pairs with
  | nil => simp
  | @cons item first items others head _ ih =>
    have here : result = first ↔ read item = .ok result := by
      rw [head, Except.ok.injEq, eq_comm]
    rw [List.mem_cons, List.exists_mem_cons_iff]
    exact or_congr here ih

/-- An accepted row says what its event is, column by column. -/
theorem Event.of_ofFields_eq_ok {columns : Columns} {line : Nat} {texts : List String}
    {event : Event} (ok : Event.ofFields columns line texts = .ok event) :
    numberField line .timestamp (columns.text texts .timestamp) = .ok (some event.timestamp) ∧
    numberField line .actor (columns.text texts .actor) = .ok event.actor ∧
    numberField line .generation (columns.text texts .generation) = .ok event.generation ∧
    columns.text texts .thread = event.thread ∧
    columns.text texts .kind ≠ "" ∧
    Kind.ofName (columns.text texts .kind) = event.kind ∧
    (event.kind.needsActor = true → event.actor.isSome = true) := by
  obtain ⟨stamp?, timestamp, ok⟩ := bind_eq_ok_iff.mp ok
  rcases stamp? with _ | stamp
  · cases ok
  · dsimp only at ok
    split at ok
    · cases ok
    · rename_i filled
      obtain ⟨actor?, actor, ok⟩ := bind_eq_ok_iff.mp ok
      split at ok
      · cases ok
      · rename_i named
        obtain ⟨generation?, generation, ok⟩ := bind_eq_ok_iff.mp ok
        cases ok
        have someName : texts.getD columns.kind "" ≠ "" := by simpa using filled
        refine ⟨timestamp, actor, generation, rfl, someName, rfl, ?_⟩
        intro needs
        rw [needs, Bool.and_true] at named
        cases actor? with
        | none => exact absurd rfl named
        | some id => rfl

namespace Trace

variable {text : List UInt8} {trace : Trace}

/-- Rows in timestamp order are the trace. -/
theorem ofCsv_eq_ok (read : Event.ofRows (Csv.rows text) = .ok trace.events) :
    ofCsv text = .ok trace := by
  rw [ofCsv, read]
  exact congrArg Except.ok (ofLog_events trace)

theorem ofCsv_eq_error {rejected : Malformed} (read : Event.ofRows (Csv.rows text) = .error rejected) :
    ofCsv text = .error rejected := by
  rw [ofCsv, read]
  rfl

/-- A trace is loaded from events that were read row by row. -/
theorem exists_rows_of_ofCsv (loaded : ofCsv text = .ok trace) :
    ∃ columns width, ∃ rows : List Csv.Row, ∃ log,
      rows.mapM (Event.ofRow columns width) = .ok log ∧ trace = ofLog log := by
  unfold ofCsv at loaded
  cases read : Event.ofRows (Csv.rows text) with
  | error rejected =>
    rw [read] at loaded
    cases loaded
  | ok log =>
    rw [read] at loaded
    cases loaded
    cases rows : Csv.rows text with
    | nil =>
      rw [rows] at read
      obtain ⟨columns, _, ok⟩ := bind_eq_ok_iff.mp read
      exact ⟨columns, 0, [], log, ok, rfl⟩
    | cons header body =>
      rw [rows] at read
      obtain ⟨names, _, read⟩ := bind_eq_ok_iff.mp read
      obtain ⟨columns, _, ok⟩ := bind_eq_ok_iff.mp read
      exact ⟨columns, header.fields.length, body, log, ok, rfl⟩

/-- Every event of a loaded trace is that of the texts in a row. -/
theorem exists_texts_of_mem (loaded : ofCsv text = .ok trace) {event : Event}
    (member : event ∈ trace.events) :
    ∃ columns start fields texts, fieldTexts start fields = .ok texts ∧
      Event.ofFields columns start.line texts = .ok event := by
  obtain ⟨columns, width, rows, log, read, rfl⟩ := exists_rows_of_ofCsv loaded
  obtain ⟨row, _, ok⟩ := (mem_iff_of_mapM read).mp ((perm_ofLog log).mem_iff.mp member)
  unfold Event.ofRow at ok
  split at ok
  · cases ok
  · obtain ⟨texts, decoded, ok⟩ := bind_eq_ok_iff.mp ok
    exact ⟨columns, row.start, _, texts, decoded, ok⟩

/-- Where an event of a loaded trace needs an actor, it names one. -/
theorem named_of_mem (loaded : ofCsv text = .ok trace) {event : Event}
    (member : event ∈ trace.events) (needs : event.kind.needsActor = true) :
    event.actor.isSome = true := by
  obtain ⟨_, _, _, _, _, read⟩ := exists_texts_of_mem loaded member
  obtain ⟨_, _, _, _, _, _, named⟩ := Event.of_ofFields_eq_ok read
  exact named needs

end Trace

end QueueDepth
