import QueueDepth.Proofs.Text.Quoted
import QueueDepth.Proofs.Trace.Faults
import QueueDepth.Proofs.Trace.Fields
import QueueDepth.Proofs.Trace.Loaded

/-!
# Messages about rejected texts

A text may hold any bytes, and the message about a text that is rejected tells of its content. What it
tells is a number, a name that is known beforehand, or a quoted text, so whoever writes the trace cannot
make the message hold a line end, an escape sequence or anything else that is not shown
(`Trace.message_of_rejected_text`).
-/

namespace QueueDepth

open Text

theorem Trace.ofText_of_ofCsv {text : List UInt8} {rejected : Malformed}
    (failed : ofCsv text = .error rejected) : rejected.defect.OfText := by
  apply blames_ofRows (Csv.rows text)
  unfold ofCsv at failed
  cases read : Event.ofRows (Csv.rows text) <;> rw [read] at failed <;> cases failed
  rfl

/-! ## What messages tell -/

theorem Column.visible_name (column : Column) : Visible column.name := by
  cases column <;> decide

/-- A kind that needs an actor has a name of the vocabulary. -/
theorem Kind.visible_name_of_needsActor {kind : Kind} (needs : kind.needsActor = true) :
    Visible kind.name := by
  have known : ∀ name ∈ namesOwned, Visible name := by decide
  exact known _ (name_mem_namesOwned needs)

/-- A field of the text only stands in a message between quotation marks. -/
theorem Defect.shown_reason {defect : Defect} (ofText : defect.OfText) : Shown defect.reason := by
  have name (column : Column) : Visible column.name := column.visible_name
  unfold Defect.reason
  cases defect with
  | missingColumn column => exact Visible.shown (by simp +decide [name])
  | uneven start found expected => exact Visible.shown (by simp +decide)
  | notUtf8 start field byte => exact Visible.shown (by simp +decide)
  | blank column => exact Visible.shown (by simp +decide [name])
  | notANumber column text =>
    have wording : Shown ("`" ++ column.name ++ "` is not a non-negative integer: ") :=
      Visible.shown (by simp +decide [name])
    exact within_append.mpr ⟨wording, shown_quoted text.toList⟩
  | noActor kind =>
    have kind : Visible kind.name := Kind.visible_name_of_needsActor ofText
    exact Visible.shown (by simp +decide [kind])
  | unreadable reason => exact ofText.elim

theorem Malformed.shown_message {rejected : Malformed} (ofText : rejected.defect.OfText) :
    Shown rejected.message := by
  have wording : Shown ("malformed record at line " ++ rejected.line.repr ++ ": ") :=
    Visible.shown (by simp +decide)
  exact within_append.mpr ⟨wording, Defect.shown_reason ofText⟩

namespace Trace

/-- The message about a text that is rejected holds no control character, and no other character that is
hidden or joins the one before it, whatever the text holds. -/
theorem message_of_rejected_text {text : List UInt8} {rejected : Malformed}
    (failed : ofCsv text = .error rejected) :
    ∀ c ∈ rejected.message.toList,
      ¬ IsControl c ∧ isHidden c = false ∧ isExtending c = false := by
  intro c member
  have shown : isShown c = true := Malformed.shown_message (ofText_of_ofCsv failed) c member
  have plain : isExtending c = false ∧ isHidden c = false := by simpa [isShown] using shown
  exact ⟨not_control_of_isShown shown, plain.2, plain.1⟩

/-- A text whose first number is a line feed between two escape sequences, one of them for a delete
character. -/
def hostileText : List UInt8 :=
  Text.Utf8.encode ("timestamp,actor_id,gen_id,thread_id,eventType\n" ++
    "\"\x1b[31m1\n\"\"\x7f\",7,,main,Enqueue\n").toList

theorem message_of_hostileText :
    ofCsv hostileText = .error ⟨2, .notANumber .timestamp "\x1b[31m1\n\"\x7f"⟩ ∧
      Malformed.message ⟨2, .notANumber .timestamp "\x1b[31m1\n\"\x7f"⟩ =
        "malformed record at line 2: `timestamp` is not a non-negative integer: " ++
          "\"\\u\x7b1b\x7d[31m1\\n\\\"\\u\x7b7f\x7d\"" ∧
      ∀ c ∈ (Malformed.message ⟨2, .notANumber .timestamp "\x1b[31m1\n\"\x7f"⟩).toList,
        ¬ IsControl c ∧ isHidden c = false ∧ isExtending c = false := by
  have failed : ofCsv hostileText = .error ⟨2, .notANumber .timestamp "\x1b[31m1\n\"\x7f"⟩ :=
    ofCsv_eq_error (by decide +kernel)
  exact ⟨failed, by decide +kernel, message_of_rejected_text failed⟩

end Trace

end QueueDepth
