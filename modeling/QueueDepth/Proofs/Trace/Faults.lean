import Mathlib.Data.List.Basic
import QueueDepth.Trace.Reading

/-!
# What a text is rejected for

Readers that fail are followed step by step: whatever goes wrong in the steps goes wrong in the whole
(`Blames.bind`, `Blames.mapM`). So the fault of a row is found on the line at which the row begins, and
whatever a text is rejected for is a defect that a text can have (`blames_ofRow`, `blames_ofRows`).
-/

namespace QueueDepth

/-- What is read item by item fails with the first item that fails. -/
theorem mapM_eq_error_iff {α β ε : Type} {read : α → Except ε β} {items : List α} {fault : ε} :
    items.mapM read = .error fault ↔
      ∃ early item later, items = early ++ item :: later ∧
        (∀ good ∈ early, ∃ result, read good = .ok result) ∧ read item = .error fault := by
  induction items with
  | nil => simp [pure, Except.pure]
  | cons first items ih =>
    rw [List.mapM_cons]
    cases head : read first with
    | error other =>
      simp only [bind, Except.bind, Except.error.injEq]
      constructor
      · rintro rfl
        exact ⟨[], first, items, rfl, by simp, head⟩
      · rintro ⟨early, item, later, split, good, failed⟩
        cases early with
        | nil =>
          obtain ⟨rfl, rfl⟩ := List.cons.inj split
          exact Except.error.inj (head.symm.trans failed)
        | cons _ early =>
          obtain ⟨rfl, rfl⟩ := List.cons.inj split
          obtain ⟨result, ok⟩ := good first (by simp)
          cases head.symm.trans ok
    | ok result =>
      have rest : (do
          let first ← Except.ok (ε := ε) result
          let others ← items.mapM read
          pure (first :: others)) = .error fault ↔ items.mapM read = .error fault := by
        cases items.mapM read <;> simp [bind, Except.bind, pure, Except.pure]
      rw [rest, ih]
      constructor
      · rintro ⟨early, item, later, rfl, good, failed⟩
        exact ⟨first :: early, item, later, rfl, List.forall_mem_cons.mpr ⟨⟨result, head⟩, good⟩, failed⟩
      · rintro ⟨early, item, later, split, good, failed⟩
        cases early with
        | nil =>
          obtain ⟨rfl, rfl⟩ := List.cons.inj split
          cases head.symm.trans failed
        | cons _ early =>
          obtain ⟨rfl, rfl⟩ := List.cons.inj split
          exact ⟨early, item, later, rfl, (List.forall_mem_cons.mp good).2, failed⟩

/-! ## Faults -/

/-- Whatever goes wrong is such a fault. -/
def Blames {α : Type} (such : Malformed → Prop) (result : Except Malformed α) : Prop :=
  ∀ rejected, result = .error rejected → such rejected

namespace Blames

variable {α β : Type} {such other : Malformed → Prop}

theorem mono {result : Except Malformed α} (blames : Blames such result)
    (weaker : ∀ rejected, such rejected → other rejected) : Blames other result :=
  fun rejected failed => weaker rejected (blames rejected failed)

theorem error {rejected : Malformed} (fits : such rejected) :
    Blames such (.error rejected : Except Malformed α) := by
  intro other failed
  rwa [← Except.error.inj failed]

theorem ok (a : α) : Blames such (.ok a) := by
  intro rejected failed
  cases failed

theorem bind {first : Except Malformed α} {next : α → Except Malformed β} (blames : Blames such first)
    (then_ : ∀ a, Blames such (next a)) : Blames such (first >>= next) := by
  intro rejected failed
  cases first with
  | error fault => exact blames rejected (by simpa [Bind.bind, Except.bind] using failed)
  | ok a => exact then_ a rejected failed

theorem mapM {read : α → Except Malformed β} (blames : ∀ item, Blames such (read item))
    (items : List α) : Blames such (items.mapM read) := by
  intro rejected failed
  obtain ⟨_, item, _, _, _, fault⟩ := mapM_eq_error_iff.mp failed
  exact blames item rejected fault

end Blames

/-! ## Faults of a text -/

/-- The defects that a text can be rejected for: it can be read, and an actor is only missed where the
kind needs one. -/
def Defect.OfText : Defect → Prop
  | noActor kind => kind.needsActor = true
  | unreadable _ => False
  | _ => True

/-- A text is at fault, on this line. -/
structure Malformed.OnLine (line : Nat) (rejected : Malformed) : Prop where
  line : rejected.line = line
  ofText : rejected.defect.OfText

open Malformed (OnLine)

theorem blames_numberField (line : Nat) (column : Column) (text : String) :
    Blames (OnLine line) (numberField line column text) := by
  unfold numberField
  split
  · exact .ok _
  · split
    · exact .ok _
    · exact .error ⟨rfl, trivial⟩

theorem blames_fieldTexts (start : Csv.Position) (fields : List (List UInt8)) :
    Blames (OnLine start.line) (fieldTexts start fields) := by
  refine .mapM ?_ fields.zipIdx
  intro ⟨bytes, place⟩
  dsimp only
  split
  · exact .ok _
  · exact .error ⟨rfl, trivial⟩

theorem blames_ofHeader (header : List String) : Blames (OnLine 1) (Columns.ofHeader header) := by
  unfold Columns.ofHeader
  extract_lets find
  have found (column : Column) : Blames (OnLine 1) (find column) := by
    unfold find
    split
    · exact .ok _
    · exact .error ⟨rfl, trivial⟩
  exact .bind (found _) fun _ => .bind (found _) fun _ => .bind (found _) fun _ =>
    .bind (found _) fun _ => .bind (found _) fun _ => .ok _

theorem blames_ofFields (columns : Columns) (line : Nat) (texts : List String) :
    Blames (OnLine line) (Event.ofFields columns line texts) := by
  refine .bind (blames_numberField _ _ _) fun timestamp? => ?_
  rcases timestamp? with _ | timestamp
  · exact .error ⟨rfl, trivial⟩
  · dsimp only
    split
    · exact .error ⟨rfl, trivial⟩
    · refine .bind (blames_numberField _ _ _) fun actor? => ?_
      split
      · rename_i missed
        rw [Bool.and_eq_true] at missed
        exact .error ⟨rfl, missed.2⟩
      · exact .bind (blames_numberField _ _ _) fun generation? => .ok _

/-- A row is at fault on the line at which its reading began. -/
theorem blames_ofRow (columns : Columns) (width : Nat) (row : Csv.Row) :
    Blames (OnLine row.start.line) (Event.ofRow columns width row) := by
  unfold Event.ofRow
  split
  · exact .error ⟨rfl, trivial⟩
  · exact .bind (blames_fieldTexts _ _) fun texts => blames_ofFields columns _ texts

theorem blames_ofRows (rows : List Csv.Row) :
    Blames (fun rejected => rejected.defect.OfText) (Event.ofRows rows) := by
  have anyLine {α : Type} {line : Nat} {result : Except Malformed α}
      (blames : Blames (OnLine line) result) : Blames (fun rejected => rejected.defect.OfText) result :=
    blames.mono fun _ onLine => onLine.ofText
  cases rows with
  | nil => exact .bind (anyLine (blames_ofHeader _)) fun columns => .ok _
  | cons header body =>
    exact .bind (anyLine (blames_fieldTexts _ _)) fun names =>
      .bind (anyLine (blames_ofHeader names)) fun columns =>
        .mapM (fun row => anyLine (blames_ofRow columns _ row)) body

end QueueDepth
