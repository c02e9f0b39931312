import Mathlib.Algebra.Order.BigOperators.Group.List
import QueueDepth.Proofs.Report.Sections
import QueueDepth.Proofs.Report.Tabulation
import QueueDepth.Proofs.Trace.Loaded

/-!
# The table of counts as a rectangle

The columns of the table of counts have fixed places, and a cell that is wider than its column moves all
behind it. A name always fits its column. So the lines of the table have one length, and each count stands
under the name of its kind, exactly if the labels and the counts fit their columns and no name breaks a
line (`isRectangle_countLines_iff`). Labels of actors fit below 10000.
-/

namespace QueueDepth

namespace Text

@[simp]
theorem length_padStart (width : Nat) (text : String) :
    (padStart width text).length = max width text.length := by
  rw [padStart, String.length_append, String.length_ofList, List.length_replicate]
  omega

@[simp]
theorem length_padEnd (width : Nat) (text : String) :
    (padEnd width text).length = max width text.length := by
  rw [padEnd, String.length_append, String.length_ofList, List.length_replicate]
  omega

/-- A character takes a byte at least. -/
theorem length_le_utf8ByteSize (text : String) : text.length ≤ text.utf8ByteSize := by
  have counted (chars : List Char) : chars.length ≤ (String.ofList chars).utf8ByteSize := by
    induction chars with
    | nil => exact Nat.zero_le _
    | cons c rest ih =>
      have size : (String.ofList (c :: rest)).utf8ByteSize =
          c.utf8Size + (String.ofList rest).utf8ByteSize := by
        rw [← List.singleton_append, String.ofList_append, String.utf8ByteSize_append]
        simp
      have some := c.utf8Size_pos
      rw [size, List.length_cons]
      omega
  rw [← String.length_toList]
  simpa using counted text.toList

theorem within_ne_iff {c : Char} {text : String} : Within (· != c) text ↔ c ∉ text.toList := by
  simp [Within, List.forall_mem_ne']

/-! ## Rectangles -/

/-- Lines that are ended. -/
def ended (lines : List String) : String :=
  String.join (lines.map (· ++ "\n"))

/-- A text is so many ended lines of one length. -/
def IsRectangle (height : Nat) (text : String) : Prop :=
  ∃ lines : List String, ∃ width : Nat, text = ended lines ∧ lines.length = height ∧
    ∀ line ∈ lines, '\n' ∉ line.toList ∧ line.length = width

theorem ended_append (lines more : List String) : ended (lines ++ more) = ended lines ++ ended more := by
  rw [ended, List.map_append, String.join_append]
  rfl

theorem toList_ended (lines : List String) :
    (ended lines).toList = lines.flatMap fun line => line.toList ++ ['\n'] := by
  simp [ended, String.toList_join, List.flatMap_map]

/-- There are as many line feeds as lines, and those within the lines. -/
theorem count_ended (lines : List String) :
    (ended lines).toList.count '\n' =
      lines.length + (lines.map fun line => line.toList.count '\n').sum := by
  rw [toList_ended]
  induction lines with
  | nil => rfl
  | cons line rest ih =>
    rw [List.flatMap_cons, List.count_append, ih, List.count_append, List.count_singleton_self,
      List.length_cons, List.map_cons, List.sum_cons]
    omega

theorem ended_injective {lines others : List String} (unbroken : ∀ line ∈ lines, '\n' ∉ line.toList)
    (unbroken' : ∀ line ∈ others, '\n' ∉ line.toList) (same : ended lines = ended others) :
    lines = others := by
  have cut := congrArg (fun text : String => text.toList.splitOn '\n') same
  simp only [ended, splitOn_ended fun line member => within_ne_iff.mpr (unbroken line member),
    splitOn_ended fun line member => within_ne_iff.mpr (unbroken' line member),
    List.append_cancel_right_eq] at cut
  exact List.map_injective_iff.mpr (fun _ _ => String.toList_inj.mp) cut

/-- Ended lines are a rectangle of their number exactly if no line is broken and all have one length. -/
theorem isRectangle_ended_iff {lines : List String} :
    IsRectangle lines.length (ended lines) ↔
      ∃ width, ∀ line ∈ lines, '\n' ∉ line.toList ∧ line.length = width := by
  constructor
  · intro rectangle
    obtain ⟨others, width, same, height, even⟩ := rectangle
    have broken := congrArg (fun text : String => text.toList.count '\n') same
    simp only [count_ended, height] at broken
    have none : (others.map fun line => line.toList.count '\n').sum = 0 := by
      rw [List.sum_eq_zero_iff]
      simpa [List.count_eq_zero] using fun line member => (even line member).1
    have unbroken : ∀ line ∈ lines, '\n' ∉ line.toList := by
      have zero : (lines.map fun line => line.toList.count '\n').sum = 0 := by omega
      rw [List.sum_eq_zero_iff] at zero
      simpa [List.count_eq_zero] using zero
    have equal := ended_injective unbroken (fun line member => (even line member).1) same
    exact ⟨width, equal ▸ even⟩
  · intro all
    obtain ⟨width, even⟩ := all
    exact ⟨lines, width, rfl, rfl, even⟩

end Text

namespace Report

open Text

/-! ## Columns -/

variable {head : String} {kinds : List Kind} {cell : Kind → String}

/-- The cells of a line behind its label, each with the blank before it. -/
def cellsText (kinds : List Kind) (cell : Kind → String) : List Char :=
  kinds.flatMap fun kind => ' ' :: (padStart (columnWidth kind) (cell kind)).toList

theorem toList_countLine :
    (countLine head kinds cell).toList = (padEnd 10 head).toList ++ cellsText kinds cell := by
  have grown (line : String) :
      (kinds.foldl (fun line kind => line ++ " " ++ padStart (columnWidth kind) (cell kind))
        line).toList = line.toList ++ cellsText kinds cell := by
    induction kinds generalizing line with
    | nil => simp [cellsText]
    | cons kind rest ih =>
      rw [List.foldl_cons, ih]
      simp [cellsText]
  exact grown _

/-- The length of a line whose cells fit their columns. -/
def lineWidth (kinds : List Kind) : Nat :=
  10 + (kinds.map fun kind => 1 + columnWidth kind).sum

/-- A line is longer than that by what stands out of its columns. -/
theorem length_countLine :
    (countLine head kinds cell).length = lineWidth kinds + (head.length - 10) +
      (kinds.map fun kind => (cell kind).length - columnWidth kind).sum := by
  have cells : (cellsText kinds cell).length = (kinds.map fun kind => 1 + columnWidth kind).sum +
      (kinds.map fun kind => (cell kind).length - columnWidth kind).sum := by
    rw [cellsText, List.length_flatMap, ← List.sum_map_add]
    refine congrArg List.sum (List.map_congr_left ?_)
    intro kind _
    rw [List.length_cons, String.length_toList, length_padStart]
    omega
  rw [← String.length_toList, toList_countLine, List.length_append, String.length_toList,
    length_padEnd, cells, lineWidth]
  omega

theorem length_countLine_eq_iff :
    (countLine head kinds cell).length = lineWidth kinds ↔
      head.length ≤ 10 ∧ ∀ kind ∈ kinds, (cell kind).length ≤ columnWidth kind := by
  have fit : (kinds.map fun kind => (cell kind).length - columnWidth kind).sum = 0 ↔
      ∀ kind ∈ kinds, (cell kind).length ≤ columnWidth kind := by
    rw [List.sum_eq_zero_iff, List.forall_mem_map]
    simp only [Nat.sub_eq_zero_iff_le]
  rw [length_countLine, ← fit]
  omega

/-- The part of a line from a place on. -/
def slice (start width : Nat) (line : String) : String :=
  String.ofList ((line.toList.drop start).take width)

/-- Where all that stands before it fits, a cell stands in its column. -/
theorem slice_countLine {earlier later : List Kind} {kind : Kind} (label : head.length ≤ 10)
    (before : ∀ other ∈ earlier, (cell other).length ≤ columnWidth other)
    (here : (cell kind).length ≤ columnWidth kind) :
    slice (lineWidth earlier + 1) (columnWidth kind)
        (countLine head (earlier ++ kind :: later) cell) =
      padStart (columnWidth kind) (cell kind) := by
  have front : (countLine head earlier cell).toList.length = lineWidth earlier := by
    rw [String.length_toList]
    exact length_countLine_eq_iff.mpr ⟨label, before⟩
  have column : (padStart (columnWidth kind) (cell kind)).toList.length = columnWidth kind := by
    rw [String.length_toList, length_padStart]
    omega
  have line : (countLine head (earlier ++ kind :: later) cell).toList =
      (countLine head earlier cell).toList ++ ' ' ::
        ((padStart (columnWidth kind) (cell kind)).toList ++ cellsText later cell) := by
    rw [toList_countLine, toList_countLine, List.append_assoc]
    simp [cellsText]
  rw [slice, line, List.drop_append, front, Nat.add_sub_cancel_left, List.drop_of_length_le (by omega),
    List.nil_append, List.drop_one, List.tail_cons, List.take_left' column, String.ofList_toList]

/-! ## The table -/

theorem length_label_le_iff {key : Key} :
    key.label.length ≤ 10 ↔ ∀ id, key = .actor id → id < 10000 := by
  cases key with
  | actor id =>
    have digits : id.repr.length ≤ 4 ↔ id < 10 ^ 4 := Nat.length_repr_le_iff (by decide)
    have label : (Key.actor id).label.length = 6 + id.repr.length := by
      rw [Key.label, String.length_append]
      rfl
    simp only [Key.actor.injEq, forall_eq', label]
    omega
  | pool => simp +decide
  | system => simp +decide

theorem length_countText_le_iff {count : Nat} {kind : Kind} :
    (countText count).length ≤ columnWidth kind ↔ count < 10 ^ columnWidth kind := by
  have some : 0 < columnWidth kind := by
    rw [columnWidth]
    omega
  unfold countText
  split
  case isTrue none =>
    rw [none]
    exact iff_of_true (some : "-".length ≤ columnWidth kind) (Nat.pow_pos (by decide))
  case isFalse => exact Nat.length_repr_le_iff some

theorem length_name_le_columnWidth (kind : Kind) : kind.name.length ≤ columnWidth kind :=
  (length_le_utf8ByteSize kind.name).trans (Nat.le_max_left _ _)

variable {counts : EventCounts}

theorem unbroken_countLines_iff :
    (∀ line ∈ countLines counts, '\n' ∉ line.toList) ↔ ∀ kind ∈ counts.kinds, '\n' ∉ kind.name.toList := by
  have wide (c : Char) (visible : isVisible c = true) : (c != '\n') = true := by
    rw [bne_iff_ne]
    rintro rfl
    cases visible
  have names : (∀ line ∈ countLines counts, Within (· != '\n') line) ↔
      ∀ kind ∈ counts.kinds, Within (· != '\n') kind.name := within_countLines_iff wide
  simpa only [within_ne_iff] using names

/-- The line of the names has the width of the table, so all lines have one length if the others have
that. -/
theorem even_countLines_iff :
    (∃ width, ∀ line ∈ countLines counts, line.length = width) ↔
      ∀ key ∈ counts.keys, key.label.length ≤ 10 ∧
        ∀ kind ∈ counts.kinds, (countText (counts.count key kind)).length ≤ columnWidth kind := by
  have names : (countLine "Key" counts.kinds Kind.name).length = lineWidth counts.kinds :=
    length_countLine_eq_iff.mpr ⟨by decide, fun kind _ => length_name_le_columnWidth kind⟩
  simp only [countLines, List.forall_mem_cons, List.forall_mem_map, names,
    ← length_countLine_eq_iff, exists_eq_left']

/-- What events need for their table to be a rectangle. -/
structure FitColumns (events : List Event) : Prop where
  unbroken : ∀ event ∈ events, '\n' ∉ event.kind.name.toList
  actors : ∀ event ∈ events, ∀ id, event.scope = .actor id → id < 10000
  counts : ∀ event ∈ events,
    EventCounts.occurrences events (.ofEvent event) < 10 ^ columnWidth event.kind

variable {events : List Event}

/-- A count of no events fits, so only the cells of the events count. -/
theorem fitColumns_iff :
    FitColumns events ↔
      (∀ kind ∈ (EventCounts.ofEvents events).kinds, '\n' ∉ kind.name.toList) ∧
      ∀ key ∈ (EventCounts.ofEvents events).keys, key.label.length ≤ 10 ∧
        ∀ kind ∈ (EventCounts.ofEvents events).kinds,
          (countText ((EventCounts.ofEvents events).count key kind)).length ≤ columnWidth kind := by
  simp only [length_label_le_iff, length_countText_le_iff, EventCounts.count_ofEvents]
  constructor
  · intro fit
    refine ⟨?_, ?_⟩
    · intro kind occurs
      obtain ⟨event, member, rfl⟩ := EventCounts.mem_kinds_ofEvents.mp occurs
      exact fit.unbroken event member
    · intro key owns
      refine ⟨?_, ?_⟩
      · obtain ⟨event, member, rfl⟩ := EventCounts.mem_keys_ofEvents.mp owns
        exact fit.actors event member
      · intro kind _
        by_cases counted : EventCounts.occurrences events ⟨key, kind⟩ = 0
        · rw [counted]
          exact Nat.pow_pos (by decide)
        · obtain ⟨event, member, same⟩ := List.countP_pos_iff.mp (Nat.pos_of_ne_zero counted)
          rw [decide_eq_true_eq] at same
          have cell := fit.counts event member
          rw [same] at cell
          cases same
          exact cell
  · intro fit
    obtain ⟨unbroken, fit⟩ := fit
    have kinds (event : Event) (member : event ∈ events) :=
      EventCounts.mem_kinds_ofEvents.mpr ⟨event, member, rfl⟩
    have keys (event : Event) (member : event ∈ events) :=
      EventCounts.mem_keys_ofEvents.mpr ⟨event, member, rfl⟩
    refine ⟨?_, ?_, ?_⟩
    · exact fun event member => unbroken _ (kinds event member)
    · exact fun event member => (fit _ (keys event member)).1
    · exact fun event member => (fit _ (keys event member)).2 _ (kinds event member)

/-- The table of a list of events is a rectangle exactly if they fit its columns. -/
theorem isRectangle_countLines_iff :
    IsRectangle (1 + (EventCounts.ofEvents events).keys.length)
      (ended (countLines (.ofEvents events))) ↔ FitColumns events := by
  have height : 1 + (EventCounts.ofEvents events).keys.length =
      (countLines (.ofEvents events)).length := by
    rw [countLines, List.length_cons, List.length_map, Nat.add_comm]
  have both : (∃ width, ∀ line ∈ countLines (.ofEvents events),
        '\n' ∉ line.toList ∧ line.length = width) ↔
      (∀ line ∈ countLines (.ofEvents events), '\n' ∉ line.toList) ∧
        ∃ width, ∀ line ∈ countLines (.ofEvents events), line.length = width := by
    simp only [forall_and, exists_and_left]
  rw [height, isRectangle_ended_iff, both, unbroken_countLines_iff, even_countLines_iff, fitColumns_iff]

/-- In a table whose cells fit, the counts of a kind stand in the column of its name. -/
theorem slice_countLines (fit : FitColumns events) {earlier later : List Kind} {kind : Kind}
    (kinds : (EventCounts.ofEvents events).kinds = earlier ++ kind :: later) :
    slice (lineWidth earlier + 1) (columnWidth kind)
        (countLine "Key" (EventCounts.ofEvents events).kinds Kind.name) =
      padStart (columnWidth kind) kind.name ∧
    ∀ key ∈ (EventCounts.ofEvents events).keys,
      slice (lineWidth earlier + 1) (columnWidth kind)
          (countLine key.label (EventCounts.ofEvents events).kinds fun kind =>
            countText ((EventCounts.ofEvents events).count key kind)) =
        padStart (columnWidth kind) (countText ((EventCounts.ofEvents events).count key kind)) := by
  obtain ⟨_, cells⟩ := fitColumns_iff.mp fit
  rw [kinds] at cells ⊢
  constructor
  · exact slice_countLine (by decide) (fun other _ => length_name_le_columnWidth other)
      (length_name_le_columnWidth kind)
  · intro key owns
    obtain ⟨label, counts⟩ := cells key owns
    exact slice_countLine label (fun other before => counts other (List.mem_append_left _ before))
      (counts kind (List.mem_append_right _ List.mem_cons_self))

/-! ## Reports -/

theorem ended_titled (title : String) (lines : List String) :
    ended (titled title lines) =
      "\n" ++ title ++ "\n" ++ String.ofList (List.replicate title.length '-') ++ "\n" ++ ended lines := by
  simp [ended, titled, String.append_assoc]

/-- The table stands between the line under its title and the empty line before the next section. -/
theorem text_around_counts (report : Report) :
    ∃ behind, report.text = ended report.headLines ++ "\nEVENT COUNTS\n------------\n" ++
      ended (countLines report.counts) ++ "\nQUEUE DEPTH\n-----------\n" ++ behind := by
  have above : ended (titled "EVENT COUNTS" (countLines report.counts)) =
      "\nEVENT COUNTS\n------------\n" ++ ended (countLines report.counts) := by
    rw [ended_titled]
    rfl
  have below : ended (titled "QUEUE DEPTH" (report.timeline.tracks.flatMap trackLines)) =
      "\nQUEUE DEPTH\n-----------\n" ++ ended (report.timeline.tracks.flatMap trackLines) := by
    rw [ended_titled]
    rfl
  refine ⟨ended (report.timeline.tracks.flatMap trackLines) ++
    ended (if report.violations.isEmpty then []
      else titled "DEPTH VIOLATIONS" (report.violations.map violationLine)) ++
    ended (titled "MARKERS" (report.timeline.markers.map markerLine)), ?_⟩
  have whole : report.text = ended report.lines := rfl
  rw [whole, lines, ended_append, ended_append, ended_append, ended_append, above, below]
  simp only [String.append_assoc]

/-- A text with the widest actor that fits, and a name that takes more bytes than characters. -/
def broadText : List UInt8 :=
  Utf8.encode ("timestamp,actor_id,gen_id,thread_id,eventType\n" ++ "1,9999,,main,Gr\u00f6\u00dfe\n" ++
    "2,,,main,StopSystem\n").toList

/-- The trace it holds. -/
def broadTrace : Trace :=
  ⟨[⟨1, some 9999, none, "main", .other "Gr\u00f6\u00dfe"⟩, ⟨2, none, none, "main", .stopSystem⟩],
    by decide⟩

/-- A text with an actor whose number takes five digits. -/
def crampedText : List UInt8 :=
  Utf8.encode ("timestamp,actor_id,gen_id,thread_id,eventType\n" ++ "1,10000,,t,Enqueue\n" ++
    "2,,,t,StopSystem\n").toList

/-- The trace it holds. -/
def crampedTrace : Trace :=
  ⟨[⟨1, some 10000, none, "t", .enqueue⟩, ⟨2, none, none, "t", .stopSystem⟩], by decide⟩

end Report

end QueueDepth
