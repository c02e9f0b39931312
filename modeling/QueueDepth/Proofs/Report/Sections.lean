import QueueDepth.Proofs.Report.Lines
import QueueDepth.Proofs.Report.Text

/-!
# Reports can be read back from their text

The text of a report tells all of its analysis but the rows before a violation, of which it tells how many
there are (`Report.text_determines`). A line ends at its line feed as long as no name of a kind holds one.
Sections stand between empty lines, and within the depth section a series begins at each line that is not
indented.
-/

namespace QueueDepth

open Text

/-! ## Lines of a text -/

/-- Lines that are ended and hold no line feed are cut apart again. -/
theorem Text.splitOn_ended {lines : List String} (unbroken : ∀ line ∈ lines, Within (· != '\n') line) :
    (String.join (lines.map (· ++ "\n"))).toList.splitOn '\n' = lines.map String.toList ++ [[]] := by
  induction lines with
  | nil => rfl
  | cons line rest ih =>
    obtain ⟨here, later⟩ := List.forall_mem_cons.mp unbroken
    have free : '\n' ∉ line.toList := fun member => by simpa using here _ member
    have ended : (String.join ((line :: rest).map (· ++ "\n"))).toList =
        line.toList ++ '\n' :: (String.join (rest.map (· ++ "\n"))).toList := by
      simp [String.toList_join]
    rw [ended, List.splitOn_append_cons_self_of_not_mem free, ih later, List.map_cons, List.cons_append]

namespace Report

theorem lines_of_text {report other : Report} (unbroken : ∀ line ∈ report.lines, Within (· != '\n') line)
    (unbroken' : ∀ line ∈ other.lines, Within (· != '\n') line) (same : report.text = other.text) :
    report.lines = other.lines := by
  have cut := congrArg (fun text : String => text.toList.splitOn '\n') same
  simp only [text, splitOn_ended unbroken, splitOn_ended unbroken', List.append_cancel_right_eq] at cut
  exact List.map_injective_iff.mpr (fun _ _ => String.toList_inj.mp) cut

/-! ## Sections -/

/-- A section without the empty line before it. -/
def headed (title : String) (lines : List String) : List String :=
  title :: String.ofList (List.replicate title.length '-') :: lines

/-- The section of the violations, if there are any. -/
def violationSections (violations : List Depth.Violation) : List (List String) :=
  if violations.isEmpty then [] else [headed "DEPTH VIOLATIONS" (violations.map violationLine)]

/-- The head of a report and its sections. -/
def sections (report : Report) : List (List String) :=
  report.headLines :: headed "EVENT COUNTS" (countLines report.counts) ::
    headed "QUEUE DEPTH" (report.timeline.tracks.flatMap trackLines) ::
      (violationSections report.violations ++
        [headed "MARKERS" (report.timeline.markers.map markerLine)])

theorem lines_eq_intercalate (report : Report) : report.lines = [""].intercalate report.sections := by
  unfold lines sections violationSections
  split <;> simp [titled, headed, List.intercalate_cons_cons]

theorem countLine_ne_empty {head : String} (some : head ≠ "") (kinds : List Kind)
    (cell : Kind → String) : countLine head kinds cell ≠ "" := by
  have grown (line : String) (some : line ≠ "") :
      kinds.foldl (fun line kind => line ++ " " ++ padStart (columnWidth kind) (cell kind)) line ≠ "" := by
    induction kinds generalizing line with
    | nil => exact some
    | cons kind rest ih => exact ih _ (by simp)
  exact grown _ (by simp [padEnd, some])

theorem empty_notMem_headLines (report : Report) : "" ∉ report.headLines := by
  simp only [headLines, List.mem_append, not_or]
  refine ⟨⟨?_, ?_⟩, ?_⟩
  · simp +decide
  · split <;> simp
  · split <;> simp

theorem empty_notMem_countLines (counts : EventCounts) : "" ∉ countLines counts := by
  rw [countLines, List.mem_cons, List.mem_map, not_or, not_exists]
  refine ⟨(countLine_ne_empty (by decide) _ _).symm, ?_⟩
  rintro key ⟨_, empty⟩
  exact countLine_ne_empty key.label_ne_empty _ _ empty

theorem empty_notMem_trackLines (track : Track) : "" ∉ trackLines track := by
  rw [trackLines_eq, List.mem_cons, not_or]
  constructor
  · simp [peakLine, track.series.key.label_ne_empty]
  · intro member
    have indented := isIndented_of_mem_bodyLines "" member
    cases indented

theorem violationLine_ne_empty (violation : Depth.Violation) : violationLine violation ≠ "" := by
  simp [violationLine]

theorem markerLine_ne_empty (marker : Marker) : markerLine marker ≠ "" := by
  cases marker <;> simp [markerLine]

theorem empty_notMem_headed {title : String} {lines : List String} (some : title ≠ "")
    (none : "" ∉ lines) : "" ∉ headed title lines := by
  have underlined : title.length ≠ 0 := by simpa using some
  simp [headed, some, none, underlined]

/-- No line within a section is empty. -/
theorem empty_notMem_sections (report : Report) : ∀ lines ∈ report.sections, "" ∉ lines := by
  have depths : "" ∉ report.timeline.tracks.flatMap trackLines := by
    simp [List.mem_flatMap, empty_notMem_trackLines]
  have violations : "" ∉ report.violations.map violationLine := by
    simp [violationLine_ne_empty]
  have markers : "" ∉ report.timeline.markers.map markerLine := by
    simp [markerLine_ne_empty]
  simp only [sections, violationSections, List.forall_mem_cons, List.forall_mem_append]
  refine ⟨report.empty_notMem_headLines, ?_, ?_, ?_, ?_⟩
  · exact empty_notMem_headed (by decide) (empty_notMem_countLines _)
  · exact empty_notMem_headed (by decide) depths
  · split
    · simp
    · simpa using empty_notMem_headed (by decide) violations
  · simpa using empty_notMem_headed (by decide) markers

theorem splitOn_lines (report : Report) : report.lines.splitOn "" = report.sections := by
  rw [lines_eq_intercalate, List.splitOn_intercalate "" report.empty_notMem_sections (by simp [sections])]

/-! ## The whole report -/

theorem violationLines_of_sections {violations others : List Depth.Violation}
    (same : violationSections violations = violationSections others) :
    violations.map violationLine = others.map violationLine := by
  -- Without its title and the line under it, the section is the lines, and no section is no lines.
  have said (violations : List Depth.Violation) :
      (violationSections violations).flatMap (·.drop 2) = violations.map violationLine := by
    unfold violationSections
    split
    case isTrue none => simp [List.isEmpty_iff.mp none]
    case isFalse => simp [headed]
  rw [← said, ← said, same]

/-- Two reports agree in what their texts tell besides the counts. -/
structure SameAnalysis (report other : Report) : Prop where
  records : report.records = other.records
  timeline : report.timeline = other.timeline
  afterStop : report.afterStop = other.afterStop
  idleActors : report.idleActors = other.idleActors
  notices : report.violations.map Depth.Violation.notice = other.violations.map Depth.Violation.notice

theorem sameAnalysis_of_lines {report other : Report} (same : report.lines = other.lines) :
    SameAnalysis report other := by
  have parts : report.sections = other.sections := by
    rw [← splitOn_lines, ← splitOn_lines, same]
  simp only [sections, headed, List.cons.injEq, true_and] at parts
  obtain ⟨head, _, depths, findings⟩ := parts
  obtain ⟨records, start, finish, stop, idle, after⟩ := totals_of_headLines head
  have timeline : report.timeline = other.timeline := by
    rw [Timeline.mk.injEq]
    exact ⟨stop, start, finish, tracks_of_trackLines depths⟩
  have violations := violationLines_of_sections (List.append_inj_left' findings rfl)
  exact ⟨records, timeline, after, idle, violationLines_eq_iff.mp violations⟩

/-- The text holds the counts besides, and nothing else. -/
theorem text_of_sameAnalysis {report other : Report} (same : SameAnalysis report other)
    (counts : report.counts = other.counts) : report.text = other.text := by
  have head : report.headLines = other.headLines := by
    rw [headLines, headLines, same.records, same.timeline, same.idleActors, same.afterStop]
  have findings : violationSections report.violations = violationSections other.violations := by
    rw [violationSections, violationSections, ← List.isEmpty_map (f := violationLine),
      violationLines_eq_iff.mpr same.notices, List.isEmpty_map]
  rw [text, text, lines_eq_intercalate, lines_eq_intercalate, sections, sections, head, counts,
    same.timeline, findings]

variable {trace trace' : Trace} {selection selection' : Selection} {report report' : Report}

/-- No line of a report is broken if no name of a kind in its trace is. -/
theorem unbroken_lines (named : ∀ event ∈ trace.events, '\n' ∉ event.kind.name.toList)
    (ok : ofTrace trace selection = .ok report) : ∀ line ∈ report.lines, Within (· != '\n') line := by
  have wide (c : Char) (visible : isVisible c = true) : (c != '\n') = true := by
    rw [bne_iff_ne]
    rintro rfl
    cases visible
  rw [within_lines_iff wide]
  obtain ⟨stop, _, rfl⟩ := of_ofTrace_eq_ok ok
  intro kind counted c member
  obtain ⟨event, listed, rfl⟩ := EventCounts.mem_kinds_ofEvents.mp counted
  rw [bne_iff_ne]
  rintro rfl
  exact named event listed member

/-- Reports with the same text say the same of all but the counts, as long as no name of a kind in the
traces holds a line feed. -/
theorem text_determines (named : ∀ event ∈ trace.events, '\n' ∉ event.kind.name.toList)
    (named' : ∀ event ∈ trace'.events, '\n' ∉ event.kind.name.toList)
    (ok : ofTrace trace selection = .ok report) (ok' : ofTrace trace' selection' = .ok report')
    (same : report.text = report'.text) : SameAnalysis report report' :=
  sameAnalysis_of_lines (lines_of_text (unbroken_lines named ok) (unbroken_lines named' ok') same)

/-- A trace in which an actor has one enqueue and two dequeues, and another restarts. -/
def overdrawingTrace : Trace :=
  ⟨[⟨1, some 0, none, "main", .enqueue⟩, ⟨3, some 1, none, "main", .restart⟩,
    ⟨3, some 1, none, "main", .enqueue⟩, ⟨5, some 0, none, "main", .dequeue⟩,
    ⟨5, some 0, none, "main", .dequeue⟩, ⟨7, none, none, "main", .other "1 - 2"⟩,
    ⟨9, none, none, "main", .stopSystem⟩], by decide⟩

/-- The same with the one enqueue a millisecond later. -/
def hesitatingTrace : Trace :=
  ⟨[⟨2, some 0, none, "main", .enqueue⟩, ⟨3, some 1, none, "main", .restart⟩,
    ⟨3, some 1, none, "main", .enqueue⟩, ⟨5, some 0, none, "main", .dequeue⟩,
    ⟨5, some 0, none, "main", .dequeue⟩, ⟨7, none, none, "main", .other "1 - 2"⟩,
    ⟨9, none, none, "main", .stopSystem⟩], by decide⟩

/-- The two differ in a row before a violation, which the text does not tell. -/
theorem text_overdrawingTrace :
    (made overdrawingTrace .all 9).text = (made hesitatingTrace .all 9).text := by
  have counts : EventCounts.ofEvents overdrawingTrace.events = .ofEvents hesitatingTrace.events :=
    EventCounts.ofEvents_congr fun _ => rfl
  exact text_of_sameAnalysis ⟨rfl, by decide +kernel, rfl, rfl, by decide +kernel⟩ counts

theorem text_determines_overdrafts :
    ∃ report other, ofTrace overdrawingTrace .all = .ok report ∧
      ofTrace hesitatingTrace .all = .ok other ∧ report.text = other.text ∧
      report.violations ≠ other.violations ∧ SameAnalysis report other := by
  have ok : ofTrace overdrawingTrace .all = .ok (made overdrawingTrace .all 9) := ofTrace_eq_ok rfl
  have ok' : ofTrace hesitatingTrace .all = .ok (made hesitatingTrace .all 9) := ofTrace_eq_ok rfl
  exact ⟨_, _, ok, ok', text_overdrawingTrace, by decide +kernel,
    text_determines (by decide) (by decide) ok ok' text_overdrawingTrace⟩

end Report

end QueueDepth
