import QueueDepth.Proofs.EventCounts
import QueueDepth.Proofs.Terminal.Stripped
import QueueDepth.Proofs.Text.Within
import QueueDepth.Report.Text

/-!
# Characters in the text of a report

All that a report writes by itself is visible: its fixed wording, numbers, labels and times consist of
blanks and of characters of ASCII that are seen. Only the names of kinds come from the trace. So a class of
characters that holds the visible ones holds the lines of a report exactly if it holds these names
(`Report.within_lines_iff`). In particular the text is printable exactly if they are
(`Report.printable_text_iff`).
-/

namespace QueueDepth

open Terminal Text

/-! ## Wording -/

@[simp]
theorem Key.visible_label (key : Key) : Visible key.label := by
  cases key with
  | actor id => simpa [label] using (by decide : Visible "actor ")
  | pool => decide
  | system => decide

@[simp]
theorem Calendar.visible_padded (width value : Nat) : Visible (padded width value) := by
  simp [padded, within_replicate (show isVisible '0' = true from rfl)]

@[simp]
theorem Calendar.visible_wallClock (millis : Nat) : Visible (wallClock millis) := by
  unfold wallClock
  split
  · unfold DateTime.text yearText
    split <;> simp +decide
  · decide

/-! ## Printable texts -/

namespace Terminal

theorem printable_iff_within {text : String} :
    Printable text ↔ Within (fun c => !isStripped c) text := by
  simp [Printable, Kept, Within]

theorem not_isStripped_of_isVisible (c : Char) (visible : isVisible c = true) :
    (!isStripped c) = true := by
  simp only [isVisible, Bool.and_eq_true, decide_eq_true_eq] at visible
  simp only [isStripped, Bool.not_eq_true', Bool.or_eq_false_iff, Bool.and_eq_false_iff,
    decide_eq_false_iff_not]
  omega

theorem printable_of_visible {text : String} (visible : Visible text) : Printable text :=
  printable_iff_within.mpr (visible.mono not_isStripped_of_isVisible)

theorem printable_intRepr (value : Int) : Printable value.repr :=
  printable_of_visible (visible_intRepr value)

end Terminal

theorem Key.printable_label (key : Key) : Printable key.label :=
  printable_of_visible key.visible_label

/-! ## Reports -/

namespace Report

variable {report : Report}

theorem visible_of_mem_headLines : ∀ line ∈ report.headLines, Visible line := by
  simp only [headLines, List.forall_mem_append]
  refine ⟨⟨?_, ?_⟩, ?_⟩
  · simp +decide
  · split <;> simp +decide
  · split <;> simp +decide

theorem visible_countText (count : Nat) : Visible (countText count) := by
  unfold countText
  split
  · decide
  · exact visible_natRepr count

theorem visible_depthLine {time came went depth : String} (htime : Visible time)
    (hcame : Visible came) (hwent : Visible went) (hdepth : Visible depth) :
    Visible (depthLine time came went depth) := by
  simp +decide [depthLine, htime, hcame, hwent, hdepth]

theorem visible_generationText (generation : Option Nat) : Visible (generationText generation) := by
  cases generation with
  | none => decide
  | some id => exact visible_natRepr id

theorem visible_restartLine (restart : Restart) : Visible (restartLine restart) := by
  unfold restartLine
  simp +decide [visible_generationText]

theorem visible_of_mem_trackLines {track : Track} : ∀ line ∈ trackLines track, Visible line := by
  have peak : Visible (peakLine track.series) := by
    unfold peakLine
    split <;> simp +decide
  have rows : ∀ line ∈ rowLines track.series, Visible line := by
    unfold rowLines
    split
    · simp
    · intro line member
      rcases List.mem_cons.mp member with rfl | inside
      · decide
      · obtain ⟨row, _, rfl⟩ := List.mem_map.mp inside
        exact visible_depthLine (visible_natRepr _) (visible_natRepr _) (visible_natRepr _)
          (visible_natRepr _)
  have restarts : ∀ line ∈ track.restarts.map restartLine, Visible line :=
    List.forall_mem_map.mpr fun restart _ => visible_restartLine restart
  intro line member
  rw [trackLines, List.mem_append, List.mem_cons] at member
  rcases member with (rfl | row) | restart
  · exact peak
  · exact rows line row
  · exact restarts line restart

theorem visible_violationLine (violation : Depth.Violation) : Visible (violationLine violation) := by
  simp +decide [violationLine]

theorem visible_markerLine (marker : Marker) : Visible (markerLine marker) := by
  cases marker <;> simp +decide [markerLine, visible_generationText]

/-! ## Names of kinds -/

section Names

variable {allowed : Char → Bool} (wide : ∀ c, isVisible c = true → allowed c = true)

include wide

theorem within_titled_iff {title : String} (plain : Visible title) {lines : List String} :
    (∀ line ∈ titled title lines, Within allowed line) ↔ ∀ line ∈ lines, Within allowed line := by
  have empty : Within allowed "" := by simp [Within]
  simp [titled, empty, plain.mono wide, within_replicate (wide '-' rfl)]

theorem within_countLine_iff {head : String} {kinds : List Kind} {cell : Kind → String} :
    Within allowed (countLine head kinds cell) ↔
      Within allowed head ∧ ∀ kind ∈ kinds, Within allowed (cell kind) := by
  have blank : allowed ' ' = true := wide ' ' rfl
  have gap : Within allowed " " := Within.mono (by decide : Visible " ") wide
  have grown (line : String) :
      Within allowed (kinds.foldl (fun line kind => line ++ " " ++ padStart (columnWidth kind)
        (cell kind)) line) ↔ Within allowed line ∧ ∀ kind ∈ kinds, Within allowed (cell kind) := by
    induction kinds generalizing line with
    | nil => simp
    | cons kind rest ih => simp [ih, gap, within_padStart blank, and_assoc]
  rw [countLine, grown, within_padEnd blank]

/-- The names of the kinds are in the table of counts, and all else in it is numbers and labels. -/
theorem within_countLines_iff {counts : EventCounts} :
    (∀ line ∈ countLines counts, Within allowed line) ↔
      ∀ kind ∈ counts.kinds, Within allowed kind.name := by
  have corner : Within allowed "Key" := Within.mono (by decide : Visible "Key") wide
  have label (key : Key) : Within allowed key.label := key.visible_label.mono wide
  have counted (count : Nat) : Within allowed (countText count) := (visible_countText count).mono wide
  simp [countLines, within_countLine_iff wide, corner, label, counted]

/-- A class of characters that holds the visible ones holds the lines of a report if it holds the names
of the kinds that the report counts. -/
theorem within_lines_iff :
    (∀ line ∈ report.lines, Within allowed line) ↔
      ∀ kind ∈ report.counts.kinds, Within allowed kind.name := by
  have depths : ∀ line ∈ report.timeline.tracks.flatMap trackLines, Within allowed line := by
    intro line member
    obtain ⟨track, _, inside⟩ := List.mem_flatMap.mp member
    exact (visible_of_mem_trackLines line inside).mono wide
  have violations : ∀ line ∈ report.violations.map violationLine, Within allowed line :=
    List.forall_mem_map.mpr fun violation _ => (visible_violationLine violation).mono wide
  have markers : ∀ line ∈ report.timeline.markers.map markerLine, Within allowed line :=
    List.forall_mem_map.mpr fun marker _ => (visible_markerLine marker).mono wide
  rw [← within_countLines_iff wide]
  constructor
  · intro all line member
    have counts : line ∈ titled "EVENT COUNTS" (countLines report.counts) :=
      List.mem_append_right _ member
    exact all line (by simp [lines, counts])
  · intro counts line member
    simp only [lines, List.mem_append] at member
    rcases member with (((head | count) | depth) | violation) | marker
    · exact (visible_of_mem_headLines line head).mono wide
    · exact (within_titled_iff wide (by decide)).mpr counts line count
    · exact (within_titled_iff wide (by decide)).mpr depths line depth
    · split at violation
      · cases violation
      · exact (within_titled_iff wide (by decide)).mpr violations line violation
    · exact (within_titled_iff wide (by decide)).mpr markers line marker

end Names

/-- The text of a report is printable exactly if all names of kinds are that it counts. -/
theorem printable_text_iff :
    Printable report.text ↔ ∀ kind ∈ report.counts.kinds, Printable kind.name := by
  have ended : Within (fun c => !isStripped c) "\n" := by decide
  simp only [printable_iff_within, ← within_lines_iff not_isStripped_of_isVisible, text, within_join,
    List.forall_mem_map, within_append, ended, and_true]

end Report

end QueueDepth
