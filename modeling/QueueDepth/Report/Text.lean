import QueueDepth.Calendar
import QueueDepth.Report
import QueueDepth.Text.Padding

/-!
# Reports as text

A report as lines for reading: a head, the table of counts, the depth series with their restarts, the
violations if there are any, and the markers.
-/

namespace QueueDepth.Report

open Text

/-- The title of a section, underlined, behind an empty line. -/
def titled (title : String) (lines : List String) : List String :=
  ["", title, String.ofList (List.replicate title.length '-')] ++ lines

/-- The rule above and below the title. -/
def rule : String :=
  String.ofList (List.replicate 60 '=')

/-- The title and the figures of the whole trace. -/
def headLines (report : Report) : List String :=
  let timeline := report.timeline
  [rule, "                 MAILBOX DEPTH ANALYSIS", rule,
    "Records: " ++ report.records.repr,
    "Extent:  " ++ timeline.start.repr ++ "ms .. " ++ timeline.finish.repr ++ "ms",
    "Stop:    " ++ timeline.stop.repr ++ "ms (" ++ Calendar.wallClock timeline.stop ++ ")"]
  ++ (if report.idleActors = 0 then []
    else ["Idle:    " ++ report.idleActors.repr ++ " actor ids with no events"])
  ++ (if report.afterStop = 0 then []
    else ["Warning: " ++ report.afterStop.repr ++ " events after stop"])

/-! ## Counts -/

/-- The width of the column of a kind: the bytes of its name, and five at least. -/
def columnWidth (kind : Kind) : Nat :=
  max kind.name.utf8ByteSize 5

/-- One line of the table of counts. -/
def countLine (head : String) (kinds : List Kind) (cell : Kind → String) : String :=
  kinds.foldl (fun line kind => line ++ " " ++ padStart (columnWidth kind) (cell kind))
    (padEnd 10 head)

/-- A count, or a dash for none. -/
def countText (count : Nat) : String :=
  if count = 0 then "-" else count.repr

/-- The table of counts: a column for each kind and a line for each key. -/
def countLines (counts : EventCounts) : List String :=
  let kinds := counts.kinds
  countLine "Key" kinds Kind.name ::
    counts.keys.map fun key =>
      countLine key.label kinds fun kind => countText (counts.count key kind)

/-! ## Depth -/

/-- One line of the table of a depth series. -/
def depthLine (time came went depth : String) : String :=
  "  " ++ padStart 10 time ++ " " ++ padStart 5 came ++ " " ++ padStart 5 went ++ " "
    ++ padStart 6 depth

/-- An incarnation, or a question mark if it is not recorded. -/
def generationText (generation : Option Nat) : String :=
  (generation.map Nat.repr).getD "?"

/-- The headline of a depth series. -/
def peakLine (series : Depth.Series) : String :=
  series.key.label ++
    match series.peak? with
    | some peak =>
      ": peak " ++ peak.depth.repr ++ " at " ++ peak.timestamp.repr ++ "ms, final "
        ++ series.finalDepth.repr
    | none => ": no queue activity"

/-- The rows of a depth series under their header. -/
def rowLines (series : Depth.Series) : List String :=
  if series.isEmpty then []
  else
    depthLine "Time(ms)" "Enq" "Deq" "Depth" ::
      series.rows.map fun row =>
        depthLine row.timestamp.repr row.enqueued.repr row.dequeued.repr row.depth.repr

/-- A restart below its series. -/
def restartLine (restart : Restart) : String :=
  "  restart at " ++ restart.timestamp.repr ++ "ms (gen " ++ generationText restart.generation
    ++ ")"

/-- A track with everything on it. -/
def trackLines (track : Track) : List String :=
  peakLine track.series :: rowLines track.series ++ track.restarts.map restartLine

/-! ## Violations and markers -/

/-- A violation in one line. -/
def violationLine (violation : Depth.Violation) : String :=
  violation.key.label ++ ": depth " ++ violation.depth.repr ++ " at " ++ violation.timestamp.repr
    ++ "ms after " ++ violation.rows.length.repr ++ " good rows"

/-- A marker in one line. -/
def markerLine (marker : Marker) : String :=
  padStart 10 marker.timestamp.repr ++ "ms  " ++
    match marker with
    | .restart _ actor generation =>
      "restart actor " ++ actor.repr ++ " (gen " ++ generationText generation ++ ")"
    | .stop _ => "stop"

/-! ## The whole report -/

/-- The lines of a report. -/
def lines (report : Report) : List String :=
  report.headLines
  ++ titled "EVENT COUNTS" (countLines report.counts)
  ++ titled "QUEUE DEPTH" (report.timeline.tracks.flatMap trackLines)
  ++ (if report.violations.isEmpty then []
    else titled "DEPTH VIOLATIONS" (report.violations.map violationLine))
  ++ titled "MARKERS" (report.timeline.markers.map markerLine)

/-- The text of a report; every line is ended. -/
def text (report : Report) : String :=
  String.join (report.lines.map (· ++ "\n"))

end QueueDepth.Report
