import QueueDepth.Json
import QueueDepth.Report

/-!
# Reports as JSON

A report for other programs: all that it holds, and its timeline once more as a flat table of points
and a list of markers.
-/

namespace QueueDepth

open Json

/-- A row of a depth series. -/
def Depth.Row.json (row : Depth.Row) : Json :=
  object [("timestamp", nat row.timestamp), ("enqueued", nat row.enqueued),
    ("dequeued", nat row.dequeued), ("depth", nat row.depth)]

/-- A restart of an actor. -/
def Restart.json (restart : Restart) : Json :=
  object [("timestamp", nat restart.timestamp), ("gen_id", nat? restart.generation)]

/-- A depth series with its restarts. -/
def Track.json (track : Track) : Json :=
  object [("key", text track.key.label), ("rows", list (track.rows.map Depth.Row.json)),
    ("restarts", list (track.restarts.map Restart.json))]

/-- A timeline. -/
def Timeline.json (timeline : Timeline) : Json :=
  object [("stop", nat timeline.stop), ("start", nat timeline.start),
    ("end", nat timeline.finish), ("series", list (timeline.tracks.map Track.json))]

/-- A violation with the rows before it. -/
def Depth.Violation.json (violation : Depth.Violation) : Json :=
  object [("key", text violation.key.label), ("timestamp", nat violation.timestamp),
    ("depth", number violation.depth), ("rows", list (violation.rows.map Depth.Row.json))]

/-- The counts, cell by cell. -/
def EventCounts.json (counts : EventCounts) : Json :=
  list (counts.entries.map fun (cell, count) =>
    object [("key", text cell.key.label), ("event_type", text cell.kind.name),
      ("count", nat count)])

/-- A point of the flat table. -/
def Point.json (point : Point) : Json :=
  object [("timestamp", nat point.timestamp), ("key", text point.key.label),
    ("measure", text point.measure.name), ("value", nat point.value)]

/-- A marker. -/
def Marker.json : Marker → Json
  | restart timestamp actor generation =>
    object [("kind", text "restart"), ("timestamp", nat timestamp), ("actor", nat actor),
      ("gen_id", nat? generation)]
  | stop timestamp => object [("kind", text "stop"), ("timestamp", nat timestamp)]

/-- A report with its points and markers. -/
def Report.json (report : Report) : Json :=
  object [("records", nat report.records), ("timeline", report.timeline.json),
    ("violations", list (report.violations.map Depth.Violation.json)),
    ("after_stop", nat report.afterStop), ("idle_actors", nat report.idleActors),
    ("summary", report.counts.json),
    ("points", list (report.timeline.points.map Point.json)),
    ("markers", list (report.timeline.markers.map Marker.json))]

end QueueDepth
