import QueueDepth.EventCounts
import QueueDepth.Timeline
import QueueDepth.Trace
import QueueDepth.Trace.Grouping

/-!
# Reports

A report holds what can be said of a trace: the timeline of the selected keys whose depth never went
below zero, the violations of the others, and the counts of all events. A trace must stop exactly
once; a violation costs only its own key.

* `Selection`: which actors a report is about. The pool always is.
* `Report.ofTrace`: the report of a trace.
-/

namespace QueueDepth

/-- Which actors a report is about. -/
inductive Selection where
  /-- Every actor up to the highest one in the trace. Those without events have no series and are
  only counted. -/
  | all
  /-- The listed actors, with events or without. -/
  | only (ids : List Nat)
  deriving DecidableEq

namespace Selection

/-- The selected actors that get a series, ascending. -/
def actors (selection : Selection) (grouping : Grouping) : List Nat :=
  match selection with
  | all => grouping.actorIds
  | only ids => ascending ids

/-- How many selected actors have no events and no series: between zero and the highest actor, all
that do not occur. -/
def idle (selection : Selection) (grouping : Grouping) : Nat :=
  match selection with
  | all =>
    match grouping.actorIds.getLast? with
    | some highest => highest - (grouping.actorIds.length - 1)
    | none => 0
  | only _ => 0

/-- The selected keys in key order. -/
def keys (selection : Selection) (grouping : Grouping) : List Key :=
  (selection.actors grouping).map .actor ++ [.pool]

end Selection

/-- What is known about a trace. -/
structure Report where
  /-- How many events the trace holds. -/
  records : Nat
  /-- The selected keys without a violation. -/
  timeline : Timeline
  /-- The violations of the other selected keys, in key order. -/
  violations : List Depth.Violation
  /-- How many events lie after the stop. -/
  afterStop : Nat
  /-- How many selected actors have no events. -/
  idleActors : Nat
  counts : EventCounts

namespace Report

/-- Whether no selected key has a violation. -/
def isClean (report : Report) : Bool :=
  report.violations.isEmpty

/-- The track of a series, with the restarts of its actor. -/
def trackOf (grouping : Grouping) (series : Depth.Series) : Track :=
  match series.key with
  | .actor id => ⟨series, (grouping.restarts id).map .ofEvent⟩
  | _ => ⟨series, []⟩

/-- The outcomes of the selected keys, in key order. -/
def outcomes (grouping : Grouping) (selection : Selection) : List Depth.Outcome :=
  (selection.keys grouping).map fun key => Depth.outcome key (grouping.traffic key)

/-- The series among outcomes. -/
def seriesOf (outcomes : List Depth.Outcome) : List Depth.Series :=
  outcomes.filterMap Except.toOption

/-- The violation of an outcome. -/
def violation? : Depth.Outcome → Option Depth.Violation
  | .ok _ => none
  | .error violation => some violation

/-- The report of a trace on the selected actors and the pool. -/
def ofTrace (trace : Trace) (selection : Selection) : Except StopFault Report := do
  let grouping := Grouping.ofEvents trace.events
  let stops := grouping.stops.map Event.timestamp
  let stop ← onlyStop stops
  let outcomes := outcomes grouping selection
  let timeline ← Timeline.ofTracks ((seriesOf outcomes).map (trackOf grouping)) stops
  return {
    records := trace.size
    timeline
    violations := outcomes.filterMap violation?
    afterStop := trace.events.countP fun event => stop < event.timestamp
    idleActors := selection.idle grouping
    counts := .ofEvents trace.events }

end Report

end QueueDepth
