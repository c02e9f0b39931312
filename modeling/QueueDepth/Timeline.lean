import QueueDepth.Depth

/-!
# Timelines

A timeline puts depth series on one time axis. Series are not merged: each keeps its own rows and
restarts. They share the instant at which the system stopped and the extent from the earliest to the
latest instant at which anything happens.

* `Track.depthAt`: the depth a series holds at any instant.
* `Timeline.ofTracks`: the timeline of series in any order.
* `Timeline.points`, `Timeline.markers`: the timeline as a flat table and as a list of annotations.
-/

namespace QueueDepth

/-- A restart of an actor. -/
structure Restart where
  timestamp : Nat
  /-- The incarnation it restarted into, if recorded. -/
  generation : Option Nat
  deriving DecidableEq

/-- The restart that an event reports. -/
def Restart.ofEvent (event : Event) : Restart :=
  ⟨event.timestamp, event.generation⟩

/-- A depth series with the restarts of its actor. -/
structure Track where
  series : Depth.Series
  restarts : List Restart
  deriving DecidableEq

/-! ## Looking up a depth -/

/-- The first index from `low` to `high` that is not accepted, where the accepted indices come
first; found by halving. -/
def firstRejected (accepts : Nat → Bool) (low high : Nat) : Nat :=
  if low < high then
    let middle := (low + high) / 2
    if accepts middle then firstRejected accepts (middle + 1) high
    else firstRejected accepts low middle
  else
    low
termination_by high - low

namespace Track

/-- The key of a track. -/
def key (track : Track) : Key :=
  track.series.key

/-- The rows of a track. -/
def rows (track : Track) : List Depth.Row :=
  track.series.rows

/-- The depth a track holds at an instant: that of the last row at or before it, and zero before the
first row. -/
def depthAt (track : Track) (instant : Nat) : Nat :=
  let rows := track.rows.toArray
  let reached (index : Nat) : Bool := rows[index]?.any (·.timestamp ≤ instant)
  match firstRejected reached 0 rows.size with
  | 0 => 0
  | index + 1 => (rows[index]?.map Depth.Row.depth).getD 0

/-- The instants at which something happens on a track. -/
def instants (track : Track) : List Nat :=
  track.rows.map Depth.Row.timestamp ++ track.restarts.map Restart.timestamp

end Track

/-! ## The stop of the system -/

/-- Why a trace has no single stop. -/
inductive StopFault where
  | missing
  | ambiguous (timestamps : List Nat)
  deriving DecidableEq

/-- The message that reports a missing or repeated stop. -/
def StopFault.message : StopFault → String
  | missing => "trace has no StopSystem event"
  | ambiguous timestamps =>
    "trace has " ++ timestamps.length.repr ++ " StopSystem events, expected exactly one"

/-- The only one of the stops. -/
def onlyStop : List Nat → Except StopFault Nat
  | [] => .error .missing
  | [stop] => .ok stop
  | stops => .error (.ambiguous stops)

/-! ## Timelines -/

/-- Tracks on one time axis. -/
structure Timeline where
  /-- When the system stopped. -/
  stop : Nat
  /-- The earliest instant at which something happens. -/
  start : Nat
  /-- The latest instant at which something happens. -/
  finish : Nat
  /-- Actors ascending, then the pool. -/
  tracks : List Track
  deriving DecidableEq

namespace Timeline

/-- The timeline of tracks in any order, given the stops of the trace. -/
def ofTracks (tracks : List Track) (stops : List Nat) : Except StopFault Timeline := do
  let stop ← onlyStop stops
  let tracks := tracks.mergeSort fun a b => (compare a.key b.key).isLE
  let instants := tracks.flatMap Track.instants
  return { stop, start := instants.foldl min stop, finish := instants.foldl max stop, tracks }

/-- The first track of a key. -/
def track? (timeline : Timeline) (key : Key) : Option Track :=
  timeline.tracks.find? (·.key = key)

end Timeline

/-! ## Points -/

/-- Which value of a row a point carries. -/
inductive Measure where
  | depth
  | enqueued
  | dequeued
  deriving DecidableEq

namespace Measure

/-- The name of a measure. -/
def name : Measure → String
  | depth => "depth"
  | enqueued => "enqueued"
  | dequeued => "dequeued"

/-- The order of the measures of one row. -/
def rank : Measure → Nat
  | depth => 0
  | enqueued => 1
  | dequeued => 2

instance : Ord Measure :=
  ⟨compareOn rank⟩

instance : Std.TransOrd Measure :=
  inferInstanceAs (Std.TransCmp (compareOn rank))

instance : Std.LawfulEqOrd Measure where
  eq_of_compare {a b} h := by
    have hrank : a.rank = b.rank := Std.LawfulEqOrd.eq_of_compare (α := Nat) h
    cases a <;> cases b <;> simp_all [rank]

end Measure

/-- One value of one track at one timestamp. -/
structure Point where
  timestamp : Nat
  key : Key
  measure : Measure
  value : Nat
  deriving DecidableEq

/-- Points are ordered by timestamp, then by key, then by measure; values do not count. -/
def Point.order : Point → Point → Ordering :=
  compareLex (compareOn Point.timestamp) (compareLex (compareOn Point.key) (compareOn Point.measure))

/-- The points of one row. -/
def Depth.Row.points (key : Key) (row : Depth.Row) : List Point :=
  [⟨row.timestamp, key, .depth, row.depth⟩, ⟨row.timestamp, key, .enqueued, row.enqueued⟩,
    ⟨row.timestamp, key, .dequeued, row.dequeued⟩]

/-- The points of a track. -/
def Track.points (track : Track) : List Point :=
  track.rows.flatMap (Depth.Row.points track.key)

/-- All values of a timeline as a flat table in order. -/
def Timeline.points (timeline : Timeline) : List Point :=
  (timeline.tracks.flatMap Track.points).mergeSort fun a b => (a.order b).isLE

/-! ## Markers -/

/-- An annotation of the time axis. -/
inductive Marker where
  | restart (timestamp actor : Nat) (generation : Option Nat)
  | stop (timestamp : Nat)
  deriving DecidableEq

/-- When a marker stands. -/
def Marker.timestamp : Marker → Nat
  | restart timestamp _ _ => timestamp
  | stop timestamp => timestamp

/-- The restarts of a track as markers; only actors restart. -/
def Track.markers (track : Track) : List Marker :=
  match track.key with
  | .actor id => track.restarts.map fun restart => .restart restart.timestamp id restart.generation
  | _ => []

/-- The markers of a timeline by timestamp. A restart in the millisecond of the stop comes before
it. -/
def Timeline.markers (timeline : Timeline) : List Marker :=
  (timeline.tracks.flatMap Track.markers ++ [Marker.stop timeline.stop]).mergeSort fun a b =>
    a.timestamp ≤ b.timestamp

end QueueDepth
