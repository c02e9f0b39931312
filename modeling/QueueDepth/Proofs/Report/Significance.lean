import QueueDepth.Proofs.EventCounts
import QueueDepth.Proofs.Report.Depths

/-!
# What a report depends on

Of every event a report takes its timestamp, its scope and its kind; of restarts, besides, the
generation and their order in the sorted trace. Two logs that agree on these have the same report, or
the same fault: the order of the log, the threads, the generations of other events and the actors
written on rows of the pool or on stops are of no account.
-/

namespace QueueDepth

/-- What counts of an event. -/
structure Significance where
  timestamp : Nat
  scope : Key
  kind : Kind
  deriving DecidableEq

/-- What counts of an event. -/
def Event.significance (event : Event) : Significance :=
  ⟨event.timestamp, event.scope, event.kind⟩

/-- The restarts of an actor in a trace, in order. -/
def Trace.restartsOf (trace : Trace) (id : Nat) : List Restart :=
  (trace.events.filter fun event => event.scope = .actor id ∧ event.kind = .restart).map .ofEvent

theorem Trace.map_restarts_ofEvents (trace : Trace) (id : Nat) :
    ((Grouping.ofEvents trace.events).restarts id).map .ofEvent = trace.restartsOf id := by
  rw [Grouping.restarts_ofEvents, Trace.restartsOf]

/-- The track of a series has the restarts of its key, if that is an actor. -/
theorem Report.trackOf_eq (trace : Trace) (series : Depth.Series) :
    trackOf (.ofEvents trace.events) series =
      ⟨series, (series.key.actor?.map trace.restartsOf).getD []⟩ := by
  rw [trackOf]
  cases series.key with
  | actor id => exact congrArg (Track.mk series) (trace.map_restarts_ofEvents id)
  | pool => rfl
  | system => rfl

/-- Two lists of events with the same significance, in any order. -/
abbrev SameSignificance (events others : List Event) : Prop :=
  (events.map Event.significance).Perm (others.map Event.significance)

namespace SameSignificance

variable {events others : List Event}

theorem countP_eq (same : SameSignificance events others) (holds : Significance → Bool) :
    events.countP (fun event => holds event.significance) =
      others.countP fun event => holds event.significance := by
  have counts := List.Perm.countP_eq holds same
  rw [List.countP_map, List.countP_map] at counts
  exact counts

theorem exists_iff (same : SameSignificance events others) (holds : Significance → Prop) :
    (∃ event ∈ events, holds event.significance) ↔ ∃ event ∈ others, holds event.significance := by
  have carry {left right : List Event} (perm : SameSignificance left right) :
      (∃ event ∈ left, holds event.significance) → ∃ event ∈ right, holds event.significance := by
    rintro ⟨event, member, held⟩
    obtain ⟨other, inside, eq⟩ :=
      List.mem_map.mp ((List.Perm.mem_iff perm).mp (List.mem_map_of_mem member))
    exact ⟨other, inside, eq ▸ held⟩
  exact ⟨carry same, carry same.symm⟩

theorem length_eq (same : SameSignificance events others) : events.length = others.length := by
  have lengths := List.Perm.length_eq same
  rw [List.length_map, List.length_map] at lengths
  exact lengths

/-- Sorting a log leaves its significance. -/
theorem ofLog (same : SameSignificance events others) :
    SameSignificance (Trace.ofLog events).events (Trace.ofLog others).events :=
  (((Trace.perm_ofLog events).map _).trans same).trans ((Trace.perm_ofLog others).map _).symm

end SameSignificance

namespace Report

variable {trace other : Trace} {selection : Selection} {key : Key}

section Congruence

variable (same : SameSignificance trace.events other.events)

include same

/-- The stops of a trace are in order, so their timestamps make one list only. -/
theorem stopTimes_congr : stopTimes trace = stopTimes other := by
  have perm : (stopTimes trace).Perm (stopTimes other) := by
    rw [List.perm_iff_count]
    intro instant
    have counts := same.countP_eq fun s => s.kind = .stopSystem ∧ s.timestamp = instant
    have count_eq (events : List Event) :
        ((events.filter fun event => event.kind = .stopSystem).map Event.timestamp).count instant =
          events.countP fun event => event.kind = .stopSystem ∧ event.timestamp = instant := by
      rw [List.count, List.countP_map, List.countP_filter]
      apply List.countP_congr
      intro event _
      simp [and_comm]
    rw [stopTimes, stopTimes, count_eq, count_eq]
    exact counts
  exact perm.eq_of_pairwise (fun a b _ _ => Nat.le_antisymm) pairwise_stopTimes pairwise_stopTimes

theorem covers_congr :
    selection.Covers trace.events key ↔ selection.Covers other.events key := by
  cases key with
  | actor id =>
    cases selection with
    | all => exact same.exists_iff fun s => s.scope = .actor id
    | only ids => rfl
  | pool => rfl
  | system => rfl

theorem keys_congr :
    selection.keys (.ofEvents trace.events) = selection.keys (.ofEvents other.events) := by
  apply Selection.ascending_keys.eq_of_mem_iff Selection.ascending_keys
  intro key
  rw [Selection.mem_keys_iff, Selection.mem_keys_iff, covers_congr same]

theorem idle_congr :
    selection.idle (.ofEvents trace.events) = selection.idle (.ofEvents other.events) := by
  have ids : (Grouping.ofEvents trace.events).actorIds = (Grouping.ofEvents other.events).actorIds := by
    apply Grouping.ascending_actorIds.eq_of_mem_iff Grouping.ascending_actorIds
    intro id
    rw [Grouping.mem_actorIds_ofEvents, Grouping.mem_actorIds_ofEvents]
    exact same.exists_iff fun s => s.scope = .actor id
  simp only [Selection.idle, ids]

/-- The queue of a key moves equally often to each side at each instant. -/
theorem movedAt_traffic_congr (side : Side) (instant : Nat) :
    Depth.movedAt key side ((Grouping.ofEvents trace.events).traffic key) instant =
      Depth.movedAt key side ((Grouping.ofEvents other.events).traffic key) instant := by
  rw [Grouping.traffic_ofEvents, Grouping.traffic_ofEvents, Depth.movedAt, Depth.movedAt,
    List.countP_filter, List.countP_filter]
  exact same.countP_eq fun s =>
    ((s.kind.side key = some side : Bool) && s.timestamp == instant) &&
      (s.scope = key ∧ (s.kind.side key).isSome = true : Bool)

theorem outcomeOf_congr : outcomeOf trace key = outcomeOf other key :=
  Depth.outcome_congr (movedAt_traffic_congr same) (inOrder_traffic trace key)
    (inOrder_traffic other key)

theorem counts_congr : EventCounts.ofEvents trace.events = .ofEvents other.events := by
  apply EventCounts.ofEvents_congr
  intro cell
  exact same.countP_eq fun s => (⟨s.scope, s.kind⟩ : Cell) = cell

theorem trackFor_congr (restarts : ∀ id, trace.restartsOf id = other.restartsOf id) :
    trackFor trace = trackFor other := by
  have track_eq : trackOf (.ofEvents trace.events) = trackOf (.ofEvents other.events) := by
    funext series
    rw [trackOf_eq, trackOf_eq, funext restarts]
  funext key
  rw [trackFor, trackFor, outcomeOf_congr same, track_eq]

theorem made_congr (restarts : ∀ id, trace.restartsOf id = other.restartsOf id) (stop : Nat) :
    made trace selection stop = made other selection stop := by
  have violations : violationFor trace = violationFor other := by
    funext key
    rw [violationFor, violationFor, outcomeOf_congr same]
  have later : trace.events.countP (fun event => stop < event.timestamp) =
      other.events.countP fun event => stop < event.timestamp :=
    same.countP_eq fun s => stop < s.timestamp
  rw [made, made, tracks, tracks, keys_congr same, trackFor_congr same restarts, violations, later,
    idle_congr same, counts_congr same, Trace.size, Trace.size, same.length_eq]

end Congruence

/-- Logs whose events agree in timestamp, scope and kind, and whose actors restart alike, have the same
report or the same fault. -/
theorem report_of_significance (log others : List Event) (selection : Selection)
    (same : SameSignificance log others)
    (restarts : ∀ id, (Trace.ofLog log).restartsOf id = (Trace.ofLog others).restartsOf id) :
    ofTrace (.ofLog log) selection = ofTrace (.ofLog others) selection := by
  have made_eq : made (.ofLog log) selection = made (.ofLog others) selection :=
    funext (made_congr same.ofLog restarts)
  rw [ofTrace_eq, ofTrace_eq, stopTimes_congr same.ofLog, made_eq]

/-- A short log with a restart, written by one thread. -/
def plainLog : List Event :=
  [⟨1, some 0, some 4, "a", .enqueue⟩, ⟨1, some 0, some 4, "a", .dequeue⟩,
    ⟨2, some 0, some 5, "a", .restart⟩, ⟨2, none, none, "a", .poolEnqueue⟩,
    ⟨3, none, none, "a", .stopSystem⟩]

/-- The same with other threads and generations, with actors on the rows that need none, and in another
order inside each millisecond. -/
def alteredLog : List Event :=
  [⟨1, some 0, none, "b", .dequeue⟩, ⟨1, some 0, some 7, "c", .enqueue⟩,
    ⟨2, some 8, none, "b", .poolEnqueue⟩, ⟨2, some 0, some 5, "c", .restart⟩,
    ⟨3, some 9, some 1, "b", .stopSystem⟩]

theorem report_of_alteredLog :
    SameSignificance plainLog alteredLog ∧
      (∀ id, (Trace.ofLog plainLog).restartsOf id = (Trace.ofLog alteredLog).restartsOf id) ∧
      ofTrace (.ofLog plainLog) .all = ofTrace (.ofLog alteredLog) .all := by
  have same : SameSignificance plainLog alteredLog := by decide
  have plain : (Trace.ofLog plainLog).events = plainLog := List.mergeSort_of_pairwise (by decide)
  have altered : (Trace.ofLog alteredLog).events = alteredLog :=
    List.mergeSort_of_pairwise (by decide)
  have restarts (id : Nat) :
      (Trace.ofLog plainLog).restartsOf id = (Trace.ofLog alteredLog).restartsOf id := by
    rw [Trace.restartsOf, Trace.restartsOf, plain, altered]
    by_cases zero : 0 = id <;> simp [plainLog, alteredLog, Event.scope, Restart.ofEvent, zero]
  exact ⟨same, restarts, report_of_significance plainLog alteredLog .all same restarts⟩

end Report

end QueueDepth
