import QueueDepth.Proofs.Arrangement
import QueueDepth.Proofs.Report.Outcomes

/-!
# The markers of a timeline

`Timeline.markers` puts the restarts of the tracks one after the other, the stop behind them, and sorts by
timestamp. No order of the markers of one timestamp is asked for; that they are in order, by actor and
with the stop at the end, comes from the order of the tracks, which the sort keeps.

* `Timeline.perm_markers`: the markers are the restarts of all tracks and the stop.
* `Timeline.pairwise_markers`: they are in order.
* `Timeline.filter_markers`: those of one timestamp stand as they did before.
-/

namespace QueueDepth

namespace Marker

/-- The marker of an event, if that is the restart of an actor. -/
def ofEvent? (event : Event) : Option Marker :=
  if event.kind = .restart then
    event.scope.actor?.map fun id => .restart event.timestamp id event.generation
  else none

/-- The order of markers at one timestamp: restarts by actor, and the stop behind them. -/
def InTurn : Marker → Marker → Prop
  | restart _ actor _, restart _ other _ => actor ≤ other
  | restart _ _ _, stop _ => True
  | stop _, _ => False

/-- A marker stands earlier, or at the same timestamp in turn. -/
def Precedes (a b : Marker) : Prop :=
  a.timestamp < b.timestamp ∨ a.timestamp = b.timestamp ∧ a.InTurn b

/-- Whether a marker is the restart of an actor at an instant. -/
def isRestartOf (actor instant : Nat) : Marker → Bool
  | restart timestamp id _ => id = actor && timestamp = instant
  | stop _ => false

theorem ofEvent?_eq_some {event : Event} {id : Nat} (owned : event.scope = .actor id)
    (restart : event.kind = .restart) :
    ofEvent? event = some (.restart event.timestamp id event.generation) := by
  rw [ofEvent?, if_pos restart, owned]
  rfl

theorem ofEvent?_eq_none {event : Event} (other : event.kind ≠ .restart) : ofEvent? event = none :=
  if_neg other

/-- Among the markers of events, the restarts of an actor at an instant come from the events of that actor
and that instant. -/
theorem filter_filterMap_ofEvent? (actor instant : Nat) (events : List Event) :
    (events.filterMap ofEvent?).filter (isRestartOf actor instant) =
      (events.filter fun event => event.scope = .actor actor ∧ event.timestamp = instant).filterMap
        ofEvent? := by
  rw [List.filter_filterMap, List.filterMap_filter]
  apply List.filterMap_congr
  intro event _
  by_cases restart : event.kind = .restart
  · cases owned : event.scope with
    | actor id => simp [ofEvent?_eq_some owned restart, Option.filter, isRestartOf]
    | pool => simp [ofEvent?, owned, Key.actor?]
    | system => simp [ofEvent?, owned, Key.actor?]
  · simp [ofEvent?_eq_none restart]

end Marker

namespace Track

variable {track : Track} {marker : Marker}

theorem mem_markers_iff :
    marker ∈ track.markers ↔ ∃ id, track.key = .actor id ∧
      ∃ restart ∈ track.restarts, .restart restart.timestamp id restart.generation = marker := by
  rw [markers]
  cases track.key with
  | actor id => simp
  | pool => simp
  | system => simp

/-- The restarts of one actor are in turn, in whatever order they are. -/
theorem pairwise_inTurn_markers : track.markers.Pairwise Marker.InTurn := by
  apply List.pairwise_of_forall_mem_list
  intro a first b second
  obtain ⟨id, owner, _, _, rfl⟩ := mem_markers_iff.mp first
  obtain ⟨other, owner', _, _, rfl⟩ := mem_markers_iff.mp second
  rw [owner] at owner'
  cases owner'
  exact Nat.le_refl id

end Track

namespace Timeline

variable {timeline : Timeline}

theorem perm_markers :
    timeline.markers.Perm (.stop timeline.stop :: timeline.tracks.flatMap Track.markers) :=
  (List.mergeSort_perm _ _).trans (List.perm_append_singleton _ _)

/-- Tracks in key order have markers in turn, and the stop comes behind all of them. -/
theorem pairwise_inTurn (ascends : Ascending (timeline.tracks.map Track.key)) :
    (timeline.tracks.flatMap Track.markers ++ [Marker.stop timeline.stop]).Pairwise
      Marker.InTurn := by
  refine List.pairwise_append.mpr ⟨?_, List.pairwise_singleton _ _, ?_⟩
  · refine List.pairwise_flatMap.mpr ⟨fun track _ => Track.pairwise_inTurn_markers, ?_⟩
    apply (List.pairwise_map.mp ascends).imp
    intro track other before a first b second
    obtain ⟨id, owner, _, _, rfl⟩ := Track.mem_markers_iff.mp first
    obtain ⟨later, owner', _, _, rfl⟩ := Track.mem_markers_iff.mp second
    rw [owner, owner', Key.compare_actor, Nat.compare_eq_lt] at before
    exact before.le
  · intro a member b last
    obtain ⟨track, _, inside⟩ := List.mem_flatMap.mp member
    obtain ⟨id, _, _, _, rfl⟩ := Track.mem_markers_iff.mp inside
    rw [List.mem_singleton.mp last]
    trivial

theorem pairwise_markers (ascends : Ascending (timeline.tracks.map Track.key)) :
    timeline.markers.Pairwise Marker.Precedes :=
  pairwise_mergeSort_by (pairwise_inTurn ascends)

/-- The sort is by timestamp alone and keeps the restarts of an actor at one instant as they were. -/
theorem filter_markers (actor instant : Nat) :
    timeline.markers.filter (Marker.isRestartOf actor instant) =
      (timeline.tracks.flatMap Track.markers).filter (Marker.isRestartOf actor instant) := by
  have narrow (markers : List Marker) : markers.filter (Marker.isRestartOf actor instant) =
      (markers.filter fun marker => marker.timestamp = instant).filter
        (Marker.isRestartOf actor instant) := by
    rw [List.filter_filter]
    apply List.filter_congr
    intro marker _
    cases marker with
    | restart timestamp id generation =>
      by_cases now : timestamp = instant <;> simp [Marker.isRestartOf, Marker.timestamp, now]
    | stop timestamp => rfl
  rw [narrow, markers, filter_mergeSort_by, ← narrow, List.filter_append,
    List.filter_cons_of_neg (by simp [Marker.isRestartOf]), List.filter_nil, List.append_nil]

end Timeline

end QueueDepth
