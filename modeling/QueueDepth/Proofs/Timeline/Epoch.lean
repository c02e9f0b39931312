import Mathlib.Data.List.Basic
import QueueDepth.Proofs.Depth.Epoch
import QueueDepth.Proofs.Timeline.Points

/-!
# Timelines under another epoch

With an offset on all timestamps a timeline keeps its tracks in their order, and its stop and its extent
take the offset on. The points and the markers are sorted by timestamp first, so they, too, stay in their
order.

* `Timeline.ofTracks_shift`: the timeline of shifted tracks.
* `Timeline.points_shift`, `Timeline.markers_shift`: its points and markers.
-/

namespace QueueDepth

/-! ## Offsets -/

/-- A restart with an offset added to its timestamp. -/
def Restart.shift (offset : Nat) (restart : Restart) : Restart :=
  { restart with timestamp := restart.timestamp + offset }

/-- A track with an offset added to all timestamps. -/
def Track.shift (offset : Nat) (track : Track) : Track where
  series := track.series.shift offset
  restarts := track.restarts.map (Restart.shift offset)

/-- A missing stop stays missing, and several are all shifted. -/
def StopFault.shift (offset : Nat) : StopFault → StopFault
  | missing => missing
  | ambiguous timestamps => ambiguous (timestamps.map (· + offset))

/-- A timeline with an offset added to all timestamps. -/
def Timeline.shift (offset : Nat) (timeline : Timeline) : Timeline where
  stop := timeline.stop + offset
  start := timeline.start + offset
  finish := timeline.finish + offset
  tracks := timeline.tracks.map (Track.shift offset)

/-- A point with an offset added to its timestamp. -/
def Point.shift (offset : Nat) (point : Point) : Point :=
  { point with timestamp := point.timestamp + offset }

/-- A marker with an offset added to its timestamp. -/
def Marker.shift (offset : Nat) : Marker → Marker
  | restart timestamp actor generation => restart (timestamp + offset) actor generation
  | stop timestamp => stop (timestamp + offset)

variable (offset : Nat)

/-! ## Tracks on one axis -/

theorem onlyStop_shift (stops : List Nat) :
    onlyStop (stops.map (· + offset)) =
      ((onlyStop stops).map (· + offset)).mapError (StopFault.shift offset) := by
  rcases stops with _ | ⟨stop, _ | ⟨other, rest⟩⟩
  · rfl
  · rfl
  · rfl

theorem Track.instants_shift (track : Track) :
    (track.shift offset).instants = track.instants.map (· + offset) := by
  simp only [instants, rows, shift, Depth.Series.shift, List.map_append, List.map_map]
  rfl

theorem flatMap_instants_shift (tracks : List Track) :
    (tracks.map (Track.shift offset)).flatMap Track.instants =
      (tracks.flatMap Track.instants).map (· + offset) := by
  rw [List.flatMap_map, List.map_flatMap]
  exact List.flatMap_congr fun track _ => track.instants_shift offset

theorem foldl_min_shift (stop : Nat) (instants : List Nat) :
    (instants.map (· + offset)).foldl min (stop + offset) = instants.foldl min stop + offset := by
  rw [List.foldl_map]
  exact List.foldl_hom (· + offset) fun least instant => Nat.add_min_add_right least instant offset

theorem foldl_max_shift (stop : Nat) (instants : List Nat) :
    (instants.map (· + offset)).foldl max (stop + offset) = instants.foldl max stop + offset := by
  rw [List.foldl_map]
  exact List.foldl_hom (· + offset) fun most instant => Nat.add_max_add_right most instant offset

namespace Timeline

/-- Keys bear no timestamps, so the tracks are put in the same order. -/
theorem mergeSort_tracks_shift (tracks : List Track) :
    (tracks.map (Track.shift offset)).mergeSort (fun a b => (compare a.key b.key).isLE) =
      (tracks.mergeSort fun a b => (compare a.key b.key).isLE).map (Track.shift offset) := by
  symm
  apply List.map_mergeSort
  intro a _ b _
  rfl

theorem ofTracks_shift (tracks : List Track) (stops : List Nat) :
    ofTracks (tracks.map (Track.shift offset)) (stops.map (· + offset)) =
      ((ofTracks tracks stops).map (shift offset)).mapError (StopFault.shift offset) := by
  unfold ofTracks
  rw [onlyStop_shift, mergeSort_tracks_shift]
  cases onlyStop stops with
  | error fault => rfl
  | ok stop =>
    simp only [Except.map, Except.mapError, bind, Except.bind, pure, Except.pure,
      flatMap_instants_shift, foldl_min_shift, foldl_max_shift]
    rfl

end Timeline

/-! ## Points and markers -/

theorem compare_shift (a b : Nat) : compare (a + offset) (b + offset) = compare a b := by
  simp only [Nat.compare_eq_ite_lt, Nat.add_lt_add_iff_right]

theorem Point.order_shift (a b : Point) : (a.shift offset).order (b.shift offset) = a.order b := by
  rw [order_eq_then, order_eq_then]
  exact congrArg (Ordering.then · _) (compare_shift offset a.timestamp b.timestamp)

theorem Track.points_shift (track : Track) :
    (track.shift offset).points = track.points.map (Point.shift offset) := by
  simp only [points, rows, shift, Depth.Series.shift, List.flatMap_map, List.map_flatMap]
  rfl

theorem Marker.timestamp_shift (marker : Marker) :
    (marker.shift offset).timestamp = marker.timestamp + offset := by
  cases marker <;> rfl

theorem Track.markers_shift (track : Track) :
    (track.shift offset).markers = track.markers.map (Marker.shift offset) := by
  have owner : (track.shift offset).key = track.key := rfl
  rw [markers, markers, owner]
  cases track.key with
  | actor id =>
    simp only [shift, List.map_map]
    rfl
  | pool => rfl
  | system => rfl

namespace Timeline

theorem points_shift (timeline : Timeline) :
    (timeline.shift offset).points = timeline.points.map (Point.shift offset) := by
  have listed : (timeline.tracks.map (Track.shift offset)).flatMap Track.points =
      (timeline.tracks.flatMap Track.points).map (Point.shift offset) := by
    rw [List.flatMap_map, List.map_flatMap]
    exact List.flatMap_congr fun track _ => track.points_shift offset
  rw [points, shift, listed, points, List.map_mergeSort]
  intro a _ b _
  rw [Point.order_shift]

/-- The sort of the markers is stable, and asks for timestamps alone. -/
theorem markers_shift (timeline : Timeline) :
    (timeline.shift offset).markers = timeline.markers.map (Marker.shift offset) := by
  have listed : (timeline.tracks.map (Track.shift offset)).flatMap Track.markers ++
        [Marker.stop (timeline.stop + offset)] =
      (timeline.tracks.flatMap Track.markers ++ [Marker.stop timeline.stop]).map
        (Marker.shift offset) := by
    rw [List.map_append, List.flatMap_map, List.map_flatMap]
    exact congrArg (· ++ _) (List.flatMap_congr fun track _ => track.markers_shift offset)
  rw [markers, shift, listed, markers, List.map_mergeSort]
  intro a _ b _
  rw [Marker.timestamp_shift, Marker.timestamp_shift]
  exact decide_eq_decide.mpr Nat.add_le_add_iff_right.symm

end Timeline

end QueueDepth
