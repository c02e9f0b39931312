import Mathlib.Algebra.BigOperators.Ring.List
import Mathlib.Algebra.Ring.Nat
import QueueDepth.Proofs.Arrangement
import QueueDepth.Proofs.Ascending
import QueueDepth.Timeline

/-!
# The table of points

`Timeline.points` spreads every row over three points and sorts those of all tracks together. Where
the keys of the tracks are distinct and the rows of each track ascend strictly, no two points are equal
in order, so the table ascends strictly and the sort has only one way to go. The points of one key then
stand in the order of its rows.

* `Timeline.pairwise_lt_points`: the table ascends strictly.
* `Timeline.filter_points`: the points of a key are those of its track.
* `Depth.Row.regroup_points`: and they make up its rows again.
-/

namespace QueueDepth

namespace Point

instance : Std.TransCmp order :=
  inferInstanceAs (Std.TransCmp
    (compareLex (compareOn timestamp) (compareLex (compareOn key) (compareOn measure))))

variable {a b : Point}

theorem order_eq_then :
    a.order b = (compare a.timestamp b.timestamp).then
      ((compare a.key b.key).then (compare a.measure b.measure)) :=
  rfl

theorem order_lt_of_timestamp (earlier : a.timestamp < b.timestamp) : a.order b = .lt := by
  rw [order_eq_then, Nat.compare_eq_lt.mpr earlier]
  rfl

theorem eq_of_order_eq (same : a.order b = .eq) :
    a.timestamp = b.timestamp ∧ a.key = b.key ∧ a.measure = b.measure := by
  rw [order_eq_then, Ordering.then_eq_eq, Ordering.then_eq_eq] at same
  obtain ⟨timestamp, key, measure⟩ := same
  exact ⟨Std.LawfulEqOrd.eq_of_compare timestamp, Std.LawfulEqOrd.eq_of_compare key,
    Std.LawfulEqOrd.eq_of_compare measure⟩

/-- A point stands earlier, or at the same timestamp under an earlier key, or under the same key with
an earlier measure: the depth, then the enqueues, then the dequeues. -/
def Precedes (a b : Point) : Prop :=
  a.timestamp < b.timestamp ∨ a.timestamp = b.timestamp ∧
    (compare a.key b.key = .lt ∨ a.key = b.key ∧ a.measure.rank < b.measure.rank)

theorem precedes_iff_order_lt : a.Precedes b ↔ a.order b = .lt := by
  have measure : compare a.measure b.measure = .lt ↔ a.measure.rank < b.measure.rank :=
    Nat.compare_eq_lt
  rw [Precedes, order_eq_then, Ordering.then_eq_lt, Ordering.then_eq_lt, Nat.compare_eq_lt,
    Std.LawfulEqOrd.compare_eq_iff_eq, Std.LawfulEqOrd.compare_eq_iff_eq, measure]

theorem ne_of_precedes (before : a.Precedes b) :
    (a.timestamp, a.key, a.measure) ≠ (b.timestamp, b.key, b.measure) := by
  intro same
  obtain ⟨timestamp, rest⟩ := Prod.mk.inj same
  obtain ⟨key, measure⟩ := Prod.mk.inj rest
  rcases before with earlier | ⟨_, first | ⟨_, lower⟩⟩
  · exact absurd timestamp earlier.ne
  · rw [key, Std.ReflOrd.compare_self] at first
    cases first
  · rw [measure] at lower
    exact absurd lower (Nat.lt_irrefl _)

end Point

namespace Depth.Row

variable {key : Key} {row : Row}

theorem of_mem_points {point : Point} (member : point ∈ row.points key) :
    point.timestamp = row.timestamp ∧ point.key = key := by
  simp only [points, List.mem_cons, List.not_mem_nil, or_false] at member
  rcases member with rfl | rfl | rfl <;> exact ⟨rfl, rfl⟩

/-- The three points of a row differ in their measures, and these are in order. -/
theorem pairwise_points : (row.points key).Pairwise fun a b => a.order b = .lt := by
  have measured {first second : Measure} (value other : Nat)
      (before : compare first second = .lt) :
      Point.order ⟨row.timestamp, key, first, value⟩ ⟨row.timestamp, key, second, other⟩ = .lt := by
    rw [Point.order_eq_then, Std.ReflOrd.compare_self, Std.ReflOrd.compare_self, before]
    rfl
  rw [points, List.pairwise_cons, List.pairwise_cons]
  refine ⟨?_, ?_, List.pairwise_singleton _ _⟩
  · intro point member
    rcases List.mem_cons.mp member with rfl | member
    · exact measured _ _ rfl
    · rw [List.mem_singleton.mp member]
      exact measured _ _ rfl
  · intro point member
    rw [List.mem_singleton.mp member]
    exact measured _ _ rfl

/-- The rows that points make up, three points to a row: the depth, the enqueues and the dequeues of
one timestamp, in this order. -/
def regroup : List Point → Option (List Row)
  | [] => some []
  | ⟨timestamp, _, .depth, depth⟩ :: ⟨came, _, .enqueued, enqueued⟩ ::
      ⟨went, _, .dequeued, dequeued⟩ :: rest =>
    if came = timestamp ∧ went = timestamp then
      (regroup rest).map (⟨timestamp, enqueued, dequeued, depth⟩ :: ·)
    else
      none
  | _ => none

theorem regroup_points (rows : List Row) : regroup (rows.flatMap (points key)) = some rows := by
  induction rows with
  | nil => rfl
  | cons row rest ih =>
    rw [List.flatMap_cons, points, List.cons_append, List.cons_append, List.cons_append,
      List.nil_append, regroup, if_pos ⟨rfl, rfl⟩, ih]
    rfl

end Depth.Row

namespace Track

variable {track : Track}

theorem key_of_mem_points {point : Point} (member : point ∈ track.points) :
    point.key = track.key := by
  obtain ⟨row, _, inside⟩ := List.mem_flatMap.mp member
  exact (Depth.Row.of_mem_points inside).2

theorem length_points : track.points.length = 3 * track.rows.length := by
  rw [points, List.length_flatMap]
  have three : track.rows.map (fun row => (row.points track.key).length) =
      track.rows.map fun _ => 3 := rfl
  rw [three, List.map_const', List.sum_replicate_nat, Nat.mul_comm]

/-- Rows that ascend strictly have points that do. -/
theorem pairwise_lt_points
    (ascends : track.rows.Pairwise fun a b => a.timestamp < b.timestamp) :
    track.points.Pairwise fun a b => a.order b = .lt := by
  refine List.pairwise_flatMap.mpr ⟨fun row _ => Depth.Row.pairwise_points, ?_⟩
  apply ascends.imp
  intro row later earlier a first b second
  apply Point.order_lt_of_timestamp
  rw [(Depth.Row.of_mem_points first).1, (Depth.Row.of_mem_points second).1]
  exact earlier

end Track

namespace Timeline

variable {timeline : Timeline}

theorem perm_points : timeline.points.Perm (timeline.tracks.flatMap Track.points) :=
  List.mergeSort_perm _ _

/-- Sorting loses and adds no point. -/
theorem length_points :
    timeline.points.length = 3 * (timeline.tracks.map fun track => track.rows.length).sum := by
  rw [perm_points.length_eq, List.length_flatMap, ← List.sum_map_mul_left]
  simp only [Track.length_points]

theorem exists_track_of_mem_points {point : Point} (member : point ∈ timeline.points) :
    ∃ track ∈ timeline.tracks, track.key = point.key := by
  obtain ⟨track, listed, inside⟩ := List.mem_flatMap.mp (perm_points.mem_iff.mp member)
  exact ⟨track, listed, (Track.key_of_mem_points inside).symm⟩

section Distinct

variable (distinct : (timeline.tracks.map Track.key).Nodup)

include distinct

/-- Among the points of all tracks, those of a key are the points of its track. -/
theorem filter_flatMap_points {track : Track} (listed : track ∈ timeline.tracks) :
    (timeline.tracks.flatMap Track.points).filter (fun point => point.key = track.key) =
      track.points := by
  exact filter_flatMap_part (fun _ _ => Track.key_of_mem_points) distinct listed

variable (ascends : ∀ track ∈ timeline.tracks,
  track.rows.Pairwise fun a b => a.timestamp < b.timestamp)

include ascends

/-- Points of different tracks differ in their keys, those of one track are in strict order. -/
theorem pairwise_ne_flatMap_points :
    (timeline.tracks.flatMap Track.points).Pairwise fun a b => a.order b ≠ .eq := by
  refine List.pairwise_flatMap.mpr ⟨?_, ?_⟩
  · intro track listed
    apply (Track.pairwise_lt_points (ascends track listed)).imp
    intro a b before same
    rw [before] at same
    cases same
  · apply (List.pairwise_map.mp distinct).imp
    intro track other differ a first b second same
    apply differ
    rw [← Track.key_of_mem_points first, ← Track.key_of_mem_points second]
    exact (Point.eq_of_order_eq same).2.1

theorem pairwise_lt_points : timeline.points.Pairwise fun a b => a.order b = .lt := by
  have apart : timeline.points.Pairwise fun a b => a.order b ≠ .eq :=
    perm_points.symm.pairwise (pairwise_ne_flatMap_points distinct ascends)
      fun differ same => differ (Std.OrientedCmp.eq_symm same)
  have sorted := pairwise_mergeSort_isLE Point.order (timeline.tracks.flatMap Track.points)
  apply (sorted.and apart).imp
  rintro a b ⟨notAfter, differ⟩
  rcases Ordering.isLE_iff_eq_lt_or_eq_eq.mp notAfter with before | same
  · exact before
  · exact absurd same differ

/-- In the sorted table the points of a key stand as they do on its track: both are in strict order,
and they are the same points. -/
theorem filter_points {track : Track} (listed : track ∈ timeline.tracks) :
    timeline.points.filter (fun point => point.key = track.key) = track.points := by
  have perm : (timeline.points.filter fun point => point.key = track.key).Perm track.points := by
    rw [← filter_flatMap_points distinct listed]
    exact perm_points.filter _
  refine perm.eq_of_pairwise ?_ ((pairwise_lt_points distinct ascends).filter _)
    (Track.pairwise_lt_points (ascends track listed))
  intro a b _ _ before after
  exact absurd after (Std.OrientedCmp.not_lt_of_lt before)

/-- The points of a key make up the rows of its track. -/
theorem regroup_filter_points {track : Track} (listed : track ∈ timeline.tracks) :
    Depth.Row.regroup (timeline.points.filter fun point => point.key = track.key) =
      some track.rows := by
  rw [filter_points distinct ascends listed, Track.points, Depth.Row.regroup_points]

end Distinct

end Timeline

end QueueDepth
