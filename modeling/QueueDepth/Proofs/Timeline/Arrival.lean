import QueueDepth.Proofs.Event.Order
import QueueDepth.Proofs.Timeline.Points

/-!
# Tracks in any order

The tracks of a timeline are made apart from one another, so they may arrive in any order. The timeline
puts them in key order and leaves those of one key as they came. Where no two tracks have one key there is
only one such list, and the order of arrival leaves no trace.

* `Arranges`: what becomes of the tracks.
* `ofTracks_eq_of_perm`: tracks with distinct keys may arrive in any order.
* `arrangement_of_arrival`: the timeline of tracks with any rows.
-/

namespace QueueDepth

/-- A point is not behind another if it precedes it or shares its place. -/
theorem Point.isLE_order_iff {a b : Point} :
    (a.order b).isLE = true ↔
      a.Precedes b ∨ (a.timestamp, a.key, a.measure) = (b.timestamp, b.key, b.measure) := by
  have level : a.order b = .eq ↔
      (a.timestamp, a.key, a.measure) = (b.timestamp, b.key, b.measure) := by
    rw [order_eq_then, Ordering.then_eq_eq, Ordering.then_eq_eq, Std.LawfulEqOrd.compare_eq_iff_eq,
      Std.LawfulEqOrd.compare_eq_iff_eq, Std.LawfulEqOrd.compare_eq_iff_eq, Prod.mk.injEq,
      Prod.mk.injEq]
  rw [Ordering.isLE_iff_eq_lt_or_eq_eq, ← precedes_iff_order_lt, level]

namespace Timeline

/-- What becomes of the tracks that arrive: none is lost or changed, they stand by key, and those of one key
in the order in which they came. -/
structure Arranges (arrived tracks : List Track) : Prop where
  perm : tracks.Perm arrived
  inOrder : tracks.Pairwise fun a b => a.key.Before b.key ∨ a.key = b.key
  kept (key : Key) : tracks.filter (fun track => track.key = key) =
    arrived.filter fun track => track.key = key

variable {arrived others tracks : List Track}

theorem arranges_mergeSort (arrived : List Track) :
    Arranges arrived (arrived.mergeSort fun a b => (compareOn Track.key a b).isLE) where
  perm := List.mergeSort_perm _ _
  inOrder := by
    apply (pairwise_mergeSort_isLE (compareOn Track.key) arrived).imp
    intro a b notAfter
    rcases Ordering.isLE_iff_eq_lt_or_eq_eq.mp notAfter with before | level
    · exact .inl (Key.compare_eq_lt_iff.mp before)
    · exact .inr (Std.LawfulEqOrd.eq_of_compare level)
  kept key := by
    apply filter_mergeSort (fun _ _ _ => Std.TransCmp.isLE_trans) (isLE_total (compareOn Track.key))
    intro a b first second
    rw [decide_eq_true_eq] at first second
    rw [compareOn, first, second, Std.ReflOrd.compare_self]
    rfl

/-- The first track of a key is the first that arrived. -/
theorem Arranges.find? (arranges : Arranges arrived tracks) (key : Key) :
    tracks.find? (fun track => track.key = key) = arrived.find? fun track => track.key = key := by
  rw [← List.head?_filter, ← List.head?_filter, arranges.kept]

/-- Tracks with distinct keys stand in key order in one way only. -/
theorem mergeSort_eq_of_perm (distinct : (arrived.map Track.key).Nodup)
    (perm : others.Perm arrived) :
    (others.mergeSort fun a b => (compareOn Track.key a b).isLE) =
      arrived.mergeSort fun a b => (compareOn Track.key a b).isLE := by
  have sorted (items : List Track) := pairwise_mergeSort_isLE (compareOn Track.key) items
  have same := ((arranges_mergeSort others).perm.trans perm).trans
    (arranges_mergeSort arrived).perm.symm
  refine same.eq_of_pairwise ?_ (sorted others) (sorted arrived)
  intro a b here there notAfter notBefore
  rw [List.mem_mergeSort] at here there
  have shared : a.key = b.key :=
    Std.LawfulEqOrd.eq_of_compare (Std.OrientedCmp.isLE_antisymm notAfter notBefore)
  exact List.inj_on_of_nodup_map distinct (perm.mem_iff.mp here) there shared

theorem ofTracks_eq_of_perm (distinct : (arrived.map Track.key).Nodup) (perm : others.Perm arrived)
    (stops : List Nat) : ofTracks others stops = ofTracks arrived stops := by
  have sorted : (others.mergeSort fun a b => (compare a.key b.key).isLE) =
      arrived.mergeSort fun a b => (compare a.key b.key).isLE :=
    mergeSort_eq_of_perm distinct perm
  rw [ofTracks, ofTracks, sorted]

theorem pairwise_points (timeline : Timeline) :
    timeline.points.Pairwise fun a b => a.Precedes b ∨
      (a.timestamp, a.key, a.measure) = (b.timestamp, b.key, b.measure) :=
  (pairwise_mergeSort_isLE Point.order _).imp Point.isLE_order_iff.mp

/-- Whatever rows the tracks have, and whether or not their keys are distinct, the timeline holds them as
they are, in key order and those of one key as they came, and finds the first of them. Its table has
the three values of every row, in order. If no two tracks have one key, the same tracks in any other order
have the same timeline. -/
theorem arrangement_of_arrival (arrived : List Track) (stop : Nat) :
    ∃ timeline, ofTracks arrived [stop] = .ok timeline ∧
      Arranges arrived timeline.tracks ∧
      (∀ key, timeline.track? key = arrived.find? fun track => track.key = key) ∧
      (timeline.points.Perm <| arrived.flatMap fun track => track.rows.flatMap fun row =>
        [⟨row.timestamp, track.key, .depth, row.depth⟩,
          ⟨row.timestamp, track.key, .enqueued, row.enqueued⟩,
          ⟨row.timestamp, track.key, .dequeued, row.dequeued⟩]) ∧
      (timeline.points.Pairwise fun a b => a.Precedes b ∨
        (a.timestamp, a.key, a.measure) = (b.timestamp, b.key, b.measure)) ∧
      ((arrived.map Track.key).Nodup → ∀ others : List Track, others.Perm arrived →
        ∃ other, ofTracks others [stop] = .ok other ∧ other = timeline ∧
          other.points = timeline.points ∧ other.markers = timeline.markers) := by
  have arranges := arranges_mergeSort arrived
  refine ⟨_, rfl, arranges, arranges.find?, ?_, pairwise_points _, ?_⟩
  · exact perm_points.trans (arranges.perm.flatMap_right Track.points)
  · intro distinct others perm
    exact ⟨_, ofTracks_eq_of_perm distinct perm [stop], rfl, rfl, rfl⟩

/-- Tracks that arrive against their order, one of them with rows that are out of order themselves. -/
def hastyTracks : List Track :=
  [⟨⟨.pool, [⟨6, 1, 0, 1⟩]⟩, []⟩, ⟨⟨.actor 8, [⟨5, 1, 0, 3⟩, ⟨2, 0, 1, 7⟩]⟩, [⟨3, some 1⟩]⟩,
    ⟨⟨.actor 2, [⟨5, 0, 0, 0⟩]⟩, []⟩]

theorem arrangement_of_hastyTracks :
    (hastyTracks.map Track.key).Nodup ∧ hastyTracks.reverse.Perm hastyTracks ∧
      ∃ timeline, ofTracks hastyTracks [4] = .ok timeline ∧
        ofTracks hastyTracks.reverse [4] = .ok timeline ∧
        timeline.track? (.actor 8) =
          some ⟨⟨.actor 8, [⟨5, 1, 0, 3⟩, ⟨2, 0, 1, 7⟩]⟩, [⟨3, some 1⟩]⟩ ∧
        timeline.points.length = 12 := by
  have distinct : (hastyTracks.map Track.key).Nodup := by decide
  have reversed : hastyTracks.reverse.Perm hastyTracks := List.reverse_perm _
  obtain ⟨timeline, ok, _, found, points, _, same⟩ := arrangement_of_arrival hastyTracks 4
  obtain ⟨_, ok', rfl, _⟩ := same distinct hastyTracks.reverse reversed
  exact ⟨distinct, reversed, _, ok, ok', found (.actor 8), points.length_eq⟩

end Timeline

end QueueDepth
