import Mathlib.Order.Basic
import QueueDepth.Proofs.Timeline.Lookup

/-!
# The extent of a timeline

The start and the end of a timeline are found by folding over the instants of its tracks, from the stop
on. So they are the least and the greatest instant at which something stands on it, and outside of them
no track moves: ahead of the start all depths are zero, and from the end on they are final.

* `Timeline.Marked`: something stands at an instant.
* `Timeline.hull_of_ofTracks`: the extent is the hull of these instants.
* `Timeline.Hull.depthAt_before`, `Timeline.Hull.depthAt_after`: depths outside of the extent.
-/

namespace QueueDepth

/-! ## Least and greatest -/

section Folds

variable (first : Nat) (instants : List Nat)

theorem foldl_min_least :
    instants.foldl min first ∈ first :: instants ∧
      ∀ instant ∈ first :: instants, instants.foldl min first ≤ instant :=
  List.min?_eq_some_iff.mp List.min?_cons'

theorem foldl_max_greatest :
    instants.foldl max first ∈ first :: instants ∧
      ∀ instant ∈ first :: instants, instant ≤ instants.foldl max first :=
  List.max?_eq_some_iff.mp List.max?_cons'

end Folds

/-! ## Hulls -/

namespace Track

variable {track : Track} {instant : Nat}

theorem mem_instants_iff :
    instant ∈ track.instants ↔
      (∃ row ∈ track.rows, row.timestamp = instant) ∨
        ∃ restart ∈ track.restarts, restart.timestamp = instant := by
  rw [instants, List.mem_append, List.mem_map, List.mem_map]

end Track

namespace Timeline

/-- At this instant a row or a restart of a track stands on the timeline, or the stop. -/
def Marked (timeline : Timeline) (instant : Nat) : Prop :=
  instant = timeline.stop ∨ ∃ track ∈ timeline.tracks,
    (∃ row ∈ track.rows, row.timestamp = instant) ∨
      ∃ restart ∈ track.restarts, restart.timestamp = instant

/-- The extent is as narrow as what stands on the timeline allows. -/
structure Hull (timeline : Timeline) : Prop where
  start_marked : timeline.Marked timeline.start
  finish_marked : timeline.Marked timeline.finish
  start_le : ∀ instant, timeline.Marked instant → timeline.start ≤ instant
  le_finish : ∀ instant, timeline.Marked instant → instant ≤ timeline.finish

variable {timeline : Timeline} {instant : Nat}

theorem marked_iff_mem :
    timeline.Marked instant ↔ instant ∈ timeline.stop :: timeline.tracks.flatMap Track.instants := by
  simp only [Marked, List.mem_cons, List.mem_flatMap, Track.mem_instants_iff]

/-- Whatever order the tracks come in, the extent of their timeline is its hull. -/
theorem hull_of_ofTracks {tracks : List Track} {stops : List Nat}
    (ok : ofTracks tracks stops = .ok timeline) : timeline.Hull := by
  unfold ofTracks at ok
  cases only : onlyStop stops with
  | error fault =>
    rw [only] at ok
    cases ok
  | ok stop =>
    rw [only] at ok
    cases ok
    obtain ⟨start_mem, start_le⟩ := foldl_min_least stop
      ((tracks.mergeSort fun a b => (compare a.key b.key).isLE).flatMap Track.instants)
    obtain ⟨finish_mem, le_finish⟩ := foldl_max_greatest stop
      ((tracks.mergeSort fun a b => (compare a.key b.key).isLE).flatMap Track.instants)
    exact ⟨marked_iff_mem.mpr start_mem, marked_iff_mem.mpr finish_mem,
      fun instant marked => start_le instant (marked_iff_mem.mp marked),
      fun instant marked => le_finish instant (marked_iff_mem.mp marked)⟩

end Timeline

/-! ## Depths outside -/

namespace Track

variable {track : Track} {instant : Nat}
  (sorted : track.rows.Pairwise fun a b => a.timestamp ≤ b.timestamp)

include sorted

theorem depthAt_of_ahead (ahead : ∀ row ∈ track.rows, instant < row.timestamp) :
    track.depthAt instant = 0 := by
  have none : track.rows.filter (·.timestamp ≤ instant) = [] := by
    rw [List.filter_eq_nil_iff]
    intro row member
    have := ahead row member
    simpa using this
  rw [depthAt_eq_last sorted, none]
  rfl

theorem depthAt_of_behind (behind : ∀ row ∈ track.rows, row.timestamp ≤ instant) :
    track.depthAt instant = track.series.finalDepth := by
  have all : track.rows.filter (·.timestamp ≤ instant) = track.rows := by
    rw [List.filter_eq_self]
    intro row member
    exact decide_eq_true (behind row member)
  rw [depthAt_eq_last sorted, all]
  rfl

end Track

namespace Timeline.Hull

variable {timeline : Timeline} (hull : timeline.Hull) {track : Track} (listed : track ∈ timeline.tracks)

include hull listed

theorem row_inside {row : Depth.Row} (member : row ∈ track.rows) :
    timeline.start ≤ row.timestamp ∧ row.timestamp ≤ timeline.finish := by
  have marked : timeline.Marked row.timestamp := .inr ⟨track, listed, .inl ⟨row, member, rfl⟩⟩
  exact ⟨hull.start_le _ marked, hull.le_finish _ marked⟩

theorem restart_inside {restart : Restart} (member : restart ∈ track.restarts) :
    timeline.start ≤ restart.timestamp ∧ restart.timestamp ≤ timeline.finish := by
  have marked : timeline.Marked restart.timestamp :=
    .inr ⟨track, listed, .inr ⟨restart, member, rfl⟩⟩
  exact ⟨hull.start_le _ marked, hull.le_finish _ marked⟩

variable (sorted : track.rows.Pairwise fun a b => a.timestamp ≤ b.timestamp) {instant : Nat}

include sorted

theorem depthAt_before (before : instant < timeline.start) : track.depthAt instant = 0 := by
  apply Track.depthAt_of_ahead sorted
  intro row member
  exact Nat.lt_of_lt_of_le before (hull.row_inside listed member).1

theorem depthAt_after (after : timeline.finish ≤ instant) :
    track.depthAt instant = track.series.finalDepth := by
  apply Track.depthAt_of_behind sorted
  intro row member
  exact Nat.le_trans (hull.row_inside listed member).2 after

end Timeline.Hull

end QueueDepth
