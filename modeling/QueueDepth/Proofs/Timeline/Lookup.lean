import Mathlib.Order.Basic
import QueueDepth.Timeline

/-!
# Looking up a depth

`depthAt` halves the range of the rows down to a border and reads the row in front of it. It never leaves
the rows, in whatever order they are. On rows in timestamp order the border parts those up to the instant
from those behind it, so the lookup answers what a scan of all rows answers, or the depth of a row at the
row's own timestamp.

* `firstRejected_eq`, `firstRejected_le`: where halving ends.
* `Track.border_eq_length`, `Track.depthAt_eq_last`: the border and the lookup on rows in order.
* `Track.depthAt_eq_scan`: the lookup against the scan.
-/

namespace QueueDepth

/-- Halving finds the one place at which acceptance ends. -/
theorem firstRejected_eq {accepts : Nat → Bool} {low high border : Nat}
    (lower : low ≤ border) (upper : border ≤ high)
    (accepted : ∀ index, low ≤ index → index < border → accepts index = true)
    (rejected : ∀ index, border ≤ index → index < high → accepts index = false) :
    firstRejected accepts low high = border := by
  fun_induction firstRejected accepts low high with
  | case1 low high open' middle takes ih =>
    have beyond : middle < border := by
      by_contra behind
      have refused := rejected middle (by omega) (by omega)
      rw [refused] at takes
      cases takes
    exact ih (by omega) upper (fun index from' => accepted index (by omega)) rejected
  | case2 low high open' middle refuses ih =>
    have reached : border ≤ middle := by
      by_contra ahead
      exact refuses (accepted middle (by omega) (by omega))
    exact ih lower reached accepted fun index from' upTo => rejected index from' (by omega)
  | case3 low high closed => omega

/-- Halving ends within its range, whatever is accepted. -/
theorem firstRejected_le {accepts : Nat → Bool} {low high : Nat} (range : low ≤ high) :
    firstRejected accepts low high ≤ high := by
  fun_induction firstRejected accepts low high with
  | case1 low high open' middle takes ih => exact ih (by omega)
  | case2 low high open' middle refuses ih =>
    have inner : firstRejected accepts low middle ≤ middle := ih (by omega)
    omega
  | case3 low high closed => exact range

namespace Track

/-- Rows in timestamp order are those up to an instant and then those behind it. -/
theorem rows_split {rows : List Depth.Row}
    (sorted : rows.Pairwise fun a b => a.timestamp ≤ b.timestamp) (instant : Nat) :
    rows.filter (·.timestamp ≤ instant) ++ rows.filter (instant < ·.timestamp) = rows := by
  induction rows with
  | nil => rfl
  | cons row rest ih =>
    obtain ⟨first, later⟩ := List.pairwise_cons.mp sorted
    by_cases reached : row.timestamp ≤ instant
    · have notBehind : ¬ instant < row.timestamp := by omega
      rw [List.filter_cons_of_pos (by simpa using reached),
        List.filter_cons_of_neg (by simpa using notBehind), List.cons_append, ih later]
    · have behind : ∀ other ∈ row :: rest, instant < other.timestamp := by
        intro other member
        rcases List.mem_cons.mp member with rfl | tail
        · omega
        · have := first other tail
          omega
      have none : (row :: rest).filter (·.timestamp ≤ instant) = [] := by
        apply List.filter_eq_nil_iff.mpr
        intro other member
        rw [decide_eq_true_eq, Nat.not_le]
        exact behind other member
      rw [none, List.nil_append, List.filter_eq_self]
      intro other member
      exact decide_eq_true (behind other member)

/-- The number of rows that halving takes to be at or before an instant. -/
def border (track : Track) (instant : Nat) : Nat :=
  firstRejected (fun index => track.rows.toArray[index]?.any (·.timestamp ≤ instant)) 0
    track.rows.toArray.size

/-- Whatever the rows, the border lies among them or right behind them. -/
theorem border_le_length (track : Track) (instant : Nat) :
    track.border instant ≤ track.rows.length :=
  firstRejected_le (Nat.zero_le _)

/-- With the border in front of all rows the depth is zero. -/
theorem depthAt_of_border_eq_zero {track : Track} {instant : Nat}
    (empty : track.border instant = 0) : track.depthAt instant = 0 := by
  rw [border] at empty
  simp only [depthAt, empty]

/-- Otherwise the depth is read off the row in front of the border, and there is one. -/
theorem depthAt_of_border_eq_succ {track : Track} {instant index : Nat}
    (found : track.border instant = index + 1) :
    ∃ inside : index < track.rows.length, track.depthAt instant = track.rows[index].depth := by
  have inside : index < track.rows.length := by
    have bound := border_le_length track instant
    omega
  refine ⟨inside, ?_⟩
  rw [border] at found
  simp only [depthAt, found]
  simp [inside]

/-- On rows in timestamp order the border parts those up to the instant from those behind it. -/
theorem border_eq_length {track : Track}
    (sorted : track.rows.Pairwise fun a b => a.timestamp ≤ b.timestamp) (instant : Nat) :
    track.border instant = (track.rows.filter (·.timestamp ≤ instant)).length := by
  have split := rows_split sorted instant
  generalize early_eq : track.rows.filter (·.timestamp ≤ instant) = early at split ⊢
  generalize late_eq : track.rows.filter (instant < ·.timestamp) = late at split
  refine firstRejected_eq (Nat.zero_le _) ?_ ?_ ?_
  · rw [← split]
    simp
  · intro index _ inside
    have member : early[index] ∈ track.rows.filter (·.timestamp ≤ instant) := by
      rw [early_eq]
      exact List.getElem_mem inside
    rw [List.mem_filter] at member
    rw [← split, List.getElem?_toArray, List.getElem?_append_left inside,
      List.getElem?_eq_getElem inside]
    exact member.2
  · intro index behind inside
    rw [← split] at inside ⊢
    have place : index - early.length < late.length := by
      simp only [List.size_toArray, List.length_append] at inside
      omega
    have member : late[index - early.length] ∈ track.rows.filter (instant < ·.timestamp) := by
      rw [late_eq]
      exact List.getElem_mem place
    rw [List.mem_filter, decide_eq_true_eq] at member
    rw [List.getElem?_toArray, List.getElem?_append_right behind,
      List.getElem?_eq_getElem place]
    simpa using member.2

/-- The depth at an instant is that of the last row at or before it, and zero before all rows. -/
theorem depthAt_eq_last {track : Track}
    (sorted : track.rows.Pairwise fun a b => a.timestamp ≤ b.timestamp) (instant : Nat) :
    track.depthAt instant =
      ((track.rows.filter (·.timestamp ≤ instant)).getLast?.map Depth.Row.depth).getD 0 := by
  have split := rows_split sorted instant
  have border := border_eq_length sorted instant
  generalize track.rows.filter (·.timestamp ≤ instant) = early at split border ⊢
  generalize track.rows.filter (instant < ·.timestamp) = late at split
  rcases List.eq_nil_or_concat early with rfl | ⟨before, last, rfl⟩
  · exact depthAt_of_border_eq_zero border
  · rw [List.concat_eq_append, List.length_append, List.length_singleton] at border
    obtain ⟨inside, read⟩ := depthAt_of_border_eq_succ border
    rw [read]
    simp [← split]

/-- The depth at an instant is zero or that of a row at or before it. -/
theorem depthAt_eq_zero_or_row {track : Track}
    (sorted : track.rows.Pairwise fun a b => a.timestamp ≤ b.timestamp) (instant : Nat) :
    track.depthAt instant = 0 ∨
      ∃ row ∈ track.rows, row.timestamp ≤ instant ∧ track.depthAt instant = row.depth := by
  rw [depthAt_eq_last sorted]
  cases last : (track.rows.filter (·.timestamp ≤ instant)).getLast? with
  | none => exact .inl rfl
  | some row =>
    have member := List.mem_of_getLast? last
    rw [List.mem_filter, decide_eq_true_eq] at member
    exact .inr ⟨row, member.1, member.2, rfl⟩

/-- Where no two rows share a timestamp, each is found at its own. -/
theorem depthAt_timestamp {track : Track}
    (ascends : track.rows.Pairwise fun a b => a.timestamp < b.timestamp) {row : Depth.Row}
    (member : row ∈ track.rows) : track.depthAt row.timestamp = row.depth := by
  obtain ⟨before, after, split⟩ := List.append_of_mem member
  have order := ascends
  rw [split, List.pairwise_append, List.pairwise_cons] at order
  obtain ⟨_, ⟨behind, _⟩, ahead⟩ := order
  have upTo : track.rows.filter (·.timestamp ≤ row.timestamp) = before ++ [row] := by
    have early : before.filter (·.timestamp ≤ row.timestamp) = before := by
      rw [List.filter_eq_self]
      intro other inFront
      exact decide_eq_true (Nat.le_of_lt (ahead other inFront row List.mem_cons_self))
    have late : after.filter (·.timestamp ≤ row.timestamp) = [] := by
      rw [List.filter_eq_nil_iff]
      intro other later
      rw [decide_eq_true_eq, Nat.not_le]
      exact behind other later
    rw [split, List.filter_append, early, List.filter_cons_of_pos (by simp), late]
  rw [depthAt_eq_last (ascends.imp Nat.le_of_lt), upTo]
  simp

/-! ## Scanning all rows -/

/-- What a scan holds after one more row: the row if it is at or before the instant, and what it held
otherwise. -/
def hold (instant : Nat) (held : Option Depth.Row) (row : Depth.Row) : Option Depth.Row :=
  if row.timestamp ≤ instant then some row else held

/-- The last row at or before an instant, found by looking at every row in turn. -/
def scan (track : Track) (instant : Nat) : Option Depth.Row :=
  track.rows.foldl (hold instant) none

/-- A scan ends with the last row that it took up, and with what it began with if it took up none. -/
theorem foldl_hold (instant : Nat) (rows : List Depth.Row) (held : Option Depth.Row) :
    rows.foldl (hold instant) held = (rows.filter (·.timestamp ≤ instant)).getLast?.or held := by
  induction rows generalizing held with
  | nil => rfl
  | cons row rest ih =>
    rw [List.foldl_cons, ih]
    by_cases reached : row.timestamp ≤ instant
    · rw [hold, if_pos reached, List.filter_cons_of_pos (by simpa using reached), List.getLast?_cons]
      cases (rest.filter (·.timestamp ≤ instant)).getLast? <;> rfl
    · rw [hold, if_neg reached, List.filter_cons_of_neg (by simpa using reached)]

/-- Whatever the rows, the row that halving reads is one of them. On rows that never step back in time,
also if several share a timestamp, halving counts the rows up to the instant, and the depth it answers is
that of the row with which a scan of all rows ends, or zero if the scan finds none. -/
theorem depthAt_eq_scan (track : Track) (instant : Nat) :
    (∀ index, track.border instant = index + 1 →
      ∃ inside : index < track.rows.length, track.depthAt instant = track.rows[index].depth) ∧
      (track.rows.Pairwise (fun a b => a.timestamp ≤ b.timestamp) →
        track.border instant = track.rows.countP (·.timestamp ≤ instant) ∧
          track.depthAt instant = ((track.scan instant).map Depth.Row.depth).getD 0) := by
  refine ⟨fun _ found => depthAt_of_border_eq_succ found, fun sorted => ⟨?_, ?_⟩⟩
  · rw [border_eq_length sorted, List.countP_eq_length_filter]
  · rw [depthAt_eq_last sorted, scan, foldl_hold, Option.or_none]

/-- A track with three rows in one millisecond and one in the last millisecond of 64 bits. -/
def crowdedTrack : Track :=
  ⟨⟨.actor 3, [⟨10, 2, 0, 2⟩, ⟨20, 0, 1, 1⟩, ⟨20, 6, 0, 7⟩, ⟨20, 0, 3, 4⟩,
    ⟨0xffffffffffffffff, 0, 4, 0⟩]⟩, []⟩

theorem depthAt_crowdedTrack :
    crowdedTrack.rows.Pairwise (fun a b => a.timestamp ≤ b.timestamp) ∧
      [0, 9, 10, 19, 20, 21, 0xfffffffffffffffe, 0xffffffffffffffff].map crowdedTrack.depthAt =
        [0, 0, 2, 2, 4, 4, 4, 0] ∧
      crowdedTrack.border 20 = 4 ∧ crowdedTrack.depthAt 20 = crowdedTrack.rows[3].depth := by
  have sorted : crowdedTrack.rows.Pairwise fun a b => a.timestamp ≤ b.timestamp := by decide
  have scanned (instant : Nat) : crowdedTrack.depthAt instant =
      ((crowdedTrack.scan instant).map Depth.Row.depth).getD 0 :=
    ((depthAt_eq_scan crowdedTrack instant).2 sorted).2
  have border : crowdedTrack.border 20 = 4 := ((depthAt_eq_scan crowdedTrack 20).2 sorted).1
  obtain ⟨_, read⟩ := (depthAt_eq_scan crowdedTrack 20).1 3 border
  refine ⟨sorted, ?_, border, read⟩
  simp only [List.map_cons, List.map_nil, scanned]
  decide

end Track

end QueueDepth
