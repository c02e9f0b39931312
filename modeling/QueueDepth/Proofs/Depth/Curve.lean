import QueueDepth.Proofs.Ascending
import QueueDepth.Proofs.Depth.Balance
import QueueDepth.Proofs.Depth.Instants

/-!
# The curve of a queue

`outcome` folds over the groups of one timestamp and carries two totals. `curve` says the same without
the fold: at each instant at which the queue stirs, the row and the depth are counts over all events.

* `outcome_eq_curve`: the two agree, for events in timestamp order.
* `outcome_congr`: so the outcome depends only on how often the queue moves at each instant.
* `curve_eq_ok_iff`, `curve_eq_error_iff`: what a curve or a violation says.
-/

namespace QueueDepth.Depth

/-- The depth at the end of an instant, as the word that is computed for it. -/
def level (key : Key) (events : List Event) (instant : Nat) : Int64 :=
  difference (.ofNat (movedBy key .enqueue events instant))
    (.ofNat (movedBy key .dequeue events instant))

/-- What the queue did at an instant. -/
def rowAt (key : Key) (events : List Event) (instant : Nat) : Row where
  timestamp := instant
  enqueued := (UInt64.ofNat (movedAt key .enqueue events instant)).toNat
  dequeued := (UInt64.ofNat (movedAt key .dequeue events instant)).toNat
  depth := (level key events instant).toUInt64.toNat

/-- The queue moves at this instant, as far as words can tell. -/
def Stirs (key : Key) (events : List Event) (instant : Nat) : Prop :=
  ¬ (UInt64.ofNat (movedAt key .enqueue events instant) = 0 ∧
    UInt64.ofNat (movedAt key .dequeue events instant) = 0)

instance (key : Key) (events : List Event) (instant : Nat) : Decidable (Stirs key events instant) :=
  inferInstanceAs (Decidable (¬ _))

/-- The instants at which the queue moves, in order. -/
def stirred (key : Key) (events : List Event) : List Nat :=
  (ascending (events.map Event.timestamp)).filter fun instant => decide (Stirs key events instant)

/-- The outcome of the depths at the given instants. -/
def curve (key : Key) (events : List Event) : List Nat → Outcome
  | [] => .ok ⟨key, []⟩
  | instant :: rest =>
    if level key events instant < 0 then
      .error ⟨key, instant, (level key events instant).toInt, []⟩
    else
      (curve key events rest).behind (rowAt key events instant)

/-- The key of an outcome. -/
def Outcome.key : Outcome → Key
  | .ok series => series.key
  | .error violation => violation.key

variable {key : Key} {events others : List Event}

/-! ## The instants of a queue -/

theorem exists_timestamp_of_stirs {instant : Nat} (stirs : Stirs key events instant) :
    ∃ event ∈ events, event.timestamp = instant := by
  by_contra absent
  have none (side : Side) : movedAt key side events instant = 0 := by
    apply List.countP_eq_zero.mpr
    intro event member counted
    rw [Bool.and_eq_true, beq_iff_eq] at counted
    exact absent ⟨event, member, counted.2⟩
  refine stirs ⟨?_, ?_⟩
  · rw [none]
    rfl
  · rw [none]
    rfl

theorem mem_stirred {instant : Nat} : instant ∈ stirred key events ↔ Stirs key events instant := by
  rw [stirred, List.mem_filter, mem_ascending, List.mem_map, decide_eq_true_eq]
  exact ⟨And.right, fun stirs => ⟨exists_timestamp_of_stirs stirs, stirs⟩⟩

theorem ascending_stirred : Ascending (stirred key events) :=
  (ascending_ascending _).filter _

/-! ## Groups and counts -/

/-- The timestamps of groups. -/
def heads (groups : List (List Event)) : List Nat :=
  groups.filterMap fun group => group.head?.map Event.timestamp

/-- What a fold over groups of one timestamp may rely on: it has `before` behind it, and the groups
that are left follow strictly. -/
structure Cut (before : List Event) (groups : List (List Event)) : Prop where
  nonempty : ∀ group ∈ groups, group ≠ []
  shared : ∀ event more, event :: more ∈ groups → ∀ other ∈ event :: more,
    other.timestamp = event.timestamp
  order : groups.Pairwise Before
  past : ∀ a ∈ before, ∀ b ∈ groups.flatten, a.timestamp < b.timestamp

namespace Cut

theorem ofInstants (sorted : InOrder events) : Cut [] (instants events) where
  nonempty _ member := ne_nil_of_mem_instants member
  shared _ _ member := timestamp_eq_of_mem_instants member
  order := pairwise_before_instants sorted
  past _ member := by cases member

variable {before : List Event} {group : List Event} {groups : List (List Event)}

/-- A group is taken up. -/
theorem next (cut : Cut before (group :: groups)) : Cut (before ++ group) groups where
  nonempty other member := cut.nonempty other (List.mem_cons_of_mem _ member)
  shared event more member := cut.shared event more (List.mem_cons_of_mem _ member)
  order := cut.order.of_cons
  past a early b late := by
    rcases List.mem_append.mp early with old | new
    · exact cut.past a old b (List.mem_append_right _ late)
    · obtain ⟨later, member, inside⟩ := List.mem_flatten.mp late
      exact (List.pairwise_cons.mp cut.order).1 later member a new b inside

variable {event : Event} {more : List Event} {side : Side}

/-- All of the first group happens at its timestamp, and nothing else does. -/
theorem movedAt_head (cut : Cut before ((event :: more) :: groups)) :
    movedAt key side (before ++ ((event :: more) :: groups).flatten) event.timestamp =
      (event :: more).countP (movesTo key side) := by
  have earlier : movedAt key side before event.timestamp = 0 := by
    apply List.countP_eq_zero.mpr
    intro other member counted
    rw [Bool.and_eq_true, beq_iff_eq] at counted
    have := cut.past other member event (by simp)
    omega
  have later : movedAt key side groups.flatten event.timestamp = 0 := by
    apply List.countP_eq_zero.mpr
    intro other member counted
    rw [Bool.and_eq_true, beq_iff_eq] at counted
    have := cut.next.past event (by simp) other member
    omega
  have now : movedAt key side (event :: more) event.timestamp =
      (event :: more).countP (movesTo key side) := by
    apply List.countP_congr
    intro other member
    simp [cut.shared event more (by simp) other member]
  rw [List.flatten_cons, movedAt_append, movedAt_append, earlier, later, now, Nat.zero_add,
    Nat.add_zero]

/-- Up to the timestamp of the first group there is all that lies behind, and the group. -/
theorem movedBy_head (cut : Cut before ((event :: more) :: groups)) :
    movedBy key side (before ++ ((event :: more) :: groups).flatten) event.timestamp =
      (before ++ event :: more).countP (movesTo key side) := by
  have upTo : movedBy key side (before ++ event :: more) event.timestamp =
      (before ++ event :: more).countP (movesTo key side) := by
    apply List.countP_congr
    intro other member
    have reached : other.timestamp ≤ event.timestamp := by
      rcases List.mem_append.mp member with old | new
      · exact (cut.past other old event (by simp)).le
      · exact (cut.shared event more (by simp) other new).le
    simp [reached]
  have later : movedBy key side groups.flatten event.timestamp = 0 := by
    apply List.countP_eq_zero.mpr
    intro other member counted
    rw [Bool.and_eq_true, decide_eq_true_eq] at counted
    have := cut.next.past event (by simp) other member
    omega
  rw [List.flatten_cons, ← List.append_assoc, movedBy_append, upTo, later, Nat.add_zero]

end Cut

theorem ofNat_countP_append (side : Side) (before group : List Event) :
    UInt64.ofNat ((before ++ group).countP (movesTo key side)) =
      .ofNat (before.countP (movesTo key side)) + moves key side group := by
  rw [List.countP_append, UInt64.ofNat_add]
  rfl

namespace Cut

variable {before : List Event} {event : Event} {more : List Event} {groups : List (List Event)}

/-- The first group stirs the queue if its events move it. -/
theorem stirs_head_iff (cut : Cut before ((event :: more) :: groups)) :
    Stirs key (before ++ ((event :: more) :: groups).flatten) event.timestamp ↔
      ¬ (moves key .enqueue (event :: more) = 0 ∧ moves key .dequeue (event :: more) = 0) := by
  rw [Stirs, cut.movedAt_head, cut.movedAt_head]
  rfl

/-- The depth behind the first group comes from the totals with it. -/
theorem level_head (cut : Cut before ((event :: more) :: groups)) :
    level key (before ++ ((event :: more) :: groups).flatten) event.timestamp =
      difference
        (.ofNat (before.countP (movesTo key .enqueue)) + moves key .enqueue (event :: more))
        (.ofNat (before.countP (movesTo key .dequeue)) + moves key .dequeue (event :: more)) := by
  rw [level, cut.movedBy_head, cut.movedBy_head, ofNat_countP_append, ofNat_countP_append]

theorem rowAt_head (cut : Cut before ((event :: more) :: groups)) :
    rowAt key (before ++ ((event :: more) :: groups).flatten) event.timestamp =
      ⟨event.timestamp, (moves key .enqueue (event :: more)).toNat,
        (moves key .dequeue (event :: more)).toNat,
        (level key (before ++ ((event :: more) :: groups).flatten)
          event.timestamp).toUInt64.toNat⟩ := by
  rw [rowAt, cut.movedAt_head, cut.movedAt_head]
  rfl

end Cut

/-! ## The fold over groups -/

/-- The fold that has taken up `before` goes on as the curve does over the groups that are left. -/
theorem outcomeFrom_eq_curve {before : List Event} {groups : List (List Event)}
    (cut : Cut before groups) (all : events = before ++ groups.flatten) :
    outcomeFrom key (.ofNat (before.countP (movesTo key .enqueue)))
        (.ofNat (before.countP (movesTo key .dequeue))) groups =
      curve key events ((heads groups).filter fun instant => decide (Stirs key events instant)) := by
  induction groups generalizing before with
  | nil => rfl
  | cons group rest ih =>
    cases group with
    | nil => exact absurd rfl (cut.nonempty [] (by simp))
    | cons event more =>
      have rest_eq := ih cut.next (by rw [all, List.flatten_cons, List.append_assoc])
      rw [ofNat_countP_append, ofNat_countP_append] at rest_eq
      have heads_eq : heads ((event :: more) :: rest) = event.timestamp :: heads rest := rfl
      rw [all] at rest_eq ⊢
      rw [outcomeFrom, heads_eq]
      by_cases quiet : moves key .enqueue (event :: more) = 0 ∧ moves key .dequeue (event :: more) = 0
      · have still := mt cut.stirs_head_iff.mp (not_not.mpr quiet)
        rw [quiet.1, quiet.2, UInt64.add_zero, UInt64.add_zero] at rest_eq
        rw [if_pos quiet, rest_eq, List.filter_cons_of_neg (by simpa using still)]
      · have stirs := cut.stirs_head_iff.mpr quiet
        rw [if_neg quiet, List.filter_cons_of_pos (by simpa using stirs), curve, cut.rowAt_head,
          cut.level_head, rest_eq]

theorem ascending_heads {before : List Event} {groups : List (List Event)}
    (cut : Cut before groups) : Ascending (heads groups) := by
  rw [ascending_iff_lt, heads, List.pairwise_filterMap]
  apply cut.order.imp
  intro group later order instant first moment second
  obtain ⟨a, headA, rfl⟩ := Option.map_eq_some_iff.mp first
  obtain ⟨b, headB, rfl⟩ := Option.map_eq_some_iff.mp second
  exact order a (List.mem_of_mem_head? headA) b (List.mem_of_mem_head? headB)

theorem mem_heads {before : List Event} {groups : List (List Event)} (cut : Cut before groups)
    {instant : Nat} : instant ∈ heads groups ↔ instant ∈ groups.flatten.map Event.timestamp := by
  rw [heads, List.mem_filterMap, List.mem_map]
  constructor
  · rintro ⟨group, member, first⟩
    obtain ⟨event, head, rfl⟩ := Option.map_eq_some_iff.mp first
    exact ⟨event, List.mem_flatten.mpr ⟨group, member, List.mem_of_mem_head? head⟩, rfl⟩
  · rintro ⟨event, inside, rfl⟩
    obtain ⟨group, member, within⟩ := List.mem_flatten.mp inside
    cases group with
    | nil => cases within
    | cons first more =>
      refine ⟨first :: more, member, ?_⟩
      rw [cut.shared first more member event within]
      rfl

/-- The outcome of events in timestamp order is the curve over the instants at which the queue
moves. -/
theorem outcome_eq_curve (sorted : InOrder events) :
    outcome key events = curve key events (stirred key events) := by
  have cut := Cut.ofInstants sorted
  have heads_eq : heads (instants events) = ascending (events.map Event.timestamp) := by
    apply (ascending_heads cut).eq_of_mem_iff (ascending_ascending _)
    intro instant
    rw [mem_heads cut, mem_ascending, flatten_instants]
  rw [stirred, ← heads_eq]
  exact outcomeFrom_eq_curve cut (by simp)

/-! ## What a curve says -/

/-- A curve is a series exactly if the depth is never below zero at the end of an instant. -/
theorem curve_eq_ok_iff {instants : List Nat} {series : Series} :
    curve key events instants = .ok series ↔
      (∀ instant ∈ instants, ¬ level key events instant < 0) ∧
        series = ⟨key, instants.map (rowAt key events)⟩ := by
  induction instants generalizing series with
  | nil => simp [curve, eq_comm]
  | cons instant rest ih =>
    rw [curve, List.forall_mem_cons]
    by_cases below : level key events instant < 0
    · rw [if_pos below]
      constructor
      · intro outcome_eq
        cases outcome_eq
      · rintro ⟨⟨nonneg, _⟩, _⟩
        exact absurd below nonneg
    · rw [if_neg below]
      constructor
      · intro outcome_eq
        cases rest_eq : curve key events rest with
        | error violation =>
          rw [rest_eq] at outcome_eq
          cases outcome_eq
        | ok tail =>
          rw [rest_eq] at outcome_eq
          cases outcome_eq
          obtain ⟨nonneg, rfl⟩ := ih.mp rest_eq
          exact ⟨⟨below, nonneg⟩, rfl⟩
      · rintro ⟨⟨_, nonneg⟩, rfl⟩
        rw [ih.mpr ⟨nonneg, rfl⟩]
        rfl

/-- A curve is a violation exactly at the first instant at the end of which the depth is below zero;
the rows before it are kept. -/
theorem curve_eq_error_iff {instants : List Nat} {violation : Violation} :
    curve key events instants = .error violation ↔
      ∃ early instant late, instants = early ++ instant :: late ∧
        (∀ moment ∈ early, ¬ level key events moment < 0) ∧ level key events instant < 0 ∧
        violation =
          ⟨key, instant, (level key events instant).toInt, early.map (rowAt key events)⟩ := by
  induction instants generalizing violation with
  | nil => simp [curve]
  | cons first rest ih =>
    rw [curve]
    constructor
    · intro outcome_eq
      by_cases below : level key events first < 0
      · rw [if_pos below] at outcome_eq
        cases outcome_eq
        exact ⟨[], first, rest, rfl, by simp, below, rfl⟩
      · rw [if_neg below] at outcome_eq
        cases rest_eq : curve key events rest with
        | ok series =>
          rw [rest_eq] at outcome_eq
          cases outcome_eq
        | error tail =>
          rw [rest_eq] at outcome_eq
          cases outcome_eq
          obtain ⟨early, instant, late, rfl, nonneg, neg, rfl⟩ := ih.mp rest_eq
          refine ⟨first :: early, instant, late, rfl, ?_, neg, rfl⟩
          intro moment member
          rcases List.mem_cons.mp member with rfl | tail
          · exact below
          · exact nonneg moment tail
    · rintro ⟨early, instant, late, split, nonneg, neg, rfl⟩
      cases early with
      | nil =>
        obtain ⟨rfl, rfl⟩ := List.cons.inj split
        rw [if_pos neg]
        rfl
      | cons other early =>
        obtain ⟨rfl, rfl⟩ := List.cons.inj split
        rw [if_neg (nonneg first (by simp))]
        have rest_eq := ih.mpr ⟨early, instant, late, rfl,
          fun moment member => nonneg moment (List.mem_cons_of_mem _ member), neg, rfl⟩
        rw [rest_eq]
        rfl

/-- A curve depends only on the levels and rows at its instants. -/
theorem curve_congr {instants : List Nat}
    (same : ∀ instant ∈ instants, level key events instant = level key others instant ∧
      rowAt key events instant = rowAt key others instant) :
    curve key events instants = curve key others instants := by
  induction instants with
  | nil => rfl
  | cons instant rest ih =>
    obtain ⟨now, later⟩ := List.forall_mem_cons.mp same
    rw [curve, curve, now.1, now.2, ih later]

theorem key_outcome (key : Key) (sorted : InOrder events) : Outcome.key (outcome key events) = key := by
  rw [outcome_eq_curve sorted]
  cases outcome_eq : curve key events (stirred key events) with
  | ok series => rw [Outcome.key, (curve_eq_ok_iff.mp outcome_eq).2]
  | error violation =>
    obtain ⟨_, _, _, _, _, _, rfl⟩ := curve_eq_error_iff.mp outcome_eq
    rfl

/-! ## What an outcome depends on -/

section Congruence

variable
  (same : ∀ side instant, movedAt key side events instant = movedAt key side others instant)

include same

theorem level_congr (instant : Nat) : level key events instant = level key others instant := by
  rw [level, level, movedBy_congr (same .enqueue), movedBy_congr (same .dequeue)]

theorem rowAt_congr (instant : Nat) : rowAt key events instant = rowAt key others instant := by
  rw [rowAt, rowAt, same, same, level_congr same]

theorem stirred_congr : stirred key events = stirred key others := by
  apply ascending_stirred.eq_of_mem_iff ascending_stirred
  intro instant
  rw [mem_stirred, mem_stirred, Stirs, Stirs, same, same]

/-- The outcome depends only on how often the queue moves to each side at each instant. -/
theorem outcome_congr (sorted : InOrder events) (otherSorted : InOrder others) :
    outcome key events = outcome key others := by
  rw [outcome_eq_curve sorted, outcome_eq_curve otherSorted, stirred_congr same]
  exact curve_congr fun instant _ => ⟨level_congr same instant, rowAt_congr same instant⟩

end Congruence

end QueueDepth.Depth
