import QueueDepth.Proofs.Depth.Chronicle
import QueueDepth.Proofs.Trace.Grouping
import QueueDepth.Proofs.Trace.Loaded

/-!
# Moves of other owners

`outcome` passes over the events that do not move the queue of its key, and goes by their kind alone: to
the mailbox of one actor, an enqueue of any actor is a move. So over a whole trace it counts the traffic
of the key together with its strays, the moves that belong to other owners.

* `movedAt_add_strays`: what is counted over all events.
* `strays_eq_nil`: the pool and the system have no strays, only actors have.
* `outcome_of_mingled`: strays show in every series, and in a violation unless they come too late.
-/

namespace QueueDepth.Depth

/-- The traffic of `key` among events. -/
abbrev ownTraffic (key : Key) (events : List Event) : List Event :=
  (Grouping.ofEvents events).traffic key

/-- The events that belong to another owner, of a kind that moves the queue of `key`. -/
def strays (key : Key) (events : List Event) : List Event :=
  events.filter fun event => event.scope ≠ key ∧ (event.kind.side key).isSome = true

variable {key : Key} {side : Side} {events : List Event} {instant cut : Nat}

theorem inOrder_ownTraffic (sorted : InOrder events) : InOrder (ownTraffic key events) := by
  rw [ownTraffic, Grouping.traffic_ofEvents]
  exact sorted.filter _

theorem length_ownTraffic_le : (ownTraffic key events).length ≤ events.length := by
  rw [ownTraffic, Grouping.traffic_ofEvents]
  exact List.length_filter_le _ _

/-- Moves of the pool belong to the pool, and nothing moves the system. -/
theorem strays_eq_nil (shared : ∀ id, key ≠ .actor id) : strays key events = [] := by
  rw [strays, List.filter_eq_nil_iff]
  intro event _
  rw [decide_eq_true_eq]
  rintro ⟨foreign, moves⟩
  cases key with
  | actor id => exact shared id rfl
  | pool => exact foreign (Event.scope_eq_pool_iff.mpr moves)
  | system => cases moves

/-! ## What is counted -/

theorem isSome_side_of_movesTo {event : Event} (moves : movesTo key side event = true) :
    (event.kind.side key).isSome = true := by
  rw [movesTo, decide_eq_true_eq] at moves
  rw [moves]
  rfl

/-- Events of other kinds count nothing. -/
theorem movedAt_filter_kinds :
    movedAt key side (events.filter fun event => (event.kind.side key).isSome) instant =
      movedAt key side events instant := by
  rw [movedAt, List.countP_filter]
  apply List.countP_congr
  intro event _
  rw [Bool.and_eq_true, Bool.and_eq_true]
  exact ⟨And.left, fun counted => ⟨counted, isSome_side_of_movesTo counted.1⟩⟩

/-- Over all events, the moves of the owner are counted together with the strays. -/
theorem movedAt_add_strays (key : Key) (side : Side) (events : List Event) (instant : Nat) :
    movedAt key side events instant =
      movedAt key side (ownTraffic key events) instant +
        movedAt key side (strays key events) instant := by
  rw [ownTraffic, Grouping.traffic_ofEvents, strays, movedAt,
    List.countP_eq_countP_filter_add events _ fun event => event.scope = key]
  simp only [movedAt, List.countP_filter]
  congr 1
  · apply List.countP_congr
    intro event _
    simp only [Bool.and_eq_true, decide_eq_true_eq]
    constructor
    · intro held
      obtain ⟨counted, owned⟩ := held
      exact ⟨counted, owned, isSome_side_of_movesTo counted.1⟩
    · intro held
      obtain ⟨counted, owned, _⟩ := held
      exact ⟨counted, owned⟩
  · apply List.countP_congr
    intro event _
    simp only [Bool.and_eq_true, Bool.not_eq_true', decide_eq_false_iff_not, decide_eq_true_eq]
    constructor
    · intro held
      obtain ⟨counted, foreign⟩ := held
      exact ⟨counted, foreign, isSome_side_of_movesTo counted.1⟩
    · intro held
      obtain ⟨counted, foreign, _⟩ := held
      exact ⟨counted, foreign⟩

theorem movedBy_add_strays (key : Key) (side : Side) (events : List Event) (instant : Nat) :
    movedBy key side events instant =
      movedBy key side (ownTraffic key events) instant +
        movedBy key side (strays key events) instant := by
  induction instant with
  | zero => simp only [movedBy_zero, movedAt_add_strays key side events]
  | succ before ih =>
    simp only [movedBy_succ, ih, movedAt_add_strays key side events]
    omega

/-- Every stray counts at its timestamp. -/
theorem exists_movedAt_strays {event : Event} (stray : event ∈ strays key events) :
    ∃ side, movedAt key side (strays key events) event.timestamp ≠ 0 := by
  have member := stray
  rw [strays, List.mem_filter, decide_eq_true_eq] at member
  obtain ⟨side, moves⟩ := Option.isSome_iff_exists.mp member.2.2
  exact ⟨side, movedAt_ne_zero_iff.mpr ⟨event, stray, rfl, moves⟩⟩

/-- Before an instant no stray counts exactly if none stands there. -/
theorem quiet_strays_iff :
    (∀ side, ∀ moment < cut, movedAt key side (strays key events) moment = 0) ↔
      ∀ event ∈ strays key events, cut ≤ event.timestamp := by
  constructor
  · intro quiet event stray
    obtain ⟨side, moved⟩ := exists_movedAt_strays stray
    by_contra early
    exact moved (quiet side _ (Nat.lt_of_not_le early))
  · intro late side moment before
    by_contra moved
    obtain ⟨event, stray, now, _⟩ := movedAt_ne_zero_iff.mp moved
    have := late event stray
    omega

/-! ## Up to the first stray -/

section Quiet

variable (quiet : ∀ side, ∀ moment < cut, movedAt key side (strays key events) moment = 0)

include quiet

theorem movedAt_ownTraffic_of_quiet (before : instant < cut) :
    movedAt key side (ownTraffic key events) instant = movedAt key side events instant := by
  rw [movedAt_add_strays key side events, quiet side instant before, Nat.add_zero]

theorem movedBy_ownTraffic_of_quiet (before : instant < cut) :
    movedBy key side (ownTraffic key events) instant = movedBy key side events instant := by
  have none : movedBy key side (strays key events) instant = 0 :=
    movedBy_eq_zero_of_quiet fun moment upTo => quiet side moment (by omega)
  rw [movedBy_add_strays key side events, none, Nat.add_zero]

/-- At the first instant at which strays may count, all strays so far are those of this instant. -/
theorem movedBy_strays_of_quiet :
    movedBy key side (strays key events) cut = movedAt key side (strays key events) cut := by
  cases cut with
  | zero => exact movedBy_zero
  | succ before =>
    rw [movedBy_succ, movedBy_eq_zero_of_quiet fun moment upTo => quiet side moment (by omega),
      Nat.zero_add]

theorem balance_ownTraffic_of_quiet (before : instant < cut) :
    balance key (ownTraffic key events) instant = balance key events instant := by
  rw [balance, balance, movedBy_ownTraffic_of_quiet quiet before,
    movedBy_ownTraffic_of_quiet quiet before]

theorem rows_ownTraffic_of_quiet :
    ((stirred key (ownTraffic key events)).filter (· < cut)).map (rowAt key (ownTraffic key events)) =
      ((stirred key events).filter (· < cut)).map (rowAt key events) := by
  have instants : (stirred key (ownTraffic key events)).filter (· < cut) =
      (stirred key events).filter (· < cut) := by
    apply Ascending.eq_of_mem_iff (ascending_stirred.filter _) (ascending_stirred.filter _)
    intro moment
    simp only [List.mem_filter, mem_stirred, decide_eq_true_eq]
    apply and_congr_left
    intro before
    rw [Stirs, Stirs, movedAt_ownTraffic_of_quiet quiet before, movedAt_ownTraffic_of_quiet quiet before]
  rw [instants]
  apply List.map_congr_left
  intro moment member
  rw [List.mem_filter, decide_eq_true_eq] at member
  simp only [rowAt, level, movedAt_ownTraffic_of_quiet quiet member.2,
    movedBy_ownTraffic_of_quiet quiet member.2]

end Quiet

/-! ## Where strays show -/

section Small

variable (small : events.length < 2 ^ 63)

include small

/-- A row that is the same with strays and without has none. -/
theorem movedAt_strays_of_rowAt
    (same : rowAt key events instant = rowAt key (ownTraffic key events) instant) :
    movedAt key side (strays key events) instant = 0 := by
  have fewer : (ownTraffic key events).length < 2 ^ 63 := length_ownTraffic_le.trans_lt small
  have both (side : Side) := movedAt_add_strays key side events instant
  have came := congrArg Row.enqueued same
  have went := congrArg Row.dequeued same
  simp only [rowAt, toNat_ofNat_movedAt small, toNat_ofNat_movedAt fewer] at came went
  cases side with
  | enqueue =>
    have := both .enqueue
    omega
  | dequeue =>
    have := both .dequeue
    omega

/-- Where the rows of some instants are the same with strays and without, no stray counts at any of
these instants. -/
theorem movedAt_strays_of_rows (among : Nat → Bool)
    (same : ((stirred key events).filter among).map (rowAt key events) =
      ((stirred key (ownTraffic key events)).filter among).map (rowAt key (ownTraffic key events)))
    (inside : among instant = true) : movedAt key side (strays key events) instant = 0 := by
  by_contra moved
  obtain ⟨event, stray, now, side_eq⟩ := movedAt_ne_zero_iff.mp moved
  have stirs : Stirs key events instant :=
    (stirs_iff_exists small).mpr ⟨event, (List.mem_filter.mp stray).1, now, by rw [side_eq]; rfl⟩
  have listed : rowAt key events instant ∈ ((stirred key events).filter among).map (rowAt key events) :=
    List.mem_map_of_mem (List.mem_filter.mpr ⟨mem_stirred.mpr stirs, inside⟩)
  rw [same] at listed
  obtain ⟨moment, _, row⟩ := List.mem_map.mp listed
  have together : moment = instant := congrArg Row.timestamp row
  subst together
  exact moved (movedAt_strays_of_rowAt small row.symm)

end Small

/-! ## Outcomes with strays -/

/-- Without strays, all events have the outcome of the traffic. -/
theorem outcome_of_strays_nil (sorted : InOrder events) (none : strays key events = []) :
    outcome key events = outcome key (ownTraffic key events) := by
  refine outcome_congr (fun side moment => ?_) sorted (inOrder_ownTraffic sorted)
  rw [movedAt_add_strays, none]
  rfl

/-- A series bears no stray at all. -/
theorem outcome_eq_ok_iff_strays (small : events.length < 2 ^ 63) (sorted : InOrder events)
    {series : Series} (made : outcome key (ownTraffic key events) = .ok series) :
    outcome key events = .ok series ↔ strays key events = [] := by
  have fewer : (ownTraffic key events).length < 2 ^ 63 := length_ownTraffic_le.trans_lt small
  constructor
  · intro same
    obtain ⟨_, rfl⟩ := (outcome_eq_ok_iff small sorted).mp same
    obtain ⟨_, series_eq⟩ := (outcome_eq_ok_iff fewer (inOrder_ownTraffic sorted)).mp made
    have rows := congrArg Series.rows series_eq
    have whole (moments : List Nat) : moments.filter (fun _ => true) = moments :=
      List.filter_eq_self.mpr fun _ _ => rfl
    rw [List.eq_nil_iff_forall_not_mem]
    intro event stray
    obtain ⟨side, moved⟩ := exists_movedAt_strays stray
    refine moved (movedAt_strays_of_rows small (fun _ => true) ?_ rfl)
    rwa [whole, whole]
  · intro none
    rw [outcome_of_strays_nil sorted none, made]

/-- A violation bears the strays that come later, and at its own timestamp as many that enqueue as
dequeue. -/
theorem outcome_eq_error_iff_strays (small : events.length < 2 ^ 63) (sorted : InOrder events)
    {violation : Violation} (failed : outcome key (ownTraffic key events) = .error violation) :
    outcome key events = .error violation ↔
      (∀ event ∈ strays key events, violation.timestamp ≤ event.timestamp) ∧
        movedAt key .enqueue (strays key events) violation.timestamp =
          movedAt key .dequeue (strays key events) violation.timestamp := by
  have fewer : (ownTraffic key events).length < 2 ^ 63 := length_ownTraffic_le.trans_lt small
  obtain ⟨neg, first, ownEq⟩ :=
    (outcome_eq_error_iff fewer (inOrder_ownTraffic sorted)).mp failed
  have byThen (side : Side) := movedBy_add_strays key side events violation.timestamp
  rw [← quiet_strays_iff]
  constructor
  · intro same
    have allEq := violation_eq_of_outcome_eq_error small sorted same
    have rows := congrArg Violation.rows (allEq.symm.trans ownEq)
    have depths := congrArg Violation.depth (allEq.symm.trans ownEq)
    have quiet (side : Side) (moment : Nat) (before : moment < violation.timestamp) :
        movedAt key side (strays key events) moment = 0 :=
      movedAt_strays_of_rows small (· < violation.timestamp) rows (decide_eq_true before)
    refine ⟨quiet, ?_⟩
    rw [← movedBy_strays_of_quiet quiet, ← movedBy_strays_of_quiet quiet]
    have came := byThen .enqueue
    have went := byThen .dequeue
    simp only [balance] at depths
    omega
  · rintro ⟨quiet, even⟩
    have same : balance key events violation.timestamp =
        balance key (ownTraffic key events) violation.timestamp := by
      have came := byThen .enqueue
      have went := byThen .dequeue
      rw [movedBy_strays_of_quiet quiet] at came went
      simp only [balance]
      omega
    rw [outcome_eq_error_iff small sorted, same, ← rows_ownTraffic_of_quiet quiet]
    refine ⟨neg, ?_, ownEq⟩
    intro moment before
    rw [← balance_ownTraffic_of_quiet quiet before]
    exact first moment before

/-- The strays that leave an outcome as it is. -/
def Harmless (key : Key) (strays : List Event) : Outcome → Prop
  | .ok _ => strays = []
  | .error violation =>
    (∀ event ∈ strays, violation.timestamp ≤ event.timestamp) ∧
      movedAt key .enqueue strays violation.timestamp =
        movedAt key .dequeue strays violation.timestamp

/-- The outcome of all events of a trace. Events of kinds that do not move the queue are passed over, and
for the pool and for the system that leaves their traffic. An actor is charged with the strays as well.
They make no difference exactly if its series has none, or its violation comes before them or at a
timestamp at which they are even. -/
theorem outcome_of_mingled (trace : Trace) (key : Key) :
    outcome key trace.events =
        outcome key (trace.events.filter fun event => (event.kind.side key).isSome) ∧
    ((∀ id, key ≠ .actor id) →
      outcome key trace.events = outcome key ((Grouping.ofEvents trace.events).traffic key)) ∧
    (trace.size < 2 ^ 63 →
      (outcome key trace.events = outcome key ((Grouping.ofEvents trace.events).traffic key) ↔
        Harmless key (strays key trace.events)
          (outcome key ((Grouping.ofEvents trace.events).traffic key)))) := by
  refine ⟨?_, ?_, ?_⟩
  · exact outcome_congr (fun side moment => movedAt_filter_kinds.symm) trace.sorted
      (trace.sorted.filter _)
  · intro shared
    exact outcome_of_strays_nil trace.sorted (strays_eq_nil shared)
  · intro small
    cases own : outcome key ((Grouping.ofEvents trace.events).traffic key) with
    | ok series => exact outcome_eq_ok_iff_strays small trace.sorted own
    | error violation => exact outcome_eq_error_iff_strays small trace.sorted own

/-- A text with one enqueue each of two actors. -/
def mingledText : List UInt8 :=
  Text.Utf8.encode ("timestamp,actor_id,gen_id,thread_id,eventType\n" ++ "1,1,,main,Enqueue\n" ++
    "2,2,,main,Enqueue\n" ++ "3,,,main,StopSystem\n").toList

/-- The trace it holds. -/
def mingledTrace : Trace :=
  ⟨[⟨1, some 1, none, "main", .enqueue⟩, ⟨2, some 2, none, "main", .enqueue⟩,
    ⟨3, none, none, "main", .stopSystem⟩], by decide⟩

theorem outcome_of_mingledTrace :
    mingledTrace.size < 2 ^ 63 ∧ strays (.actor 1) mingledTrace.events ≠ [] ∧
      outcome (.actor 1) mingledTrace.events ≠
        outcome (.actor 1) ((Grouping.ofEvents mingledTrace.events).traffic (.actor 1)) ∧
      outcome .pool mingledTrace.events =
        outcome .pool ((Grouping.ofEvents mingledTrace.events).traffic .pool) := by
  have small : mingledTrace.size < 2 ^ 63 := by decide
  have stray : strays (.actor 1) mingledTrace.events ≠ [] := by decide
  have own : outcome (.actor 1) ((Grouping.ofEvents mingledTrace.events).traffic (.actor 1)) =
      .ok ⟨.actor 1, [⟨1, 1, 0, 1⟩]⟩ := by
    decide +kernel
  obtain ⟨_, _, harmless⟩ := outcome_of_mingled mingledTrace (.actor 1)
  obtain ⟨_, shared, _⟩ := outcome_of_mingled mingledTrace .pool
  refine ⟨small, stray, ?_, shared fun id => Key.noConfusion⟩
  rw [ne_eq, harmless small, own]
  exact stray

/-- The enqueue of actor 2 makes a row in the series of actor 1. -/
theorem stray_in_mingledTrace :
    Trace.ofCsv mingledText = .ok mingledTrace ∧
      outcome (.actor 1) mingledTrace.events = .ok ⟨.actor 1, [⟨1, 1, 0, 1⟩, ⟨2, 1, 0, 2⟩]⟩ ∧
      outcome (.actor 1) ((Grouping.ofEvents mingledTrace.events).traffic (.actor 1)) =
        .ok ⟨.actor 1, [⟨1, 1, 0, 1⟩]⟩ :=
  ⟨Trace.ofCsv_eq_ok (by decide +kernel), by decide +kernel, by decide +kernel⟩

end QueueDepth.Depth
