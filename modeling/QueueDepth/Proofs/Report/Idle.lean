import QueueDepth.Proofs.Depth.Checked
import QueueDepth.Proofs.Report.Tabulation

/-!
# Idle actors

The actors that own an event are listed by the grouping, are keys of the table of counts, and the last of
them is the highest actor of the trace. Between zero and the highest there are one more actors than its
number, so those that were observed are at most as many, and the rest is what `Selection.idle` counts. It
takes one from the observed before it takes them from the highest, and so words suffice for every highest
actor there can be.

* `Ascending.countP_range_add_length`: the numbers up to the last one that are not listed.
* `Selection.checkedIdle_eq_some`: the count with checked words.
* `idle_is_exact`: the count of a trace.
-/

namespace QueueDepth

/-! ## Ascending numbers -/

namespace Ascending

variable {items others : List Nat} {last : Nat} (ascends : Ascending items)

include ascends

theorem le_getLast? (ends : items.getLast? = some last) : ∀ n ∈ items, n ≤ last := by
  have order := ascending_iff_lt.mp ascends
  obtain ⟨before, split⟩ := List.getLast?_eq_some_iff.mp ends
  intro n member
  rw [split] at order member
  rcases List.mem_append.mp member with early | final
  · exact ((List.pairwise_append.mp order).2.2 n early last List.mem_cons_self).le
  · rw [List.mem_singleton.mp final]

/-- The last of ascending numbers is the greatest, in whatever order they are looked through. -/
theorem getLast?_eq_max? (same : ∀ n, n ∈ items ↔ n ∈ others) : items.getLast? = others.max? := by
  cases ends : items.getLast? with
  | none =>
    rw [List.getLast?_eq_none_iff.mp ends] at same
    have empty : others = [] := List.eq_nil_iff_forall_not_mem.mpr fun n member => by
      cases (same n).mpr member
    rw [empty]
    rfl
  | some last =>
    symm
    rw [List.max?_eq_some_iff]
    refine ⟨(same last).mp (List.mem_of_getLast? ends), ?_⟩
    intro n member
    exact ascends.le_getLast? ends n ((same n).mpr member)

/-- Each number up to the last is listed once or not at all. -/
theorem countP_range_add_length (ends : items.getLast? = some last) :
    ((List.range (last + 1)).countP fun n => n ∉ items) + items.length = last + 1 := by
  have listed : ((List.range (last + 1)).filter fun n => n ∈ items).Perm items := by
    rw [List.perm_ext_iff_of_nodup (List.nodup_range.filter _) ascends.nodup]
    intro n
    rw [List.mem_filter, List.mem_range, decide_eq_true_eq]
    refine ⟨And.right, fun member => ⟨?_, member⟩⟩
    exact Nat.lt_succ_of_le (ascends.le_getLast? ends n member)
  have parts := List.length_eq_countP_add_countP (fun n => decide (n ∈ items))
    (l := List.range (last + 1))
  rw [List.length_range, List.countP_eq_length_filter, listed.length_eq] at parts
  simp only [decide_eq_true_eq] at parts
  omega

end Ascending

/-! ## Three views of the actors -/

theorem Event.actor_of_scope {event : Event} {id : Nat} (owned : event.scope = .actor id) :
    event.actor = some id := by
  unfold scope at owned
  split at owned
  · cases owned
  · cases owned
  · cases owned
  · split at owned
    · cases owned
      assumption
    · cases owned

/-- The actors that the grouping of a trace knows. -/
def Trace.actors (trace : Trace) : List Nat :=
  (Grouping.ofEvents trace.events).actorIds

theorem Key.actor?_eq_some_iff {key : Key} {id : Nat} : key.actor? = some id ↔ key = .actor id := by
  cases key <;> simp [actor?]

namespace Trace

variable {trace : Trace}

theorem ascending_actors : Ascending trace.actors :=
  Grouping.ascending_actorIds

theorem mem_actors_iff {id : Nat} :
    id ∈ trace.actors ↔ ∃ event ∈ trace.events, event.scope = .actor id :=
  Grouping.mem_actorIds_ofEvents

/-- The table of counts has the same actors, in the same order. -/
theorem filterMap_keys_eq_actors :
    (EventCounts.ofEvents trace.events).keys.filterMap Key.actor? = trace.actors := by
  have ascends : Ascending ((EventCounts.ofEvents trace.events).keys.filterMap Key.actor?) := by
    rw [ascending_iff_lt, List.pairwise_filterMap]
    refine EventCounts.pairwise_keys.imp ?_
    intro key other before id here next there
    rw [Key.actor?_eq_some_iff] at here there
    rw [here, there] at before
    cases before
    assumption
  refine ascends.eq_of_mem_iff ascending_actors ?_
  intro id
  rw [mem_actors_iff, ← EventCounts.mem_keys_ofEvents, List.mem_filterMap]
  simp only [Key.actor?_eq_some_iff, exists_eq_right]

/-- The highest actor of a trace is the last that the grouping lists. -/
theorem getLast?_actors : trace.actors.getLast? = trace.highestActor? := by
  refine ascending_actors.getLast?_eq_max? ?_
  intro id
  simp only [mem_actors_iff, List.mem_filterMap, Key.actor?_eq_some_iff]

theorem length_actors_le : trace.actors.length ≤ trace.size := by
  have inside : trace.actors ⊆ trace.events.filterMap fun event => event.scope.actor? := by
    intro id member
    rw [List.mem_filterMap]
    simpa only [Key.actor?_eq_some_iff] using mem_actors_iff.mp member
  calc trace.actors.length
    _ ≤ (trace.events.filterMap fun event => event.scope.actor?).length :=
      (List.subperm_of_subset ascending_actors.nodup inside).length_le
    _ ≤ trace.size := List.length_filterMap_le _ _

end Trace

/-! ## The count -/

/-- One word taken from another that is not less. -/
def less? (a b : UInt64) : Option UInt64 :=
  if b ≤ a then some (a - b) else none

theorem less?_ofNat {a b : Nat} (fits : a < 2 ^ 64) (notMore : b ≤ a) :
    less? (.ofNat a) (.ofNat b) = some (.ofNat (a - b)) := by
  have order : UInt64.ofNat b ≤ UInt64.ofNat a := by
    rw [UInt64.le_iff_toNat_le, UInt64.toNat_ofNat_of_lt' fits,
      UInt64.toNat_ofNat_of_lt' (Nat.lt_of_le_of_lt notMore fits)]
    exact notMore
  rw [less?, if_pos order, UInt64.ofNat_sub notMore]

namespace Selection

/-- `idle` with words, unless a number does not fit or more is taken than there is. -/
def checkedIdle (selection : Selection) (grouping : Grouping) : Option UInt64 :=
  match selection with
  | all => do
    let observed ← Depth.word? grouping.actorIds.length
    match grouping.actorIds.getLast? with
    | some highest => less? (← Depth.word? highest) (← less? observed 1)
    | none => some 0
  | only _ => some 0

theorem idle_all_of_none {trace : Trace} (empty : trace.actors = []) :
    all.idle (.ofEvents trace.events) = 0 := by
  have top : (Grouping.ofEvents trace.events).actorIds.getLast? = none :=
    List.getLast?_eq_none_iff.mpr empty
  simp only [idle, top]

theorem idle_all_of_some {trace : Trace} {highest : Nat}
    (top : trace.actors.getLast? = some highest) :
    all.idle (.ofEvents trace.events) = highest - (trace.actors.length - 1) := by
  rw [Trace.actors] at top
  simp only [idle, top]
  rfl

/-- The actors up to the highest are idle or observed. -/
theorem countP_add_length_actors {trace : Trace} {highest : Nat}
    (top : trace.actors.getLast? = some highest) :
    ((List.range (highest + 1)).countP fun id => ∀ event ∈ trace.events, event.scope ≠ .actor id) +
      trace.actors.length = highest + 1 := by
  have unseen (id : Nat) :
      id ∉ trace.actors ↔ ∀ event ∈ trace.events, event.scope ≠ .actor id := by
    rw [Trace.mem_actors_iff, not_exists]
    exact forall_congr' fun event => not_and
  simp only [← unseen]
  exact Trace.ascending_actors.countP_range_add_length top

/-- The count is never above the highest actor. -/
theorem idle_all_lt {trace : Trace} {bound : Nat} (positive : 0 < bound)
    (below : ∀ id ∈ trace.actors, id < bound) : all.idle (.ofEvents trace.events) < bound := by
  cases top : trace.actors.getLast? with
  | none =>
    rw [idle_all_of_none (List.getLast?_eq_none_iff.mp top)]
    exact positive
  | some highest =>
    rw [idle_all_of_some top]
    exact Nat.lt_of_le_of_lt (Nat.sub_le _ _) (below highest (List.mem_of_getLast? top))

/-- Where the actors and their number fit into words, so does everything on the way to the count. -/
theorem checkedIdle_eq_some {trace : Trace} (few : trace.actors.length < 2 ^ 64)
    (fit : ∀ id ∈ trace.actors, id < 2 ^ 64) :
    all.checkedIdle (.ofEvents trace.events) = some (.ofNat (all.idle (.ofEvents trace.events))) := by
  unfold checkedIdle
  rw [← Trace.actors]
  cases top : trace.actors.getLast? with
  | none =>
    rw [idle_all_of_none (List.getLast?_eq_none_iff.mp top), Depth.word?_of_lt few]
    rfl
  | some highest =>
    have member := List.mem_of_getLast? top
    have every := countP_add_length_actors top
    have first : less? (.ofNat trace.actors.length) 1 =
        some (.ofNat (trace.actors.length - 1)) :=
      less?_ofNat few (List.length_pos_of_mem member)
    simp only [Depth.word?_of_lt few, Depth.word?_of_lt (fit highest member), Option.bind_eq_bind,
      Option.bind_some, first, idle_all_of_some top]
    exact less?_ofNat (fit highest member) (by omega)

end Selection

/-- The grouping and the table of counts list the same actors, and the last of them is the highest of the
trace. If there is one, all actors up to it are observed or idle, and those that are idle own no event; if
there is none, nothing is idle. With actors that fit into words no step of the count goes out of them, up
to the greatest actor that there can be. -/
theorem idle_is_exact (trace : Trace) :
    trace.actors = (EventCounts.ofEvents trace.events).keys.filterMap Key.actor? ∧
    trace.actors.getLast? = trace.highestActor? ∧
    (trace.actors = [] → Selection.all.idle (.ofEvents trace.events) = 0) ∧
    (∀ highest, trace.highestActor? = some highest →
      1 ≤ trace.actors.length ∧ trace.actors.length - 1 ≤ highest ∧
      Selection.all.idle (.ofEvents trace.events) = highest - (trace.actors.length - 1) ∧
      Selection.all.idle (.ofEvents trace.events) + trace.actors.length = highest + 1 ∧
      Selection.all.idle (.ofEvents trace.events) = (List.range (highest + 1)).countP fun id =>
        ∀ event ∈ trace.events, event.scope ≠ .actor id) ∧
    (∀ report, Report.ofTrace trace .all = .ok report →
      report.idleActors = Selection.all.idle (.ofEvents trace.events)) ∧
    (trace.size < 2 ^ 64 → (∀ event ∈ trace.events, ∀ id, event.actor = some id → id < 2 ^ 64) →
      ∃ count, Selection.all.checkedIdle (.ofEvents trace.events) = some count ∧
        count.toNat = Selection.all.idle (.ofEvents trace.events)) := by
  refine ⟨Trace.filterMap_keys_eq_actors.symm, Trace.getLast?_actors, Selection.idle_all_of_none, ?_,
    ?_, ?_⟩
  · intro highest top
    rw [← Trace.getLast?_actors] at top
    have taken := Selection.idle_all_of_some top
    have every := Selection.countP_add_length_actors top
    have observed := List.length_pos_of_mem (List.mem_of_getLast? top)
    refine ⟨observed, by omega, taken, by omega, by omega⟩
  · intro report ok
    obtain ⟨stop, _, rfl⟩ := Report.of_ofTrace_eq_ok ok
    rfl
  · intro small fit
    have few : trace.actors.length < 2 ^ 64 := Nat.lt_of_le_of_lt Trace.length_actors_le small
    have words : ∀ id ∈ trace.actors, id < 2 ^ 64 := by
      intro id member
      obtain ⟨event, inside, owned⟩ := Trace.mem_actors_iff.mp member
      exact fit event inside id (Event.actor_of_scope owned)
    refine ⟨_, Selection.checkedIdle_eq_some few words, UInt64.toNat_ofNat_of_lt' ?_⟩
    exact Selection.idle_all_lt (by decide) words

/-- Two actors, the other one of them the highest that there can be. -/
def farTrace : Trace :=
  ⟨[⟨1, some 18446744073709551615, some 0, "t", .register⟩,
    ⟨2, some 18446744073709551615, some 0, "t", .enqueue⟩, ⟨3, some 7, some 0, "t", .enqueue⟩,
    ⟨9, none, none, "t", .stopSystem⟩], by decide⟩

theorem idle_of_farTrace :
    farTrace.actors = [7, 18446744073709551615] ∧
      ∃ count, Selection.all.checkedIdle (.ofEvents farTrace.events) = some count ∧
        count.toNat = 18446744073709551614 ∧
        ∃ report, Report.ofTrace farTrace .all = .ok report ∧ report.idleActors = count.toNat := by
  have actors : farTrace.actors = [7, 18446744073709551615] := by decide +kernel
  have highest : farTrace.highestActor? = some 18446744073709551615 := by decide +kernel
  have ok : Report.ofTrace farTrace .all = .ok (Report.made farTrace .all 9) :=
    Report.ofTrace_eq_ok rfl
  obtain ⟨_, _, _, top, reported, words⟩ := idle_is_exact farTrace
  obtain ⟨_, _, taken, _⟩ := top _ highest
  obtain ⟨count, fits, value⟩ := words (by decide) (by decide)
  have known : count.toNat = 18446744073709551614 := by
    rw [value, taken, actors]
    rfl
  exact ⟨actors, count, fits, known, _, ok, (reported _ ok).trans value.symm⟩

end QueueDepth
