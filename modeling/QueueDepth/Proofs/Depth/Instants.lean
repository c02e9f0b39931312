import Mathlib.Data.List.SplitBy
import QueueDepth.Depth

/-!
# Groups of one timestamp

`instants` cuts events in timestamp order at each change of the timestamp. Inside a group all events
share their timestamp, and the groups follow one another in strict order. So what happened up to an
instant is made up of whole groups.
-/

namespace QueueDepth.Depth

/-- Events in timestamp order. -/
abbrev InOrder (events : List Event) : Prop :=
  events.Pairwise fun a b => a.timestamp ≤ b.timestamp

@[simp]
theorem flatten_instants (events : List Event) : (instants events).flatten = events :=
  List.flatten_splitBy _ events

theorem ne_nil_of_mem_instants {events group : List Event} (member : group ∈ instants events) :
    group ≠ [] :=
  List.ne_nil_of_mem_splitBy member

/-! ## One group -/

theorem timestamp_eq_of_isChain {event : Event} {more : List Event}
    (chain : (event :: more).IsChain fun a b => (a.timestamp == b.timestamp) = true) :
    ∀ other ∈ more, other.timestamp = event.timestamp := by
  induction more generalizing event with
  | nil =>
    intro other member
    cases member
  | cons next rest ih =>
    obtain ⟨first, later⟩ := List.isChain_cons_cons.mp chain
    have same : event.timestamp = next.timestamp := beq_iff_eq.mp first
    intro other member
    rcases List.mem_cons.mp member with rfl | tail
    · exact same.symm
    · exact (ih later other tail).trans same.symm

/-- The events of one group share the timestamp of its first event. -/
theorem timestamp_eq_of_mem_instants {events more : List Event} {event : Event}
    (member : event :: more ∈ instants events) :
    ∀ other ∈ event :: more, other.timestamp = event.timestamp := by
  intro other inside
  rcases List.mem_cons.mp inside with rfl | tail
  · rfl
  · exact timestamp_eq_of_isChain (List.isChain_of_mem_splitBy member) other tail

/-! ## Groups in order -/

/-- All of one group happens strictly before all of another. -/
def Before (group later : List Event) : Prop :=
  ∀ a ∈ group, ∀ b ∈ later, a.timestamp < b.timestamp

/-- Two neighbouring groups in order, told apart by the last event of the one and the first of the
other, leave every event of the one strictly before all that follow. -/
theorem lt_of_cut {group next : List Event} {rest : List (List Event)}
    (sorted : InOrder (group ++ (next :: rest).flatten))
    (cut : ∃ ha hb, ((group.getLast ha).timestamp == (next.head hb).timestamp) = false) :
    ∀ a ∈ group, ∀ b ∈ (next :: rest).flatten, a.timestamp < b.timestamp := by
  intro a inside b later
  obtain ⟨nonempty, nextNonempty, differs⟩ := cut
  rw [beq_eq_false_iff_ne] at differs
  obtain ⟨groupSorted, restSorted, across⟩ := List.pairwise_append.mp sorted
  have headMember : next.head nextNonempty ∈ (next :: rest).flatten :=
    List.mem_flatten.mpr ⟨next, by simp, List.head_mem _⟩
  have toLast : a.timestamp ≤ (group.getLast nonempty).timestamp := by
    rw [← List.dropLast_append_getLast nonempty] at inside groupSorted
    rcases List.mem_append.mp inside with early | last
    · exact (List.pairwise_append.mp groupSorted).2.2 a early _ (by simp)
    · rw [List.mem_singleton.mp last]
  have fromHead : (next.head nextNonempty).timestamp ≤ b.timestamp := by
    rw [List.flatten_cons, ← List.cons_head_tail nextNonempty, List.cons_append] at later restSorted
    rcases List.mem_cons.mp later with rfl | tail
    · rfl
    · exact (List.pairwise_cons.mp restSorted).1 b tail
  have lastToHead := across _ (List.getLast_mem nonempty) _ headMember
  omega

theorem pairwise_before_of_cut {groups : List (List Event)} (sorted : InOrder groups.flatten)
    (cut : groups.IsChain fun a b =>
      ∃ ha hb, ((a.getLast ha).timestamp == (b.head hb).timestamp) = false) :
    groups.Pairwise Before := by
  induction groups with
  | nil => exact .nil
  | cons group rest ih =>
    rw [List.flatten_cons] at sorted
    refine List.Pairwise.cons ?_ (ih (List.pairwise_append.mp sorted).2.1 cut.tail)
    intro later member a inside b laterInside
    cases rest with
    | nil => cases member
    | cons next more =>
      exact lt_of_cut sorted (List.isChain_cons_cons.mp cut).1 a inside b
        (List.mem_flatten.mpr ⟨later, member, laterInside⟩)

/-- The groups of events in timestamp order follow one another strictly. -/
theorem pairwise_before_instants {events : List Event} (sorted : InOrder events) :
    (instants events).Pairwise Before := by
  refine pairwise_before_of_cut ?_
    (List.isChain_getLast_head_splitBy (fun a b => a.timestamp == b.timestamp) events)
  rw [flatten_instants]
  exact sorted

end QueueDepth.Depth
