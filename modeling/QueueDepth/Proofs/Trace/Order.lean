import Mathlib.Data.List.Basic
import Mathlib.Data.List.Pairwise
import QueueDepth.Proofs.Arrangement
import QueueDepth.Trace

/-!
# The order of a trace

A trace holds the events of its log in timestamp order, those of one timestamp in the order of the log.
These two facts determine a list of events. So leaving events out of a log leaves them out of its trace,
and moves no other.

* `Trace.filter_timestamp_ofLog`: the events of one timestamp keep their order.
* `Trace.events_ofLog_filter`: sorting and leaving out can be exchanged.
-/

namespace QueueDepth.Trace

theorem notAfter_iff {a b : Event} : notAfter a b = true ↔ a.timestamp ≤ b.timestamp := by
  rw [notAfter, decide_eq_true_eq]

/-- A trace is in order already. -/
theorem ofLog_events (trace : Trace) : ofLog trace.events = trace := by
  obtain ⟨events, sorted⟩ := trace
  have same : (ofLog events).events = events :=
    List.mergeSort_of_pairwise (sorted.imp notAfter_iff.mpr)
  rw [Trace.mk.injEq]
  exact same

theorem perm_ofLog (log : List Event) : (ofLog log).events.Perm log :=
  List.mergeSort_perm log notAfter

theorem filter_timestamp_ofLog (log : List Event) (instant : Nat) :
    (ofLog log).events.filter (fun event => event.timestamp = instant) =
      log.filter fun event => event.timestamp = instant :=
  filter_mergeSort_by log instant

section Classes

variable {events others : List Event}

theorem mem_iff_of_filter_timestamp
    (same : ∀ instant, events.filter (fun event => event.timestamp = instant) =
      others.filter fun event => event.timestamp = instant) {event : Event} :
    event ∈ events ↔ event ∈ others := by
  have both := congrArg (event ∈ ·) (same event.timestamp)
  simpa using both

theorem timestamp_le_of_mem {first event : Event}
    (sorted : (first :: events).Pairwise fun a b => a.timestamp ≤ b.timestamp)
    (member : event ∈ first :: events) : first.timestamp ≤ event.timestamp := by
  rcases List.mem_cons.mp member with rfl | later
  · exact Nat.le_refl _
  · exact (List.pairwise_cons.mp sorted).1 event later

/-- Events in timestamp order are determined by those of each timestamp. -/
theorem eq_of_filter_timestamp
    (sorted : events.Pairwise fun a b => a.timestamp ≤ b.timestamp)
    (otherSorted : others.Pairwise fun a b => a.timestamp ≤ b.timestamp)
    (same : ∀ instant, events.filter (fun event => event.timestamp = instant) =
      others.filter fun event => event.timestamp = instant) : events = others := by
  induction events generalizing others with
  | nil =>
    cases others with
    | nil => rfl
    | cons other more => cases (mem_iff_of_filter_timestamp same).mpr List.mem_cons_self
  | cons event rest ih =>
    cases others with
    | nil => cases (mem_iff_of_filter_timestamp same).mp List.mem_cons_self
    | cons other more =>
      -- both heads bear the least timestamp of the same events
      have together : other.timestamp = event.timestamp :=
        Nat.le_antisymm
          (timestamp_le_of_mem otherSorted
            ((mem_iff_of_filter_timestamp same).mp List.mem_cons_self))
          (timestamp_le_of_mem sorted ((mem_iff_of_filter_timestamp same).mpr List.mem_cons_self))
      have heads := same event.timestamp
      rw [List.filter_cons_of_pos (by simp), List.filter_cons_of_pos (by simpa using together)]
        at heads
      obtain ⟨rfl, tails⟩ := List.cons.inj heads
      have rest_eq : rest = more := by
        refine ih (List.pairwise_cons.mp sorted).2 (List.pairwise_cons.mp otherSorted).2 ?_
        intro instant
        have whole := same instant
        by_cases now : event.timestamp = instant
        · rw [← now]
          exact tails
        · rwa [List.filter_cons_of_neg (by simpa using now),
            List.filter_cons_of_neg (by simpa using now)] at whole
      rw [rest_eq]

end Classes

/-- Sorting and leaving events out can be exchanged. -/
theorem events_ofLog_filter (keep : Event → Bool) (log : List Event) :
    (ofLog (log.filter keep)).events = (ofLog log).events.filter keep := by
  refine eq_of_filter_timestamp (ofLog _).sorted ((ofLog log).sorted.filter keep) ?_
  intro instant
  rw [filter_timestamp_ofLog, List.filter_comm, List.filter_comm (fun _ => _) keep,
    filter_timestamp_ofLog]

end QueueDepth.Trace
