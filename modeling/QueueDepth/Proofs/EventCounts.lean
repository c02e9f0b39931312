import Mathlib.Data.List.Basic
import QueueDepth.EventCounts
import QueueDepth.Proofs.Ascending

/-!
# What the table of counts holds

Events are counted one by one. A cell then holds the number of events with its key and kind, and a cell
without events is not there at all. So the table depends only on how many events each cell has.
-/

namespace QueueDepth

namespace EventCounts

variable {events others : List Event} {cell : Cell}

/-- How many events belong to a cell. -/
def occurrences (events : List Event) (cell : Cell) : Nat :=
  events.countP fun event => Cell.ofEvent event = cell

theorem getElem?_add (counts : EventCounts) (event : Event) :
    (counts.add event).cells[cell]? =
      if Cell.ofEvent event = cell then some (counts.cells[cell]?.getD 0 + 1)
      else counts.cells[cell]? := by
  rw [add, Std.ExtTreeMap.getElem?_alter]
  by_cases same : Cell.ofEvent event = cell
  · rw [if_pos same, same, if_pos Std.ReflOrd.compare_self]
  · have differs : ¬ compare (Cell.ofEvent event) cell = .eq :=
      fun h => same (Std.LawfulEqOrd.eq_of_compare h)
    rw [if_neg same, if_neg differs]

/-- Counting goes on from what is counted already. -/
theorem getElem?_foldl_add (events : List Event) (counts : EventCounts) :
    (events.foldl add counts).cells[cell]? =
      if occurrences events cell = 0 then counts.cells[cell]?
      else some (counts.cells[cell]?.getD 0 + occurrences events cell) := by
  induction events generalizing counts with
  | nil => rfl
  | cons event rest ih =>
    rw [List.foldl_cons, ih, getElem?_add]
    by_cases same : Cell.ofEvent event = cell
    · have count : occurrences (event :: rest) cell = occurrences rest cell + 1 := by
        simp [occurrences, same]
      rw [count, if_pos same, if_neg (Nat.succ_ne_zero _)]
      split
      · rename_i none
        rw [none]
      · rw [Option.getD_some]
        congr 1
        omega
    · have count : occurrences (event :: rest) cell = occurrences rest cell := by
        simp [occurrences, same]
      rw [count, if_neg same]

theorem getElem?_ofEvents :
    (ofEvents events).cells[cell]? =
      if occurrences events cell = 0 then none else some (occurrences events cell) := by
  rw [ofEvents, getElem?_foldl_add]
  simp

theorem count_ofEvents (events : List Event) (key : Key) (kind : Kind) :
    (ofEvents events).count key kind = occurrences events ⟨key, kind⟩ := by
  rw [count, Std.ExtTreeMap.getD_eq_getD_getElem?, getElem?_ofEvents]
  split
  · rename_i none
    exact none.symm
  · rfl

/-- A cell is listed with its count, unless it counts nothing. -/
theorem mem_entries_ofEvents {count : Nat} :
    (cell, count) ∈ (ofEvents events).entries ↔ count = occurrences events cell ∧ 0 < count := by
  rw [entries, Std.ExtTreeMap.mem_toList_iff_getElem?_eq_some, getElem?_ofEvents]
  split
  · rename_i none
    simp [none]
  · rename_i some
    rw [Option.some.injEq]
    exact ⟨fun same => ⟨same.symm, by omega⟩, fun same => same.1.symm⟩

/-- The cells that are listed are those of the events. -/
theorem exists_entry_ofEvents_iff :
    (∃ count, (cell, count) ∈ (ofEvents events).entries) ↔
      ∃ event ∈ events, Cell.ofEvent event = cell := by
  calc (∃ count, (cell, count) ∈ (ofEvents events).entries)
    _ ↔ 0 < occurrences events cell := by simp [mem_entries_ofEvents]
    _ ↔ ∃ event ∈ events, Cell.ofEvent event = cell := by
      rw [occurrences, List.countP_pos_iff]
      simp

theorem mem_kinds_iff {counts : EventCounts} {kind : Kind} :
    kind ∈ counts.kinds ↔ ∃ entry ∈ counts.entries, entry.1.kind = kind := by
  rw [kinds, mem_ascending, occupied, ← Std.ExtTreeMap.map_fst_toList_eq_keys, List.map_map,
    List.mem_map]
  rfl

theorem map_fst_entries {counts : EventCounts} : counts.entries.map Prod.fst = counts.occupied :=
  Std.ExtTreeMap.map_fst_toList_eq_keys

/-- What the cells of a table have in one of their parts is what the events have there. -/
theorem mem_map_occupied_ofEvents {β : Type} {part : Cell → β} {b : β} :
    b ∈ (ofEvents events).occupied.map part ↔ ∃ event ∈ events, part (.ofEvent event) = b := by
  rw [← map_fst_entries, List.map_map, List.mem_map]
  constructor
  · intro occurs
    obtain ⟨⟨cell, count⟩, listed, rfl⟩ := occurs
    obtain ⟨event, member, rfl⟩ := exists_entry_ofEvents_iff.mp ⟨count, listed⟩
    exact ⟨event, member, rfl⟩
  · intro occurs
    obtain ⟨event, member, rfl⟩ := occurs
    obtain ⟨count, listed⟩ := exists_entry_ofEvents_iff.mpr ⟨event, member, rfl⟩
    exact ⟨_, listed, rfl⟩

theorem mem_keys_ofEvents {key : Key} :
    key ∈ (ofEvents events).keys ↔ ∃ event ∈ events, event.scope = key := by
  rw [keys, mem_dropRepeats, mem_map_occupied_ofEvents]
  rfl

/-- The kinds that occur are those of the events. -/
theorem mem_kinds_ofEvents {kind : Kind} :
    kind ∈ (ofEvents events).kinds ↔ ∃ event ∈ events, event.kind = kind := by
  rw [kinds, mem_ascending, mem_map_occupied_ofEvents]
  rfl

/-- Tables of equal counts are equal. -/
theorem ofEvents_congr (same : ∀ cell, occurrences events cell = occurrences others cell) :
    ofEvents events = ofEvents others := by
  have cells : (ofEvents events).cells = (ofEvents others).cells := by
    refine Std.ExtTreeMap.ext_getElem? ?_
    intro cell
    rw [getElem?_ofEvents, getElem?_ofEvents, same]
  exact congrArg EventCounts.mk cells

end EventCounts

end QueueDepth
