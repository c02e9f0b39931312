import QueueDepth.Proofs.Depth.Totals
import QueueDepth.Proofs.Event.Order
import QueueDepth.Proofs.EventCounts
import QueueDepth.Proofs.Report.Outcomes

/-!
# The table of counts as a cross-tabulation

The table of a list of events has a cell for each key and kind with an event, and its rows and columns are
the keys and the kinds that occur. All three are listed in order, and the counts of the cells add up to
the number of events. Nothing of the order of the events is left in it.

* `Tabulates`: what a cross-tabulation is.
* `tabulation`: `ofEvents` makes it, and a report shows it.
-/

namespace QueueDepth

namespace EventCounts

variable {events : List Event} {counts : EventCounts}

/-! ## The order -/

theorem pairwise_entries : counts.entries.Pairwise fun a b => a.1.Before b.1 :=
  Std.ExtTreeMap.ordered_keys_toList.imp Cell.compare_eq_lt_iff.mp

theorem pairwise_occupied : counts.occupied.Pairwise Cell.Before :=
  Std.ExtTreeMap.ordered_keys.imp Cell.compare_eq_lt_iff.mp

theorem nodup_occupied : counts.occupied.Nodup :=
  Ascending.nodup Std.ExtTreeMap.ordered_keys

/-- The cells stand by key, so no key stands behind a later one. -/
theorem pairwise_keys : counts.keys.Pairwise Key.Before := by
  have inOrder : (counts.occupied.map Cell.key).Pairwise fun a b => (compare a b).isLE = true := by
    rw [List.pairwise_map]
    refine pairwise_occupied.imp ?_
    intro cell next before
    cases before with
    | keys before => rw [Key.compare_eq_lt_iff.mpr before]; rfl
    | kinds same _ => rw [same, Std.ReflOrd.compare_self]; rfl
  exact (ascending_dropRepeats inOrder).imp Key.compare_eq_lt_iff.mp

theorem nodup_keys : counts.keys.Nodup :=
  Ascending.nodup (pairwise_keys.imp Key.compare_eq_lt_iff.mpr)

theorem pairwise_kinds : counts.kinds.Pairwise Kind.Before :=
  (ascending_ascending _).imp Kind.compare_eq_lt_iff.mp

/-! ## The sum -/

-- No lemma of the library is about `values`, so both lists are read off the tree.
theorem values_eq_map_snd (cells : Std.ExtTreeMap Cell Nat) :
    cells.values = cells.toList.map Prod.snd := by
  obtain ⟨⟨tree⟩⟩ := cells
  induction tree using Quot.ind with
  | mk tree =>
    change tree.inner.values = (Std.DTreeMap.Internal.Impl.Const.toList tree.inner).map Prod.snd
    rw [Std.DTreeMap.Internal.Impl.values_eq_map_snd,
      Std.DTreeMap.Internal.Impl.Const.toList_eq_toListModel_map, List.map_map]
    rfl

/-- Every event is counted in one cell. -/
theorem total_ofEvents : (ofEvents events).total = events.length := by
  have counted : (ofEvents events).entries.map Prod.snd =
      (ofEvents events).occupied.map (occurrences events) := by
    rw [← map_fst_entries, List.map_map]
    apply List.map_congr_left
    intro entry listed
    exact (mem_entries_ofEvents.mp listed).1
  calc (ofEvents events).total
    _ = ((ofEvents events).entries.map Prod.snd).sum := by
      rw [total, values_eq_map_snd, ← List.sum_eq_foldl_nat, entries]
    _ = ((ofEvents events).occupied.map (occurrences events)).sum := by rw [counted]
    _ = events.countP fun event => Cell.ofEvent event ∈ (ofEvents events).occupied :=
      @sum_countP_label _ _ _ Cell.ofEvent (fun _ => true) _ nodup_occupied events
    _ = events.length := by
      rw [List.countP_eq_length]
      intro event member
      rw [decide_eq_true_eq, ← List.map_id (ofEvents events).occupied, mem_map_occupied_ofEvents]
      exact ⟨event, member, rfl⟩

/-! ## The table -/

/-- What a table of counts has to be to tabulate events by key and kind. -/
structure Tabulates (events : List Event) (counts : EventCounts) : Prop where
  count (key : Key) (kind : Kind) : counts.count key kind =
    events.countP fun event => event.scope = key ∧ event.kind = kind
  /-- Only cells that count something are listed, each with its count. -/
  listed (key : Key) (kind : Kind) (number : Nat) :
    (⟨key, kind⟩, number) ∈ counts.entries ↔ number = counts.count key kind ∧ 0 < number
  entriesInOrder : counts.entries.Pairwise fun a b => a.1.Before b.1
  keysInOrder : counts.keys.Pairwise Key.Before
  mem_keys (key : Key) : key ∈ counts.keys ↔ ∃ event ∈ events, event.scope = key
  kindsInOrder : counts.kinds.Pairwise Kind.Before
  mem_kinds (kind : Kind) : kind ∈ counts.kinds ↔ ∃ event ∈ events, event.kind = kind
  total : counts.total = events.length

theorem tabulates_ofEvents (events : List Event) : Tabulates events (ofEvents events) where
  count key kind := by
    rw [count_ofEvents, occurrences]
    simp only [Cell.ofEvent, Cell.mk.injEq]
  listed key kind number := by rw [mem_entries_ofEvents, count_ofEvents]
  entriesInOrder := pairwise_entries
  keysInOrder := pairwise_keys
  mem_keys _ := mem_keys_ofEvents
  kindsInOrder := pairwise_kinds
  mem_kinds _ := mem_kinds_ofEvents
  total := total_ofEvents

/-- The table of a list of events is its cross-tabulation, the same in whatever order they stand. The
table in a report is that of the trace, and adds up to the records in the report. -/
theorem tabulation (events : List Event) :
    Tabulates events (ofEvents events) ∧
      (∀ others, others.Perm events → ofEvents others = ofEvents events) ∧
      ∀ trace selection report, Report.ofTrace trace selection = .ok report →
        Tabulates trace.events report.counts ∧ report.counts.total = report.records := by
  refine ⟨tabulates_ofEvents events, ?_, ?_⟩
  · intro others rearranged
    exact ofEvents_congr fun cell => rearranged.countP_eq _
  · intro trace selection report ok
    obtain ⟨stop, _, rfl⟩ := Report.of_ofTrace_eq_ok ok
    exact ⟨tabulates_ofEvents trace.events, total_ofEvents⟩

/-- A trace with unknown names in two cells. -/
def namedTrace : Trace :=
  ⟨[⟨1, some 10, none, "main", .other "Zap"⟩, ⟨2, none, none, "main", .poolEnqueue⟩,
    ⟨4, some 2, none, "main", .other "Abc"⟩, ⟨4, some 10, some 1, "main", .other "Zap"⟩,
    ⟨9, some 2, none, "main", .stopSystem⟩], by decide⟩

theorem tabulation_of_namedTrace :
    namedTrace.events.reverse.Perm namedTrace.events ∧
      ofEvents namedTrace.events.reverse = ofEvents namedTrace.events ∧
      ∃ report, Report.ofTrace namedTrace .all = .ok report ∧
        report.counts.count (.actor 10) (.other "Zap") = 2 ∧ Key.system ∈ report.counts.keys ∧
        report.records = 5 ∧ report.counts.total = report.records := by
  have ok : Report.ofTrace namedTrace .all = .ok (Report.made namedTrace .all 9) :=
    Report.ofTrace_eq_ok rfl
  obtain ⟨_, rearranged, reported⟩ := tabulation namedTrace.events
  obtain ⟨table, sum⟩ := reported namedTrace .all _ ok
  refine ⟨List.reverse_perm _, rearranged _ (List.reverse_perm _), _, ok, ?_, ?_, rfl, sum⟩
  · rw [table.count]
    decide
  · rw [table.mem_keys]
    exact ⟨⟨9, some 2, none, "main", .stopSystem⟩, by decide, rfl⟩

end EventCounts

end QueueDepth
