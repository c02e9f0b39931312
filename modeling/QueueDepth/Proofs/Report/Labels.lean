import QueueDepth.Proofs.Report.Accounting
import QueueDepth.Proofs.Report.Json
import QueueDepth.Proofs.Report.Tabulation

/-!
# Labels tell keys and kinds apart

A report prints a key by its label and a kind by its name. Labels are different for different keys, and
so are names for the kinds of a loaded trace. What the table of counts lists once is therefore printed
once, and so is a key among the tracks and violations of a report.

* `EventCounts.Readable.nodup_labels`, `EventCounts.Readable.nodup_names`: the table of counts.
* `Report.nodup_labels`: the tracks and the violations.
* `Report.labels_unambiguous`: whatever is shown of a loaded trace.
-/

namespace QueueDepth

/-- The texts under which a cell is printed. -/
def Cell.labels (cell : Cell) : String × String :=
  (cell.key.label, cell.kind.name)

namespace EventCounts

variable {counts : EventCounts}

theorem Readable.of_mem_occupied (known : counts.Readable) {cell : Cell}
    (member : cell ∈ counts.occupied) : cell.kind.Readable := by
  rw [← map_fst_entries] at member
  obtain ⟨entry, listed, rfl⟩ := List.mem_map.mp member
  exact known entry listed

/-- No two entries are printed under the same texts. -/
theorem Readable.nodup_labels (known : counts.Readable) :
    (counts.entries.map fun entry => entry.1.labels).Nodup := by
  have cells : (counts.entries.map fun entry => entry.1.labels) =
      counts.occupied.map Cell.labels := by
    rw [← map_fst_entries, List.map_map]
    rfl
  rw [cells]
  refine nodup_occupied.map_on ?_
  intro cell here other there same
  obtain ⟨label, name⟩ := Prod.mk.inj same
  have key := Key.label_injective label
  have kind := (known.of_mem_occupied here).eq (known.of_mem_occupied there) name
  cases cell
  cases other
  exact congrArg₂ Cell.mk key kind

/-- No two kinds are printed under the same name. -/
theorem Readable.nodup_names (known : counts.Readable) : (counts.kinds.map Kind.name).Nodup := by
  refine (Ascending.nodup (ascending_ascending _)).map_on ?_
  intro kind here other there same
  obtain ⟨entry, listed, rfl⟩ := mem_kinds_iff.mp here
  obtain ⟨next, listed', rfl⟩ := mem_kinds_iff.mp there
  exact (known entry listed).eq (known next listed') same

end EventCounts

namespace Report

/-- The keys that a report shows: of tracks, of violations and of counts. -/
def shownKeys (report : Report) : List Key :=
  report.timeline.tracks.map Track.key ++ report.violations.map Depth.Violation.key ++
    report.counts.keys

variable {trace : Trace} {selection : Selection} {report : Report}

theorem nodup_keys (ok : ofTrace trace selection = .ok report) :
    (report.timeline.tracks.map Track.key ++
      report.violations.map Depth.Violation.key).Nodup := by
  obtain ⟨stop, _, rfl⟩ := of_ofTrace_eq_ok ok
  exact keys_perm.nodup_iff.mpr Selection.ascending_keys.nodup

/-- No two tracks or violations are printed under the same label. -/
theorem nodup_labels (ok : ofTrace trace selection = .ok report) :
    (report.timeline.tracks.map (fun track => track.key.label) ++
      report.violations.map fun violation => violation.key.label).Nodup := by
  have labels := (nodup_keys ok).map Key.label_injective
  rwa [List.map_append, List.map_map, List.map_map] at labels

/-- The events of a loaded trace have canonical form. In the counts of the trace, no two entries are
printed under the same pair of label and name, and no two kinds under the same name. A report shows these
counts, no two of its tracks and violations are printed under the same label, nor are two keys of its
counts, and keys that it shows anywhere under the same label are equal. -/
theorem labels_unambiguous {text : List UInt8} (loaded : Trace.ofCsv text = .ok trace) :
    (∀ event ∈ trace.events, event.Canonical) ∧
    ((EventCounts.ofEvents trace.events).entries.map fun entry =>
      (entry.1.key.label, entry.1.kind.name)).Nodup ∧
    ((EventCounts.ofEvents trace.events).kinds.map Kind.name).Nodup ∧
    ∀ selection report, ofTrace trace selection = .ok report →
      report.counts = .ofEvents trace.events ∧
      (report.timeline.tracks.map (fun track => track.key.label) ++
        report.violations.map fun violation => violation.key.label).Nodup ∧
      (report.counts.keys.map Key.label).Nodup ∧
      ∀ key ∈ report.shownKeys, ∀ other ∈ report.shownKeys, key.label = other.label → key = other := by
  have canonical := fun event (member : event ∈ trace.events) => Trace.canonical_of_mem loaded member
  have known : (EventCounts.ofEvents trace.events).Readable :=
    EventCounts.readable_ofEvents fun event member => (canonical event member).kind
  refine ⟨canonical, known.nodup_labels, known.nodup_names, ?_⟩
  intro selection report ok
  refine ⟨?_, nodup_labels ok, EventCounts.nodup_keys.map Key.label_injective, ?_⟩
  · obtain ⟨stop, _, rfl⟩ := of_ofTrace_eq_ok ok
    rfl
  · intro key _ other _ same
    exact Key.label_injective same

/-- A text with blank margins around its fields, of plain blanks and of others. -/
def paddedText : List UInt8 :=
  Text.Utf8.encode ("timestamp,actor_id,gen_id,thread_id,eventType\n" ++ "5,0,, main\t, Enqueue \n" ++
    "6,10,,worker 1,\u00a0 enqueue\u2003\n" ++ "9,0,,,StopSystem\n").toList

/-- The trace it holds. -/
def paddedTrace : Trace :=
  ⟨[⟨5, some 0, none, "main", .enqueue⟩, ⟨6, some 10, none, "worker 1", .other "enqueue"⟩,
    ⟨9, some 0, none, "", .stopSystem⟩], by decide⟩

theorem labels_of_paddedText :
    Trace.ofCsv paddedText = .ok paddedTrace ∧
      Event.Canonical ⟨6, some 10, none, "worker 1", .other "enqueue"⟩ ∧
      ∃ report, ofTrace paddedTrace .all = .ok report ∧
        report.counts = .ofEvents paddedTrace.events ∧
        (report.timeline.tracks.map fun track => track.key.label) =
          ["actor 0", "actor 10", "pool"] ∧
        (report.counts.keys.map Key.label).Nodup := by
  have loaded : Trace.ofCsv paddedText = .ok paddedTrace := Trace.ofCsv_eq_ok (by decide +kernel)
  have ok : ofTrace paddedTrace .all = .ok (made paddedTrace .all 9) := ofTrace_eq_ok rfl
  obtain ⟨canonical, _, _, shown⟩ := labels_unambiguous loaded
  obtain ⟨counts, _, keys, _⟩ := shown .all _ ok
  exact ⟨loaded, canonical _ (by decide), _, ok, counts, by decide +kernel, keys⟩

end Report

end QueueDepth
