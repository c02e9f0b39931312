import QueueDepth.Proofs.EventCounts
import QueueDepth.Proofs.Json
import QueueDepth.Proofs.Report.Significance
import QueueDepth.Proofs.Trace.Canonical
import QueueDepth.Report.Json

/-!
# Reports can be read back from JSON

The JSON of a report tells all that the report holds: reports of loaded traces with the same text are
equal (`Report.eq_of_render_json`). Keys have different labels. Kinds have different names as long as no
unknown kind bears a name of the vocabulary, and a trace that is read from a text has no such kind.
-/

namespace QueueDepth

open Json

/-! ## Names -/

namespace Key

/-- The first letter of the label of a key. -/
def initial : Key → Char
  | actor _ => 'a'
  | pool => 'p'
  | system => 's'

theorem head?_label (key : Key) : key.label.toList.head? = some key.initial := by
  cases key with
  | actor id => simp [label, initial, String.toList_append]
  | pool => rfl
  | system => rfl

theorem label_injective : Function.Injective label := by
  intro a b same
  have first : a.initial = b.initial := by
    rw [← Option.some_inj, ← head?_label, ← head?_label, same]
  cases a with
  | actor i =>
    cases b with
    | actor j =>
      have digits : i.repr.toList = j.repr.toList := by
        simpa [label, String.toList_append, ← String.toList_inj] using same
      rw [Nat.repr_inj.mp (String.toList_inj.mp digits)]
    | pool => simp [initial] at first
    | system => simp [initial] at first
  | pool =>
    cases b with
    | actor j => simp [initial] at first
    | pool => rfl
    | system => simp [initial] at first
  | system =>
    cases b with
    | actor j => simp [initial] at first
    | pool => simp [initial] at first
    | system => rfl

end Key

/-! ## Parts of a report -/

theorem Json.nat_injective : Function.Injective nat := by
  intro a b same
  exact Int.ofNat.inj (number.inj same)

theorem Json.nat?_injective : Function.Injective nat? := by
  rintro (_ | a) (_ | b) same
  · rfl
  · cases same
  · cases same
  · rw [nat_injective same]

theorem Json.list_map_eq_iff {α : Type} {f : α → Json} (inj : Function.Injective f) {xs ys : List α} :
    list (xs.map f) = list (ys.map f) ↔ xs = ys := by
  rw [list.injEq, (List.map_injective_iff.mpr inj).eq_iff]

/-- A list is determined by images that tell its members apart. -/
theorem eq_of_map_eq {α β : Type} {f : α → β} {xs ys : List α}
    (inj : ∀ a ∈ xs, ∀ b ∈ ys, f a = f b → a = b) (same : xs.map f = ys.map f) : xs = ys := by
  induction xs generalizing ys with
  | nil => exact (List.map_eq_nil_iff.mp same.symm).symm
  | cons x xs ih =>
    cases ys with
    | nil => cases same
    | cons y ys =>
      obtain ⟨head, tail⟩ := List.cons.inj same
      rw [inj x (by simp) y (by simp) head,
        ih (fun a ha b hb => inj a (by simp [ha]) b (by simp [hb])) tail]

theorem Depth.Row.json_injective : Function.Injective Depth.Row.json := by
  rintro ⟨_, _, _, _⟩ ⟨_, _, _, _⟩ same
  simpa [Depth.Row.json, nat_injective.eq_iff] using same

theorem Restart.json_injective : Function.Injective Restart.json := by
  rintro ⟨_, _⟩ ⟨_, _⟩ same
  simpa [Restart.json, nat_injective.eq_iff, nat?_injective.eq_iff] using same

theorem Track.json_injective : Function.Injective Track.json := by
  rintro ⟨⟨_, _⟩, _⟩ ⟨⟨_, _⟩, _⟩ same
  simpa [Track.json, Track.key, Track.rows, Key.label_injective.eq_iff,
    list_map_eq_iff Depth.Row.json_injective,
    list_map_eq_iff Restart.json_injective, and_assoc] using same

theorem Timeline.json_injective : Function.Injective Timeline.json := by
  rintro ⟨_, _, _, _⟩ ⟨_, _, _, _⟩ same
  simpa [Timeline.json, nat_injective.eq_iff,
    list_map_eq_iff Track.json_injective] using same

theorem Depth.Violation.json_injective : Function.Injective Depth.Violation.json := by
  rintro ⟨_, _, _, _⟩ ⟨_, _, _, _⟩ same
  simpa [Depth.Violation.json, nat_injective.eq_iff, Key.label_injective.eq_iff,
    list_map_eq_iff Depth.Row.json_injective] using same

namespace EventCounts

/-- Every kind that is counted is that of its name. -/
def Readable (counts : EventCounts) : Prop :=
  ∀ entry ∈ counts.entries, entry.1.kind.Readable

theorem readable_ofEvents {events : List Event} (named : ∀ event ∈ events, event.kind.Readable) :
    (ofEvents events).Readable := by
  intro entry listed
  obtain ⟨event, member, owned⟩ := exists_entry_ofEvents_iff.mp ⟨entry.2, listed⟩
  rw [← owned]
  exact named event member

theorem eq_of_json {counts others : EventCounts} (known : counts.Readable) (known' : others.Readable)
    (same : counts.json = others.json) : counts = others := by
  have entries : counts.entries = others.entries := by
    refine eq_of_map_eq ?_ (list.inj same)
    rintro ⟨⟨key, kind⟩, count⟩ here ⟨⟨key', kind'⟩, count'⟩ there equal
    simp only [object.injEq, List.cons.injEq, Prod.mk.injEq, true_and, and_true, text.injEq,
      Key.label_injective.eq_iff, nat_injective.eq_iff] at equal
    obtain ⟨rfl, name, rfl⟩ := equal
    have kinds : kind = kind' := Kind.Readable.eq (known _ here) (known' _ there) name
    rw [kinds]
  cases counts
  cases others
  exact congrArg EventCounts.mk (Std.ExtTreeMap.toList_inj.mp entries)

end EventCounts

namespace Report

theorem eq_of_json {report other : Report} (known : report.counts.Readable)
    (known' : other.counts.Readable) (same : report.json = other.json) : report = other := by
  obtain ⟨_, _, _, _, _, counts⟩ := report
  obtain ⟨_, _, _, _, _, counts'⟩ := other
  simp only [Report.json, object.injEq, List.cons.injEq, Prod.mk.injEq, true_and,
    nat_injective.eq_iff, Timeline.json_injective.eq_iff,
    list_map_eq_iff Depth.Violation.json_injective] at same
  obtain ⟨rfl, rfl, rfl, rfl, rfl, summary, _⟩ := same
  have all : counts = counts' := EventCounts.eq_of_json known known' summary
  rw [all]

variable {text text' : List UInt8} {trace trace' : Trace} {selection selection' : Selection}
  {report report' : Report}

theorem readable_counts (loaded : Trace.ofCsv text = .ok trace)
    (ok : ofTrace trace selection = .ok report) : report.counts.Readable := by
  obtain ⟨stop, _, rfl⟩ := of_ofTrace_eq_ok ok
  exact EventCounts.readable_ofEvents fun event member => (Trace.canonical_of_mem loaded member).kind

/-- Reports of loaded traces that are written as the same JSON text are equal in all that they hold,
whatever actors they are about. -/
theorem eq_of_render_json (loaded : Trace.ofCsv text = .ok trace)
    (loaded' : Trace.ofCsv text' = .ok trace') (ok : ofTrace trace selection = .ok report)
    (ok' : ofTrace trace' selection' = .ok report') (same : report.json.render = report'.json.render) :
    report = report' :=
  eq_of_json (readable_counts loaded ok) (readable_counts loaded' ok') (render_injective same)

/-- A text with an event whose name holds quotation marks and a backslash. -/
def spokenText : List UInt8 :=
  Text.Utf8.encode ("timestamp,actor_id,gen_id,thread_id,eventType\n" ++ "5,0,,main,Enqueue\n" ++
    "6,0,1,main,Restart\n" ++ "7,,,main,\"say \"\"hi\"\"\\\"\n" ++ "9,,,main,StopSystem\n").toList

/-- The trace it holds. -/
def spokenTrace : Trace :=
  ⟨[⟨5, some 0, none, "main", .enqueue⟩, ⟨6, some 0, some 1, "main", .restart⟩,
    ⟨7, none, none, "main", .other "say \"hi\"\\"⟩, ⟨9, none, none, "main", .stopSystem⟩], by decide⟩

/-- The same events on other threads, under a header in another order. -/
def echoedText : List UInt8 :=
  Text.Utf8.encode ("eventType,thread_id,gen_id,actor_id,timestamp\n" ++ "Enqueue,a,,0,5\n" ++
    "Restart,b,1,0,6\n" ++ "\"say \"\"hi\"\"\\\",c,,,7\n" ++ "StopSystem,d,,,9\n").toList

/-- The trace it holds. -/
def echoedTrace : Trace :=
  ⟨[⟨5, some 0, none, "a", .enqueue⟩, ⟨6, some 0, some 1, "b", .restart⟩,
    ⟨7, none, none, "c", .other "say \"hi\"\\"⟩, ⟨9, none, none, "d", .stopSystem⟩], by decide⟩

theorem ofCsv_spokenText : Trace.ofCsv spokenText = .ok spokenTrace :=
  Trace.ofCsv_eq_ok (by decide +kernel)

theorem ofCsv_echoedText : Trace.ofCsv echoedText = .ok echoedTrace :=
  Trace.ofCsv_eq_ok (by decide +kernel)

/-- The threads and the order of the columns are not in a report, and here both selections come to the
same keys. -/
theorem made_spokenTrace : made spokenTrace .all 9 = made echoedTrace (.only [0]) 9 := by
  have counts : EventCounts.ofEvents spokenTrace.events = .ofEvents echoedTrace.events :=
    counts_congr (by decide)
  rw [made, made, counts, Report.mk.injEq]
  exact ⟨rfl, by decide +kernel, by decide +kernel, rfl, by decide, rfl⟩

theorem eq_of_render_spokenTrace :
    Trace.ofCsv spokenText = .ok spokenTrace ∧ Trace.ofCsv echoedText = .ok echoedTrace ∧
      ∃ report other, ofTrace spokenTrace .all = .ok report ∧
        ofTrace echoedTrace (.only [0]) = .ok other ∧ report.json.render = other.json.render ∧
        report = other := by
  have ok : ofTrace spokenTrace .all = .ok (made spokenTrace .all 9) := ofTrace_eq_ok rfl
  have ok' : ofTrace echoedTrace (.only [0]) = .ok (made echoedTrace (.only [0]) 9) :=
    ofTrace_eq_ok rfl
  have same := congrArg (fun report => report.json.render) made_spokenTrace
  exact ⟨ofCsv_spokenText, ofCsv_echoedText, _, _, ok, ok', same,
    eq_of_render_json ofCsv_spokenText ofCsv_echoedText ok ok' same⟩

end Report

end QueueDepth
