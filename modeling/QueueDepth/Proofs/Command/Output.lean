import QueueDepth.Proofs.Command.Status
import QueueDepth.Proofs.Report.JsonText

/-!
# What comes out of a report

A run with a report writes it to the standard output, which loses what plain output loses. All that a
report can lose are characters in the names of kinds: control characters and escape sequences in its text,
and in its JSON only the delete character. So the report comes out as it is exactly if colours are kept
or no event of the trace has such a name (`output_of_accepted`).
-/

namespace QueueDepth.Command

variable {arguments : List String} {request : Request} {around : Surroundings} {settings : Settings}
  {trace : Trace} {selection : Selection} {format : Format} {report : Report} {colour : Bool}

/-! ## Reports -/

/-- The names of kinds in a trace hold nothing that a report in a format loses. -/
def Legible (trace : Trace) : Format → Prop
  | .text => ∀ event ∈ trace.events, Terminal.Printable event.kind.name
  | .json => ∀ event ∈ trace.events, '\x7f' ∉ event.kind.name.toList

theorem printable_writeReport_iff (made : Report.ofTrace trace selection = .ok report)
    (format : Format) :
    Terminal.Printable (writeReport format report) ↔ Legible trace format := by
  obtain ⟨stop, _, rfl⟩ := Report.of_ofTrace_eq_ok made
  have kinds {p : Kind → Prop} : (∀ kind ∈ (Report.made trace selection stop).counts.kinds, p kind) ↔
      ∀ event ∈ trace.events, p event.kind := by
    simp only [Report.made, EventCounts.mem_kinds_ofEvents]
    exact ⟨fun all event member => all _ ⟨event, member, rfl⟩,
      fun all kind ⟨event, member, same⟩ => same ▸ all event member⟩
  cases format with
  | text => exact Report.printable_text_iff.trans kinds
  | json => exact Report.printable_json_iff.trans kinds

theorem printed_writeReport_eq_iff (made : Report.ofTrace trace selection = .ok report)
    (format : Format) :
    printed colour (writeReport format report) = writeReport format report ++ "\n" ↔
      colour = true ∨ Legible trace format := by
  have joined : writeReport format report ++ "\n" = String.join [writeReport format report, "\n"] := by
    simp [String.join]
  have ended : Terminal.Printable "\n" := by decide
  rw [printed, joined, Terminal.shown_eq_join_iff, ← printable_writeReport_iff made format]
  simp [ended]

/-! ## Runs -/

theorem output_ofRun (result : (run request around).result = .ok (format, report)) :
    (Transcript.ofRun request around).output =
      printed (Terminal.keepsColour around.environment) (writeReport format report) := by
  change outputOf _ (run request around).result = _
  rw [result]
  rfl

theorem exists_report_of_accepted (accepted : Request.ofArguments arguments = .ok request)
    (done : (perform arguments around).exit = 0 ∨ (perform arguments around).exit = 2) :
    ∃ settings trace report, Ready request around settings trace ∧
      Report.ofTrace trace (Choices.of request settings).selection = .ok report ∧
      (perform arguments around).output = printed (Terminal.keepsColour around.environment)
        (writeReport (Choices.of request settings).format report) := by
  rw [perform_of_accepted accepted] at done ⊢
  have finished : exitStatus (run request around).result ≠ 1 := by
    intro one
    have exit : (Transcript.ofRun request around).exit = 1 := one
    omega
  obtain ⟨made, result⟩ := exists_result_of_exitStatus finished
  obtain ⟨settings, trace, report, ready, ok, rfl⟩ := exists_report_of_result result
  exact ⟨settings, trace, report, ready, ok, output_ofRun result⟩

/-- What the program writes to the standard output where its exit status is 0 or 2: the report of the
trace that it is given, less what plain output loses. This is the whole report, and a line end, exactly
if colours are kept or the report is legible. -/
theorem output_of_accepted (accepted : Request.ofArguments arguments = .ok request)
    (done : (perform arguments around).exit = 0 ∨ (perform arguments around).exit = 2) :
    ∃ settings trace report, Ready request around settings trace ∧
      Report.ofTrace trace (Choices.of request settings).selection = .ok report ∧
      (perform arguments around).output =
        Terminal.shown (Terminal.keepsColour around.environment)
          [writeReport (Choices.of request settings).format report, "\n"] ∧
      ((perform arguments around).output =
          writeReport (Choices.of request settings).format report ++ "\n" ↔
        Terminal.keepsColour around.environment = true ∨
          Legible trace (Choices.of request settings).format) := by
  obtain ⟨settings, trace, report, ready, made, output⟩ := exists_report_of_accepted accepted done
  rw [output]
  exact ⟨settings, trace, report, ready, made, rfl, printed_writeReport_eq_iff made _⟩

/-! ## A name with an escape sequence -/

/-- A text with an event whose name switches to red. -/
def reddenedText : List UInt8 :=
  Text.Utf8.encode ("timestamp,actor_id,gen_id,thread_id,eventType\n" ++ "1,,,t,Cache\x1b[31mMiss\n" ++
    "2,,,t,StopSystem\n").toList

/-- The trace it holds. -/
def reddenedTrace : Trace :=
  ⟨[⟨1, none, none, "t", .other "Cache\x1b[31mMiss"⟩, ⟨2, none, none, "t", .stopSystem⟩], by decide⟩

/-- That text as the input of a program with no environment and no files. -/
def reddenedInput : Surroundings :=
  ⟨{ value? := fun _ => none }, fun _ => .error .notFound, some reddenedText⟩

theorem ready_reddenedInput (format : Option Format) :
    Ready { format } reddenedInput {} reddenedTrace where
  settled := .nowhere
  fed := .input (fun path named => by cases named) rfl (Trace.ofCsv_eq_ok (by decide +kernel))
  stopped := by decide

/-- Keys without events are not overdrawn. -/
theorem not_overdrawn_of_unowned {key : Key} (unowned : ∀ event ∈ trace.events, event.scope ≠ key) :
    ¬ Report.Overdrawn trace key := by
  intro overdrawn
  obtain ⟨instant, below⟩ := overdrawn
  have none : (trace.events.filter fun event => event.scope = key) = [] := by
    rw [List.filter_eq_nil_iff]
    intro event member
    simpa using unowned event member
  rw [none, Depth.level, Depth.movedBy, Depth.movedBy, List.countP_nil, List.countP_nil] at below
  exact absurd below (by decide)

theorem sound_reddenedTrace (format : Option Format) : Sound { format } {} reddenedTrace := by
  intro key asked
  apply not_overdrawn_of_unowned
  intro event member owned
  have system : event.scope = .system := by
    simp only [reddenedTrace, List.mem_cons, List.not_mem_nil, or_false] at member
    rcases member with rfl | rfl <;> rfl
  rw [← owned, system] at asked
  cases asked

theorem exit_reddenedInput {format : Option Format}
    (accepted : Request.ofArguments arguments = .ok { format }) :
    (perform arguments reddenedInput).exit = 0 := by
  rw [perform_of_accepted accepted]
  exact exitStatus_eq_zero_iff.mpr ⟨_, _, ready_reddenedInput format, sound_reddenedTrace format⟩

theorem output_reddenedInput_json :
    Request.ofArguments ["--format", "json"] = .ok { format := some .json } ∧
      (perform ["--format", "json"] reddenedInput).exit = 0 ∧
      ∃ report, Report.ofTrace reddenedTrace .all = .ok report ∧
        (perform ["--format", "json"] reddenedInput).output = report.json.render ++ "\n" := by
  have accepted : Request.ofArguments ["--format", "json"] = .ok { format := some .json } := by decide
  have zero := exit_reddenedInput accepted
  obtain ⟨settings, trace, report, ready, made, _, whole⟩ := output_of_accepted accepted (.inl zero)
  obtain ⟨rfl, rfl⟩ := (ready_reddenedInput (some .json)).unique ready
  have legible : Legible reddenedTrace .json := by
    unfold Legible
    decide
  exact ⟨accepted, zero, report, made, whole.mpr (.inr legible)⟩

/-- The text of the same report lacks the escape sequence where it comes out. -/
theorem output_reddenedInput_text :
    Request.ofArguments [] = .ok {} ∧ (perform [] reddenedInput).exit = 0 ∧
      ∃ report, Report.ofTrace reddenedTrace .all = .ok report ∧
        (perform [] reddenedInput).output ≠ report.text ++ "\n" := by
  have accepted : Request.ofArguments [] = .ok {} := by decide
  have zero := exit_reddenedInput accepted
  have illegible : ¬ Legible reddenedTrace .text := by
    unfold Legible
    decide
  obtain ⟨settings, trace, report, ready, made, output⟩ := exists_report_of_accepted accepted (.inl zero)
  obtain ⟨rfl, rfl⟩ := (ready_reddenedInput none).unique ready
  refine ⟨accepted, zero, report, made, ?_⟩
  rw [output]
  intro whole
  rcases (printed_writeReport_eq_iff made .text).mp whole with colour | legible
  · cases colour
  · exact illegible legible

end QueueDepth.Command
