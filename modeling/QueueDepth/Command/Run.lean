import QueueDepth.Command.Arguments
import QueueDepth.Logging
import QueueDepth.Report
import QueueDepth.Settings.Opening
import QueueDepth.Text.Pieces
import QueueDepth.Trace.Opening

/-!
# Runs

A run loads the settings, then the trace, and makes a report of it. What the command line asks for
outweighs the settings. Every step may fail, which ends the run, and notes down what it does.

* `Choices.of`: the settings and the command line, taken together.
* `run`: a run; `Step.result` is its report, and `Step.log` its log.
-/

namespace QueueDepth.Command

/-! ## Failures -/

/-- Why a run fails. -/
inductive Failure where
  | settings (fault : SettingsFault)
  /-- There is no trace, because the input is a terminal. -/
  | noInput
  | trace (fault : TraceFault)
  | stop (fault : StopFault)
  /-- A key has a violation, and a violation aborts the run. -/
  | violation (violation : Depth.Violation)

namespace Failure

/-- The message that reports a failure, without the cause behind it. -/
def message : Failure → String
  | settings fault => fault.message
  | noInput => "no trace given and stdin is a terminal"
  | trace fault => fault.message
  | stop fault => fault.message
  | violation found => found.message

/-- The cause behind the message. -/
def cause? : Failure → Option String
  | settings fault => fault.cause?
  | trace fault => fault.cause?
  | _ => none

/-- The message and the cause. -/
def report (failure : Failure) : String :=
  ": ".intercalate (failure.message :: failure.cause?.toList)

/-- What a user may do about a failure. -/
def hint? : Failure → Option String
  | settings _ => none
  | noInput => some "Usage: mailscope <TRACE> | mailscope < TRACE"
  | trace (.unopened _ _) => none
  | trace (.malformed _) =>
    some "Expected header: timestamp,actor_id,gen_id,thread_id,eventType"
  | stop _ =>
    some "Depth curves are aligned on one StopSystem event; the trace may be truncated or concatenated"
  | violation _ =>
    some "Drop --abort-on-violation (or set on-violation = \"report\") to see the other keys"

end Failure

/-! ## Steps -/

/-- A step of a run: what it notes down, and what it comes to. -/
structure Step (α : Type) where
  log : List LogEntry
  result : Except Failure α

namespace Step

/-- A step that notes nothing down. -/
def silent {α : Type} (result : Except Failure α) : Step α :=
  ⟨[], result⟩

/-- A step that only notes something down. -/
def note (entries : List LogEntry) : Step Unit :=
  ⟨entries, .ok ()⟩

/-- One step after another. The second is not made if the first fails. -/
def next {α β : Type} (step : Step α) (f : α → Step β) : Step β :=
  match step.result with
  | .error failure => ⟨step.log, .error failure⟩
  | .ok a => ⟨step.log ++ (f a).log, (f a).result⟩

instance : Monad Step where
  pure a := silent (.ok a)
  bind := next

variable {α β : Type}

@[simp] theorem result_pure (a : α) : (pure a : Step α).result = .ok a := rfl

@[simp] theorem result_silent (result : Except Failure α) : (silent result).result = result := rfl

@[simp] theorem result_note (entries : List LogEntry) : (note entries).result = .ok () := rfl

@[simp] theorem result_bind (step : Step α) (f : α → Step β) :
    (step >>= f).result = step.result >>= fun a => (f a).result := by
  rcases step with ⟨log, failure | a⟩ <;> rfl

end Step

/-! ## Choices -/

/-- What a run does with a trace. -/
structure Choices where
  selection : Selection
  format : Format
  policy : Policy

/-- The settings and the command line, taken together. -/
def Choices.of (request : Request) (settings : Settings) : Choices where
  selection := if request.actors.isEmpty then settings.selection else .only request.actors
  format := request.format.getD settings.format
  policy := if request.abortOnViolation then .abort else settings.onViolation

/-! ## The log -/

/-- How a selection is noted down. -/
def describeSelection : Selection → String
  | .all => "All"
  | .only ids => "Ids([" ++ ", ".intercalate (ids.map Nat.repr) ++ "])"

/-- How a policy is noted down. -/
def describePolicy : Policy → String
  | .report => "Report"
  | .abort => "Abort"

/-- That there are no settings. -/
def noteDefaults (path : String) : LogEntry :=
  ⟨.debug, "mailscope::config", "No config at " ++ path ++ ", using defaults"⟩

/-- What a run is going to do. -/
def noteChoices (choices : Choices) : LogEntry :=
  ⟨.debug, "mailscope", "Selection " ++ describeSelection choices.selection ++ ", format "
    ++ choices.format.name ++ ", policy " ++ describePolicy choices.policy⟩

/-- That a trace is loaded. -/
def noteTrace (trace : Trace) : List LogEntry :=
  [⟨.debug, "mailscope::trace::parse", "Loaded " ++ trace.size.repr ++ " trace records"⟩,
    ⟨.info, "mailscope", "Loaded " ++ trace.size.repr ++ " records"⟩]

/-- That the events are split by owner. -/
def noteGrouping (grouping : Grouping) : LogEntry :=
  ⟨.debug, "mailscope::trace::partition", "Partitioned trace: " ++ grouping.actorIds.length.repr
    ++ " actors, " ++ grouping.pool.length.repr ++ " pool events, "
    ++ grouping.stops.length.repr ++ " stop markers"⟩

/-- That a key has a series or a violation. -/
def noteOutcome : Depth.Outcome → LogEntry
  | .ok series =>
    ⟨.debug, "mailscope::trace::depth", series.key.label ++ ": " ++ series.rows.length.repr
      ++ " depth rows"⟩
  | .error violation =>
    ⟨.warn, "mailscope::trace::depth", violation.key.label ++ ": depth "
      ++ toString violation.depth ++ " at " ++ violation.timestamp.repr
      ++ "ms, dequeued more than enqueued"⟩

/-- That the series are aligned. -/
def noteTimeline (timeline : Timeline) : LogEntry :=
  ⟨.debug, "mailscope::trace::align", "Aligned " ++ timeline.tracks.length.repr ++ " series on ["
    ++ timeline.start.repr ++ "ms, " ++ timeline.finish.repr ++ "ms], stop at "
    ++ timeline.stop.repr ++ "ms"⟩

/-- That there are events after the stop. -/
def noteAfterStop (report : Report) : List LogEntry :=
  if report.afterStop = 0 then []
  else
    [⟨.warn, "mailscope::trace::analyze", report.afterStop.repr
      ++ " events logged after StopSystem at " ++ report.timeline.stop.repr ++ "ms"⟩]

/-- That a report is made of outcomes, which are noted down in key order. -/
def noteReport (outcomes : List Depth.Outcome) (report : Report) : List LogEntry :=
  outcomes.map noteOutcome ++ noteTimeline report.timeline :: noteAfterStop report

/-! ## Runs -/

/-- What a run finds around it. -/
structure Surroundings where
  environment : Environment
  files : Files
  /-- The input of the program, unless it is a terminal. -/
  input : Option (List UInt8)

/-- The settings of a run. -/
def loadSettings (request : Request) (around : Surroundings) : Step Settings :=
  match Location.find? request.config around.environment with
  | none => pure {}
  | some location => do
    match ← Step.silent ((Settings.ofFile? around.files location).mapError .settings) with
    | some settings => return settings
    | none => Step.note [noteDefaults location.path]; return {}

/-- A run has the settings that `Settings.load` finds. -/
theorem result_loadSettings (request : Request) (around : Surroundings) :
    (loadSettings request around).result =
      (Settings.load around.files (Location.find? request.config around.environment)).mapError
        .settings := by
  unfold loadSettings Settings.load
  cases Location.find? request.config around.environment with
  | none => rfl
  | some location =>
    cases hfile : Settings.ofFile? around.files location with
    | error fault =>
      simp only [hfile]
      rfl
    | ok found =>
      simp only [hfile]
      cases found <;> rfl

/-- Whether a path stands for the input of the program. -/
def namesInput (path : String) : Bool :=
  match Text.pieces '/' path with
  | "-" :: rest => rest.all fun name => name = "" || name = "."
  | _ => false

/-- The trace of a run. -/
def readTrace (request : Request) (around : Surroundings) : Except Failure Trace :=
  match request.trace.filter (!namesInput ·), around.input with
  | some path, _ => (Trace.ofFile around.files path).mapError .trace
  | none, some input => (Trace.ofCsv input).mapError (.trace ∘ .malformed)
  | none, none => .error .noInput

/-- The report of a run. -/
def makeReport (trace : Trace) (choices : Choices) : Step Report := do
  let grouping := Grouping.ofEvents trace.events
  Step.note [noteGrouping grouping]
  let report ← Step.silent ((Report.ofTrace trace choices.selection).mapError .stop)
  Step.note (noteReport (Report.outcomes grouping choices.selection) report)
  match choices.policy, report.violations with
  | .abort, violation :: _ => Step.silent (.error (.violation violation))
  | _, _ => return report

/-- A run: the report, and the format in which it is written. -/
def run (request : Request) (around : Surroundings) : Step (Format × Report) := do
  let settings ← loadSettings request around
  let choices := Choices.of request settings
  Step.note [noteChoices choices]
  let trace ← Step.silent (readTrace request around)
  Step.note (noteTrace trace)
  let report ← makeReport trace choices
  return (choices.format, report)

end QueueDepth.Command
