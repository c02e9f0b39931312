import QueueDepth.Command.Run
import QueueDepth.Report.Json
import QueueDepth.Report.Text
import QueueDepth.Terminal.Style

/-!
# The command

What the program does with its arguments: it writes the report of a run, and messages about how the
run went.

* `Transcript.ofRun`: what a run writes.
* `perform`: what the program writes, and its exit status.
-/

namespace QueueDepth.Command

/-- What the program leaves behind. -/
structure Transcript where
  exit : Nat
  /-- What is written to the standard output. -/
  output : String
  /-- What is written to the standard error output. -/
  messages : String

/-! ## Runs -/

/-- A report in a format. -/
def writeReport (format : Format) (report : Report) : String :=
  match format with
  | .text => report.text
  | .json => report.json.render

/-- The message about violations that a report holds. -/
def violationMessage (count : Nat) : String :=
  Terminal.warningMessage (count.repr ++ (if count = 1 then " key" else " keys")
    ++ " violated the queue-depth invariant")

/-- The messages about how a run went. -/
def closingMessages : Except Failure (Format × Report) → List String
  | .ok (_, report) => if report.isClean then [] else [violationMessage report.violations.length]
  | .error failure =>
    Terminal.errorMessage failure.report :: (failure.hint?.map Terminal.hintMessage).toList

/-- The exit status of a run: 0 if all is well, 2 if the report holds violations, 1 if there is no
report. -/
def exitStatus : Except Failure (Format × Report) → Nat
  | .ok (_, report) => if report.isClean then 0 else 2
  | .error _ => 1

/-- A text as a line of its own. -/
def printed (colour : Bool) (text : String) : String :=
  Terminal.shown colour [text, "\n"]

/-- What is written to the standard output. -/
def outputOf (colour : Bool) : Except Failure (Format × Report) → String
  | .ok (format, report) => printed colour (writeReport format report)
  | .error _ => ""

/-- What a run writes. -/
def Transcript.ofRun (request : Request) (around : Surroundings) : Transcript :=
  let colour := Terminal.keepsColour around.environment
  let (filter, faults) := LogFilter.choose around.environment request.verbosity
  let step := run request around
  { exit := exitStatus step.result
    output := outputOf colour step.result
    messages :=
      String.join (faults.map (·.warning ++ "\n"))
        ++ String.join ((step.log.filter filter.shows).map
          (LogEntry.line (coloursLog around.environment)))
        ++ String.join ((closingMessages step.result).map (printed colour)) }

/-! ## The program -/

/-- How the program is used. -/
def helpText : String :=
  "Reconstruct actor mailbox and worker-pool queue depth from a runtime trace

Usage: mailscope [OPTIONS] [TRACE]

Arguments:
  [TRACE]  Trace CSV to analyze (`-` or nothing reads stdin)

Options:
  -a, --actor <ID>          Actor ids to reconstruct (default: every id up to the highest seen)
      --format <FORMAT>     Output format [possible values: text, json]
      --abort-on-violation  Fail on the first key whose queue depth goes negative
      --config <PATH>       Config file (default: $MAILSCOPE_CONFIG_PATH or the platform config dir)
  -v, --verbose...          Raise log verbosity (-v info, -vv debug, -vvv trace)
  -h, --help                Print help
  -V, --version             Print version
"

/-- The name and the version of the program. -/
def versionText : String :=
  "mailscope 0.1.0\n"

/-- What the program writes, and its exit status. -/
def perform (arguments : List String) (around : Surroundings) : Transcript :=
  match Request.ofArguments arguments with
  | .ok request => .ofRun request around
  | .error .help => ⟨0, helpText, ""⟩
  | .error .version => ⟨0, versionText, ""⟩
  | .error (.fault fault) =>
    ⟨2, "", Terminal.shown (Terminal.keepsColour around.environment) [fault.report]⟩

end QueueDepth.Command
