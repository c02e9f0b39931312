import QueueDepth.Files
import QueueDepth.Trace.Reading

/-!
# Opening traces

A trace file that cannot be opened is a fault of its own. Whatever goes wrong while it is read is a
defect of the trace; what can be opened but not read, as a directory, has no line at fault.
-/

namespace QueueDepth

/-- Why there is no trace at a path. -/
inductive TraceFault where
  | unopened (path : String) (fault : FileFault)
  | malformed (rejected : Malformed)

/-- The message that reports a missing trace, without the cause behind it. -/
def TraceFault.message : TraceFault → String
  | unopened path _ => "failed to read " ++ path
  | malformed rejected => rejected.message

/-- The cause behind the message. -/
def TraceFault.cause? : TraceFault → Option String
  | unopened _ fault => some fault.message
  | malformed _ => none

/-- The trace in a file. -/
def Trace.ofFile (files : Files) (path : String) : Except TraceFault Trace :=
  match files path with
  | .error fault | .ok (.closed fault) => .error (.unopened path fault)
  | .ok entry =>
    match entry.bytes with
    | .error fault => .error (.malformed ⟨0, .unreadable fault.message⟩)
    | .ok content => (Trace.ofCsv content).mapError .malformed

end QueueDepth
