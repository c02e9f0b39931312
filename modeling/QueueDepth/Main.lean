import QueueDepth.Command

/-!
# The program

Reads what a run depends on, and writes what it leaves behind.
-/

namespace QueueDepth

open Command

/-- The environment variables that matter. -/
def variableNames : List String :=
  ["HOME", "XDG_CONFIG_HOME", "MAILSCOPE_CONFIG_PATH", "NO_COLOR", "CLICOLOR_FORCE", "RUST_LOG",
    "RUST_LOG_STYLE"]

/-- The number of the user, as the system notes it down for a program that runs. -/
def readUser : IO (Option String) := do
  let lines ← IO.FS.lines "/proc/self/status"
  return lines.findSome? fun line =>
    match Text.pieces '\t' line with
    | "Uid:" :: number :: _ => some number
    | _ => none

/-- Read the home directory in the list of users. -/
def readListedHome : IO (Option String) := do
  try
    let some number ← readUser | return none
    return Environment.homeOf? number (← IO.FS.readFile "/etc/passwd")
  catch _ =>
    return none

/-- Read the environment. -/
def readEnvironment : IO Environment := do
  let values ← variableNames.mapM fun name => do return (name, ← IO.getEnv name)
  return { value? := fun name => (values.lookup name).join, listedHome := ← readListedHome }

/-- Why something cannot be opened or read. -/
def faultOfError (error : IO.Error) : FileFault :=
  match error with
  | .noFileOrDirectory .. => .notFound
  | .inappropriateType _ 21 _ => .isADirectory
  | .inappropriateType .. => .notADirectory
  | .permissionDenied .. => .accessDenied
  | .invalidArgument .. => .nameTooLong
  | error => .other (toString error)

/-- Open and read what stands at a path. If it does not open, the path may still lead somewhere. -/
def readEntry (path : String) : IO (Except FileFault Entry) := do
  match ← (IO.FS.Handle.mk path .read).toBaseIO with
  | .ok handle =>
    match ← handle.readBinToEnd.toBaseIO with
    | .ok content => return .ok (.file content.toList)
    | .error (.inappropriateType _ 21 _) => return .ok .directory
    | .error error => return .ok (.broken (faultOfError error))
  | .error error =>
    match ← (IO.FS.realPath path).toBaseIO with
    | .ok _ => return .ok (.closed (faultOfError error))
    | .error _ => return .error (faultOfError error)

/-- Read the files that a run may open. -/
def readFiles (request : Request) (environment : Environment) : IO Files := do
  let config := (Location.find? request.config environment).map Location.path
  let entries ← (config.toList ++ request.trace.toList).mapM fun path => do
    return (path, ← readEntry path)
  return fun path => (entries.lookup path).getD (.error .notFound)

/-- Read a stream to its end. -/
partial def readToEnd (stream : IO.FS.Stream) (before : ByteArray) : IO ByteArray := do
  let bytes ← stream.read 65536
  if bytes.isEmpty then return before else readToEnd stream (before ++ bytes)

/-- Read the input of the program, if a run needs it. -/
def readInput (request : Request) : IO (Option (List UInt8)) := do
  if (request.trace.filter (!namesInput ·)).isSome then return some []
  let stream ← IO.getStdin
  if ← stream.isTty then return none
  return some (← readToEnd stream .empty).toList

/-- Find out what a run finds around it. -/
def readSurroundings (arguments : List String) : IO Surroundings := do
  let environment ← readEnvironment
  match Request.ofArguments arguments with
  | .error _ => return ⟨environment, fun _ => .error .notFound, none⟩
  | .ok request =>
    return ⟨environment, ← readFiles request environment, ← readInput request⟩

end QueueDepth

/-- Perform the command. -/
def main (arguments : List String) : IO UInt32 := do
  let transcript := QueueDepth.Command.perform arguments (← QueueDepth.readSurroundings arguments)
  (← IO.getStderr).putStr transcript.messages
  (← IO.getStdout).putStr transcript.output
  return transcript.exit.toUInt32
