import QueueDepth.Number.Unsigned
import QueueDepth.Settings
import QueueDepth.Terminal.Style
import QueueDepth.Text.Pieces

/-!
# Command lines

What a command line asks for. Options have long names behind two hyphens, and some have a letter
behind one; letters may be joined. The value of an option is joined to it or is the next argument, as
long as that does not look like an option itself. Behind a lone pair of hyphens nothing is an option.

Arguments are taken one after the other. The value of an option, and the operand, are read only once
the argument behind them is taken up; an argument that nobody expects is reported before that.

* `Request.ofArguments`: what a command line asks for.
-/

namespace QueueDepth.Command

/-! ## Parameters -/

/-- What a command line can set. -/
inductive Parameter where
  | trace
  | actors
  | format
  | abortOnViolation
  | config
  | verbose
  | help
  | version
  deriving DecidableEq

namespace Parameter

/-- How a parameter is shown in messages. -/
def label : Parameter → String
  | trace => "[TRACE]"
  | actors => "--actor <ID>"
  | format => "--format <FORMAT>"
  | abortOnViolation => "--abort-on-violation"
  | config => "--config <PATH>"
  | verbose => "--verbose..."
  | help => "--help"
  | version => "--version"

/-- The option of a long name. -/
def ofName? (name : String) : Option Parameter :=
  [("actor", actors), ("format", format), ("abort-on-violation", abortOnViolation),
    ("config", config), ("verbose", verbose), ("help", help), ("version", version)].lookup name

/-- The option of a letter. -/
def ofLetter? (letter : Char) : Option Parameter :=
  [('a', actors), ('v', verbose), ('h', help), ('V', version)].lookup letter

/-- Whether a parameter has a value. -/
def hasValue : Parameter → Bool
  | trace | actors | format | config => true
  | abortOnViolation | verbose | help | version => false

end Parameter

/-! ## Requests -/

/-- What a run is asked to do. -/
structure Request where
  /-- The file with the trace; the input of the program if there is none. -/
  trace : Option String := none
  /-- The selected actors; without any, the settings decide. -/
  actors : List Nat := []
  format : Option Format := none
  abortOnViolation : Bool := false
  /-- The file with the settings. -/
  config : Option String := none
  /-- How often more log entries were asked for. -/
  verbosity : Nat := 0
  deriving DecidableEq

/-- Why a command line asks for nothing. -/
inductive UsageFault where
  | noValue (parameter : Parameter)
  | badValue (parameter : Parameter) (value : String)
  | badActor (value : String) (fault : Number.UnsignedFault)
  | repeated (parameter : Parameter)
  /-- A value is joined to an option that has none. -/
  | needlessValue (parameter : Parameter) (value : String)
  | unexpected (argument : String)
  deriving DecidableEq

namespace UsageFault

/-- What is at fault, in single quotation marks. -/
def blamed (text : String) : String :=
  "'" ++ Terminal.styled "33" "0" text ++ "'"

/-- A parameter that is not at fault, in single quotation marks. -/
def mentioned (parameter : Parameter) : String :=
  "'" ++ Terminal.styled "1" "0" parameter.label ++ "'"

/-- The wording of a fault, in styles. -/
def message : UsageFault → String
  | noValue parameter =>
    "a value is required for " ++ blamed parameter.label ++ " but none was supplied"
  | badValue parameter value => "invalid value " ++ blamed value ++ " for " ++ mentioned parameter
  | badActor value fault =>
    "invalid value " ++ blamed value ++ " for " ++ mentioned .actors ++ ": " ++ fault.message
  | repeated parameter =>
    "the argument " ++ blamed parameter.label ++ " cannot be used multiple times"
  | needlessValue parameter value =>
    "unexpected value " ++ blamed value ++ " for " ++ mentioned parameter
      ++ " found; no more were expected"
  | unexpected argument => "unexpected argument " ++ blamed argument ++ " found"

/-- The line that reports a fault. -/
def report (fault : UsageFault) : String :=
  Terminal.styled "1m\x1b[31" "0" "error:" ++ " " ++ fault.message ++ "\n"

end UsageFault

/-- What a command line comes to if it asks for no run. -/
inductive Detour where
  | fault (fault : UsageFault)
  | help
  | version
  deriving DecidableEq

/-- Something read from arguments, unless they ask for no run. -/
abbrev Reading (α : Type) := Except Detour α

/-! ## Values -/

/-- Take a value for a parameter that may have one only once. -/
def once {α : Type} (parameter : Parameter) (earlier : Option α) (value : Reading α) :
    Reading (Option α) :=
  if earlier.isSome then .error (.fault (.repeated parameter)) else value.map some

/-- Read the path that is the value of a parameter. -/
def readPath (parameter : Parameter) (value : String) : Reading String :=
  if value.isEmpty then .error (.fault (.noValue parameter)) else .ok value

/-- Read the name of a format. -/
def readFormat (value : String) : Reading Format :=
  match Format.ofName? value with
  | some format => .ok format
  | none =>
    .error (.fault (if value.isEmpty then .noValue .format else .badValue .format value))

/-- Read an actor id. -/
def readActorId (value : String) : Reading Nat :=
  (Number.readUnsigned value.toList).mapError fun fault => .fault (.badActor value fault)

namespace Request

/-- Take up the value of a parameter. -/
def setValue (request : Request) (parameter : Parameter) (value : String) : Reading Request :=
  match parameter with
  | .trace => do
    return { request with trace := ← once .trace request.trace (readPath .trace value) }
  | .actors => do
    return { request with actors := request.actors ++ (← (Text.pieces ',' value).mapM readActorId) }
  | .format => do
    return { request with format := ← once .format request.format (readFormat value) }
  | .config => do
    return { request with config := ← once .config request.config (readPath .config value) }
  | parameter => .error (.fault (.needlessValue parameter value))

/-- Take up an option without a value. -/
def setFlag (request : Request) (parameter : Parameter) : Reading Request :=
  match parameter with
  | .abortOnViolation =>
    if request.abortOnViolation then .error (.fault (.repeated .abortOnViolation))
    else .ok { request with abortOnViolation := true }
  | .verbose => .ok { request with verbosity := request.verbosity + 1 }
  | .help => .error .help
  | .version => .error .version
  | parameter => .error (.fault (.noValue parameter))

end Request

/-! ## Arguments -/

/-- A command line of which some arguments are taken. -/
structure Progress where
  request : Request := {}
  /-- The parameter that was taken last, if its value is not read yet; the value is still to come if
  there is none. -/
  pending : Option (Parameter × Option String) := none
  /-- Whether all further arguments are operands. -/
  operandsOnly : Bool := false
  /-- Whether there has been an operand. -/
  operandSeen : Bool := false

namespace Progress

/-- Read the value that is pending. -/
def settle (progress : Progress) : Reading Progress :=
  match progress.pending with
  | none => .ok progress
  | some (parameter, none) => .error (.fault (.noValue parameter))
  | some (parameter, some value) => do
    return { progress with
      request := ← progress.request.setValue parameter value
      pending := none }

/-- Take an operand. -/
def takeOperand (progress : Progress) (argument : String) : Reading Progress :=
  if progress.operandSeen then .error (.fault (.unexpected argument))
  else do
    return { ← progress.settle with
      pending := some (.trace, some argument)
      operandSeen := true }

/-- Take an option that may have a value joined to it. -/
def takeOption (progress : Progress) (parameter : Parameter) (joined : Option String) :
    Reading Progress :=
  match parameter.hasValue, joined with
  | true, some value => do
    let progress ← progress.settle
    return { progress with request := ← progress.request.setValue parameter value }
  | true, none => do
    return { ← progress.settle with pending := some (parameter, none) }
  | false, some value => .error (.fault (.needlessValue parameter value))
  | false, none => do
    let progress ← progress.settle
    return { progress with request := ← progress.request.setFlag parameter }

/-- Take an option by its long name, which may have a value behind an equality sign. -/
def takeLong (progress : Progress) (text : List Char) : Reading Progress :=
  let name := String.ofList (text.takeWhile (· ≠ '='))
  let joined :=
    match text.dropWhile (· ≠ '=') with
    | [] => none
    | _ :: value => some (String.ofList value)
  match Parameter.ofName? name with
  | some parameter => progress.takeOption parameter joined
  | none => .error (.fault (.unexpected ("--" ++ name)))

/-- The value that is joined to a letter. An equality sign in between does not belong to it. -/
def joinedValue? : List Char → Option String
  | [] => none
  | '=' :: value => some (String.ofList value)
  | value => some (String.ofList value)

/-- Take options by their letters. One that has a value takes the rest of the letters as such. -/
def takeLetters (progress : Progress) : List Char → Reading Progress
  | [] => .ok progress
  | letter :: rest =>
    match Parameter.ofLetter? letter with
    | none => .error (.fault (.unexpected ("-" ++ letter.toString)))
    | some parameter =>
      if parameter.hasValue then progress.takeOption parameter (joinedValue? rest)
      else do takeLetters (← progress.takeOption parameter none) rest

/-- Take an argument that is no option: the value that is to come, or an operand. -/
def takePlain (progress : Progress) (argument : String) : Reading Progress :=
  match progress.pending with
  | some (parameter, none) => .ok { progress with pending := some (parameter, some argument) }
  | _ => progress.takeOperand argument

/-- Take an argument. -/
def take (progress : Progress) (argument : String) : Reading Progress :=
  if progress.operandsOnly then progress.takeOperand argument
  else
    match argument.toList with
    | ['-', '-'] => .ok { progress with operandsOnly := true }
    | '-' :: '-' :: text => progress.takeLong text
    | '-' :: letter :: rest => progress.takeLetters (letter :: rest)
    | _ => progress.takePlain argument

end Progress

/-- What a command line asks for. -/
def Request.ofArguments (arguments : List String) : Reading Request := do
  let progress ← arguments.foldlM Progress.take {}
  return (← progress.settle).request

end QueueDepth.Command
