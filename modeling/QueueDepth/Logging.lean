import QueueDepth.Environment
import QueueDepth.Pattern.Meaning
import QueueDepth.Pattern.Search
import QueueDepth.Terminal.Colour
import QueueDepth.Text.Blank
import QueueDepth.Text.Pieces

/-!
# Logging

A log entry has a level and a target, the part of the program that it is about. A filter decides which
entries are shown. It is written as directives, parted by commas: a level, a target, or a target and
its level. Of the directives for a target the one that names most of it counts. A pattern behind a slash
must occur in the entries that are shown.

* `LogFilter.ofSpec`: the filter that a text describes, and what is wrong with the text.
* `LogEntry.line`: the line that shows an entry.
-/

namespace QueueDepth

/-! ## Entries -/

/-- How much an entry matters. -/
inductive Level where
  | error
  | warn
  | info
  | debug
  | trace
  deriving DecidableEq

namespace Level

/-- The levels by name, the weightiest first. -/
def name : Level → String
  | error => "ERROR"
  | warn => "WARN"
  | info => "INFO"
  | debug => "DEBUG"
  | trace => "TRACE"

/-- How many levels are at least as weighty. -/
def detail : Level → Nat
  | error => 1
  | warn => 2
  | info => 3
  | debug => 4
  | trace => 5

/-- The name in five columns. -/
def column (level : Level) : String :=
  level.name ++ if level.name.length < 5 then " " else ""

/-- The style of the name. -/
def style : Level → String
  | error => "1m\x1b[31"
  | warn => "33"
  | info => "32"
  | debug => "34"
  | trace => "36"

end Level

/-- Something that a run notes down. -/
structure LogEntry where
  level : Level
  target : String
  text : String
  deriving DecidableEq

/-! ## Filters -/

/-- How detailed the entries of some targets may be, from 0 for none at all to 5. -/
structure Directive where
  /-- The start of the targets that are meant; all of them if there is none. -/
  target : Option String
  detail : Nat
  deriving DecidableEq

/-- Which entries are shown. -/
structure LogFilter where
  directives : List Directive
  /-- A pattern that must occur in the entries. -/
  pattern : Option Pattern

/-- Whether a directive is about a target. -/
def Directive.covers (directive : Directive) (target : String) : Bool :=
  directive.target.all fun start => start.toList.isPrefixOf target.toList

/-- How much of a target a directive names. -/
def Directive.reach (directive : Directive) : Nat :=
  (directive.target.map String.utf8ByteSize).getD 0

/-- Whether an entry is shown. -/
def LogFilter.shows (filter : LogFilter) (entry : LogEntry) : Bool :=
  let ordered := filter.directives.mergeSort fun a b => a.reach ≤ b.reach
  (match ordered.reverse.find? (·.covers entry.target) with
    | some directive => entry.level.detail ≤ directive.detail
    | none => false) &&
  filter.pattern.all (·.occursIn entry.text.toList)

/-! ## Reading filters -/

/-- A text without its blank margins. -/
def trimmed (text : String) : String :=
  String.ofList (Text.trim text.toList)

/-- The greatest detail of a name of a level. -/
def detailOf? (name : String) : Option Nat :=
  [("off", 0), ("error", 1), ("warn", 2), ("info", 3), ("debug", 4), ("trace", 5)].lookup
    (String.ofList (name.toList.map Char.toLower))

/-- Read a directive. Without a level it shows everything. -/
def Directive.ofText (text : String) : Except String Directive :=
  match Text.pieces '=' text with
  | [word] =>
    match detailOf? word with
    | some detail => .ok ⟨none, detail⟩
    | none => .ok ⟨some word, 5⟩
  | [target, level] =>
    let level := trimmed level
    if level.isEmpty then .ok ⟨some target, 5⟩
    else
      match detailOf? level with
      | some detail => .ok ⟨some target, detail⟩
      | none => .error level
  | _ => .error text

/-- Take up a directive. It replaces an earlier one about the same targets. -/
def insertDirective (directives : List Directive) (directive : Directive) : List Directive :=
  if directives.any (·.target = directive.target) then
    directives.map fun other => if other.target = directive.target then directive else other
  else directives ++ [directive]

/-- What is wrong with a filter. -/
inductive FilterFault where
  /-- A part is no directive. -/
  | directive (text : String)
  /-- There are several slashes. -/
  | slashes (spec : String)
  | pattern (refusal : Pattern.Refusal)

/-- The warning about a fault. What is at fault is left out of the filter. -/
def FilterFault.warning : FilterFault → String
  | directive text => "warning: invalid logging spec '" ++ text ++ "', ignoring it"
  | slashes spec => "warning: invalid logging spec '" ++ spec ++ "' (too many '/'s), ignoring it"
  | pattern refusal => "warning: invalid regex filter - " ++ refusal.message ++ ", ignoring it"

/-- What is read, or the fault that is met instead. -/
def sortOut {α : Type} (results : List (Except FilterFault α)) : List α × List FilterFault :=
  (results.filterMap Except.toOption,
    results.filterMap fun
      | .error fault => some fault
      | .ok _ => none)

/-- Read a list of directives. -/
def readDirectives (list : String) : List (Except FilterFault Directive) :=
  (((Text.pieces ',' list).map trimmed).filter (!·.isEmpty)).map fun text =>
    (Directive.ofText text).mapError .directive

/-- The filter of directives. Without any, only errors are shown. -/
def LogFilter.ofDirectives (directives : List Directive) (pattern : Option Pattern) : LogFilter :=
  ⟨if directives.isEmpty then [⟨none, 1⟩] else directives.foldl insertDirective [], pattern⟩

/-- The filter that a text describes, and what is wrong with the text. -/
def LogFilter.ofSpec (spec : String) : LogFilter × List FilterFault :=
  match Text.pieces '/' spec with
  | list :: patterns =>
    if 1 < patterns.length then (.ofDirectives [] none, [.slashes spec])
    else
      let (directives, faults) := sortOut (readDirectives list)
      let (patterns, refusals) :=
        sortOut (patterns.map fun text => (Pattern.ofText text).mapError .pattern)
      (.ofDirectives directives patterns.head?, faults ++ refusals)
  | [] => (.ofDirectives [] none, [])

/-- The filter of a run: the one that the environment describes, or else one for how verbose the run
shall be. -/
def LogFilter.choose (environment : Environment) (verbosity : Nat) :
    LogFilter × List FilterFault :=
  LogFilter.ofSpec <| (environment "RUST_LOG").getD <|
    match verbosity with
    | 0 => "warn"
    | 1 => "info"
    | 2 => "debug"
    | _ => "trace"

/-! ## Lines -/

/-- Whether lines of the log are coloured. -/
def coloursLog (environment : Environment) : Bool :=
  match environment "RUST_LOG_STYLE" with
  | some "always" => true
  | some "never" => false
  | _ => Terminal.keepsColour environment

/-- A text whose lines but the first are indented. -/
def hanging (text : String) : String :=
  "\n    ".intercalate (Text.pieces '\n' text)

/-- The line that shows an entry. -/
def LogEntry.line (colour : Bool) (entry : LogEntry) : String :=
  let styled (on text : String) : String :=
    if colour then "\x1b[" ++ on ++ "m" ++ text ++ "\x1b[0m" else text
  Terminal.shown colour
    [styled "90" "[" ++ styled entry.level.style entry.level.column ++ " " ++ entry.target
      ++ styled "90" "]" ++ " " ++ hanging entry.text ++ "\n"]

end QueueDepth
