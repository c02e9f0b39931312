import QueueDepth.Report

/-!
# Settings

What a user may settle once for many runs: the actors that reports are about, how reports are
written, and what a violation does to a run.
-/

namespace QueueDepth

/-- How a report is written. -/
inductive Format where
  | text
  | json
  deriving DecidableEq

namespace Format

/-- The name of a format. -/
def name : Format → String
  | text => "text"
  | json => "json"

/-- All formats. -/
def formats : List Format :=
  [text, json]

/-- The format of a name. -/
def ofName? (name : String) : Option Format :=
  formats.find? (·.name = name)

theorem ofName?_name (format : Format) : ofName? format.name = some format := by
  cases format <;> rfl

end Format

/-- What a violation does to a run. -/
inductive Policy where
  /-- The violation is reported beside the keys without one. -/
  | report
  /-- The run fails. -/
  | abort
  deriving DecidableEq

namespace Policy

/-- The name of a policy. -/
def name : Policy → String
  | report => "report"
  | abort => "abort"

/-- All policies. -/
def policies : List Policy :=
  [report, abort]

end Policy

/-- What a user has settled. -/
structure Settings where
  /-- The actors that reports are about; all of them if there is no list. -/
  actors : Option (List Nat) := none
  format : Format := .text
  onViolation : Policy := .report
  deriving DecidableEq

/-- Which actors reports are about. -/
def Settings.selection (settings : Settings) : Selection :=
  match settings.actors with
  | some ids => .only ids
  | none => .all

end QueueDepth
