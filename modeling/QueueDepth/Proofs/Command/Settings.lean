import QueueDepth.Proofs.Command.Arguments
import QueueDepth.Proofs.Command.Status

/-!
# Settings and flags

A run takes three things from its settings, and flags can say the same. Behind the settings a run depends
only on what it chooses, on its trace and on a few environment variables, so two runs that choose the same
write the same. A run without settings notes that down, which is all that can tell it from a run whose
settings say what its flags say (`settings_or_flags`).
-/

namespace QueueDepth.Command

variable {arguments : List String} {request request' : Request} {around other : Surroundings}
  {settings settings' : Settings} {ids : List Nat} {format : Format} {policy : Policy}

/-! ## Surroundings -/

/-- There is a file with these settings, where the run looks for it. -/
def Configured (named : Option String) (around : Surroundings) (settings : Settings) : Prop :=
  ∃ location content text, Location.find? named around.environment = some location ∧
    around.files location.path = .ok (.file content) ∧ Text.Utf8.decode content = .ok text ∧
    Settings.ofToml text = .ok settings

/-- A place for settings that the user did not name, if there is one, does not exist. -/
def Unconfigured (around : Surroundings) : Prop :=
  ∀ location, Location.find? none around.environment = some location →
    ∃ fault, around.files location.path = .error fault

/-- The environment variables that a run depends on behind its settings. -/
def outputVariables : List String :=
  ["NO_COLOR", "CLICOLOR_FORCE", "RUST_LOG", "RUST_LOG_STYLE"]

/-- Apart from their settings, two runs on a trace find the same. -/
structure SameScene (trace : Option String) (around other : Surroundings) : Prop where
  input : around.input = other.input
  file : ∀ path, trace = some path → namesInput path = false → around.files path = other.files path
  environment : ∀ name ∈ outputVariables, around.environment name = other.environment name

theorem SameScene.keepsColour {trace : Option String} (same : SameScene trace around other) :
    Terminal.keepsColour around.environment = Terminal.keepsColour other.environment := by
  unfold Terminal.keepsColour
  rw [same.environment "NO_COLOR" (by decide), same.environment "CLICOLOR_FORCE" (by decide)]

theorem SameScene.coloursLog {trace : Option String} (same : SameScene trace around other) :
    coloursLog around.environment = coloursLog other.environment := by
  unfold QueueDepth.coloursLog
  rw [same.environment "RUST_LOG_STYLE" (by decide), same.keepsColour]

theorem SameScene.choose {trace : Option String} (same : SameScene trace around other)
    (verbosity : Nat) :
    LogFilter.choose around.environment verbosity = LogFilter.choose other.environment verbosity := by
  unfold LogFilter.choose
  rw [same.environment "RUST_LOG" (by decide)]

theorem SameScene.readTrace (same : SameScene request.trace around other)
    (trace : request.trace = request'.trace) : readTrace request around = readTrace request' other := by
  unfold Command.readTrace
  rw [← trace, same.input]
  split
  · rename_i path chosen
    obtain ⟨named, elsewhere⟩ := Option.filter_eq_some_iff.mp chosen
    rw [Trace.ofFile, Trace.ofFile, same.file path named (by simpa using elsewhere)]
  · rfl
  · rfl

/-! ## Runs behind their settings -/

/-- A run behind its settings. -/
def runFrom (choices : Choices) (given : Except Failure Trace) : Step (Format × Report) := do
  Step.note [noteChoices choices]
  let trace ← Step.silent given
  Step.note (noteTrace trace)
  let report ← makeReport trace choices
  return (choices.format, report)

theorem run_of_loadSettings {notes : List LogEntry}
    (loaded : loadSettings request around = ⟨notes, .ok settings⟩) :
    run request around =
      ⟨notes ++ (runFrom (Choices.of request settings) (readTrace request around)).log,
        (runFrom (Choices.of request settings) (readTrace request around)).result⟩ := by
  have split : run request around = loadSettings request around >>= fun settings =>
      runFrom (Choices.of request settings) (readTrace request around) := rfl
  rw [split, loaded]
  rfl

theorem loadSettings_of_configured (configured : Configured request.config around settings) :
    loadSettings request around = ⟨[], .ok settings⟩ := by
  obtain ⟨location, content, text, found, there, decoded, parsed⟩ := configured
  have read : Settings.ofBytes location.path content = .ok settings :=
    Settings.ofBytes_eq_ok_iff.mpr ⟨text, decoded, parsed⟩
  unfold loadSettings
  simp only [found, Settings.ofFile?_of_file there, read]
  rfl

theorem explicit_of_find? {environment : Environment} {location : Location}
    (found : Location.find? none environment = some location) : location.explicit = false := by
  unfold Location.find? at found
  split at found
  · contradiction
  · cases found
    rfl
  · obtain ⟨directory, _, rfl⟩ := Option.map_eq_some_iff.mp found
    rfl

/-- What is noted down where a run looks for settings in vain. -/
def absenceNotes (absent : Option String) : List LogEntry :=
  (absent.map noteDefaults).toList

theorem loadSettings_of_unconfigured (unnamed : request.config = none)
    (unconfigured : Unconfigured around) :
    ∃ absent, loadSettings request around = ⟨absenceNotes absent, .ok {}⟩ := by
  unfold loadSettings
  rw [unnamed]
  cases found : Location.find? none around.environment with
  | none => exact ⟨none, rfl⟩
  | some location =>
    obtain ⟨fault, nothing⟩ := unconfigured location found
    have settled : Settings.ofFile? around.files location = .ok none := by
      rw [Settings.ofFile?_of_nowhere nothing, explicit_of_find? found]
      rfl
    simp only [settled]
    exact ⟨some location.path, rfl⟩

/-! ## Choices -/

theorem choices_flagged (unflagged : request.actors = []) (nonempty : ids ≠ []) :
    Choices.of ({ request with config := none }.flagged ids format policy) {} =
      ⟨.only ids, format, policy⟩ := by
  have listed : ids.isEmpty = false := by simpa using nonempty
  cases policy <;> simp [Choices.of, Request.flagged, unflagged, listed]

theorem choices_unflagged (unflagged : request.actors = []) (unmarked : request.Unmarked) :
    Choices.of request ⟨some ids, format, policy⟩ = ⟨.only ids, format, policy⟩ := by
  simp [Choices.of, unflagged, unmarked.format, unmarked.lenient, Settings.selection]

/-- Settings that differ only in what flags outweigh. -/
structure SettledAlike (request : Request) (settings settings' : Settings) : Prop where
  actors : request.actors = [] → settings.actors = settings'.actors
  format : request.format = none → settings.format = settings'.format
  policy : request.abortOnViolation = false → settings.onViolation = settings'.onViolation

theorem SettledAlike.choices (alike : SettledAlike request settings settings') :
    Choices.of request settings = Choices.of request settings' := by
  have selection : (if request.actors.isEmpty then settings.selection else .only request.actors) =
      if request.actors.isEmpty then settings'.selection else .only request.actors := by
    split
    · rename_i unflagged
      rw [Settings.selection, Settings.selection, alike.actors (by simpa using unflagged)]
    · rfl
  have format : request.format.getD settings.format = request.format.getD settings'.format := by
    cases chosen : request.format with
    | none => exact alike.format chosen
    | some format => rfl
  have policy : (if request.abortOnViolation then .abort else settings.onViolation) =
      if request.abortOnViolation then .abort else settings'.onViolation := by
    cases strict : request.abortOnViolation with
    | false => exact alike.policy strict
    | true => rfl
  rw [Choices.of, Choices.of, selection, format, policy]

/-! ## Transcripts -/

/-- What is written of notes. -/
def shownNotes (environment : Environment) (verbosity : Nat) (notes : List LogEntry) : String :=
  String.join ((notes.filter (LogFilter.choose environment verbosity).1.shows).map
    (LogEntry.line (coloursLog environment)))

theorem shownNotes_append (environment : Environment) (verbosity : Nat) (notes more : List LogEntry) :
    shownNotes environment verbosity (notes ++ more) =
      shownNotes environment verbosity notes ++ shownNotes environment verbosity more := by
  simp [shownNotes]

/-- What is written of the steps of a run. -/
def Transcript.ofStep (environment : Environment) (verbosity : Nat) (step : Step (Format × Report)) :
    Transcript where
  exit := exitStatus step.result
  output := outputOf (Terminal.keepsColour environment) step.result
  messages :=
    String.join ((LogFilter.choose environment verbosity).2.map (·.warning ++ "\n"))
      ++ shownNotes environment verbosity step.log
      ++ String.join ((closingMessages step.result).map (printed (Terminal.keepsColour environment)))

theorem ofStep_run (request : Request) (around : Surroundings) :
    Transcript.ofRun request around = .ofStep around.environment request.verbosity (run request around) :=
  rfl

theorem SameScene.ofStep {trace : Option String} (same : SameScene trace around other) (verbosity : Nat)
    (step : Step (Format × Report)) :
    Transcript.ofStep around.environment verbosity step =
      .ofStep other.environment verbosity step := by
  simp only [Transcript.ofStep, shownNotes, same.keepsColour, same.coloursLog, same.choose]

/-- The second transcript is the first, with a note about settings that are not there. -/
structure SameButNotes (environment : Environment) (verbosity : Nat) (transcript noted : Transcript) :
    Prop where
  exit : transcript.exit = noted.exit
  output : transcript.output = noted.output
  messages : ∃ before absent after, transcript.messages = before ++ after ∧
    noted.messages = before ++ shownNotes environment verbosity (absenceNotes absent) ++ after

theorem sameButNotes_ofStep (environment : Environment) (verbosity : Nat) (absent : Option String)
    (log : List LogEntry) (result : Except Failure (Format × Report)) :
    SameButNotes environment verbosity (.ofStep environment verbosity ⟨log, result⟩)
      (.ofStep environment verbosity ⟨absenceNotes absent ++ log, result⟩) where
  exit := rfl
  output := rfl
  messages := by
    refine ⟨_, absent, _, String.append_assoc, ?_⟩
    simp only [Transcript.ofStep, shownNotes_append, String.append_assoc]

/-! ## Two runs -/

/-- A run with settings from a file does the same as one without that chooses the same. -/
theorem sameButNotes_ofRun (configured : Configured request.config around settings)
    (unnamed : request'.config = none) (unconfigured : Unconfigured other)
    (same : SameScene request.trace around other) (trace : request.trace = request'.trace)
    (verbosity : request.verbosity = request'.verbosity)
    (choices : Choices.of request settings = Choices.of request' {}) :
    SameButNotes around.environment request.verbosity (.ofRun request around)
      (.ofRun request' other) := by
  obtain ⟨absent, loaded⟩ := loadSettings_of_unconfigured unnamed unconfigured
  rw [ofStep_run, ofStep_run, ← same.ofStep, run_of_loadSettings loaded,
    run_of_loadSettings (loadSettings_of_configured configured), choices, same.readTrace trace, verbosity]
  exact sameButNotes_ofStep _ _ absent _ _

/-- Two runs with settings from files do the same if they choose the same. -/
theorem ofRun_eq_of_configured (configured : Configured request.config around settings)
    (configured' : Configured request.config other settings')
    (same : SameScene request.trace around other)
    (choices : Choices.of request settings = Choices.of request settings') :
    Transcript.ofRun request around = .ofRun request other := by
  rw [ofStep_run, ofStep_run, ← same.ofStep, run_of_loadSettings (loadSettings_of_configured configured),
    run_of_loadSettings (loadSettings_of_configured configured'), choices, same.readTrace rfl]

/-- Settings in a file and flags are two ways to say the same, and flags outweigh settings. A command line
without flags for settings, where a file settles actors, a format and a policy, does the same as one with
flags for these where there is no such file; only the latter may note down that there is none. And two
files that differ in nothing but what flags outweigh lead to the same transcript. -/
theorem settings_or_flags :
    (∀ (arguments others : List String) (request : Request) (ids : List Nat) (format : Format)
      (policy : Policy) (around bare : Surroundings),
      Request.ofArguments arguments = .ok request → request.actors = [] → request.Unmarked →
      Request.ofArguments others = .ok { request with config := none } →
      ids ≠ [] → (∀ id ∈ ids, id < 2 ^ 63) →
      Configured request.config around ⟨some ids, format, policy⟩ → Unconfigured bare →
      SameScene request.trace around bare →
      Request.ofArguments (flags ids format policy ++ others) =
          .ok ({ request with config := none }.flagged ids format policy) ∧
        ∀ flagged, Request.ofArguments flagged =
            .ok ({ request with config := none }.flagged ids format policy) →
          SameButNotes around.environment request.verbosity (perform arguments around)
            (perform flagged bare)) ∧
    ∀ (arguments : List String) (request : Request) (settings settings' : Settings)
      (around other : Surroundings),
      Request.ofArguments arguments = .ok request →
      Configured request.config around settings → Configured request.config other settings' →
      SameScene request.trace around other → SettledAlike request settings settings' →
      perform arguments around = perform arguments other := by
  constructor
  · intro arguments others request ids format policy around bare accepted unflagged unmarked accepted'
      nonempty small configured unconfigured same
    have unmarked' : ({ request with config := none } : Request).Unmarked := ⟨unmarked.format, unmarked.lenient⟩
    refine ⟨ofArguments_flags accepted' unmarked' nonempty small format policy, ?_⟩
    intro flagged accepted''
    rw [perform_of_accepted accepted, perform_of_accepted accepted'']
    refine sameButNotes_ofRun configured rfl unconfigured same rfl rfl ?_
    rw [choices_flagged unflagged nonempty, choices_unflagged unflagged unmarked]
  · intro arguments request settings settings' around other accepted configured configured' same alike
    rw [perform_of_accepted accepted, perform_of_accepted accepted]
    exact ofRun_eq_of_configured configured configured' same alike.choices

/-! ## A file with settings -/

/-- A file that settles everything. -/
def settledText : List Char :=
  "actors = [5, 3, 5]\nformat = \"json\"\non-violation = \"abort\"\n".toList

/-- A file that settles other actors. -/
def resettledText : List Char :=
  "format = 'json' # as before\non-violation = \"abort\"\nactors = [8]\n".toList

/-- A program whose environment names a place for settings, with some text there. -/
def placedInput (text : List Char) : Surroundings where
  environment name := if name = "MAILSCOPE_CONFIG_PATH" then some "mailscope.toml" else none
  files path := if path = "mailscope.toml" then .ok (.file (Text.Utf8.encode text)) else .error .notFound
  input := some crossedText

/-- The same program with nothing there. -/
def displacedInput : Surroundings :=
  { placedInput [] with files := fun _ => .error .notFound }

theorem ofToml_eq_ok {text : List Char} (read : (Settings.ofToml text).toOption = some settings) :
    Settings.ofToml text = .ok settings := by
  cases result : Settings.ofToml text with
  | error rejection => simp [result, Except.toOption] at read
  | ok found => simpa [result, Except.toOption] using read

theorem configured_placedInput {text : List Char} (parsed : Settings.ofToml text = .ok settings) :
    Configured none (placedInput text) settings :=
  ⟨⟨"mailscope.toml", false⟩, Text.Utf8.encode text, text, rfl, rfl, Text.Utf8.decode_encode text, parsed⟩

theorem sameScene_placedInput (text text' : List Char) :
    SameScene none (placedInput text) (placedInput text') :=
  ⟨rfl, nofun, fun _ _ => rfl⟩

theorem settings_or_flags_of_settledText :
    SameButNotes (placedInput settledText).environment 1 (perform ["-v"] (placedInput settledText))
        (perform ["-a", "5,3,5", "--format", "json", "--abort-on-violation", "-v"] displacedInput) ∧
      perform ["-a", "3"] (placedInput settledText) = perform ["-a", "3"] (placedInput resettledText) := by
  have settled : Configured none (placedInput settledText) ⟨some [5, 3, 5], .json, .abort⟩ :=
    configured_placedInput (ofToml_eq_ok (by decide +kernel))
  have resettled : Configured none (placedInput resettledText) ⟨some [8], .json, .abort⟩ :=
    configured_placedInput (ofToml_eq_ok (by decide +kernel))
  have unconfigured : Unconfigured displacedInput := fun _ _ => ⟨.notFound, rfl⟩
  have displaced : SameScene none (placedInput settledText) displacedInput := ⟨rfl, nofun, fun _ _ => rfl⟩
  have replaced : SameScene none (placedInput settledText) (placedInput resettledText) :=
    sameScene_placedInput ..
  have alike : SettledAlike { actors := [3] } ⟨some [5, 3, 5], .json, .abort⟩ ⟨some [8], .json, .abort⟩ :=
    ⟨nofun, fun _ => rfl, fun _ => rfl⟩
  have spelling : flags [5, 3, 5] .json .abort ++ ["-v"] =
      ["-a", "5,3,5", "--format", "json", "--abort-on-violation", "-v"] := by decide
  obtain ⟨spelled, outweighed⟩ := settings_or_flags
  constructor
  · rw [← spelling]
    obtain ⟨accepted, same⟩ := spelled ["-v"] ["-v"] { verbosity := 1 } [5, 3, 5] .json .abort _ _
      (by decide) rfl ⟨rfl, rfl⟩ (by decide) (by decide) (by decide) settled unconfigured displaced
    exact same _ accepted
  · exact outweighed ["-a", "3"] { actors := [3] } _ _ _ _ (by decide) settled resettled replaced alike

end QueueDepth.Command
