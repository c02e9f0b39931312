import QueueDepth.Command.Run
import QueueDepth.Proofs.Report.Accounting
import QueueDepth.Proofs.Trace.Loaded

/-!
# What a run needs and what it comes to

A run has a report if it finds settings, a trace and, in the trace, a single stop. `Settled` and `Fed`
say where settings and traces come from, case by case and without the steps that look for them; `Ready`
puts them together.

* `settled_iff`, `fed_iff`: what is found is what is there.
* `result_run`: a run without its log.
* `result_of_ready`, `exists_ready_of_result`: a run that is ready judges its report, and a run that is
  not has none.
-/

namespace QueueDepth

theorem mapError_eq_ok_iff {ε δ α : Type} {result : Except ε α} {f : ε → δ} {a : α} :
    result.mapError f = .ok a ↔ result = .ok a := by
  cases result <;> simp [Except.mapError]

theorem Settings.ofBytes_eq_ok_iff {path : String} {content : List UInt8} {settings : Settings} :
    Settings.ofBytes path content = .ok settings ↔
      ∃ text, Text.Utf8.decode content = .ok text ∧ Settings.ofToml text = .ok settings := by
  unfold Settings.ofBytes
  cases Text.Utf8.decode content with
  | error byte => simp
  | ok text => simp [mapError_eq_ok_iff]

/-- Only files are read. -/
theorem Entry.bytes_eq_ok_iff {entry : Entry} {content : List UInt8} :
    entry.bytes = .ok content ↔ entry = .file content := by
  cases entry <;> simp [Entry.bytes]

section Opening

variable {files : Files} {location : Location}

/-- A place that does not exist is a fault only if the user named it. -/
theorem Settings.ofFile?_of_nowhere {fault : FileFault} (nothing : files location.path = .error fault) :
    Settings.ofFile? files location =
      if location.explicit then .error (.missing location.path) else .ok none := by
  rw [Settings.ofFile?, nothing]

/-- What is there but cannot be read is a fault, whether or not the user named it. -/
theorem Settings.ofFile?_of_unread {entry : Entry} {fault : FileFault}
    (found : files location.path = .ok entry) (unread : entry.bytes = .error fault) :
    Settings.ofFile? files location = .error (.unreadable location.path fault) := by
  simp only [Settings.ofFile?, found, unread]

theorem Settings.ofFile?_of_file {content : List UInt8}
    (found : files location.path = .ok (.file content)) :
    Settings.ofFile? files location = (Settings.ofBytes location.path content).map some := by
  simp only [Settings.ofFile?, found, Entry.bytes]

theorem Settings.load_of_file {content : List UInt8}
    (found : files location.path = .ok (.file content)) :
    Settings.load files (some location) = Settings.ofBytes location.path content := by
  rw [Settings.load, Settings.ofFile?_of_file found]
  cases Settings.ofBytes location.path content <;> rfl

end Opening

theorem Trace.ofFile_eq_ok_iff {files : Files} {path : String} {trace : Trace} :
    Trace.ofFile files path = .ok trace ↔
      ∃ content, files path = .ok (.file content) ∧ Trace.ofCsv content = .ok trace := by
  unfold Trace.ofFile
  rcases files path with fault | entry
  · simp
  · cases entry <;> simp [Entry.bytes, mapError_eq_ok_iff]

namespace Command

variable {request : Request} {around : Surroundings} {settings : Settings} {trace : Trace}

/-! ## Settings -/

/-- The settings that hold for a location. -/
inductive Settled (files : Files) : Option Location → Settings → Prop
  /-- There is no place for settings. -/
  | nowhere : Settled files none {}
  /-- The place does not exist, and the user did not name it. -/
  | absent {location : Location} {fault : FileFault} (nothing : files location.path = .error fault)
    (unnamed : location.explicit = false) : Settled files (some location) {}
  /-- A file is there, and it is read. -/
  | read {location : Location} {content : List UInt8} {text : List Char} {settings : Settings}
    (found : files location.path = .ok (.file content)) (decoded : Text.Utf8.decode content = .ok text)
    (parsed : Settings.ofToml text = .ok settings) : Settled files (some location) settings

theorem settled_iff {files : Files} {location : Option Location} :
    Settled files location settings ↔ Settings.load files location = .ok settings := by
  constructor
  · intro settled
    cases settled with
    | nowhere => rfl
    | absent nothing unnamed =>
      rw [Settings.load, Settings.ofFile?_of_nowhere nothing, unnamed]
      rfl
    | read found decoded parsed =>
      rw [Settings.load_of_file found]
      exact Settings.ofBytes_eq_ok_iff.mpr ⟨_, decoded, parsed⟩
  · intro loaded
    rcases location with _ | location
    · cases loaded
      exact .nowhere
    · rcases there : files location.path with fault | entry
      · rw [Settings.load, Settings.ofFile?_of_nowhere there] at loaded
        cases unnamed : location.explicit <;> rw [unnamed] at loaded <;> cases loaded
        exact .absent there unnamed
      · cases read : entry.bytes with
        | error fault =>
          rw [Settings.load, Settings.ofFile?_of_unread there read] at loaded
          cases loaded
        | ok content =>
          obtain rfl := Entry.bytes_eq_ok_iff.mp read
          rw [Settings.load_of_file there] at loaded
          obtain ⟨text, decoded, parsed⟩ := Settings.ofBytes_eq_ok_iff.mp loaded
          exact .read there decoded parsed

/-- What is there must be a file if settings are to hold. -/
theorem Settled.exists_file {files : Files} {location : Location} {entry : Entry}
    (settled : Settled files (some location) settings) (there : files location.path = .ok entry) :
    ∃ content, entry = .file content := by
  cases settled with
  | absent nothing _ =>
    rw [there] at nothing
    cases nothing
  | read found _ _ =>
    rw [there] at found
    exact ⟨_, Except.ok.inj found⟩

/-! ## Traces -/

/-- The trace that a run is given. -/
inductive Fed (request : Request) (around : Surroundings) : Trace → Prop
  /-- It is in the file that the command line names. -/
  | file {path : String} {content : List UInt8} {trace : Trace} (named : request.trace = some path)
    (elsewhere : namesInput path = false) (found : around.files path = .ok (.file content))
    (loaded : Trace.ofCsv content = .ok trace) : Fed request around trace
  /-- It is the input of the program, and that is no terminal. -/
  | input {content : List UInt8} {trace : Trace}
    (here : ∀ path, request.trace = some path → namesInput path = true)
    (piped : around.input = some content) (loaded : Trace.ofCsv content = .ok trace) :
    Fed request around trace

theorem fed_iff : Fed request around trace ↔ readTrace request around = .ok trace := by
  unfold readTrace
  constructor
  · intro fed
    cases fed with
    | file named elsewhere found loaded =>
      rw [named, Option.filter_some, if_pos (by simp [elsewhere])]
      exact mapError_eq_ok_iff.mpr (Trace.ofFile_eq_ok_iff.mpr ⟨_, found, loaded⟩)
    | input here piped loaded =>
      have none : request.trace.filter (!namesInput ·) = none := by
        rw [Option.filter_eq_none_iff]
        intro path named
        simp [here path named]
      rw [none, piped]
      exact mapError_eq_ok_iff.mpr loaded
  · intro ok
    split at ok
    · rename_i path _ chosen
      obtain ⟨named, elsewhere⟩ := Option.filter_eq_some_iff.mp chosen
      obtain ⟨content, found, loaded⟩ := Trace.ofFile_eq_ok_iff.mp (mapError_eq_ok_iff.mp ok)
      exact .file named (by simpa using elsewhere) found loaded
    · rename_i content none piped
      refine .input ?_ piped (mapError_eq_ok_iff.mp ok)
      intro path named
      simpa using Option.filter_eq_none_iff.mp none path named
    · cases ok

/-! ## Runs -/

/-- What a run makes of a report: it fails with the first violation if violations abort it. -/
def verdict (policy : Policy) (report : Report) : Except Failure Report :=
  match policy, report.violations with
  | .abort, violation :: _ => .error (.violation violation)
  | _, _ => .ok report

theorem verdict_of_clean {policy : Policy} {report : Report} (clean : report.violations = []) :
    verdict policy report = .ok report := by
  unfold verdict
  cases policy <;> rw [clean]

theorem verdict_abort {report : Report} {violation : Depth.Violation} {more : List Depth.Violation}
    (split : report.violations = violation :: more) :
    verdict .abort report = .error (.violation violation) := by
  unfold verdict
  rw [split]

theorem eq_of_verdict {policy : Policy} {report judged : Report}
    (passed : verdict policy report = .ok judged) : judged = report := by
  unfold verdict at passed
  split at passed
  · cases passed
  · exact (Except.ok.inj passed).symm

theorem result_makeReport (trace : Trace) (choices : Choices) :
    (makeReport trace choices).result =
      (Report.ofTrace trace choices.selection).mapError .stop >>= verdict choices.policy := by
  unfold makeReport
  simp only [Step.result_bind, Step.result_note, Step.result_silent]
  cases (Report.ofTrace trace choices.selection).mapError Failure.stop with
  | error failure => rfl
  | ok report =>
    simp only [bind, Except.bind, verdict]
    cases choices.policy <;> cases report.violations <;> rfl

/-- A run without its log. -/
theorem result_run (request : Request) (around : Surroundings) :
    (run request around).result = (do
      let settings ← (Settings.load around.files
        (Location.find? request.config around.environment)).mapError .settings
      let trace ← readTrace request around
      let choices := Choices.of request settings
      let report ← (Report.ofTrace trace choices.selection).mapError .stop
      let report ← verdict choices.policy report
      return (choices.format, report)) := by
  unfold run
  simp only [Step.result_bind, Step.result_note, Step.result_silent, Step.result_pure,
    result_loadSettings, result_makeReport, bind_assoc]
  rfl

/-- What a run needs to make a report: settings, a trace, and a single stop in it. -/
structure Ready (request : Request) (around : Surroundings) (settings : Settings) (trace : Trace) :
    Prop where
  settled : Settled around.files (Location.find? request.config around.environment) settings
  fed : Fed request around trace
  stopped : trace.events.countP (fun event => event.kind = .stopSystem) = 1

/-- A run that is ready judges the report of its trace. -/
theorem result_of_ready (ready : Ready request around settings trace) :
    ∃ stop, (run request around).result =
      (verdict (Choices.of request settings).policy
        (.made trace (Choices.of request settings).selection stop)).map
          ((Choices.of request settings).format, ·) := by
  have single := ready.stopped
  rw [← Report.length_stopTimes, List.length_eq_one_iff] at single
  obtain ⟨stop, single⟩ := single
  have found := settled_iff.mp ready.settled
  have given := fed_iff.mp ready.fed
  have made : Report.ofTrace trace (Choices.of request settings).selection =
      .ok (.made trace (Choices.of request settings).selection stop) :=
    Report.ofTrace_eq_ok single
  refine ⟨stop, ?_⟩
  rw [result_run, found, given]
  simp only [made, Except.mapError, bind, Except.bind]
  cases verdict _ _ <;> rfl

/-- A run with a report has made it of the settings and the trace that it was given. -/
theorem exists_report_of_result {done : Format × Report} (ok : (run request around).result = .ok done) :
    ∃ settings trace report, Ready request around settings trace ∧
      Report.ofTrace trace (Choices.of request settings).selection = .ok report ∧
      done = ((Choices.of request settings).format, report) := by
  rw [result_run] at ok
  obtain ⟨settings, found, ok⟩ := bind_eq_ok_iff.mp ok
  obtain ⟨trace, given, ok⟩ := bind_eq_ok_iff.mp ok
  obtain ⟨report, made, ok⟩ := bind_eq_ok_iff.mp ok
  obtain ⟨judged, passed, ok⟩ := bind_eq_ok_iff.mp ok
  have made := mapError_eq_ok_iff.mp made
  have single := Report.ofTrace_ok_iff.mp ⟨report, made⟩
  rw [Report.length_stopTimes] at single
  rw [eq_of_verdict passed] at ok
  exact ⟨settings, trace, report,
    ⟨settled_iff.mpr (mapError_eq_ok_iff.mp found), fed_iff.mpr given, single⟩, made,
    (Except.ok.inj ok).symm⟩

theorem exists_ready_of_result {done : Format × Report} (ok : (run request around).result = .ok done) :
    ∃ settings trace, Ready request around settings trace := by
  obtain ⟨settings, trace, _, ready, _⟩ := exists_report_of_result ok
  exact ⟨settings, trace, ready⟩

/-- A run is given one trace, with one choice of settings. -/
theorem Ready.unique {settings' : Settings} {trace' : Trace} (ready : Ready request around settings trace)
    (ready' : Ready request around settings' trace') : settings = settings' ∧ trace = trace' := by
  have found := (settled_iff.mp ready.settled).symm.trans (settled_iff.mp ready'.settled)
  have given := (fed_iff.mp ready.fed).symm.trans (fed_iff.mp ready'.fed)
  exact ⟨Except.ok.inj found, Except.ok.inj given⟩

end Command

end QueueDepth
