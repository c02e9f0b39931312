import QueueDepth.Command
import QueueDepth.Proofs.Command.Run
import QueueDepth.Proofs.Report.Overdrawn
import QueueDepth.Proofs.Terminal.Plain

/-!
# The exit status

What a run comes to depends on four things: whether it is ready, which keys it is asked about, whether
one of these is overdrawn, and whether violations are only reported. `exit_of_accepted` says which status
each case has, and that nothing is written to the standard output just where there is no report.
-/

namespace QueueDepth.Command

variable {arguments : List String} {request : Request} {around : Surroundings} {settings : Settings}
  {trace : Trace} {key : Key}

/-! ## What is asked -/

/-- The keys that a run is asked about: the pool, and the actors on the command line; without any, those
in the settings; without these too, all that own an event. -/
inductive Asked (request : Request) (settings : Settings) (trace : Trace) : Key → Prop
  | pool : Asked request settings trace .pool
  | requested {id : Nat} (listed : id ∈ request.actors) : Asked request settings trace (.actor id)
  | settled {ids : List Nat} {id : Nat} (unrequested : request.actors = [])
    (chosen : settings.actors = some ids) (listed : id ∈ ids) :
    Asked request settings trace (.actor id)
  | seen {event : Event} {id : Nat} (unrequested : request.actors = [])
    (unsettled : settings.actors = none) (member : event ∈ trace.events)
    (owned : event.scope = .actor id) : Asked request settings trace (.actor id)

theorem selection_of_requested (requested : request.actors ≠ []) :
    (Choices.of request settings).selection = .only request.actors := by
  unfold Choices.of
  rw [if_neg]
  simpa using requested

theorem selection_of_unrequested (unrequested : request.actors = []) :
    (Choices.of request settings).selection = settings.selection := by
  unfold Choices.of
  rw [if_pos]
  simpa using unrequested

theorem asked_iff :
    Asked request settings trace key ↔
      (Choices.of request settings).selection.Covers trace.events key := by
  constructor
  · intro asked
    cases asked with
    | pool => trivial
    | requested listed =>
      rw [selection_of_requested (List.ne_nil_of_mem listed)]
      exact listed
    | settled unrequested chosen listed =>
      rw [selection_of_unrequested unrequested, Settings.selection, chosen]
      exact listed
    | seen unrequested unsettled member owned =>
      rw [selection_of_unrequested unrequested, Settings.selection, unsettled]
      exact ⟨_, member, owned⟩
  · intro covered
    cases key with
    | pool => exact .pool
    | system => cases covered
    | actor id =>
      by_cases unrequested : request.actors = []
      · rw [selection_of_unrequested unrequested, Settings.selection] at covered
        cases chosen : settings.actors with
        | none =>
          rw [chosen] at covered
          obtain ⟨event, member, owned⟩ := covered
          exact .seen unrequested chosen member owned
        | some ids =>
          rw [chosen] at covered
          exact .settled unrequested chosen covered
      · rw [selection_of_requested unrequested] at covered
        exact .requested covered

/-- Violations are reported and do not abort the run. The command line can only demand that they do. -/
def Lenient (request : Request) (settings : Settings) : Prop :=
  request.abortOnViolation = false ∧ settings.onViolation = .report

theorem lenient_iff : Lenient request settings ↔ (Choices.of request settings).policy = .report := by
  unfold Lenient Choices.of
  cases request.abortOnViolation <;> simp

/-- None of the keys that a run is asked about is overdrawn. -/
def Sound (request : Request) (settings : Settings) (trace : Trace) : Prop :=
  ∀ key, Asked request settings trace key → ¬ Report.Overdrawn trace key

/-- The violation of the least of the overdrawn keys that a run is asked about. -/
structure FirstViolation (request : Request) (settings : Settings) (trace : Trace)
    (violation : Depth.Violation) : Prop where
  asked : Asked request settings trace violation.key
  violates : Report.outcomeOf trace violation.key = .error violation
  least : ∀ key, Asked request settings trace key → Report.Overdrawn trace key →
    key = violation.key ∨ compare violation.key key = .lt

/-! ## What a run comes to -/

/-- A run that is ready has a clean report if it is sound. Otherwise its report holds violations if it is
lenient, and it fails with the first of them if it is not. -/
theorem result_cases (ready : Ready request around settings trace) :
    (Sound request settings trace ∧
      ∃ format report, (run request around).result = .ok (format, report) ∧ report.isClean = true) ∨
    (¬ Sound request settings trace ∧ Lenient request settings ∧
      ∃ format report, (run request around).result = .ok (format, report) ∧ report.isClean = false) ∨
    (¬ Sound request settings trace ∧ ¬ Lenient request settings ∧
      ∃ violation, (run request around).result = .error (.violation violation) ∧
        FirstViolation request settings trace violation) := by
  obtain ⟨stop, result⟩ := result_of_ready ready
  have sound_iff : Sound request settings trace ↔
      (Report.made trace (Choices.of request settings).selection stop).isClean = true := by
    rw [Report.isClean_made_iff]
    exact forall_congr' fun key => by rw [asked_iff]
  rw [result, sound_iff, lenient_iff]
  cases listed : (Report.made trace (Choices.of request settings).selection stop).violations with
  | nil =>
    have clean : (Report.made trace (Choices.of request settings).selection stop).isClean = true := by
      rw [Report.isClean, listed]
      rfl
    rw [verdict_of_clean listed]
    exact .inl ⟨clean, _, _, rfl, clean⟩
  | cons violation more =>
    have unclean :
        (Report.made trace (Choices.of request settings).selection stop).isClean = false := by
      rw [Report.isClean, listed]
      rfl
    rw [unclean]
    refine .inr ?_
    cases policy : (Choices.of request settings).policy with
    | report => exact .inl ⟨by simp, rfl, _, _, rfl, unclean⟩
    | abort =>
      rw [verdict_abort listed]
      obtain ⟨covered, failed, least⟩ := Report.first_violation_made listed
      exact .inr ⟨by simp, by simp, violation, rfl, asked_iff.mpr covered, failed,
        fun key asked => least key (asked_iff.mp asked)⟩

/-! ## What is written -/

theorem toList_text (report : Report) : ∃ rest, report.text.toList = '=' :: rest := by
  obtain ⟨tail, lines⟩ : ∃ tail, report.lines = Report.rule :: tail := ⟨_, rfl⟩
  have rule : Report.rule.toList = '=' :: List.replicate 59 '=' := by decide
  refine ⟨List.replicate 59 '=' ++ ('\n' :: (String.join (tail.map (· ++ "\n"))).toList), ?_⟩
  rw [Report.text, lines, List.map_cons, String.toList_join, List.flatMap_cons,
    String.toList_append, rule, String.toList_join]
  simp

theorem toList_render (report : Report) : ∃ rest, report.json.render.toList = '\x7b' :: rest := by
  unfold Json.render Report.json
  rw [String.toList_ofList, Json.layout]
  exact ⟨_, rfl⟩

/-- A report in either format shows something. -/
theorem printed_writeReport_ne_empty (colour : Bool) (format : Format) (report : Report) :
    printed colour (writeReport format report) ≠ "" := by
  cases format with
  | text =>
    obtain ⟨rest, chars⟩ := toList_text report
    exact Terminal.shown_ne_empty chars (by decide) colour _
  | json =>
    obtain ⟨rest, chars⟩ := toList_render report
    exact Terminal.shown_ne_empty chars (by decide) colour _

theorem outputOf_eq_empty_iff {colour : Bool} {result : Except Failure (Format × Report)} :
    outputOf colour result = "" ↔ exitStatus result = 1 := by
  rcases result with failure | ⟨format, report⟩
  · exact ⟨fun _ => rfl, fun _ => rfl⟩
  · constructor
    · intro empty
      exact absurd empty (printed_writeReport_ne_empty colour format report)
    · intro failed
      unfold exitStatus at failed
      dsimp only at failed
      split at failed <;> cases failed

theorem exists_messages_ofRun (request : Request) (around : Surroundings) :
    ∃ earlier, (Transcript.ofRun request around).messages = earlier ++
      String.join ((closingMessages (run request around).result).map
        (printed (Terminal.keepsColour around.environment))) :=
  ⟨_, rfl⟩

theorem closingMessages_violation (colour : Bool) (violation : Depth.Violation) :
    ∃ hint, (Failure.violation violation).hint? = some hint ∧
      String.join ((closingMessages (.error (.violation violation))).map (printed colour)) =
        printed colour (Terminal.errorMessage violation.message) ++
          printed colour (Terminal.hintMessage hint) := by
  have report : (Failure.violation violation).report = violation.message := rfl
  refine ⟨_, rfl, ?_⟩
  rw [closingMessages, report]
  simp [Failure.hint?, String.join]

/-! ## The contract -/

theorem perform_of_accepted (accepted : Request.ofArguments arguments = .ok request) :
    perform arguments around = .ofRun request around := by
  unfold perform
  rw [accepted]

theorem exitStatus_cases (ready : Ready request around settings trace) :
    (Sound request settings trace ∧ exitStatus (run request around).result = 0) ∨
    (¬ Sound request settings trace ∧ Lenient request settings ∧
      exitStatus (run request around).result = 2) ∨
    (¬ Sound request settings trace ∧ ¬ Lenient request settings ∧
      exitStatus (run request around).result = 1) := by
  rcases result_cases ready with ⟨sound, format, report, done, clean⟩ |
    ⟨unsound, lenient, format, report, done, unclean⟩ | ⟨unsound, strict, violation, failed, _⟩
  · exact .inl ⟨sound, by simp [done, exitStatus, clean]⟩
  · exact .inr (.inl ⟨unsound, lenient, by simp [done, exitStatus, unclean]⟩)
  · exact .inr (.inr ⟨unsound, strict, by rw [failed]; rfl⟩)

theorem exists_result_of_exitStatus (done : exitStatus (run request around).result ≠ 1) :
    ∃ made, (run request around).result = .ok made := by
  cases result : (run request around).result with
  | error failure =>
    rw [result] at done
    exact absurd rfl done
  | ok made => exact ⟨made, rfl⟩

theorem exists_ready_of_exitStatus (done : exitStatus (run request around).result ≠ 1) :
    ∃ settings trace, Ready request around settings trace := by
  obtain ⟨made, result⟩ := exists_result_of_exitStatus done
  exact exists_ready_of_result result

theorem exitStatus_eq_zero_iff :
    exitStatus (run request around).result = 0 ↔
      ∃ settings trace, Ready request around settings trace ∧ Sound request settings trace := by
  constructor
  · intro zero
    have done : exitStatus (run request around).result ≠ 1 := by omega
    obtain ⟨settings, trace, ready⟩ := exists_ready_of_exitStatus done
    rcases exitStatus_cases ready with ⟨sound, _⟩ | ⟨_, _, two⟩ | ⟨_, _, one⟩
    · exact ⟨settings, trace, ready, sound⟩
    · omega
    · omega
  · rintro ⟨settings, trace, ready, sound⟩
    rcases exitStatus_cases ready with ⟨_, zero⟩ | ⟨unsound, _⟩ | ⟨unsound, _⟩
    · exact zero
    · exact absurd sound unsound
    · exact absurd sound unsound

theorem exitStatus_eq_two_iff :
    exitStatus (run request around).result = 2 ↔
      ∃ settings trace, Ready request around settings trace ∧ ¬ Sound request settings trace ∧
        Lenient request settings := by
  constructor
  · intro two
    have done : exitStatus (run request around).result ≠ 1 := by omega
    obtain ⟨settings, trace, ready⟩ := exists_ready_of_exitStatus done
    rcases exitStatus_cases ready with ⟨_, zero⟩ | ⟨unsound, lenient, _⟩ | ⟨_, _, one⟩
    · omega
    · exact ⟨settings, trace, ready, unsound, lenient⟩
    · omega
  · rintro ⟨settings, trace, ready, unsound, lenient⟩
    rcases exitStatus_cases ready with ⟨sound, _⟩ | ⟨_, _, two⟩ | ⟨_, strict, _⟩
    · exact absurd sound unsound
    · exact two
    · exact absurd lenient strict

theorem exitStatus_eq_one_iff :
    exitStatus (run request around).result = 1 ↔
      ∀ settings trace, Ready request around settings trace →
        ¬ Sound request settings trace ∧ ¬ Lenient request settings := by
  constructor
  · intro one settings trace ready
    rcases exitStatus_cases ready with ⟨_, zero⟩ | ⟨_, _, two⟩ | ⟨unsound, strict, _⟩
    · omega
    · omega
    · exact ⟨unsound, strict⟩
  · intro strict
    by_contra other
    obtain ⟨settings, trace, ready⟩ := exists_ready_of_exitStatus other
    obtain ⟨unsound, demanding⟩ := strict settings trace ready
    rcases exitStatus_cases ready with ⟨sound, _⟩ | ⟨_, lenient, _⟩ | ⟨_, _, one⟩
    · exact unsound sound
    · exact demanding lenient
    · exact other one

/-- A program whose settings lie in its user's listed home, where no one may read them. -/
def guardedInput : Surroundings where
  environment := { value? := fun _ => none, listedHome := some "/home/user" }
  files path :=
    if path = "/home/user/.config/mailscope/config.toml" then .ok (.closed .accessDenied)
    else .error .notFound
  input := some []

example : exitStatus (run {} guardedInput).result = 1 := by
  rw [exitStatus_eq_one_iff]
  intro settings trace ready
  have settled : Settled guardedInput.files
      (some ⟨"/home/user/.config/mailscope/config.toml", false⟩) settings := ready.settled
  obtain ⟨content, file⟩ := settled.exists_file rfl
  cases file

/-- A text in which a greater actor is overdrawn before a lesser one. -/
def crossedText : List UInt8 :=
  Text.Utf8.encode ("timestamp,actor_id,gen_id,thread_id,eventType\n" ++ "5,5,,main,Dequeue\n" ++
    "6,3,,main,Dequeue\n" ++ "9,,,main,StopSystem\n").toList

/-- The trace it holds. -/
def crossedTrace : Trace :=
  ⟨[⟨5, some 5, none, "main", .dequeue⟩, ⟨6, some 3, none, "main", .dequeue⟩,
    ⟨9, none, none, "main", .stopSystem⟩], by decide⟩

/-- That text as the input of a program with no environment and no files. -/
def crossedInput : Surroundings :=
  ⟨{ value? := fun _ => none }, fun _ => .error .notFound, some crossedText⟩

/-- A run that a violation aborts. -/
def strictRequest : Request :=
  { abortOnViolation := true }

theorem ofCsv_crossedText : Trace.ofCsv crossedText = .ok crossedTrace :=
  Trace.ofCsv_eq_ok (by decide +kernel)

theorem ready_crossedInput : Ready strictRequest crossedInput {} crossedTrace where
  settled := .nowhere
  fed := .input (fun path named => by cases named) rfl ofCsv_crossedText
  stopped := by decide

theorem overdrawn_crossedTrace : Report.Overdrawn crossedTrace (.actor 3) :=
  ⟨6, by decide⟩

theorem asked_crossedTrace : Asked strictRequest {} crossedTrace (.actor 3) :=
  .seen rfl rfl (List.mem_cons_of_mem _ List.mem_cons_self) rfl

theorem key_of_firstViolation {violation : Depth.Violation}
    (first : FirstViolation strictRequest {} crossedTrace violation) : violation.key = .actor 3 := by
  rcases first.least _ asked_crossedTrace overdrawn_crossedTrace with same | less
  · exact same.symm
  · have asked := first.asked
    generalize violation.key = key at asked less
    cases asked with
    | pool => cases less
    | requested listed => cases listed
    | settled _ chosen _ => cases chosen
    | seen _ _ member owned =>
      simp only [crossedTrace, List.mem_cons, List.not_mem_nil, or_false] at member
      rcases member with rfl | rfl | rfl <;> cases owned
      · cases less
      · rfl

end QueueDepth.Command
