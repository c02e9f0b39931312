import Mathlib.Algebra.Group.Nat.Defs
import QueueDepth.Command.Arguments
import QueueDepth.Proofs.Number.Decimal
import QueueDepth.Proofs.Text.Pieces
import QueueDepth.Proofs.Trace.Loaded

/-!
# Flags in front of a command line

Arguments are taken one after the other, so what stands in front is a state of taking the rest. Two facts
carry over from there to the whole command line:

* `Progress.finish_of_settle`: it makes no difference whether a value that is there is read at once or
  together with the next argument.
* `Progress.carries_finish`: a command line that neither chooses a format nor has violations abort the
  run does the same behind such flags, and leaves them as they are.

So flags for all settings can be put in front of a command line that has none (`ofArguments_flags`).
-/

namespace QueueDepth.Command

/-! ## Flags -/

/-- Actors in one argument. -/
def idList (ids : List Nat) : String :=
  ",".intercalate (ids.map Nat.repr)

/-- The flags that ask for actors, a format and a policy. -/
def flags (ids : List Nat) (format : Format) (policy : Policy) : List String :=
  ["-a", idList ids, "--format", format.name]
    ++ if policy = .abort then ["--abort-on-violation"] else []

/-- What is taken once is there. -/
theorem isSome_of_once {α : Type} {parameter : Parameter} {earlier taken : Option α} {value : Reading α}
    (ok : once parameter earlier value = .ok taken) : taken.isSome = true := by
  unfold once at ok
  split at ok
  · cases ok
  · cases value with
    | error detour => cases ok
    | ok a =>
      cases ok
      rfl

namespace Request

/-- Neither is a format chosen, nor shall violations abort the run. -/
structure Unmarked (request : Request) : Prop where
  format : request.format = none
  lenient : request.abortOnViolation = false

/-- A request with actors in front of its own, a format and a policy. -/
def flagged (request : Request) (ids : List Nat) (format : Format) (policy : Policy) : Request :=
  { request with
    actors := ids ++ request.actors
    format := some format
    abortOnViolation := policy = .abort }

variable {request request' : Request} {ids : List Nat} {format : Format} {policy : Policy}
  {parameter : Parameter} {value : String}

/-- Values are taken up the same with flags, as long as they choose no format. -/
theorem setValue_flagged (ok : request.setValue parameter value = .ok request')
    (unmarked : request'.Unmarked) :
    request.Unmarked ∧ (request.flagged ids format policy).setValue parameter value =
      .ok (request'.flagged ids format policy) := by
  cases parameter with
  | trace =>
    obtain ⟨trace, read, done⟩ := bind_eq_ok_iff.mp ok
    cases done
    exact ⟨⟨unmarked.format, unmarked.lenient⟩, bind_eq_ok_iff.mpr ⟨trace, read, rfl⟩⟩
  | actors =>
    obtain ⟨more, read, done⟩ := bind_eq_ok_iff.mp ok
    cases done
    refine ⟨⟨unmarked.format, unmarked.lenient⟩, bind_eq_ok_iff.mpr ⟨more, read, ?_⟩⟩
    simp [flagged, pure, Except.pure]
  | format =>
    obtain ⟨chosen, read, done⟩ := bind_eq_ok_iff.mp ok
    cases done
    have there := isSome_of_once read
    have none : chosen = none := unmarked.format
    rw [none] at there
    cases there
  | config =>
    obtain ⟨config, read, done⟩ := bind_eq_ok_iff.mp ok
    cases done
    exact ⟨⟨unmarked.format, unmarked.lenient⟩, bind_eq_ok_iff.mpr ⟨config, read, rfl⟩⟩
  | _ => cases ok

theorem setFlag_flagged (ok : request.setFlag parameter = .ok request') (unmarked : request'.Unmarked) :
    request.Unmarked ∧ (request.flagged ids format policy).setFlag parameter =
      .ok (request'.flagged ids format policy) := by
  cases parameter with
  | abortOnViolation =>
    unfold setFlag at ok
    dsimp only at ok
    split at ok
    · cases ok
    · cases ok
      cases unmarked.lenient
  | verbose =>
    cases ok
    exact ⟨⟨unmarked.format, unmarked.lenient⟩, rfl⟩
  | _ => cases ok

end Request

namespace Progress

variable {progress progress' settled : Progress} {ids : List Nat} {format : Format} {policy : Policy}
  {parameter : Parameter} {joined : Option String} {argument : String}

/-- A state of taking arguments, with flags taken before. -/
def flagged (progress : Progress) (ids : List Nat) (format : Format) (policy : Policy) : Progress :=
  { progress with request := progress.request.flagged ids format policy }

/-- A way to go on that does the same with flags taken before, if it leads to no flags of its own. A flag
that is taken stays, so there are none of its own before either. -/
def Carries (ids : List Nat) (format : Format) (policy : Policy) (next : Progress → Reading Progress) :
    Prop :=
  ∀ progress progress', next progress = .ok progress' → progress'.request.Unmarked →
    progress.request.Unmarked ∧
      next (progress.flagged ids format policy) = .ok (progress'.flagged ids format policy)

theorem Carries.bind {first second : Progress → Reading Progress} (left : Carries ids format policy first)
    (right : Carries ids format policy second) :
    Carries ids format policy fun progress => first progress >>= second := by
  intro progress progress' ok unmarked
  obtain ⟨middle, reached, ok⟩ := bind_eq_ok_iff.mp ok
  obtain ⟨between, behind⟩ := right middle progress' ok unmarked
  obtain ⟨before, ahead⟩ := left progress middle reached between
  exact ⟨before, bind_eq_ok_iff.mpr ⟨_, ahead, behind⟩⟩

theorem carries_error (detour : Detour) : Carries ids format policy fun _ => .error detour := by
  intro _ _ ok
  cases ok

/-- Anything but the request may be changed. -/
theorem carries_update {change : Progress → Progress}
    (keeps : ∀ progress, (change progress).request = progress.request)
    (commutes : ∀ progress : Progress, change (progress.flagged ids format policy) =
      (change progress).flagged ids format policy) :
    Carries ids format policy fun progress => .ok (change progress) := by
  intro progress progress' ok unmarked
  cases ok
  rw [keeps] at unmarked
  exact ⟨unmarked, congrArg Except.ok (commutes progress)⟩

theorem carries_settle : Carries ids format policy settle := by
  intro progress progress' ok unmarked
  obtain ⟨request, pending, only, seen⟩ := progress
  rcases pending with _ | ⟨parameter, _ | value⟩
  · cases ok
    exact ⟨unmarked, rfl⟩
  · cases ok
  · obtain ⟨after, taken, done⟩ := bind_eq_ok_iff.mp ok
    cases done
    obtain ⟨before, same⟩ := Request.setValue_flagged taken unmarked
    exact ⟨before, bind_eq_ok_iff.mpr ⟨_, same, rfl⟩⟩

theorem carries_takeOperand (argument : String) :
    Carries ids format policy (takeOperand · argument) := by
  have taken : Carries ids format policy fun progress => progress.settle >>= fun progress =>
      .ok { progress with pending := some (.trace, some argument), operandSeen := true } :=
    carries_settle.bind (carries_update (fun _ => rfl) fun _ => rfl)
  intro progress progress' ok unmarked
  change progress.takeOperand argument = .ok progress' at ok
  unfold takeOperand at ok
  split at ok
  · cases ok
  · rename_i first
    obtain ⟨before, same⟩ := taken progress progress' ok unmarked
    exact ⟨before, (if_neg first).trans same⟩

theorem carries_setValue (parameter : Parameter) (value : String) :
    Carries ids format policy fun progress => progress.request.setValue parameter value >>= fun request =>
      .ok { progress with request } := by
  intro progress progress' ok unmarked
  obtain ⟨after, taken, done⟩ := bind_eq_ok_iff.mp ok
  cases done
  obtain ⟨before, same⟩ := Request.setValue_flagged taken unmarked
  exact ⟨before, bind_eq_ok_iff.mpr ⟨_, same, rfl⟩⟩

theorem carries_setFlag (parameter : Parameter) :
    Carries ids format policy fun progress => progress.request.setFlag parameter >>= fun request =>
      .ok { progress with request } := by
  intro progress progress' ok unmarked
  obtain ⟨after, taken, done⟩ := bind_eq_ok_iff.mp ok
  cases done
  obtain ⟨before, same⟩ := Request.setFlag_flagged taken unmarked
  exact ⟨before, bind_eq_ok_iff.mpr ⟨_, same, rfl⟩⟩

theorem carries_takeOption (parameter : Parameter) (joined : Option String) :
    Carries ids format policy (takeOption · parameter joined) := by
  unfold takeOption
  cases parameter.hasValue with
  | true =>
    cases joined with
    | none => exact carries_settle.bind (carries_update (fun _ => rfl) fun _ => rfl)
    | some value => exact carries_settle.bind (carries_setValue parameter value)
  | false =>
    cases joined with
    | none => exact carries_settle.bind (carries_setFlag parameter)
    | some value => exact carries_error _

theorem carries_takeLong (text : List Char) : Carries ids format policy (takeLong · text) := by
  unfold takeLong
  dsimp only
  split
  · exact carries_takeOption _ _
  · exact carries_error _

theorem carries_takeLetters (letters : List Char) :
    Carries ids format policy (takeLetters · letters) := by
  induction letters with
  | nil => exact carries_update (fun _ => rfl) fun _ => rfl
  | cons letter rest ih =>
    unfold takeLetters
    split
    · exact carries_error _
    · split
      · exact carries_takeOption _ _
      · exact (carries_takeOption _ _).bind ih

theorem takePlain_of_waiting (waits : progress.pending = some (parameter, none)) :
    progress.takePlain argument = .ok { progress with pending := some (parameter, some argument) } := by
  unfold takePlain
  rw [waits]

theorem takePlain_of_idle (idle : ∀ parameter, progress.pending ≠ some (parameter, none)) :
    progress.takePlain argument = progress.takeOperand argument := by
  unfold takePlain
  split
  · rename_i parameter waits
    exact absurd waits (idle parameter)
  · rfl

theorem carries_takePlain (argument : String) : Carries ids format policy (takePlain · argument) := by
  intro progress progress' ok unmarked
  change progress.takePlain argument = .ok progress' at ok
  by_cases waits : ∃ parameter, progress.pending = some (parameter, none)
  · obtain ⟨parameter, waits⟩ := waits
    rw [takePlain_of_waiting waits] at ok
    cases ok
    exact ⟨unmarked, takePlain_of_waiting waits⟩
  · have idle := not_exists.mp waits
    rw [takePlain_of_idle idle] at ok
    obtain ⟨before, same⟩ := carries_takeOperand argument progress progress' ok unmarked
    have idle' : ∀ parameter, (progress.flagged ids format policy).pending ≠ some (parameter, none) := idle
    exact ⟨before, (takePlain_of_idle idle').trans same⟩

theorem carries_take (argument : String) : Carries ids format policy (take · argument) := by
  intro progress progress' ok unmarked
  revert ok
  have only : (progress.flagged ids format policy).operandsOnly = progress.operandsOnly := rfl
  dsimp only
  rw [take, take, only]
  split
  · intro ok
    exact carries_takeOperand argument progress progress' ok unmarked
  · split
    · intro ok
      cases ok
      exact ⟨unmarked, rfl⟩
    · intro ok
      exact carries_takeLong _ progress progress' ok unmarked
    · intro ok
      exact carries_takeLetters _ progress progress' ok unmarked
    · intro ok
      exact carries_takePlain argument progress progress' ok unmarked

/-! ## Whole command lines -/

/-- Take all arguments and read the value that is pending in the end. -/
def finish (arguments : List String) (progress : Progress) : Reading Progress :=
  arguments.foldlM take progress >>= settle

theorem finish_cons (argument : String) (rest : List String) (progress : Progress) :
    finish (argument :: rest) progress = progress.take argument >>= finish rest := by
  rw [finish, List.foldlM_cons, bind_assoc]
  rfl

theorem carries_finish (arguments : List String) : Carries ids format policy (finish arguments) := by
  induction arguments with
  | nil => exact carries_settle
  | cons argument rest ih =>
    have step : Carries ids format policy fun progress => progress.take argument >>= finish rest :=
      (carries_take argument).bind ih
    intro progress progress' ok unmarked
    rw [finish_cons] at ok ⊢
    exact step progress progress' ok unmarked

/-! ## Values that are there -/

/-- What settling leaves: nothing is pending, and operands stand as before. -/
theorem of_settle (settles : progress.settle = .ok settled) :
    settled.pending = none ∧ settled.operandsOnly = progress.operandsOnly ∧
      settled.operandSeen = progress.operandSeen ∧
      ∀ parameter, progress.pending ≠ some (parameter, none) := by
  obtain ⟨request, pending, only, seen⟩ := progress
  rcases pending with _ | ⟨parameter, _ | value⟩
  · cases settles
    exact ⟨rfl, rfl, rfl, by simp⟩
  · cases settles
  · obtain ⟨after, taken, done⟩ := bind_eq_ok_iff.mp settles
    cases done
    exact ⟨rfl, rfl, rfl, by simp⟩

theorem settle_of_pending (none : progress.pending = none) : progress.settle = .ok progress := by
  unfold settle
  rw [none]

/-- Settling twice is settling once. -/
theorem settle_settled (settles : progress.settle = .ok settled) : settled.settle = .ok settled :=
  settle_of_pending (of_settle settles).1

theorem settle_operandsOnly (settles : progress.settle = .ok settled) :
    { progress with operandsOnly := true }.settle = .ok { settled with operandsOnly := true } := by
  obtain ⟨request, pending, only, seen⟩ := progress
  rcases pending with _ | ⟨parameter, _ | value⟩
  · cases settles
    rfl
  · cases settles
  · obtain ⟨after, taken, done⟩ := bind_eq_ok_iff.mp settles
    cases done
    exact bind_eq_ok_iff.mpr ⟨after, taken, rfl⟩

theorem takeOperand_of_settle (settles : progress.settle = .ok settled) (argument : String) :
    progress.takeOperand argument = settled.takeOperand argument := by
  obtain ⟨_, _, seen, _⟩ := of_settle settles
  rw [takeOperand, takeOperand, seen, settles, settle_settled settles]

theorem takeOption_of_settle (settles : progress.settle = .ok settled) (parameter : Parameter)
    (joined : Option String) :
    progress.takeOption parameter joined = settled.takeOption parameter joined := by
  unfold takeOption
  rw [settles, settle_settled settles]

theorem takeLetters_of_settle (settles : progress.settle = .ok settled) (letter : Char)
    (rest : List Char) :
    progress.takeLetters (letter :: rest) = settled.takeLetters (letter :: rest) := by
  simp only [takeLetters, takeOption_of_settle settles]

theorem takeLong_of_settle (settles : progress.settle = .ok settled) (text : List Char) :
    progress.takeLong text = settled.takeLong text := by
  simp only [takeLong, takeOption_of_settle settles]

theorem takePlain_of_settle (settles : progress.settle = .ok settled) (argument : String) :
    progress.takePlain argument = settled.takePlain argument := by
  obtain ⟨none, _, _, idle⟩ := of_settle settles
  rw [takePlain_of_idle idle, takePlain_of_idle (by simp [none]), takeOperand_of_settle settles]

/-- It makes no difference whether a value is read at once or with what follows. -/
theorem finish_of_settle (settles : progress.settle = .ok settled) (arguments : List String) :
    finish arguments progress = finish arguments settled := by
  induction arguments generalizing progress settled with
  | nil => exact settles.trans (settle_settled settles).symm
  | cons argument rest ih =>
    obtain ⟨_, only, _, _⟩ := of_settle settles
    rw [finish_cons, finish_cons, take, take, only]
    split
    · rw [takeOperand_of_settle settles]
    · split
      · -- the mark that ends the options reads no value, so the states still differ
        exact ih (settle_operandsOnly settles)
      · rw [takeLong_of_settle settles]
      · rw [takeLetters_of_settle settles]
      · rw [takePlain_of_settle settles]

end Progress

/-! ## Flags in front -/

theorem ofArguments_eq_ok_iff {arguments : List String} {request : Request} :
    Request.ofArguments arguments = .ok request ↔
      ∃ last, Progress.finish arguments {} = .ok last ∧ last.request = request := by
  have whole : Request.ofArguments arguments =
      Progress.finish arguments {} >>= fun last => .ok last.request := (bind_assoc _ _ _).symm
  rw [whole, bind_eq_ok_iff]
  constructor
  · intro accepted
    obtain ⟨last, finished, done⟩ := accepted
    exact ⟨last, finished, Except.ok.inj done⟩
  · intro accepted
    obtain ⟨last, finished, rfl⟩ := accepted
    exact ⟨last, finished, rfl⟩

variable {ids : List Nat}

theorem notMem_of_mem_map_repr {c : Char} (other : c.isDigit = false) :
    ∀ text ∈ ids.map Nat.repr, c ∉ text.toList := by
  intro text listed inside
  obtain ⟨id, _, rfl⟩ := List.mem_map.mp listed
  rw [Nat.toList_repr] at inside
  rw [Number.isDigit_of_mem_decimal inside] at other
  cases other

/-- The decimals of actors are read back from their list. -/
theorem mapM_readActorId (nonempty : ids ≠ []) (small : ∀ id ∈ ids, id < 2 ^ 63) :
    (Text.pieces ',' (idList ids)).mapM readActorId = .ok ids := by
  rw [idList, Text.pieces_intercalate rfl (by simpa using nonempty) (notMem_of_mem_map_repr rfl)]
  clear nonempty
  induction ids with
  | nil => rfl
  | cons id rest ih =>
    obtain ⟨here, later⟩ := List.forall_mem_cons.mp small
    have read : readActorId id.repr = .ok id := by
      have fits : id < Number.unsignedBound := here.trans (by decide)
      rw [readActorId, Nat.toList_repr, Number.readUnsigned_toDigits fits]
      rfl
    rw [List.map_cons, List.mapM_cons]
    exact bind_eq_ok_iff.mpr ⟨id, read, bind_eq_ok_iff.mpr ⟨rest, ih later, rfl⟩⟩

theorem hyphen_notMem_idList : '-' ∉ (idList ids).toList := by
  rw [idList, String.toList_intercalate]
  intro inside
  rcases Text.mem_of_mem_intercalate inside with between | ⟨text, listed, there⟩
  · exact absurd between (by decide)
  · obtain ⟨decimal, member, rfl⟩ := List.mem_map.mp listed
    exact notMem_of_mem_map_repr rfl decimal member there

/-- The value of an option is not read before the next argument. -/
theorem Progress.take_value {progress : Progress} {parameter : Parameter} {argument : String}
    (waits : progress.pending = some (parameter, none)) (options : progress.operandsOnly = false)
    (plain : '-' ∉ argument.toList) :
    progress.take argument = .ok { progress with pending := some (parameter, some argument) } := by
  unfold take
  rw [if_neg (by simp [options])]
  split
  · rename_i same
    simp [same] at plain
  · rename_i same
    simp [same] at plain
  · rename_i same
    simp [same] at plain
  · exact takePlain_of_waiting waits

theorem Progress.settle_actors (nonempty : ids ≠ []) (small : ∀ id ∈ ids, id < 2 ^ 63) :
    settle { pending := some (.actors, some (idList ids)) } = .ok { request := { actors := ids } } :=
  bind_eq_ok_iff.mpr ⟨{ actors := ids },
    bind_eq_ok_iff.mpr ⟨ids, mapM_readActorId nonempty small, rfl⟩, rfl⟩

theorem Progress.settle_format (format : Format) :
    settle { request := { actors := ids }, pending := some (.format, some format.name) } =
      .ok { request := { actors := ids, format := some format } } := by
  cases format <;> rfl

/-- The state of taking arguments behind flags. -/
theorem Progress.foldlM_take_flags (nonempty : ids ≠ []) (small : ∀ id ∈ ids, id < 2 ^ 63)
    (format : Format) (policy : Policy) :
    ∃ progress, (flags ids format policy).foldlM take {} = .ok progress ∧
      progress.settle = .ok (({} : Progress).flagged ids format policy) := by
  have named : take { pending := some (.actors, some (idList ids)) } "--format" =
      .ok { request := { actors := ids }, pending := some (.format, none) } :=
    bind_eq_ok_iff.mpr ⟨_, settle_actors nonempty small, rfl⟩
  have chosen : take { request := { actors := ids }, pending := some (.format, none) } format.name =
      .ok { request := { actors := ids }, pending := some (.format, some format.name) } :=
    take_value rfl rfl (by cases format <;> decide)
  have first : ["-a", idList ids, "--format", format.name].foldlM take {} =
      .ok { request := { actors := ids }, pending := some (.format, some format.name) } := by
    refine bind_eq_ok_iff.mpr ⟨_, rfl, ?_⟩
    refine bind_eq_ok_iff.mpr ⟨_, take_value rfl rfl hyphen_notMem_idList, ?_⟩
    refine bind_eq_ok_iff.mpr ⟨_, named, ?_⟩
    exact bind_eq_ok_iff.mpr ⟨_, chosen, rfl⟩
  rw [flags, List.foldlM_append, first]
  cases policy with
  | report =>
    refine ⟨_, rfl, ?_⟩
    rw [settle_format]
    simp [flagged, Request.flagged]
  | abort =>
    have strict : take { request := { actors := ids }, pending := some (.format, some format.name) }
        "--abort-on-violation" =
        .ok { request := { actors := ids, format := some format, abortOnViolation := true } } :=
      bind_eq_ok_iff.mpr ⟨_, settle_format format, rfl⟩
    refine ⟨_, bind_eq_ok_iff.mpr ⟨_, rfl, bind_eq_ok_iff.mpr ⟨_, strict, rfl⟩⟩, ?_⟩
    simp [settle, flagged, Request.flagged]

/-- Flags for all settings may stand in front of a command line that chooses no format and does not have
violations abort the run. -/
theorem ofArguments_flags {arguments : List String} {request : Request}
    (accepted : Request.ofArguments arguments = .ok request) (unmarked : request.Unmarked)
    (nonempty : ids ≠ []) (small : ∀ id ∈ ids, id < 2 ^ 63) (format : Format) (policy : Policy) :
    Request.ofArguments (flags ids format policy ++ arguments) =
      .ok (request.flagged ids format policy) := by
  obtain ⟨last, finished, rfl⟩ := ofArguments_eq_ok_iff.mp accepted
  obtain ⟨progress, taken, settles⟩ := Progress.foldlM_take_flags nonempty small format policy
  have carries : Progress.Carries ids format policy (Progress.finish arguments) :=
    Progress.carries_finish arguments
  obtain ⟨_, carried⟩ := carries {} last finished unmarked
  refine ofArguments_eq_ok_iff.mpr ⟨last.flagged ids format policy, ?_, rfl⟩
  rw [Progress.finish, List.foldlM_append, taken]
  change Progress.finish arguments progress = _
  rw [Progress.finish_of_settle settles, carried]

end QueueDepth.Command
