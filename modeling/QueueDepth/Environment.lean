import QueueDepth.Text.Pieces

/-!
# Environments

What the system tells a program about its user: the variables that are set, and the home directory that
the list of users has for the user.

* `Environment.home?`: the home directory of the user.
* `Environment.homeOf?`: the home directory of a user in the text of the list.
-/

namespace QueueDepth

/-- What a program is told about its user. -/
structure Environment where
  /-- What an environment variable is set to. -/
  value? : String → Option String
  /-- The home directory in the list of users, if the user is listed. -/
  listedHome : Option String := none

namespace Environment

instance : CoeFun Environment fun _ => String → Option String :=
  ⟨value?⟩

/-- Variables alone are the environment of a user who is not listed. -/
instance : Coe (String → Option String) Environment :=
  ⟨fun value? => { value? }⟩

/-- The home directory of the user: the one that is set, or, if none is or an empty one, the one that is
listed. -/
def home? (environment : Environment) : Option String :=
  ((environment "HOME").filter (· ≠ "")).or environment.listedHome

/-- The home directory of a user in the text of the list of users. It has a line of seven fields for
each, with the number of the user in the third and the home in the sixth. -/
def homeOf? (number list : String) : Option String :=
  (Text.pieces '\n' list).findSome? fun line =>
    match Text.pieces ':' line with
    | [_, _, user, _, _, home, _] => if user = number then some home else none
    | _ => none

end Environment

end QueueDepth
