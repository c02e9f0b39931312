import QueueDepth.Environment

/-!
# Where settings are

A user may name the file with the settings. Otherwise an environment variable names it, or it lies in
the user's directory for configurations. Only a file that the user named must be there.
-/

namespace QueueDepth

/-- Where the settings are expected. -/
structure Location where
  path : String
  /-- Whether the user named the file. -/
  explicit : Bool
  deriving DecidableEq

/-- The path of a name in a directory. -/
def joinPath (directory name : String) : String :=
  if directory.isEmpty || directory.toList.getLast? = some '/' then directory ++ name
  else directory ++ "/" ++ name

/-- Whether a path starts at the root. -/
def isAbsolutePath (path : String) : Bool :=
  path.toList.head? = some '/'

namespace Location

/-- The directory for configurations of a user with a home: the one that the environment names by an
absolute path, or one in the home. -/
def configurations? (environment : Environment) : Option String :=
  environment.home?.map fun home =>
    ((environment "XDG_CONFIG_HOME").filter isAbsolutePath).getD (joinPath home ".config")

/-- Where the settings are, if the user named `named`. -/
def find? (named : Option String) (environment : Environment) : Option Location :=
  match named, environment "MAILSCOPE_CONFIG_PATH" with
  | some path, _ => some ⟨path, true⟩
  | none, some path => some ⟨path, false⟩
  | none, none =>
    (configurations? environment).map fun directory =>
      ⟨joinPath (joinPath directory "mailscope") "config.toml", false⟩

end Location

end QueueDepth
