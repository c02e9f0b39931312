import QueueDepth.Files
import QueueDepth.Settings.Location
import QueueDepth.Settings.Reading
import QueueDepth.Text.Utf8

/-!
# Opening settings

A file that is not there leaves the defaults, unless the user named it. One that is there must be read,
whoever named it.
-/

namespace QueueDepth

/-- Why there are no settings at a path. -/
inductive SettingsFault where
  /-- There is no file, but the user named one. -/
  | missing (path : String)
  | unreadable (path : String) (fault : FileFault)
  | rejected (path : String) (rejection : Rejection)

namespace SettingsFault

/-- The message that reports missing settings, without the cause behind it. -/
def message : SettingsFault → String
  | missing path => "config file not found: " ++ path
  | unreadable path _ => "failed to read config file " ++ path
  | rejected path _ => "failed to parse config file " ++ path

/-- The cause behind the message. -/
def cause? : SettingsFault → Option String
  | missing _ => none
  | unreadable _ fault => some fault.message
  | rejected _ rejection => some rejection.message

end SettingsFault

namespace Settings

/-- The settings in the content of a file. -/
def ofBytes (path : String) (content : List UInt8) : Except SettingsFault Settings :=
  match Text.Utf8.decode content with
  | .error _ => .error (.unreadable path .notUtf8)
  | .ok text => (Settings.ofToml text).mapError (.rejected path)

/-- The settings at a location, or none if nothing is there and nothing has to be. -/
def ofFile? (files : Files) (location : Location) : Except SettingsFault (Option Settings) :=
  match files location.path with
  | .error _ => if location.explicit then .error (.missing location.path) else .ok none
  | .ok entry =>
    match entry.bytes with
    | .error fault => .error (.unreadable location.path fault)
    | .ok content => (ofBytes location.path content).map some

/-- The settings at a location. Without any, the defaults hold. -/
def load (files : Files) (location : Option Location) : Except SettingsFault Settings :=
  match location with
  | none => .ok {}
  | some location => (ofFile? files location).map (·.getD {})

end Settings

end QueueDepth
