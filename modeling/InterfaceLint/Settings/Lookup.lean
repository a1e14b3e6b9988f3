import InterfaceLint.Notice
import InterfaceLint.Wire.Settings

/-!
# Looking up settings

The settings file of a directory is the nearest one in the directory itself
or in a parent, up to and including the first that holds a repository.
-/

set_option autoImplicit false

namespace InterfaceLint

inductive LookupError where
  | unreadable (path : String) (fault : DiskFault)
  | malformed (path : String) (error : Json.ReadError)
  | invalid (error : SettingsError)
  deriving DecidableEq

def LookupError.message : LookupError → String
  | .unreadable path fault =>
    "Failed to read config file: " ++ Text.quote path ++ ": " ++ fault.message
  | .malformed path error =>
    "Failed to parse config file: " ++ Text.quote path ++ ": " ++ error.message
  | .invalid error => error.message

namespace Settings

/-- The settings file of the first directory that has one; a directory with a
repository ends the search. -/
def findAmong (disk : Disk) : List String → Option String
  | [] => none
  | directory :: directories =>
    let candidate := Path.join directory settingsFileName
    if disk.contains candidate then some candidate
    else if disk.contains (Path.join directory ".git") then none
    else findAmong disk directories

def find? (disk : Disk) (start : String) : Option String := findAmong disk (Path.ancestors start)

def read (disk : Disk) (path : String) : Except LookupError Settings := do
  let text ← (disk.readText path).mapError (.unreadable path)
  let settings ← (Settings.parse text).mapError (.malformed path)
  settings.validate.mapError .invalid
  return settings

/-- The settings for a starting path and whether they come from a file. -/
def load (disk : Disk) (start : String) : Except LookupError (Settings × Bool) :=
  match find? disk start with
  | some path => do return (← read disk path, true)
  | none => .ok ({}, false)

end Settings

end InterfaceLint
