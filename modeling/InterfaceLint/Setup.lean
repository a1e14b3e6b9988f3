import InterfaceLint.CheckRun

/-!
# Setting up a project

A settings file with the defaults is written to a directory that has none.
-/

set_option autoImplicit false

namespace InterfaceLint

inductive SetupResult where
  | created
  | alreadyThere
  deriving DecidableEq

def SetupResult.exitStatus : SetupResult → ExitStatus
  | .created => .success
  | .alreadyThere => .failure

/-- Write the default settings into a directory; a file that is there stays. -/
def setup (disk : Disk) (directory : String) : Except RunError (Disk × SetupResult) :=
  let path := Path.join directory settingsFileName
  if disk.contains path then .ok (disk, .alreadyThere)
  else do
    let written ← (disk.writeText path Settings.defaultText).mapError (.unwritable path)
    return (written, .created)

end InterfaceLint
