/-!
# Exit status
-/

set_option autoImplicit false

namespace InterfaceLint

inductive ExitStatus where
  | success
  /-- Findings with severity error, or a settings file that was there before. -/
  | failure
  /-- The command itself could not be carried out. -/
  | error
  deriving DecidableEq

def ExitStatus.code : ExitStatus → UInt32
  | .success => 0
  | .failure => 1
  | .error => 2

end InterfaceLint
