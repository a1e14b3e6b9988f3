/-!
# Severities
-/

set_option autoImplicit false

namespace InterfaceLint

inductive Severity where
  | error
  | warning
  | info
  deriving DecidableEq

def Severity.name : Severity → String
  | .error => "error"
  | .warning => "warning"
  | .info => "info"

end InterfaceLint
