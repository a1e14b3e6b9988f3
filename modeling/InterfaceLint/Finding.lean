import InterfaceLint.Rule
import InterfaceLint.Symbol

/-!
# Findings

A finding carries all that a report shows of it.  Findings are ordered by
place, rule and message; findings that agree in those are kept in the order
they were found.
-/

set_option autoImplicit false

namespace InterfaceLint

inductive DeclarationFault where
  | notGeneric
  /-- The first type parameter has no interface among its constraints. -/
  | noInterfaceConstraint (typeParameter : String)
  deriving DecidableEq

def DeclarationFault.describe : DeclarationFault → String
  | .notGeneric => "method has no type parameters"
  | .noInterfaceConstraint parameter =>
    "type parameter '" ++ parameter ++ "' has no interface constraint"

/-- A call of a marked generic method whose first type argument is no
interface. -/
structure CallFinding where
  location : Location
  method : String
  typeArgument : String
  kind : TypeKind
  severity : Severity
  deriving DecidableEq

structure DeclarationFinding where
  location : Location
  method : String
  fault : DeclarationFault
  severity : Severity
  deriving DecidableEq

structure UnreadableModel where
  path : String
  error : String
  deriving DecidableEq

inductive Finding where
  | call (finding : CallFinding)
  | declaration (finding : DeclarationFinding)
  | unreadable (model : UnreadableModel)
  deriving DecidableEq

inductive Place where
  | source (location : Location)
  | file (path : String)
  deriving DecidableEq

namespace Place

def path : Place → String
  | .source location => location.file
  | .file path => path

def line : Place → UInt64
  | .source location => location.line
  | .file _ => 0

def col : Place → UInt64
  | .source location => location.col
  | .file _ => 0

def display : Place → String
  | .source location => location.display
  | .file path => path

end Place

namespace Finding

def rule : Finding → Rule
  | .call _ => .interfaceArgument
  | .declaration _ => .markerDeclaration
  | .unreadable _ => .unreadableModel

/-- A model that cannot be read is always an error. -/
def severity : Finding → Severity
  | .call finding => finding.severity
  | .declaration finding => finding.severity
  | .unreadable _ => .error

/-- The finding with another severity; a model that cannot be read keeps its own. -/
def withSeverity (severity : Severity) : Finding → Finding
  | .call finding => .call { finding with severity }
  | .declaration finding => .declaration { finding with severity }
  | .unreadable model => .unreadable model

def place : Finding → Place
  | .call finding => .source finding.location
  | .declaration finding => .source finding.location
  | .unreadable model => .file model.path

def message : Finding → String
  | .call _ => Rule.interfaceArgumentDescriptor.message []
  | .declaration finding => Rule.markerDeclarationDescriptor.message [finding.method]
  | .unreadable model => model.error

def note? : Finding → Option String
  | .call finding =>
    some ("type argument '" ++ finding.typeArgument ++ "' of '" ++ finding.method ++ "' is " ++
      finding.kind.withArticle)
  | .declaration finding => some finding.fault.describe
  | .unreadable _ => none

def hint? : Finding → Option String
  | .call _ =>
    some "pass an interface type, or mark the calling method with [OnlyAllowInterfaceCalls]"
  | _ => none

/-! ## Order -/

def order (left right : Finding) : Ordering :=
  (compare left.place.path right.place.path).then <|
  (compare left.place.line right.place.line).then <|
  (compare left.place.col right.place.col).then <|
  (compare left.rule.rank right.rule.rank).then <|
  compare left.message right.message

def before (left right : Finding) : Bool := (order left right).isLE

/-- Findings in order; those that compare equal keep their order. -/
def sorted (findings : List Finding) : List Finding := findings.mergeSort before

def countOf (severity : Severity) (findings : List Finding) : Nat :=
  findings.countP fun finding => finding.severity = severity

def isUnreadable : Finding → Bool
  | .unreadable _ => true
  | _ => false

end Finding

end InterfaceLint
