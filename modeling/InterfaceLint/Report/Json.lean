import InterfaceLint.Finding
import InterfaceLint.Json.Printer
import InterfaceLint.Wire.Symbol

/-!
# The report for tools
-/

set_option autoImplicit false

namespace InterfaceLint.Report

open Json

/-- The fields of one finding; line and column are zero for a whole file. -/
def jsonMembers (finding : Finding) : List (String × Value) :=
  [("id", .text finding.rule.id), ("severity", .text finding.severity.name),
    ("message", .text finding.message), ("file", .text finding.place.path),
    ("line", .ofCount finding.place.line), ("col", .ofCount finding.place.col)] ++
    match finding.note? with
    | some note => [("note", .text note)]
    | none => []

def jsonValue (findings : List Finding) : Value :=
  .list (findings.map fun finding => .object (jsonMembers finding))

/-- The findings as a list, in the order given, with a line break at the end. -/
def json (findings : List Finding) : String := (jsonValue findings).pretty ++ "\n"

end InterfaceLint.Report
