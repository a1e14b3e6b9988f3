import InterfaceLint.CallSite
import InterfaceLint.Declaration

/-!
# Analysis of a model

Both rules are run over the model, the findings get the severities asked for,
and the result is put in order.
-/

set_option autoImplicit false

namespace InterfaceLint

structure AnalysisOptions where
  enabled : Rule → Bool
  /-- The severity in place of a rule's own. -/
  severity? : Rule → Option Severity
  analyzeGenerated : Bool

def Rule.enabledByDefault (rule : Rule) : Bool :=
  match rule.descriptor? with
  | some descriptor => descriptor.enabledByDefault
  | none => false

/-- The rules enabled by default, with their own severities, on code that is
not generated. -/
def AnalysisOptions.default : AnalysisOptions where
  enabled := Rule.enabledByDefault
  severity? _ := none
  analyzeGenerated := false

def AnalysisOptions.adjust (options : AnalysisOptions) (finding : Finding) : Finding :=
  match options.severity? finding.rule with
  | some severity => finding.withSeverity severity
  | none => finding

namespace Model

/-- The findings of the enabled rules: calls first, then declarations, each in
document order. -/
def rawFindings (model : Model) (options : AnalysisOptions) : List Finding :=
  (if options.enabled .interfaceArgument then
    (CallSite.checkAll model options.analyzeGenerated).map Finding.call else []) ++
  (if options.enabled .markerDeclaration then
    (Declaration.checkAll model options.analyzeGenerated).map Finding.declaration else [])

def analyze (model : Model) (options : AnalysisOptions) : List Finding :=
  Finding.sorted ((model.rawFindings options).map options.adjust)

end Model

end InterfaceLint
