import InterfaceLint.Analysis
import InterfaceLint.Proofs.Finding.StableSort

/-!
# Options as a filter on the findings

Options say which rules run and with which severities.  Neither choice reaches
into the analysis: it gives the findings of an analysis with all rules and
their own severities, less those of the rules that are off, in the same order
and with the severities asked for.
-/

set_option autoImplicit false

namespace InterfaceLint

namespace Model

end Model

end InterfaceLint
