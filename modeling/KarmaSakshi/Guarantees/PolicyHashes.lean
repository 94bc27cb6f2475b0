import KarmaSakshi.Domain.PayloadIdentity
import KarmaSakshi.Guarantees.AssessmentLimits

/-!
What the hash of a scoring policy tells of its assessments.

The hash sorts the patterns for targets and the restricted types; the assessment tries the
patterns as they are listed, and reports those that match in that order.
-/

namespace KarmaSakshi.Guarantees

open KarmaSakshi.Domain KarmaSakshi.Intelligence

set_option autoImplicit false

attribute [ext] PolicyFields

/-! ### Policies of one hash -/

section Hashes

variable {floats : FloatArithmetic} {first second : IntelligencePolicy floats}

/-- The same policy with its texts listed otherwise. -/
def listing (policy : IntelligencePolicy floats) (patterns restricted : List String) :
    IntelligencePolicy floats where
  toPolicyFields :=
    { policy.toPolicyFields with
      sensitiveTargetPatterns := patterns
      restrictedEffectTypes := restricted }
  valid := { policy.valid with }

end Hashes

/-! ### What is reproducible of an assessment -/

section Patterns

variable {search : (pattern target : String) → Option Bool} {manifest : EffectManifest}

end Patterns

/-! ### Signals and marks -/

section Signals

variable {builder result : ScoreBuilder} {marks : List Mark}

end Signals

section Assessments

variable {floats : FloatArithmetic} {context : AssessmentContext}
  {policy : IntelligencePolicy floats} {input : AssessmentInput} {patterns restricted : List String}

end Assessments

namespace HashedPolicies

open KarmaSakshi.Engine

end HashedPolicies

end KarmaSakshi.Guarantees
