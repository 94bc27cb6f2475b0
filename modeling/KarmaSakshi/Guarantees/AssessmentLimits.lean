import KarmaSakshi.Engine.Scenario
import KarmaSakshi.Guarantees.PolicyPayloads
import KarmaSakshi.Intelligence.Outcomes

/-!
When an assessment is given: the limits of a signal, and the policies, manifests and facts
that keep the scorers within them.

The constructors of policies and facts check less than the signals do: a violation may have
256 characters and is named in 128, after a prefix.
-/

namespace KarmaSakshi.Guarantees

open KarmaSakshi.Domain KarmaSakshi.Intelligence
open KarmaSakshi.Evidence (RiskLevel Recommendation)

set_option autoImplicit false

/-- A text that a signal can show. -/
def Shown (detail : String) : Prop := detail.length ≤ 512

def PointsInRange (points : Int) : Prop := 0 ≤ points ∧ points ≤ 100

instance (detail : String) : Decidable (Shown detail) := inferInstanceAs (Decidable (_ ≤ _))

instance (points : Int) : Decidable (PointsInRange points) := inferInstanceAs (Decidable (_ ∧ _))

section Limits

variable {floats : FloatArithmetic} (context : AssessmentContext)
  (policy : IntelligencePolicy floats) (input : AssessmentInput)

/-- An input whose signals and whose assessment stay within their limits. -/
structure Presentable : Prop where
  riskPoints : PointsInRange
    ((policy.riskBasePoints.get (riskValue input.manifest.risk)).getD 0)
  blastPoints : PointsInRange
    ((policy.blastRadiusPoints.get (blastRadiusValue input.manifest.blastRadius)).getD 0)
  reversibilityPoints : PointsInRange
    ((policy.reversibilityPoints.get (reversibilityValue input.manifest.reversibility)).getD 0)
  cost : ∀ cost ∈ input.manifest.estimatedCost,
    Shown ("estimated_cost=" ++ cost.text ++ " thresholds(low,mid,high)=" ++
      ((policy.amountThresholds.get cost.currency).getD policy.defaultAmountThresholds).text)
  currency : ∀ cost ∈ input.manifest.estimatedCost,
    policy.amountThresholds.get cost.currency = none →
      Shown ("no policy thresholds configured for currency " ++ pyRepr cost.currency)
  lifetime :
    let ttlSeconds := floats.wholeSeconds (input.manifest.expiresAt - input.manifest.createdAt)
    policy.maxRecommendedTtlSeconds < ttlSeconds →
      Shown ("ttl_seconds=" ++ toString ttlSeconds ++ " > policy max " ++
        toString policy.maxRecommendedTtlSeconds)
  malformed : ∀ pattern ∈ policy.sensitiveTargetPatterns,
    context.search pattern input.manifest.targetResource = none →
      Shown ("policy pattern " ++ pyRepr pattern ++ " is not a valid regex")
  matched : ∀ pattern ∈ policy.sensitiveTargetPatterns,
    context.search pattern input.manifest.targetResource = some true →
      Shown ("target_resource=" ++ pyRepr input.manifest.targetResource ++ " matched pattern " ++
        pyRepr pattern)
  restricted : input.manifest.effectType ∈ policy.restrictedEffectTypes →
    Shown ("effect_type " ++ pyRepr input.manifest.effectType ++ " is on policy " ++
      pyRepr policy.policyId ++ "'s restricted list")
  deeper : policy.maxDelegationDepth < input.facts.delegationDepth →
    Shown ("depth=" ++ toString input.facts.delegationDepth ++ " > ceiling=" ++
      toString policy.maxDelegationDepth)
  ceiling : (input.facts.delegationDepth : Int) = policy.maxDelegationDepth →
    Shown ("depth=" ++ toString input.facts.delegationDepth ++ " == ceiling=" ++
      toString policy.maxDelegationDepth)
  failures : input.facts.historicalRecurrenceCount ≠ 0 →
    let failureRate := floats.ratio input.facts.historicalFailureCount
      input.facts.historicalRecurrenceCount
    policy.maxAcceptableFailureRate.exceededBy failureRate = true →
      Shown ("failure_rate=" ++ floats.twoPlaces failureRate ++ " > policy max " ++
        policy.maxAcceptableFailureRate.repr)
  violations : ∀ violation ∈ input.facts.policyViolations, violation.length ≤ 102
  version : policy.policyVersion.length ≤ 512
  approvals : 0 ≤ policy.maxRequiredHumanApprovals
  coolingOff : 0 ≤ coolingOffSeconds policy (riskLevel policy (cappedScore context policy input))

/-- The lengths of identifiers and digests. -/
structure AssessmentDrawn : Prop where
  identifier : input.assessmentId.length = 36
  manifestDigest : ∀ manifest, boundedText 128 (context.manifestDigest manifest)
  sha256 : ∀ bytes, boundedText 128 (context.sha256 bytes)

end Limits

/-! ### One scorer after the other -/

section Scorers

variable {floats : FloatArithmetic} {context : AssessmentContext}
  {policy : IntelligencePolicy floats} {input : AssessmentInput}

theorem add_fits {name detail : String} {weight : Int} {first : Char} {letters : List Char}
    (spelled : name = String.ofList (first :: letters)) (short : letters.length + 1 ≤ 128) :
    (Mark.add name weight detail).Fits ↔ PointsInRange weight ∧ Shown detail :=
  ⟨fun fits => ⟨fits.weightInRange, fits.detailBounded⟩,
    fun ⟨points, shown⟩ => ⟨bounded_spelled spelled short, points, shown⟩⟩

theorem block_fits {name detail : String} {first : Char} {letters : List Char}
    (spelled : name = String.ofList (first :: letters)) (short : letters.length + 1 ≤ 128) :
    (Mark.forceBlock name detail).Fits ↔ Shown detail :=
  ⟨fun fits => fits.detailBounded, fun shown =>
    ⟨bounded_spelled spelled short, ⟨le_refl 0, show (0 : Int) ≤ 100 by decide⟩, shown⟩⟩

/-- A mark that is made in one case alone. -/
theorem fit_when {holds : Prop} [Decidable holds] {mark : Mark} {limit : Prop}
    (fits : mark.Fits ↔ limit) :
    (∀ made ∈ (if holds then [mark] else []), made.Fits) ↔ (holds → limit) := by
  split_ifs with held
  · rw [List.forall_mem_singleton, fits]
    exact ⟨fun shown _ => shown, fun shown => shown held⟩
  · exact iff_of_true (fun _ member => by cases member) (fun again => absurd again held)

theorem risk_short (risk : RiskClassification) : (riskValue risk).length ≤ 16 := by
  cases risk <;> exact length_spelled rfl (by decide)

theorem blast_radius_short (radius : BlastRadiusClassification) : (blastRadiusValue radius).length ≤ 16 := by
  cases radius <;> exact length_spelled rfl (by decide)

theorem reversibility_short (reversibility : ReversibilityClassification) :
    (reversibilityValue reversibility).length ≤ 16 := by
  cases reversibility <;> exact length_spelled rfl (by decide)

theorem classification_fits :
    (∀ mark ∈ scoreDeclaredClassification input.manifest policy, mark.Fits) ↔
      PointsInRange ((policy.riskBasePoints.get (riskValue input.manifest.risk)).getD 0) ∧
        PointsInRange
          ((policy.blastRadiusPoints.get (blastRadiusValue input.manifest.blastRadius)).getD 0) ∧
        PointsInRange ((policy.reversibilityPoints.get
          (reversibilityValue input.manifest.reversibility)).getD 0) := by
  have risk : Shown ("manifest.risk=" ++ riskValue input.manifest.risk) :=
    le_trans (length_joined (length_spelled rfl (le_refl _)) (risk_short _)) (by decide)
  have blast : Shown ("manifest.blast_radius=" ++ blastRadiusValue input.manifest.blastRadius) :=
    le_trans (length_joined (length_spelled rfl (le_refl _)) (blast_radius_short _)) (by decide)
  have reversibility : Shown
      ("manifest.reversibility=" ++ reversibilityValue input.manifest.reversibility) :=
    le_trans (length_joined (length_spelled rfl (le_refl _)) (reversibility_short _)) (by decide)
  rw [scoreDeclaredClassification, List.forall_mem_cons, List.forall_mem_cons,
    List.forall_mem_singleton, add_fits (by rfl) (by decide), add_fits (by rfl) (by decide),
    add_fits (by rfl) (by decide)]
  exact and_congr (and_iff_left risk) (and_congr (and_iff_left blast) (and_iff_left reversibility))

theorem exposure_fits :
    (∀ mark ∈ scoreMonetaryExposure input.manifest policy, mark.Fits) ↔
      (∀ cost ∈ input.manifest.estimatedCost,
        Shown ("estimated_cost=" ++ cost.text ++ " thresholds(low,mid,high)=" ++
          ((policy.amountThresholds.get cost.currency).getD
            policy.defaultAmountThresholds).text)) ∧
      ∀ cost ∈ input.manifest.estimatedCost, policy.amountThresholds.get cost.currency = none →
        Shown ("no policy thresholds configured for currency " ++ pyRepr cost.currency) := by
  have tier : ∀ thresholds units, PointsInRange (tierPoints thresholds units) := by
    intro thresholds units
    unfold tierPoints PointsInRange
    split_ifs <;> decide
  unfold scoreMonetaryExposure
  cases input.manifest.estimatedCost with
  | none =>
      apply iff_of_true _ ⟨fun _ held => absurd held (Option.not_mem_none _),
        fun _ held => absurd held (Option.not_mem_none _)⟩
      dsimp only
      split_ifs
      · exact List.forall_mem_singleton.mpr
          ((add_fits (by rfl) (by decide)).mpr
            ⟨⟨by decide, by decide⟩, length_spelled rfl (by decide)⟩)
      · exact List.forall_mem_nil _
  | some cost =>
      have unconfigured : (policy.amountThresholds.get cost.currency).isNone = true ↔
          policy.amountThresholds.get cost.currency = none := Option.isNone_iff_eq_none
      dsimp only
      rw [List.forall_mem_cons, add_fits (by rfl) (by decide),
        fit_when (add_fits (by rfl) (by decide)), unconfigured]
      simp only [Option.mem_some_iff, forall_eq']
      exact and_congr (and_iff_right (tier _ _))
        (imp_congr_right fun _ => and_iff_right ⟨by decide, by decide⟩)

theorem precondition_fits : ∀ mark ∈ scoreStateAndPreconditions input.manifest, mark.Fits := by
  have risk : Shown ("manifest.risk=" ++ riskValue input.manifest.risk ++
      " but preconditions is empty") :=
    le_trans (length_joined (length_joined (length_spelled rfl (le_refl _)) (risk_short _))
      (length_spelled rfl (le_refl _))) (by decide)
  unfold scoreStateAndPreconditions
  rw [List.forall_mem_append]
  constructor
  · exact (fit_when (add_fits (by rfl) (by decide))).mpr
      (fun _ => ⟨⟨by decide, by decide⟩, length_spelled rfl (by decide)⟩)
  · exact (fit_when (add_fits (by rfl) (by decide))).mpr (fun _ => ⟨⟨by decide, by decide⟩, risk⟩)

theorem target_fits :
    (∀ mark ∈ scoreTargetSensitivity context.search input.manifest policy, mark.Fits) ↔
      (∀ pattern ∈ policy.sensitiveTargetPatterns,
        context.search pattern input.manifest.targetResource = none →
          Shown ("policy pattern " ++ pyRepr pattern ++ " is not a valid regex")) ∧
      ∀ pattern ∈ policy.sensitiveTargetPatterns,
        context.search pattern input.manifest.targetResource = some true →
          Shown ("target_resource=" ++ pyRepr input.manifest.targetResource ++
            " matched pattern " ++ pyRepr pattern) := by
  have one : ∀ pattern, (∀ mark ∈ targetMarks context.search input.manifest pattern, mark.Fits) ↔
      (context.search pattern input.manifest.targetResource = none →
        Shown ("policy pattern " ++ pyRepr pattern ++ " is not a valid regex")) ∧
      (context.search pattern input.manifest.targetResource = some true →
        Shown ("target_resource=" ++ pyRepr input.manifest.targetResource ++
          " matched pattern " ++ pyRepr pattern)) := by
    intro pattern
    unfold targetMarks
    cases context.search pattern input.manifest.targetResource with
    | none =>
        dsimp only
        rw [List.forall_mem_singleton, block_fits (by rfl) (by decide)]
        simp
    | some found =>
        cases found with
        | true =>
            dsimp only
            rw [List.forall_mem_singleton, add_fits (by rfl) (by decide)]
            simp [PointsInRange]
        | false => simp
  simp only [scoreTargetSensitivity, List.forall_mem_flatMap, one]
  exact forall₂_and

theorem depth_fits :
    (∀ mark ∈ scoreDelegationDepth policy input.facts, mark.Fits) ↔
      (policy.maxDelegationDepth < input.facts.delegationDepth →
        Shown ("depth=" ++ toString input.facts.delegationDepth ++ " > ceiling=" ++
          toString policy.maxDelegationDepth)) ∧
      ((input.facts.delegationDepth : Int) = policy.maxDelegationDepth →
        Shown ("depth=" ++ toString input.facts.delegationDepth ++ " == ceiling=" ++
          toString policy.maxDelegationDepth)) := by
  unfold scoreDelegationDepth
  by_cases deeper : policy.maxDelegationDepth < (input.facts.delegationDepth : Int)
  · rw [if_pos deeper, List.forall_mem_singleton, block_fits (by rfl) (by decide)]
    constructor
    · intro shown
      exact ⟨fun _ => shown, fun level => absurd level (by omega)⟩
    · intro ⟨shown, _⟩
      exact shown deeper
  · rw [if_neg deeper, fit_when (add_fits (by rfl) (by decide))]
    constructor
    · intro shown
      exact ⟨fun above => absurd above deeper, fun level => (shown level).2⟩
    · intro ⟨_, shown⟩ level
      exact ⟨⟨by decide, by decide⟩, shown level⟩

theorem history_fits :
    (∀ mark ∈ scoreHistoricalRecurrence policy input.facts, mark.Fits) ↔
      (input.facts.historicalRecurrenceCount ≠ 0 →
        policy.maxAcceptableFailureRate.exceededBy (floats.ratio input.facts.historicalFailureCount
          input.facts.historicalRecurrenceCount) = true →
        Shown ("failure_rate=" ++ floats.twoPlaces (floats.ratio
            input.facts.historicalFailureCount input.facts.historicalRecurrenceCount) ++
          " > policy max " ++ policy.maxAcceptableFailureRate.repr)) := by
  unfold scoreHistoricalRecurrence
  by_cases novel : input.facts.historicalRecurrenceCount = 0
  · rw [if_pos novel, List.forall_mem_singleton, add_fits (by rfl) (by decide)]
    exact iff_of_true ⟨⟨by decide, by decide⟩, length_spelled rfl (by decide)⟩
      (fun known => absurd novel known)
  · rw [if_neg novel]
    dsimp only
    rw [fit_when (add_fits (by rfl) (by decide))]
    constructor
    · intro shown _ exceeded
      exact (shown exceeded).2
    · intro shown exceeded
      exact ⟨⟨by decide, by decide⟩, shown novel exceeded⟩

/-- A mark whose texts and points do not depend on the input. -/
theorem fixed_fits {name detail : String} {weight : Int} {first : Char}
    {letters detailLetters : List Char} {holds : Prop} [Decidable holds]
    (points : PointsInRange weight) (spelled : name = String.ofList (first :: letters))
    (short : letters.length + 1 ≤ 128) (detailed : detail = String.ofList detailLetters)
    (shown : detailLetters.length ≤ 512) :
    ∀ mark ∈ (if holds then [Mark.add name weight detail] else []), mark.Fits :=
  (fit_when (add_fits spelled short)).mpr
    (fun _ => ⟨points, length_spelled detailed shown⟩)

theorem provider_fits :
    ∀ mark ∈ scoreProviderCapabilities input.manifest input.facts, mark.Fits := by
  unfold scoreProviderCapabilities
  rw [List.forall_mem_append]
  constructor
  · cases input.facts.providerIdempotent with
    | none =>
        exact List.forall_mem_singleton.mpr
          ((add_fits (by rfl) (by decide)).mpr
            ⟨⟨by decide, by decide⟩, length_spelled rfl (by decide)⟩)
    | some promised =>
        cases promised with
        | true => exact List.forall_mem_nil _
        | false => exact fixed_fits ⟨by decide, by decide⟩ rfl (by decide) rfl (by decide)
  · cases input.facts.compensationFeasible with
    | none => exact fixed_fits ⟨by decide, by decide⟩ rfl (by decide) rfl (by decide)
    | some feasible =>
        cases feasible with
        | true => exact List.forall_mem_nil _
        | false =>
            dsimp only
            by_cases compensatable : input.manifest.reversibility = .compensatable
            · rw [if_pos compensatable]
              exact List.forall_mem_singleton.mpr
                ((block_fits (by rfl) (by decide)).mpr
                  (le_trans (length_joined (length_spelled rfl (le_refl _))
                    (length_spelled rfl (le_refl _))) (by decide)))
            · rw [if_neg compensatable]
              exact fixed_fits ⟨by decide, by decide⟩ rfl (by decide) rfl (by decide)

theorem violation_fits :
    (∀ mark ∈ scoreExternalPolicyViolations input.facts, mark.Fits) ↔
      ∀ violation ∈ input.facts.policyViolations, violation.length ≤ 102 := by
  unfold scoreExternalPolicyViolations
  rw [List.forall_mem_map]
  apply forall₂_congr
  intro violation listed
  have bounded := input.facts.violationsBounded violation listed
  have length : ("external_policy_violation:" ++ violation).length = 26 + violation.length :=
    String.length_append _ _
  constructor
  · intro fits
    have named := fits.nameBounded.2
    rw [Mark.name, length] at named
    omega
  · intro short
    refine ⟨⟨?_, ?_⟩, ⟨le_refl 0, show (0 : Int) ≤ 100 by decide⟩, ?_⟩
    · intro empty
      have none := congrArg String.length empty
      rw [Mark.name, length] at none
      exact absurd none (by simp)
    · rw [Mark.name, length]
      omega
    · exact bounded.2.trans (by decide)

theorem tenant_fits : ∀ mark ∈ scoreCrossTenant input.facts, mark.Fits :=
  (fit_when (add_fits (by rfl) (by decide))).mpr
    (fun _ => ⟨⟨by decide, by decide⟩, le_trans (length_joined (length_spelled rfl (le_refl _))
      (length_spelled rfl (le_refl _))) (by decide)⟩)

theorem change_fits : ∀ mark ∈ scoreUnusualParameterChange input.facts, mark.Fits :=
  (fit_when (add_fits (by rfl) (by decide))).mpr
    (fun _ => ⟨⟨by decide, by decide⟩, length_spelled rfl (by decide)⟩)

theorem lifetime_fits :
    (∀ mark ∈ scoreManifestLifetime input.manifest policy, mark.Fits) ↔
      let ttlSeconds := floats.wholeSeconds (input.manifest.expiresAt - input.manifest.createdAt)
      policy.maxRecommendedTtlSeconds < ttlSeconds →
        Shown ("ttl_seconds=" ++ toString ttlSeconds ++ " > policy max " ++
          toString policy.maxRecommendedTtlSeconds) := by
  unfold scoreManifestLifetime
  dsimp only
  rw [fit_when (add_fits (by rfl) (by decide))]
  exact imp_congr_right fun _ => and_iff_right ⟨by decide, by decide⟩

theorem restriction_fits :
    (∀ mark ∈ scoreRestrictedEffectType input.manifest policy, mark.Fits) ↔
      (input.manifest.effectType ∈ policy.restrictedEffectTypes →
        Shown ("effect_type " ++ pyRepr input.manifest.effectType ++ " is on policy " ++
          pyRepr policy.policyId ++ "'s restricted list")) := by
  unfold scoreRestrictedEffectType
  rw [fit_when (block_fits (by rfl) (by decide))]

/-- What the input must keep to, group by group. -/
theorem presentable_iff :
    Presentable context policy input ↔
      (∀ mark ∈ inputMarks context policy input, mark.Fits) ∧
        policy.policyVersion.length ≤ 512 ∧ 0 ≤ policy.maxRequiredHumanApprovals ∧
          0 ≤ coolingOffSeconds policy (riskLevel policy (cappedScore context policy input)) := by
  rw [inputMarks, marks]
  simp only [List.append_assoc, List.forall_mem_append]
  constructor
  · intro held
    exact ⟨⟨classification_fits.mpr ⟨held.riskPoints, held.blastPoints, held.reversibilityPoints⟩,
      exposure_fits.mpr ⟨held.cost, held.currency⟩, precondition_fits,
      lifetime_fits.mpr held.lifetime, target_fits.mpr ⟨held.malformed, held.matched⟩,
      restriction_fits.mpr held.restricted, depth_fits.mpr ⟨held.deeper, held.ceiling⟩,
      history_fits.mpr held.failures, provider_fits, tenant_fits, change_fits,
      violation_fits.mpr held.violations⟩, held.version, held.approvals, held.coolingOff⟩
  · intro ⟨⟨classified, exposed, _, lasting, targeted, restricted, deep, historical, _, _, _,
      violated⟩, version, approvals, coolingOff⟩
    obtain ⟨risk, blast, reversibility⟩ := classification_fits.mp classified
    obtain ⟨cost, currency⟩ := exposure_fits.mp exposed
    obtain ⟨malformed, matched⟩ := target_fits.mp targeted
    obtain ⟨deeper, ceiling⟩ := depth_fits.mp deep
    exact ⟨risk, blast, reversibility, cost, currency, lifetime_fits.mp lasting, malformed,
      matched, restriction_fits.mp restricted, deeper, ceiling, history_fits.mp historical,
      violation_fits.mp violated, version, approvals, coolingOff⟩

end Scorers

section Assessments

variable {floats : FloatArithmetic} {context : AssessmentContext}
  {policy : IntelligencePolicy floats} {input : AssessmentInput}

theorem drawn_reportable (drawn : AssessmentDrawn context input) :
    Reportable context policy input ↔
      policy.policyVersion.length ≤ 512 ∧ 0 ≤ policy.maxRequiredHumanApprovals ∧
        0 ≤ coolingOffSeconds policy (riskLevel policy (cappedScore context policy input)) := by
  have widened : ∀ {text : String}, boundedText 128 text → boundedText 512 text :=
    fun bounded => ⟨bounded.1, bounded.2.trans (by decide)⟩
  have identified : boundedText 512 input.assessmentId := by
    constructor
    · intro empty
      have length := drawn.identifier
      rw [empty] at length
      exact absurd length (by decide)
    · rw [drawn.identifier]
      decide
  constructor
  · intro reportable
    exact ⟨reportable.versioned, reportable.approvals, reportable.coolingOff⟩
  · intro ⟨versioned, approvals, coolingOff⟩
    exact ⟨identified, widened (drawn.manifestDigest _), versioned, widened (drawn.sha256 _),
      approvals, coolingOff⟩

end Assessments

/-! ### A transfer under the default policy -/

namespace Assessing

open KarmaSakshi.Engine

/-- The hashes of the transfer and of the default policy, and no pattern that matches. -/
def context : AssessmentContext where
  search := fun _ _ => some false
  manifestDigest := fun _ => Payment.transferHash
  sha256 := fun _ => "sha256:9ed035c0c1a7cdcf7524f0c2a4fa36299e75841b0483f67dbc5db7146a4a74bb"

/-- Nothing is known of the transfer but the depth of its delegation. -/
def factsAt (depth : Nat) : AssessmentFacts where
  delegationDepth := depth
  historicalRecurrenceCount := 0
  historicalFailureCount := 0
  providerIdempotent := none
  compensationFeasible := none
  crossTenant := false
  unusualParameterChange := false
  policyViolations := []
  failuresRecur := le_refl 0
  violationsBounded := List.forall_mem_nil _

def inputOf (facts : AssessmentFacts) : AssessmentInput where
  manifest := Payment.transfer
  facts := facts
  assessmentId := "2f1d8a94-5b7c-4e0d-9a63-1c2b3d4e5f60"
  now := Payment.noon

theorem transfer_drawn (facts : AssessmentFacts) : AssessmentDrawn context (inputOf facts) where
  identifier := String.length_ofList
  manifestDigest := fun _ => bounded_spelled rfl (by decide)
  sha256 := fun _ => bounded_spelled rfl (by decide)

theorem cooling_off_nonnegative (level : RiskLevel) : 0 ≤ coolingOffSeconds defaultPolicy level := by
  cases level <;> decide

/-- The transfer can be assessed unless its facts are in the way. -/
theorem transfer_presentable {facts : AssessmentFacts} (shallow : facts.delegationDepth ≤ 9)
    (novel : facts.historicalRecurrenceCount = 0)
    (short : ∀ violation ∈ facts.policyViolations, violation.length ≤ 102) :
    Presentable context defaultPolicy (inputOf facts) where
  riskPoints := show PointsInRange ((defaultPolicy.riskBasePoints.get
    (riskValue Payment.transfer.risk)).getD 0) by decide
  blastPoints := show PointsInRange ((defaultPolicy.blastRadiusPoints.get
    (blastRadiusValue Payment.transfer.blastRadius)).getD 0) by decide
  reversibilityPoints := show PointsInRange ((defaultPolicy.reversibilityPoints.get
    (reversibilityValue Payment.transfer.reversibility)).getD 0) by decide
  cost := by
    intro cost held
    obtain rfl := Option.mem_some_iff.mp held
    decide +kernel
  currency := by
    intro cost held _
    obtain rfl := Option.mem_some_iff.mp held
    decide +kernel
  lifetime := by
    intro ttlSeconds _
    have day : ttlSeconds = 86400 := show (Payment.closing - Payment.opening) / microsPerSecond = 86400 by
      decide
    rw [day]
    decide +kernel
  malformed := fun _ listed => absurd listed List.not_mem_nil
  matched := fun _ listed => absurd listed List.not_mem_nil
  restricted := fun listed => absurd listed List.not_mem_nil
  deeper := by
    have shown : ∀ depth < 10, Shown ("depth=" ++ toString depth ++ " > ceiling=" ++
      toString defaultPolicy.maxDelegationDepth) := by decide +kernel
    exact fun _ => shown facts.delegationDepth (by omega)
  ceiling := by
    have shown : ∀ depth < 10, Shown ("depth=" ++ toString depth ++ " == ceiling=" ++
      toString defaultPolicy.maxDelegationDepth) := by decide +kernel
    exact fun _ => shown facts.delegationDepth (by omega)
  failures := fun known => absurd novel known
  violations := short
  version := length_spelled rfl (by decide)
  approvals := by decide
  coolingOff := cooling_off_nonnegative _

end Assessing

end KarmaSakshi.Guarantees
