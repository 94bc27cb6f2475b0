import KarmaSakshi.Evidence.Passports
import KarmaSakshi.Intelligence.Policy

/-!
The assessment of an effect: a list of scored facts, summed up and graded.

Every scorer adds signals or forces a block, whatever the others did; an assessment
depends on them through their sum, their names and whether any of them blocks.
-/

namespace KarmaSakshi.Intelligence

open KarmaSakshi.Domain
open KarmaSakshi.Evidence (RiskLevel Recommendation)

set_option autoImplicit false

/-! ### Facts and signals -/

/-- What an assessment knows beside the manifest. -/
structure AssessmentFacts where
  delegationDepth : Nat
  historicalRecurrenceCount : Nat
  historicalFailureCount : Nat
  providerIdempotent : Option Bool
  compensationFeasible : Option Bool
  crossTenant : Bool
  unusualParameterChange : Bool
  policyViolations : List String
  failuresRecur : historicalFailureCount ≤ historicalRecurrenceCount
  violationsBounded : ∀ violation ∈ policyViolations, boundedText 256 violation

inductive VerificationStrength : Type where
  | standard
  | strong
  | independent

structure RiskSignal where
  name : String
  weight : Int
  detail : String
  nameBounded : boundedText 128 name
  weightInRange : 0 ≤ weight ∧ weight ≤ 100
  detailBounded : detail.length ≤ 512

def invalid {Value : Type} (message : String) : Except PyError Value :=
  .error ⟨.validationError, message⟩

def RiskSignal.build (name : String) (weight : Int) (detail : String) : Except PyError RiskSignal :=
  if nameBounded : boundedText 128 name then
    if weightInRange : 0 ≤ weight ∧ weight ≤ 100 then
      if detailBounded : detail.length ≤ 512 then
        .ok ⟨name, weight, detail, nameBounded, weightInRange, detailBounded⟩
      else invalid "signal detail must be <= 512 chars"
    else invalid "signal weight must be 0-100"
  else invalid "signal name must be 1-128 chars"

structure ScoreBuilder where
  signals : List RiskSignal
  score : Int
  forcedBlockReasons : List String

/-- A call on the builder. -/
inductive Mark : Type where
  | add (name : String) (weight : Int) (detail : String)
  | forceBlock (name detail : String)

namespace ScoreBuilder

def empty : ScoreBuilder := ⟨[], 0, []⟩

def mark (builder : ScoreBuilder) : Mark → Except PyError ScoreBuilder
  | .add name weight detail => do
      let signal ← RiskSignal.build name weight detail
      .ok { builder with
        signals := builder.signals ++ [signal]
        score := builder.score + weight }
  | .forceBlock name detail => do
      let signal ← RiskSignal.build name 0 detail
      .ok { builder with
        signals := builder.signals ++ [signal]
        forcedBlockReasons := builder.forcedBlockReasons ++ [name] }

def run (builder : ScoreBuilder) : List Mark → Except PyError ScoreBuilder
  | [] => .ok builder
  | mark :: rest => do
      let next ← builder.mark mark
      next.run rest

def signalNames (builder : ScoreBuilder) : List String := builder.signals.map RiskSignal.name

end ScoreBuilder

/-! ### What a run leaves -/

namespace Mark

def name : Mark → String
  | add name _ _ => name
  | forceBlock name _ => name

def weight : Mark → Int
  | add _ weight _ => weight
  | forceBlock _ _ => 0

def detail : Mark → String
  | add _ _ detail => detail
  | forceBlock _ detail => detail

/-- The block the mark forces, if it does. -/
def blocks : Mark → List String
  | add _ _ _ => []
  | forceBlock name _ => [name]

/-- The signal of the mark passes its checks. -/
structure Fits (mark : Mark) : Prop where
  nameBounded : boundedText 128 mark.name
  weightInRange : 0 ≤ mark.weight ∧ mark.weight ≤ 100
  detailBounded : mark.detail.length ≤ 512

end Mark

namespace ScoreBuilder

/-- A builder after some marks, in terms of the one before. -/
structure After (builder : ScoreBuilder) (marks : List Mark) (result : ScoreBuilder) : Prop where
  score : result.score = builder.score + (marks.map Mark.weight).sum
  names : result.signalNames = builder.signalNames ++ marks.map Mark.name
  reasons : result.forcedBlockReasons = builder.forcedBlockReasons ++ marks.flatMap Mark.blocks

variable {builder result : ScoreBuilder} {mark : Mark} {marks : List Mark}

theorem signal_builds {name detail : String} {weight : Int} {signal : RiskSignal}
    (built : RiskSignal.build name weight detail = .ok signal) :
    signal.name = name ∧ boundedText 128 name ∧ (0 ≤ weight ∧ weight ≤ 100) ∧
      detail.length ≤ 512 := by
  unfold RiskSignal.build at built
  split_ifs at built with nameBounded weightInRange detailBounded
  · obtain rfl := Except.ok.inj built
    exact ⟨rfl, nameBounded, weightInRange, detailBounded⟩
  · cases built
  · cases built
  · cases built

/-- One mark fits and is recorded. -/
theorem mark_step (marked : builder.mark mark = .ok result) :
    mark.Fits ∧ builder.After [mark] result := by
  cases mark with
  | add name weight detail =>
      obtain ⟨signal, built, returned⟩ := except_bind_ok marked
      obtain rfl := Except.ok.inj returned
      obtain ⟨named, nameBounded, weightInRange, detailBounded⟩ := signal_builds built
      refine ⟨⟨nameBounded, weightInRange, detailBounded⟩, ?_, ?_, ?_⟩
      · simp [Mark.weight]
      · simp [signalNames, Mark.name, named]
      · simp [Mark.blocks]
  | forceBlock name detail =>
      obtain ⟨signal, built, returned⟩ := except_bind_ok marked
      obtain rfl := Except.ok.inj returned
      obtain ⟨named, nameBounded, weightInRange, detailBounded⟩ := signal_builds built
      refine ⟨⟨nameBounded, weightInRange, detailBounded⟩, ?_, ?_, ?_⟩
      · simp [Mark.weight]
      · simp [signalNames, Mark.name, named]
      · simp [Mark.blocks]

theorem fitting_marks (fits : mark.Fits) : ∃ next, builder.mark mark = .ok next := by
  have built : ∀ {name detail : String} {weight : Int}, boundedText 128 name →
      0 ≤ weight ∧ weight ≤ 100 → detail.length ≤ 512 →
        ∃ signal, RiskSignal.build name weight detail = .ok signal := by
    intro name detail weight nameBounded weightInRange detailBounded
    rw [RiskSignal.build, dif_pos nameBounded, dif_pos weightInRange, dif_pos detailBounded]
    exact ⟨_, rfl⟩
  cases mark with
  | add name weight detail =>
      obtain ⟨signal, accepted⟩ := built fits.nameBounded fits.weightInRange fits.detailBounded
      exact ⟨_, except_bind_of_ok accepted rfl⟩
  | forceBlock name detail =>
      obtain ⟨signal, accepted⟩ := built fits.nameBounded fits.weightInRange fits.detailBounded
      exact ⟨_, except_bind_of_ok accepted rfl⟩

/-- A run that returns has recorded every mark. -/
theorem run_after (runs : builder.run marks = .ok result) :
    (∀ mark ∈ marks, mark.Fits) ∧ builder.After marks result := by
  induction marks generalizing builder with
  | nil =>
      obtain rfl := Except.ok.inj runs
      exact ⟨by simp, by simp, by simp, by simp⟩
  | cons mark rest ih =>
      obtain ⟨next, marked, runsOn⟩ := except_bind_ok runs
      obtain ⟨fits, step⟩ := mark_step marked
      obtain ⟨others, after⟩ := ih runsOn
      refine ⟨List.forall_mem_cons.mpr ⟨fits, others⟩, ?_, ?_, ?_⟩
      · rw [after.score, step.score, List.map_singleton, List.sum_singleton, List.map_cons,
          List.sum_cons, add_assoc]
      · rw [after.names, step.names, List.append_assoc]
        rfl
      · rw [after.reasons, step.reasons, List.flatMap_singleton, List.flatMap_cons,
          List.append_assoc]

theorem run_returns (fits : ∀ mark ∈ marks, mark.Fits) : ∃ result, builder.run marks = .ok result := by
  induction marks generalizing builder with
  | nil => exact ⟨builder, rfl⟩
  | cons mark rest ih =>
      obtain ⟨first, others⟩ := List.forall_mem_cons.mp fits
      obtain ⟨next, marked⟩ := @fitting_marks builder mark first
      obtain ⟨result, runsOn⟩ := @ih next others
      exact ⟨result, except_bind_of_ok marked runsOn⟩

/-- A run is refused by the validation of a signal. -/
theorem run_refuses {error : PyError} (refuses : builder.run marks = .error error) :
    error.kind = .validationError := by
  have signal : ∀ {name detail : String} {weight : Int},
      RiskSignal.build name weight detail = .error error → error.kind = .validationError := by
    intro name detail weight refused
    unfold RiskSignal.build at refused
    split_ifs at refused
    all_goals
      obtain rfl := Except.error.inj refused
      rfl
  induction marks generalizing builder with
  | nil => cases refuses
  | cons mark rest ih =>
      cases marked : builder.mark mark with
      | ok next =>
          rw [run, marked] at refuses
          exact ih refuses
      | error first =>
          rw [run, marked] at refuses
          obtain rfl := Except.error.inj refuses
          cases mark with
          | add name weight detail =>
              cases built : RiskSignal.build name weight detail with
              | ok signal =>
                  rw [ScoreBuilder.mark, built] at marked
                  cases marked
              | error second =>
                  rw [ScoreBuilder.mark, built] at marked
                  obtain rfl := Except.error.inj marked
                  exact signal built
          | forceBlock name detail =>
              cases built : RiskSignal.build name 0 detail with
              | ok signal =>
                  rw [ScoreBuilder.mark, built] at marked
                  cases marked
              | error second =>
                  rw [ScoreBuilder.mark, built] at marked
                  obtain rfl := Except.error.inj marked
                  exact signal built

/-- What an assessment reads of its builder. -/
structure Alike (left right : ScoreBuilder) : Prop where
  score : left.score = right.score
  names : ∀ name, name ∈ left.signalNames ↔ name ∈ right.signalNames
  blocked : left.forcedBlockReasons.isEmpty = right.forcedBlockReasons.isEmpty

/-- The order of the marks does not matter for that. -/
theorem run_of_perm {others : List Mark} (permuted : marks.Perm others)
    (runs : builder.run marks = .ok result) :
    ∃ other, builder.run others = .ok other ∧ result.Alike other := by
  obtain ⟨fits, after⟩ := run_after runs
  obtain ⟨other, runsToo⟩ := @run_returns builder others
    (fun mark member => fits mark (permuted.mem_iff.mpr member))
  obtain ⟨_, afterToo⟩ := run_after runsToo
  refine ⟨other, runsToo, ?_, ?_, ?_⟩
  · rw [after.score, afterToo.score, (permuted.map Mark.weight).sum_eq]
  · intro name
    rw [after.names, afterToo.names, List.mem_append, List.mem_append,
      (permuted.map Mark.name).mem_iff]
  · have reasons : result.forcedBlockReasons.Perm other.forcedBlockReasons := by
      rw [after.reasons, afterToo.reasons]
      exact (permuted.flatMap_right _).append_left _
    exact reasons.isEmpty_eq

end ScoreBuilder

/-! ### The scorers -/

def riskValue : RiskClassification → String
  | .low => "low"
  | .medium => "medium"
  | .high => "high"
  | .critical => "critical"

def blastRadiusValue : BlastRadiusClassification → String
  | .singleResource => "single_resource"
  | .boundedSet => "bounded_set"
  | .broad => "broad"
  | .unbounded => "unbounded"

def reversibilityValue : ReversibilityClassification → String
  | .reversible => "reversible"
  | .compensatable => "compensatable"
  | .irreversible => "irreversible"

section Scorers

variable {floats : FloatArithmetic} (search : (pattern target : String) → Option Bool)
  (manifest : EffectManifest) (policy : IntelligencePolicy floats) (facts : AssessmentFacts)

def highRisk : Prop := manifest.risk = .high ∨ manifest.risk = .critical

instance : Decidable (highRisk manifest) := inferInstanceAs (Decidable (_ ∨ _))

def scoreDeclaredClassification : List Mark :=
  [.add "declared_risk_classification"
      ((policy.riskBasePoints.get (riskValue manifest.risk)).getD 0)
      ("manifest.risk=" ++ riskValue manifest.risk),
    .add "declared_blast_radius"
      ((policy.blastRadiusPoints.get (blastRadiusValue manifest.blastRadius)).getD 0)
      ("manifest.blast_radius=" ++ blastRadiusValue manifest.blastRadius),
    .add "declared_reversibility"
      ((policy.reversibilityPoints.get (reversibilityValue manifest.reversibility)).getD 0)
      ("manifest.reversibility=" ++ reversibilityValue manifest.reversibility)]

def tierPoints (thresholds : Thresholds) (units : Int) : Int :=
  if units < thresholds.low then 0
  else if units < thresholds.mid then 10
  else if units < thresholds.high then 20
  else 35

def scoreMonetaryExposure : List Mark :=
  match manifest.estimatedCost with
  | none =>
      if highRisk manifest then
        [.add "high_risk_without_cost_estimate" 8
          "manifest declares high/critical risk but no estimated_cost"]
      else []
  | some cost =>
      let configured := policy.amountThresholds.get cost.currency
      let thresholds := configured.getD policy.defaultAmountThresholds
      .add "monetary_exposure_tier" (tierPoints thresholds cost.minorUnits)
          ("estimated_cost=" ++ cost.text ++ " thresholds(low,mid,high)=" ++ thresholds.text) ::
        (if configured.isNone then
          [.add "unclassified_currency_uses_default_thresholds" 5
            ("no policy thresholds configured for currency " ++ pyRepr cost.currency)]
        else [])

def scoreStateAndPreconditions : List Mark :=
  (if manifest.stateFingerprint = none ∧ manifest.reversibility ≠ .reversible then
    [.add "no_state_fingerprint_for_non_reversible_effect" 10
      "manifest has no state_fingerprint and is not classified reversible"]
  else []) ++
  (if manifest.preconditions = [] ∧ highRisk manifest then
    [.add "no_preconditions_declared_for_high_risk_effect" 10
      ("manifest.risk=" ++ riskValue manifest.risk ++ " but preconditions is empty")]
  else [])

def scoreManifestLifetime : List Mark :=
  let ttlSeconds := floats.wholeSeconds (manifest.expiresAt - manifest.createdAt)
  if policy.maxRecommendedTtlSeconds < ttlSeconds then
    [.add "manifest_lifetime_exceeds_recommended_window" 8
      ("ttl_seconds=" ++ toString ttlSeconds ++ " > policy max " ++
        toString policy.maxRecommendedTtlSeconds)]
  else []

/-- One pattern: malformed, matched or not. -/
def targetMarks (pattern : String) : List Mark :=
  match search pattern manifest.targetResource with
  | none =>
      [.forceBlock "sensitive_target_pattern_malformed"
        ("policy pattern " ++ pyRepr pattern ++ " is not a valid regex")]
  | some true =>
      [.add "sensitive_target_pattern_matched" 15
        ("target_resource=" ++ pyRepr manifest.targetResource ++ " matched pattern " ++
          pyRepr pattern)]
  | some false => []

def scoreTargetSensitivity : List Mark :=
  policy.sensitiveTargetPatterns.flatMap (targetMarks search manifest)

def scoreRestrictedEffectType : List Mark :=
  if manifest.effectType ∈ policy.restrictedEffectTypes then
    [.forceBlock "effect_type_restricted_by_policy"
      ("effect_type " ++ pyRepr manifest.effectType ++ " is on policy " ++
        pyRepr policy.policyId ++ "'s restricted list")]
  else []

def scoreDelegationDepth : List Mark :=
  if policy.maxDelegationDepth < facts.delegationDepth then
    [.forceBlock "delegation_depth_exceeds_policy_ceiling"
      ("depth=" ++ toString facts.delegationDepth ++ " > ceiling=" ++
        toString policy.maxDelegationDepth)]
  else if (facts.delegationDepth : Int) = policy.maxDelegationDepth then
    [.add "delegation_depth_at_ceiling" 20
      ("depth=" ++ toString facts.delegationDepth ++ " == ceiling=" ++
        toString policy.maxDelegationDepth)]
  else []

def scoreHistoricalRecurrence : List Mark :=
  if facts.historicalRecurrenceCount = 0 then
    [.add "novel_effect_pattern_no_history" 6 "no prior instances of this actor+effect_type found"]
  else
    let failureRate := floats.ratio facts.historicalFailureCount facts.historicalRecurrenceCount
    if policy.maxAcceptableFailureRate.exceededBy failureRate then
      [.add "elevated_historical_failure_rate" 25
        ("failure_rate=" ++ floats.twoPlaces failureRate ++ " > policy max " ++
          policy.maxAcceptableFailureRate.repr)]
    else []

def scoreProviderCapabilities : List Mark :=
  (match facts.providerIdempotent with
    | none =>
        [.add "provider_idempotency_unknown" 8
          "adapter/provider idempotency capability was not declared"]
    | some false =>
        if highRisk manifest then
          [.add "non_idempotent_provider_high_risk" 12
            "provider does not guarantee idempotent execution for a high/critical-risk effect"]
        else []
    | some true => []) ++
  (match facts.compensationFeasible with
    | none =>
        if manifest.reversibility ≠ .reversible then
          [.add "compensation_feasibility_unknown" 8
            "compensation feasibility was not declared for a non-reversible effect"]
        else []
    | some false =>
        if manifest.reversibility = .compensatable then
          [.forceBlock "compensation_feasibility_contradicts_manifest_reversibility"
            ("manifest declares reversibility=compensatable but facts assert " ++
              "compensation is not feasible")]
        else if manifest.reversibility = .irreversible ∧ manifest.risk ≠ .low then
          [.add "irreversible_and_not_compensatable" 15
            "effect is irreversible and compensation is confirmed infeasible"]
        else []
    | some true => [])

def scoreCrossTenant : List Mark :=
  if facts.crossTenant then
    [.add "cross_tenant_effect" 20
      ("effect crosses tenant boundaries (advisory only: multi-tenant enforcement " ++
        "is not implemented in this protocol version)")]
  else []

def scoreUnusualParameterChange : List Mark :=
  if facts.unusualParameterChange then
    [.add "unusual_parameter_change_detected" 12
      "caller flagged this manifest's parameters as an unusual change vs. history"]
  else []

def scoreExternalPolicyViolations : List Mark :=
  facts.policyViolations.map (fun violation =>
    .forceBlock ("external_policy_violation:" ++ violation) violation)

/-- All calls on the builder, in order. -/
def marks : List Mark :=
  scoreDeclaredClassification manifest policy ++ scoreMonetaryExposure manifest policy ++
    scoreStateAndPreconditions manifest ++ scoreManifestLifetime manifest policy ++
    scoreTargetSensitivity search manifest policy ++ scoreRestrictedEffectType manifest policy ++
    scoreDelegationDepth policy facts ++ scoreHistoricalRecurrence policy facts ++
    scoreProviderCapabilities manifest facts ++ scoreCrossTenant facts ++
    scoreUnusualParameterChange facts ++ scoreExternalPolicyViolations facts

end Scorers

/-! ### Grading -/

section Grading

variable {floats : FloatArithmetic} (policy : IntelligencePolicy floats)

def riskLevel (score : Int) : RiskLevel :=
  if score < policy.riskLevelThresholds.low then .low
  else if score < policy.riskLevelThresholds.mid then .medium
  else if score < policy.riskLevelThresholds.high then .high
  else .critical

def recommendation (score : Int) (forcedBlock : Bool) : Recommendation :=
  if forcedBlock ∨ policy.blockThreshold ≤ score then .block
  else if policy.reviewThreshold ≤ score then .review
  else .allow

def baseHumanApprovals : RiskLevel → Int
  | .low => 0
  | .medium => 1
  | .high => 2
  | .critical => 3

def humanApprovals (level : RiskLevel) (signalNames : List String) : Int :=
  min (baseHumanApprovals level + (if "cross_tenant_effect" ∈ signalNames then 1 else 0) +
    (if "irreversible_and_not_compensatable" ∈ signalNames then 1 else 0))
    policy.maxRequiredHumanApprovals

def serviceApprovals (signalNames : List String) : Int :=
  if "non_idempotent_provider_high_risk" ∈ signalNames then 1 else 0

def coolingOffSeconds : RiskLevel → Int
  | .low => 0
  | .medium => 0
  | .high => policy.coolingOffHighSeconds
  | .critical => policy.coolingOffCriticalSeconds

def witnessQuorum : RiskLevel → Int
  | .low => 1
  | .medium => 1
  | .high => 2
  | .critical => 3

def baseVerificationStrength : RiskLevel → VerificationStrength
  | .low => .standard
  | .medium => .standard
  | .high => .strong
  | .critical => .independent

def verificationStrength (manifest : EffectManifest) (facts : AssessmentFacts)
    (level : RiskLevel) : VerificationStrength :=
  if facts.providerIdempotent = some false ∧ manifest.reversibility = .irreversible then
    .independent
  else baseVerificationStrength level

def explanation (score : Int) (level : RiskLevel) (advice : Recommendation)
    (builder : ScoreBuilder) : String :=
  let contributing := builder.signals.filter (fun signal => 0 < signal.weight)
  String.intercalate " "
    (["score=" ++ toString score ++ "/100 risk_level=" ++ level.value ++ " recommendation=" ++
        advice.value ++ "."] ++
      (if contributing.isEmpty then []
        else ["Contributing signals: " ++ String.intercalate "; " (contributing.map (fun signal =>
          signal.name ++ "(+" ++ toString signal.weight ++ ")")) ++ "."]) ++
      (if builder.forcedBlockReasons.isEmpty then []
        else ["Forced BLOCK: " ++ String.intercalate "; " builder.forcedBlockReasons ++ "."]))

end Grading

/-! ### Assessments -/

/-- The fields of an assessment before they are validated. -/
structure AssessmentFields where
  assessmentId : String
  manifestId : String
  manifestHash : String
  policyId : String
  policyVersion : String
  policyHash : String
  score : Int
  riskLevel : RiskLevel
  signals : List RiskSignal
  recommendation : Recommendation
  requiredHumanApprovals : Int
  requiredServiceApprovals : Int
  coolingOffPeriodSeconds : Int
  requiredWitnessQuorum : Int
  requiredVerificationStrength : VerificationStrength
  explanation : String
  assessedAt : Instant

namespace AssessmentFields

def scoreInRange (fields : AssessmentFields) : Prop := 0 ≤ fields.score ∧ fields.score ≤ 100

def named (fields : AssessmentFields) : Prop :=
  ∀ text ∈ [fields.assessmentId, fields.manifestId, fields.manifestHash, fields.policyId,
    fields.policyVersion, fields.policyHash], boundedText 512 text

def nonnegative (fields : AssessmentFields) : Prop :=
  ∀ count ∈ [fields.requiredHumanApprovals, fields.requiredServiceApprovals,
    fields.coolingOffPeriodSeconds, fields.requiredWitnessQuorum], 0 ≤ count

instance (fields : AssessmentFields) : Decidable fields.scoreInRange :=
  inferInstanceAs (Decidable (_ ∧ _))

instance (fields : AssessmentFields) : Decidable fields.named :=
  inferInstanceAs (Decidable (∀ text ∈ _, _))

instance (fields : AssessmentFields) : Decidable fields.nonnegative :=
  inferInstanceAs (Decidable (∀ count ∈ _, _))

end AssessmentFields

structure EffectAssessment extends AssessmentFields where
  validNames : toAssessmentFields.named
  validScore : toAssessmentFields.scoreInRange
  validCounts : toAssessmentFields.nonnegative

def EffectAssessment.build (fields : AssessmentFields) : Except PyError EffectAssessment :=
  if names : fields.named then
    if scores : fields.scoreInRange then
      if counts : fields.nonnegative then .ok ⟨fields, names, scores, counts⟩
      else invalid "must be >= 0"
    else invalid "score must be 0-100"
  else invalid "must be 1-512 chars"

/-- What the engine is given, and the hashes it takes. -/
structure AssessmentContext where
  search : (pattern target : String) → Option Bool
  manifestDigest : EffectManifest → String
  sha256 : ByteArray → String

/-- One call of `assess`, with the identifier it draws and the time it reads. -/
structure AssessmentInput where
  manifest : EffectManifest
  facts : AssessmentFacts
  assessmentId : String
  now : Instant

namespace IntelligencePolicy

def policyHash {floats : FloatArithmetic} (sha256 : ByteArray → String)
    (policy : IntelligencePolicy floats) : String := policy.canonicalDict.canonicalHash sha256

end IntelligencePolicy

section Assess

variable {floats : FloatArithmetic} (context : AssessmentContext)
  (policy : IntelligencePolicy floats) (input : AssessmentInput)

/-- The fields of the assessment of a finished builder. -/
def assessmentFields (builder : ScoreBuilder) : AssessmentFields :=
  let score := min builder.score 100
  let level := riskLevel policy score
  let advice := recommendation policy score (!builder.forcedBlockReasons.isEmpty)
  { assessmentId := input.assessmentId
    manifestId := input.manifest.manifestId
    manifestHash := context.manifestDigest input.manifest
    policyId := policy.policyId
    policyVersion := policy.policyVersion
    policyHash := policy.policyHash context.sha256
    score
    riskLevel := level
    signals := builder.signals
    recommendation := advice
    requiredHumanApprovals := humanApprovals policy level builder.signalNames
    requiredServiceApprovals := serviceApprovals builder.signalNames
    coolingOffPeriodSeconds := coolingOffSeconds policy level
    requiredWitnessQuorum := witnessQuorum level
    requiredVerificationStrength := verificationStrength input.manifest input.facts level
    explanation := explanation score level advice builder
    assessedAt := input.now }

def assess : Except PyError EffectAssessment := do
  let builder ← ScoreBuilder.empty.run (marks context.search input.manifest policy input.facts)
  EffectAssessment.build (assessmentFields context policy input builder)

end Assess

end KarmaSakshi.Intelligence
