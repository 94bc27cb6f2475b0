import KarmaSakshi.Domain.Payload
import KarmaSakshi.Domain.Quorum

/-!
Scoring policies: their checks, their payload, and its reader.

The one number that is no integer is written as its `repr`, and read back by `float`.
-/

namespace KarmaSakshi.Intelligence

open KarmaSakshi.Domain

set_option autoImplicit false

/-! ### Rates -/

/-- Python's floating-point numbers, as far as scoring uses them. -/
structure FloatArithmetic where
  Carrier : Type
  repr : Carrier → String
  /-- `float(text)`, which may raise. -/
  parse : String → Option Carrier
  ofInt : Int → Carrier
  /-- `0.0 <= rate <= 1.0`. -/
  inUnit : Carrier → Bool
  /-- `rate > limit`. -/
  exceeds : (rate limit : Carrier) → Bool
  /-- `part / whole`. -/
  ratio : (part whole : Int) → Carrier
  /-- `f"{rate:.2f}"`. -/
  twoPlaces : Carrier → String
  /-- `int(duration.total_seconds())` of a number of microseconds. -/
  wholeSeconds : Int → Int

/-- What Python documents of `repr` and `float`. -/
structure FloatArithmetic.Documented (floats : FloatArithmetic) : Prop where
  reprReadBack : ∀ rate, floats.inUnit rate = true → floats.parse (floats.repr rate) = some rate
  reprNotDecimal : ∀ rate (number : Int), floats.repr rate ≠ toString number

variable (floats : FloatArithmetic)

/-- A number annotated as `float`: an integer is accepted in its place. -/
inductive Rate : Type where
  | float (value : floats.Carrier)
  | int (value : Int)

namespace Rate

variable {floats}

/-- `repr(rate)`, and `str(rate)` alike. -/
def repr : Rate floats → String
  | float value => floats.repr value
  | int value => toString value

def inUnit : Rate floats → Bool
  | float value => floats.inUnit value
  | int value => decide (0 ≤ value ∧ value ≤ 1)

/-- Whether a computed rate is greater. -/
def exceededBy (limit : Rate floats) (rate : floats.Carrier) : Bool :=
  match limit with
  | float value => floats.exceeds rate value
  | int value => floats.exceeds rate (floats.ofInt value)

def IsFloat (rate : Rate floats) : Prop := ∃ value, rate = float value

end Rate

/-! ### Policies -/

/-- The fields of a scoring policy, before its constructor has checked them. -/
structure PolicyFields where
  policyId : String
  policyVersion : String
  riskBasePoints : Dict Int
  blastRadiusPoints : Dict Int
  reversibilityPoints : Dict Int
  amountThresholds : Dict Thresholds
  defaultAmountThresholds : Thresholds
  maxRecommendedTtlSeconds : Int
  sensitiveTargetPatterns : List String
  restrictedEffectTypes : List String
  maxDelegationDepth : Int
  maxAcceptableFailureRate : Rate floats
  blockThreshold : Int
  reviewThreshold : Int
  riskLevelThresholds : Thresholds
  maxRequiredHumanApprovals : Int
  coolingOffHighSeconds : Int
  coolingOffCriticalSeconds : Int

namespace PolicyFields

variable {floats}

def amountsIncreasing (amounts : Thresholds) : Prop :=
  0 ≤ amounts.low ∧ amounts.low < amounts.mid ∧ amounts.mid < amounts.high

instance (amounts : Thresholds) : Decidable (amountsIncreasing amounts) :=
  inferInstanceAs (Decidable (_ ∧ _ ∧ _))

structure Valid (fields : PolicyFields floats) : Prop where
  idBounded : boundedText 128 fields.policyId
  versionDotted : '.' ∈ fields.policyVersion.toList
  blockInRange : 0 ≤ fields.blockThreshold ∧ fields.blockThreshold ≤ 100
  reviewInRange : 0 ≤ fields.reviewThreshold ∧ fields.reviewThreshold ≤ fields.blockThreshold
  levelsIncreasing : 0 < fields.riskLevelThresholds.low ∧
    fields.riskLevelThresholds.low < fields.riskLevelThresholds.mid ∧
    fields.riskLevelThresholds.mid < fields.riskLevelThresholds.high ∧
    fields.riskLevelThresholds.high ≤ 100
  rateInUnit : fields.maxAcceptableFailureRate.inUnit = true
  depthNonnegative : 0 ≤ fields.maxDelegationDepth
  lifetimePositive : 0 < fields.maxRecommendedTtlSeconds
  amounts : ∀ entry ∈ fields.amountThresholds.entries, amountsIncreasing entry.2

def ensure (holds : Prop) [Decidable holds] (message : String) : Except PyError Unit :=
  if holds then .ok () else valueError message

/-- The loop over the currencies. -/
def checkAmounts : List (String × Thresholds) → Except PyError Unit
  | [] => .ok ()
  | (currency, amounts) :: rest => do
      ensure (amountsIncreasing amounts)
        ("amount_thresholds[" ++ pyRepr currency ++ "] must be strictly increasing")
      checkAmounts rest

/-- The checks of the constructor, in order. -/
def postInit (fields : PolicyFields floats) : Except PyError Unit := do
  ensure (boundedText 128 fields.policyId) "policy_id must be 1-128 chars"
  ensure ('.' ∈ fields.policyVersion.toList) "policy_version must be a MAJOR.MINOR string"
  ensure (0 ≤ fields.blockThreshold ∧ fields.blockThreshold ≤ 100) "block_threshold must be 0-100"
  ensure (0 ≤ fields.reviewThreshold ∧ fields.reviewThreshold ≤ fields.blockThreshold)
    "review_threshold must be between 0 and block_threshold"
  ensure (0 < fields.riskLevelThresholds.low ∧
      fields.riskLevelThresholds.low < fields.riskLevelThresholds.mid ∧
      fields.riskLevelThresholds.mid < fields.riskLevelThresholds.high ∧
      fields.riskLevelThresholds.high ≤ 100)
    "risk_level_thresholds must be strictly increasing within (0, 100]"
  ensure (fields.maxAcceptableFailureRate.inUnit = true)
    "max_acceptable_failure_rate must be between 0.0 and 1.0"
  ensure (0 ≤ fields.maxDelegationDepth) "max_delegation_depth must be >= 0"
  ensure (0 < fields.maxRecommendedTtlSeconds) "max_recommended_ttl_seconds must be > 0"
  checkAmounts fields.amountThresholds.entries

theorem ensure_ok {holds : Prop} [Decidable holds] {message : String} :
    ensure holds message = .ok () ↔ holds := by
  unfold ensure
  split_ifs with held
  · exact iff_of_true rfl held
  · exact iff_of_false (by simp [valueError]) held

theorem then_ok {first rest : Except PyError Unit} :
    (do first; rest) = .ok () ↔ first = .ok () ∧ rest = .ok () := by
  cases first with
  | error error => simp [bind, Except.bind]
  | ok done => simp [bind, Except.bind]

theorem amounts_ok {entries : List (String × Thresholds)} :
    checkAmounts entries = .ok () ↔ ∀ entry ∈ entries, amountsIncreasing entry.2 := by
  induction entries with
  | nil => simp [checkAmounts]
  | cons entry rest ih =>
      rw [checkAmounts, then_ok, ensure_ok, ih, List.forall_mem_cons]

/-- The constructor accepts exactly the valid fields. -/
theorem post_init_ok {fields : PolicyFields floats} : fields.postInit = .ok () ↔ fields.Valid := by
  unfold postInit
  simp only [then_ok, ensure_ok, amounts_ok]
  constructor
  · rintro ⟨identity, version, block, review, levels, rate, depth, lifetime, amounts⟩
    exact ⟨identity, version, block, review, levels, rate, depth, lifetime, amounts⟩
  · intro valid
    exact ⟨valid.idBounded, valid.versionDotted, valid.blockInRange, valid.reviewInRange,
      valid.levelsIncreasing, valid.rateInUnit, valid.depthNonnegative, valid.lifetimePositive,
      valid.amounts⟩

end PolicyFields

/-- Every threshold that scores a manifest. -/
structure IntelligencePolicy extends PolicyFields floats where
  valid : toPolicyFields.Valid

namespace IntelligencePolicy

variable {floats}

def build (fields : PolicyFields floats) : Except PyError (IntelligencePolicy floats) :=
  match passes : fields.postInit with
  | .error error => .error error
  | .ok () => .ok ⟨fields, PolicyFields.post_init_ok.mp passes⟩

theorem build_valid (policy : IntelligencePolicy floats) :
    build policy.toPolicyFields = .ok policy := by
  unfold build
  split
  · rename_i error refused
    cases (PolicyFields.post_init_ok.mpr policy.valid).symm.trans refused
  · rfl

theorem built_fields {fields : PolicyFields floats} {policy : IntelligencePolicy floats}
    (built : build fields = .ok policy) : policy.toPolicyFields = fields := by
  unfold build at built
  split at built
  · cases built
  · obtain rfl := Except.ok.inj built
    rfl

/-- The defaults of the class, with a failure rate of `0.2` there. -/
def defaultFields (failureRate : Rate floats) : PolicyFields floats where
  policyId := "default"
  policyVersion := "1.0"
  riskBasePoints := Dict.ofItems [("low", 5), ("medium", 20), ("high", 45), ("critical", 70)]
  blastRadiusPoints := Dict.ofItems
    [("single_resource", 0), ("bounded_set", 5), ("broad", 15), ("unbounded", 25)]
  reversibilityPoints := Dict.ofItems [("reversible", 0), ("compensatable", 5), ("irreversible", 15)]
  amountThresholds := Dict.empty
  defaultAmountThresholds := ⟨1000000, 10000000, 100000000⟩
  maxRecommendedTtlSeconds := 3600
  sensitiveTargetPatterns := []
  restrictedEffectTypes := []
  maxDelegationDepth := 8
  maxAcceptableFailureRate := failureRate
  blockThreshold := 85
  reviewThreshold := 40
  riskLevelThresholds := ⟨25, 50, 75⟩
  maxRequiredHumanApprovals := 5
  coolingOffHighSeconds := 60
  coolingOffCriticalSeconds := 300

/-- The defaults pass the checks of their constructor. -/
theorem defaults_valid {failureRate : Rate floats} (inUnit : failureRate.inUnit = true) :
    (defaultFields failureRate).Valid where
  idBounded := show boundedText 128 "default" by decide
  versionDotted := show '.' ∈ "1.0".toList by decide
  blockInRange := show (0 : Int) ≤ 85 ∧ (85 : Int) ≤ 100 by decide
  reviewInRange := show (0 : Int) ≤ 40 ∧ (40 : Int) ≤ 85 by decide
  levelsIncreasing := show (0 : Int) < 25 ∧ (25 : Int) < 50 ∧ (50 : Int) < 75 ∧ (75 : Int) ≤ 100
    by decide
  rateInUnit := inUnit
  depthNonnegative := show (0 : Int) ≤ 8 by decide
  lifetimePositive := show (0 : Int) < 3600 by decide
  amounts := fun _ member => absurd member List.not_mem_nil

/-! ### Payloads -/

def canonicalFields (policy : IntelligencePolicy floats) : List (String × PayloadValue) :=
  [("policy_id", .text policy.policyId),
    ("policy_version", .text policy.policyVersion),
    ("risk_base_points", dictPayload .int policy.riskBasePoints),
    ("blast_radius_points", dictPayload .int policy.blastRadiusPoints),
    ("reversibility_points", dictPayload .int policy.reversibilityPoints),
    ("amount_thresholds", dictPayload Thresholds.payload policy.amountThresholds),
    ("default_amount_thresholds", policy.defaultAmountThresholds.payload),
    ("max_recommended_ttl_seconds", .int policy.maxRecommendedTtlSeconds),
    ("sensitive_target_patterns", textsPayload (pySorted policy.sensitiveTargetPatterns)),
    ("restricted_effect_types", textsPayload (pySorted policy.restrictedEffectTypes)),
    ("max_delegation_depth", .int policy.maxDelegationDepth),
    ("max_acceptable_failure_rate", .text policy.maxAcceptableFailureRate.repr),
    ("block_threshold", .int policy.blockThreshold),
    ("review_threshold", .int policy.reviewThreshold),
    ("risk_level_thresholds", policy.riskLevelThresholds.payload),
    ("max_required_human_approvals", .int policy.maxRequiredHumanApprovals),
    ("cooling_off_high_seconds", .int policy.coolingOffHighSeconds),
    ("cooling_off_critical_seconds", .int policy.coolingOffCriticalSeconds)]

def canonicalDict (policy : IntelligencePolicy floats) : Payload :=
  Dict.ofItems policy.canonicalFields

def reading : Reading := ⟨"policy bundle", true⟩

/-- `float(text)`. -/
def floatOf (text : String) : Except PyError (Rate floats) :=
  match floats.parse text with
  | some value => .ok (.float value)
  | none => valueError ("could not convert string to float: " ++ pyRepr text)

/-- `policy_from_bundle_payload`. -/
def fromBundlePayload (payload : Payload) : Except PyError (IntelligencePolicy floats) := do
  let policyId ← Payload.asStr reading payload "policy_id"
  let policyVersion ← Payload.asStr reading payload "policy_version"
  let riskBasePoints ← Payload.asDictStrInt reading payload "risk_base_points"
  let blastRadiusPoints ← Payload.asDictStrInt reading payload "blast_radius_points"
  let reversibilityPoints ← Payload.asDictStrInt reading payload "reversibility_points"
  let amountThresholds ← Payload.asAmountThresholds reading payload "amount_thresholds"
  let defaultAmountThresholds ← Payload.asInt3 reading payload "default_amount_thresholds"
  let maxRecommendedTtlSeconds ← Payload.asInt reading payload "max_recommended_ttl_seconds"
  let sensitiveTargetPatterns ← Payload.asTupleStr reading payload "sensitive_target_patterns"
  let restrictedEffectTypes ← Payload.asTupleStr reading payload "restricted_effect_types"
  let maxDelegationDepth ← Payload.asInt reading payload "max_delegation_depth"
  let rateText ← Payload.asStr reading payload "max_acceptable_failure_rate"
  let maxAcceptableFailureRate ← floatOf rateText
  let blockThreshold ← Payload.asInt reading payload "block_threshold"
  let reviewThreshold ← Payload.asInt reading payload "review_threshold"
  let riskLevelThresholds ← Payload.asInt3 reading payload "risk_level_thresholds"
  let maxRequiredHumanApprovals ← Payload.asInt reading payload "max_required_human_approvals"
  let coolingOffHighSeconds ← Payload.asInt reading payload "cooling_off_high_seconds"
  let coolingOffCriticalSeconds ← Payload.asInt reading payload "cooling_off_critical_seconds"
  build
    { policyId
      policyVersion
      riskBasePoints
      blastRadiusPoints
      reversibilityPoints
      amountThresholds
      defaultAmountThresholds
      maxRecommendedTtlSeconds
      sensitiveTargetPatterns
      restrictedEffectTypes
      maxDelegationDepth
      maxAcceptableFailureRate
      blockThreshold
      reviewThreshold
      riskLevelThresholds
      maxRequiredHumanApprovals
      coolingOffHighSeconds
      coolingOffCriticalSeconds }

/-- The same policy with its patterns and restricted types in order. -/
def sortedTexts (policy : IntelligencePolicy floats) : IntelligencePolicy floats where
  toPolicyFields :=
    { policy.toPolicyFields with
      sensitiveTargetPatterns := pySorted policy.sensitiveTargetPatterns
      restrictedEffectTypes := pySorted policy.restrictedEffectTypes }
  valid := { policy.valid with }

def withRate (policy : IntelligencePolicy floats) (rate : Rate floats)
    (inUnit : rate.inUnit = true) : IntelligencePolicy floats where
  toPolicyFields := { policy.toPolicyFields with maxAcceptableFailureRate := rate }
  valid := { policy.valid with rateInUnit := inUnit }

section ReadingBack

variable {policy decoded : IntelligencePolicy floats} {payload : Payload} {rate : Rate floats}

theorem canonical_keys_distinct (policy : IntelligencePolicy floats) :
    (policy.canonicalFields.map Prod.fst).Nodup := by
  show ["policy_id", "policy_version", "risk_base_points", "blast_radius_points",
    "reversibility_points", "amount_thresholds", "default_amount_thresholds",
    "max_recommended_ttl_seconds", "sensitive_target_patterns", "restricted_effect_types",
    "max_delegation_depth", "max_acceptable_failure_rate", "block_threshold", "review_threshold",
    "risk_level_thresholds", "max_required_human_approvals", "cooling_off_high_seconds",
    "cooling_off_critical_seconds"].Nodup
  decide

theorem field_at {key : String} {value : PayloadValue} (index : Nat)
    (listed : policy.canonicalFields[index]? = some (key, value)) :
    policy.canonicalDict.get key = some value :=
  Dict.get_of_item policy.canonical_keys_distinct (List.mem_of_getElem? listed)

theorem rate_written (policy : IntelligencePolicy floats) :
    policy.canonicalDict.get "max_acceptable_failure_rate" =
      some (.text policy.maxAcceptableFailureRate.repr) := field_at 11 rfl

/-- A policy is read back with its texts in order and the rate its text is parsed to. -/
theorem reads_back_with (parsed : floatOf policy.maxAcceptableFailureRate.repr = .ok rate)
    (inUnit : rate.inUnit = true) :
    fromBundlePayload policy.canonicalDict = .ok (policy.sortedTexts.withRate rate inUnit) := by
  refine except_bind_of_ok (Payload.reads_str (field_at 0 rfl)) ?_
  refine except_bind_of_ok (Payload.reads_str (field_at 1 rfl)) ?_
  refine except_bind_of_ok (Payload.reads_dict (field_at 2 rfl)) ?_
  refine except_bind_of_ok (Payload.reads_dict (field_at 3 rfl)) ?_
  refine except_bind_of_ok (Payload.reads_dict (field_at 4 rfl)) ?_
  refine except_bind_of_ok (Payload.reads_amounts (field_at 5 rfl)) ?_
  refine except_bind_of_ok (Payload.reads_thresholds (field_at 6 rfl)) ?_
  refine except_bind_of_ok (Payload.reads_int (field_at 7 rfl)) ?_
  refine except_bind_of_ok (Payload.reads_texts (field_at 8 rfl)) ?_
  refine except_bind_of_ok (Payload.reads_texts (field_at 9 rfl)) ?_
  refine except_bind_of_ok (Payload.reads_int (field_at 10 rfl)) ?_
  refine except_bind_of_ok (Payload.reads_str policy.rate_written) ?_
  refine except_bind_of_ok parsed ?_
  refine except_bind_of_ok (Payload.reads_int (field_at 12 rfl)) ?_
  refine except_bind_of_ok (Payload.reads_int (field_at 13 rfl)) ?_
  refine except_bind_of_ok (Payload.reads_thresholds (field_at 14 rfl)) ?_
  refine except_bind_of_ok (Payload.reads_int (field_at 15 rfl)) ?_
  refine except_bind_of_ok (Payload.reads_int (field_at 16 rfl)) ?_
  refine except_bind_of_ok (Payload.reads_int (field_at 17 rfl)) ?_
  exact build_valid (policy.sortedTexts.withRate rate inUnit)

/-- A rate that is a float is read back as it is. -/
theorem reads_back (documented : floats.Documented)
    (isFloat : policy.maxAcceptableFailureRate.IsFloat) :
    fromBundlePayload policy.canonicalDict = .ok policy.sortedTexts := by
  have inUnit := policy.valid.rateInUnit
  have parsed : floatOf policy.maxAcceptableFailureRate.repr =
      .ok policy.maxAcceptableFailureRate := by
    obtain ⟨value, same⟩ := isFloat
    rw [same] at inUnit ⊢
    rw [floatOf, Rate.repr, documented.reprReadBack value inUnit]
  exact reads_back_with parsed inUnit

/-- Writing the ordered texts again gives the same payload. -/
theorem same_canonical_dict (policy : IntelligencePolicy floats) :
    policy.sortedTexts.canonicalDict = policy.canonicalDict := by
  have sorted : ∀ texts, pySorted (pySorted texts) = pySorted texts :=
    fun texts => py_sorted_of_perm (py_sorted_perm texts)
  have fields : policy.sortedTexts.canonicalFields = policy.canonicalFields := by
    simp only [canonicalFields, sortedTexts, sorted]
  rw [canonicalDict, fields, canonicalDict]

/-- Whatever is read has a float for its rate. -/
theorem decoded_rate (decodes : fromBundlePayload payload = .ok decoded) :
    decoded.maxAcceptableFailureRate.IsFloat := by
  iterate 12 obtain ⟨_, _, decodes⟩ := except_bind_ok decodes
  obtain ⟨rate, parsed, decodes⟩ := except_bind_ok decodes
  iterate 6 obtain ⟨_, _, decodes⟩ := except_bind_ok decodes
  rw [built_fields decodes]
  unfold floatOf at parsed
  split at parsed
  · rename_i value _
    exact ⟨value, (Except.ok.inj parsed).symm⟩
  · cases parsed

end ReadingBack

end IntelligencePolicy

end KarmaSakshi.Intelligence
