import KarmaSakshi.Domain.PolicyPayloads
import KarmaSakshi.Guarantees.Separation
import KarmaSakshi.Intelligence.Assessment

/-!
Policies through their payloads: what is decoded hashes and decides like the policy that
was written.

Decoding sorts what the writer sorts, and no evaluation sees that order.  A rate given as
an integer comes back as a float, which is written otherwise.
-/

namespace KarmaSakshi.Guarantees

open KarmaSakshi.Domain KarmaSakshi.Intelligence

set_option autoImplicit false

/-! ### Decisions -/

/-- The same decision of two assessments. -/
structure SameDecision (first second : AssessmentFields) : Prop where
  score : first.score = second.score
  riskLevel : first.riskLevel = second.riskLevel
  recommendation : first.recommendation = second.recommendation
  humanApprovals : first.requiredHumanApprovals = second.requiredHumanApprovals
  serviceApprovals : first.requiredServiceApprovals = second.requiredServiceApprovals
  coolingOff : first.coolingOffPeriodSeconds = second.coolingOffPeriodSeconds
  witnessQuorum : first.requiredWitnessQuorum = second.requiredWitnessQuorum
  strength : first.requiredVerificationStrength = second.requiredVerificationStrength

/-- The same decision, or a refusal of the same class on both sides. -/
inductive DecidedAlike :
    Except PyError EffectAssessment → Except PyError EffectAssessment → Prop where
  | decided {first second : EffectAssessment}
      (same : SameDecision first.toAssessmentFields second.toAssessmentFields) :
      DecidedAlike (.ok first) (.ok second)
  | refused {first second : PyError} (same : first.kind = second.kind) :
      DecidedAlike (.error first) (.error second)

section Assessing

variable {floats : FloatArithmetic} (context : AssessmentContext)
  (policy : IntelligencePolicy floats)

/-- The payload gives a policy of the same hash that decides alike on every input. -/
def RoundTrips : Prop :=
  ∃ decoded : IntelligencePolicy floats,
    IntelligencePolicy.fromBundlePayload policy.canonicalDict = .ok decoded ∧
      decoded.policyHash context.sha256 = policy.policyHash context.sha256 ∧
      ∀ input, DecidedAlike (assess context policy input) (assess context decoded input)

variable {context policy}

/-- Ordering the patterns orders their marks. -/
theorem sorted_marks_perm (search : (pattern target : String) → Option Bool)
    (manifest : EffectManifest) (facts : AssessmentFacts) :
    (marks search manifest policy facts).Perm (marks search manifest policy.sortedTexts facts) := by
  have targets : (scoreTargetSensitivity search manifest policy).Perm
      (scoreTargetSensitivity search manifest policy.sortedTexts) :=
    (py_sorted_perm policy.sensitiveTargetPatterns).symm.flatMap_right _
  have restricted : scoreRestrictedEffectType manifest policy =
      scoreRestrictedEffectType manifest policy.sortedTexts := by
    have members : manifest.effectType ∈ policy.restrictedEffectTypes ↔
        manifest.effectType ∈ policy.sortedTexts.restrictedEffectTypes :=
      (py_sorted_perm policy.restrictedEffectTypes).mem_iff.symm
    unfold scoreRestrictedEffectType
    exact if_congr members rfl rfl
  unfold marks
  rw [restricted]
  -- Seven scorers follow the patterns; the four before them do not read the order either.
  iterate 7 apply List.Perm.append_right
  exact targets.append_left _

theorem same_policy_hash (sha256 : ByteArray → String) (policy : IntelligencePolicy floats) :
    policy.sortedTexts.policyHash sha256 = policy.policyHash sha256 := by
  rw [IntelligencePolicy.policyHash, policy.same_canonical_dict, IntelligencePolicy.policyHash]

theorem same_assessment_decision {builder other : ScoreBuilder} (alike : builder.Alike other)
    (input : AssessmentInput) :
    SameDecision (assessmentFields context policy input builder)
      (assessmentFields context policy.sortedTexts input other) := by
  have score : min builder.score 100 = min other.score 100 := by rw [alike.score]
  have level : riskLevel policy (min builder.score 100) =
      riskLevel policy.sortedTexts (min other.score 100) := congrArg (riskLevel policy) score
  have human : ∀ level, humanApprovals policy level builder.signalNames =
      humanApprovals policy level other.signalNames := by
    intro level
    simp only [humanApprovals, alike.names]
  have service : serviceApprovals builder.signalNames = serviceApprovals other.signalNames := by
    simp only [serviceApprovals, alike.names]
  refine ⟨score, level, ?_, ?_, service, ?_, congrArg witnessQuorum level, ?_⟩
  · show recommendation policy _ (!builder.forcedBlockReasons.isEmpty) =
      recommendation policy _ (!other.forcedBlockReasons.isEmpty)
    rw [score, alike.blocked]
  · exact (human _).trans (congrArg (fun level =>
      humanApprovals policy level other.signalNames) level)
  · exact congrArg (coolingOffSeconds policy) level
  · exact congrArg (verificationStrength input.manifest input.facts) level

theorem build_alike {first second : AssessmentFields} (names : first.named ↔ second.named)
    (same : SameDecision first second) :
    DecidedAlike (EffectAssessment.build first) (EffectAssessment.build second) := by
  have scores : first.scoreInRange ↔ second.scoreInRange := by
    rw [AssessmentFields.scoreInRange, same.score, AssessmentFields.scoreInRange]
  have counts : first.nonnegative ↔ second.nonnegative := by
    rw [AssessmentFields.nonnegative, same.humanApprovals, same.serviceApprovals, same.coolingOff,
      same.witnessQuorum, AssessmentFields.nonnegative]
  unfold EffectAssessment.build
  by_cases named : first.named
  · by_cases inRange : first.scoreInRange
    · by_cases nonnegative : first.nonnegative
      · rw [dif_pos named, dif_pos inRange, dif_pos nonnegative, dif_pos (names.mp named),
          dif_pos (scores.mp inRange), dif_pos (counts.mp nonnegative)]
        exact .decided same
      · rw [dif_pos named, dif_pos inRange, dif_neg nonnegative, dif_pos (names.mp named),
          dif_pos (scores.mp inRange), dif_neg (fun held => nonnegative (counts.mpr held))]
        exact .refused rfl
    · rw [dif_pos named, dif_neg inRange, dif_pos (names.mp named),
        dif_neg (fun held => inRange (scores.mpr held))]
      exact .refused rfl
  · rw [dif_neg named, dif_neg (fun held => named (names.mpr held))]
    exact .refused rfl

/-- Every input is assessed alike once the texts are in order. -/
theorem sorted_assessed_alike (input : AssessmentInput) :
    DecidedAlike (assess context policy input) (assess context policy.sortedTexts input) := by
  have permuted := @sorted_marks_perm _ policy context.search input.manifest input.facts
  unfold assess
  cases runs : ScoreBuilder.empty.run (marks context.search input.manifest policy input.facts) with
  | ok builder =>
      obtain ⟨other, runsToo, alike⟩ := ScoreBuilder.run_of_perm permuted runs
      rw [runsToo]
      apply build_alike
      · show AssessmentFields.named { assessmentFields context policy input builder with
          policyHash := policy.policyHash context.sha256 } ↔
            AssessmentFields.named { assessmentFields context policy input builder with
              policyHash := policy.sortedTexts.policyHash context.sha256 }
        rw [same_policy_hash]
      · exact same_assessment_decision alike input
  | error error =>
      cases runsToo : ScoreBuilder.empty.run
          (marks context.search input.manifest policy.sortedTexts input.facts) with
      | ok other =>
          obtain ⟨builder, accepted, _⟩ := ScoreBuilder.run_of_perm permuted.symm runsToo
          cases runs.symm.trans accepted
      | error second =>
          exact .refused ((ScoreBuilder.run_refuses runs).trans
            (ScoreBuilder.run_refuses runsToo).symm)

/-- An integer rate is written as an integer, and a decoded rate never is. -/
theorem rate_is_float (documented : floats.Documented)
    (injective : Function.Injective context.sha256) (trips : RoundTrips context policy) :
    policy.maxAcceptableFailureRate.IsFloat := by
  obtain ⟨decoded, decodes, sameHash, _⟩ := trips
  obtain ⟨value, isFloat⟩ := IntelligencePolicy.decoded_rate decodes
  have shown := Payload.hash_shows_text injective sameHash decoded.rate_written
  have texts := Option.some.inj (shown.symm.trans policy.rate_written)
  cases rate : policy.maxAcceptableFailureRate with
  | float given => exact ⟨given, rfl⟩
  | int number =>
      rw [isFloat, rate] at texts
      exact absurd (Json.Document.text.inj texts) (documented.reprNotDecimal value number)

end Assessing

/-! ### Quorums and separation -/

section Verdicts

variable (sha256 : ByteArray → String)

/-- The payload gives a policy of the same hash under which every quorum is evaluated alike. -/
def QuorumRoundTrips (policy : ApprovalPolicy) : Prop :=
  ∃ decoded, ApprovalPolicy.fromBundlePayload policy.canonicalDict = .ok decoded ∧
    decoded.policyHash sha256 = policy.policyHash sha256 ∧
    ∀ crypto primitives question statements,
      evaluateQuorum crypto primitives decoded question statements =
        evaluateQuorum crypto primitives policy question statements

/-- The payload gives a policy of the same hash with the same verdict on every assignment. -/
def SeparationRoundTrips (policy : SeparationOfDutyPolicy) : Prop :=
  ∃ decoded, SeparationOfDutyPolicy.fromBundlePayload policy.canonicalDict = .ok decoded ∧
    decoded.policyHash sha256 = policy.policyHash sha256 ∧
    ∀ assignment, (checkSeparationOfDuty assignment decoded).satisfied =
      (checkSeparationOfDuty assignment policy).satisfied

variable {sha256}

theorem quorum_round_trips {policy : ApprovalPolicy} (checked : policy.Checked) :
    QuorumRoundTrips sha256 policy := by
  refine ⟨policy.sortedRoles, policy.reads_back checked, ?_, ?_⟩
  · rw [ApprovalPolicy.policyHash, policy.same_canonical_dict, ApprovalPolicy.policyHash]
  · intro crypto primitives question statements
    exact ApprovalPolicy.same_evaluation statements

theorem separation_round_trips {policy : SeparationOfDutyPolicy} (checked : policy.Checked) :
    SeparationRoundTrips sha256 policy := by
  refine ⟨policy.sortedRules, SeparationOfDutyPolicy.reads_back checked, ?_, ?_⟩
  · rw [SeparationOfDutyPolicy.policyHash, policy.same_canonical_dict,
      SeparationOfDutyPolicy.policyHash]
  · intro assignment
    exact same_separation_verdict (fun _ => Iff.rfl) policy.sorted_rules_pairs

end Verdicts

/-! ### Rates in tenths -/

/-- `repr` of a number of tenths. -/
def tenthText (rate : Fin 11) : String := if rate = 10 then "1.0" else "0." ++ toString rate.val

def parseTenth (text : String) : Option (Fin 11) :=
  if text = "0" then some 0
  else if text = "1" then some 10
  else (List.finRange 11).find? (fun rate => tenthText rate = text)

/-- The multiples of a tenth up to one. -/
def tenths : FloatArithmetic where
  Carrier := Fin 11
  repr := tenthText
  parse := parseTenth
  ofInt := fun number => if number = 0 then 0 else 10
  inUnit := fun _ => true
  exceeds := fun rate limit => decide (limit < rate)
  ratio := fun part whole => Fin.ofNat 11 (10 * part / whole).toNat
  twoPlaces := fun rate => tenthText rate ++ "0"
  wholeSeconds := fun micros => micros / microsPerSecond

theorem decimal_has_no_point (number : Int) : '.' ∉ (toString number).toList := by
  have digits : ∀ magnitude : Nat, '.' ∉ (toString magnitude).toList := by
    intro magnitude point
    have listed : (toString magnitude).toList = Nat.toDigits 10 magnitude := String.toList_ofList
    rw [listed] at point
    exact absurd (Json.digits_of_nat magnitude _ point) (by decide)
  cases number with
  | ofNat magnitude => exact digits magnitude
  | negSucc predecessor =>
      intro point
      have listed : (toString (Int.negSucc predecessor)).toList =
          '-' :: (toString (predecessor + 1)).toList := by
        show ("-" ++ toString (predecessor + 1)).toList = _
        rw [String.toList_append]
        rfl
      rw [listed] at point
      rcases List.mem_cons.mp point with same | inside
      · exact absurd same (by decide)
      · exact digits _ inside

theorem tenth_read_back : ∀ rate : Fin 11, parseTenth (tenthText rate) = some rate := by decide

theorem tenth_has_point : ∀ rate : Fin 11, '.' ∈ (tenthText rate).toList := by decide

theorem tenths_documented : tenths.Documented where
  reprReadBack := fun rate _ => tenth_read_back rate
  reprNotDecimal := by
    intro rate number same
    have point := tenth_has_point rate
    rw [show tenthText rate = toString number from same] at point
    exact decimal_has_no_point number point

/-- Bytes spelled as characters, in place of a hash. -/
def spelledBytes (bytes : ByteArray) : String :=
  String.ofList (bytes.data.toList.map (fun byte => Char.ofNat byte.toNat))

theorem spelled_bytes_injective : Function.Injective spelledBytes := by
  have char : Function.Injective (fun byte : UInt8 => Char.ofNat byte.toNat) := by
    intro byte other same
    have code : ∀ byte : UInt8, (Char.ofNat byte.toNat).toNat = byte.toNat := by
      intro byte
      have valid : byte.toNat.isValidChar := Or.inl (byte.toNat_lt.trans (by decide))
      rw [Char.toNat_ofNat, if_pos valid]
    have codes := congrArg Char.toNat same
    rw [code, code] at codes
    exact UInt8.toNat_inj.mp codes
  intro bytes other same
  have lists := List.map_injective_iff.mpr char (String.ofList_injective same)
  exact ByteArray.ext (Array.toList_inj.mp lists)

/-- The payload of a scoring policy gives back its hash and its decisions exactly when the
failure rate is a float; those of quorum and separation policies always do. -/
theorem policy_payload_round_trip_iff (floats : FloatArithmetic) (documented : floats.Documented)
    (context : AssessmentContext) (injective : Function.Injective context.sha256) :
    (∀ policy : IntelligencePolicy floats,
      RoundTrips context policy ↔ policy.maxAcceptableFailureRate.IsFloat) ∧
    (∀ policy : ApprovalPolicy, policy.Checked → QuorumRoundTrips context.sha256 policy) ∧
    ∀ policy : SeparationOfDutyPolicy, policy.Checked →
      SeparationRoundTrips context.sha256 policy := by
  refine ⟨fun policy => ⟨rate_is_float documented injective, fun isFloat => ?_⟩,
    fun _ => quorum_round_trips, fun _ => separation_round_trips⟩
  exact ⟨policy.sortedTexts, IntelligencePolicy.reads_back documented isFloat,
    same_policy_hash context.sha256 policy, sorted_assessed_alike⟩

/-- Hashes by the bytes themselves, and no pattern that matches. -/
def plainContext : AssessmentContext where
  search := fun _ _ => some false
  manifestDigest := fun manifest => manifest.manifestId
  sha256 := spelledBytes

def ratedPolicy (rate : Rate tenths) (inUnit : rate.inUnit = true) : IntelligencePolicy tenths :=
  ⟨IntelligencePolicy.defaultFields rate, IntelligencePolicy.defaults_valid inUnit⟩

def tenth (rate : Fin 11) : Rate tenths := .float rate

def defaultPolicy : IntelligencePolicy tenths := ratedPolicy (tenth 2) rfl

theorem default_policy_round_trips : RoundTrips plainContext defaultPolicy :=
  ((policy_payload_round_trip_iff tenths tenths_documented plainContext
    spelled_bytes_injective).1 defaultPolicy).mpr ⟨(2 : Fin 11), rfl⟩

def integerRatePolicy : IntelligencePolicy tenths := ratedPolicy (.int 1) rfl

/-- The rate `1` passes the checks, is written as `1` and comes back as `1.0`: the payload is
read without complaint and the policy has another hash. -/
theorem integer_rate_changes_hash :
    ∃ decoded : IntelligencePolicy tenths,
      IntelligencePolicy.fromBundlePayload integerRatePolicy.canonicalDict = .ok decoded ∧
        decoded.policyHash spelledBytes ≠ integerRatePolicy.policyHash spelledBytes ∧
        ¬ RoundTrips plainContext integerRatePolicy := by
  have parsed : IntelligencePolicy.floatOf integerRatePolicy.maxAcceptableFailureRate.repr =
      .ok (tenth 10) := by
    have one : parseTenth "1" = some 10 := by decide
    have parses : tenths.parse integerRatePolicy.maxAcceptableFailureRate.repr = some (10 : Fin 11) := one
    rw [IntelligencePolicy.floatOf, parses]
    rfl
  have decodes := IntelligencePolicy.reads_back_with parsed rfl
  refine ⟨_, decodes, ?_, ?_⟩
  · intro sameHash
    have shown := Payload.hash_shows_text spelled_bytes_injective sameHash
      (IntelligencePolicy.rate_written _)
    have texts := Option.some.inj (shown.symm.trans integerRatePolicy.rate_written)
    exact absurd (Json.Document.text.inj texts) (by decide)
  · intro trips
    obtain ⟨value, isFloat⟩ := rate_is_float tenths_documented spelled_bytes_injective trips
    have impossible : (Rate.int 1 : Rate tenths) = .float value := isFloat
    cases impossible

end KarmaSakshi.Guarantees
