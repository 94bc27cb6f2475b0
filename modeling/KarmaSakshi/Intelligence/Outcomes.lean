import KarmaSakshi.Intelligence.Assessment

/-!
What an assessment says, in terms of the marks of its scorers, and when it is given at all.
-/

namespace KarmaSakshi.Intelligence

open KarmaSakshi.Domain
open KarmaSakshi.Evidence (RiskLevel Recommendation)

set_option autoImplicit false

namespace Mark

/-- The sum of what the marks add. -/
def total (marks : List Mark) : Int := (marks.map Mark.weight).sum

@[simp] theorem total_nil : total [] = 0 := rfl

@[simp] theorem total_append (first second : List Mark) :
    total (first ++ second) = total first + total second := by
  rw [total, List.map_append, List.sum_append, total, total]

theorem total_nonnegative {marks : List Mark} (fits : ∀ mark ∈ marks, mark.Fits) :
    0 ≤ total marks := by
  apply List.sum_nonneg
  intro weight member
  obtain ⟨mark, listed, rfl⟩ := List.mem_map.mp member
  exact (fits mark listed).weightInRange.1

end Mark

theorem run_returns_iff {builder : ScoreBuilder} {marks : List Mark} :
    (∃ result, builder.run marks = .ok result) ↔ ∀ mark ∈ marks, mark.Fits := by
  constructor
  · intro ⟨result, runs⟩
    exact (ScoreBuilder.run_after runs).1
  · exact ScoreBuilder.run_returns

theorem build_returns_iff {fields : AssessmentFields} :
    (∃ assessment, EffectAssessment.build fields = .ok assessment) ↔
      fields.named ∧ fields.scoreInRange ∧ fields.nonnegative := by
  constructor
  · intro ⟨assessment, built⟩
    unfold EffectAssessment.build at built
    split_ifs at built with names scores counts
    · exact ⟨names, scores, counts⟩
    · cases built
    · cases built
    · cases built
  · intro ⟨names, scores, counts⟩
    rw [EffectAssessment.build, dif_pos names, dif_pos scores, dif_pos counts]
    exact ⟨_, rfl⟩

theorem built_fields {fields : AssessmentFields} {assessment : EffectAssessment}
    (built : EffectAssessment.build fields = .ok assessment) :
    assessment.toAssessmentFields = fields := by
  unfold EffectAssessment.build at built
  split_ifs at built
  · obtain rfl := Except.ok.inj built
    rfl
  · cases built
  · cases built
  · cases built

section Outcomes

variable {floats : FloatArithmetic} (context : AssessmentContext)
  (policy : IntelligencePolicy floats) (input : AssessmentInput)

/-- The calls on the builder for one input. -/
def inputMarks : List Mark := marks context.search input.manifest policy input.facts

/-- The score, cut at a hundred. -/
def cappedScore : Int := min (Mark.total (inputMarks context policy input)) 100

/-- What an assessment says of its marks. -/
structure Grades (assessment : EffectAssessment) : Prop where
  score : assessment.score = cappedScore context policy input
  level : assessment.riskLevel = riskLevel policy assessment.score
  advice : assessment.recommendation = recommendation policy assessment.score
    (!((inputMarks context policy input).flatMap Mark.blocks).isEmpty)
  human : assessment.requiredHumanApprovals = humanApprovals policy assessment.riskLevel
    ((inputMarks context policy input).map Mark.name)

/-- What an assessment needs of its texts and counts, beside marks that fit. -/
structure Reportable : Prop where
  identified : boundedText 512 input.assessmentId
  digested : boundedText 512 (context.manifestDigest input.manifest)
  versioned : policy.policyVersion.length ≤ 512
  hashed : boundedText 512 (policy.policyHash context.sha256)
  approvals : 0 ≤ policy.maxRequiredHumanApprovals
  coolingOff : 0 ≤ coolingOffSeconds policy (riskLevel policy (cappedScore context policy input))

variable {context policy input}

theorem finished_score {builder : ScoreBuilder}
    (runs : ScoreBuilder.empty.run (inputMarks context policy input) = .ok builder) :
    min builder.score 100 = cappedScore context policy input := by
  have after := (ScoreBuilder.run_after runs).2
  rw [after.score, cappedScore, Mark.total]
  exact congrArg (fun score => min score 100) (zero_add _)

theorem assess_grades {assessment : EffectAssessment}
    (accepted : assess context policy input = .ok assessment) :
    Grades context policy input assessment := by
  obtain ⟨builder, runs, built⟩ := except_bind_ok accepted
  have fields := built_fields built
  have after := (ScoreBuilder.run_after runs).2
  have score : assessment.score = min builder.score 100 := by rw [fields]; rfl
  have level : assessment.riskLevel = riskLevel policy assessment.score := by rw [fields]; rfl
  have names : builder.signalNames = (inputMarks context policy input).map Mark.name := by
    rw [after.names]
    exact List.nil_append _
  have reasons : builder.forcedBlockReasons =
      (inputMarks context policy input).flatMap Mark.blocks := by
    rw [after.reasons]
    exact List.nil_append _
  constructor
  · rw [score, finished_score runs]
  · exact level
  · rw [← reasons, fields]
    rfl
  · rw [← names, fields]
    rfl

theorem approvals_nonnegative_iff {level : RiskLevel} {names : List String} :
    0 ≤ humanApprovals policy level names ↔ 0 ≤ policy.maxRequiredHumanApprovals := by
  have base : 0 ≤ baseHumanApprovals level := by
    cases level <;> decide
  unfold humanApprovals
  constructor
  · intro least
    exact least.trans (min_le_right _ _)
  · intro least
    apply le_min _ least
    split_ifs <;> omega

theorem named_iff {builder : ScoreBuilder} :
    (assessmentFields context policy input builder).named ↔
      boundedText 512 input.assessmentId ∧ boundedText 512 (context.manifestDigest input.manifest) ∧
        policy.policyVersion.length ≤ 512 ∧ boundedText 512 (policy.policyHash context.sha256) := by
  have manifest : boundedText 512 input.manifest.manifestId :=
    ⟨input.manifest.manifestIdBounded.1, input.manifest.manifestIdBounded.2.trans (by decide)⟩
  have identity : boundedText 512 policy.policyId :=
    ⟨policy.valid.idBounded.1, policy.valid.idBounded.2.trans (by decide)⟩
  have dotted : policy.policyVersion ≠ "" := by
    intro empty
    have point := policy.valid.versionDotted
    rw [empty] at point
    exact absurd point (by decide)
  have version : boundedText 512 policy.policyVersion ↔ policy.policyVersion.length ≤ 512 :=
    and_iff_right dotted
  simp only [AssessmentFields.named, assessmentFields, List.forall_mem_cons, List.not_mem_nil,
    false_implies, implies_true, and_true, manifest, identity, true_and, version]

theorem counts_iff {builder : ScoreBuilder}
    (runs : ScoreBuilder.empty.run (inputMarks context policy input) = .ok builder) :
    (assessmentFields context policy input builder).nonnegative ↔
      0 ≤ policy.maxRequiredHumanApprovals ∧
        0 ≤ coolingOffSeconds policy (riskLevel policy (cappedScore context policy input)) := by
  have service : ∀ names, 0 ≤ serviceApprovals names := by
    intro names
    unfold serviceApprovals
    split_ifs <;> decide
  have quorum : ∀ level, 0 ≤ witnessQuorum level := by
    intro level
    cases level <;> decide
  simp only [AssessmentFields.nonnegative, assessmentFields, List.forall_mem_cons,
    List.not_mem_nil, false_implies, implies_true, and_true, approvals_nonnegative_iff, service,
    quorum, true_and, finished_score runs]

/-- The assessments that are given are those whose marks fit and whose texts and counts can be
reported. -/
theorem assess_returns_iff :
    (∃ assessment, assess context policy input = .ok assessment) ↔
      (∀ mark ∈ inputMarks context policy input, mark.Fits) ∧
        Reportable context policy input := by
  constructor
  · intro ⟨assessment, accepted⟩
    obtain ⟨builder, runs, built⟩ := except_bind_ok accepted
    obtain ⟨names, _, counts⟩ := build_returns_iff.mp ⟨assessment, built⟩
    obtain ⟨identified, digested, versioned, hashed⟩ := named_iff.mp names
    obtain ⟨approvals, coolingOff⟩ := (counts_iff runs).mp counts
    exact ⟨(ScoreBuilder.run_after runs).1,
      ⟨identified, digested, versioned, hashed, approvals, coolingOff⟩⟩
  · intro ⟨fits, reportable⟩
    obtain ⟨builder, runs⟩ := @ScoreBuilder.run_returns ScoreBuilder.empty _ fits
    have score : (assessmentFields context policy input builder).score =
        cappedScore context policy input := finished_score runs
    have inRange : (assessmentFields context policy input builder).scoreInRange := by
      rw [AssessmentFields.scoreInRange, score]
      exact ⟨le_min (Mark.total_nonnegative fits) (by decide), min_le_right _ _⟩
    obtain ⟨assessment, built⟩ := build_returns_iff.mpr
      ⟨named_iff.mpr ⟨reportable.identified, reportable.digested, reportable.versioned,
        reportable.hashed⟩, inRange, (counts_iff runs).mpr
          ⟨reportable.approvals, reportable.coolingOff⟩⟩
    exact ⟨assessment, except_bind_of_ok runs built⟩

end Outcomes

end KarmaSakshi.Intelligence
