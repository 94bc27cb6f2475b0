import KarmaSakshi.Guarantees.AssessmentLimits

/-!
Risk as a function of the facts: how an assessment answers to one fact made worse.

All scorers but one answer with at least as much.  A delegation at the ceiling of the policy
adds points; a deeper one adds none and blocks instead.
-/

namespace KarmaSakshi.Guarantees

open KarmaSakshi.Domain KarmaSakshi.Intelligence
open KarmaSakshi.Evidence (RiskLevel Recommendation)

set_option autoImplicit false

/-- Quotients of integers are rounded in order, and compared in order. -/
structure QuotientsOrdered (floats : FloatArithmetic) : Prop where
  exceeding : ∀ {part more whole : Int} {limit : floats.Carrier},
    0 ≤ part → part ≤ more → more ≤ whole → 0 < whole →
      floats.exceeds (floats.ratio part whole) limit = true →
        floats.exceeds (floats.ratio more whole) limit = true

/-- The same facts but for one, which is worse. -/
inductive Worsens (better : AssessmentFacts) : AssessmentFacts → Prop where
  | deeper (depth : Nat) (greater : better.delegationDepth < depth) :
      Worsens better { better with delegationDepth := depth }
  | failsMore (count : Nat) (greater : better.historicalFailureCount < count)
      (recur : count ≤ better.historicalRecurrenceCount) :
      Worsens better { better with historicalFailureCount := count, failuresRecur := recur }
  | losesIdempotency (promised : better.providerIdempotent = some true) :
      Worsens better { better with providerIdempotent := some false }
  | losesCompensation (promised : better.compensationFeasible = some true) :
      Worsens better { better with compensationFeasible := some false }
  | crossesTenants (inside : better.crossTenant = false) :
      Worsens better { better with crossTenant := true }
  | changesParameters (usual : better.unusualParameterChange = false) :
      Worsens better { better with unusualParameterChange := true }
  | violates (before after : List String) (violation : String)
      (listed : better.policyViolations = before ++ after)
      (bounded : ∀ entry ∈ before ++ violation :: after, boundedText 256 entry) :
      Worsens better
        { better with
          policyViolations := before ++ violation :: after
          violationsBounded := bounded }

/-! ### Comparing marks -/

/-- The names that ask for one more approval. -/
def escalating : List String := ["cross_tenant_effect", "irreversible_and_not_compensatable"]

/-- The marks on the right ask for no less, up to a loss of points. -/
structure Milder (loss : Int) (left right : List Mark) : Prop where
  total : Mark.total left ≤ Mark.total right + loss
  names : ∀ name ∈ escalating, name ∈ left.map Mark.name → name ∈ right.map Mark.name
  blocks : right.flatMap Mark.blocks = [] → left.flatMap Mark.blocks = []

namespace Milder

variable {loss more : Int} {left right front back : List Mark}

theorem refl (marks : List Mark) : Milder 0 marks marks :=
  ⟨(add_zero _).ge, fun _ _ member => member, fun empty => empty⟩

theorem of_nil (gains : 0 ≤ Mark.total right) : Milder 0 [] right :=
  ⟨gains.trans (add_zero _).ge, fun _ _ member => absurd member List.not_mem_nil, fun _ => rfl⟩

theorem append (first : Milder loss left right) (second : Milder more front back) :
    Milder (loss + more) (left ++ front) (right ++ back) := by
  constructor
  · have heads := first.total
    have tails := second.total
    rw [Mark.total_append, Mark.total_append]
    omega
  · intro name counts
    rw [List.map_append, List.map_append, List.mem_append, List.mem_append]
    exact Or.imp (first.names name counts) (second.names name counts)
  · rw [List.flatMap_append, List.flatMap_append, List.append_eq_nil_iff, List.append_eq_nil_iff]
    exact And.imp first.blocks second.blocks

end Milder

section Scorers

variable {floats : FloatArithmetic} {search : (pattern target : String) → Option Bool}
  {manifest : EffectManifest} {policy : IntelligencePolicy floats} {better worse : AssessmentFacts}

/-- The delegation leaves the ceiling upwards. -/
def PassesCeiling (policy : IntelligencePolicy floats) (better worse : AssessmentFacts) : Prop :=
  (better.delegationDepth : Int) = policy.maxDelegationDepth ∧
    policy.maxDelegationDepth < worse.delegationDepth

/-- The marks of all scorers but that of the delegation depth. -/
def otherMarks (search : (pattern target : String) → Option Bool) (manifest : EffectManifest)
    (policy : IntelligencePolicy floats) (facts : AssessmentFacts) : List Mark :=
  scoreDeclaredClassification manifest policy ++ scoreMonetaryExposure manifest policy ++
    scoreStateAndPreconditions manifest ++ scoreManifestLifetime manifest policy ++
    scoreTargetSensitivity search manifest policy ++ scoreRestrictedEffectType manifest policy ++
    scoreHistoricalRecurrence policy facts ++ scoreProviderCapabilities manifest facts ++
    scoreCrossTenant facts ++ scoreUnusualParameterChange facts ++
    scoreExternalPolicyViolations facts

theorem total_splits (facts : AssessmentFacts) :
    Mark.total (marks search manifest policy facts) =
      Mark.total (otherMarks search manifest policy facts) +
        Mark.total (scoreDelegationDepth policy facts) := by
  simp only [marks, otherMarks, Mark.total_append]
  ring

theorem marks_milder {loss : Int}
    (depth : Milder loss (scoreDelegationDepth policy better) (scoreDelegationDepth policy worse))
    (history : Milder 0 (scoreHistoricalRecurrence policy better)
      (scoreHistoricalRecurrence policy worse))
    (provider : Milder 0 (scoreProviderCapabilities manifest better)
      (scoreProviderCapabilities manifest worse))
    (tenants : Milder 0 (scoreCrossTenant better) (scoreCrossTenant worse))
    (change : Milder 0 (scoreUnusualParameterChange better) (scoreUnusualParameterChange worse))
    (violations : Milder 0 (scoreExternalPolicyViolations better)
      (scoreExternalPolicyViolations worse)) :
    Milder loss (marks search manifest policy better) (marks search manifest policy worse) := by
  have together := (((((Milder.refl (scoreDeclaredClassification manifest policy ++
    scoreMonetaryExposure manifest policy ++ scoreStateAndPreconditions manifest ++
    scoreManifestLifetime manifest policy ++ scoreTargetSensitivity search manifest policy ++
    scoreRestrictedEffectType manifest policy)).append depth).append history).append
      provider).append tenants).append change |>.append violations
  rw [zero_add, add_zero, add_zero, add_zero, add_zero, add_zero] at together
  exact together

theorem depth_below (below : (better.delegationDepth : Int) < policy.maxDelegationDepth) :
    scoreDelegationDepth policy better = [] := by
  rw [scoreDelegationDepth, if_neg (by omega), if_neg (by omega)]

theorem depth_at (level : (better.delegationDepth : Int) = policy.maxDelegationDepth) :
    ∃ detail, scoreDelegationDepth policy better =
      [.add "delegation_depth_at_ceiling" 20 detail] := by
  rw [scoreDelegationDepth, if_neg (by omega), if_pos level]
  exact ⟨_, rfl⟩

theorem depth_above (above : policy.maxDelegationDepth < (better.delegationDepth : Int)) :
    ∃ detail, scoreDelegationDepth policy better =
      [.forceBlock "delegation_depth_exceeds_policy_ceiling" detail] := by
  rw [scoreDelegationDepth, if_pos above]
  exact ⟨_, rfl⟩

theorem depth_gains (facts : AssessmentFacts) : 0 ≤ Mark.total (scoreDelegationDepth policy facts) := by
  unfold scoreDelegationDepth
  split_ifs <;> simp [Mark.total, Mark.weight]

/-- A deeper delegation is scored no milder unless it passes the ceiling. -/
theorem deeper_milder (deeper : better.delegationDepth < worse.delegationDepth)
    (stays : ¬ PassesCeiling policy better worse) :
    Milder 0 (scoreDelegationDepth policy better) (scoreDelegationDepth policy worse) := by
  rcases lt_trichotomy (better.delegationDepth : Int) policy.maxDelegationDepth with
    below | level | above
  · rw [depth_below below]
    exact Milder.of_nil (depth_gains worse)
  · exact absurd ⟨level, by omega⟩ stays
  · have further : policy.maxDelegationDepth < (worse.delegationDepth : Int) := by omega
    obtain ⟨detail, first⟩ := depth_above above
    obtain ⟨other, second⟩ := depth_above further
    rw [first, second]
    exact ⟨le_refl _, fun _ _ member => member, fun empty => by cases empty⟩

/-- What passing the ceiling costs and what it keeps. -/
theorem passing_milder (passes : PassesCeiling policy better worse) :
    Mark.total (scoreDelegationDepth policy better) = 20 ∧
      Mark.total (scoreDelegationDepth policy worse) = 0 ∧
        Milder 20 (scoreDelegationDepth policy better) (scoreDelegationDepth policy worse) := by
  obtain ⟨detail, first⟩ := depth_at passes.1
  obtain ⟨other, second⟩ := depth_above passes.2
  rw [first, second]
  refine ⟨rfl, rfl, le_refl _, ?_, fun empty => by cases empty⟩
  intro name counts member
  obtain rfl := List.mem_singleton.mp member
  exact absurd counts (show "delegation_depth_at_ceiling" ∉ escalating by decide)

/-- More failures in the same history. -/
theorem failures_milder (ordered : QuotientsOrdered floats)
    (history : better.historicalRecurrenceCount = worse.historicalRecurrenceCount)
    (fails : better.historicalFailureCount ≤ worse.historicalFailureCount) :
    Milder 0 (scoreHistoricalRecurrence policy better)
      (scoreHistoricalRecurrence policy worse) := by
  unfold scoreHistoricalRecurrence
  rw [← history]
  by_cases novel : better.historicalRecurrenceCount = 0
  · rw [if_pos novel, if_pos novel]
    exact Milder.refl _
  · rw [if_neg novel, if_neg novel]
    have recur := worse.failuresRecur
    have kept : policy.maxAcceptableFailureRate.exceededBy
          (floats.ratio better.historicalFailureCount better.historicalRecurrenceCount) = true →
        policy.maxAcceptableFailureRate.exceededBy
          (floats.ratio worse.historicalFailureCount better.historicalRecurrenceCount) = true := by
      cases policy.maxAcceptableFailureRate with
      | float value => exact ordered.exceeding (by omega) (by omega) (by omega) (by omega)
      | int value => exact ordered.exceeding (by omega) (by omega) (by omega) (by omega)
    dsimp only
    split_ifs with first second
    · exact ⟨le_refl _, fun _ _ member => member, fun _ => rfl⟩
    · exact absurd (kept first) second
    · exact Milder.of_nil (show (0 : Int) ≤ 25 by decide)
    · exact Milder.refl _

/-- What is scored of the provider's promise of idempotency. -/
theorem idempotency_milder (promised : better.providerIdempotent = some true)
    (lost : worse = { better with providerIdempotent := some false }) :
    Milder 0 (scoreProviderCapabilities manifest better)
      (scoreProviderCapabilities manifest worse) := by
  subst lost
  unfold scoreProviderCapabilities
  show Milder (0 + 0) _ _
  apply Milder.append
  · rw [promised]
    dsimp only
    split_ifs
    · exact Milder.of_nil (show (0 : Int) ≤ 12 by decide)
    · exact Milder.refl _
  · exact Milder.refl _

theorem compensation_milder (promised : better.compensationFeasible = some true)
    (lost : worse = { better with compensationFeasible := some false }) :
    Milder 0 (scoreProviderCapabilities manifest better)
      (scoreProviderCapabilities manifest worse) := by
  subst lost
  unfold scoreProviderCapabilities
  show Milder (0 + 0) _ _
  apply Milder.append
  · exact Milder.refl _
  · rw [promised]
    dsimp only
    split_ifs
    · exact Milder.of_nil (le_refl 0)
    · exact Milder.of_nil (show (0 : Int) ≤ 15 by decide)
    · exact Milder.refl _

theorem fewer_milder (before after : List String) (violation : String)
    (listed : better.policyViolations = before ++ after)
    (more : worse.policyViolations = before ++ violation :: after) :
    Milder 0 (scoreExternalPolicyViolations better) (scoreExternalPolicyViolations worse) := by
  have weights : ∀ violations : List String, Mark.total (violations.map (fun violation =>
      Mark.forceBlock ("external_policy_violation:" ++ violation) violation)) = 0 := by
    intro violations
    induction violations with
    | nil => rfl
    | cons violation rest ih => exact (zero_add _).trans ih
  unfold scoreExternalPolicyViolations
  rw [listed, more]
  refine ⟨?_, ?_, ?_⟩
  · rw [weights, weights]
    decide
  · intro name _
    simp only [List.map_append, List.map_cons, List.mem_append, List.mem_cons]
    exact Or.imp_right Or.inr
  · intro empty
    rw [List.map_append, List.map_cons, List.flatMap_append, List.flatMap_cons,
      List.append_eq_nil_iff] at empty
    cases empty.2

/-- A worse fact is scored no milder unless the delegation passes the ceiling. -/
theorem worse_milder (ordered : QuotientsOrdered floats) (worsens : Worsens better worse)
    (stays : ¬ PassesCeiling policy better worse) :
    Milder 0 (marks search manifest policy better) (marks search manifest policy worse) := by
  cases worsens with
  | deeper depth greater =>
      exact marks_milder (deeper_milder greater stays) (Milder.refl _) (Milder.refl _)
        (Milder.refl _) (Milder.refl _) (Milder.refl _)
  | failsMore count greater recur =>
      exact marks_milder (Milder.refl _) (failures_milder ordered rfl greater.le) (Milder.refl _)
        (Milder.refl _) (Milder.refl _) (Milder.refl _)
  | losesIdempotency promised =>
      exact marks_milder (Milder.refl _) (Milder.refl _) (idempotency_milder promised rfl)
        (Milder.refl _) (Milder.refl _) (Milder.refl _)
  | losesCompensation promised =>
      exact marks_milder (Milder.refl _) (Milder.refl _) (compensation_milder promised rfl)
        (Milder.refl _) (Milder.refl _) (Milder.refl _)
  | crossesTenants inside =>
      have none : scoreCrossTenant better = [] := if_neg (by rw [inside]; decide)
      have gains : Milder 0 (scoreCrossTenant better)
          (scoreCrossTenant { better with crossTenant := true }) := by
        rw [none]
        exact Milder.of_nil (show (0 : Int) ≤ 20 by decide)
      exact marks_milder (Milder.refl _) (Milder.refl _) (Milder.refl _) gains (Milder.refl _)
        (Milder.refl _)
  | changesParameters usual =>
      have none : scoreUnusualParameterChange better = [] := if_neg (by rw [usual]; decide)
      have gains : Milder 0 (scoreUnusualParameterChange better)
          (scoreUnusualParameterChange { better with unusualParameterChange := true }) := by
        rw [none]
        exact Milder.of_nil (show (0 : Int) ≤ 12 by decide)
      exact marks_milder (Milder.refl _) (Milder.refl _) (Milder.refl _) (Milder.refl _) gains
        (Milder.refl _)
  | violates before after violation listed bounded =>
      exact marks_milder (Milder.refl _) (Milder.refl _) (Milder.refl _) (Milder.refl _)
        (Milder.refl _) (fewer_milder before after violation listed rfl)

/-- Only a deeper delegation passes the ceiling, and it changes no other mark. -/
theorem passing_keeps_others (worsens : Worsens better worse)
    (passes : PassesCeiling policy better worse) :
    otherMarks search manifest policy worse = otherMarks search manifest policy better ∧
      Milder 20 (marks search manifest policy better) (marks search manifest policy worse) := by
  have contradiction : better.delegationDepth = worse.delegationDepth → False := by
    intro same
    have level := passes.1
    have above := passes.2
    omega
  obtain ⟨_, _, milder⟩ := passing_milder passes
  cases worsens with
  | deeper depth greater =>
      exact ⟨rfl, marks_milder milder (Milder.refl _) (Milder.refl _) (Milder.refl _)
        (Milder.refl _) (Milder.refl _)⟩
  | failsMore count greater recur => exact (contradiction rfl).elim
  | losesIdempotency promised => exact (contradiction rfl).elim
  | losesCompensation promised => exact (contradiction rfl).elim
  | crossesTenants inside => exact (contradiction rfl).elim
  | changesParameters usual => exact (contradiction rfl).elim
  | violates before after violation listed bounded => exact (contradiction rfl).elim

end Scorers

/-! ### Comparing assessments -/

def levelRank : RiskLevel → Nat
  | .low => 0
  | .medium => 1
  | .high => 2
  | .critical => 3

def severity : Recommendation → Nat
  | .allow => 0
  | .review => 1
  | .block => 2

/-- The second assessment is nowhere below the first. -/
structure NoLower (first second : EffectAssessment) : Prop where
  score : first.score ≤ second.score
  level : levelRank first.riskLevel ≤ levelRank second.riskLevel
  approvals : first.requiredHumanApprovals ≤ second.requiredHumanApprovals
  advice : severity first.recommendation ≤ severity second.recommendation

section Grading

variable {floats : FloatArithmetic} {context : AssessmentContext}
  {policy : IntelligencePolicy floats}

theorem risk_level_monotone {score higher : Int} (least : score ≤ higher) :
    levelRank (riskLevel policy score) ≤ levelRank (riskLevel policy higher) := by
  have ⟨_, low, mid, _⟩ := policy.valid.levelsIncreasing
  unfold riskLevel
  split_ifs <;> first | decide | omega

theorem recommendation_monotone {score higher : Int} {blocked moreBlocked : Bool}
    (least : score ≤ higher) (kept : blocked = true → moreBlocked = true) :
    severity (recommendation policy score blocked) ≤
      severity (recommendation policy higher moreBlocked) := by
  unfold recommendation
  by_cases forced : blocked = true ∨ policy.blockThreshold ≤ score
  · have still : moreBlocked = true ∨ policy.blockThreshold ≤ higher :=
      forced.imp kept (fun reached => reached.trans least)
    rw [if_pos forced, if_pos still]
  · rw [if_neg forced]
    split_ifs <;> first | decide | omega

theorem human_approvals_monotone {level higher : RiskLevel} {names more : List String}
    (least : levelRank level ≤ levelRank higher)
    (kept : ∀ name ∈ escalating, name ∈ names → name ∈ more) :
    humanApprovals policy level names ≤ humanApprovals policy higher more := by
  have base : baseHumanApprovals level ≤ baseHumanApprovals higher := by
    revert least
    cases level <;> cases higher <;> decide
  have tenant := kept "cross_tenant_effect" (by decide)
  have final := kept "irreversible_and_not_compensatable" (by decide)
  unfold humanApprovals
  apply min_le_min_right
  split_ifs <;> first | omega | exact absurd (tenant ‹_›) ‹_› | exact absurd (final ‹_›) ‹_›

theorem no_lower {better worse : AssessmentInput} {first second : EffectAssessment} {loss : Int}
    (grades : Grades context policy better first) (gradesToo : Grades context policy worse second)
    (least : cappedScore context policy better ≤ cappedScore context policy worse)
    (milder : Milder loss (inputMarks context policy better) (inputMarks context policy worse)) :
    NoLower first second := by
  have score : first.score ≤ second.score := by
    rw [grades.score, gradesToo.score]
    exact least
  have level : levelRank first.riskLevel ≤ levelRank second.riskLevel := by
    rw [grades.level, gradesToo.level]
    exact risk_level_monotone score
  refine ⟨score, level, ?_, ?_⟩
  · rw [grades.human, gradesToo.human]
    exact human_approvals_monotone level milder.names
  · rw [grades.advice, gradesToo.advice]
    apply recommendation_monotone score
    rw [Bool.not_eq_true', Bool.not_eq_true', ← Bool.not_eq_true, ← Bool.not_eq_true,
      List.isEmpty_iff, List.isEmpty_iff]
    exact mt milder.blocks

/-- A worse fact never lowers an assessment, but where the delegation passes the ceiling of the
policy and the other scorers leave the score below a hundred. -/
theorem risk_monotone_iff (ordered : QuotientsOrdered floats) {better worse : AssessmentInput}
    {first second : EffectAssessment} (manifest : worse.manifest = better.manifest)
    (worsens : Worsens better.facts worse.facts)
    (assessed : assess context policy better = .ok first)
    (assessedToo : assess context policy worse = .ok second) :
    NoLower first second ↔
      ¬ (PassesCeiling policy better.facts worse.facts ∧
        Mark.total (otherMarks context.search better.manifest policy better.facts) < 100) := by
  have grades := assess_grades assessed
  have gradesToo := assess_grades assessedToo
  by_cases passes : PassesCeiling policy better.facts worse.facts
  · obtain ⟨others, milder⟩ := @passing_keeps_others _ context.search better.manifest _ _ _
      worsens passes
    obtain ⟨levelled, dropped, _⟩ := passing_milder passes
    have scored : cappedScore context policy better = min
        (Mark.total (otherMarks context.search better.manifest policy better.facts) + 20) 100 := by
      rw [cappedScore, inputMarks, total_splits, levelled]
    have scoredToo : cappedScore context policy worse = min
        (Mark.total (otherMarks context.search better.manifest policy better.facts)) 100 := by
      rw [cappedScore, inputMarks, total_splits, dropped, manifest, others, add_zero]
    constructor
    · intro kept both
      have below := both.2
      have score := kept.score
      rw [grades.score, gradesToo.score, scored, scoredToo] at score
      omega
    · intro full
      have reached : 100 ≤
          Mark.total (otherMarks context.search better.manifest policy better.facts) := by
        by_contra below
        exact full ⟨passes, by omega⟩
      have marksToo : Milder 20 (inputMarks context policy better)
          (inputMarks context policy worse) := by
        rw [inputMarks, inputMarks, manifest]
        exact milder
      apply no_lower grades gradesToo _ marksToo
      rw [scored, scoredToo]
      omega
  · apply iff_of_true _ (fun both => passes both.1)
    have milder : Milder 0 (inputMarks context policy better)
        (inputMarks context policy worse) := by
      rw [inputMarks, inputMarks, manifest]
      exact worse_milder ordered worsens passes
    apply no_lower grades gradesToo _ milder
    have total := milder.total
    unfold cappedScore
    omega

end Grading

/-! ### A deeper delegation and an unusual change -/

theorem tenths_ordered : QuotientsOrdered tenths where
  exceeding := by
    intro part more whole limit nonnegative fewer within positive exceeds
    have quotients : (10 * part / whole).toNat ≤ (10 * more / whole).toNat :=
      Int.toNat_le_toNat (Int.ediv_le_ediv positive (by omega))
    have ten : 10 * more / whole ≤ 10 :=
      (Int.ediv_le_ediv positive (show 10 * more ≤ 10 * whole by omega)).trans
        (Int.mul_ediv_cancel 10 positive.ne').le
    have values : ∀ numerator : Int, (10 * numerator / whole).toNat ≤ 10 →
        (tenths.ratio numerator whole).val = (10 * numerator / whole).toNat :=
      fun numerator small => Nat.mod_eq_of_lt (by omega)
    have less : limit.val < (tenths.ratio part whole).val :=
      Fin.lt_def.mp (of_decide_eq_true exceeds)
    rw [values part (by omega)] at less
    apply decide_eq_true
    apply Fin.lt_def.mpr
    rw [values more (by omega)]
    omega

namespace Assessing

def unusualFacts : AssessmentFacts := { factsAt 0 with unusualParameterChange := true }

theorem quiet_assessed (facts : AssessmentFacts) (shallow : facts.delegationDepth ≤ 9)
    (novel : facts.historicalRecurrenceCount = 0) (none : facts.policyViolations = []) :
    ∃ assessment, assess context defaultPolicy (inputOf facts) = .ok assessment := by
  have presentable : Presentable context defaultPolicy (inputOf facts) :=
    transfer_presentable shallow novel (by rw [none]; exact List.forall_mem_nil _)
  exact assess_returns_iff.mpr ⟨(presentable_iff.mp presentable).1,
    (drawn_reportable (transfer_drawn facts)).mpr (presentable_iff.mp presentable).2⟩

theorem below_ceiling : ¬ PassesCeiling defaultPolicy (factsAt 0) unusualFacts := by
  intro passes
  have level : ((0 : Nat) : Int) = 8 := passes.1
  exact absurd level (by decide)

end Assessing

/-- An unusual change lowers nothing. -/
theorem unusual_change_is_no_lower :
    ∃ first second,
      assess Assessing.context defaultPolicy (Assessing.inputOf (Assessing.factsAt 0)) = .ok first ∧
        assess Assessing.context defaultPolicy (Assessing.inputOf Assessing.unusualFacts) =
          .ok second ∧ NoLower first second := by
  obtain ⟨first, assessed⟩ := Assessing.quiet_assessed (Assessing.factsAt 0) (by decide) rfl rfl
  obtain ⟨second, assessedToo⟩ := Assessing.quiet_assessed Assessing.unusualFacts (by decide) rfl rfl
  refine ⟨first, second, assessed, assessedToo, ?_⟩
  have same : (Assessing.inputOf Assessing.unusualFacts).manifest =
      (Assessing.inputOf (Assessing.factsAt 0)).manifest := rfl
  have worsens : Worsens (Assessing.inputOf (Assessing.factsAt 0)).facts
      (Assessing.inputOf Assessing.unusualFacts).facts := .changesParameters rfl
  have condition := risk_monotone_iff tenths_ordered same worsens assessed assessedToo
  exact condition.mpr (fun lowers => Assessing.below_ceiling lowers.1)

/-- From a depth of eight to one of nine the default policy takes the score from 75 to 55, from
critical to high and from three approvals to two. -/
theorem passing_the_ceiling_lowers :
    Worsens (Assessing.factsAt 8) (Assessing.factsAt 9) ∧ ∃ first second,
      assess Assessing.context defaultPolicy (Assessing.inputOf (Assessing.factsAt 8)) = .ok first ∧
        assess Assessing.context defaultPolicy (Assessing.inputOf (Assessing.factsAt 9)) =
          .ok second ∧
        (first.score = 75 ∧ second.score = 55) ∧
          (first.riskLevel = .critical ∧ second.riskLevel = .high) ∧
            (first.requiredHumanApprovals = 3 ∧ second.requiredHumanApprovals = 2) := by
  obtain ⟨first, assessed⟩ := Assessing.quiet_assessed (Assessing.factsAt 8) (by decide) rfl rfl
  obtain ⟨second, assessedToo⟩ := Assessing.quiet_assessed (Assessing.factsAt 9) (by decide) rfl rfl
  have grades := assess_grades assessed
  have gradesToo := assess_grades assessedToo
  have score : first.score = 75 := grades.score.trans (by decide +kernel)
  have scoreToo : second.score = 55 := gradesToo.score.trans (by decide +kernel)
  have level : first.riskLevel = .critical := by
    rw [grades.level, score]
    rfl
  have levelToo : second.riskLevel = .high := by
    rw [gradesToo.level, scoreToo]
    rfl
  have human : first.requiredHumanApprovals = 3 := by
    rw [grades.human, level]
    decide +kernel
  have humanToo : second.requiredHumanApprovals = 2 := by
    rw [gradesToo.human, levelToo]
    decide +kernel
  exact ⟨.deeper 9 (by decide), first, second, assessed, assessedToo, ⟨score, scoreToo⟩,
    ⟨level, levelToo⟩, human, humanToo⟩

end KarmaSakshi.Guarantees
