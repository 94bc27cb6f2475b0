import KarmaSakshi.Guarantees.Passports

/-!
What a verified outcome in a passport rests on.

The status is read off the flat record of a run, in order of precedence.  A verified
match always has its observation behind it; a verified compensation may have nothing but
the adapter's own report.
-/

namespace KarmaSakshi.Guarantees

open KarmaSakshi.Domain KarmaSakshi.Engine KarmaSakshi.Evidence

set_option autoImplicit false

section Statement

/-- The grant or the lifecycle is revoked, which outranks every other fact. -/
def RunRevoked (run : PassportRun) : Prop :=
  run.wasRevoked = true ∨ pyLower run.lifecycleState = "revoked"

/-- The adapter reports its own compensation as attempted and succeeded. -/
def ReportsCompensated (run : PassportRun) : Prop :=
  ∃ result ∈ run.compensationResult, result.attempted = true ∧ result.succeeded = true

/-- An independent observation matched what was expected. -/
def Observed (proof : Option OutcomeProof) : Prop :=
  ∃ observation ∈ proof, observation.matchedExpected = true

/-- `facts` are the facts behind the compensation of the run. -/
structure OutcomeHonest (run : PassportRun) (facts : CompensationPassportRun)
    (passport : ActionPassportV2) : Prop where
  matched : passport.outcomeStatus = .verifiedMatch → Observed run.outcomeProof
  compensated : passport.outcomeStatus = .compensationVerified → Observed facts.outcomeProof
  derived : passport.outcomeStatus = .compensationVerified →
    facts.deriveCompensationStatus = .verified

/-- The compensation was observed, and its adapter does not say that it made no attempt. -/
def CompensationBacked (facts : CompensationPassportRun) : Prop :=
  Observed facts.outcomeProof ∧ ∀ result ∈ facts.adapterResult, result.attempted = true

end Statement

section Proof

variable {primitives : PassportPrimitives}

/-- A compensation is verified by its observation only. -/
theorem compensation_verified_iff (facts : CompensationPassportRun) :
    facts.deriveCompensationStatus = .verified ↔ CompensationBacked facts := by
  have observed : facts.outcomeProof.any OutcomeProof.matchedExpected = true ↔
      Observed facts.outcomeProof := by
    rw [Option.any_eq_true]
    rfl
  have attempted : ¬ (facts.adapterResult.isSome = true ∧ ¬ facts.adapterAttempted = true) ↔
      ∀ result ∈ facts.adapterResult, result.attempted = true := by
    unfold CompensationPassportRun.adapterAttempted
    cases facts.adapterResult with
    | none => simp
    | some result => simp
  unfold CompensationPassportRun.deriveCompensationStatus CompensationBacked
  rw [← observed, ← attempted]
  by_cases refused : facts.adapterResult.isSome = true ∧ ¬ facts.adapterAttempted = true
  · rw [if_pos refused]
    exact iff_of_false (by decide) (fun backed => backed.2 refused)
  · rw [if_neg refused]
    by_cases matched : facts.outcomeProof.any OutcomeProof.matchedExpected = true
    · rw [if_pos matched]
      exact iff_of_true rfl ⟨matched, refused⟩
    · rw [if_neg matched]
      refine iff_of_false ?_ (fun backed => matched backed.1)
      split
      · decide
      · split <;> decide

theorem derive_compensation_verified_iff (passport : ActionPassport) :
    deriveOutcomeStatus passport = .compensationVerified ↔
      ¬ (passport.wasRevoked = true ∨ pyLower passport.lifecycleState = "revoked") ∧
        (passport.compensationPassportStatus = some "verified" ∨
          passport.compensationSucceeded = some true ∧
            passport.compensationAttempted = some true) := by
  unfold deriveOutcomeStatus
  simp only
  split
  · rename_i revoked
    exact iff_of_false (by decide) (fun held => held.1 revoked)
  · rename_i unrevoked
    split
    · rename_i compensated
      exact iff_of_true rfl ⟨unrevoked, compensated⟩
    · rename_i uncompensated
      refine iff_of_false ?_ (fun held => uncompensated held.2)
      repeat' split
      all_goals decide

theorem derive_match_is_observed {passport : ActionPassport}
    (matched : deriveOutcomeStatus passport = .verifiedMatch) :
    passport.observedMatchedExpected = some true := by
  unfold deriveOutcomeStatus at matched
  simp only at matched
  by_contra unobserved
  simp only [unobserved, if_false] at matched
  repeat' split at matched
  all_goals cases matched

/-- The facts of a built passport that its status depends on. -/
theorem built_facts {run : PassportRun} {passport : ActionPassport}
    (built : buildPassport primitives run = .ok passport) :
    passport.wasRevoked = run.wasRevoked ∧ passport.lifecycleState = run.lifecycleState ∧
      passport.compensationPassportStatus = run.compensationPassportStatus ∧
      passport.compensationAttempted = run.compensationResult.map CompensationResult.attempted ∧
      passport.compensationSucceeded = run.compensationResult.map CompensationResult.succeeded ∧
      passport.observedMatchedExpected = run.outcomeProof.map OutcomeProof.matchedExpected := by
  obtain ⟨_, _, grantStage⟩ := except_bind_ok built
  obtain ⟨_, _, auditStage⟩ := except_bind_ok grantStage
  obtain ⟨_, _, causalStage⟩ := except_bind_ok auditStage
  obtain ⟨_, _, final⟩ := except_bind_ok causalStage
  obtain rfl := Except.ok.inj final
  exact ⟨rfl, rfl, rfl, rfl, rfl, rfl⟩

/-- The status is that of the passport's first version. -/
theorem built_v2_status {run : PassportRun} {tenantId : Option String}
    {passport : ActionPassportV2} (built : buildPassportV2 primitives run tenantId = .ok passport) :
    ∃ first, buildPassport primitives run = .ok first ∧
      passport.outcomeStatus = deriveOutcomeStatus first := by
  obtain ⟨first, firstBuilt, upgraded⟩ := except_bind_ok built
  obtain rfl := Except.ok.inj upgraded
  exact ⟨first, firstBuilt, rfl⟩

theorem reports_compensated_iff (run : PassportRun) :
    (run.compensationResult.map CompensationResult.succeeded = some true ∧
        run.compensationResult.map CompensationResult.attempted = some true) ↔
      ReportsCompensated run := by
  unfold ReportsCompensated
  cases run.compensationResult with
  | none => simp
  | some result => simp [and_comm]

theorem observed_iff (proof : Option OutcomeProof) :
    proof.map OutcomeProof.matchedExpected = some true ↔ Observed proof := by
  unfold Observed
  cases proof with
  | none => simp
  | some observation => simp

/-- When a run is shown as a verified compensation. -/
theorem compensation_shown_iff {run : PassportRun} {tenantId : Option String}
    {passport : ActionPassportV2} (built : buildPassportV2 primitives run tenantId = .ok passport) :
    passport.outcomeStatus = .compensationVerified ↔
      ¬ RunRevoked run ∧
        (run.compensationPassportStatus = some "verified" ∨ ReportsCompensated run) := by
  obtain ⟨first, firstBuilt, status⟩ := built_v2_status built
  obtain ⟨revoked, state, stated, attempted, succeeded, _⟩ := built_facts firstBuilt
  rw [status, derive_compensation_verified_iff, revoked, state, stated, attempted, succeeded,
    reports_compensated_iff]
  rfl

theorem match_shown_is_observed {run : PassportRun} {tenantId : Option String}
    {passport : ActionPassportV2} (built : buildPassportV2 primitives run tenantId = .ok passport)
    (shown : passport.outcomeStatus = .verifiedMatch) : Observed run.outcomeProof := by
  obtain ⟨first, firstBuilt, status⟩ := built_v2_status built
  have observed := derive_match_is_observed (status ▸ shown)
  rw [(built_facts firstBuilt).2.2.2.2.2] at observed
  exact (observed_iff _).mp observed

/-- A passport is honest about its outcome exactly when a compensation that it would show
as verified is backed by an observation. -/
theorem outcome_honest_iff {run : PassportRun} {tenantId : Option String}
    {passport : ActionPassportV2} {facts : CompensationPassportRun}
    (built : buildPassportV2 primitives run tenantId = .ok passport)
    (same : facts.adapterResult = run.compensationResult) :
    OutcomeHonest run facts passport ↔
      (RunRevoked run ∨
        (run.compensationPassportStatus = some "verified" → CompensationBacked facts) ∧
        (ReportsCompensated run → Observed facts.outcomeProof)) := by
  have reported : ReportsCompensated run → ∀ result ∈ facts.adapterResult,
      result.attempted = true := by
    rintro ⟨result, present, attempted, _⟩ other member
    rw [same, present] at member
    rw [← Option.some.inj member]
    exact attempted
  constructor
  · intro honest
    by_cases revoked : RunRevoked run
    · exact Or.inl revoked
    · refine Or.inr ⟨fun stated => ?_, fun reports => ?_⟩
      · have shown := (compensation_shown_iff built).mpr ⟨revoked, Or.inl stated⟩
        exact (compensation_verified_iff facts).mp (honest.derived shown)
      · exact honest.compensated ((compensation_shown_iff built).mpr ⟨revoked, Or.inr reports⟩)
  · intro condition
    have backed : passport.outcomeStatus = .compensationVerified → CompensationBacked facts := by
      intro shown
      obtain ⟨unrevoked, stated | reports⟩ := (compensation_shown_iff built).mp shown
      · exact (condition.resolve_left unrevoked).1 stated
      · exact ⟨(condition.resolve_left unrevoked).2 reports, reported reports⟩
    exact ⟨match_shown_is_observed built, fun shown => (backed shown).1,
      fun shown => (compensation_verified_iff facts).mpr (backed shown)⟩

end Proof

/-! ### A compensation that only its adapter reports -/

namespace ReportedCompensation

/-- The adapter says that it has paid the transfer back. -/
def report : CompensationResult where
  attempted := true
  succeeded := true
  reason := none
  detail := some "refund submitted"

def run : PassportRun :=
  { ForgedSeal.runOf Payment.sealedTransfer with compensationResult := some report }

/-- The compensation's own facts: the report, and an observation if there is one. -/
def facts (outcomeProof : Option OutcomeProof) : CompensationPassportRun where
  compensationSealed := Payment.sealedOtherTransfer
  originalSealed := Payment.sealedTransfer
  keyring := Payment.context.keyring
  audit := []
  grant := none
  commitResult := none
  outcomeProof
  adapterResult := some report
  now := Payment.noon

end ReportedCompensation

/-- Nothing has been observed, and the passport shows a verified compensation. -/
theorem reported_compensation_is_shown_verified : ∃ passport,
    buildPassportV2 ForgedSeal.primitives ReportedCompensation.run none = .ok passport ∧
      passport.outcomeStatus = .compensationVerified ∧
      (ReportedCompensation.facts none).deriveCompensationStatus = .attempted ∧
      ¬ OutcomeHonest ReportedCompensation.run (ReportedCompensation.facts none) passport := by
  refine ⟨_, rfl, rfl, rfl, ?_⟩
  intro honest
  cases honest.derived rfl

/-- With an observation behind it the same passport is honest. -/
theorem observed_compensation_is_honest : ∃ passport,
    buildPassportV2 ForgedSeal.primitives ReportedCompensation.run none = .ok passport ∧
      OutcomeHonest ReportedCompensation.run
        (ReportedCompensation.facts (some ⟨true, Payment.noon, none, none⟩)) passport := by
  have built : buildPassportV2 ForgedSeal.primitives ReportedCompensation.run none = .ok _ := rfl
  refine ⟨_, built, (outcome_honest_iff built rfl).mpr (Or.inr ⟨?_, fun _ => ?_⟩)⟩
  · intro stated
    cases stated
  · exact ⟨_, rfl, rfl⟩

end KarmaSakshi.Guarantees
