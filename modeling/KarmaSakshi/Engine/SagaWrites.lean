import KarmaSakshi.Domain.SagaShape
import KarmaSakshi.Engine.Saga

/-!
What each saga operation can do to the stored runs.

An operation reads one run and assigns at most one run, the result of one pure
transition.  For the two operations that wrap an engine call, the wrapped call's
postcondition is handed on.
-/

namespace KarmaSakshi.Engine

open EffectProgram KarmaSakshi.Domain KarmaSakshi.Stores

set_option autoImplicit false

variable {Host : Type} [DecidableEq Host] {environment : Environment} {host : Host}
  {handler : Handler SagaOp SagaReply PyError (SagaWorld Host)} {saga after : SagaWorld Host}

/-! ### Rules for the saga signature -/

section Rules

variable {Value : Type}

/-- An engine call answered by a saga handler is a run of the engine. -/
theorem within_yields {action : Action Value} {outcome : Except PyError Value}
    (yields : (within action).Yields (environment.sagaAnswers host) saga outcome after) :
    action.Yields (environment.answers host) saga.world outcome after.world ∧
      after.assignments = saga.assignments := by
  apply yields_translate _ yields
  intro world op reply between told
  exact told

theorem ensures_within (refines : handler.Within (environment.sagaAnswers host))
    {action : Action Value} {post : Except PyError Value → SagaWorld Host → Prop}
    (ends : ∀ outcome between, between.assignments = saga.assignments →
      (within action).Yields handler saga outcome between → post outcome between) :
    Ensures handler (within action) saga post := by
  intro outcome between yields
  exact ends outcome between (within_yields (yields.widen refines)).2 yields

/-- The run is looked up first. -/
theorem ensures_with_saga (refines : handler.Within (environment.sagaAnswers host))
    {runId : String} {next : SagaRun → SagaAction Value}
    {post : Except PyError Value → SagaWorld Host → Prop}
    (found : ∀ run, saga.lookup runId = some run → Ensures handler (next run) saga post)
    (missing : ∀ error, post (.error error) saga) :
    Ensures handler (getSaga runId >>= next) saga post := by
  have read : Ensures handler (Program.perform (SagaOp.readRun runId)) saga
      (fun reply between => reply = .ok (saga.lookup runId) ∧ between = saga) :=
    ensures_perform.mpr (fun reply between told => refines _ _ _ _ told)
  have asked : Ensures handler (getSaga runId) saga (fun reply between => between = saga ∧
      ∀ run, reply = .ok run → saga.lookup runId = some run) := by
    refine read.bind ?_ ?_
    · rintro value between ⟨told, rfl⟩
      cases Except.ok.inj told
      cases current : between.lookup runId with
      | none => exact ensures_raised.mpr ⟨rfl, fun run impossible => by cases impossible⟩
      | some run => exact ensures_pure.mpr ⟨rfl, fun other same => by rw [Except.ok.inj same]⟩
    · rintro fault between ⟨impossible, _⟩
      cases impossible
  refine asked.bind ?_ ?_
  · rintro run _ ⟨rfl, current⟩
    exact found run (current run rfl)
  · rintro error _ ⟨rfl, _⟩
    exact missing error

/-- An assignment is followed by one audit event, which may fail. -/
theorem ensures_stored (refines : handler.Within (environment.sagaAnswers host))
    {runId : String} {run : SagaRun} {record : AuditRecord}
    {rest : SagaAction Value} {post : Except PyError Value → SagaWorld Host → Prop}
    (ends : ∀ between : SagaWorld Host, between.assignments = saga.assignments ++ [(runId, run)] →
      between.world.effects = saga.world.effects →
        Ensures handler rest between post ∧ ∀ error, post (.error error) between) :
    Ensures handler (do
      storeSaga runId run
      tell (.audit record)
      rest) saga post := by
  have assigned : Ensures handler (storeSaga runId run) saga
      (fun reply between => reply = .ok () ∧ between = saga.assign runId run) :=
    ensures_perform.mpr (fun reply between told => refines _ _ _ _ told)
  refine assigned.bind ?_ ?_
  · rintro _ _ ⟨_, rfl⟩
    have audited : Ensures handler (tell (.audit record)) (saga.assign runId run)
        (fun _ between => between.assignments = saga.assignments ++ [(runId, run)] ∧
          between.world.effects = saga.world.effects) := by
      intro reply between yields
      obtain ⟨told, same⟩ := within_yields (yields.widen refines)
      refine ⟨same, ?_⟩
      rcases yields_perform.mp told with ⟨error, _, _, kept⟩ | ⟨_, kept⟩
      · rw [kept]
        rfl
      · rw [kept]
        rfl
    refine audited.bind ?_ ?_
    · rintro _ between ⟨stored, effects⟩
      exact (ends between stored effects).1
    · rintro error between ⟨stored, effects⟩
      exact (ends between stored effects).2 error
  · rintro _ _ ⟨impossible, _⟩
    cases impossible

end Rules

/-! ### One operation -/

variable {context : EngineContext} {readers : SagaReaders}

/-- What a commit step can do, given what its commit ensures. -/
inductive CommitWrites (step : CommitStep) (saga : SagaWorld Host)
    (ends : Except PyError CommitResult → SagaWorld Host → Prop) (after : SagaWorld Host) : Prop where
  | untouched (same : after.assignments = saga.assignments)
      (effects : after.world.effects = saga.world.effects)
  | denied {run : SagaRun} {index : Nat} (current : saga.lookup step.runId = some run)
      (checked : run.assertCanCommitStep step.manifestHash = .ok index)
      (same : after.assignments = saga.assignments)
  | reported {run next : SagaRun} {detail : Option String}
      (current : saga.lookup step.runId = some run)
      (marked : run.markStepAmbiguous step.manifestHash detail = .ok next)
      (stored : after.assignments = saga.assignments ++ [(step.runId, next)])
      (effects : after.world.effects = saga.world.effects)
  | committed {run next : SagaRun} {reference detail : Option String}
      (current : saga.lookup step.runId = some run)
      (marked : run.markStepCommitted step.manifestHash true reference detail = .ok next)
      (stored : after.assignments = saga.assignments ++ [(step.runId, next)])
  | failed {run next : SagaRun} {index : Nat} {detail : Option String}
      {outcome : Except PyError CommitResult} {between : SagaWorld Host}
      (current : saga.lookup step.runId = some run)
      (checked : run.assertCanCommitStep step.manifestHash = .ok index)
      (marked : run.markStepFailed step.manifestHash detail = .ok next)
      (stored : after.assignments = saga.assignments ++ [(step.runId, next)])
      (ended : ends outcome between) (fails : commitFails outcome)
      (effects : after.world.effects = between.world.effects)

theorem report_writes (refines : handler.Within (environment.sagaAnswers host))
    {step : CommitStep} {ends : Except PyError CommitResult → SagaWorld Host → Prop}
    {run : SagaRun} (current : saga.lookup step.runId = some run) :
    Ensures handler (step.reportAmbiguous run) saga
      (fun _ after => CommitWrites step saga ends after) := by
  unfold CommitStep.reportAmbiguous
  cases marked : run.markStepAmbiguous step.manifestHash (some "caller reported ambiguous") with
  | error error => exact ensures_raised.mpr (.untouched rfl rfl)
  | ok next =>
      refine ensures_stored refines ?_
      intro between stored effects
      have reported : CommitWrites step saga ends between :=
        .reported current marked stored effects
      exact ⟨ensures_raised.mpr reported, fun _ => reported⟩

theorem execute_writes (refines : handler.Within (environment.sagaAnswers host))
    {step : CommitStep} {ends : Except PyError CommitResult → SagaWorld Host → Prop}
    {run : SagaRun} {index : Nat} (current : saga.lookup step.runId = some run)
    (checked : run.assertCanCommitStep step.manifestHash = .ok index)
    (commits : Ensures handler (within (commit context step.call)) saga ends) :
    Ensures handler (step.execute context run) saga
      (fun _ after => CommitWrites step saga ends after) := by
  apply Ensures.attempt
  refine ensures_within refines ?_
  intro outcome between same yields
  have ended := commits outcome between yields
  have denied : ∀ later : SagaWorld Host, later.assignments = between.assignments →
      CommitWrites step saga ends later :=
    fun later kept => .denied current checked (kept.trans same)
  cases outcome with
  | error error =>
      show Ensures handler (step.settleRaised run error) between _
      unfold CommitStep.settleRaised
      by_cases fails : failsStep error = true
      · rw [if_pos fails]
        cases marked : run.markStepFailed step.manifestHash (some error.message) with
        | error refused => exact ensures_raised.mpr (denied _ rfl)
        | ok next =>
            refine ensures_stored refines ?_
            intro later stored effects
            rw [same] at stored
            have failed : CommitWrites step saga ends later :=
              .failed current checked marked stored ended fails effects
            exact ⟨ensures_raised.mpr failed, fun _ => failed⟩
      · rw [if_neg fails]
        exact ensures_raised.mpr (denied _ rfl)
  | ok result =>
      show Ensures handler (step.settleReturned run result) between _
      unfold CommitStep.settleReturned
      cases marked : step.afterCommit run result with
      | error refused => exact ensures_raised.mpr (denied _ rfl)
      | ok next =>
          refine ensures_stored refines ?_
          intro later stored effects
          rw [same] at stored
          have written : CommitWrites step saga ends later := by
            unfold CommitStep.afterCommit at marked
            cases success : result.success with
            | true =>
                rw [if_pos success] at marked
                exact .committed current marked stored
            | false =>
                rw [if_neg (by rw [success]; exact Bool.false_ne_true)] at marked
                exact .failed current checked marked stored ended success effects
          exact ⟨ensures_pure.mpr written, fun _ => written⟩

theorem commit_step_writes (refines : handler.Within (environment.sagaAnswers host))
    {step : CommitStep} {ends : Except PyError CommitResult → SagaWorld Host → Prop}
    (commits : Ensures handler (within (commit context step.call)) saga ends) :
    Ensures handler (commitSagaStep context step) saga
      (fun _ after => CommitWrites step saga ends after) := by
  have untouched : CommitWrites step saga ends saga := .untouched rfl rfl
  refine ensures_with_saga refines ?_ (fun _ => untouched)
  intro run current
  by_cases mismatch : step.causalGraph.canonicalHash context.crypto ≠ run.plan.causalGraphHash
  · rw [if_pos mismatch]
    exact ensures_raised.mpr untouched
  · rw [if_neg mismatch]
    refine ensures_settle_bind ?_ (fun _ _ => untouched)
    intro index checked
    by_cases foreign : step.manifestHash ∉ run.plan.stepManifestHashes
    · rw [if_pos foreign]
      exact ensures_raised.mpr untouched
    · rw [if_neg foreign]
      cases ambiguous : step.ambiguous with
      | true =>
          rw [if_pos rfl]
          exact report_writes refines current
      | false =>
          rw [if_neg Bool.false_ne_true]
          exact execute_writes refines current checked commits

/-- What a recovery step can do, given what its probe ensures. -/
inductive RecoverWrites (step : RecoverStep) (saga : SagaWorld Host)
    (ends : Except PyError OutcomeProof → SagaWorld Host → Prop) (after : SagaWorld Host) : Prop where
  | untouched (same : after.assignments = saga.assignments)
  | recovered {run next : SagaRun} {index : Nat} {reference detail : Option String}
      (current : saga.lookup step.runId = some run)
      (checked : run.assertCanRecoverStep step.manifestHash = .ok index)
      (marked : (run.retried step.manifestHash).markStepCommitted step.manifestHash true reference
        detail = .ok next)
      (stored : after.assignments = saga.assignments ++ [(step.runId, next)])
  | failed {run next : SagaRun} {index : Nat} {detail : Option String} {proof : OutcomeProof}
      {between : SagaWorld Host} (current : saga.lookup step.runId = some run)
      (checked : run.assertCanRecoverStep step.manifestHash = .ok index)
      (marked : run.markStepFailed step.manifestHash detail = .ok next)
      (stored : after.assignments = saga.assignments ++ [(step.runId, next)])
      (ended : ends (.ok proof) between) (unmatched : proof.matchedExpected = false)

theorem recover_step_writes (refines : handler.Within (environment.sagaAnswers host))
    {step : RecoverStep} {ends : Except PyError OutcomeProof → SagaWorld Host → Prop}
    (probes : Ensures handler
      (within (recoverAmbiguousCommit context ⟨step.sealed.manifest, step.adapter⟩)) saga ends) :
    Ensures handler (recoverSagaStep context step) saga
      (fun _ after => RecoverWrites step saga ends after) := by
  have untouched : ∀ later : SagaWorld Host, later.assignments = saga.assignments →
      RecoverWrites step saga ends later := fun _ same => .untouched same
  refine ensures_with_saga refines ?_ (fun _ => untouched saga rfl)
  intro run current
  refine ensures_settle_bind ?_ (fun _ _ => untouched saga rfl)
  intro index checked
  have probed : Ensures handler
      (within (recoverAmbiguousCommit context ⟨step.sealed.manifest, step.adapter⟩)) saga
      (fun outcome between => ends outcome between ∧ between.assignments = saga.assignments) :=
    ensures_within refines (fun outcome between same yields =>
      ⟨probes outcome between yields, same⟩)
  refine probed.bind ?_ (fun _ later kept => untouched later kept.2)
  rintro proof between ⟨ended, same⟩
  refine ensures_settle_bind ?_ (fun _ _ => untouched between same)
  intro next marked
  refine ensures_stored refines ?_
  intro later stored _
  rw [same] at stored
  have written : RecoverWrites step saga ends later := by
    unfold RecoverStep.afterProbe at marked
    cases matched : proof.matchedExpected with
    | true =>
        rw [if_pos matched] at marked
        exact .recovered current checked marked stored
    | false =>
        rw [if_neg (by rw [matched]; exact Bool.false_ne_true)] at marked
        exact .failed current checked marked stored ended matched
  exact ⟨ensures_pure.mpr written, fun _ => written⟩

/-- What the other operations can do: none of them fails a step. -/
inductive RunWrites (runId : String) (saga : SagaWorld Host) (after : SagaWorld Host) : Prop where
  | untouched (same : after.assignments = saga.assignments)
  | advanced {run next : SagaRun} {manifestHash : String}
      (current : saga.lookup runId = some run)
      (advances : Advances run manifestHash next false)
      (stored : after.assignments = saga.assignments ++ [(runId, next)])

theorem authorize_step_writes (refines : handler.Within (environment.sagaAnswers host))
    {step : AuthorizeStep} :
    Ensures handler (authorizeSagaStep context readers.payload step) saga
      (fun _ after => RunWrites step.runId saga after) := by
  have untouched : ∀ later : SagaWorld Host, later.assignments = saga.assignments →
      RunWrites step.runId saga later := fun _ same => .untouched same
  refine ensures_with_saga refines ?_ (fun _ => untouched saga rfl)
  intro run current
  by_cases mismatch : step.graph.canonicalHash context.crypto ≠ run.plan.causalGraphHash
  · rw [if_pos mismatch]
    exact ensures_raised.mpr (untouched saga rfl)
  · rw [if_neg mismatch]
    have granted : Ensures handler
        (within (authorizePlan context readers.payload step.planned step.graph)) saga
        (fun _ between => between.assignments = saga.assignments) :=
      ensures_within refines (fun _ _ same _ => same)
    refine granted.bind ?_ (fun _ later same => untouched later same)
    intro grant between same
    refine ensures_settle_bind ?_ (fun _ _ => untouched between same)
    intro next marked
    refine ensures_stored refines ?_
    intro later stored _
    rw [same] at stored
    have written : RunWrites step.runId saga later :=
      .advanced current (.authorized grant.grantId marked) stored
    exact ⟨ensures_pure.mpr written, fun _ => written⟩

theorem verify_step_writes (refines : handler.Within (environment.sagaAnswers host))
    {step : VerifyStep} :
    Ensures handler (verifySagaStep context step) saga
      (fun _ after => RunWrites step.runId saga after) := by
  have untouched : ∀ later : SagaWorld Host, later.assignments = saga.assignments →
      RunWrites step.runId saga later := fun _ same => .untouched same
  refine ensures_with_saga refines ?_ (fun _ => untouched saga rfl)
  intro run current
  have observed : Ensures handler (within (verify context step.call)) saga
      (fun _ between => between.assignments = saga.assignments) :=
    ensures_within refines (fun _ _ same _ => same)
  refine observed.bind ?_ (fun _ later same => untouched later same)
  intro proof between same
  cases matched : proof.matchedExpected with
  | false =>
      rw [if_neg Bool.false_ne_true]
      exact ensures_pure.mpr (untouched between same)
  | true =>
      rw [if_pos rfl]
      refine ensures_settle_bind ?_ (fun _ _ => untouched between same)
      intro next marked
      refine ensures_stored refines ?_
      intro later stored _
      rw [same] at stored
      have written : RunWrites step.runId saga later :=
        .advanced current (.verified marked) stored
      exact ⟨ensures_pure.mpr written, fun _ => written⟩

theorem record_writes (refines : handler.Within (environment.sagaAnswers host))
    {asked : RecordCompensation} :
    Ensures handler (recordSagaCompensation asked) saga
      (fun _ after => RunWrites asked.runId saga after) := by
  have untouched : RunWrites asked.runId saga saga := .untouched rfl
  refine ensures_with_saga refines ?_ (fun _ => untouched)
  intro run current
  by_cases unexpected : run.nextCompensationManifestHash ≠ some asked.originalManifestHash
  · rw [if_pos unexpected]
    exact ensures_raised.mpr untouched
  · rw [if_neg unexpected]
    refine ensures_settle_bind ?_ (fun _ _ => untouched)
    intro next marked
    refine ensures_stored refines ?_
    intro later stored _
    have written : RunWrites asked.runId saga later :=
      .advanced current (.compensated asked.status asked.detail marked) stored
    exact ⟨ensures_pure.mpr written, fun _ => written⟩

/-- Beginning a saga assigns a fresh run or nothing. -/
theorem begin_writes (refines : handler.Within (environment.sagaAnswers host))
    {asked : BeginSaga} :
    Ensures handler (beginSaga context readers.planDigest asked) saga (fun _ after =>
      after.assignments = saga.assignments ∨ ∃ plan,
        after.assignments = saga.assignments ++ [(asked.key, begunRun plan asked.key)]) := by
  refine ensures_settle_bind ?_ (fun _ _ => Or.inl rfl)
  intro _ _
  have planned : Ensures handler (within (asked.plan context)) saga
      (fun _ between => between.assignments = saga.assignments) :=
    ensures_within refines (fun _ _ same _ => same)
  refine planned.bind ?_ (fun _ _ same => Or.inl same)
  intro plan between same
  by_cases mismatch : plan.causalGraphHash ≠ asked.graph.canonicalHash context.crypto
  · rw [if_pos mismatch]
    exact ensures_raised.mpr (Or.inl same)
  · rw [if_neg mismatch]
    refine ensures_stored refines ?_
    intro later stored _
    rw [same] at stored
    exact ⟨ensures_pure.mpr (Or.inr ⟨plan, stored⟩), fun _ => Or.inr ⟨plan, stored⟩⟩

/-- What any saga operation can do to the stored runs. -/
inductive SagaWrites (saga after : SagaWorld Host) : Prop where
  | untouched (same : after.assignments = saga.assignments)
  | begun (plan : SagaPlan) (runId : String)
      (stored : after.assignments = saga.assignments ++ [(runId, begunRun plan runId)])
  | advanced {runId manifestHash : String} {run next : SagaRun} {fails : Bool}
      (current : saga.lookup runId = some run) (advances : Advances run manifestHash next fails)
      (stored : after.assignments = saga.assignments ++ [(runId, next)])

omit [DecidableEq Host] in
theorem RunWrites.saga_writes {runId : String} (writes : RunWrites runId saga after) :
    SagaWrites saga after := by
  cases writes with
  | untouched same => exact .untouched same
  | advanced current advances stored => exact .advanced current advances stored

omit [DecidableEq Host] in
/-- The result of an operation is handed on as it is. -/
theorem ensures_wrapped {Value Wrapped : Type} {program : SagaAction Value} {wrap : Value → Wrapped}
    {post : SagaWorld Host → Prop} (ensures : Ensures handler program saga (fun _ => post)) :
    Ensures handler (do let value ← program; pure (wrap value)) saga (fun _ => post) :=
  ensures.bind (fun _ _ holds => ensures_pure.mpr holds) (fun _ _ holds => holds)

theorem saga_call_writes (refines : handler.Within (environment.sagaAnswers host))
    (call : SagaCall) :
    Ensures handler (call.program context readers) saga
      (fun _ after => SagaWrites saga after) := by
  cases call with
  | begin asked =>
      refine ensures_wrapped ((begin_writes refines).mono ?_)
      rintro _ after (same | ⟨plan, stored⟩)
      · exact .untouched same
      · exact .begun plan asked.key stored
  | authorize step =>
      exact ensures_wrapped ((authorize_step_writes refines).mono fun _ _ => RunWrites.saga_writes)
  | verify step =>
      exact ensures_wrapped ((verify_step_writes refines).mono fun _ _ => RunWrites.saga_writes)
  | record asked =>
      exact ensures_wrapped ((record_writes refines).mono fun _ _ => RunWrites.saga_writes)
  | commit step =>
      have commits : Ensures handler (within (commit context step.call)) saga
          (fun _ _ => True) := fun _ _ _ => trivial
      refine ensures_wrapped ((commit_step_writes refines commits).mono ?_)
      intro _ after writes
      cases writes with
      | untouched same effects => exact .untouched same
      | denied current checked same => exact .untouched same
      | reported current marked stored effects => exact .advanced current (.reported _ marked) stored
      | committed current marked stored => exact .advanced current (.committed _ _ marked) stored
      | failed current checked marked stored ended fails effects =>
          exact .advanced current (.failed _ _ checked marked) stored
  | recover step =>
      have probes : Ensures handler
          (within (recoverAmbiguousCommit context ⟨step.sealed.manifest, step.adapter⟩)) saga
          (fun _ _ => True) := fun _ _ _ => trivial
      refine ensures_wrapped ((recover_step_writes refines probes).mono ?_)
      intro _ after writes
      cases writes with
      | untouched same => exact .untouched same
      | recovered current checked marked stored =>
          exact .advanced current (.recovered _ _ _ checked marked) stored
      | failed current checked marked stored ended unmatched =>
          exact .advanced current (.unrecovered _ _ checked marked) stored

end KarmaSakshi.Engine
