import KarmaSakshi.Domain.Saga
import KarmaSakshi.Engine.Issuance
import KarmaSakshi.Engine.Recovery

/-!
Saga orchestration: the engine's operations on its `_saga_runs`.

A saga operation is a program over the engine's operations and two more, the
lookup and the assignment of a run.  The runs are kept as the assignments made so
far, so that the dictionary's entry is the last assignment of its key.
-/

namespace KarmaSakshi.Engine

open EffectProgram KarmaSakshi.Domain KarmaSakshi.Stores

set_option autoImplicit false

/-! ### Operations -/

inductive SagaOp : Type where
  | engine (op : EngineOp)
  | readRun (runId : String)
  | storeRun (runId : String) (run : SagaRun)

abbrev SagaReply : SagaOp → Type
  | .engine op => EngineReply op
  | .readRun _ => Option SagaRun
  | .storeRun _ _ => Unit

abbrev SagaAction (Value : Type) := Program SagaOp SagaReply PyError Value

structure SagaWorld (Host : Type) where
  world : World Host
  assignments : List (String × SagaRun)

namespace SagaWorld

variable {Host : Type}

/-- What was assigned to the key, oldest first. -/
def history (saga : SagaWorld Host) (runId : String) : List SagaRun :=
  (saga.assignments.filter (fun assignment => assignment.1 = runId)).map Prod.snd

def lookup (saga : SagaWorld Host) (runId : String) : Option SagaRun :=
  (saga.history runId).getLast?

def assign (saga : SagaWorld Host) (runId : String) (run : SagaRun) : SagaWorld Host :=
  { saga with assignments := saga.assignments ++ [(runId, run)] }

theorem history_assign (saga : SagaWorld Host) (runId other : String) (run : SagaRun) :
    (saga.assign runId run).history other =
      if runId = other then saga.history other ++ [run] else saga.history other := by
  by_cases same : runId = other
  · simp [history, assign, same]
  · simp [history, assign, same]

end SagaWorld

section Lookup

variable {Host : Type} {saga after : SagaWorld Host}

theorem lookup_kept (same : after.assignments = saga.assignments) (runId : String) :
    after.lookup runId = saga.lookup runId := by
  rw [SagaWorld.lookup, SagaWorld.lookup, SagaWorld.history, SagaWorld.history, same]

theorem lookup_stored {runId : String} {next : SagaRun}
    (stored : after.assignments = saga.assignments ++ [(runId, next)]) (other : String) :
    after.lookup other = if runId = other then some next else saga.lookup other := by
  rw [lookup_kept (show after.assignments = (saga.assign runId next).assignments from stored),
    SagaWorld.lookup, SagaWorld.history_assign]
  by_cases same : runId = other
  · rw [if_pos same, if_pos same, List.getLast?_concat]
  · rw [if_neg same, if_neg same, SagaWorld.lookup]

end Lookup

/-- The engine's own operations are answered as ever. -/
def Environment.sagaAnswers {Host : Type} [DecidableEq Host] (environment : Environment)
    (host : Host) : Handler SagaOp SagaReply PyError (SagaWorld Host) :=
  fun saga op reply after =>
    match op, reply with
    | .engine op, reply => environment.answers host saga.world op reply after.world ∧
        after.assignments = saga.assignments
    | .readRun runId, reply => reply = .ok (saga.lookup runId) ∧ after = saga
    | .storeRun runId run, reply => reply = .ok () ∧ after = saga.assign runId run

/-- An engine operation within a saga operation. -/
def within {Value : Type} (action : Action Value) : SagaAction Value :=
  action.translate SagaOp.engine (fun _ reply => reply)

def tell (op : EngineOp) : SagaAction (EngineReply op) := within (perform op)

def getSaga (runId : String) : SagaAction SagaRun := do
  match ← (Program.perform (SagaOp.readRun runId) : SagaAction (Option SagaRun)) with
  | some run => pure run
  | none => .raised ⟨.sagaIllegalTransition, "unknown saga run " ++ pyRepr runId⟩

def storeSaga (runId : String) (run : SagaRun) : SagaAction Unit :=
  Program.perform (SagaOp.storeRun runId run)

/-! ### Further engine operations a saga uses -/

variable (context : EngineContext)

/-- `_require_trusted_adapter` with an effect type. -/
def requireTrustedAdapter (adapter : AdapterIdentity) (effectType : String) : Action Unit :=
  if context.hasAdapterRegistry then do
    let entry ← perform (.lookupAdapter adapter.adapterId adapter.adapterVersion)
    let _ ← Program.settle
      (requireEffect adapter.adapterId adapter.adapterVersion effectType entry)
    pure ()
  else pure ()

/-- The arguments of `verify`. -/
structure VerifyCall where
  sealed : SealedManifest
  commitResult : CommitResult
  adapter : AdapterIdentity

/-- The manifest becomes VERIFIED whether the proof matched or not. -/
def verify (call : VerifyCall) : Action OutcomeProof := do
  requireTrustedAdapter context call.adapter call.sealed.manifest.effectType
  let proof ← perform (.adapter call.adapter (.verify call.sealed.manifest call.commitResult))
  let _ ← transition context call.sealed.manifest.manifestId .verified {
    eventType := "effect.verified"
    manifestHash := some (call.sealed.manifest.canonicalHash context.crypto)
    grantId := none
    actorId := some call.sealed.manifest.actor.principalId
    metadata := [("matched_expected", pyBool proof.matchedExpected)] }
  pure proof

/-! ### Saga operations -/

def sagaRecord (eventType decision : String) (manifestHash grantId actorId : Option String)
    (metadata : List (String × String)) : AuditRecord where
  eventType := eventType
  decision := decision
  manifestId := none
  manifestHash := manifestHash
  grantId := grantId
  actorId := actorId
  fromState := none
  toState := none
  metadata := metadata

def graphMismatch (message : String) : PyError := ⟨.sagaGraphMismatch, message⟩

/-- The arguments of `begin_saga`; the generated names are those of `uuid`. -/
structure BeginSaga where
  graph : CausalEffectGraph
  sagaId : Option String
  runId : Option String
  actorId : Option String
  generatedSagaId : String
  generatedRunId : String
  generatedNonce : String

namespace BeginSaga

variable (asked : BeginSaga)

def key : String := orElse asked.runId asked.generatedRunId

/-- `build_saga_plan`; the clock is read when the plan is built. -/
def plan : Action SagaPlan := do
  let ordered ← Program.settle (topoManifestHashes asked.graph)
  if ¬ sameMembers ordered asked.graph.nodeManifestHashes then
    .raised ⟨.sagaPlan, "saga plan order must cover every graph node exactly once"⟩
  else do
    let now ← perform .now
    .settle (SagaPlan.build (orElse asked.sagaId asked.generatedSagaId)
      (asked.graph.canonicalHash context.crypto) ordered now asked.generatedNonce)

end BeginSaga

/-- The run that is stored first. -/
def begunRun (plan : SagaPlan) (runId : String) : SagaRun :=
  { buildSagaRun plan runId with status := .running }

/-- `planDigest` is the canonical hash of a plan. -/
def beginSaga (planDigest : SagaPlan → String) (asked : BeginSaga) : SagaAction SagaRun := do
  .settle (asked.graph.verify context.crypto context.keyring)
  let plan ← within (asked.plan context)
  if plan.causalGraphHash ≠ asked.graph.canonicalHash context.crypto then
    .raised (graphMismatch "saga plan graph hash mismatch")
  else do
    let run := begunRun plan asked.key
    storeSaga asked.key run
    tell (.audit (sagaRecord "saga.begun" "started" none none asked.actorId
      [("run_id", run.runId), ("saga_id", plan.sagaId), ("plan_hash", planDigest plan),
        ("causal_graph_hash", plan.causalGraphHash),
        ("steps", toString plan.stepManifestHashes.length)]))
    pure run

/-- The arguments of `authorize_saga_step`. -/
structure AuthorizeStep where
  runId : String
  call : AuthorizeCall
  graph : CausalEffectGraph

/-- The authorization it asks for: no parent and no budget are passed on. -/
def AuthorizeStep.planned (step : AuthorizeStep) : AuthorizeCall :=
  { step.call with parentGrantId := none, authorityBudgetId := none }

def presentedMismatch : PyError :=
  graphMismatch "presented causal graph does not match the saga plan binding"

def authorizeSagaStep (readers : PayloadReaders) (step : AuthorizeStep) :
    SagaAction ExecutionGrant := do
  let run ← getSaga step.runId
  if step.graph.canonicalHash context.crypto ≠ run.plan.causalGraphHash then
    .raised presentedMismatch
  else do
    let grant ← within (authorizePlan context readers step.planned step.graph)
    let updated ← Program.settle (run.markStepAuthorized step.call.manifestHash grant.grantId)
    storeSaga step.runId updated
    tell (.audit (sagaRecord "saga.step_authorized" "allowed" (some step.call.manifestHash)
      (some grant.grantId) (some step.call.issuer.principalId)
      [("run_id", step.runId), ("cursor", toString updated.cursor)]))
    pure grant

/-- The arguments of `commit_saga_step`. -/
structure CommitStep where
  runId : String
  sealed : SealedManifest
  grant : ExecutionGrant
  adapter : AdapterIdentity
  causalGraph : CausalEffectGraph
  policyBundle : Option SealedPolicyBundle
  ambiguous : Bool

namespace CommitStep

variable (step : CommitStep)

def manifestHash : String := step.sealed.seal.manifestHash

/-- The commit that the step wraps. -/
def call : CommitCall where
  sealed := step.sealed
  grant := step.grant
  adapter := step.adapter
  policyBundle := step.policyBundle
  decisionEnvelope := none
  causalGraph := some step.causalGraph

/-- The caller reports an indeterminate earlier attempt. -/
def reportAmbiguous (run : SagaRun) : SagaAction CommitResult := do
  let updated ← Program.settle
    (run.markStepAmbiguous step.manifestHash (some "caller reported ambiguous"))
  storeSaga step.runId updated
  tell (.audit (sagaRecord "saga.step_ambiguous" "awaiting_recovery" (some step.manifestHash)
    (some step.grant.grantId) none [("run_id", step.runId)]))
  .raised ⟨.sagaAmbiguousStep, "saga step " ++ step.manifestHash ++
    " marked AMBIGUOUS; recover before continuing"⟩

end CommitStep

/-- The errors of a commit that fail the step; the others are security denials. -/
def failsStep (error : PyError) : Bool :=
  !error.isKarmaSakshi || error.kind == .staleManifest

/-- A commit that fails the step of its saga. -/
def commitFails : Except PyError CommitResult → Prop
  | .ok result => result.success = false
  | .error error => failsStep error = true

namespace CommitStep

variable (step : CommitStep)

def settleRaised (run : SagaRun) (error : PyError) : SagaAction CommitResult :=
  if failsStep error then do
    let updated ← Program.settle (run.markStepFailed step.manifestHash (some error.message))
    storeSaga step.runId updated
    tell (.audit (sagaRecord "saga.step_failed"
      (if updated.status = .compensating then "compensating" else "aborted")
      (some step.manifestHash) none none
      [("run_id", step.runId), ("error", error.kind.name)]))
    .raised error
  else .raised error

def afterCommit (run : SagaRun) (result : CommitResult) : Except PyError SagaRun :=
  if result.success then
    run.markStepCommitted step.manifestHash true result.providerReference result.detail
  else run.markStepFailed step.manifestHash result.detail

def settleReturned (run : SagaRun) (result : CommitResult) : SagaAction CommitResult := do
  let updated ← Program.settle (step.afterCommit run result)
  storeSaga step.runId updated
  tell (.audit (sagaRecord "saga.step_committed" (if result.success then "success" else "failed")
    (some step.manifestHash) (some step.grant.grantId) none
    [("run_id", step.runId), ("provider_reference", orElse result.providerReference ""),
      ("saga_status", updated.status.value)]))
  pure result

def execute (run : SagaRun) : SagaAction CommitResult :=
  (within (commit context step.call)).attempt (fun
    | .ok result => step.settleReturned run result
    | .error error => step.settleRaised run error)

end CommitStep

def commitSagaStep (step : CommitStep) : SagaAction CommitResult := do
  let run ← getSaga step.runId
  if step.causalGraph.canonicalHash context.crypto ≠ run.plan.causalGraphHash then
    .raised presentedMismatch
  else do
    let _ ← Program.settle (run.assertCanCommitStep step.manifestHash)
    if step.manifestHash ∉ run.plan.stepManifestHashes then
      .raised ⟨.sagaIllegalTransition, "manifest is not a node of this saga plan"⟩
    else if step.ambiguous then step.reportAmbiguous run
    else step.execute context run

/-- The arguments of `verify_saga_step`. -/
structure VerifyStep where
  runId : String
  call : VerifyCall

def VerifyStep.manifestHash (step : VerifyStep) : String := step.call.sealed.seal.manifestHash

def verifySagaStep (step : VerifyStep) : SagaAction OutcomeProof := do
  let run ← getSaga step.runId
  let proof ← within (verify context step.call)
  if proof.matchedExpected then do
    let updated ← Program.settle (run.markStepVerified step.manifestHash)
    storeSaga step.runId updated
    tell (.audit (sagaRecord "saga.step_verified" "matched" (some step.manifestHash) none none
      [("run_id", step.runId), ("saga_status", updated.status.value)]))
    pure proof
  else pure proof

/-- The arguments of `recover_saga_step`. -/
structure RecoverStep where
  runId : String
  sealed : SealedManifest
  adapter : AdapterIdentity

namespace RecoverStep

variable (step : RecoverStep)

def manifestHash : String := step.sealed.seal.manifestHash

def afterProbe (run : SagaRun) (proof : OutcomeProof) : Except PyError SagaRun :=
  if proof.matchedExpected then
    (run.retried step.manifestHash).markStepCommitted step.manifestHash true
      proof.observedAfterStateDigest proof.detail
  else run.markStepFailed step.manifestHash proof.detail

end RecoverStep

def recoverSagaStep (step : RecoverStep) : SagaAction OutcomeProof := do
  let run ← getSaga step.runId
  let _ ← Program.settle (run.assertCanRecoverStep step.manifestHash)
  let proof ← within (recoverAmbiguousCommit context ⟨step.sealed.manifest, step.adapter⟩)
  let updated ← Program.settle (step.afterProbe run proof)
  storeSaga step.runId updated
  tell (.audit (sagaRecord "saga.step_recovered"
    (if proof.matchedExpected then "evidence_found" else "no_evidence") (some step.manifestHash)
    none none [("run_id", step.runId), ("saga_status", updated.status.value)]))
  pure proof

/-- The arguments of `record_saga_compensation`. -/
structure RecordCompensation where
  runId : String
  originalManifestHash : String
  status : CompensationStatus
  detail : Option String

def recordSagaCompensation (asked : RecordCompensation) : SagaAction SagaRun := do
  let run ← getSaga asked.runId
  let expected := run.nextCompensationManifestHash
  if expected ≠ some asked.originalManifestHash then
    .raised ⟨.sagaIllegalTransition, "compensation cursor expects " ++
      expected.getD "None" ++ ", got " ++ asked.originalManifestHash⟩
  else do
    let updated ← Program.settle
      (run.markCompensationResult asked.originalManifestHash asked.status asked.detail)
    storeSaga asked.runId updated
    tell (.audit (sagaRecord "saga.compensation_recorded" asked.status.value
      (some asked.originalManifestHash) none none
      [("run_id", asked.runId), ("saga_status", updated.status.value),
        ("step_status", ((updated.stepOf asked.originalManifestHash).map
          (fun step => step.status.value)).getD "")]))
    pure updated

/-! ### The operations as one type -/

inductive SagaCall : Type where
  | begin (asked : BeginSaga)
  | authorize (step : AuthorizeStep)
  | commit (step : CommitStep)
  | verify (step : VerifyStep)
  | recover (step : RecoverStep)
  | record (asked : RecordCompensation)

inductive SagaResult : Type where
  | run (run : SagaRun)
  | granted (grant : ExecutionGrant)
  | committed (result : CommitResult)
  | observed (proof : OutcomeProof)

/-- What the saga operations take from outside the engine. -/
structure SagaReaders where
  payload : PayloadReaders
  planDigest : SagaPlan → String

def SagaCall.program (readers : SagaReaders) : SagaCall → SagaAction SagaResult
  | begin asked => do
      let run ← beginSaga context readers.planDigest asked
      pure (.run run)
  | authorize step => do
      let grant ← authorizeSagaStep context readers.payload step
      pure (.granted grant)
  | commit step => do
      let result ← commitSagaStep context step
      pure (.committed result)
  | verify step => do
      let proof ← verifySagaStep context step
      pure (.observed proof)
  | recover step => do
      let proof ← recoverSagaStep context step
      pure (.observed proof)
  | record asked => do
      let run ← recordSagaCompensation asked
      pure (.run run)

end KarmaSakshi.Engine
