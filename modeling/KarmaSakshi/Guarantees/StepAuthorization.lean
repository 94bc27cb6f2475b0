import KarmaSakshi.Engine.SagaScenario
import KarmaSakshi.Engine.StepAuthorization
import KarmaSakshi.Guarantees.SagaWalk

/-!
When authorizing a saga step is atomic.

The plan is authorized before the saga machine's guard is asked, so that a step which the
guard refuses is left with an authorized manifest and an announced grant.
-/

namespace KarmaSakshi.Guarantees

open EffectProgram KarmaSakshi.Domain KarmaSakshi.Stores KarmaSakshi.Engine

set_option autoImplicit false

variable {Host : Type} [DecidableEq Host]

/-- No grant was announced, and the manifest's lifecycle and the runs are as they were. -/
structure NothingAuthorized (context : EngineContext) (host : Host) (step : AuthorizeStep)
    (before after : SagaWorld Host) : Prop where
  issued : NothingIssued before.world after.world
  lifecycle : SameLifecycle context host step.call.manifestId before.world after.world
  runs : after.assignments = before.assignments

/-- The grant binds the manifest of the step at the cursor, and that step is AUTHORIZED. -/
def CursorAuthorized {Host : Type} (step : AuthorizeStep) (before after : SagaWorld Host)
    (grant : ExecutionGrant) : Prop :=
  ∃ run updated record, before.lookup step.runId = some run ∧
    after.lookup step.runId = some updated ∧ updated.cursor = run.cursor ∧
    updated.steps[updated.cursor]? = some record ∧ record.status = .authorized ∧
    record.grantId = some grant.grantId ∧ grant.manifestHash = some record.manifestHash

def AuthorizationAtomic (context : EngineContext) (host : Host) (step : AuthorizeStep)
    (before : SagaWorld Host) : Except PyError ExecutionGrant → SagaWorld Host → Prop
  | .error _, after => NothingAuthorized context host step before after
  | .ok grant, after => CursorAuthorized step before after grant

/-- The guard of the saga machine accepts the step. -/
def AcceptsAuthorization (run : SagaRun) (manifestHash : String) : Prop :=
  ∃ record, run.steps[run.cursor]? = some record ∧ record.manifestHash = manifestHash ∧
    (record.status = .ready ∨ record.status = .pending)

/-- Where the checks of the plan authorization can pass and the manifest is SEALED, the
lifecycle store raises nothing but its unavailability, and a move that goes through is one
the guard accepts and the journal does not fail on. -/
def GuardedInTime (environment : Environment) (host : Host) (context : EngineContext)
    (readers : PayloadReaders) (step : AuthorizeStep) (saga : SagaWorld Host) : Prop :=
  ∀ run, saga.lookup step.runId = some run →
    step.graph.canonicalHash context.crypto = run.plan.causalGraphHash →
    Mintable environment host context readers step.planned step.graph saga.world →
    (saga.world.recordOf context host step.call.manifestId).state = .sealed →
      (context.hasLifecycleStore = true → ∀ error, environment.mayRaise .lifecycle error →
        error.isStoreUnavailable = true) ∧
      (WritesThrough context step.call.manifestId .sealed saga.world →
        AcceptsAuthorization run step.call.manifestHash ∧
          ∀ error, ¬ environment.mayRaise .audit error)

section Proof

variable {environment : Environment} {host : Host} {context : EngineContext}
  {readers : PayloadReaders} {step : AuthorizeStep} {saga after : SagaWorld Host}
  {run next : SagaRun} {manifestHash grantId : String}

/-- What the guard makes of a waiting step. -/
theorem waiting_step_is_authorized {record : SagaStepRecord}
    (here : run.steps[run.cursor]? = some record) (named : record.manifestHash = manifestHash)
    (waiting : record.status = .ready ∨ record.status = .pending) :
    run.markStepAuthorized manifestHash grantId = .ok { run.replaceStep record.index
      { record with status := .authorized, grantId := some grantId } with status := .running } := by
  have idle : ¬ (record.status ≠ .ready ∧ record.status ≠ .pending) := by
    rintro ⟨notReady, notPending⟩
    rcases waiting with ready | pending
    · exact notReady ready
    · exact notPending pending
  unfold SagaRun.markStepAuthorized
  simp only [here]
  rw [if_neg (not_not.mpr named), if_neg idle]

theorem accepted_if_authorized (marked : run.markStepAuthorized manifestHash grantId = .ok next) :
    AcceptsAuthorization run manifestHash := by
  unfold SagaRun.markStepAuthorized at marked
  cases here : run.steps[run.cursor]? with
  | none =>
      rw [here] at marked
      cases marked
  | some record =>
      simp only [here] at marked
      by_cases other : record.manifestHash ≠ manifestHash
      · rw [if_pos other] at marked
        cases marked
      · rw [if_neg other] at marked
        by_cases busy : record.status ≠ .ready ∧ record.status ≠ .pending
        · rw [if_pos busy] at marked
          cases marked
        · refine ⟨record, here, not_not.mp other, ?_⟩
          by_contra neither
          exact busy ⟨fun ready => neither (Or.inl ready), fun pending => neither (Or.inr pending)⟩

/-- The step the guard has accepted is the one at the cursor. -/
theorem authorized_at_cursor (plan : run.FollowsPlan)
    (marked : run.markStepAuthorized manifestHash grantId = .ok next) :
    next.cursor = run.cursor ∧ ∃ record, next.steps[next.cursor]? = some record ∧
      record.status = .authorized ∧ record.grantId = some grantId ∧
      record.manifestHash = manifestHash := by
  obtain ⟨record, here, named, waiting⟩ := accepted_if_authorized marked
  rw [waiting_step_is_authorized here named waiting] at marked
  obtain rfl := Except.ok.inj marked
  have inside : run.cursor < run.steps.length := (List.getElem?_eq_some_iff.mp here).1
  refine ⟨rfl, { record with status := .authorized, grantId := some grantId }, ?_, rfl, rfl, named⟩
  show (run.steps.set record.index _)[run.cursor]? = _
  rw [plan.indexed here, List.getElem?_set_self inside]

/-! ### A guarded step is atomic -/

omit [DecidableEq Host] in
theorem untouched_authorizes_nothing :
    NothingAuthorized context host step saga saga :=
  ⟨NothingIssued.refl, SameLifecycle.refl, rfl⟩

/-- The run is stored, and the journal does not fail. -/
theorem stored_step_authorizes {grant : ExecutionGrant} {record : AuditRecord}
    {between : SagaWorld Host} (silent : ∀ error, ¬ environment.mayRaise .audit error)
    (plan : run.FollowsPlan) (current : saga.lookup step.runId = some run)
    (same : between.assignments = saga.assignments)
    (binds : grant.manifestHash = some step.call.manifestHash)
    (marked : run.markStepAuthorized step.call.manifestHash grant.grantId = .ok next) :
    Ensures (environment.sagaAnswers host) (do
      storeSaga step.runId next
      tell (.audit record)
      pure grant) between (AuthorizationAtomic context host step saga) := by
  intro outcome after yields
  obtain ⟨_, _, ⟨rfl, rfl⟩, rest⟩ := yields
  obtain ⟨reply, later, told, final⟩ := rest
  obtain ⟨answered, kept⟩ := told
  rcases answered with ⟨error, raises, _, _⟩ | ⟨rfl, _⟩
  · exact absurd raises (silent error)
  · obtain ⟨rfl, rfl⟩ := final
    obtain ⟨cursor, record, here, authorized, granted, named⟩ := authorized_at_cursor plan marked
    refine ⟨run, next, record, current, ?_, cursor, here, authorized, granted, ?_⟩
    · have stored : after.assignments = saga.assignments ++ [(step.runId, next)] := by
        rw [kept, SagaWorld.assign, same]
      rw [lookup_stored stored, if_pos rfl]
    · rw [binds, named]

theorem guarded_step_is_atomic (plan : ∀ run, saga.lookup step.runId = some run → run.FollowsPlan)
    (guarded : GuardedInTime environment host context readers step saga) :
    Ensures (environment.sagaAnswers host) (authorizeSagaStep context readers step) saga
      (AuthorizationAtomic context host step saga) := by
  refine ensures_with_saga (fun _ _ _ _ told => told) ?_ (fun _ => untouched_authorizes_nothing)
  intro run current
  by_cases mismatch : step.graph.canonicalHash context.crypto ≠ run.plan.causalGraphHash
  · rw [if_pos mismatch]
    exact ensures_raised.mpr untouched_authorizes_nothing
  · rw [if_neg mismatch]
    have guards := guarded run current (not_not.mp mismatch)
    intro outcome after yields
    rcases yields_bind.mp yields with ⟨grant, between, returns, rest⟩ | ⟨error, raises, rfl⟩
    · obtain ⟨planned, same⟩ := within_yields returns
      cases plan_ends rfl _ _ planned with
      | granted mints isSealed writes binds =>
          obtain ⟨accepts, silent⟩ := (guards mints isSealed).2 writes
          obtain ⟨record, here, named, waiting⟩ := accepts
          have marked := @waiting_step_is_authorized run _ grant.grantId _ here named waiting
          rw [marked] at rest
          exact stored_step_authorizes silent (plan run current) current same binds marked _ _ rest
    · obtain ⟨planned, same⟩ := within_yields raises
      cases plan_ends rfl _ _ planned with
      | kept lifecycle issued => exact ⟨issued, lifecycle, same⟩
      | torn mints isSealed fault =>
          rcases fault with ⟨stored, raised, uncaught⟩ | ⟨writes, raised⟩
          · exact absurd ((guards mints isSealed).1 stored _ raised) uncaught
          · exact absurd raised (((guards mints isSealed).2 writes).2 _)

/-! ### Every other step can be torn -/

theorem yields_within {Value : Type} {action : Action Value} {outcome : Except PyError Value}
    {reached : World Host} (yields : action.Yields (environment.answers host) saga.world outcome
      reached) :
    (within action).Yields (environment.sagaAnswers host) saga outcome
      { saga with world := reached } := by
  have lifted := @Program.Yields.translated _ _ _ _ _ _ _ _ _
    (environment.sagaAnswers host) SagaOp.engine (fun _ reply => reply)
    (fun world => { saga with world }) ?_ _ saga.world reached outcome yields
  · exact lifted
  · intro world op reply current told
    exact ⟨reply, rfl, told, rfl⟩

/-- Up to its plan authorization, the step only looks its run up. -/
theorem step_continues (current : saga.lookup step.runId = some run)
    (graph : step.graph.canonicalHash context.crypto = run.plan.causalGraphHash)
    {outcome : Except PyError ExecutionGrant}
    (yields : (do
      let grant ← within (authorizePlan context readers step.planned step.graph)
      let updated ← Program.settle (run.markStepAuthorized step.call.manifestHash grant.grantId)
      storeSaga step.runId updated
      tell (.audit (sagaRecord "saga.step_authorized" "allowed" (some step.call.manifestHash)
        (some grant.grantId) (some step.call.issuer.principalId)
        [("run_id", step.runId), ("cursor", toString updated.cursor)]))
      pure grant : SagaAction ExecutionGrant).Yields (environment.sagaAnswers host) saga outcome
        after) :
    (authorizeSagaStep context readers step).Yields (environment.sagaAnswers host) saga outcome
      after := by
  refine yields_bind.mpr (Or.inl ⟨run, saga, ?_, ?_⟩)
  · exact ⟨.ok (some run), saga, ⟨by rw [current], rfl⟩, rfl, rfl⟩
  · rw [if_neg (not_not.mpr graph)]
    exact yields

/-- A transition that leaves the manifest AUTHORIZED behind an error tears the step. -/
theorem torn_step (current : saga.lookup step.runId = some run)
    (graph : step.graph.canonicalHash context.crypto = run.plan.causalGraphHash)
    {minted : ExecutionGrant × RoleAssignment} {between torn : World Host} {error : PyError}
    (mints : (mintPlan context readers step.planned step.graph).Yields (environment.answers host)
      saga.world (.ok minted) between)
    (isSealed : (saga.world.recordOf context host step.call.manifestId).state = .sealed)
    (transits : (moveToAuthorized context step.planned minted.1
      (planMetadata context step.planned step.graph minted.2)).Yields (environment.answers host)
        between (.error error) torn)
    (memory : (torn.recordOf context host step.call.manifestId).state = .authorized)
    (atomic : ∀ outcome after, (authorizeSagaStep context readers step).Yields
      (environment.sagaAnswers host) saga outcome after →
        AuthorizationAtomic context host step saga outcome after) : False := by
  have planned : (authorizePlan context readers step.planned step.graph).Yields
      (environment.answers host) saga.world (.error error) torn := by
    rw [authorize_plan_mints]
    exact yields_bind.mpr (Or.inl ⟨minted, between, mints,
      yields_bind.mpr (Or.inr ⟨error, transits, rfl⟩)⟩)
  have whole := atomic _ _ (step_continues current graph
    (yields_bind.mpr (Or.inr ⟨error, yields_within planned, rfl⟩)))
  have kept := whole.lifecycle.state
  rw [isSealed] at kept
  exact absurd (kept.symm.trans memory) (by decide)

/-- A move that goes through makes a refusing guard tear the step. -/
theorem refused_step_is_torn (current : saga.lookup step.runId = some run)
    (graph : step.graph.canonicalHash context.crypto = run.plan.causalGraphHash)
    {minted : ExecutionGrant × RoleAssignment} {between moved : World Host}
    (mints : (mintPlan context readers step.planned step.graph).Yields (environment.answers host)
      saga.world (.ok minted) between)
    (isSealed : (saga.world.recordOf context host step.call.manifestId).state = .sealed)
    (transits : (moveToAuthorized context step.planned minted.1
      (planMetadata context step.planned step.graph minted.2)).Yields (environment.answers host)
        between (.ok ()) moved)
    (memory : (moved.recordOf context host step.call.manifestId).state = .authorized)
    (refuses : ¬ AcceptsAuthorization run step.call.manifestHash)
    (atomic : ∀ outcome after, (authorizeSagaStep context readers step).Yields
      (environment.sagaAnswers host) saga outcome after →
        AuthorizationAtomic context host step saga outcome after) : False := by
  have planned : (authorizePlan context readers step.planned step.graph).Yields
      (environment.answers host) saga.world (.ok minted.1) moved := by
    rw [authorize_plan_mints]
    exact yields_bind.mpr (Or.inl ⟨minted, between, mints,
      yields_bind.mpr (Or.inl ⟨(), moved, transits, rfl, rfl⟩)⟩)
  cases marked : run.markStepAuthorized step.call.manifestHash minted.1.grantId with
  | ok next => exact refuses (accepted_if_authorized marked)
  | error error =>
      have whole := atomic (.error error) _ (step_continues current graph
        (yields_bind.mpr (Or.inl ⟨minted.1, _, yields_within planned,
          yields_bind.mpr (Or.inr ⟨error, yields_settle.mpr ⟨marked.symm, rfl⟩, rfl⟩)⟩)))
      have kept := whole.lifecycle.state
      rw [isSealed] at kept
      exact absurd (kept.symm.trans memory) (by decide)

/-- What the transition does, its record left out. -/
theorem move_yields {minted : ExecutionGrant} {metadata : List (String × String)}
    {world reached : World Host} {call : AuthorizeCall} {record : LifecycleRecord}
    (transits : (transition context call.manifestId .authorized {
      eventType := "grant.issued"
      manifestHash := some call.manifestHash
      grantId := some minted.grantId
      actorId := some call.issuer.principalId
      metadata := ("subject", call.subject.principalId) :: metadata }).Yields
        (environment.answers host) world (.ok record) reached) :
    (moveToAuthorized context call minted metadata).Yields (environment.answers host) world
      (.ok ()) reached :=
  yields_bind.mpr (Or.inl ⟨record, reached, transits, rfl, rfl⟩)

theorem move_raises {minted : ExecutionGrant} {metadata : List (String × String)}
    {world reached : World Host} {call : AuthorizeCall} {error : PyError}
    (transits : (transition context call.manifestId .authorized {
      eventType := "grant.issued"
      manifestHash := some call.manifestHash
      grantId := some minted.grantId
      actorId := some call.issuer.principalId
      metadata := ("subject", call.subject.principalId) :: metadata }).Yields
        (environment.answers host) world (.error error) reached) :
    (moveToAuthorized context call minted metadata).Yields (environment.answers host) world
      (.error error) reached :=
  yields_bind.mpr (Or.inr ⟨error, transits, rfl⟩)

theorem atomic_step_is_guarded
    (atomic : ∀ outcome after, (authorizeSagaStep context readers step).Yields
      (environment.sagaAnswers host) saga outcome after →
        AuthorizationAtomic context host step saga outcome after) :
    GuardedInTime environment host context readers step saga := by
  rintro run current graph ⟨minted, between, mints⟩ isSealed
  have checked := checks_keep (mint_plan_uses rfl) _ _ mints
  have state : (between.recordOf context host step.planned.manifestId).state = .sealed := by
    rw [checked.record]
    exact isSealed
  have legal : LifecycleState.isLegalTransition
      (between.recordOf context host step.planned.manifestId).state .authorized = true := by
    rw [state]
    rfl
  constructor
  · intro stored error raises
    by_contra uncaught
    obtain ⟨torn, transits, memory⟩ := transition_runs_ahead legal stored raises uncaught
    exact torn_step current graph mints isSealed (move_raises transits) memory atomic
  · intro writes
    have writesBetween : WritesThrough context step.planned.manifestId
        (between.recordOf context host step.planned.manifestId).state between := by
      rw [state]
      exact writes.elsewhere checked.lifecycle
    obtain ⟨record, moved, transits, holds, tears⟩ := transition_moves legal writesBetween
    constructor
    · by_contra refuses
      exact refused_step_is_torn current graph mints isSealed (move_yields transits) holds.memory
        refuses atomic
    · intro error raises
      obtain ⟨torn, fails, held⟩ := tears error raises
      exact torn_step current graph mints isSealed (move_raises fails) held.memory atomic

end Proof

/-- A reachable saga authorizes a step atomically, whatever the components answer, if and
only if the step is guarded in time. -/
theorem authorization_atomic_iff {environment : Environment} {host : Host}
    {context : EngineContext} {readers : SagaReaders} {saga : SagaWorld Host}
    (execution : SagaExecution environment host context readers saga) (step : AuthorizeStep) :
    (∀ outcome after, (authorizeSagaStep context readers.payload step).Yields
      (environment.sagaAnswers host) saga outcome after →
        AuthorizationAtomic context host step saga outcome after) ↔
      GuardedInTime environment host context readers.payload step saga := by
  constructor
  · exact atomic_step_is_guarded
  · intro guarded
    refine guarded_step_is_atomic ?_ guarded
    intro run current
    obtain ⟨_, _, _, _, lived⟩ := (execution_lives execution step.runId).current current
    exact lived.current_shape.plan

/-- The step of the one transfer, once its saga has begun. -/
theorem transfer_step_is_atomic : AuthorizationAtomic TransferSaga.context () TransferSaga.authorizing
    (TransferSaga.after Payment.prompt TransferSaga.start (.begin TransferSaga.beginning)).2
    ((authorizeSagaStep TransferSaga.context TransferSaga.readers.payload
      TransferSaga.authorizing).run (Payment.prompt.sagaServe ())
        (TransferSaga.after Payment.prompt TransferSaga.start (.begin TransferSaga.beginning)).2).1
    ((authorizeSagaStep TransferSaga.context TransferSaga.readers.payload
      TransferSaga.authorizing).run (Payment.prompt.sagaServe ())
        (TransferSaga.after Payment.prompt TransferSaga.start
          (.begin TransferSaga.beginning)).2).2 := by
  have begun := TransferSaga.after_yields Payment.prompt TransferSaga.start
    (.begin TransferSaga.beginning)
  refine (authorization_atomic_iff (.call (.start rfl) _ begun) TransferSaga.authorizing).mpr ?_ _ _
    (Program.run_yields (Payment.prompt.saga_serves ()) _ _)
  intro run current _ _ _
  refine ⟨fun _ error raises => raises.elim, fun _ => ⟨?_, fun error raises => raises.elim⟩⟩
  have waits : (((TransferSaga.after Payment.prompt TransferSaga.start
      (.begin TransferSaga.beginning)).2.lookup "run-1").bind
        (fun run => run.steps[run.cursor]?)).map (fun record => (record.manifestHash, record.status)) =
          some (Payment.transferHash, .ready) := by decide +kernel
  rw [show (TransferSaga.after Payment.prompt TransferSaga.start
    (.begin TransferSaga.beginning)).2.lookup "run-1" = some run from current] at waits
  obtain ⟨record, here, named⟩ := Option.map_eq_some_iff.mp waits
  obtain ⟨hash, status⟩ := Prod.mk.inj named
  exact ⟨record, here, hash, Or.inl status⟩

/-! ### A step out of turn -/

namespace OutOfTurn

def graphHash : String :=
  "sha256:9e219fb87ba2ce05dc6036387eaaf1187ca06f1eda4ddd14e65396400acea481"

def grantHash : String :=
  "sha256:e571ec176b4f8237fadf606ed812db2d2fba415d88ba3f7e4d7a0838bba4d1aa"

def grantSignature : String :=
  "mdqOEj12mg9PNooTCsbsiwt3M4tFvHWgM8tYFhQBb6T9XXbZmqOG3n/qdk50abgCMULNDDfACAk1ilgRT6phAQ=="

def linkPayload : String :=
  "\x7b\"algorithm\":\"ed25519\"," ++
    "\"child_manifest_hash\":\"sha256:dde313528cbac6d583f419db06e1f709f4186db725f4ba469e9a007121c3d6b8\"," ++
    "\"created_at\":\"2026-01-01T00:00:00Z\"," ++
    "\"key_id\":\"issuer-key\",\"link_id\":\"link-1\"," ++
    "\"parent_manifest_hash\":\"sha256:4981e719d2877ce565d3131594bcab8995a47cbf742119837a6eaa593c3014bf\"," ++
    "\"relation\":\"causes\"\x7d"

def linkSignature : String :=
  "eDuclGvtBLuZkCbyNqZ5Jt/qBvwSG8lCrM0Oct6uKg8xLNNwmOCX6+wRovLqGkeuZsc4o0GEhnEn+dSbD2e8DA=="

theorem other_hash_shape : isDigest Payment.otherTransferHash := by decide

theorem hash_shape : isDigest Payment.transferHash := by decide

/-- The other transfer causes the one. -/
def link : CausalLink where
  linkId := "link-1"
  parentManifestHash := Payment.otherTransferHash
  childManifestHash := Payment.transferHash
  relation := .causes
  createdAt := Payment.opening
  keyId := "issuer-key"
  signature := linkSignature
  parentShape := other_hash_shape
  childShape := hash_shape

def graph : CausalEffectGraph where
  graphId := "graph-2"
  nodeManifestHashes := [Payment.otherTransferHash, Payment.transferHash]
  links := [link]
  nodesNonempty := by decide
  endpointsPresent := by decide

def crypto : CryptoPrimitives :=
  { Payment.crypto with
    grantDigest := fun grant =>
      if grant.grantId = "grant-8" then grantHash else Payment.crypto.grantDigest grant
    causalGraphDigest := fun _ => graphHash
    causalLinkPayload := fun _ => linkPayload
    ed25519Verify := fun publicKey data signature =>
      Payment.crypto.ed25519Verify publicKey data signature ||
        publicKey == Payment.issuerKey.publicKey &&
          [(grantHash, grantSignature), (linkPayload, linkSignature)].contains (data, signature) }

def context : EngineContext := { Payment.context with crypto }

def readers : SagaReaders :=
  { TransferSaga.readers with
    planDigest := fun _ =>
      "sha256:6d9cbe8a2f08b143eff85d670ed2df82e700cfd8a4da8cbffd31dcbec569c37f" }

def beginning : SagaCall := .begin { TransferSaga.beginning with graph }

def step : AuthorizeStep :=
  { TransferSaga.authorizing with
    graph
    call := { TransferSaga.authorizing.call with
      signingKey := ⟨"issuer-key", fun _ => grantSignature⟩ } }

def begun : Except PyError SagaResult × SagaWorld Unit :=
  (beginning.program context readers).run (Payment.prompt.sagaServe ()) TransferSaga.start

def answered : Except PyError ExecutionGrant × SagaWorld Unit :=
  (authorizeSagaStep context readers.payload step).run (Payment.prompt.sagaServe ()) begun.2

end OutOfTurn

set_option maxRecDepth 4000 in
/-- The second transfer is asked for first: the guard refuses it, and its manifest is
AUTHORIZED. -/
theorem step_out_of_turn_is_torn :
    ¬ ∀ saga, SagaExecution Payment.prompt.environment () OutOfTurn.context OutOfTurn.readers
      saga → ∀ outcome after, (authorizeSagaStep OutOfTurn.context OutOfTurn.readers.payload
        OutOfTurn.step).Yields (Payment.prompt.environment.sagaAnswers ()) saga outcome after →
          AuthorizationAtomic OutOfTurn.context () OutOfTurn.step saga outcome after := by
  intro claimed
  have begun : (OutOfTurn.beginning.program OutOfTurn.context OutOfTurn.readers).Yields
      (Payment.prompt.environment.sagaAnswers ()) TransferSaga.start OutOfTurn.begun.1
        OutOfTurn.begun.2 :=
    Program.run_yields (Payment.prompt.saga_serves ()) _ TransferSaga.start
  have atomic := claimed OutOfTurn.begun.2 (.call (.start rfl) _ begun) OutOfTurn.answered.1
    OutOfTurn.answered.2 (Program.run_yields (Payment.prompt.saga_serves ()) _ _)
  have torn : OutOfTurn.answered.1.isOk = false ∧
      (OutOfTurn.answered.2.world.recordOf OutOfTurn.context () "mf-1").state = .authorized ∧
      (OutOfTurn.begun.2.world.recordOf OutOfTurn.context () "mf-1").state = .sealed := by
    decide +kernel
  cases ended : OutOfTurn.answered.1 with
  | ok grant =>
      rw [ended] at torn
      cases torn.1
  | error error =>
      rw [ended] at atomic
      have kept := atomic.lifecycle.state
      rw [show OutOfTurn.step.call.manifestId = "mf-1" from rfl, torn.2.1, torn.2.2] at kept
      exact absurd kept (by decide)

end KarmaSakshi.Guarantees
