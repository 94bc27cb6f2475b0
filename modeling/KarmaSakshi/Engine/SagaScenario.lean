import KarmaSakshi.Engine.Saga
import KarmaSakshi.Engine.Scenario

/-!
Scripted sagas: a script answers the engine's operations, and a saga of the one
transfer of the payment scenario runs on it.
-/

namespace KarmaSakshi.Engine

open EffectProgram KarmaSakshi.Domain KarmaSakshi.Stores

set_option autoImplicit false

namespace Script

variable (script : Script) {Host : Type} [DecidableEq Host]

def sagaServe (host : Host) : Server SagaOp SagaReply PyError (SagaWorld Host) :=
  fun saga op =>
    match op with
    | .engine op =>
        ((script.serve host saga.world op).1,
          { saga with world := (script.serve host saga.world op).2 })
    | .readRun runId => (.ok (saga.lookup runId), saga)
    | .storeRun runId run => (.ok (), saga.assign runId run)

theorem saga_serves (host : Host) :
    (script.sagaServe host).Serves (script.environment.sagaAnswers host) := by
  intro saga op
  cases op with
  | engine op => exact ⟨script.serves host saga.world op, rfl⟩
  | readRun runId => exact ⟨rfl, rfl⟩
  | storeRun runId run => exact ⟨rfl, rfl⟩

end Script

/-! ### A saga of one transfer -/

namespace TransferSaga

def graphHash : String :=
  "sha256:fce6b1264676a29c187018fb15e6b90f3ceb462fd7ee6204825b2dcdff6af53e"

def grantHash : String :=
  "sha256:261eb1ff8525ed1faa20e2b7e252f3513d4e0df31eee69aa8adabe7d14258670"

def grantSignature : String :=
  "lhYxSK5T/HtuJR3Z11frBo6pKYI+aXZf6nwiF9iK8T3xSXC5zwTmFjXMHBOBIZ0Mk+tNg10hqg5xKprq3SSVBw=="

def graph : CausalEffectGraph where
  graphId := "graph-1"
  nodeManifestHashes := [Payment.transferHash]
  links := []
  nodesNonempty := by decide
  endpointsPresent := List.forall_mem_nil _

def crypto : CryptoPrimitives :=
  { Payment.crypto with
    grantDigest := fun grant =>
      if grant.grantId = "grant-8" then grantHash else Payment.crypto.grantDigest grant
    causalGraphDigest := fun _ => graphHash
    ed25519Verify := fun publicKey data signature =>
      Payment.crypto.ed25519Verify publicKey data signature ||
        publicKey == Payment.issuerKey.publicKey &&
          data == grantHash && signature == grantSignature }

def context : EngineContext := { Payment.context with crypto }

def readers : SagaReaders where
  payload :=
    { approvalPolicy := fun _ => .error ⟨.validationError, ""⟩
      separationPolicy := fun _ => .error ⟨.validationError, ""⟩ }
  planDigest := fun _ =>
    "sha256:ebcefc1f9346b9506140da8fea9cd6ed1ef3e9261e94087f5838a2cd69d9baf1"

def beginning : BeginSaga where
  graph := graph
  sagaId := some "saga-1"
  runId := some "run-1"
  actorId := none
  generatedSagaId := "6a1f0f5e-8f0b-4c55-9d0e-3d8f4b8a2a11"
  generatedRunId := "b3f0c6a2-1f53-4f8e-8f63-2a5b7f0f4c22"
  generatedNonce := "nonce-saga-1"

def authorizing : AuthorizeStep where
  runId := "run-1"
  graph := graph
  call :=
    { «sealed» := Payment.sealedTransfer
      issuer := Payment.treasury
      subject := Payment.agent
      audience := ["payments"]
      allowedEffectTypes := ["payment.transfer"]
      scope := Payment.anyScope
      notBefore := Payment.opening
      expiresAt := Payment.closing
      signingKey := ⟨"issuer-key", fun _ => grantSignature⟩
      grantId := some "grant-8"
      nonce := some "nonce-grant-8"
      generatedId := "c0a8012e-6d0f-4f3e-b7a9-5b3e2f1d7c33"
      generatedNonce := "7b7c0d5e1f2a4b3c8d9e0f1a2b3c4d5e"
      maxUses := 1
      parentGrantId := none
      authorityBudgetId := none
      policyBundle := none
      separationPolicyBundle := none
      roleAssignment := none }

/-- The grant that the step above returns. -/
def grant : ExecutionGrant :=
  { Payment.transferGrant with
    grantId := "grant-8"
    causalGraphHash := some graphHash
    issuedAt := Payment.noon
    nonce := "nonce-grant-8"
    signature := some grantSignature
    grantIdBounded := by decide
    nonceBounded := by decide
    causalGraphHashShape := by decide
    planBindingExclusive := by decide }

def committing : CommitStep where
  runId := "run-1"
  «sealed» := Payment.sealedTransfer
  grant := grant
  adapter := Payment.adapter
  causalGraph := graph
  policyBundle := none
  ambiguous := false

/-- The transfer is sealed, and no saga has begun. -/
def start : SagaWorld Unit where
  world := { Payment.emptyWorld Unit with lifecycle := .memory ⟨fun _ => some .sealed⟩ }
  assignments := []

def after (script : Script) (saga : SagaWorld Unit) (call : SagaCall) :
    Except PyError SagaResult × SagaWorld Unit :=
  (call.program context readers).run (script.sagaServe ()) saga

/-- The saga is begun and its step authorized. -/
def authorized (script : Script) : SagaWorld Unit :=
  (after script (after script start (.begin beginning)).2 (.authorize authorizing)).2

def committed (script : Script) : SagaWorld Unit :=
  (after script (authorized script) (.commit committing)).2

theorem after_yields (script : Script) (saga : SagaWorld Unit) (call : SagaCall) :
    (call.program context readers).Yields (script.environment.sagaAnswers ()) saga
      (after script saga call).1 (after script saga call).2 :=
  Program.run_yields (script.saga_serves ()) _ saga

end TransferSaga

end KarmaSakshi.Engine
