import KarmaSakshi.Engine.Service
import KarmaSakshi.Library.Replay

/-!
Scripted services: reliable components, a fixed clock, and an adapter given by
functions.

A script is one way for the environment to behave, so whatever it computes is a
run of the service.  The payment below is the smallest complete instance: one
signing key, one adapter, and sealed manifests with grants whose hashes and
signatures are those of the canonical encoding.
-/

namespace KarmaSakshi.Engine

open EffectProgram KarmaSakshi.Domain KarmaSakshi.Stores

set_option autoImplicit false

/-- The adapter's answers as functions of the effects performed so far. -/
structure Script where
  instant : Instant
  validates : EffectManifest → List EffectManifest → Except PyError PreconditionResult
  commits : EffectManifest → List EffectManifest →
    Except PyError CommitResult × List EffectManifest
  verifies : EffectManifest → List EffectManifest → Except PyError OutcomeProof
  compensates : EffectManifest → List EffectManifest →
    Except PyError CompensationResult × List EffectManifest

namespace Script

variable (script : Script) {Host : Type} [DecidableEq Host]

def environment : Environment where
  mayRaise := fun _ _ => False
  validates := fun _ manifest effects reply => reply = script.validates manifest effects
  commits := fun _ manifest _ effects reply after => (reply, after) = script.commits manifest effects
  verifies := fun _ manifest _ effects reply => reply = script.verifies manifest effects
  compensates := fun _ manifest _ effects reply after =>
    (reply, after) = script.compensates manifest effects

def serveAdapter (world : World Host) :
    (op : AdapterOp) → Except PyError (AdapterReply op) × World Host
  | .validatePreconditions manifest => (script.validates manifest world.effects, world)
  | .commit manifest _ =>
      ((script.commits manifest world.effects).1,
        { world with effects := (script.commits manifest world.effects).2 })
  | .verify manifest _ => (script.verifies manifest world.effects, world)
  | .compensate manifest _ =>
      ((script.compensates manifest world.effects).1,
        { world with effects := (script.compensates manifest world.effects).2 })

def serve (host : Host) (world : World Host) :
    (op : EngineOp) → Except PyError (EngineReply op) × World Host
  | .now => (.ok script.instant, world)
  | .audit record => (.ok (), { world with audit := world.audit ++ [record] })
  | .recall manifestId => (.ok (world.records host manifestId), world)
  | .remember manifestId record => (.ok (), world.putRecord host manifestId record)
  | .lifecycle op =>
      ((world.serveLifecycle op).1, { world with lifecycle := (world.serveLifecycle op).2 })
  | .grants op => ((world.grants.serve op).1, { world with grants := (world.grants.serve op).2 })
  | .budget op => ((world.budget.serve op).1, { world with budget := (world.budget.serve op).2 })
  | .outbox op => ((world.outbox.serve op).1, { world with outbox := (world.outbox.serve op).2 })
  | .lookupAdapter adapterId adapterVersion =>
      (.ok (world.registry.entries adapterId adapterVersion), world)
  | .adapter _ op => script.serveAdapter world op

/-- What a script answers is one of the environment's answers. -/
theorem serves (host : Host) :
    Server.Serves (script.serve host) (script.environment.answers host) := by
  intro world op
  cases op with
  | now => exact ⟨⟨script.instant, rfl⟩, rfl⟩
  | «recall» manifestId => exact ⟨rfl, rfl⟩
  | remember manifestId record => exact ⟨rfl, rfl⟩
  | lookupAdapter adapterId adapterVersion => exact ⟨rfl, rfl⟩
  | adapter identity inner =>
      cases inner with
      | validatePreconditions manifest => exact ⟨rfl, rfl⟩
      | verify manifest commitResult => exact ⟨rfl, rfl⟩
      | commit manifest grant => exact ⟨_, rfl, rfl⟩
      | compensate manifest commitResult => exact ⟨_, rfl, rfl⟩
  | _ => exact Or.inr ⟨rfl, rfl⟩

end Script

namespace Service

variable {Host Caller : Type} [DecidableEq Host] [DecidableEq Caller]

/-- The state after the callers took their steps in the given order. -/
def replay (service : Service Host Caller) (script : Script) (initial : World Host)
    (schedule : List Caller) : Snapshot (World Host) Caller :=
  service.deployment.pool.replay (fun caller => script.serve (service.engineOf caller)) initial
    schedule

/-- A replayed schedule is a run of the service. -/
theorem replay_reachable {service : Service Host Caller} {script : Script}
    (scripted : service.environment = script.environment)
    (starts : ∀ config caller, service.mayStart config caller)
    (performs : ∀ config caller op, service.mayPerform config caller op) (initial : World Host)
    (schedule : List Caller) :
    service.deployment.Reachable initial (service.replay script initial schedule) := by
  apply Pool.replay_reachable
  · intro caller
    show Server.Serves (script.serve (service.engineOf caller))
      (service.environment.answers (service.engineOf caller))
    rw [scripted]
    exact script.serves (service.engineOf caller)
  · exact Pool.permitted_of_free _ starts performs schedule _

end Service

/-! ### A payment -/

namespace Payment

/-- 2026-01-01T00:00:00Z, an hour later, and the day after. -/
def opening : Instant := 1767225600000000
def noon : Instant := 1767229200000000
def closing : Instant := 1767312000000000

def agent : Principal := ⟨"agent-1", .agent, none⟩
def owner : Principal := ⟨"alice", .human, none⟩
def treasury : Principal := ⟨"treasury", .service, none⟩
def adapter : AdapterIdentity := ⟨"payments", "1.0.0"⟩
def amount : MonetaryAmount := ⟨"USD", 500, by decide⟩

def issuerKey : VerificationKey :=
  { keyId := "issuer-key", publicKey := "Z4KnVTGCx37qfCe7rapGbcDxby06tYMpcIY3voY66IE=" }

/-- Two transfers to different accounts under one idempotency key. -/
def transfer : EffectManifest where
  schemaVersion := "1.0"
  manifestId := "mf-1"
  effectType := "payment.transfer"
  actor := agent
  principal := owner
  adapter := adapter
  targetResource := "acct/100"
  parameters := .empty
  beforeStateDigest := none
  expectedAfterStateDigest := none
  stateFingerprint := none
  preconditions := []
  risk := .low
  reversibility := .compensatable
  blastRadius := .singleResource
  estimatedCost := some amount
  idempotencyKey := "pay-key"
  createdAt := opening
  expiresAt := closing
  nonce := "nonce-mf-1"
  parentManifestId := none
  metadata := .empty
  manifestIdBounded := by decide
  idempotencyKeyBounded := by decide
  nonceBounded := by decide
  effectTypeBounded := by decide
  targetResourceBounded := by decide
  windowOpen := by decide

def otherTransfer : EffectManifest :=
  { transfer with
    manifestId := "mf-2"
    targetResource := "acct/200"
    nonce := "nonce-mf-2"
    manifestIdBounded := by decide
    nonceBounded := by decide
    targetResourceBounded := by decide }

theorem payee_listed : ["acct/100"] ≠ [] := List.cons_ne_nil _ _

def transferHash : String :=
  "sha256:dde313528cbac6d583f419db06e1f709f4186db725f4ba469e9a007121c3d6b8"

def otherTransferHash : String :=
  "sha256:4981e719d2877ce565d3131594bcab8995a47cbf742119837a6eaa593c3014bf"

def sealedTransfer : SealedManifest where
  manifest := transfer
  «seal» :=
    { keyId := "issuer-key"
      manifestHash := transferHash
      signature := "MCjOsB/dZAAqkMekTToNpkGUdC8N5187AeYskSoodQ6ScjvfYkwAPDQO8RrmOUi2aYdPDsR3B1OclZU8PgN+BA=="
      sealedAt := opening
      keyIdBounded := by decide
      manifestHashShape := by decide }

def sealedOtherTransfer : SealedManifest where
  manifest := otherTransfer
  «seal» :=
    { keyId := "issuer-key"
      manifestHash := otherTransferHash
      signature := "xVvtumHNeDYOkyWsn0Zr421uHljkGZkur9zQ+r40CvRIxZ7IRzjKuISQyPq/u+GxPhw9FuWsWmC0m2H4FbkXAQ=="
      sealedAt := opening
      keyIdBounded := by decide
      manifestHashShape := by decide }

def anyScope : ScopeConstraints :=
  { targetResources := none, recipients := none, maxAmount := none, allowedFields := none
    environments := none, targetResourcesShape := by decide, recipientsShape := by decide
    allowedFieldsShape := by decide, environmentsShape := by decide }

/-- A scope restricted to the account of the first transfer. -/
def firstAccountOnly : ScopeConstraints :=
  { anyScope with targetResources := some ["acct/100"], targetResourcesShape := by decide }

def transferGrant : ExecutionGrant where
  schemaVersion := "1.0"
  grantId := "grant-1"
  manifestHash := some transferHash
  policyBundleHash := none
  approvalSetHash := none
  decisionEnvelopeHash := none
  causalGraphHash := none
  authorityBudgetId := none
  issuer := treasury
  subject := agent
  audience := ["payments"]
  allowedEffectTypes := ["payment.transfer"]
  scope := anyScope
  issuedAt := opening
  notBefore := opening
  expiresAt := closing
  maxUses := 1
  nonce := "nonce-grant-1"
  parentGrantId := none
  keyId := "issuer-key"
  signature := some "z5hbJF90pjaexnHbvL35UIrY43n0AckkEe6/dwIDHoofYIS/9RbgRg354QEg8v5SCyFB3Z1mxjjBaIE3OqEQCg=="
  grantIdBounded := by decide
  nonceBounded := by decide
  keyIdBounded := by decide
  budgetIdBounded := by simp
  manifestHashShape := by decide
  policyBundleHashShape := by decide
  approvalSetHashShape := by decide
  decisionEnvelopeHashShape := by decide
  causalGraphHashShape := by decide
  audienceNonempty := by decide
  allowedEffectTypesNonempty := by decide
  maxUsesPositive := by decide
  windowOpen := by decide
  planBindingExclusive := by decide

/-- A grant for the second transfer whose scope leaves its account out. -/
def otherGrant : ExecutionGrant :=
  { transferGrant with
    grantId := "grant-2"
    manifestHash := some otherTransferHash
    scope := firstAccountOnly
    nonce := "nonce-grant-2"
    signature := some "e1ZAq0G6SqHAVr6/v5zXz4vHTmdi5uu/M6BKhO6uLxZvf/qH3CuF9H6DWBD8foVWyiL8IDChr6LTRM2IbpZgCg=="
    grantIdBounded := by decide
    nonceBounded := by decide
    manifestHashShape := by decide }

/-- A second grant for the first transfer. -/
def secondGrant : ExecutionGrant :=
  { transferGrant with
    grantId := "grant-3"
    nonce := "nonce-grant-3"
    signature := some "x9cwTbLh+ApOxolIgdszYGGj4NIsNhC+F9azFArvlpfDNl76/YeAtTHHg795vqGTjfAQr7it+61ZzK1N8mSICQ=="
    grantIdBounded := by decide
    nonceBounded := by decide }

/-- A grant for the first transfer that is bound to an authority budget. -/
def budgetGrant : ExecutionGrant :=
  { transferGrant with
    grantId := "grant-4"
    authorityBudgetId := some "budget-1"
    nonce := "nonce-grant-4"
    signature := some "1mUPeKawyvPffsOKcYXIPuKeg9D/IlcJjfWAJzq4GFtmuUaghCAZwco+3jcJfNtIyghLAyJbaaMZi+ZkLbXRBA=="
    grantIdBounded := by decide
    nonceBounded := by decide
    budgetIdBounded := by simp; decide }

def transferGrantHash : String :=
  "sha256:15a9b3103799d1422a1fc3d6af972e2b614cda489c9b0083e8de8a805ff005b3"

def otherGrantHash : String :=
  "sha256:3a0cb9d3943cf09847ec63c6f109ee77f31b7c3ee4b7a294ccaf9e28e7537dbd"

def secondGrantHash : String :=
  "sha256:dd1389f3de664215cba5305a5d93c51b856c234b21ea9bb8454aaf80e4038022"

def budgetGrantHash : String :=
  "sha256:0ef22485b67bd27f203be11092088babbffa83598cd6a2df9313565515eb47c8"

/-- The signed hashes with the issuer's signatures. -/
def signatures : List (String × String) :=
  [(transferHash, sealedTransfer.seal.signature),
    (otherTransferHash, sealedOtherTransfer.seal.signature),
    (transferGrantHash, transferGrant.signature.getD ""),
    (otherGrantHash, otherGrant.signature.getD ""),
    (secondGrantHash, secondGrant.signature.getD ""),
    (budgetGrantHash, budgetGrant.signature.getD "")]

/-- SHA-256 and Ed25519 on the values of this scenario. -/
def crypto : CryptoPrimitives where
  manifestDigest := fun manifest =>
    if manifest.manifestId = "mf-1" then transferHash else otherTransferHash
  grantDigest := fun grant =>
    if grant.grantId = "grant-1" then transferGrantHash
    else if grant.grantId = "grant-2" then otherGrantHash
    else if grant.grantId = "grant-3" then secondGrantHash
    else budgetGrantHash
  policyBundleDigest := fun _ => ""
  decisionEnvelopeDigest := fun _ => ""
  causalGraphDigest := fun _ => ""
  causalLinkPayload := fun _ => ""
  isBase64 := fun _ => true
  ed25519Verify := fun publicKey data signature =>
    publicKey == issuerKey.publicKey && signatures.contains (data, signature)

def context : EngineContext where
  crypto := crypto
  keyring := ⟨fun keyId => if keyId = "issuer-key" then some issuerKey else none⟩
  clockSkew := ⟨0, by decide⟩
  hasBudgetLedger := true
  hasLifecycleStore := true
  hasOutboxStore := false
  hasAdapterRegistry := false
  tenantId := none

def commitOf (signed : SealedManifest) (grant : ExecutionGrant) : CommitCall where
  «sealed» := signed
  grant := grant
  adapter := adapter
  policyBundle := none
  decisionEnvelope := none
  causalGraph := none

def succeeded : CommitResult where
  success := true
  idempotencyKey := "pay-key"
  providerReference := some "txn-1"
  detail := none
  afterStateDigest := none

def observed (manifest : EffectManifest) (effects : List EffectManifest) : OutcomeProof where
  matchedExpected := effects.any (fun effect => effect.manifestId = manifest.manifestId)
  observedAt := noon
  observedAfterStateDigest := none
  detail := none

/-- Every payment goes through. -/
def prompt : Script where
  instant := noon
  validates := fun _ _ => .ok ⟨true, none, none⟩
  commits := fun manifest effects => (.ok succeeded, effects ++ [manifest])
  verifies := fun manifest effects => .ok (observed manifest effects)
  compensates := fun _ effects => (.ok ⟨true, true, none, none⟩, effects)

/-- Nothing stored yet. -/
def emptyWorld (Host : Type) : World Host where
  grants := .memory .empty
  lifecycle := .memory ⟨fun _ => none⟩
  budget := ⟨fun _ => none⟩
  outbox := ⟨fun _ => none⟩
  registry := ⟨fun _ _ => none⟩
  records := fun _ _ => none
  audit := []
  effects := []

/-- Both transfers are authorized. -/
def authorizedWorld (Host : Type) : World Host :=
  { emptyWorld Host with lifecycle := .memory ⟨fun _ => some .authorized⟩ }

/-- Engines of one configuration, scheduled freely. -/
def service {Host : Type} (script : Script) (engineOf : Nat → Host) (calls : Nat → EngineCall) :
    Service Host Nat where
  environment := script.environment
  context := fun _ => context
  engineOf := engineOf
  call := calls
  mayStart := fun _ _ => True
  mayPerform := fun _ _ _ => True

theorem service_reachable {Host : Type} [DecidableEq Host] (script : Script) (engineOf : Nat → Host)
    (calls : Nat → EngineCall) (initial : World Host) (schedule : List Nat) :
    (service script engineOf calls).deployment.Reachable initial
      ((service script engineOf calls).replay script initial schedule) :=
  Service.replay_reachable rfl (fun _ _ => trivial) (fun _ _ _ => trivial) initial schedule

end Payment

end KarmaSakshi.Engine
