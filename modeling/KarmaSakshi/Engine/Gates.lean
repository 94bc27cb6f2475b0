import KarmaSakshi.Engine.Lifecycle

/-!
The gates of `commit`: everything it checks before it reserves anything.

Each gate is one of the checks of the source, in the source's order.  A gate
that refuses writes one audit event and raises.
-/

namespace KarmaSakshi.Engine

open EffectProgram KarmaSakshi.Domain KarmaSakshi.Stores

set_option autoImplicit false

/-- The arguments of `commit`; the opaque `context` argument is part of the
external world. -/
structure CommitCall where
  sealed : SealedManifest
  grant : ExecutionGrant
  adapter : AdapterIdentity
  policyBundle : Option SealedPolicyBundle
  decisionEnvelope : Option DecisionEnvelope
  causalGraph : Option CausalEffectGraph

namespace CommitCall

variable (call : CommitCall)

def manifest : EffectManifest := call.sealed.manifest

def manifestId : String := call.manifest.manifestId

def manifestHash : String := call.sealed.seal.manifestHash

def grantId : String := call.grant.grantId

def actorId : String := call.manifest.actor.principalId

def idempotencyKey : String := call.manifest.idempotencyKey

/-- The audit event of a decision about this call. -/
def record (eventType decision : String) (metadata : List (String × String)) : AuditRecord where
  eventType := eventType
  decision := decision
  manifestId := some call.manifestId
  manifestHash := some call.manifestHash
  grantId := some call.grantId
  actorId := some call.actorId
  fromState := none
  toState := none
  metadata := metadata

end CommitCall

variable (context : EngineContext) (call : CommitCall)

def deny {Value : Type} (eventType decision : String) (error : PyError) : Action Value := do
  perform (.audit (call.record eventType decision []))
  .raised error

/-- `try: check except KarmaSakshiError as exc: deny(…)`. -/
def checked (eventType : String) (check : Except PyError Unit) : Action Unit :=
  match check with
  | .ok _ => pure ()
  | .error error =>
      if error.isKarmaSakshi then deny call eventType error.blockedDecision error
      else .raised error

def sealGate : Action Unit :=
  checked call "manifest.seal_verification_failed"
    (verifySeal context.crypto call.sealed context.keyring)

def grantGate : Action Unit := do
  let now ← perform .now
  checked call "grant.verification_failed"
    (verifyGrant context.crypto call.grant context.keyring now context.clockSkew)

def manifestGate : Action Unit :=
  if call.grant.manifestHash ≠ some call.manifestHash then
    deny call "grant.manifest_mismatch" "blocked_manifest_mismatch"
      ⟨.grantManifestMismatch, "grant " ++ call.grantId ++
        " is bound to a different manifest than the one presented"⟩
  else pure ()

/-- `_enforce_policy_tenant` of a presented bundle. -/
def tenantGate (bundle : SealedPolicyBundle) : Action Unit :=
  match bindEngineAndPolicyTenant context.tenantId bundle.bundle.tenantId with
  | .ok _ => pure ()
  | .error error => deny call "tenant.policy_isolation" "blocked_tenant_isolation" error

def boundPolicyGate (bound : String) (bundle : SealedPolicyBundle) : Action Unit := do
  let now ← perform .now
  checked call "policy_bundle.verification_failed"
    (verifyPolicyBundle context.crypto bundle context.keyring now none)
  if bundle.seal.bundleHash ≠ bound then
    deny call "policy_bundle.mismatch" "blocked_policy_bundle_mismatch"
      ⟨.policyBundleMismatch, "grant " ++ call.grantId ++ " is bound to policy bundle " ++
        bound ++ ", but a different bundle (" ++ bundle.seal.bundleHash ++
        ") was presented at commit time"⟩
  else tenantGate context call bundle

def policyGate : Action Unit :=
  match call.grant.policyBundleHash, call.policyBundle with
  | some bound, none =>
      deny call "policy_bundle.missing_at_commit" "blocked_policy_bundle_missing"
        ⟨.policyBundleMismatch, "grant " ++ call.grantId ++ " requires policy bundle " ++
          bound ++ " to be presented at commit time"⟩
  | some bound, some bundle => boundPolicyGate context call bound bundle
  | none, some bundle =>
      if context.tenantId.isSome then tenantGate context call bundle else pure ()
  | none, none => pure ()

def boundEnvelopeGate (bound : String) (envelope : DecisionEnvelope) : Action Unit := do
  let now ← perform .now
  checked call "decision_envelope.verification_failed"
    (verifyDecisionEnvelope context.crypto envelope context.keyring now)
  if envelope.canonicalHash context.crypto ≠ bound then
    deny call "decision_envelope.mismatch" "blocked_decision_envelope_mismatch"
      ⟨.decisionEnvelopeMismatch, "grant " ++ call.grantId ++ " is bound to decision envelope " ++
        bound ++ ", but a different envelope (" ++ envelope.canonicalHash context.crypto ++
        ") was presented at commit time"⟩
  else
    checked call "decision_envelope.constraint_failed"
      (assertManifestFitsEnvelope call.manifest envelope)

def envelopeGate : Action Unit :=
  match call.grant.decisionEnvelopeHash, call.decisionEnvelope with
  | none, _ => pure ()
  | some bound, none =>
      deny call "decision_envelope.missing_at_commit" "blocked_decision_envelope_missing"
        ⟨.decisionEnvelopeMismatch, "grant " ++ call.grantId ++
          " requires decision envelope " ++ bound ++ " to be presented at commit time"⟩
  | some bound, some envelope => boundEnvelopeGate context call bound envelope

/-- The two plan checks share one handler. -/
def planChecks (bound : String) (graph : CausalEffectGraph) : Except PyError Unit := do
  requireMatchingPlanHash context.crypto graph bound
  assertManifestInPlan context.crypto call.manifestHash graph context.keyring

def graphGate : Action Unit :=
  match call.grant.causalGraphHash, call.causalGraph with
  | none, _ => pure ()
  | some bound, none =>
      deny call "atomic_plan.missing_at_commit" "blocked_causal_graph_missing"
        ⟨.atomicPlan, "grant " ++ call.grantId ++ " requires causal graph " ++ bound ++
          " to be presented at commit time"⟩
  | some bound, some graph =>
      checked call "atomic_plan.verification_failed" (planChecks context call bound graph)

def audienceGate : Action Unit :=
  if call.adapter.adapterId ∉ call.grant.audience then
    deny call "grant.audience_mismatch" "blocked_adapter_not_in_audience"
      ⟨.grantAudience, "adapter " ++ pyRepr call.adapter.adapterId ++
        " is not within grant audience " ++ pyReprTuple call.grant.audience⟩
  else pure ()

def identityGate : Action Unit :=
  if call.manifest.adapter.adapterId ≠ call.adapter.adapterId ∨
      call.manifest.adapter.adapterVersion ≠ call.adapter.adapterVersion then
    deny call "adapter.identity_mismatch" "blocked_adapter_identity_mismatch"
      ⟨.adapterMismatch, "manifest was prepared for adapter " ++
        call.manifest.adapter.adapterId ++ "@" ++ call.manifest.adapter.adapterVersion ++
        ", but executing adapter is " ++ call.adapter.adapterId ++ "@" ++
        call.adapter.adapterVersion⟩
  else pure ()

def registryGate : Action Unit :=
  if context.hasAdapterRegistry then do
    let entry ← perform (.lookupAdapter call.adapter.adapterId call.adapter.adapterVersion)
    match requireEffect call.adapter.adapterId call.adapter.adapterVersion
        call.manifest.effectType entry with
    | .ok _ => pure ()
    | .error error => deny call "adapter.untrusted" "blocked_untrusted_adapter" error
  else pure ()

def effectTypeGate : Action Unit :=
  if call.manifest.effectType ∉ call.grant.allowedEffectTypes then
    deny call "grant.effect_type_mismatch" "blocked_effect_type_not_permitted"
      ⟨.grantAudience, "effect_type " ++ pyRepr call.manifest.effectType ++
        " not in grant's allowed_effect_types"⟩
  else pure ()

def revocationGate : Action Unit := do
  if ← perform (.grants (.isRevoked call.grantId)) then
    deny call "grant.revoked" "blocked_revoked"
      ⟨.grantRevoked, "grant " ++ call.grantId ++ " is revoked"⟩
  else pure ()

/-! ### The ancestor walk -/

def maxDelegationDepth : Nat := 16

def depthExceeded (grantId : String) (maxDepth : Nat) : PyError :=
  ⟨.delegationLineage, "delegation ancestor walk exceeded max_depth=" ++ toString maxDepth ++
    " for grant " ++ grantId⟩

def lineageCycle (grantId current : String) : PyError :=
  ⟨.delegationLineage, "cycle detected in delegation lineage at grant " ++ current ++
    " (from " ++ grantId ++ ")"⟩

def ancestorRevoked (grantId current : String) (depth : Nat) : PyError :=
  ⟨.grantRevoked, "grant " ++ grantId ++ " blocked: ancestor grant " ++ current ++
    " is revoked (depth=" ++ toString depth ++ ")"⟩

def lineageUnknown (grantId current : String) : PyError :=
  ⟨.delegationLineage, "lineage unknown for ancestor grant " ++ current ++
    "; cannot prove deep revocation safety for " ++ grantId⟩

/-- The parent to walk to next.  A missing lineage row is told apart from a
recorded root only when there is no parent. -/
def nextParent (grantId current : String) : Action (Option String) := do
  match ← perform (.grants (.getParentGrantId current)) with
  | some parent => pure (some parent)
  | none =>
      if ← perform (.grants (.hasLineage current)) then pure none
      else .raised (lineageUnknown grantId current)

/-- The walk from `current` upwards, with `left` hops still allowed.  `checked`
lists the ancestors already cleared, oldest last. -/
def walkAncestors (grantId : String) (maxDepth : Nat) :
    (left : Nat) → (current : String) → (checked : List String) → Action (List String)
  | 0, _, _ => .raised (depthExceeded grantId maxDepth)
  | left + 1, current, checked =>
      if current = grantId ∨ current ∈ checked then .raised (lineageCycle grantId current)
      else do
        if ← perform (.grants (.isRevoked current)) then
          .raised (ancestorRevoked grantId current (maxDepth - left))
        else
          match ← nextParent grantId current with
          | none => pure (checked ++ [current])
          | some parent => walkAncestors grantId maxDepth left parent (checked ++ [current])

def assertNoRevokedAncestors (grant : ExecutionGrant) (maxDepth : Nat) :
    Action (List String) :=
  if maxDepth < 1 ∨ maxDelegationDepth < maxDepth then
    .raised ⟨.delegationLineage, "max_depth must be 1-" ++ toString maxDelegationDepth ++
      ", got " ++ toString maxDepth⟩
  else
    match grant.parentGrantId with
    | none => pure []
    | some parent => walkAncestors grant.grantId maxDepth maxDepth parent []

def ancestorRefused (error : PyError) : Action Unit :=
  if error.kind = .grantRevoked then
    deny call "grant.ancestor_revoked" "blocked_ancestor_revoked" error
  else deny call "grant.lineage_uncertain" "blocked_lineage_uncertain" error

def ancestorGate : Action Unit :=
  (assertNoRevokedAncestors call.grant maxDelegationDepth).attempt (fun
    | .ok ancestors =>
        if ancestors = [] then pure ()
        else perform (.audit (call.record "grant.ancestor_revocation_checked" "ancestors_clear"
          [("ancestor_count", toString ancestors.length)]))
    | .error error =>
        if error.isLineageRefusal then ancestorRefused call error else .raised error)

/-- All gates in the order `commit` applies them. -/
def gates : Action Unit := do
  sealGate context call
  grantGate context call
  manifestGate call
  policyGate context call
  envelopeGate context call
  graphGate context call
  audienceGate call
  identityGate call
  registryGate context call
  effectTypeGate call
  revocationGate call
  ancestorGate call

end KarmaSakshi.Engine
