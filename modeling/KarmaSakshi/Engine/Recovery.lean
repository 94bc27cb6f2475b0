import KarmaSakshi.Engine.Commit

/-!
The other operations that touch a commit's state: ambiguous-outcome recovery,
revocation, and authorized compensation.
-/

namespace KarmaSakshi.Engine

open EffectProgram KarmaSakshi.Domain KarmaSakshi.Stores

set_option autoImplicit false

variable (context : EngineContext)

/-! ### Recovery -/

/-- The arguments of `recover_ambiguous_commit`. -/
structure RecoveryCall where
  manifest : EffectManifest
  adapter : AdapterIdentity

def recoveryProbe (manifest : EffectManifest) : CommitResult where
  success := true
  idempotencyKey := manifest.idempotencyKey
  providerReference := none
  detail := some "ambiguous-outcome recovery probe"
  afterStateDigest := none

def recoveryRecord (manifest : EffectManifest) (proof : OutcomeProof) : AuditRecord where
  eventType := "effect.ambiguous_recovery_probe"
  decision := if proof.matchedExpected then "evidence_found" else "no_evidence_found"
  manifestId := some manifest.manifestId
  manifestHash := some (manifest.canonicalHash context.crypto)
  grantId := none
  actorId := some manifest.actor.principalId
  fromState := none
  toState := none
  metadata := [("detail", clipped (orElse proof.detail "") 200)]

def confirmRecovered (idempotencyKey outcomeRef : String) : Action Unit :=
  if context.hasOutboxStore then do
    let pending ← perform (.outbox (.get idempotencyKey))
    if pending.map OutboxEntry.status = some .pending then
      perform (.outbox (.markConfirmed idempotencyKey outcomeRef))
    else pure ()
  else pure ()

/-- Only a manifest whose current state allows it becomes RECOVERED_COMMITTED. -/
def reconcile (manifest : EffectManifest) (outcomeRef : String) : Action Unit := do
  let record ← getRecord context manifest.manifestId
  if LifecycleState.isLegalTransition record.state .recoveredCommitted then do
    let _ ← transition context manifest.manifestId .recoveredCommitted {
      eventType := "effect.ambiguous_recovery_confirmed"
      manifestHash := some (manifest.canonicalHash context.crypto)
      grantId := none
      actorId := some manifest.actor.principalId
      metadata := [("outcome_ref", clipped outcomeRef 200)] }
    pure ()
  else pure ()

/-- Backfill the ledger and the outbox, then reconcile the lifecycle. -/
def recordRecovered (manifest : EffectManifest) (proof : OutcomeProof) : Action OutcomeProof := do
  let outcomeRef := orElse proof.observedAfterStateDigest "recovered-externally"
  perform (.grants (.recordIdempotentOutcome manifest.idempotencyKey outcomeRef))
  confirmRecovered context manifest.idempotencyKey outcomeRef
  reconcile context manifest outcomeRef
  pure proof

def recoverAmbiguousCommit (call : RecoveryCall) : Action OutcomeProof := do
  let proof ← perform (.adapter call.adapter (.verify call.manifest (recoveryProbe call.manifest)))
  perform (.audit (recoveryRecord context call.manifest proof))
  if proof.matchedExpected then recordRecovered context call.manifest proof
  else pure proof

/-! ### Revocation -/

/-- The arguments of `revoke`. -/
structure RevokeCall where
  grant : ExecutionGrant
  manifestId : String
  revokedBy : Principal

def revokePastSafepoint (call : RevokeCall) (state : LifecycleState) : AuditRecord where
  eventType := "grant.revoke_requested_past_safepoint"
  decision := "grant_marked_revoked_effect_unaffected"
  manifestId := some call.manifestId
  manifestHash := none
  grantId := some call.grant.grantId
  actorId := some call.revokedBy.principalId
  fromState := some state.value
  toState := some state.value
  metadata := []

def revoke (call : RevokeCall) : Action Bool := do
  perform (.grants (.revoke call.grant.grantId))
  let record ← getRecord context call.manifestId
  if LifecycleState.isRevocable record.state then do
    let _ ← transition context call.manifestId .revoked {
      eventType := "grant.revoked"
      manifestHash := none
      grantId := some call.grant.grantId
      actorId := some call.revokedBy.principalId
      metadata := [] }
    pure true
  else do
    perform (.audit (revokePastSafepoint call record.state))
    pure false

/-! ### Compensation -/

/-- The arguments of `commit_compensation`. -/
structure CompensationCall where
  original : SealedManifest
  compensation : SealedManifest
  grant : ExecutionGrant
  adapter : AdapterIdentity
  originalCommit : CommitResult
  policyBundle : Option SealedPolicyBundle

def originalHashParam : String := "original_manifest_hash"

/-- The bound original hash of a compensation manifest. -/
def originalManifestHashOf (manifest : EffectManifest) : Except PyError String :=
  match manifest.parameters.get originalHashParam with
  | some (.text digest) =>
      if isDigest digest then .ok digest
      else .error ⟨.compensationBinding, originalHashParam ++ " must be a sha256:<hex> digest"⟩
  | _ => .error ⟨.compensationBinding, "compensation manifest " ++ manifest.manifestId ++
      " is missing parameters[" ++ pyRepr originalHashParam ++ "]"⟩

def assertCompensationBindsOriginal (crypto : CryptoPrimitives)
    (compensation original : SealedManifest) : Except PyError Unit := do
  compensation.verifyIntegrity crypto
  original.verifyIntegrity crypto
  let bound ← originalManifestHashOf compensation.manifest
  if bound ≠ original.seal.manifestHash then
    .error ⟨.compensationBinding, "compensation manifest " ++
      compensation.manifest.manifestId ++ " is bound to " ++ bound ++
      ", but original sealed hash is " ++ original.seal.manifestHash⟩
  else if compensation.manifest.parentManifestId ≠ none ∧
      compensation.manifest.parentManifestId ≠ some original.manifest.manifestId then
    .error ⟨.compensationBinding, "compensation parent_manifest_id " ++
      pyReprOption compensation.manifest.parentManifestId ++ " does not match original " ++
      pyRepr original.manifest.manifestId⟩
  else .ok ()

namespace CompensationCall

variable (call : CompensationCall)

/-- The compensation manifest with its grant, as the gates of a commit see them. -/
def asCommit : CommitCall where
  sealed := call.compensation
  grant := call.grant
  adapter := call.adapter
  policyBundle := call.policyBundle
  decisionEnvelope := none
  causalGraph := none

def originalId : String := call.original.manifest.manifestId

def compensationId : String := call.compensation.manifest.manifestId

/-- The note of a transition of the original manifest. -/
def originalNote (eventType : String) (metadata : List (String × String)) : TransitionNote where
  eventType := eventType
  manifestHash := some call.original.seal.manifestHash
  grantId := some call.grant.grantId
  actorId := some call.compensation.manifest.actor.principalId
  metadata := metadata

end CompensationCall

variable (call : CompensationCall)

/-- Only a binding error is audited; a tampered seal propagates as it is. -/
def bindingGate : Action Unit :=
  match assertCompensationBindsOriginal context.crypto call.compensation call.original with
  | .ok _ => pure ()
  | .error error =>
      if error.kind = .compensationBinding then
        deny call.asCommit "compensation.binding_failed_at_commit" "blocked" error
      else .raised error

def compensationSealGate : Action Unit :=
  match verifySeal context.crypto call.compensation context.keyring with
  | .ok _ => do
      let now ← perform .now
      checked call.asCommit "compensation.verification_failed"
        (verifyGrant context.crypto call.grant context.keyring now context.clockSkew)
  | .error error =>
      checked call.asCommit "compensation.verification_failed" (.error error)

def compensationManifestGate : Action Unit :=
  if call.grant.manifestHash ≠ some call.compensation.seal.manifestHash then
    deny call.asCommit "compensation.grant_manifest_mismatch" "blocked_manifest_mismatch"
      ⟨.grantManifestMismatch, "grant " ++ call.grant.grantId ++
        " is bound to a different compensation manifest"⟩
  else pure ()

def compensationPolicyGate : Action Unit :=
  match call.grant.policyBundleHash, call.policyBundle with
  | none, _ => pure ()
  | some bound, none =>
      deny call.asCommit "policy_bundle.missing_at_commit" "blocked_policy_bundle_missing"
        ⟨.policyBundleMismatch, "grant " ++ call.grant.grantId ++ " requires policy bundle " ++
          bound ++ " at compensation commit"⟩
  | some bound, some bundle => do
      let now ← perform .now
      checked call.asCommit "policy_bundle.verification_failed"
        (verifyPolicyBundle context.crypto bundle context.keyring now none)
      if bundle.seal.bundleHash ≠ bound then
        deny call.asCommit "policy_bundle.mismatch" "blocked_policy_bundle_mismatch"
          ⟨.policyBundleMismatch, "grant " ++ call.grant.grantId ++
            " is bound to policy bundle " ++ bound ++
            ", but a different bundle was presented"⟩
      else pure ()

def compensationAudienceGate : Action Unit :=
  if call.adapter.adapterId ∉ call.grant.audience then
    deny call.asCommit "grant.audience_mismatch" "blocked_adapter_not_in_audience"
      ⟨.grantAudience, "adapter " ++ pyRepr call.adapter.adapterId ++
        " is not in grant audience " ++ pyReprTuple call.grant.audience⟩
  else pure ()

def compensationIdentityGate : Action Unit :=
  if call.original.manifest.adapter.adapterId ≠ call.adapter.adapterId ∨
      call.original.manifest.adapter.adapterVersion ≠ call.adapter.adapterVersion then
    deny call.asCommit "adapter.identity_mismatch" "blocked_adapter_identity_mismatch"
      ⟨.adapterMismatch,
        "compensation adapter identity does not match the original effect's adapter"⟩
  else pure ()

/-- The adapter must be trusted; its declared effect types are not consulted. -/
def compensationRegistryGate : Action Unit :=
  if context.hasAdapterRegistry then do
    let entry ← perform (.lookupAdapter call.adapter.adapterId call.adapter.adapterVersion)
    match requireTrusted call.adapter.adapterId call.adapter.adapterVersion entry with
    | .ok _ => pure ()
    | .error error =>
        deny call.asCommit "adapter.untrusted" "blocked_untrusted_adapter" error
  else pure ()

def compensationReserve : Action Unit := do
  if ← perform (.grants (.reserve call.grant.grantId call.grant.maxUses)) then pure ()
  else
    deny call.asCommit "grant.reservation_failed" "blocked_exhausted_or_inflight"
      ⟨.grantExhausted, "grant " ++ call.grant.grantId ++ " has no available uses"⟩

def compensationGates : Action Unit := do
  .settle (verifySeal context.crypto call.original context.keyring)
  bindingGate context call
  compensationSealGate context call
  compensationManifestGate call
  compensationPolicyGate context call
  compensationAudienceGate call
  compensationIdentityGate call
  compensationRegistryGate context call
  effectTypeGate call.asCommit
  revocationGate call.asCommit
  compensationReserve call

/-- A verified original is moved to COMPENSATING first. -/
def enterCompensating (originalState : LifecycleState) : Action Unit :=
  if originalState = .verified then
    (transition context call.originalId .compensating
      (call.originalNote "effect.compensating_authorized"
        [("compensation_manifest_id", call.compensationId),
          ("compensation_manifest_hash", call.compensation.seal.manifestHash)])).attempt (fun
        | .ok _ => pure ()
        | .error error => do
            perform (.grants (.release call.grant.grantId))
            .raised error)
  else pure ()

/-- The outcome reference tells success from failure, but the grant use is
finalized under the idempotency key either way. -/
def compensationOutcomeRef (succeeded : Bool) : String :=
  "compensation:" ++ call.compensationId ++ ":" ++ (if succeeded then "ok" else "fail")

def performCompensation : Action CompensationResult := do
  let _ ← transition context call.compensationId .committing
    (call.asCommit.note "compensation.committing" [])
  let result ← perform
    (.adapter call.adapter (.compensate call.original.manifest call.originalCommit))
  perform (.grants (.commit call.grant.grantId call.compensation.manifest.idempotencyKey
    (compensationOutcomeRef call result.succeeded)))
  pure result

def pyBool (flag : Bool) : String := if flag then "True" else "False"

def settleOriginal (originalState : LifecycleState) (result : CompensationResult) :
    Action Unit := do
  if result.succeeded then
    let _ ← transition context call.originalId .compensated
      (call.originalNote "effect.compensation_committed"
        [("compensation_manifest_id", call.compensationId),
          ("provider_reference", compensationOutcomeRef call true)])
    pure ()
  else if originalState = .verified then
    let _ ← transition context call.originalId .failed
      (call.originalNote "effect.compensation_failed"
        [("compensation_manifest_id", call.compensationId),
          ("attempted", pyBool result.attempted),
          ("reason", clipped (orElse result.reason "") 200)])
    pure ()
  else pure ()

def settleCompensation (originalState : LifecycleState) (result : CompensationResult) :
    Action CommitResult := do
  let _ ← transition context call.compensationId
    (if result.succeeded then .committed else .failed)
    (call.asCommit.note "compensation.commit_result"
      [("attempted", pyBool result.attempted), ("succeeded", pyBool result.succeeded),
        ("reason", clipped (orElse result.reason "") 200)])
  settleOriginal context call originalState result
  pure {
    success := result.succeeded
    idempotencyKey := call.compensation.manifest.idempotencyKey
    providerReference := some (compensationOutcomeRef call result.succeeded)
    detail := if orElse result.reason "" = "" then result.detail else result.reason
    afterStateDigest := none }

def commitCompensation : Action CommitResult := do
  compensationGates context call
  let original ← getRecord context call.originalId
  enterCompensating context call original.state
  (performCompensation context call).attempt (fun
    | .ok result => settleCompensation context call original.state result
    | .error error => do
        perform (.grants (.release call.grant.grantId))
        let _ ← transition context call.compensationId .failed
          (call.asCommit.note "compensation.commit_error" [("error", error.kind.name)])
        .raised error)

end KarmaSakshi.Engine
