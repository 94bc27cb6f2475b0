import KarmaSakshi.Domain.Plan

/-!
Signatures, hashes and the pure verification functions the engine's gates call.

SHA-256 over canonical JSON, base64 decoding and Ed25519 come from libraries
outside the repository, so they are parameters here: `CryptoPrimitives` collects
them, and nothing below assumes anything about them.
-/

namespace KarmaSakshi.Domain

set_option autoImplicit false

/-- The library functions behind hashing and signing.  A digest takes the value
whose canonical JSON is hashed. -/
structure CryptoPrimitives where
  manifestDigest : EffectManifest → String
  grantDigest : ExecutionGrant → String
  policyBundleDigest : PolicyBundle → String
  decisionEnvelopeDigest : DecisionEnvelope → String
  causalGraphDigest : CausalEffectGraph → String
  causalLinkPayload : CausalLink → String
  isBase64 : String → Bool
  ed25519Verify : (publicKey data signature : String) → Bool

structure VerificationKey where
  keyId : String
  publicKey : String

/-- The trusted verification keys, indexed by `key_id`. -/
structure Keyring where
  keys : String → Option VerificationKey

variable (crypto : CryptoPrimitives)

def VerificationKey.verify (key : VerificationKey) (data signature : String) :
    Except PyError Unit :=
  if !crypto.isBase64 signature then
    .error ⟨.invalidSignature, "signature is not valid base64"⟩
  else if !crypto.ed25519Verify key.publicKey data signature then
    .error ⟨.invalidSignature,
      "signature verification failed for key_id=" ++ pyRepr key.keyId⟩
  else .ok ()

def Keyring.verify (keyring : Keyring) (keyId data signature : String) : Except PyError Unit :=
  match keyring.keys keyId with
  | none => .error ⟨.unknownKey, "unknown or revoked key_id: " ++ pyRepr keyId⟩
  | some key => key.verify crypto data signature

/-! ### Canonical hashes -/

def EffectManifest.canonicalHash (manifest : EffectManifest) : String :=
  crypto.manifestDigest manifest

/-- The hash of the signing payload, which leaves the signature out. -/
def ExecutionGrant.canonicalHash (grant : ExecutionGrant) : String :=
  crypto.grantDigest { grant with signature := none }

def PolicyBundle.canonicalHash (bundle : PolicyBundle) : String :=
  crypto.policyBundleDigest bundle

def DecisionEnvelope.canonicalHash (envelope : DecisionEnvelope) : String :=
  crypto.decisionEnvelopeDigest { envelope with signature := none }

def CausalEffectGraph.canonicalHash (graph : CausalEffectGraph) : String :=
  crypto.causalGraphDigest graph

/-! ### Schema versions -/

/-- `str.isdigit` on ASCII text. -/
private def isDigits (text : List Char) : Bool := !text.isEmpty && text.all Char.isDigit

def parseMajor (schemaVersion : String) : Except PyError String :=
  let malformed : PyError :=
    ⟨.schemaVersion, "malformed schema_version: " ++ pyRepr schemaVersion⟩
  let chars := schemaVersion.toList
  if schemaVersion = "" ∨ '.' ∉ chars then .error malformed
  else
    let major := chars.takeWhile (· ≠ '.')
    let minor := chars.drop (major.length + 1)
    if !isDigits major || !isDigits minor then .error malformed
    else .ok (String.ofList major)

def assertSupportedSchemaVersion (schemaVersion : String) : Except PyError Unit :=
  match parseMajor schemaVersion with
  | .error error => .error error
  | .ok major =>
      if major = "1" then .ok ()
      else .error ⟨.schemaVersion, "unsupported schema_version " ++ pyRepr schemaVersion ++
        ": this build supports major version(s) ['1']"⟩

/-! ### Seals and grants -/

def SealedManifest.verifyIntegrity (sealed : SealedManifest) : Except PyError Unit :=
  let actual := sealed.manifest.canonicalHash crypto
  if actual ≠ sealed.seal.manifestHash then
    .error ⟨.manifestTampered, "manifest " ++ sealed.manifest.manifestId ++
      " hash mismatch: recomputed " ++ actual ++ " != sealed " ++ sealed.seal.manifestHash⟩
  else .ok ()

def verifySeal (sealed : SealedManifest) (keyring : Keyring) : Except PyError Unit := do
  sealed.verifyIntegrity crypto
  keyring.verify crypto sealed.seal.keyId sealed.seal.manifestHash sealed.seal.signature

/-- The only algorithm a grant can carry is `ed25519`, so its check never
refuses and has no counterpart here. -/
def verifyGrantSignature (grant : ExecutionGrant) (keyring : Keyring) : Except PyError Unit := do
  assertSupportedSchemaVersion grant.schemaVersion
  match grant.signature with
  | none => .error ⟨.invalidSignature, "grant " ++ grant.grantId ++ " is unsigned"⟩
  | some signature => keyring.verify crypto grant.keyId (grant.canonicalHash crypto) signature

/-- The tolerance around a grant's window, at most 300 seconds by policy. -/
structure ClockSkewPolicy where
  leewaySeconds : Nat
  bounded : leewaySeconds ≤ 300

def ClockSkewPolicy.leeway (policy : ClockSkewPolicy) : Int :=
  policy.leewaySeconds * microsPerSecond

def verifyGrantTimeWindow (grant : ExecutionGrant) (now : Instant) (skew : ClockSkewPolicy) :
    Except PyError Unit :=
  let observed := " (now=" ++ now.isoformat ++ ", leeway=" ++
    durationText skew.leewaySeconds ++ ")"
  if now < grant.notBefore - skew.leeway then
    .error ⟨.grantNotYetValid, "grant " ++ grant.grantId ++ " is not valid before " ++
      grant.notBefore.isoformat ++ observed⟩
  else if grant.expiresAt + skew.leeway < now then
    .error ⟨.grantExpired, "grant " ++ grant.grantId ++ " expired at " ++
      grant.expiresAt.isoformat ++ observed⟩
  else .ok ()

def verifyGrant (grant : ExecutionGrant) (keyring : Keyring) (now : Instant)
    (skew : ClockSkewPolicy) : Except PyError Unit := do
  verifyGrantSignature crypto grant keyring
  verifyGrantTimeWindow grant now skew

/-! ### Policy bundles and tenants -/

def SealedPolicyBundle.verifyIntegrity (sealed : SealedPolicyBundle) : Except PyError Unit :=
  let actual := sealed.bundle.canonicalHash crypto
  if actual ≠ sealed.seal.bundleHash then
    .error ⟨.policyBundleTampered, "policy bundle " ++ sealed.bundle.bundleId ++
      " hash mismatch: recomputed " ++ actual ++ " != sealed " ++ sealed.seal.bundleHash⟩
  else .ok ()

private def policyWindow (bundle : PolicyBundle) (now : Instant) : Except PyError Unit :=
  if now < bundle.effectiveFrom then
    .error ⟨.policyBundleNotYetEffective, "policy bundle " ++ bundle.bundleId ++
      " is not effective until " ++ bundle.effectiveFrom.isoformat ++
      " (now=" ++ now.isoformat ++ ")"⟩
  else
    match bundle.effectiveUntil with
    | none => .ok ()
    | some ending =>
        if ending ≤ now then
          .error ⟨.policyBundleExpired, "policy bundle " ++ bundle.bundleId ++
            " expired at " ++ ending.isoformat ++ " (now=" ++ now.isoformat ++ ")"⟩
        else .ok ()

/-- `expected` is the optional `expected_policy_type`. -/
def verifyPolicyBundle (sealed : SealedPolicyBundle) (keyring : Keyring) (now : Instant)
    (expected : Option String) : Except PyError Unit := do
  sealed.verifyIntegrity crypto
  keyring.verify crypto sealed.seal.keyId sealed.seal.bundleHash sealed.seal.signature
  match expected with
  | some policyType =>
      if sealed.bundle.policyType ≠ policyType then
        .error ⟨.policyBundleTypeMismatch, "policy bundle " ++ sealed.bundle.bundleId ++
          " has policy_type " ++ pyRepr sealed.bundle.policyType ++ ", expected " ++
          pyRepr policyType⟩
      else policyWindow sealed.bundle now
  | none => policyWindow sealed.bundle now

def assertTenantMatch (expected presented : Option String) (field : String) :
    Except PyError Unit :=
  match expected, presented with
  | none, none => .ok ()
  | some engineTenant, some policyTenant =>
      if engineTenant ≠ policyTenant then
        .error ⟨.tenantIsolation, "cross-tenant access rejected: expected " ++ field ++ "=" ++
          pyRepr engineTenant ++ ", presented " ++ pyRepr policyTenant ++ " (fail closed)"⟩
      else .ok ()
  | _, _ => .error ⟨.tenantIsolation, field ++
      " mismatch under tenant uncertainty (expected=" ++ pyReprOption expected ++
      ", presented=" ++ pyReprOption presented ++ "); fail closed"⟩

def bindEngineAndPolicyTenant (engineTenantId policyTenantId : Option String) :
    Except PyError Unit :=
  assertTenantMatch engineTenantId policyTenantId "policy_bundle.tenant_id"

/-! ### Envelopes and plans -/

private def envelopeWindow (envelope : DecisionEnvelope) (now : Instant) : Except PyError Unit :=
  if now < envelope.notBefore then
    .error ⟨.decisionEnvelopeNotYetValid, "decision envelope " ++ envelope.envelopeId ++
      " is not valid before " ++ envelope.notBefore.isoformat ++
      " (now=" ++ now.isoformat ++ ")"⟩
  else if envelope.expiresAt ≤ now then
    .error ⟨.decisionEnvelopeExpired, "decision envelope " ++ envelope.envelopeId ++
      " expired at " ++ envelope.expiresAt.isoformat ++ " (now=" ++ now.isoformat ++ ")"⟩
  else .ok ()

def verifyDecisionEnvelope (envelope : DecisionEnvelope) (keyring : Keyring) (now : Instant) :
    Except PyError Unit :=
  match envelope.signature with
  | none => .error ⟨.invalidSignature,
      "decision envelope " ++ envelope.envelopeId ++ " is unsigned"⟩
  | some signature => do
      keyring.verify crypto envelope.keyId (envelope.canonicalHash crypto) signature
      envelopeWindow envelope now

/-- The signed bytes of a link are its canonical JSON without the signature. -/
def verifyCausalLink (link : CausalLink) (keyring : Keyring) : Except PyError Unit :=
  keyring.verify crypto link.keyId (crypto.causalLinkPayload { link with signature := "" })
    link.signature

def CausalEffectGraph.verify (graph : CausalEffectGraph) (keyring : Keyring) :
    Except PyError Unit :=
  graph.links.forM (fun link => verifyCausalLink crypto link keyring)

def requireMatchingPlanHash (graph : CausalEffectGraph) (expectedHash : String) :
    Except PyError Unit :=
  let actual := graph.canonicalHash crypto
  if actual ≠ expectedHash then
    .error ⟨.atomicPlan, "causal graph hash mismatch: recomputed " ++ actual ++
      " != expected " ++ expectedHash⟩
  else .ok ()

def assertManifestInPlan (manifestHash : String) (graph : CausalEffectGraph)
    (keyring : Keyring) : Except PyError Unit :=
  match graph.verify crypto keyring with
  | .error error => .error ⟨.atomicPlan, "causal graph " ++ graph.graphId ++
      " failed verification: " ++ error.message⟩
  | .ok _ =>
      if manifestHash ∉ graph.nodeManifestHashes then
        .error ⟨.atomicPlan, "manifest hash " ++ manifestHash ++
          " is not a node of causal graph " ++ graph.graphId ++
          " (atomic plan authorization requires membership)"⟩
      else .ok ()

/-! ### What a passed check says -/

variable {crypto}

/-- A sequence of checks passes when both parts do. -/
theorem check_then_ok {first second : Except PyError Unit} :
    (do first; second) = .ok () ↔ first = .ok () ∧ second = .ok () := by
  cases first with
  | error error => simp [bind, Except.bind]
  | ok done => cases done; simp [bind, Except.bind]

theorem verify_integrity_hash {signed : SealedManifest}
    (intact : signed.verifyIntegrity crypto = .ok ()) :
    signed.manifest.canonicalHash crypto = signed.seal.manifestHash := by
  unfold SealedManifest.verifyIntegrity at intact
  by_contra differs
  simp [differs] at intact

theorem grant_window_open {grant : ExecutionGrant} {now : Instant} {skew : ClockSkewPolicy}
    (within : verifyGrantTimeWindow grant now skew = .ok ()) :
    grant.notBefore - skew.leeway ≤ now ∧ now ≤ grant.expiresAt + skew.leeway := by
  unfold verifyGrantTimeWindow at within
  by_cases early : now < grant.notBefore - skew.leeway
  · simp [early] at within
  · by_cases late : grant.expiresAt + skew.leeway < now
    · simp [early, late] at within
    · exact ⟨not_lt.mp early, not_lt.mp late⟩

theorem grant_window_passes {grant : ExecutionGrant} {now : Instant} {skew : ClockSkewPolicy}
    (started : grant.notBefore - skew.leeway ≤ now) (running : now ≤ grant.expiresAt + skew.leeway) :
    verifyGrantTimeWindow grant now skew = .ok () := by
  simp [verifyGrantTimeWindow, not_lt.mpr started, not_lt.mpr running]

theorem policy_bundle_hash {presented : SealedPolicyBundle} {keyring : Keyring} {now : Instant}
    {expected : Option String}
    (verified : verifyPolicyBundle crypto presented keyring now expected = .ok ()) :
    presented.bundle.canonicalHash crypto = presented.seal.bundleHash := by
  have intact := (check_then_ok.mp verified).1
  unfold SealedPolicyBundle.verifyIntegrity at intact
  by_contra differs
  simp [differs] at intact

private theorem policy_window_open {bundle : PolicyBundle} {now : Instant} :
    policyWindow bundle now = .ok () ↔
      bundle.effectiveFrom ≤ now ∧ ∀ ending ∈ bundle.effectiveUntil, now < ending := by
  unfold policyWindow
  by_cases early : now < bundle.effectiveFrom
  · simp [early]
  · cases bundle.effectiveUntil with
    | none => simp [early, not_lt.mp early]
    | some ending =>
        by_cases late : ending ≤ now
        · simp [early, late]
        · simp [early, late, not_lt.mp early, not_le.mp late]

/-- A bundle is in force from `effective_from` until just before `effective_until`. -/
theorem policy_bundle_in_force {presented : SealedPolicyBundle} {keyring : Keyring}
    {now : Instant} :
    verifyPolicyBundle crypto presented keyring now none = .ok () ↔
      (presented.verifyIntegrity crypto = .ok () ∧ keyring.verify crypto presented.seal.keyId
        presented.seal.bundleHash presented.seal.signature = .ok ()) ∧
      presented.bundle.effectiveFrom ≤ now ∧
        ∀ ending ∈ presented.bundle.effectiveUntil, now < ending := by
  unfold verifyPolicyBundle
  rw [check_then_ok, check_then_ok, policy_window_open, and_assoc]

private theorem envelope_window_open {envelope : DecisionEnvelope} {now : Instant} :
    envelopeWindow envelope now = .ok () ↔
      envelope.notBefore ≤ now ∧ now < envelope.expiresAt := by
  unfold envelopeWindow
  by_cases early : now < envelope.notBefore
  · simp [early]
  · by_cases late : envelope.expiresAt ≤ now
    · simp [early, late]
    · simp [early, late, not_lt.mp early, not_le.mp late]

/-- An envelope is in force from `not_before` until just before `expires_at`. -/
theorem envelope_in_force {envelope : DecisionEnvelope} {keyring : Keyring} {now : Instant} :
    verifyDecisionEnvelope crypto envelope keyring now = .ok () ↔
      (∃ signature, envelope.signature = some signature ∧ keyring.verify crypto envelope.keyId
        (envelope.canonicalHash crypto) signature = .ok ()) ∧
      envelope.notBefore ≤ now ∧ now < envelope.expiresAt := by
  unfold verifyDecisionEnvelope
  cases envelope.signature with
  | none => simp
  | some signature =>
      dsimp only
      rw [check_then_ok, envelope_window_open]
      simp only [Option.some.injEq, exists_eq_left']

theorem plan_hash {graph : CausalEffectGraph} {expected : String}
    (matching : requireMatchingPlanHash crypto graph expected = .ok ()) :
    graph.canonicalHash crypto = expected := by
  unfold requireMatchingPlanHash at matching
  by_contra differs
  simp [differs] at matching

theorem plan_member {graph : CausalEffectGraph} {keyring : Keyring} {manifestHash : String}
    (member : assertManifestInPlan crypto manifestHash graph keyring = .ok ()) :
    graph.verify crypto keyring = .ok () ∧ manifestHash ∈ graph.nodeManifestHashes := by
  unfold assertManifestInPlan at member
  cases verified : graph.verify crypto keyring with
  | error error => simp [verified] at member
  | ok done =>
      by_cases node : manifestHash ∈ graph.nodeManifestHashes
      · exact ⟨rfl, node⟩
      · simp [verified, node] at member

end KarmaSakshi.Domain
