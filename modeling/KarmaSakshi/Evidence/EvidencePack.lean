import KarmaSakshi.Evidence.Passports

/-!
Portable evidence packs: how one is assembled, and how it is verified offline.

The verifier uses nothing but the pack.  Every check notes a reason when it fails, and
the verdict is the conjunction of the checks.
-/

namespace KarmaSakshi.Evidence

open KarmaSakshi.Domain KarmaSakshi.Engine

set_option autoImplicit false

/-! ### The pack -/

/-- A public key copied out of a keyring. -/
structure EmbeddedVerificationKey where
  keyId : String
  publicKeyB64 : String
  keyIdBounded : boundedText 128 keyId
  publicKeyNonempty : publicKeyB64 ≠ ""

/-- Format `evidence_pack.v1`, whose only schema version is `1.0`. -/
structure EvidencePack where
  generatedAt : Instant
  packHash : String
  manifestId : String
  passport : ActionPassportV2
  sealedManifest : SealedManifest
  grant : Option ExecutionGrant
  auditEvents : List AuditEvent
  verificationKeys : List EmbeddedVerificationKey
  manifestIdBounded : boundedText 256 manifestId

/-- The library functions behind packs: the digest of a pack, base64, and the loading of
raw public keys. -/
structure PackPrimitives extends PassportPrimitives where
  packDigest : EvidencePack → String
  decodeBase64 : String → Option String
  encodeBase64 : String → String
  isRawPublicKey : String → Bool

variable (primitives : PackPrimitives)

/-- The payload leaves the time and the hash itself out. -/
def EvidencePack.computePackHash (pack : EvidencePack) : String :=
  primitives.packDigest { pack with generatedAt := 0, packHash := "" }

/-! ### Events of a pack -/

/-- The loop of `verify_event_self_consistency`, from the sequence of the event before. -/
def verifyConsistencyFrom (audit : AuditPrimitives) (previousSequence : Option Int) :
    List AuditEvent → Except PyError Unit
  | [] => .ok ()
  | event :: rest =>
      if ∃ previous ∈ previousSequence, event.sequence ≤ previous then
        .error ⟨.auditTampered, "audit event sequence " ++ toString event.sequence ++
          " is not strictly greater than the previous embedded event's sequence " ++
          toString (previousSequence.getD 0)⟩
      else do
        let recomputed ← computeEventHash audit event
        if recomputed ≠ event.eventHash then
          .error ⟨.auditTampered, "audit event " ++ event.eventId ++ " (sequence " ++
            toString event.sequence ++
            ") was tampered with: recomputed hash does not match stored hash"⟩
        else verifyConsistencyFrom audit (some event.sequence) rest

def verifyEventSelfConsistency (audit : AuditPrimitives) (events : List AuditEvent) :
    Except PyError Unit :=
  verifyConsistencyFrom audit none events

/-! ### Assembly -/

def maxEmbeddedAuditEvents : Nat := 10000

def maxEmbeddedKeys : Nat := 256

/-- The arguments of `build_evidence_pack`, with the events of its journal, the keys of its
keyring in order of their ids, and the time of its clock. -/
structure PackRequest where
  passport : ActionPassportV2
  sealedManifest : SealedManifest
  audit : List AuditEvent
  keys : List VerificationKey
  grant : Option ExecutionGrant
  now : Instant

namespace PackRequest

variable (request : PackRequest)

def manifestId : String := request.sealedManifest.manifest.manifestId

/-- `events_for_manifest`. -/
def events : List AuditEvent :=
  request.audit.filter (fun event => event.manifestId = some request.manifestId)

end PackRequest

def embeddedKey (key : VerificationKey) : Except PyError EmbeddedVerificationKey :=
  if keyIdBounded : boundedText 128 key.keyId then
    if publicKeyNonempty : primitives.encodeBase64 key.publicKey ≠ "" then
      .ok { keyId := key.keyId, publicKeyB64 := primitives.encodeBase64 key.publicKey
            keyIdBounded, publicKeyNonempty }
    else .error ⟨.validationError, "public_key_b64 must not be empty"⟩
  else .error ⟨.validationError, "key_id must be 1-128 chars"⟩

theorem manifest_id_fits (manifest : EffectManifest) : boundedText 256 manifest.manifestId :=
  ⟨manifest.manifestIdBounded.1, manifest.manifestIdBounded.2.trans (by decide)⟩

def buildEvidencePack (request : PackRequest) : Except PyError EvidencePack :=
  let sealedHash := request.sealedManifest.seal.manifestHash
  if request.passport.manifestId ≠ request.manifestId then
    .error ⟨.evidencePackAssembly, "passport.manifest_id (" ++
      pyRepr request.passport.manifestId ++
      ") does not match sealed_manifest.manifest.manifest_id (" ++ pyRepr request.manifestId ++
      ")"⟩
  else if ∃ grant ∈ request.grant, ∃ hash ∈ grant.manifestHash, hash ≠ sealedHash then
    .error ⟨.evidencePackAssembly, "grant.manifest_hash (" ++
      pyReprOption (request.grant.bind ExecutionGrant.manifestHash) ++
      ") does not match the sealed manifest hash (" ++ pyRepr sealedHash ++ ")"⟩
  else if maxEmbeddedAuditEvents < request.events.length then
    .error ⟨.evidencePackTooLarge, "manifest " ++ request.manifestId ++ " has " ++
      toString request.events.length ++ " audit events; an evidence pack embeds at most " ++
      toString maxEmbeddedAuditEvents⟩
  else if maxEmbeddedKeys < request.keys.length then
    .error ⟨.evidencePackTooLarge, "keyring has " ++ toString request.keys.length ++
      " keys; an evidence pack embeds at most " ++ toString maxEmbeddedKeys⟩
  else do
    let verificationKeys ← request.keys.mapM (embeddedKey primitives)
    let draft : EvidencePack := {
      generatedAt := request.now
      packHash := placeholderHash
      manifestId := request.manifestId
      passport := request.passport
      sealedManifest := request.sealedManifest
      grant := request.grant
      auditEvents := request.events
      verificationKeys
      manifestIdBounded := manifest_id_fits request.sealedManifest.manifest }
    .ok { draft with packHash := draft.computePackHash primitives }

/-! ### Verification -/

/-- `VerificationKey.from_public_b64`. -/
def verificationKeyFromPublicB64 (keyId publicB64 : String) : Except PyError VerificationKey :=
  match primitives.decodeBase64 publicB64 with
  | none => .error ⟨.keyLoad, "public key is not valid base64"⟩
  | some raw =>
      if primitives.isRawPublicKey raw then .ok ⟨keyId, raw⟩
      else .error ⟨.other "ValueError", "An Ed25519 public key is 32 bytes long"⟩

/-- `Keyring(keys)`: the last key under an id stays. -/
def Keyring.ofKeys (keys : List VerificationKey) : Keyring :=
  ⟨fun keyId => keys.reverse.find? (fun key => key.keyId = keyId)⟩

def embeddedKeyring (pack : EvidencePack) : Except PyError Keyring := do
  let keys ← pack.verificationKeys.mapM (fun key =>
    verificationKeyFromPublicB64 primitives key.keyId key.publicKeyB64)
  .ok (Keyring.ofKeys keys)

structure EvidencePackVerificationResult where
  packHashVerified : Bool
  passportHashVerified : Bool
  sealVerified : Bool
  grantVerified : Bool
  auditEventsSelfConsistent : Bool
  auditEventsMatchManifest : Bool
  manifestHashConsistent : Bool
  allVerified : Bool
  reasons : List String

/-- A check inside `try ... except KarmaSakshiError`: whether it passed, and its reason. -/
def reported (label : String) (check : Except PyError Unit) : Except PyError (Bool × List String) :=
  match check with
  | .ok _ => .ok (true, [])
  | .error error =>
      if error.isKarmaSakshi then .ok (false, [label ++ ": " ++ error.message]) else .error error

/-- A comparison whose failure is noted as it is. -/
def compared (holds : Bool) (reason : String) : Bool × List String :=
  (holds, if holds then [] else [reason])

/-- `except (KarmaSakshiError, ValueError)` around the embedded keys. -/
def parsedKeyring (pack : EvidencePack) : Except PyError (Option Keyring × List String) :=
  match embeddedKeyring primitives pack with
  | .ok keyring => .ok (some keyring, [])
  | .error error =>
      if error.isKarmaSakshi ∨ error.kind = .other "ValueError" then
        .ok (none, ["verification_keys: " ++ error.message])
      else .error error

def reportedSeal (pack : EvidencePack) (keyring : Option Keyring) :
    Except PyError (Bool × List String) :=
  match keyring with
  | some keyring => reported "seal" (verifySeal primitives.crypto pack.sealedManifest keyring)
  | none =>
      .ok (false, ["seal: cannot verify, embedded verification_keys were unparseable"])

def reportedGrant (pack : EvidencePack) (keyring : Option Keyring) :
    Except PyError (Bool × List String) :=
  match pack.grant, keyring with
  | none, _ => .ok (true, [])
  | some grant, some keyring =>
      reported "grant" (verifyGrantSignature primitives.crypto grant keyring)
  | some _, none => .ok (false, [])

namespace EvidencePack

variable (pack : EvidencePack)

/-- Only the events that name a manifest are compared. -/
def auditEventsMatchManifest : Bool :=
  (pack.auditEvents.filterMap AuditEvent.manifestId).all (fun manifestId =>
    manifestId = pack.manifestId)

/-- The passport's hash, and the grant's if it binds one. -/
def manifestHashConsistent : Bool :=
  decide (pack.sealedManifest.seal.manifestHash = pack.passport.manifestHash) &&
    (pack.grant.bind ExecutionGrant.manifestHash).all (fun hash =>
      hash = pack.sealedManifest.seal.manifestHash)

end EvidencePack

def verifyEvidencePack (pack : EvidencePack) : Except PyError EvidencePackVerificationResult := do
  let packHash := compared (pack.computePackHash primitives = pack.packHash)
    "pack_hash: recomputed hash does not match stored pack_hash"
  let passportHash ←
    reported "passport_hash" (pack.passport.verifyPassportHash primitives.toPassportPrimitives)
  let keyring ← parsedKeyring primitives pack
  let seals ← reportedSeal primitives pack keyring.1
  let grants ← reportedGrant primitives pack keyring.1
  let events ←
    reported "audit_events" (verifyEventSelfConsistency primitives.audit pack.auditEvents)
  let matching := compared pack.auditEventsMatchManifest
    "audit_events: contains an event for a different manifest_id"
  let hashes := compared pack.manifestHashConsistent
    ("manifest_hash: sealed manifest, passport, and/or grant reference different manifest hashes")
  .ok {
    packHashVerified := packHash.1
    passportHashVerified := passportHash.1
    sealVerified := seals.1
    grantVerified := grants.1
    auditEventsSelfConsistent := events.1
    auditEventsMatchManifest := matching.1
    manifestHashConsistent := hashes.1
    allVerified := packHash.1 && passportHash.1 && seals.1 && grants.1 && events.1 &&
      matching.1 && hashes.1
    reasons := packHash.2 ++ passportHash.2 ++ keyring.2 ++ (seals.2 ++ grants.2) ++ events.2 ++
      matching.2 ++ hashes.2 }

end KarmaSakshi.Evidence
