import KarmaSakshi.Domain.AuditEvents
import KarmaSakshi.Domain.CausalGraph
import KarmaSakshi.Domain.Duty
import KarmaSakshi.Engine.Recovery

/-!
Action passports, in both versions, and compensation passports.

A builder reads what a run has left behind: the sealed manifest, the grant, the results
of the adapter and the audit journal.  The checks it repeats end as flags; an exception
outside the protocol's own hierarchy ends the build.
-/

namespace KarmaSakshi.Evidence

open KarmaSakshi.Domain KarmaSakshi.Engine

set_option autoImplicit false

/-! ### What a builder reads -/

inductive RiskLevel : Type where
  | low
  | medium
  | high
  | critical

def RiskLevel.value : RiskLevel → String
  | low => "low"
  | medium => "medium"
  | high => "high"
  | critical => "critical"

inductive Recommendation : Type where
  | allow
  | review
  | block

def Recommendation.value : Recommendation → String
  | allow => "allow"
  | review => "review"
  | block => "block"

/-- The fields of an effect assessment that a passport copies. -/
structure EffectAssessment where
  assessmentId : String
  policyId : String
  policyHash : String
  score : Nat
  riskLevel : RiskLevel
  recommendation : Recommendation
  requiredHumanApprovals : Nat
  explanation : String

/-- The arguments of `build_passport`, with the events of its journal, the revocations of
its grant store and the time of its clock. -/
structure PassportRun where
  «sealed» : SealedManifest
  keyring : Keyring
  audit : List AuditEvent
  lifecycleState : String
  grant : Option ExecutionGrant
  grantStore : Option (String → Bool)
  commitResult : Option CommitResult
  outcomeProof : Option OutcomeProof
  compensationResult : Option CompensationResult
  assessment : Option EffectAssessment
  roleAssignment : Option RoleAssignment
  causalGraph : Option CausalEffectGraph
  compensationManifestHash : Option String
  compensationPassportStatus : Option String
  witnessSetHash : Option String
  witnessPolicyHash : Option String
  witnessQuorumSatisfied : Option Bool
  acceptedWitnessIds : List String
  evidenceSetHash : Option String
  evidencePolicyHash : Option String
  evidenceAcceptable : Option Bool
  evidenceStrongestKind : Option String
  now : Instant

/-! ### The passports -/

structure PassportVerificationStatus where
  sealVerified : Bool
  grantVerified : Bool
  auditChainVerified : Bool
  detail : Option String

/-- The facts that both versions of a passport carry. -/
structure PassportFacts where
  generatedAt : Instant
  manifestId : String
  manifestHash : String
  effectType : String
  actor : Principal
  principal : Principal
  targetResource : String
  proposedParameters : Dict ParameterValue
  risk : RiskClassification
  reversibility : ReversibilityClassification
  grantId : Option String
  authorizedBy : Option Principal
  authorizationValidFrom : Option Instant
  authorizationValidUntil : Option Instant
  authorizationPolicyBundleHash : Option String
  authorizationApprovalSetHash : Option String
  authorizationDecisionEnvelopeHash : Option String
  authorizationCausalGraphHash : Option String
  wasRevoked : Bool
  roleParticipation : Option (Dict String)
  causalGraphId : Option String
  causalGraphHash : Option String
  causalAncestorManifestHashes : List String
  causalGraphVerified : Option Bool
  commitAttempted : Bool
  commitSuccess : Option Bool
  providerReference : Option String
  commitDetail : Option String
  observedMatchedExpected : Option Bool
  observedAfterStateDigest : Option String
  observationDetail : Option String
  witnessSetHash : Option String
  witnessPolicyHash : Option String
  witnessQuorumSatisfied : Option Bool
  acceptedWitnessIds : List String
  evidenceSetHash : Option String
  evidencePolicyHash : Option String
  evidenceAcceptable : Option Bool
  evidenceStrongestKind : Option String
  compensationAttempted : Option Bool
  compensationSucceeded : Option Bool
  compensationReason : Option String
  compensationManifestHash : Option String
  compensationPassportStatus : Option String
  assessmentId : Option String
  assessmentScore : Option Nat
  assessmentRiskLevel : Option String
  assessmentRecommendation : Option String
  assessmentPolicyId : Option String
  assessmentPolicyHash : Option String
  assessmentRequiredHumanApprovals : Option Nat
  assessmentExplanation : Option String
  lifecycleState : String
  verification : PassportVerificationStatus

structure ActionPassport extends PassportFacts where
  schemaVersion : String

inductive OutcomeStatus : Type where
  | authorizedNotCommitted
  | committedUnverified
  | verifiedMatch
  | verifiedMismatch
  | ambiguous
  | compensationAttempted
  | compensationVerified
  | failed
  | revoked
  | unknown
  deriving DecidableEq

/-- Format `action_passport.v2`, whose only schema version is `2.0`. -/
structure ActionPassportV2 extends PassportFacts where
  passportHash : String
  outcomeStatus : OutcomeStatus
  tenantId : Option String

/-- The library functions behind signatures, event hashes and the hash of a passport. -/
structure PassportPrimitives where
  crypto : CryptoPrimitives
  audit : AuditPrimitives
  passportDigest : ActionPassportV2 → String

end KarmaSakshi.Evidence

namespace KarmaSakshi.Domain.RoleAssignment

set_option autoImplicit false

def asRoleParticipation (assignment : RoleAssignment) : Dict String :=
  Dict.ofItems (((sortedEntries assignment.assignments).map Prod.fst).eraseDups.map (fun role =>
    (role.value, String.intercalate "," (assignment.principalsFor role))))

end KarmaSakshi.Domain.RoleAssignment

namespace KarmaSakshi.Evidence

open KarmaSakshi.Domain KarmaSakshi.Engine

/-! ### The builder of version 1 -/

/-- `(detail + "; " if detail else "") + message`. -/
def noted (detail : Option String) (message : String) : Option String :=
  some ((if orElse detail "" = "" then "" else orElse detail "" ++ "; ") ++ message)

/-- A check inside `try ... except KarmaSakshiError`: whether it passed, and the detail. -/
def rechecked (check : Except PyError Unit) (detail : Option String) :
    Except PyError (Bool × Option String) :=
  match check with
  | .ok _ => .ok (true, detail)
  | .error error =>
      if error.isKarmaSakshi then .ok (false, noted detail error.message) else .error error

/-- The signature of a grant, if there is one; no grant passes. -/
def recheckedGrant (crypto : CryptoPrimitives) (grant : Option ExecutionGrant) (keyring : Keyring)
    (detail : Option String) : Except PyError (Bool × Option String) :=
  match grant with
  | none => .ok (true, detail)
  | some grant => rechecked (verifyGrantSignature crypto grant keyring) detail

def rolePrefix : String := "role:"

/-- The role of a metadata entry `role:<role>`. -/
def roleOfEntry (entry : String × String) : Option (String × String) :=
  if entry.1.toList.take rolePrefix.length = rolePrefix.toList then
    some (String.ofList (entry.1.toList.drop rolePrefix.length), entry.2)
  else none

/-- `_role_participation_from_audit`: the roles of the last `grant.issued` event. -/
def roleParticipationFromAudit (audit : List AuditEvent) (manifestId : String) :
    Option (Dict String) :=
  match (audit.filter (fun event => event.manifestId = some manifestId)).reverse.find?
      (fun event => event.eventType = "grant.issued") with
  | none => none
  | some event =>
      let roles := Dict.ofItems (event.metadata.entries.filterMap roleOfEntry)
      if roles.entries = [] then none else some roles

/-- What became of the causal graph: its verdict, the ancestors and the detail. -/
def causalStory (crypto : CryptoPrimitives) (run : PassportRun) (detail : Option String) :
    Except PyError (Option Bool × List String × Option String) :=
  match run.causalGraph with
  | none => .ok (none, [], detail)
  | some graph =>
      match graph.verify crypto run.keyring with
      | .error error =>
          if error.isKarmaSakshi then .ok (some false, [], noted detail error.message)
          else .error error
      | .ok _ =>
          match graph.ancestorsOf run.sealed.seal.manifestHash with
          | .ok ancestors => .ok (some true, ancestors, detail)
          | .error error =>
              if error.isKarmaSakshi then .ok (some false, [], noted detail error.message)
              else .error error

def PassportRun.wasRevoked (run : PassportRun) : Bool :=
  match run.grant, run.grantStore with
  | some grant, some isRevoked => isRevoked grant.grantId
  | _, _ => false

def currentSchemaVersion : String := "1.0"

variable (primitives : PassportPrimitives)

/-- Only the hash of the sealed manifest is checked, not its signature. -/
def buildPassport (run : PassportRun) : Except PyError ActionPassport := do
  let (sealVerified, detail) ← rechecked (run.sealed.verifyIntegrity primitives.crypto) none
  let (grantVerified, detail) ← recheckedGrant primitives.crypto run.grant run.keyring detail
  let (auditChainVerified, detail) ← rechecked (verifyEventChain primitives.audit run.audit) detail
  let (causalVerified, causalAncestors, detail) ← causalStory primitives.crypto run detail
  let manifest := run.sealed.manifest
  .ok {
    schemaVersion := currentSchemaVersion
    generatedAt := run.now
    manifestId := manifest.manifestId
    manifestHash := run.sealed.seal.manifestHash
    effectType := manifest.effectType
    actor := manifest.actor
    principal := manifest.principal
    targetResource := manifest.targetResource
    proposedParameters := manifest.parameters
    risk := manifest.risk
    reversibility := manifest.reversibility
    grantId := run.grant.map ExecutionGrant.grantId
    authorizedBy := run.grant.map ExecutionGrant.issuer
    authorizationValidFrom := run.grant.map ExecutionGrant.notBefore
    authorizationValidUntil := run.grant.map ExecutionGrant.expiresAt
    authorizationPolicyBundleHash := run.grant.bind ExecutionGrant.policyBundleHash
    authorizationApprovalSetHash := run.grant.bind ExecutionGrant.approvalSetHash
    authorizationDecisionEnvelopeHash := run.grant.bind ExecutionGrant.decisionEnvelopeHash
    authorizationCausalGraphHash := run.grant.bind ExecutionGrant.causalGraphHash
    wasRevoked := run.wasRevoked
    roleParticipation := match run.roleAssignment with
      | some assignment => some assignment.asRoleParticipation
      | none => roleParticipationFromAudit run.audit manifest.manifestId
    causalGraphId := run.causalGraph.map CausalEffectGraph.graphId
    causalGraphHash := run.causalGraph.map (CausalEffectGraph.canonicalHash primitives.crypto)
    causalAncestorManifestHashes := causalAncestors
    causalGraphVerified := causalVerified
    commitAttempted := run.commitResult.isSome
    commitSuccess := run.commitResult.map CommitResult.success
    providerReference := run.commitResult.bind CommitResult.providerReference
    commitDetail := run.commitResult.bind CommitResult.detail
    observedMatchedExpected := run.outcomeProof.map OutcomeProof.matchedExpected
    observedAfterStateDigest := run.outcomeProof.bind OutcomeProof.observedAfterStateDigest
    observationDetail := run.outcomeProof.bind OutcomeProof.detail
    witnessSetHash := run.witnessSetHash
    witnessPolicyHash := run.witnessPolicyHash
    witnessQuorumSatisfied := run.witnessQuorumSatisfied
    acceptedWitnessIds := run.acceptedWitnessIds
    evidenceSetHash := run.evidenceSetHash
    evidencePolicyHash := run.evidencePolicyHash
    evidenceAcceptable := run.evidenceAcceptable
    evidenceStrongestKind := run.evidenceStrongestKind
    compensationAttempted := run.compensationResult.map CompensationResult.attempted
    compensationSucceeded := run.compensationResult.map CompensationResult.succeeded
    compensationReason := run.compensationResult.bind CompensationResult.reason
    compensationManifestHash := run.compensationManifestHash
    compensationPassportStatus := run.compensationPassportStatus
    assessmentId := run.assessment.map EffectAssessment.assessmentId
    assessmentScore := run.assessment.map EffectAssessment.score
    assessmentRiskLevel := run.assessment.map (fun assessment => assessment.riskLevel.value)
    assessmentRecommendation :=
      run.assessment.map (fun assessment => assessment.recommendation.value)
    assessmentPolicyId := run.assessment.map EffectAssessment.policyId
    assessmentPolicyHash := run.assessment.map EffectAssessment.policyHash
    assessmentRequiredHumanApprovals := run.assessment.map EffectAssessment.requiredHumanApprovals
    assessmentExplanation := run.assessment.map EffectAssessment.explanation
    lifecycleState := run.lifecycleState
    verification := { sealVerified, grantVerified, auditChainVerified, detail } }

/-! ### The builder of version 2 -/

/-- `str.lower` as far as the result is an ASCII letter: the Kelvin sign lowers to `k`. -/
def lowerChar (char : Char) : Char := if char.toNat = 8490 then 'k' else char.toLower

def pyLower (text : String) : String := String.ofList (text.toList.map lowerChar)

/-- `part in text`. -/
def pyContains (part text : String) : Bool := decide (part.toList <:+: text.toList)

/-- A later compensation outranks the effect's own observation, and an observation
outranks the state and the commit's answer. -/
def deriveOutcomeStatus (passport : ActionPassport) : OutcomeStatus :=
  let state := pyLower passport.lifecycleState
  if passport.wasRevoked ∨ state = "revoked" then .revoked
  else if passport.compensationPassportStatus = some "verified" ∨
      passport.compensationSucceeded = some true ∧ passport.compensationAttempted = some true then
    .compensationVerified
  else if passport.compensationAttempted = some true then .compensationAttempted
  else if passport.observedMatchedExpected = some true then .verifiedMatch
  else if passport.observedMatchedExpected = some false then .verifiedMismatch
  else if state = "failed" then .failed
  else if pyContains "ambiguous" (pyLower (orElse passport.commitDetail "")) then .ambiguous
  else if passport.commitSuccess = some true then .committedUnverified
  else if passport.grantId.isSome ∧ ¬ passport.commitAttempted then .authorizedNotCommitted
  else if passport.commitSuccess = some false then .failed
  else .unknown

/-- The payload leaves the time and the hash itself out. -/
def ActionPassportV2.computePassportHash (passport : ActionPassportV2) : String :=
  primitives.passportDigest { passport with generatedAt := 0, passportHash := "" }

def ActionPassportV2.verifyPassportHash (passport : ActionPassportV2) : Except PyError Unit :=
  let expected := passport.computePassportHash primitives
  if expected ≠ passport.passportHash then
    .error ⟨.manifestTampered, "ActionPassportV2 passport_hash mismatch: expected " ++ expected ++
      ", got " ++ passport.passportHash⟩
  else .ok ()

/-- `"sha256:" + "0" * 64`. -/
def placeholderHash : String := "sha256:" ++ String.ofList (List.replicate 64 '0')

def upgradePassportV1ToV2 (passport : ActionPassport) (tenantId : Option String) :
    ActionPassportV2 :=
  let draft : ActionPassportV2 := {
    toPassportFacts := passport.toPassportFacts
    passportHash := placeholderHash
    outcomeStatus := deriveOutcomeStatus passport
    tenantId }
  { draft with passportHash := draft.computePassportHash primitives }

def buildPassportV2 (run : PassportRun) (tenantId : Option String) :
    Except PyError ActionPassportV2 := do
  let passport ← buildPassport primitives run
  .ok (upgradePassportV1ToV2 primitives passport tenantId)

/-! ### Compensation passports -/

inductive CompensationStatus : Type where
  | refused
  | attempted
  | verified
  deriving DecidableEq

/-- The arguments of `build_compensation_passport`, with the events of its journal and the
time of its clock. -/
structure CompensationPassportRun where
  compensationSealed : SealedManifest
  originalSealed : SealedManifest
  keyring : Keyring
  audit : List AuditEvent
  grant : Option ExecutionGrant
  commitResult : Option CommitResult
  outcomeProof : Option OutcomeProof
  adapterResult : Option CompensationResult
  now : Instant

structure CompensationPassport where
  schemaVersion : String
  generatedAt : Instant
  compensationManifestId : String
  compensationManifestHash : String
  compensationEffectType : String
  originalManifestId : String
  originalManifestHash : String
  status : CompensationStatus
  grantId : Option String
  authorizedBy : Option Principal
  commitAttempted : Bool
  commitSuccess : Option Bool
  providerReference : Option String
  commitDetail : Option String
  observedMatchedExpected : Option Bool
  observationDetail : Option String
  refused : Bool
  refusalReason : Option String
  sealVerified : Bool
  grantVerified : Option Bool
  auditChainVerified : Bool
  detail : Option String

namespace CompensationPassportRun

variable (run : CompensationPassportRun)

/-- `adapter_result is not None and adapter_result.attempted`. -/
def adapterAttempted : Bool := run.adapterResult.any CompensationResult.attempted

def deriveCompensationStatus : CompensationStatus :=
  if run.adapterResult.isSome ∧ ¬ run.adapterAttempted then .refused
  else if run.outcomeProof.any OutcomeProof.matchedExpected then .verified
  else if run.commitResult.any CommitResult.success then .attempted
  else if run.adapterAttempted then .attempted
  else .refused

end CompensationPassportRun

/-- The binding check recomputes both hashes before the flag is computed. -/
def buildCompensationPassport (run : CompensationPassportRun) :
    Except PyError CompensationPassport := do
  assertCompensationBindsOriginal primitives.crypto run.compensationSealed run.originalSealed
  let originalHash ← originalManifestHashOf run.compensationSealed.manifest
  let (sealVerified, detail) ←
    rechecked (run.compensationSealed.verifyIntegrity primitives.crypto) none
  let (grantVerified, detail) ← recheckedGrant primitives.crypto run.grant run.keyring detail
  let (auditChainVerified, detail) ← rechecked (verifyEventChain primitives.audit run.audit) detail
  let status := run.deriveCompensationStatus
  let refused := decide (status = .refused)
  .ok {
    schemaVersion := currentSchemaVersion
    generatedAt := run.now
    compensationManifestId := run.compensationSealed.manifest.manifestId
    compensationManifestHash := run.compensationSealed.seal.manifestHash
    compensationEffectType := run.compensationSealed.manifest.effectType
    originalManifestId := run.originalSealed.manifest.manifestId
    originalManifestHash := originalHash
    status
    grantId := run.grant.map ExecutionGrant.grantId
    authorizedBy := run.grant.map ExecutionGrant.issuer
    commitAttempted := run.commitResult.isSome || run.adapterAttempted
    commitSuccess := match run.commitResult with
      | some result => some result.success
      | none => run.adapterResult.map CompensationResult.succeeded
    providerReference := run.commitResult.bind CommitResult.providerReference
    commitDetail := match run.commitResult with
      | some result => result.detail
      | none => run.adapterResult.bind CompensationResult.detail
    observedMatchedExpected := run.outcomeProof.map OutcomeProof.matchedExpected
    observationDetail := run.outcomeProof.bind OutcomeProof.detail
    refused
    refusalReason := if refused then run.adapterResult.bind CompensationResult.reason else none
    sealVerified
    grantVerified := run.grant.map (fun _ => grantVerified)
    auditChainVerified, detail }

end KarmaSakshi.Evidence
