import KarmaSakshi.Adapters.PaymentSimulator
import KarmaSakshi.Domain.Approval
import KarmaSakshi.Domain.AuditEvents
import KarmaSakshi.Engine.Operations
import KarmaSakshi.Gateway.Bootstrap
import KarmaSakshi.Intelligence.Assessment
import KarmaSakshi.Library.OrderedDict

/-!
The state of the refund journey: dictionaries of the process, and the rows they are written
through to.

A request acts on the process by single steps: a dictionary access, an SQL statement, a reading
of a clock, a call of the organization's engine.  What a call of the engine does is the subject
of the engine's own modules; to a request it is one step with a result.
-/

namespace KarmaSakshi.Gateway

open EffectProgram KarmaSakshi.Domain KarmaSakshi.Library
open KarmaSakshi.Adapters (PaymentRequest)
open KarmaSakshi.Engine (AuditRecord CommitResult OutcomeProof)
open KarmaSakshi.Intelligence (EffectAssessment)
open KarmaSakshi.Stores (LifecycleState)

set_option autoImplicit false

/-! ### Dictionaries -/

/-- The dictionaries of `ApiState` that belong to the refund journey. -/
inductive RefundMap : Type where
  | sealedManifests
  | assessments
  | grants
  | grantsByManifest
  | commitResults
  | outcomeProofs
  | policyBundles
  | approvalPolicyBundles
  | assessmentPolicyBundles
  | approvalStatements
  deriving DecidableEq

namespace RefundMap

abbrev Item : RefundMap → Type
  | sealedManifests => SealedManifest
  | assessments => EffectAssessment
  | grants => ExecutionGrant
  | grantsByManifest => List String
  | commitResults => CommitResult
  | outcomeProofs => OutcomeProof
  | policyBundles | approvalPolicyBundles | assessmentPolicyBundles => SealedPolicyBundle
  | approvalStatements => List ApprovalStatement

/-- The bucket that the `persist_*` functions write a dictionary to. -/
def bucket : RefundMap → String
  | sealedManifests => "sealed_manifest"
  | assessments => "assessment"
  | grants => "grant"
  | grantsByManifest => "grants_by_manifest"
  | commitResults => "commit_result"
  | outcomeProofs => "outcome_proof"
  | policyBundles => "policy_bundle"
  | approvalPolicyBundles => "approval_policy_bundle"
  | assessmentPolicyBundles => "assessment_policy_bundle"
  | approvalStatements => "approval_statements"

/-- In the order in which `rehydrate_refund_state` restores them. -/
def all : List RefundMap :=
  [sealedManifests, assessments, grants, grantsByManifest, commitResults, outcomeProofs,
    policyBundles, approvalPolicyBundles, assessmentPolicyBundles, approvalStatements]

end RefundMap

def activePolicyBucket : String := "active_policy_bundle_id"

/-- `_ACTIVE_POLICY_BUNDLE_ID_KEY`. -/
def activePolicyKey : String := "_"

/-- The refund journey's part of `ApiState`. -/
structure RefundMaps where
  dict : (map : RefundMap) → OrderedDict String map.Item
  activePolicyBundleId : Option String

namespace RefundMaps

variable (maps : RefundMaps)

/-- A fresh `ApiState`. -/
def empty : RefundMaps := ⟨fun _ => .empty, none⟩

def get (map : RefundMap) (key : String) : Option map.Item := (maps.dict map).get key

def set (map : RefundMap) (key : String) (item : map.Item) : RefundMaps :=
  { maps with dict := Function.update maps.dict map ((maps.dict map).set key item) }

/-- `dict.setdefault(key, [])` of a dictionary of lists. -/
def setDefault (map : RefundMap) (key : String) (item : map.Item) : RefundMaps :=
  if (maps.get map key).isSome then maps else maps.set map key item

def appendGrantId (manifestId grantId : String) : RefundMaps :=
  maps.set .grantsByManifest manifestId
    ((maps.get .grantsByManifest manifestId).getD [] ++ [grantId])

def appendStatement (manifestId : String) (statement : ApprovalStatement) : RefundMaps :=
  maps.set .approvalStatements manifestId
    ((maps.get .approvalStatements manifestId).getD [] ++ [statement])

end RefundMaps

/-! ### Steps -/

/-- From when and until when a grant or a bundle is good. -/
structure Validity where
  notBefore : Instant
  expiresAt : Instant

structure PolicyActivateIn where
  bundleId : String
  blockThreshold : Int := 80
  reviewThreshold : Int := 50
  effectiveSeconds : Int := 365 * 24 * 3600

/-- The calls that the handlers make of the engine and of the functions around it; `adapter` and
keys are those of the organization. -/
inductive JourneyCall : Type where
  | now
  | prepare (request : PaymentRequest)
  | «seal» (manifest : EffectManifest)
  /-- `policy_from_bundle_payload`; the policy is a function of the bundle. -/
  | policyFromBundle (bundle : SealedPolicyBundle)
  | assess (manifest : EffectManifest) (policy : Option SealedPolicyBundle)
  | verifyPolicyBundle (bundle : SealedPolicyBundle)
  | sealPolicy (body : PolicyActivateIn) (issuer : Principal) (tenantId : String)
      (window : Validity)
  | sealApprovalPolicy (manifestId tenantId : String) (requiredApprovals : Int) (now : Instant)
  | signApproval (manifestHash approvalPolicyBundleHash : String) (approver : Principal)
      (expiresAt : Instant)
  | eventsForManifest (manifestId : String)
  | record (entry : AuditRecord)
  | lifecycleState (manifestId : String)
  | authorizeWithQuorum («sealed» : SealedManifest) (statements : List ApprovalStatement)
      (approvalPolicyBundle : SealedPolicyBundle) (window : Validity)
      (policyBundle : Option SealedPolicyBundle)
  | commit («sealed» : SealedManifest) (grant : ExecutionGrant)
      (policyBundle : Option SealedPolicyBundle)
  | verify (manifest : EffectManifest) (commitResult : CommitResult)
  | recoverAmbiguousCommit (manifest : EffectManifest)
  | buildCompensation (original : SealedManifest) (originalCommit : CommitResult)
  | prepareCompensation (unsigned : EffectManifest) (original : SealedManifest)
  | authorizeCompensation (original compensation : SealedManifest) (issuer : Principal)
      (window : Validity)
  | commitCompensation (original compensation : SealedManifest) (grant : ExecutionGrant)
      (originalCommit : CommitResult)

/-- A seal is what `seal` adds to the manifest. -/
abbrev JourneyAnswer : JourneyCall → Type
  | .now => Instant
  | .prepare _ | .buildCompensation _ _ => EffectManifest
  | .seal _ => Seal
  | .policyFromBundle _ | .verifyPolicyBundle _ | .record _ | .prepareCompensation _ _ => Unit
  | .assess _ _ => EffectAssessment
  | .sealPolicy _ _ _ _ | .sealApprovalPolicy _ _ _ _ => SealedPolicyBundle
  | .signApproval _ _ _ _ => ApprovalStatement
  | .eventsForManifest _ => List AuditEvent
  | .lifecycleState _ => LifecycleState
  | .authorizeWithQuorum _ _ _ _ _ | .authorizeCompensation _ _ _ _ => ExecutionGrant
  | .commit _ _ _ | .commitCompensation _ _ _ _ => CommitResult
  | .verify _ _ | .recoverAmbiguousCommit _ => OutcomeProof

/-- Steps on the `ApiState` of one organization. -/
inductive RuntimeOp : Type where
  | get (map : RefundMap) (key : String)
  | values (map : RefundMap)
  | set (map : RefundMap) (key : String) (item : map.Item)
  | setDefault (map : RefundMap) (key : String) (item : map.Item)
  | appendGrantId (manifestId grantId : String)
  | appendStatement (manifestId : String) (statement : ApprovalStatement)
  | activePolicyBundleId
  | setActivePolicyBundleId (bundleId : Option String)
  | engine (call : JourneyCall)

abbrev RuntimeReply : RuntimeOp → Type
  | .get map _ => Option map.Item
  | .values map => List map.Item
  | .set _ _ _ | .setDefault _ _ _ | .appendGrantId _ _ | .appendStatement _ _
  | .setActivePolicyBundleId _ => Unit
  | .activePolicyBundleId => Option String
  | .engine call => JourneyAnswer call

structure GatewaySession where
  token : String
  userId : String
  orgId : String
  issuedAt : Instant
  expiresAt : Instant

inductive GatewayOp : Type where
  /-- `sessions.get(token)`. -/
  | session (token : String)
  | store (op : StoreOp)
  /-- `control_plane.get_state(tenant_id)`. -/
  | getState (tenantId : String)
  | wallClock
  | runtime (orgId : String) (op : RuntimeOp)

abbrev GatewayReply : GatewayOp → Type
  | .session _ => Option GatewaySession
  | .store op => StoreReply op
  | .getState _ => Unit
  | .wallClock => Instant
  | .runtime _ op => RuntimeReply op

abbrev GatewayProgram := Program GatewayOp GatewayReply PyError

def inStore {Value : Type} (body : StoreProgram Value) : GatewayProgram Value :=
  Program.translate GatewayOp.store (fun _ reply => reply) body

/-- A step on the runtime of one organization. -/
def onRuntime (orgId : String) (op : RuntimeOp) : GatewayProgram (RuntimeReply op) :=
  Program.perform (GatewayOp.runtime orgId op)

def engine (orgId : String) (call : JourneyCall) : GatewayProgram (JourneyAnswer call) :=
  onRuntime orgId (.engine call)

/-! ### Write-through -/

/-- `model_dump` and `model_validate`, or `_dump_*` and `_load_*`, of the items of each
dictionary. -/
structure RefundCodec (Payload : Type) where
  dump : (map : RefundMap) → map.Item → Except PyError Payload
  load : (map : RefundMap) → Payload → Except PyError map.Item
  dumpId : Option String → Payload
  loadId : Payload → Except PyError (Option String)

section WriteThrough

variable {Payload : Type} (codec : GatewayStore.StoreCodec Payload) (items : RefundCodec Payload)
  (orgId : String)

/-- The `persist_*` function of a dictionary. -/
def persist (map : RefundMap) (key : String) (item : map.Item) : GatewayProgram Unit := do
  let payload ← .settle (items.dump map item)
  inStore (GatewayStore.putRefundState codec orgId map.bucket key payload)

def persistActivePolicyBundleId (bundleId : Option String) : GatewayProgram Unit :=
  inStore (GatewayStore.putRefundState codec orgId activePolicyBucket activePolicyKey
    (items.dumpId bundleId))

def persistGrantAndIndex (manifestId : String) (grant : ExecutionGrant)
    (grantIds : List String) : GatewayProgram Unit := do
  let _ ← persist codec items orgId .grants grant.grantId grant
  persist codec items orgId .grantsByManifest manifestId grantIds

/-- The rows of one bucket, into its dictionary. -/
def restore (map : RefundMap) : List (String × String × Payload) → GatewayProgram Unit
  | [] => pure ()
  | (bucket, key, payload) :: rows =>
      if bucket = map.bucket then do
        let item ← .settle (items.load map payload)
        let _ ← onRuntime orgId (.set map key item)
        restore map rows
      else restore map rows

def restoreAll (rows : List (String × String × Payload)) : List RefundMap → GatewayProgram Unit
  | [] => pure ()
  | map :: maps => do
      let _ ← restore items orgId map rows
      restoreAll rows maps

/-- `rehydrate_refund_state`. -/
def rehydrateRefundState : GatewayProgram Unit := do
  let rows ← inStore (GatewayStore.loadRefundState codec orgId)
  let _ ← restoreAll items orgId rows RefundMap.all
  match rows.find? (fun row => row.1 = activePolicyBucket ∧ row.2.1 = activePolicyKey) with
  | none => pure ()
  | some (_, _, payload) => do
      let bundleId ← .settle (items.loadId payload)
      onRuntime orgId (.setActivePolicyBundleId bundleId)

end WriteThrough

end KarmaSakshi.Gateway
