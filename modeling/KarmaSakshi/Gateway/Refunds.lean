import KarmaSakshi.Domain.Identifiers
import KarmaSakshi.Gateway.RefundState

/-!
The handlers of the refund journey.

Every handler resolves the session and the organization before it touches the runtime, and
writes each dictionary through to the store after it changed it.
-/

namespace KarmaSakshi.Gateway

open EffectProgram KarmaSakshi.Domain
open KarmaSakshi.Adapters (PaymentRequest)
open KarmaSakshi.Engine (AuditRecord CommitResult)
open KarmaSakshi.Intelligence (EffectAssessment)
open KarmaSakshi.Stores (LifecycleState)

set_option autoImplicit false

def httpRaised {Value : Type} (status : Nat) (detail : String) : GatewayProgram Value :=
  .raised ⟨.httpException status, detail⟩

/-- `except KarmaSakshiError as exc: raise HTTPException(status, str(exc))`. -/
def orHttp {Value : Type} (status : Nat) (body : GatewayProgram Value) : GatewayProgram Value :=
  body.rescue PyError.isKarmaSakshi (fun error => .raised (httpError status error))

/-! ### Sessions and organizations -/

def bearer : String := "Bearer "

/-- The token of an `Authorization` header. -/
def bearerToken (authorization : Option String) : Option String :=
  authorization.bind fun header =>
    if bearer.toList.isPrefixOf header.toList then
      some (String.ofList (header.toList.drop bearer.length))
    else none

/-- `require_gateway_session`. -/
def requireGatewaySession (authorization : Option String) : GatewayProgram GatewayUser :=
  match bearerToken authorization with
  | none => httpRaised 401 "missing or malformed Authorization header"
  | some token => do
      match ← Program.perform (GatewayOp.session token) with
      | none => httpRaised 401 "invalid or expired session"
      | some session =>
          (inStore (GatewayStore.getUserById session.orgId session.userId)).rescue
            PyError.isKarmaSakshi (fun _ => httpRaised 401 "session no longer valid")

section Handlers

variable {Payload : Type} (nfkc : String → String) (codec : GatewayStore.StoreCodec Payload)
  (items : RefundCodec Payload) (user : GatewayUser) (orgId : String)

/-- `_assert_org_scope`; the error of `assert_user_belongs_to_organization` is the one that is
turned into a 403 here. -/
def assertOrgScope : GatewayProgram Unit :=
  match validateCanonicalOrgId nfkc orgId with
  | .error error => .raised (httpError 400 error)
  | .ok _ =>
      if user.orgId ≠ orgId then
        httpRaised 403 ("user " ++ pyRepr user.userId ++ " belongs to organization " ++
          pyRepr user.orgId ++ ", not " ++ pyRepr orgId)
      else (do
        let _ ← inStore (GatewayStore.requireActiveOrganization orgId)
        pure () : GatewayProgram Unit).attempt fun
          | .ok value => pure value
          | .error error =>
              if error.kind = .organizationSuspended then .raised (httpError 403 error)
              else if error.kind = .organizationNotFound then .raised (httpError 404 error)
              else .raised error

/-- `resolve_org_runtime`. -/
def resolveOrgRuntime : GatewayProgram Unit := do
  let _ ← assertOrgScope nfkc user orgId
  (Program.perform (GatewayOp.getState orgId)).rescue
    (fun error => error.kind ∈ [.tenantIsolation, .unknownTenant])
    (fun error => .raised (httpError 404 error))

def paymentAdapterId : String := "payment.simulator"

def paymentAdapterVersion : String := "1.0.0"

/-- `require_registered_refund_resources`, for the payment adapter. -/
def requireRegisteredRefundResources (agentId : String) : GatewayProgram Unit := do
  let _ ← resolveOrgRuntime nfkc user orgId
  let _ ← (inStore (GatewayStore.getAgent orgId agentId)).rescue
    (fun error => error.kind = .gatewayAgentNotFound)
    (fun _ => httpRaised 409 ("refund agent " ++ pyRepr agentId ++ " is not registered"))
  let registration ← (inStore (GatewayStore.getAdapter orgId paymentAdapterId)).rescue
    (fun error => error.kind = .gatewayAdapterNotFound)
    (fun _ => httpRaised 409 ("adapter " ++ pyRepr paymentAdapterId ++ " is not registered"))
  if registration.adapterVersion ≠ paymentAdapterVersion then
    httpRaised 409 "registered adapter version does not match the runtime"
  else if "payment.transfer" ∉ registration.effectTypes then
    httpRaised 409 "registered adapter does not allow payment.transfer"
  else pure ()

/-! ### Helpers -/

def principalOf (principalType : PrincipalType) (principalId : String) :
    GatewayProgram Principal := do
  let principalId ← .settle (validatePrincipalId principalId)
  pure { principalId, principalType, displayName := none }

/-- `timedelta(seconds=…)` after an instant. -/
def secondsAfter (now : Instant) (seconds : Int) : Instant := now + seconds * microsPerSecond

/-- An item that has to be there. -/
def required {Value : Type} (status : Nat) (detail : String) (item : Option Value) :
    GatewayProgram Value :=
  match item with
  | some item => pure item
  | none => httpRaised status detail

/-- `_active_policy_bundle`. -/
def activePolicyBundle : GatewayProgram (Option SealedPolicyBundle) := do
  match ← onRuntime orgId .activePolicyBundleId with
  | none => pure none
  | some bundleId => do
      let bundle ← onRuntime orgId (.get .policyBundles bundleId)
      let bundle ← required 500 "active policy bundle is unavailable" bundle
      let _ ← (engine orgId (.verifyPolicyBundle bundle)).rescue PyError.isKarmaSakshi
        (fun error => httpRaised 409 ("active policy bundle failed verification: " ++
          error.message))
      pure (some bundle)

/-- `_policy_bundle_by_hash`. -/
def policyBundleByHash (bundleHash : String) : GatewayProgram (Option SealedPolicyBundle) := do
  let bundles ← onRuntime orgId (.values .policyBundles)
  pure (bundles.find? (fun bundle => bundle.seal.bundleHash = bundleHash))

def deniedType : String := "manifest.authorization_denied"

/-- `_denial_event`. -/
def denialEvent (manifestId : String) : GatewayProgram (Option AuditEvent) := do
  let events ← engine orgId (.eventsForManifest manifestId)
  pure (events.reverse.find? (fun event => event.eventType = deniedType))

/-- `grants_by_manifest` has an id of a grant. -/
def hasGrants (manifestId : String) : GatewayProgram Bool := do
  let grantIds ← onRuntime orgId (.get .grantsByManifest manifestId)
  pure (!(grantIds.getD []).isEmpty)

/-- `ApiState.register_grant`. -/
def registerGrant (manifestId : String) (grant : ExecutionGrant) : GatewayProgram Unit := do
  let _ ← onRuntime orgId (.set .grants grant.grantId grant)
  let _ ← onRuntime orgId (.setDefault .grantsByManifest manifestId [])
  onRuntime orgId (.appendGrantId manifestId grant.grantId)

/-- The grant in the dictionaries, and then in the store. -/
def fileGrant (manifestId : String) (grant : ExecutionGrant) : GatewayProgram Unit := do
  let _ ← registerGrant orgId manifestId grant
  let grantIds ← onRuntime orgId (.get .grantsByManifest manifestId)
  persistGrantAndIndex codec items orgId manifestId grant (grantIds.getD [])

/-! ### Handlers -/

structure RefundProposeIn where
  agentId : String
  requestedBy : String
  sourceAccount : String := "acct-src"
  beneficiary : String
  amountMinorUnits : Int
  currency : String := "INR"
  reference : String
  idempotencyKey : String

structure RefundApproveIn where
  ttlSeconds : Int := 300
  policyBundleId : Option String := none

inductive RefundReply : Type where
  | activated (bundleId bundleHash : String)
  | proposed (manifestId manifestHash : String)
      (assessment : EffectAssessment)
  | approval (grant : Option ExecutionGrant) (completedHumanApprovals : Nat)
      (requiredHumanApprovals : Int)
  | denied (manifestId deniedBy reason : String)
  | executed (result : CommitResult)
  | observed (proof : KarmaSakshi.Engine.OutcomeProof)
  | compensated (compensationManifestId : String) (result : CommitResult)

/-- `activate_policy`. -/
def activatePolicy (body : PolicyActivateIn) : GatewayProgram RefundReply := do
  let _ ← resolveOrgRuntime nfkc user orgId
  if user.role ≠ .owner then
    httpRaised 403 "only an organization owner may activate a policy"
  else do
    let now ← Program.perform GatewayOp.wallClock
    let bundle ← orHttp 422 do
      let issuer ← principalOf .human user.userId
      engine orgId (.sealPolicy body issuer orgId ⟨now, secondsAfter now body.effectiveSeconds⟩)
    let _ ← onRuntime orgId (.set .policyBundles body.bundleId bundle)
    let _ ← onRuntime orgId (.setActivePolicyBundleId (some body.bundleId))
    let _ ← persist codec items orgId .policyBundles body.bundleId bundle
    let _ ← persistActivePolicyBundleId codec items orgId (some body.bundleId)
    pure (.activated body.bundleId bundle.seal.bundleHash)

/-- The dictionaries of a proposal, and then the store. -/
def fileProposal («sealed» : SealedManifest)
    (assessment : EffectAssessment)
    (activeBundle : Option SealedPolicyBundle) : GatewayProgram Unit := do
  let manifestId := «sealed».manifest.manifestId
  let _ ← onRuntime orgId (.set .sealedManifests manifestId «sealed»)
  let _ ← onRuntime orgId (.set .assessments manifestId assessment)
  let _ ← match activeBundle with
    | some bundle => onRuntime orgId (.set .assessmentPolicyBundles manifestId bundle)
    | none => pure ()
  let now ← engine orgId .now
  let approvalPolicyBundle ← engine orgId (.sealApprovalPolicy manifestId orgId
    (max 1 assessment.requiredHumanApprovals) now)
  let _ ← onRuntime orgId (.set .approvalPolicyBundles manifestId approvalPolicyBundle)
  let _ ← persist codec items orgId .sealedManifests manifestId «sealed»
  let _ ← persist codec items orgId .assessments manifestId assessment
  let _ ← persist codec items orgId .approvalPolicyBundles manifestId approvalPolicyBundle
  match activeBundle with
  | some bundle => persist codec items orgId .assessmentPolicyBundles manifestId bundle
  | none => pure ()

/-- `policy_from_bundle_payload` of the active bundle. -/
def policyOf (activeBundle : Option SealedPolicyBundle) : GatewayProgram Unit :=
  match activeBundle with
  | some bundle => engine orgId (.policyFromBundle bundle)
  | none => pure ()

/-- The manifest of a request, sealed, and its assessment. -/
def assessedRefund (request : PaymentRequest) (activeBundle : Option SealedPolicyBundle) :
    GatewayProgram (SealedManifest × EffectAssessment) := do
  let manifest ← engine orgId (.prepare request)
  let signed ← engine orgId (.seal manifest)
  let assessment ← engine orgId (.assess manifest activeBundle)
  pure (⟨manifest, signed⟩, assessment)

/-- `propose_refund`. -/
def proposeRefund (body : RefundProposeIn) : GatewayProgram RefundReply := do
  let _ ← requireRegisteredRefundResources nfkc user orgId body.agentId
  let actor ← principalOf .agent body.agentId
  let principal ← principalOf .human body.requestedBy
  let activeBundle ← activePolicyBundle orgId
  let _ ← policyOf orgId activeBundle
  let prepared ← orHttp 422 (assessedRefund orgId
    { actor, principal
      sourceAccount := body.sourceAccount
      beneficiary := body.beneficiary
      amountMinorUnits := body.amountMinorUnits
      currency := body.currency
      reference := body.reference
      feeMinorUnits := 0
      idempotencyKey := body.idempotencyKey
      ttlSeconds := 300 } activeBundle)
  let _ ← fileProposal codec items orgId prepared.1 prepared.2 activeBundle
  pure (.proposed prepared.1.manifest.manifestId prepared.1.seal.manifestHash prepared.2)

/-- The list that `setdefault` left under the key, as it is now. -/
def statementsOn (manifestId : String) : GatewayProgram (List ApprovalStatement) := do
  let statements ← onRuntime orgId (.get .approvalStatements manifestId)
  pure (statements.getD [])

/-- The bundle a grant of the refund is to be bound to. -/
def bundleForApproval (manifestId : String) (body : RefundApproveIn) :
    GatewayProgram (Option SealedPolicyBundle) :=
  match body.policyBundleId with
  | some bundleId => do
      let bundle ← onRuntime orgId (.get .policyBundles bundleId)
      let bundle ← required 404 ("policy bundle " ++ pyRepr bundleId ++ " not found") bundle
      pure (some bundle)
  | none => onRuntime orgId (.get .assessmentPolicyBundles manifestId)

def statementRecorded (manifestId manifestHash : String) (statement : ApprovalStatement)
    (completed : Nat) (needed : Int) : AuditRecord where
  eventType := "approval.statement_recorded"
  decision := "approve"
  manifestId := some manifestId
  manifestHash := some manifestHash
  grantId := none
  actorId := some user.userId
  fromState := none
  toState := none
  metadata := [("statement_id", statement.statementId),
    ("completed_human_approvals", toString completed),
    ("required_human_approvals", toString needed)]

/-- `approve_refund`. -/
def approveRefund (manifestId : String) (body : RefundApproveIn) :
    GatewayProgram RefundReply := do
  let _ ← resolveOrgRuntime nfkc user orgId
  let «sealed» ← onRuntime orgId (.get .sealedManifests manifestId)
  let «sealed» ← required 404 "manifest not found" «sealed»
  let denial ← denialEvent orgId manifestId
  if denial.isSome then httpRaised 409 "refund authorization was denied"
  else do
    let granted ← hasGrants orgId manifestId
    if granted then httpRaised 409 "refund is already authorized"
    else do
      let assessment ← onRuntime orgId (.get .assessments manifestId)
      let approvalPolicyBundle ← onRuntime orgId (.get .approvalPolicyBundles manifestId)
      let assessment ← required 500 "refund approval policy unavailable" assessment
      let approvalPolicyBundle ← required 500 "refund approval policy unavailable"
        approvalPolicyBundle
      let _ ← onRuntime orgId (.setDefault .approvalStatements manifestId [])
      let statements ← statementsOn orgId manifestId
      if statements.any (fun statement => statement.approver.principalId = user.userId) then
        httpRaised 409 "this user already approved the refund"
      else do
        let policyBundle ← bundleForApproval orgId manifestId body
        let now ← Program.perform GatewayOp.wallClock
        let until_ := secondsAfter now body.ttlSeconds
        let statement ← orHttp 403 do
          let approver ← principalOf .human user.userId
          engine orgId (.signApproval «sealed».seal.manifestHash
            approvalPolicyBundle.seal.bundleHash approver until_)
        let _ ← onRuntime orgId (.appendStatement manifestId statement)
        let statements ← statementsOn orgId manifestId
        let _ ← persist codec items orgId .approvalStatements manifestId statements
        let needed := max 1 assessment.requiredHumanApprovals
        let statements ← statementsOn orgId manifestId
        let _ ← engine orgId (.record (statementRecorded user manifestId
          «sealed».seal.manifestHash statement statements.length needed))
        let statements ← statementsOn orgId manifestId
        if (statements.length : Int) < needed then
          pure (.approval none statements.length needed)
        else do
          let grant ← orHttp 403 (engine orgId (.authorizeWithQuorum «sealed» statements
            approvalPolicyBundle ⟨now, until_⟩ policyBundle))
          let _ ← fileGrant codec items orgId manifestId grant
          pure (.approval (some grant) statements.length needed)

/-- A refund that is sealed no longer, or that grants are out for. -/
def pastDenial (manifestId : String) (state : LifecycleState) : GatewayProgram Bool :=
  if state ≠ .sealed then pure true else hasGrants orgId manifestId

/-- `deny_refund`. -/
def denyRefund (manifestId reason : String) : GatewayProgram RefundReply := do
  let _ ← resolveOrgRuntime nfkc user orgId
  let «sealed» ← onRuntime orgId (.get .sealedManifests manifestId)
  let «sealed» ← required 404 "manifest not found" «sealed»
  let denial ← denialEvent orgId manifestId
  if denial.isSome then httpRaised 409 "refund authorization was already denied"
  else do
    let state ← engine orgId (.lifecycleState manifestId)
    let settled ← pastDenial orgId manifestId state
    if settled then httpRaised 409 "only a pending sealed refund can be denied"
    else do
      let _ ← engine orgId (.record
        { eventType := deniedType
          decision := "denied"
          manifestId := some manifestId
          manifestHash := some «sealed».seal.manifestHash
          grantId := none
          actorId := some user.userId
          fromState := some state.value
          toState := some state.value
          metadata := [("reason", reason)] })
      pure (.denied manifestId user.userId reason)

/-- The policy bundle that a grant is bound to. -/
def boundPolicyBundle (grant : ExecutionGrant) : GatewayProgram (Option SealedPolicyBundle) :=
  match grant.policyBundleHash with
  | none => pure none
  | some bundleHash => do
      let bundle ← policyBundleByHash orgId bundleHash
      let bundle ← required 409 "grant is policy-bound but the matching bundle is unavailable"
        bundle
      pure (some bundle)

/-- `execute_refund`. -/
def executeRefund (manifestId grantId : String) : GatewayProgram RefundReply := do
  let _ ← resolveOrgRuntime nfkc user orgId
  let «sealed» ← onRuntime orgId (.get .sealedManifests manifestId)
  let grant ← onRuntime orgId (.get .grants grantId)
  let «sealed» ← required 404 "manifest or grant not found" «sealed»
  let grant ← required 404 "manifest or grant not found" grant
  let policyBundle ← boundPolicyBundle orgId grant
  let result ← orHttp 409 (engine orgId (.commit «sealed» grant policyBundle))
  let _ ← onRuntime orgId (.set .commitResults manifestId result)
  let _ ← persist codec items orgId .commitResults manifestId result
  pure (.executed result)

/-- `verify_refund`. -/
def verifyRefund (manifestId : String) : GatewayProgram RefundReply := do
  let _ ← resolveOrgRuntime nfkc user orgId
  let «sealed» ← onRuntime orgId (.get .sealedManifests manifestId)
  let result ← onRuntime orgId (.get .commitResults manifestId)
  let «sealed» ← required 404 "manifest or commit result not found" «sealed»
  let result ← required 404 "manifest or commit result not found" result
  let proof ← engine orgId (.verify «sealed».manifest result)
  let _ ← onRuntime orgId (.set .outcomeProofs manifestId proof)
  let _ ← persist codec items orgId .outcomeProofs manifestId proof
  pure (.observed proof)

/-- `recover_refund`. -/
def recoverRefund (manifestId : String) : GatewayProgram RefundReply := do
  let _ ← resolveOrgRuntime nfkc user orgId
  let «sealed» ← onRuntime orgId (.get .sealedManifests manifestId)
  let «sealed» ← required 404 "manifest not found" «sealed»
  let proof ← orHttp 409 (engine orgId (.recoverAmbiguousCommit «sealed».manifest))
  let _ ← onRuntime orgId (.set .outcomeProofs manifestId proof)
  let _ ← persist codec items orgId .outcomeProofs manifestId proof
  pure (.observed proof)

/-- The compensation's manifest, its grant and its result, from the engine. -/
def compensated (original : SealedManifest) (originalCommit : CommitResult) (ttlSeconds : Int)
    (now : Instant) : GatewayProgram (SealedManifest × ExecutionGrant × CommitResult) := do
  let unsigned ← engine orgId (.buildCompensation original originalCommit)
  let _ ← engine orgId (.prepareCompensation unsigned original)
  let signed ← engine orgId (.seal unsigned)
  let compensation : SealedManifest := ⟨unsigned, signed⟩
  let issuer ← principalOf .human user.userId
  let grant ← engine orgId (.authorizeCompensation original compensation issuer
    ⟨now, secondsAfter now ttlSeconds⟩)
  let result ← engine orgId (.commitCompensation original compensation grant originalCommit)
  pure (compensation, grant, result)

/-- `compensate_refund`. -/
def compensateRefund (manifestId : String) (ttlSeconds : Int) : GatewayProgram RefundReply := do
  let _ ← resolveOrgRuntime nfkc user orgId
  let original ← onRuntime orgId (.get .sealedManifests manifestId)
  let originalCommit ← onRuntime orgId (.get .commitResults manifestId)
  let original ← required 404 "manifest or commit result not found" original
  let originalCommit ← required 404 "manifest or commit result not found" originalCommit
  let statements ← statementsOn orgId manifestId
  if statements.all (fun statement => statement.approver.principalId ≠ user.userId) then
    httpRaised 403 "only a user who approved the original refund may authorize its compensation"
  else do
    let now ← Program.perform GatewayOp.wallClock
    let (compensation, grant, result) ←
      orHttp 409 (compensated user orgId original originalCommit ttlSeconds now)
    let compensationId := compensation.manifest.manifestId
    let _ ← onRuntime orgId (.set .sealedManifests compensationId compensation)
    let _ ← registerGrant orgId compensationId grant
    let _ ← onRuntime orgId (.set .commitResults compensationId result)
    let _ ← persist codec items orgId .sealedManifests compensationId compensation
    let grantIds ← onRuntime orgId (.get .grantsByManifest compensationId)
    let _ ← persistGrantAndIndex codec items orgId compensationId grant (grantIds.getD [])
    let _ ← persist codec items orgId .commitResults compensationId result
    pure (.compensated compensationId result)

end Handlers

/-! ### Requests -/

inductive RefundRequest : Type where
  | activatePolicy (body : PolicyActivateIn)
  | propose (body : RefundProposeIn)
  | approve (manifestId : String) (body : RefundApproveIn)
  | deny (manifestId reason : String)
  | execute (manifestId grantId : String)
  | verify (manifestId : String)
  | recover (manifestId : String)
  | compensate (manifestId : String) (ttlSeconds : Int)

section Serving

variable {Payload : Type} (nfkc : String → String) (codec : GatewayStore.StoreCodec Payload)
  (items : RefundCodec Payload)

def RefundRequest.handle (user : GatewayUser) (orgId : String) :
    RefundRequest → GatewayProgram RefundReply
  | activatePolicy body => Gateway.activatePolicy nfkc codec items user orgId body
  | propose body => proposeRefund nfkc codec items user orgId body
  | approve manifestId body => approveRefund nfkc codec items user orgId manifestId body
  | deny manifestId reason => denyRefund nfkc user orgId manifestId reason
  | execute manifestId grantId => executeRefund nfkc codec items user orgId manifestId grantId
  | verify manifestId => verifyRefund nfkc codec items user orgId manifestId
  | recover manifestId => recoverRefund nfkc codec items user orgId manifestId
  | compensate manifestId ttlSeconds =>
      compensateRefund nfkc codec items user orgId manifestId ttlSeconds

/-- A request as it comes in, with its `Authorization` header. -/
def RefundRequest.serve (request : RefundRequest) (orgId : String)
    (authorization : Option String) : GatewayProgram RefundReply := do
  let user ← requireGatewaySession authorization
  request.handle nfkc codec items user orgId

end Serving

end KarmaSakshi.Gateway
