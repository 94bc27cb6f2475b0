import KarmaSakshi.Domain.Attenuation
import KarmaSakshi.Domain.Duty
import KarmaSakshi.Engine.Commit

/-!
Issuing grants: the four authorization paths and delegation.

The paths share their parts: the registered-budget check, the policy bundle with
its tenant, the separation of duties, the minting of the grant, and the move of
the manifest to AUTHORIZED.  What differs between them is kept in each path.
-/

namespace KarmaSakshi.Engine

open EffectProgram KarmaSakshi.Domain KarmaSakshi.Stores

set_option autoImplicit false

/-! ### Minting -/

/-- A private key of the signing library. -/
structure SigningKey where
  keyId : String
  sign : String → String

/-- The fields of a grant that its issuer chooses. -/
structure GrantRequest where
  grantId : String
  issuer : Principal
  subject : Principal
  audience : List String
  allowedEffectTypes : List String
  scope : ScopeConstraints
  notBefore : Instant
  expiresAt : Instant
  nonce : String
  manifestHash : Option String
  policyBundleHash : Option String := none
  approvalSetHash : Option String := none
  decisionEnvelopeHash : Option String := none
  causalGraphHash : Option String := none
  authorityBudgetId : Option String
  maxUses : Int
  parentGrantId : Option String

namespace GrantRequest

variable (request : GrantRequest) (keyId : String)

/-- What the validators of `ExecutionGrant` demand. -/
structure WellFormed : Prop where
  grantId : boundedText 128 request.grantId
  manifestHash : hashFieldShape request.manifestHash
  policyBundleHash : hashFieldShape request.policyBundleHash
  approvalSetHash : hashFieldShape request.approvalSetHash
  decisionEnvelopeHash : hashFieldShape request.decisionEnvelopeHash
  causalGraphHash : hashFieldShape request.causalGraphHash
  budgetId : ∀ budget ∈ request.authorityBudgetId, boundedText 128 budget
  audience : request.audience ≠ []
  allowedEffectTypes : request.allowedEffectTypes ≠ []
  maxUses : 1 ≤ request.maxUses
  nonce : boundedText 128 request.nonce
  keyId : boundedText 128 keyId
  window : request.notBefore < request.expiresAt
  planBinding : request.decisionEnvelopeHash = none ∨ request.causalGraphHash = none

/-- The validators in the order of their fields, with what each says. -/
def complaints : List (Bool × String) :=
  let identifier := "identifier fields must be 1-128 chars"
  let digest := "must be a sha256:<hex> digest"
  let listed := "must contain at least one value"
  [(decide (boundedText 128 request.grantId), identifier),
    (decide (hashFieldShape request.manifestHash), digest),
    (decide (hashFieldShape request.policyBundleHash), digest),
    (decide (hashFieldShape request.approvalSetHash), digest),
    (decide (hashFieldShape request.decisionEnvelopeHash), digest),
    (decide (hashFieldShape request.causalGraphHash), digest),
    (decide (∀ budget ∈ request.authorityBudgetId, boundedText 128 budget),
      "authority_budget_id must be 1-128 chars"),
    (decide (request.audience ≠ []), listed),
    (decide (request.allowedEffectTypes ≠ []), listed),
    (decide (1 ≤ request.maxUses), "max_uses must be >= 1"),
    (decide (boundedText 128 request.nonce), identifier),
    (decide (boundedText 128 keyId), identifier),
    (decide (request.notBefore < request.expiresAt),
      "expires_at must be strictly after not_before"),
    (decide (request.decisionEnvelopeHash = none ∨ request.causalGraphHash = none),
      "a grant cannot bind to both decision_envelope_hash and causal_graph_hash; " ++
        "choose exactly one plan-level binding")]

theorem well_formed (accepted : (request.complaints keyId).all Prod.fst = true) :
    request.WellFormed keyId := by
  simp only [complaints, List.all_cons, List.all_nil, Bool.and_true, Bool.and_eq_true,
    decide_eq_true_eq] at accepted
  obtain ⟨grantId, manifestHash, policyHash, approvalHash, envelopeHash, graphHash, budgetId,
    audience, effectTypes, maxUses, nonce, keyId, window, planBinding⟩ := accepted
  exact ⟨grantId, manifestHash, policyHash, approvalHash, envelopeHash, graphHash, budgetId,
    audience, effectTypes, maxUses, nonce, keyId, window, planBinding⟩

/-- The unsigned grant of a well-formed request. -/
def unsigned (wellFormed : request.WellFormed keyId) (issuedAt : Instant) : ExecutionGrant where
  schemaVersion := "1.0"
  grantId := request.grantId
  manifestHash := request.manifestHash
  policyBundleHash := request.policyBundleHash
  approvalSetHash := request.approvalSetHash
  decisionEnvelopeHash := request.decisionEnvelopeHash
  causalGraphHash := request.causalGraphHash
  authorityBudgetId := request.authorityBudgetId
  issuer := request.issuer
  subject := request.subject
  audience := dedupeSorted request.audience
  allowedEffectTypes := dedupeSorted request.allowedEffectTypes
  scope := request.scope
  issuedAt := issuedAt
  notBefore := request.notBefore
  expiresAt := request.expiresAt
  maxUses := request.maxUses.toNat
  nonce := request.nonce
  parentGrantId := request.parentGrantId
  keyId := keyId
  signature := none
  grantIdBounded := wellFormed.grantId
  nonceBounded := wellFormed.nonce
  keyIdBounded := wellFormed.keyId
  budgetIdBounded := wellFormed.budgetId
  manifestHashShape := wellFormed.manifestHash
  policyBundleHashShape := wellFormed.policyBundleHash
  approvalSetHashShape := wellFormed.approvalSetHash
  decisionEnvelopeHashShape := wellFormed.decisionEnvelopeHash
  causalGraphHashShape := wellFormed.causalGraphHash
  audienceNonempty := dedupe_sorted_nonempty wellFormed.audience
  allowedEffectTypesNonempty := dedupe_sorted_nonempty wellFormed.allowedEffectTypes
  maxUsesPositive := by have := wellFormed.maxUses; omega
  windowOpen := wellFormed.window
  planBindingExclusive := wellFormed.planBinding

/-- The constructor of `ExecutionGrant`, which reports its first complaint. -/
def build (issuedAt : Instant) : Except PyError ExecutionGrant :=
  if accepted : (request.complaints keyId).all Prod.fst = true then
    .ok (request.unsigned keyId (request.well_formed keyId accepted) issuedAt)
  else .error ⟨.validationError,
    (((request.complaints keyId).find? (fun complaint => !complaint.1)).map Prod.snd).getD ""⟩

end GrantRequest

/-- Attach the signature over the hash of everything else. -/
def signedGrant (crypto : CryptoPrimitives) (key : SigningKey) (grant : ExecutionGrant) :
    ExecutionGrant :=
  { grant with signature := some (key.sign (grant.canonicalHash crypto)) }

variable (context : EngineContext)

/-- An agent may request a grant and never issue one. -/
def issueGrant (request : GrantRequest) (key : SigningKey) : Action ExecutionGrant :=
  if request.issuer.principalType = .agent then
    .raised ⟨.grantIssuerNotAuthorized,
      "an agent principal cannot issue an execution grant; authorization " ++
        "must come from a human or service principal (invariant #30)"⟩
  else do
    let issuedAt ← perform .now
    let grant ← Program.settle (request.build key.keyId issuedAt)
    pure (signedGrant context.crypto key grant)

/-- `_record_grant_lineage`. -/
def recordGrantLineage (grant : ExecutionGrant) : Action Unit :=
  match grant.parentGrantId with
  | none => pure ()
  | some parent => perform (.grants (.recordLineage grant.grantId (some parent)))

/-! ### Parts of the authorization paths -/

/-- The arguments that the four authorization paths have in common.  The generated
identifiers are what `uuid.uuid4()` returns. -/
structure AuthorizeCall where
  sealed : SealedManifest
  issuer : Principal
  subject : Principal
  audience : List String
  allowedEffectTypes : List String
  scope : ScopeConstraints
  notBefore : Instant
  expiresAt : Instant
  signingKey : SigningKey
  grantId : Option String
  nonce : Option String
  generatedId : String
  generatedNonce : String
  maxUses : Int
  parentGrantId : Option String
  authorityBudgetId : Option String
  policyBundle : Option SealedPolicyBundle
  separationPolicyBundle : Option SealedPolicyBundle
  roleAssignment : Option RoleAssignment

/-- The typed reading of policy payloads out of verified bundles. -/
structure PayloadReaders where
  approvalPolicy : String → Except PyError ApprovalPolicy
  separationPolicy : String → Except PyError SeparationOfDutyPolicy

namespace AuthorizeCall

variable (call : AuthorizeCall)

def manifestId : String := call.sealed.manifest.manifestId

def manifestHash : String := call.sealed.seal.manifestHash

def record (eventType decision : String) (metadata : List (String × String)) : AuditRecord where
  eventType := eventType
  decision := decision
  manifestId := some call.manifestId
  manifestHash := some call.manifestHash
  grantId := none
  actorId := some call.issuer.principalId
  fromState := none
  toState := none
  metadata := metadata

def policyBundleHash : Option String := call.policyBundle.map (fun bundle => bundle.seal.bundleHash)

/-- The grant this call asks for, before any plan-level binding. -/
def request : GrantRequest where
  grantId := orElse call.grantId call.generatedId
  issuer := call.issuer
  subject := call.subject
  audience := call.audience
  allowedEffectTypes := call.allowedEffectTypes
  scope := call.scope
  notBefore := call.notBefore
  expiresAt := call.expiresAt
  nonce := orElse call.nonce call.generatedNonce
  manifestHash := some call.manifestHash
  policyBundleHash := call.policyBundleHash
  authorityBudgetId := call.authorityBudgetId
  maxUses := call.maxUses
  parentGrantId := call.parentGrantId

def policyMetadata : List (String × String) :=
  match call.policyBundleHash with
  | some hash => [("policy_bundle_hash", hash)]
  | none => []

end AuthorizeCall

/-- `_assert_authority_budget_registered`. -/
def assertAuthorityBudgetRegistered (budgetId : Option String) : Action Unit :=
  match budgetId with
  | none => pure ()
  | some bound => do
      let _ ← requireBudget context bound
      pure ()

variable (readers : PayloadReaders) (call : AuthorizeCall)

/-- `try: check except KarmaSakshiError: audit.record(…); raise`. -/
def auditedCheck (eventType decision : String) (metadata : List (String × String))
    (check : Except PyError Unit) : Action Unit :=
  match check with
  | .ok _ => pure ()
  | .error error =>
      if error.isKarmaSakshi then do
        perform (.audit (call.record eventType decision metadata))
        .raised error
      else .raised error

/-- A presented policy bundle must verify and be of the engine's tenant. -/
def authorizePolicy : Action Unit :=
  match call.policyBundle with
  | none => pure ()
  | some bundle => do
      let now ← perform .now
      auditedCheck call "policy_bundle.verification_failed" "blocked"
        [("bundle_id", bundle.bundle.bundleId)]
        (verifyPolicyBundle context.crypto bundle context.keyring now none)
      .settle (bindEngineAndPolicyTenant context.tenantId bundle.bundle.tenantId)

/-- `_enforce_separation_of_duty`. -/
def enforceSeparationOfDuty (bundle : SealedPolicyBundle) (roles : RoleAssignment) :
    Action Unit := do
  let now ← perform .now
  auditedCheck call "separation_policy_bundle.verification_failed" "blocked"
    [("bundle_id", bundle.bundle.bundleId)]
    (verifyPolicyBundle context.crypto bundle context.keyring now (some "separation.v1"))
  let policy ← Program.settle (readers.separationPolicy bundle.bundle.payload)
  let result := checkSeparationOfDuty roles policy
  perform (.audit (call.record "separation_of_duty.evaluated"
    (if result.satisfied then "satisfied" else "violated")
    (("reason", clipped result.reason 200) :: roles.participationMetadata)))
  if result.satisfied then pure ()
  else .raised ⟨.separationOfDutyViolation, "separation of duty violated for manifest " ++
    call.manifestHash ++ ": " ++ result.reason⟩

def authorizeSeparation (roles : RoleAssignment) : Action Unit :=
  match call.separationPolicyBundle with
  | none => pure ()
  | some bundle => enforceSeparationOfDuty context readers call bundle roles

def combinedRoles (proposerId : String) (approverIds : List String) :
    Except PyError RoleAssignment := do
  let base ← baseRoleAssignment call.manifestHash proposerId call.subject.principalId approverIds
  base.merge call.roleAssignment

/-- Mint the grant; a refused issuer is audited. -/
def mintGrant (request : GrantRequest) : Action ExecutionGrant :=
  (issueGrant context request call.signingKey).attempt (fun
    | .ok grant => pure grant
    | .error error =>
        if error.isKarmaSakshi then do
          perform (.audit (call.record "grant.issue_denied" "blocked" []))
          .raised error
        else .raised error)

def moveToAuthorized (grant : ExecutionGrant) (metadata : List (String × String)) :
    Action Unit := do
  let _ ← transition context call.manifestId .authorized {
    eventType := "grant.issued"
    manifestHash := some call.manifestHash
    grantId := some grant.grantId
    actorId := some call.issuer.principalId
    metadata := ("subject", call.subject.principalId) :: metadata }
  pure ()

/-! ### The authorization paths -/

def authorize : Action ExecutionGrant := do
  .settle (verifySeal context.crypto call.sealed context.keyring)
  assertAuthorityBudgetRegistered context call.authorityBudgetId
  authorizePolicy context call
  let roles ← Program.settle (combinedRoles call call.sealed.manifest.actor.principalId
    [call.issuer.principalId])
  authorizeSeparation context readers call roles
  let grant ← mintGrant context call call.request
  moveToAuthorized context call grant (call.policyMetadata ++
    (match call.authorityBudgetId with
      | some budgetId => if budgetId = "" then [] else [("authority_budget_id", budgetId)]
      | none => []) ++ roles.participationMetadata)
  recordGrantLineage grant
  pure grant

/-- The manifest must fit a verified envelope, whose hash the grant binds. -/
def authorizeWithEnvelope (envelope : DecisionEnvelope) : Action ExecutionGrant := do
  .settle (verifySeal context.crypto call.sealed context.keyring)
  assertAuthorityBudgetRegistered context call.authorityBudgetId
  let now ← perform .now
  auditedCheck call "decision_envelope.authorization_failed" "blocked"
    [("envelope_id", envelope.envelopeId)] (do
      verifyDecisionEnvelope context.crypto envelope context.keyring now
      assertManifestFitsEnvelope call.sealed.manifest envelope)
  let envelopeHash := envelope.canonicalHash context.crypto
  authorizePolicy context call
  let roles ← Program.settle (combinedRoles call call.sealed.manifest.actor.principalId
    [call.issuer.principalId])
  authorizeSeparation context readers call roles
  let grant ← mintGrant context call { call.request with decisionEnvelopeHash := some envelopeHash }
  moveToAuthorized context call grant ([("decision_envelope_hash", envelopeHash),
    ("envelope_id", envelope.envelopeId)] ++ call.policyMetadata ++ roles.participationMetadata)
  pure grant

/-- The sealed manifest must be a node of the graph, whose hash the grant binds. -/
def authorizePlan (graph : CausalEffectGraph) : Action ExecutionGrant := do
  .settle (verifySeal context.crypto call.sealed context.keyring)
  assertAuthorityBudgetRegistered context call.authorityBudgetId
  auditedCheck call "atomic_plan.authorization_failed" "blocked" [("graph_id", graph.graphId)]
    (assertManifestInPlan context.crypto call.manifestHash graph context.keyring)
  let graphHash := graph.canonicalHash context.crypto
  authorizePolicy context call
  let roles ← Program.settle (combinedRoles call call.sealed.manifest.actor.principalId
    [call.issuer.principalId])
  authorizeSeparation context readers call roles
  let grant ← mintGrant context call { call.request with causalGraphHash := some graphHash }
  moveToAuthorized context call grant ([("causal_graph_hash", graphHash),
    ("graph_id", graph.graphId)] ++ call.policyMetadata ++ roles.participationMetadata)
  pure grant

/-- The further arguments of `authorize_with_quorum`; its grant issuer is the
call's issuer. -/
structure QuorumCall where
  statements : List ApprovalStatement
  approvalPolicyBundle : SealedPolicyBundle
  proposer : Principal

def quorumMetadata (quorum : QuorumResult) : List (String × String) :=
  [("approving_count", toString quorum.approvingCount),
    ("approving_principal_ids", String.intercalate "," quorum.approvingPrincipalIds),
    ("approval_set_hash", quorum.approvalSetHash),
    ("reason", clipped quorum.reason 200)]

/-- Verify the approval policy and evaluate the statements under it. -/
def requireQuorum (primitives : ApprovalPrimitives) (asked : QuorumCall) : Action QuorumResult := do
  let now ← perform .now
  auditedCheck call "approval_policy_bundle.verification_failed" "blocked"
    [("bundle_id", asked.approvalPolicyBundle.bundle.bundleId)]
    (verifyPolicyBundle context.crypto asked.approvalPolicyBundle context.keyring now
      (some "approval.v1"))
  let policy ← Program.settle (readers.approvalPolicy asked.approvalPolicyBundle.bundle.payload)
  let evaluatedAt ← perform .now
  let quorum ← Program.settle (evaluateQuorum context.crypto primitives policy {
    manifestHash := call.manifestHash
    approvalPolicyBundleHash := asked.approvalPolicyBundle.seal.bundleHash
    keyring := context.keyring
    proposer := asked.proposer
    subject := call.subject
    now := evaluatedAt } asked.statements)
  perform (.audit (call.record "approval.quorum_evaluated"
    (if quorum.satisfied then "satisfied" else "not_satisfied") (quorumMetadata quorum)))
  if quorum.satisfied then pure quorum
  else .raised ⟨.quorumNotMet, "approval quorum not met for manifest " ++ call.manifestHash ++
    ": " ++ quorum.reason⟩

/-- The grant binds the hash of the counted approvals.  Unlike the other paths,
this one checks the separation of duties before the policy bundle. -/
def authorizeWithQuorum (primitives : ApprovalPrimitives) (asked : QuorumCall) :
    Action ExecutionGrant := do
  .settle (verifySeal context.crypto call.sealed context.keyring)
  assertAuthorityBudgetRegistered context call.authorityBudgetId
  let quorum ← requireQuorum context readers call primitives asked
  let roles ← Program.settle
    (combinedRoles call asked.proposer.principalId quorum.approvingPrincipalIds)
  authorizeSeparation context readers call roles
  authorizePolicy context call
  let grant ← mintGrant context call
    { call.request with approvalSetHash := some quorum.approvalSetHash }
  moveToAuthorized context call grant ([("approval_set_hash", quorum.approvalSetHash)] ++
    call.policyMetadata ++ roles.participationMetadata)
  pure grant

/-! ### Delegation -/

/-- The arguments of `delegate`; what is left out is inherited from the parent. -/
structure DelegateCall where
  parent : ExecutionGrant
  issuer : Principal
  subject : Principal
  signingKey : SigningKey
  grantId : Option String
  nonce : Option String
  generatedId : String
  generatedNonce : String
  audience : Option (List String)
  allowedEffectTypes : Option (List String)
  scope : Option ScopeConstraints
  notBefore : Option Instant
  expiresAt : Option Instant
  maxUses : Option Int
  manifestHash : Option String
  authorityBudgetId : Option String

namespace DelegateCall

variable (delegation : DelegateCall)

/-- The child grant that is asked for. -/
def request : GrantRequest where
  grantId := orElse delegation.grantId delegation.generatedId
  issuer := delegation.issuer
  subject := delegation.subject
  audience := delegation.audience.getD delegation.parent.audience
  allowedEffectTypes := delegation.allowedEffectTypes.getD delegation.parent.allowedEffectTypes
  scope := delegation.scope.getD delegation.parent.scope
  notBefore := delegation.notBefore.getD delegation.parent.notBefore
  expiresAt := delegation.expiresAt.getD delegation.parent.expiresAt
  nonce := orElse delegation.nonce delegation.generatedNonce
  manifestHash := delegation.manifestHash
  authorityBudgetId := delegation.authorityBudgetId.or delegation.parent.authorityBudgetId
  maxUses := delegation.maxUses.getD delegation.parent.maxUses
  parentGrantId := some delegation.parent.grantId

def record (child : ExecutionGrant) (eventType decision : String)
    (metadata : List (String × String)) : AuditRecord where
  eventType := eventType
  decision := decision
  manifestId := none
  manifestHash := none
  grantId := some child.grantId
  actorId := some delegation.issuer.principalId
  fromState := none
  toState := none
  metadata := ("parent_grant_id", delegation.parent.grantId) :: metadata

end DelegateCall

/-- The candidate is signed first and discarded if it would widen its parent. -/
def delegate (delegation : DelegateCall) : Action ExecutionGrant := do
  let child ← issueGrant context delegation.request delegation.signingKey
  match assertGrantNarrowerOrEqual child delegation.parent with
  | .error error => do
      perform (.audit (delegation.record child "grant.delegation_denied" "blocked_widening" []))
      .raised error
  | .ok _ => do
      perform (.audit (delegation.record child "grant.delegated" "allowed"
        [("subject", delegation.subject.principalId)]))
      recordGrantLineage child
      pure child

/-! ### What issuing returns -/

/-- The grant is the signed form of the request. -/
def Minted (crypto : CryptoPrimitives) (request : GrantRequest) (key : SigningKey)
    (grant : ExecutionGrant) : Prop :=
  ∃ wellFormed issuedAt,
    grant = signedGrant crypto key (request.unsigned key.keyId wellFormed issuedAt)

section Returning

variable {context : EngineContext} {World : Type}
  {handler : Handler EngineOp EngineReply PyError World} {world after : World}
  {grant : ExecutionGrant}

theorem build_returns {request : GrantRequest} {keyId : String} {issuedAt : Instant}
    (built : request.build keyId issuedAt = .ok grant) :
    ∃ wellFormed, grant = request.unsigned keyId wellFormed issuedAt := by
  unfold GrantRequest.build at built
  by_cases accepted : (request.complaints keyId).all Prod.fst = true
  · rw [dif_pos accepted] at built
    exact ⟨request.well_formed keyId accepted, (Except.ok.inj built).symm⟩
  · rw [dif_neg accepted] at built
    cases built

theorem issue_grant_returns {request : GrantRequest} {key : SigningKey}
    (returned : (issueGrant context request key).Yields handler world (.ok grant) after) :
    Minted context.crypto request key grant := by
  unfold issueGrant at returned
  by_cases agent : request.issuer.principalType = .agent
  · rw [if_pos agent] at returned
    cases returned.1
  · rw [if_neg agent] at returned
    obtain ⟨issuedAt, read, _, rest⟩ := yields_bind_ok.mp returned
    obtain ⟨unsigned, built, settled, final⟩ := yields_bind_ok.mp rest
    obtain ⟨wellFormed, rfl⟩ := build_returns (yields_settle.mp settled).1.symm
    exact ⟨wellFormed, issuedAt, Except.ok.inj final.1⟩

/-- A returned child is the minted request, narrowed as the check compares it. -/
theorem delegate_returns {delegation : DelegateCall}
    (returned : (delegate context delegation).Yields handler world (.ok grant) after) :
    Minted context.crypto delegation.request delegation.signingKey grant ∧
      GrantWithin grant delegation.parent := by
  obtain ⟨child, issued, minted, rest⟩ := yields_bind_ok.mp returned
  cases narrower : assertGrantNarrowerOrEqual child delegation.parent with
  | error error =>
      simp only [narrower] at rest
      obtain ⟨_, _, _, impossible⟩ := yields_bind_ok.mp rest
      cases impossible.1
  | ok done =>
      simp only [narrower] at rest
      obtain ⟨_, _, _, recorded⟩ := yields_bind_ok.mp rest
      obtain ⟨_, _, _, final⟩ := yields_bind_ok.mp recorded
      obtain rfl := Except.ok.inj final.1
      exact ⟨issue_grant_returns minted, grant_narrower.mp narrower⟩

theorem mint_grant_returns {call : AuthorizeCall} {request : GrantRequest}
    (returned : (mintGrant context call request).Yields handler world (.ok grant) after) :
    Minted context.crypto request call.signingKey grant := by
  obtain ⟨outcome, between, issued, rest⟩ := yields_attempt.mp returned
  cases outcome with
  | ok minted =>
      obtain rfl := Except.ok.inj rest.1
      exact issue_grant_returns issued
  | error error =>
      by_cases known : error.isKarmaSakshi = true
      · simp only [known, if_true] at rest
        obtain ⟨_, _, _, impossible⟩ := yields_bind_ok.mp rest
        cases impossible.1
      · simp only [known, Bool.false_eq_true, if_false] at rest
        cases rest.1

/-- The end of every authorization path: mint, move the manifest, hand the grant on. -/
theorem minted_path_returns {call : AuthorizeCall} {request : GrantRequest}
    {finish : ExecutionGrant → Action ExecutionGrant}
    (finishes : ∀ minted current final,
      (finish minted).Yields handler current (.ok grant) final → minted = grant)
    (returned : (mintGrant context call request >>= finish).Yields handler world (.ok grant)
      after) : Minted context.crypto request call.signingKey grant := by
  obtain ⟨minted, between, issued, rest⟩ := yields_bind_ok.mp returned
  obtain rfl := finishes minted between after rest
  exact mint_grant_returns issued

theorem moved_grant_is_returned {call : AuthorizeCall} {minted : ExecutionGrant}
    {metadata : List (String × String)}
    (returned : (do
      moveToAuthorized context call minted metadata
      pure minted).Yields handler world (.ok grant) after) : minted = grant := by
  obtain ⟨_, _, _, final⟩ := yields_bind_ok.mp returned
  exact (Except.ok.inj final.1).symm

variable {readers : PayloadReaders} {call : AuthorizeCall}

theorem authorize_returns
    (returned : (authorize context readers call).Yields handler world (.ok grant) after) :
    Minted context.crypto call.request call.signingKey grant := by
  obtain ⟨_, _, _, budget⟩ := yields_bind_ok.mp returned
  obtain ⟨_, _, _, policy⟩ := yields_bind_ok.mp budget
  obtain ⟨_, _, _, combined⟩ := yields_bind_ok.mp policy
  obtain ⟨_, _, _, separation⟩ := yields_bind_ok.mp combined
  obtain ⟨_, _, _, minting⟩ := yields_bind_ok.mp separation
  refine minted_path_returns (fun minted current final rest => ?_) minting
  obtain ⟨_, _, _, recorded⟩ := yields_bind_ok.mp rest
  obtain ⟨_, _, _, last⟩ := yields_bind_ok.mp recorded
  exact (Except.ok.inj last.1).symm

theorem authorize_with_envelope_returns {envelope : DecisionEnvelope}
    (returned : (authorizeWithEnvelope context readers call envelope).Yields handler world
      (.ok grant) after) :
    Minted context.crypto { call.request with
      decisionEnvelopeHash := some (envelope.canonicalHash context.crypto) }
      call.signingKey grant := by
  obtain ⟨_, _, _, budget⟩ := yields_bind_ok.mp returned
  obtain ⟨_, _, _, clock⟩ := yields_bind_ok.mp budget
  obtain ⟨_, _, _, checks⟩ := yields_bind_ok.mp clock
  obtain ⟨_, _, _, policy⟩ := yields_bind_ok.mp checks
  obtain ⟨_, _, _, combined⟩ := yields_bind_ok.mp policy
  obtain ⟨_, _, _, separation⟩ := yields_bind_ok.mp combined
  obtain ⟨_, _, _, minting⟩ := yields_bind_ok.mp separation
  exact minted_path_returns (fun _ _ _ rest => moved_grant_is_returned rest) minting

theorem authorize_plan_returns {graph : CausalEffectGraph}
    (returned : (authorizePlan context readers call graph).Yields handler world (.ok grant)
      after) :
    Minted context.crypto { call.request with
      causalGraphHash := some (graph.canonicalHash context.crypto) } call.signingKey grant := by
  obtain ⟨_, _, _, budget⟩ := yields_bind_ok.mp returned
  obtain ⟨_, _, _, checks⟩ := yields_bind_ok.mp budget
  obtain ⟨_, _, _, policy⟩ := yields_bind_ok.mp checks
  obtain ⟨_, _, _, combined⟩ := yields_bind_ok.mp policy
  obtain ⟨_, _, _, separation⟩ := yields_bind_ok.mp combined
  obtain ⟨_, _, _, minting⟩ := yields_bind_ok.mp separation
  exact minted_path_returns (fun _ _ _ rest => moved_grant_is_returned rest) minting

theorem authorize_with_quorum_returns {primitives : ApprovalPrimitives} {asked : QuorumCall}
    (returned : (authorizeWithQuorum context readers call primitives asked).Yields handler world
      (.ok grant) after) :
    ∃ quorum : QuorumResult, Minted context.crypto { call.request with
      approvalSetHash := some quorum.approvalSetHash } call.signingKey grant := by
  obtain ⟨_, _, _, budget⟩ := yields_bind_ok.mp returned
  obtain ⟨_, _, _, evaluated⟩ := yields_bind_ok.mp budget
  obtain ⟨quorum, _, _, combined⟩ := yields_bind_ok.mp evaluated
  obtain ⟨_, _, _, separation⟩ := yields_bind_ok.mp combined
  obtain ⟨_, _, _, policy⟩ := yields_bind_ok.mp separation
  obtain ⟨_, _, _, minting⟩ := yields_bind_ok.mp policy
  exact ⟨quorum, minted_path_returns (fun _ _ _ rest => moved_grant_is_returned rest) minting⟩

end Returning

end KarmaSakshi.Engine
