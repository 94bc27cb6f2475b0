import KarmaSakshi.Domain.QuorumScenario
import KarmaSakshi.Engine.Issuance
import KarmaSakshi.Engine.Scenario

/-!
A transfer that is authorized by a quorum.

The proposer that is named to the engine is the agent; the actor of the sealed
manifest and the tenants of the engine and of the approval policy are left open.
-/

namespace KarmaSakshi.Engine

open EffectProgram KarmaSakshi.Domain

set_option autoImplicit false

namespace Approvals

def approvalSetHash : String :=
  "sha256:3f0a377ba0a4a460ecb616f6507ce0d8cfa3e704025d4fda3ed0c5ca05468728"

def primitives : ApprovalPrimitives :=
  { Officers.digests with setDigest := fun _ => approvalSetHash }

def crypto : CryptoPrimitives :=
  { Officers.crypto with
    manifestDigest := fun _ => Officers.manifestHash
    policyBundleDigest := fun _ => Officers.bundleHash }

def keyring : Keyring :=
  ⟨fun keyId =>
    if keyId ∈ ["issuer-key", "alice-key", "bob-key"] then some ⟨keyId, keyId⟩ else none⟩

def sealedBy (actor : Principal) : SealedManifest where
  manifest := { Payment.transfer with actor }
  «seal» :=
    { keyId := "issuer-key"
      manifestHash := Officers.manifestHash
      signature := "issuer-key" ++ Officers.manifestHash
      sealedAt := Payment.opening
      keyIdBounded := Payment.transferGrant.keyIdBounded
      manifestHashShape := Officers.approval.manifestHashShape }

def approvalBundle (tenantId : Option String) : SealedPolicyBundle where
  bundle :=
    { schemaVersion := "1.0"
      bundleId := "two-officers"
      bundleVersion := "1"
      policyType := "approval.v1"
      payload := "two-officers"
      issuer := Payment.treasury
      tenantId
      createdAt := Payment.opening
      effectiveFrom := Payment.opening
      effectiveUntil := none
      windowOpen := by simp }
  «seal» :=
    { keyId := "issuer-key"
      bundleHash := Officers.bundleHash
      signature := "issuer-key" ++ Officers.bundleHash
      sealedAt := Payment.opening
      bundleHashShape := Officers.approval.bundleHashShape }

def readers : PayloadReaders where
  approvalPolicy := fun _ => .ok Officers.policy
  separationPolicy := fun _ => .error ⟨.other "ValueError", "no separation policy"⟩

/-- An engine that keeps its lifecycle records in memory. -/
def context (tenantId : Option String) : EngineContext :=
  { Payment.context with crypto, keyring, hasLifecycleStore := false, tenantId }

def callFor (actor : Principal) : AuthorizeCall where
  «sealed» := sealedBy actor
  issuer := Payment.treasury
  subject := Payment.agent
  audience := ["payments"]
  allowedEffectTypes := ["payment.transfer"]
  scope := Payment.anyScope
  notBefore := Payment.opening
  expiresAt := Payment.closing
  signingKey := ⟨"issuer-key", fun data => "issuer-key" ++ data⟩
  grantId := some "grant-8"
  nonce := some "nonce-grant-8"
  generatedId := "0d7cf1a4-3f0e-4f59-8f9a-5f6a3a4c1d22"
  generatedNonce := "5c1f0b7e9a3d4e6f8a2b4c6d8e0f1a3b"
  maxUses := 1
  parentGrantId := none
  authorityBudgetId := none
  policyBundle := none
  separationPolicyBundle := none
  roleAssignment := none

/-- Alice approves; the caller names the agent as the proposer. -/
def asked (tenantId : Option String) : QuorumCall where
  statements := [Officers.signed Officers.approval]
  approvalPolicyBundle := approvalBundle tenantId
  proposer := Payment.agent

/-- The transfer is sealed. -/
def sealedWorld : World Unit :=
  { Payment.emptyWorld Unit with records := fun _ manifestId => some (.fresh manifestId .sealed) }

def handler : Handler EngineOp EngineReply PyError (World Unit) :=
  Payment.prompt.environment.answers ()

/-- What the quorum is evaluated for. -/
def question : QuorumQuestion where
  manifestHash := Officers.manifestHash
  approvalPolicyBundleHash := Officers.bundleHash
  keyring := keyring
  proposer := Payment.agent
  subject := Payment.agent
  now := Payment.noon

theorem same_hash : (Officers.signed Officers.approval).canonicalHash primitives =
    Officers.approval.canonicalHash Officers.digests :=
  congrArg Officers.digests.statementDigest rfl

/-- A signature names its key and what it signs. -/
theorem signed_by (keyId hash : String) : crypto.ed25519Verify keyId hash (keyId ++ hash) = true :=
  decide_eq_true rfl

theorem signature_holds : crypto.ed25519Verify "alice-key"
    ((Officers.signed Officers.approval).canonicalHash primitives)
    ("alice-key" ++ Officers.approval.canonicalHash Officers.digests) = true := by
  rw [same_hash]
  exact signed_by _ _

theorem alice_is_trusted : keyring.keys "alice-key" = some ⟨"alice-key", "alice-key"⟩ := by
  simp [keyring]

theorem approval_survives :
    Survives crypto primitives Officers.policy question (Officers.signed Officers.approval) := by
  refine ⟨rfl, rfl, by decide, fun _ => by decide, fun _ => by decide,
    ⟨by decide, _, _, rfl, alice_is_trusted, rfl, signature_holds⟩, by decide⟩

theorem survivors : survivorsOf crypto primitives Officers.policy question
    [Officers.signed Officers.approval] = [Officers.signed Officers.approval] := by
  rw [survivorsOf, List.filter_cons_of_pos, List.filter_nil]
  exact decide_eq_true (reject_none_iff.mpr approval_survives)

theorem approval_counted : counted .approve [Officers.signed Officers.approval] =
    [Officers.signed Officers.approval] := by
  rw [counted, Selection.chosen_singleton, sortedByApprover]
  exact List.mergeSort_singleton _

theorem seal_verifies (actor : Principal) : verifySeal crypto (sealedBy actor) keyring = .ok () := by
  apply check_then_ok.mpr
  refine ⟨rfl, keyring_verifies.mpr ⟨⟨"issuer-key", "issuer-key"⟩, by simp [keyring, sealedBy], rfl,
    signed_by _ _⟩⟩

theorem bundle_verifies (tenantId : Option String) :
    verifyPolicyBundle crypto (approvalBundle tenantId) keyring Payment.noon (some "approval.v1") =
      .ok () := by
  apply check_then_ok.mpr
  refine ⟨rfl, ?_⟩
  apply check_then_ok.mpr
  refine ⟨keyring_verifies.mpr ⟨⟨"issuer-key", "issuer-key"⟩, by simp [keyring, approvalBundle], rfl,
    signed_by _ _⟩, ?_⟩
  rfl

/-- The quorum of one officer's approval. -/
def quorum : QuorumResult :=
  quorumVerdict primitives Officers.policy question [Officers.signed Officers.approval] []

theorem quorum_evaluates : evaluateQuorum crypto primitives Officers.policy question
    [Officers.signed Officers.approval] = .ok quorum := by
  have kept := survivors
  have none : rejectReason crypto primitives Officers.policy question
      (Officers.signed Officers.approval) = none := reject_none_iff.mpr approval_survives
  have few : ¬ Officers.policy.maxStatementsConsidered < 1 := by decide
  unfold evaluateQuorum
  rw [List.length_singleton, if_neg few, List.filterMap_cons_none (by rw [none]; rfl),
    List.filterMap_nil]
  exact congrArg (fun statements => Except.ok (quorumVerdict _ _ _ statements [])) kept

theorem quorum_verdict : VerdictOn primitives Officers.policy question
    [Officers.signed Officers.approval]
    (counted .dissent [Officers.signed Officers.approval]) quorum := by
  have verdict := quorum_verdict_on primitives Officers.policy question
    [Officers.signed Officers.approval] []
  rw [approval_counted] at verdict
  exact verdict

theorem no_dissent : counted .dissent [Officers.signed Officers.approval] = [] := by
  rw [counted, Selection.chosen_singleton, sortedByApprover]
  exact List.mergeSort_nil

theorem quorum_satisfied : quorum.satisfied = true := by
  refine quorum_verdict.satisfied.mpr ⟨by decide, ?_, fun _ => no_dissent, ?_⟩
  · rw [quorum_verdict.missing]
    exact List.mergeSort_nil
  · rfl

def request : GrantRequest :=
  { (callFor Payment.agent).request with approvalSetHash := some approvalSetHash }

theorem request_builds : isError (request.build "issuer-key" Payment.noon) = false := by
  decide +kernel

theorem mint_returns (tenantId : Option String) (actor : Principal) (world : World Unit) :
    ∃ grant, Program.run (Payment.prompt.serve ())
      (mintGrant (context tenantId) (callFor actor)
        { (callFor actor).request with approvalSetHash := some approvalSetHash }) world =
        (.ok grant, world) := by
  cases built : request.build "issuer-key" Payment.noon with
  | error error =>
      have builds := request_builds
      rw [built] at builds
      cases builds
  | ok grant =>
      refine ⟨signedGrant crypto (callFor actor).signingKey grant, ?_⟩
      have human : request.issuer.principalType ≠ .agent := by decide
      show Program.run _ (mintGrant (context tenantId) (callFor actor) request) world = _
      have issued : Program.run (Payment.prompt.serve ())
          (issueGrant (context tenantId) request (callFor actor).signingKey) world =
          (.ok (signedGrant crypto (callFor actor).signingKey grant), world) := by
        rw [issueGrant, if_neg human]
        refine (run_bind_ok (run_perform _ _ _)).trans ?_
        refine (run_bind_ok (run_settle_ok built _)).trans ?_
        rfl
      rw [mintGrant, run_attempt, issued]
      rfl

theorem move_returns (tenantId : Option String) (actor : Principal) (grant : ExecutionGrant)
    (metadata : List (String × String)) (audit : List AuditRecord) :
    ∃ after, Program.run (Payment.prompt.serve ())
      (moveToAuthorized (context tenantId) (callFor actor) grant metadata)
      { sealedWorld with audit } = (.ok (), after) := by
  exact ⟨_, rfl⟩

/-- The quorum is met by alice, whoever the actor is. -/
theorem require_quorum_returns (engineTenant policyTenant : Option String) (actor : Principal) :
    ∃ audit, Program.run (Payment.prompt.serve ())
      (requireQuorum (context engineTenant) readers (callFor actor) primitives
        (asked policyTenant)) sealedWorld = (.ok quorum, { sealedWorld with audit }) := by
  have checked : ∀ eventType decision metadata, auditedCheck (callFor actor) eventType decision
      metadata (verifyPolicyBundle crypto (approvalBundle policyTenant) keyring Payment.noon
        (some "approval.v1")) = pure () := by
    intro eventType decision metadata
    rw [bundle_verifies]
    rfl
  refine ⟨[(callFor actor).record "approval.quorum_evaluated"
    (if quorum.satisfied = true then "satisfied" else "not_satisfied") (quorumMetadata quorum)], ?_⟩
  refine (run_bind_ok (run_perform _ _ _)).trans ?_
  refine (run_bind_ok ((congrArg (fun program => Program.run _ program _)
    (checked _ _ _)).trans (run_done _ () _))).trans ?_
  refine (run_bind_ok (run_settle_ok rfl _)).trans ?_
  refine (run_bind_ok (run_perform _ _ _)).trans ?_
  refine (run_bind_ok (run_settle_ok quorum_evaluates _)).trans ?_
  refine (run_bind_ok (run_perform _ _ _)).trans ?_
  exact congrArg (fun program => Program.run _ program _) (if_pos quorum_satisfied)

theorem roles_combine (actor : Principal) : ∃ roles,
    combinedRoles (callFor actor) "agent-1" quorum.approvingPrincipalIds = .ok roles := by
  rw [quorum_verdict.approvingIds]
  have combines : isError (combinedRoles (callFor Payment.agent) "agent-1" ["alice"]) = false := by
    decide +kernel
  cases combined : combinedRoles (callFor Payment.agent) "agent-1" ["alice"] with
  | ok roles => exact ⟨roles, combined⟩
  | error error =>
      rw [combined] at combines
      cases combines

theorem quorum_issues (engineTenant policyTenant : Option String) (actor : Principal) :
    ∃ grant after, (authorizeWithQuorum (context engineTenant) readers (callFor actor) primitives
      (asked policyTenant)).Yields handler sealedWorld (.ok grant) after := by
  obtain ⟨audit, required⟩ := require_quorum_returns engineTenant policyTenant actor
  obtain ⟨roles, combined⟩ := roles_combine actor
  obtain ⟨grant, minted⟩ := mint_returns engineTenant actor { sealedWorld with audit }
  obtain ⟨after, moved⟩ := move_returns engineTenant actor grant
    ([("approval_set_hash", quorum.approvalSetHash)] ++ (callFor actor).policyMetadata ++
      roles.participationMetadata) audit
  have run : Program.run (Payment.prompt.serve ()) (authorizeWithQuorum (context engineTenant)
      readers (callFor actor) primitives (asked policyTenant)) sealedWorld = (.ok grant, after) := by
    refine (run_bind_ok (run_settle_ok (seal_verifies actor) _)).trans ?_
    refine (run_bind_ok (run_done _ () _)).trans ?_
    refine (run_bind_ok required).trans ?_
    refine (run_bind_ok (run_settle_ok combined _)).trans ?_
    refine (run_bind_ok (run_done _ () _)).trans ?_
    refine (run_bind_ok (run_done _ () _)).trans ?_
    refine (run_bind_ok minted).trans ?_
    refine (run_bind_ok moved).trans ?_
    rfl
  have yields := Program.run_yields (Payment.prompt.serves ()) (authorizeWithQuorum
    (context engineTenant) readers (callFor actor) primitives (asked policyTenant)) sealedWorld
  rw [run] at yields
  exact ⟨grant, after, yields⟩

end Approvals

end KarmaSakshi.Engine
