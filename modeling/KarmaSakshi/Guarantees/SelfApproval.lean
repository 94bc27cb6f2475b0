import KarmaSakshi.Engine.ApprovalScenario

/-!
Whether the actor of a manifest may approve it.

The quorum leaves out the principal that the caller names as the proposer, and the
roles are checked with that principal as the proposer.  Nothing compares it with the
actor of the sealed manifest.
-/

namespace KarmaSakshi.Guarantees

open EffectProgram KarmaSakshi.Domain KarmaSakshi.Engine Selection
open KarmaSakshi.Domain.ApprovalStatement (approverId rank)

set_option autoImplicit false

section Statement

variable (context : EngineContext) (readers : PayloadReaders) (call : AuthorizeCall)
  (primitives : ApprovalPrimitives) (asked : QuorumCall)

def actorId : String := call.sealed.manifest.actor.principalId

/-- The question that the engine evaluates the statements for. -/
def questionAt (evaluatedAt : Instant) : QuorumQuestion where
  manifestHash := call.manifestHash
  approvalPolicyBundleHash := asked.approvalPolicyBundle.seal.bundleHash
  keyring := context.keyring
  proposer := asked.proposer
  subject := call.subject
  now := evaluatedAt

/-- What `authorize_with_quorum` issued a grant on. -/
structure QuorumIssue where
  policy : ApprovalPolicy
  evaluatedAt : Instant
  quorum : QuorumResult
  roles : RoleAssignment

/-- The statements that count as approvals. -/
def QuorumIssue.approvals (issue : QuorumIssue) : List ApprovalStatement :=
  counted .approve (survivorsOf context.crypto primitives issue.policy
    (questionAt context call asked issue.evaluatedAt) asked.statements)

structure IssuedOn (issue : QuorumIssue) (grant : ExecutionGrant) : Prop where
  reads : readers.approvalPolicy asked.approvalPolicyBundle.bundle.payload = .ok issue.policy
  evaluated : evaluateQuorum context.crypto primitives issue.policy
    (questionAt context call asked issue.evaluatedAt) asked.statements = .ok issue.quorum
  met : issue.quorum.satisfied = true
  combined : combinedRoles call asked.proposer.principalId issue.quorum.approvingPrincipalIds =
    .ok issue.roles
  separated : ∀ bundle ∈ call.separationPolicyBundle, ∃ separation,
    readers.separationPolicy bundle.bundle.payload = .ok separation ∧
      (checkSeparationOfDuty issue.roles separation).satisfied = true
  minted : Minted context.crypto
    { call.request with approvalSetHash := some issue.quorum.approvalSetHash } call.signingKey grant

/-- No approver that counts is the actor, and the actor is a proposer wherever roles are
checked. -/
structure NoSelfApproval (issue : QuorumIssue) : Prop where
  uncounted : actorId call ∉ issue.quorum.approvingPrincipalIds
  unroled : ∀ role ∈ issue.policy.requiredRoles,
    ∀ statement ∈ issue.approvals context call primitives asked,
      statement.role = some role → statement.approver.principalId ≠ actorId call
  proposes : call.separationPolicyBundle.isSome →
    (.proposer, actorId call) ∈ issue.roles.assignments

/-- The statement of the actor that would be authoritative, if any, is no approval. -/
def ActorAbstains (issue : QuorumIssue) : Prop :=
  ∀ statement, chosenOf approverId rank (survivorsOf context.crypto primitives issue.policy
      (questionAt context call asked issue.evaluatedAt) asked.statements) (actorId call) =
        some statement →
    statement.decision ≠ .approve

/-- The caller names the actor as the proposer; or the actor does not approve, and the
caller's own assignment names it where roles are checked. -/
def ActorDeclared (issue : QuorumIssue) : Prop :=
  asked.proposer.principalId = actorId call ∨
    ActorAbstains context call primitives asked issue ∧
      (call.separationPolicyBundle.isSome →
        ∃ further ∈ call.roleAssignment, (.proposer, actorId call) ∈ further.assignments)

end Statement

section Proof

variable {context : EngineContext} {readers : PayloadReaders} {call : AuthorizeCall}
  {primitives : ApprovalPrimitives} {asked : QuorumCall} {issue : QuorumIssue}
  {grant : ExecutionGrant} {World : Type} {handler : Handler EngineOp EngineReply PyError World}
  {world after : World}

/-! ### What a grant was issued on -/

theorem require_quorum_reads {quorum : QuorumResult}
    (returned : (requireQuorum context readers call primitives asked).Yields handler world
      (.ok quorum) after) :
    ∃ policy evaluatedAt,
      readers.approvalPolicy asked.approvalPolicyBundle.bundle.payload = .ok policy ∧
      evaluateQuorum context.crypto primitives policy (questionAt context call asked evaluatedAt)
        asked.statements = .ok quorum ∧ quorum.satisfied = true := by
  obtain ⟨_, _, _, checked⟩ := yields_bind_ok.mp returned
  obtain ⟨_, _, _, reading⟩ := yields_bind_ok.mp checked
  obtain ⟨policy, _, read, clock⟩ := yields_bind_ok.mp reading
  obtain ⟨evaluatedAt, _, _, evaluating⟩ := yields_bind_ok.mp clock
  obtain ⟨result, _, evaluated, recording⟩ := yields_bind_ok.mp evaluating
  obtain ⟨_, _, _, final⟩ := yields_bind_ok.mp recording
  by_cases met : result.satisfied = true
  · rw [if_pos met] at final
    obtain rfl := Except.ok.inj final.1
    exact ⟨policy, evaluatedAt, (yields_settle.mp read).1.symm,
      (yields_settle.mp evaluated).1.symm, met⟩
  · rw [if_neg met] at final
    cases final.1

theorem separation_holds {roles : RoleAssignment}
    (returned : (authorizeSeparation context readers call roles).Yields handler world (.ok ())
      after) :
    ∀ bundle ∈ call.separationPolicyBundle, ∃ separation,
      readers.separationPolicy bundle.bundle.payload = .ok separation ∧
        (checkSeparationOfDuty roles separation).satisfied = true := by
  intro bundle presented
  unfold authorizeSeparation at returned
  rw [Option.mem_def.mp presented] at returned
  obtain ⟨_, _, _, checked⟩ := yields_bind_ok.mp returned
  obtain ⟨_, _, _, reading⟩ := yields_bind_ok.mp checked
  obtain ⟨separation, _, read, recording⟩ := yields_bind_ok.mp reading
  obtain ⟨_, _, _, final⟩ := yields_bind_ok.mp recording
  by_cases held : (checkSeparationOfDuty roles separation).satisfied = true
  · exact ⟨separation, (yields_settle.mp read).1.symm, held⟩
  · rw [if_neg held] at final
    cases final.1

theorem quorum_grant_issued_on
    (returned : (authorizeWithQuorum context readers call primitives asked).Yields handler world
      (.ok grant) after) :
    ∃ issue, IssuedOn context readers call primitives asked issue grant := by
  obtain ⟨_, _, _, budget⟩ := yields_bind_ok.mp returned
  obtain ⟨_, _, _, evaluating⟩ := yields_bind_ok.mp budget
  obtain ⟨quorum, _, required, combining⟩ := yields_bind_ok.mp evaluating
  obtain ⟨roles, _, combined, separating⟩ := yields_bind_ok.mp combining
  obtain ⟨_, _, separated, policed⟩ := yields_bind_ok.mp separating
  obtain ⟨_, _, _, minting⟩ := yields_bind_ok.mp policed
  obtain ⟨policy, evaluatedAt, reads, evaluated, met⟩ := require_quorum_reads required
  exact ⟨⟨policy, evaluatedAt, quorum, roles⟩, reads, evaluated, met,
    (yields_settle.mp combined).1.symm, separation_holds separated,
    minted_path_returns (fun _ _ _ rest => moved_grant_is_returned rest) minting⟩

/-! ### Who counts -/

theorem evaluated_approvers (issued : IssuedOn context readers call primitives asked issue grant) :
    issue.quorum.approvingPrincipalIds =
      (issue.approvals context call primitives asked).map approverId := by
  have evaluated := issued.evaluated
  unfold evaluateQuorum at evaluated
  split_ifs at evaluated with large
  have verdict := quorum_verdict_on primitives issue.policy
    (questionAt context call asked issue.evaluatedAt) (survivorsOf context.crypto primitives
      issue.policy (questionAt context call asked issue.evaluatedAt) asked.statements)
  rw [← Except.ok.inj evaluated]
  exact (verdict _).approvingIds

theorem counted_survives {statement : ApprovalStatement}
    (member : statement ∈ issue.approvals context call primitives asked) :
    Survives context.crypto primitives issue.policy
      (questionAt context call asked issue.evaluatedAt) statement :=
  (mem_survivors.mp (chosen_greatest (mem_counted.mp member).1).member).2

/-- A named proposer is left out. -/
theorem named_proposer_uncounted (forbids : issue.policy.forbidProposerAsApprover = true)
    (named : asked.proposer.principalId = actorId call) {statement : ApprovalStatement}
    (member : statement ∈ issue.approvals context call primitives asked) :
    statement.approver.principalId ≠ actorId call := by
  intro same
  exact (counted_survives member).notProposer forbids (same.trans named.symm)

/-- An actor that abstains is not counted. -/
theorem abstaining_actor_uncounted (abstains : ActorAbstains context call primitives asked issue)
    {statement : ApprovalStatement}
    (member : statement ∈ issue.approvals context call primitives asked) :
    statement.approver.principalId ≠ actorId call := by
  intro same
  obtain ⟨chosen, approves⟩ := mem_counted.mp member
  have choice := mem_chosen.mp chosen
  rw [show approverId statement = actorId call from same] at choice
  exact abstains statement choice approves

theorem uncounted_actor_abstains
    (uncounted : ∀ statement ∈ issue.approvals context call primitives asked,
      statement.approver.principalId ≠ actorId call) :
    ActorAbstains context call primitives asked issue := by
  intro statement choice approves
  have owned : approverId statement = actorId call := (chosen_of_greatest choice).1
  have chosen := mem_chosen.mpr (owned.symm ▸ choice)
  exact uncounted statement (mem_counted.mpr ⟨chosen, approves⟩) owned

/-- The roles that are checked name the caller's proposer and whom the caller adds. -/
theorem proposer_in_roles (issued : IssuedOn context readers call primitives asked issue grant)
    {principalId : String} :
    (.proposer, principalId) ∈ issue.roles.assignments ↔
      asked.proposer.principalId = principalId ∨
        ∃ further ∈ call.roleAssignment, (.proposer, principalId) ∈ further.assignments := by
  have combined := issued.combined
  unfold combinedRoles at combined
  cases based : baseRoleAssignment call.manifestHash asked.proposer.principalId
      call.subject.principalId issue.quorum.approvingPrincipalIds with
  | error error =>
      rw [based] at combined
      cases combined
  | ok base =>
      rw [based] at combined
      rw [mem_merged combined, mem_base_entries based]
      simp [eq_comm]

end Proof

/-- With a policy that forbids the proposer as an approver, the actor neither counts nor
escapes the role check if and only if the caller declares it. -/
theorem self_approval_excluded_iff {context : EngineContext} {readers : PayloadReaders}
    {call : AuthorizeCall} {primitives : ApprovalPrimitives} {asked : QuorumCall} {World : Type}
    {handler : Handler EngineOp EngineReply PyError World} {world after : World}
    {grant : ExecutionGrant}
    (returned : (authorizeWithQuorum context readers call primitives asked).Yields handler world
      (.ok grant) after) :
    (∃ issue, IssuedOn context readers call primitives asked issue grant) ∧
      ∀ issue, IssuedOn context readers call primitives asked issue grant →
        issue.policy.forbidProposerAsApprover = true →
          (NoSelfApproval context call primitives asked issue ↔
            ActorDeclared context call primitives asked issue) := by
  refine ⟨quorum_grant_issued_on returned, ?_⟩
  intro issue issued forbids
  have approvers := evaluated_approvers issued
  constructor
  · intro excluded
    have uncounted : ∀ statement ∈ issue.approvals context call primitives asked,
        statement.approver.principalId ≠ actorId call := by
      intro statement member same
      apply excluded.uncounted
      rw [approvers, ← same]
      exact List.mem_map_of_mem member
    by_cases named : asked.proposer.principalId = actorId call
    · exact Or.inl named
    · refine Or.inr ⟨uncounted_actor_abstains uncounted, ?_⟩
      intro checked
      exact ((proposer_in_roles issued).mp (excluded.proposes checked)).resolve_left named
  · intro declared
    have uncounted : ∀ statement ∈ issue.approvals context call primitives asked,
        statement.approver.principalId ≠ actorId call := by
      intro statement member
      rcases declared with named | ⟨abstains, _⟩
      · exact named_proposer_uncounted forbids named member
      · exact abstaining_actor_uncounted abstains member
    constructor
    · intro counts
      rw [approvers] at counts
      obtain ⟨statement, member, same⟩ := List.mem_map.mp counts
      exact uncounted statement member same
    · intro role _ statement member _
      exact uncounted statement member
    · intro checked
      apply (proposer_in_roles issued).mpr
      rcases declared with named | ⟨_, further⟩
      · exact Or.inl named
      · exact Or.inr (further checked)

/-! ### Alice's approval of a transfer -/

theorem officers_policy_forbids {call : AuthorizeCall} {issue : QuorumIssue}
    {engineTenant policyTenant : Option String} {grant : ExecutionGrant}
    (issued : IssuedOn (Approvals.context engineTenant) Approvals.readers call Approvals.primitives
      (Approvals.asked policyTenant) issue grant) : issue.policy = Officers.policy :=
  (Except.ok.inj issued.reads).symm

/-- Alice is the actor and approves; the caller names the agent as the proposer. -/
theorem actor_approves_own_transfer : ∃ grant after issue,
    (authorizeWithQuorum (Approvals.context none) Approvals.readers
      (Approvals.callFor Payment.owner) Approvals.primitives (Approvals.asked none)).Yields
        Approvals.handler Approvals.sealedWorld (.ok grant) after ∧
    IssuedOn (Approvals.context none) Approvals.readers (Approvals.callFor Payment.owner)
      Approvals.primitives (Approvals.asked none) issue grant ∧
    issue.policy.forbidProposerAsApprover = true ∧
    ¬ NoSelfApproval (Approvals.context none) (Approvals.callFor Payment.owner)
      Approvals.primitives (Approvals.asked none) issue := by
  obtain ⟨grant, after, returned⟩ := Approvals.quorum_issues none none Payment.owner
  obtain ⟨issue, issued⟩ := quorum_grant_issued_on returned
  have policy := officers_policy_forbids issued
  refine ⟨grant, after, issue, returned, issued, by rw [policy]; rfl, ?_⟩
  intro excluded
  apply excluded.uncounted
  have evaluated := issued.evaluated
  have approvers := evaluated_approvers issued
  have met := issued.met
  have enough : 1 ≤ (issue.approvals (Approvals.context none) (Approvals.callFor Payment.owner)
      Approvals.primitives (Approvals.asked none)).length := by
    unfold evaluateQuorum at evaluated
    split_ifs at evaluated with large
    rw [← Except.ok.inj evaluated] at met
    have required := ((quorum_verdict_on _ _ _ _ _).satisfied.mp met).1
    exact issue.policy.requiredApprovalsPositive.trans required
  obtain ⟨statement, member⟩ := List.exists_mem_of_length_pos enough
  have submitted := (mem_survivors.mp (chosen_greatest (mem_counted.mp member).1).member).1
  rw [approvers]
  refine List.mem_map.mpr ⟨statement, member, ?_⟩
  rw [List.mem_singleton.mp submitted]
  rfl

/-- The agent is the actor and is named as the proposer. -/
theorem agent_transfer_is_approved : ∃ grant after issue,
    (authorizeWithQuorum (Approvals.context none) Approvals.readers
      (Approvals.callFor Payment.agent) Approvals.primitives (Approvals.asked none)).Yields
        Approvals.handler Approvals.sealedWorld (.ok grant) after ∧
    IssuedOn (Approvals.context none) Approvals.readers (Approvals.callFor Payment.agent)
      Approvals.primitives (Approvals.asked none) issue grant ∧
    NoSelfApproval (Approvals.context none) (Approvals.callFor Payment.agent)
      Approvals.primitives (Approvals.asked none) issue := by
  obtain ⟨grant, after, returned⟩ := Approvals.quorum_issues none none Payment.agent
  obtain ⟨⟨issue, issued⟩, exactly⟩ := self_approval_excluded_iff returned
  refine ⟨grant, after, issue, returned, issued, (exactly issue issued ?_).mpr (Or.inl rfl)⟩
  rw [officers_policy_forbids issued]
  rfl

end KarmaSakshi.Guarantees
