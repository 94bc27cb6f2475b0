import KarmaSakshi.Engine.ApprovalScenario
import KarmaSakshi.Engine.CommitRun

/-!
Which signed bundles are held to the engine's tenant.

The policy bundle is, on every path but the compensation's.  The approval policy and
the separation policy are verified and evaluated, and their tenant is not looked at.
-/

namespace KarmaSakshi.Guarantees

open EffectProgram KarmaSakshi.Domain KarmaSakshi.Engine

set_option autoImplicit false

/-! ### The calls that bundles enter -/

inductive BundleCall : Type where
  | authorize (call : AuthorizeCall)
  | authorizeWithEnvelope (call : AuthorizeCall) (envelope : DecisionEnvelope)
  | authorizePlan (call : AuthorizeCall) (graph : CausalEffectGraph)
  | authorizeWithQuorum (call : AuthorizeCall) (asked : QuorumCall)
  | commit (call : CommitCall)
  | commitCompensation (call : CompensationCall)

namespace BundleCall

/-- The bundles that the call's outcome rests on.  A compensation consults its bundle only
if the grant binds one. -/
def reliesOn : BundleCall → List SealedPolicyBundle
  | authorize call | authorizeWithEnvelope call _ | authorizePlan call _ =>
      call.policyBundle.toList ++ call.separationPolicyBundle.toList
  | authorizeWithQuorum call asked =>
      call.policyBundle.toList ++ call.separationPolicyBundle.toList ++ [asked.approvalPolicyBundle]
  | commit call => call.policyBundle.toList
  | commitCompensation call =>
      if call.grant.policyBundleHash.isSome then call.policyBundle.toList else []

/-- Those whose tenant nothing compares with the engine's. -/
def uncompared : BundleCall → List SealedPolicyBundle
  | authorize call | authorizeWithEnvelope call _ | authorizePlan call _ =>
      call.separationPolicyBundle.toList
  | authorizeWithQuorum call asked =>
      call.separationPolicyBundle.toList ++ [asked.approvalPolicyBundle]
  | commit _ => []
  | commitCompensation call =>
      if call.grant.policyBundleHash.isSome then call.policyBundle.toList else []

end BundleCall

/-- A method of an adapter that touches the external system. -/
def performsEffect : EngineOp → Prop
  | .adapter _ (.commit _ _) | .adapter _ (.compensate _ _) => True
  | _ => False

section Acting

variable (context : EngineContext) (readers : PayloadReaders) (primitives : ApprovalPrimitives)
  {World : Type} (handler : Handler EngineOp EngineReply PyError World) (world : World)

def Issues (program : Action ExecutionGrant) : Prop :=
  ∃ grant after, program.Yields handler world (.ok grant) after

/-- Some run, finished or not, has performed an effect. -/
def Executes (program : Action CommitResult) : Prop :=
  ∃ events rest after, Steps handler program world events rest after ∧
    ∃ event ∈ events, performsEffect event.op

/-- The call can issue a grant or execute an effect. -/
def BundleCall.Acts : BundleCall → Prop
  | authorize call => Issues handler world (Engine.authorize context readers call)
  | authorizeWithEnvelope call envelope =>
      Issues handler world (Engine.authorizeWithEnvelope context readers call envelope)
  | authorizePlan call graph =>
      Issues handler world (Engine.authorizePlan context readers call graph)
  | authorizeWithQuorum call asked =>
      Issues handler world (Engine.authorizeWithQuorum context readers call primitives asked)
  | commit call => Executes handler world (Engine.commit context call)
  | commitCompensation call => Executes handler world (Engine.commitCompensation context call)

end Acting

def OwnBundles (tenant : String) (bundles : List SealedPolicyBundle) : Prop :=
  ∀ bundle ∈ bundles, bundle.bundle.tenantId = some tenant

section Proof

variable {context : EngineContext} {readers : PayloadReaders} {primitives : ApprovalPrimitives}
  {World : Type} {handler : Handler EngineOp EngineReply PyError World} {world after : World}
  {tenant : String}

theorem tenant_binds {presented : Option String} :
    bindEngineAndPolicyTenant (some tenant) presented = .ok () ↔ presented = some tenant := by
  unfold bindEngineAndPolicyTenant assertTenantMatch
  cases presented with
  | none => simp
  | some other =>
      by_cases differs : tenant = other
      · simp [differs]
      · simp [differs, eq_comm]

theorem own_bundles_append {bundles others : List SealedPolicyBundle} :
    OwnBundles tenant (bundles ++ others) ↔ OwnBundles tenant bundles ∧ OwnBundles tenant others := by
  unfold OwnBundles
  rw [List.forall_mem_append]

/-! ### Authorization -/

theorem authorized_policy_is_own (own : context.tenantId = some tenant) {call : AuthorizeCall}
    (returned : (authorizePolicy context call).Yields handler world (.ok ()) after) :
    OwnBundles tenant call.policyBundle.toList := by
  intro bundle presented
  have shown := Option.mem_toList.mp presented
  unfold authorizePolicy at returned
  rw [shown] at returned
  obtain ⟨_, _, _, verifying⟩ := yields_bind_ok.mp returned
  obtain ⟨_, _, _, binding⟩ := yields_bind_ok.mp verifying
  have bound := (yields_settle.mp binding).1.symm
  rw [own] at bound
  exact tenant_binds.mp bound

theorem authorize_policy_is_own (own : context.tenantId = some tenant) {call : AuthorizeCall}
    (issues : Issues handler world (authorize context readers call)) :
    OwnBundles tenant call.policyBundle.toList := by
  obtain ⟨grant, after, returned⟩ := issues
  obtain ⟨_, _, _, budget⟩ := yields_bind_ok.mp returned
  obtain ⟨_, _, _, policy⟩ := yields_bind_ok.mp budget
  obtain ⟨_, _, passed, _⟩ := yields_bind_ok.mp policy
  exact authorized_policy_is_own own passed

theorem envelope_policy_is_own (own : context.tenantId = some tenant) {call : AuthorizeCall}
    {envelope : DecisionEnvelope}
    (issues : Issues handler world (authorizeWithEnvelope context readers call envelope)) :
    OwnBundles tenant call.policyBundle.toList := by
  obtain ⟨grant, after, returned⟩ := issues
  obtain ⟨_, _, _, budget⟩ := yields_bind_ok.mp returned
  obtain ⟨_, _, _, clock⟩ := yields_bind_ok.mp budget
  obtain ⟨_, _, _, checks⟩ := yields_bind_ok.mp clock
  obtain ⟨_, _, _, policy⟩ := yields_bind_ok.mp checks
  obtain ⟨_, _, passed, _⟩ := yields_bind_ok.mp policy
  exact authorized_policy_is_own own passed

theorem plan_policy_is_own (own : context.tenantId = some tenant) {call : AuthorizeCall}
    {graph : CausalEffectGraph}
    (issues : Issues handler world (authorizePlan context readers call graph)) :
    OwnBundles tenant call.policyBundle.toList := by
  obtain ⟨grant, after, returned⟩ := issues
  obtain ⟨_, _, _, budget⟩ := yields_bind_ok.mp returned
  obtain ⟨_, _, _, checks⟩ := yields_bind_ok.mp budget
  obtain ⟨_, _, _, policy⟩ := yields_bind_ok.mp checks
  obtain ⟨_, _, passed, _⟩ := yields_bind_ok.mp policy
  exact authorized_policy_is_own own passed

theorem quorum_policy_is_own (own : context.tenantId = some tenant) {call : AuthorizeCall}
    {asked : QuorumCall}
    (issues : Issues handler world (authorizeWithQuorum context readers call primitives asked)) :
    OwnBundles tenant call.policyBundle.toList := by
  obtain ⟨grant, after, returned⟩ := issues
  obtain ⟨_, _, _, budget⟩ := yields_bind_ok.mp returned
  obtain ⟨_, _, _, evaluating⟩ := yields_bind_ok.mp budget
  obtain ⟨_, _, _, combining⟩ := yields_bind_ok.mp evaluating
  obtain ⟨_, _, _, separating⟩ := yields_bind_ok.mp combining
  obtain ⟨_, _, _, policy⟩ := yields_bind_ok.mp separating
  obtain ⟨_, _, passed, _⟩ := yields_bind_ok.mp policy
  exact authorized_policy_is_own own passed

/-! ### Execution -/

/-- A commit reaches the adapter's `commit` only past its policy gate. -/
theorem committed_policy_is_own (own : context.tenantId = some tenant) {call : CommitCall}
    (steadily : ∀ world op reply after, handler world op reply after →
      steady op = true → isError reply = false)
    (executes : Executes handler world (commit context call)) :
    OwnBundles tenant call.policyBundle.toList := by
  obtain ⟨events, rest, after, run, event, member, performs⟩ := executes
  have watched := Steps.monitored
    (fun _ events => ∀ event ∈ events, performsEffect event.op →
      OwnBundles tenant call.policyBundle.toList)
    (commit_conforms context call) (by simp) (fun current earlier op reply answered held admitted
      told => ⟨steadily current op reply answered told, ?_⟩) run
  · exact watched.2 event member performs
  · intro later inside reaches
    rcases List.mem_append.mp inside with before | last
    · exact held later before reaches
    · obtain rfl := List.mem_singleton.mp last
      cases op with
      | adapter identity inner =>
          cases inner with
          | commit manifest grant =>
              obtain ⟨_, _, _, ready⟩ := admitted
              intro bundle presented
              have bound := ready.gates.policyHeld.2 bundle (Option.mem_toList.mp presented)
                (Or.inr (by rw [own]; rfl))
              rw [own] at bound
              exact tenant_binds.mp bound
          | compensate manifest result => exact admitted.elim
          | validatePreconditions manifest => exact reaches.elim
          | verify manifest result => exact reaches.elim
      | _ => exact reaches.elim

end Proof

/-- What a grant or an effect rests on is the tenant's own if and only if the bundles that
are not compared are. -/
theorem isolated_iff_uncompared_own {context : EngineContext} {readers : PayloadReaders}
    {primitives : ApprovalPrimitives} {World : Type}
    {handler : Handler EngineOp EngineReply PyError World} {world : World} {tenant : String}
    (own : context.tenantId = some tenant)
    (steadily : ∀ world op reply after, handler world op reply after →
      steady op = true → isError reply = false)
    (call : BundleCall) (acts : call.Acts context readers primitives handler world) :
    OwnBundles tenant call.reliesOn ↔ OwnBundles tenant call.uncompared := by
  cases call with
  | authorize call =>
      rw [BundleCall.reliesOn, BundleCall.uncompared, own_bundles_append]
      exact and_iff_right (authorize_policy_is_own own acts)
  | authorizeWithEnvelope call envelope =>
      rw [BundleCall.reliesOn, BundleCall.uncompared, own_bundles_append]
      exact and_iff_right (envelope_policy_is_own own acts)
  | authorizePlan call graph =>
      rw [BundleCall.reliesOn, BundleCall.uncompared, own_bundles_append]
      exact and_iff_right (plan_policy_is_own own acts)
  | authorizeWithQuorum call asked =>
      rw [BundleCall.reliesOn, BundleCall.uncompared, List.append_assoc, own_bundles_append]
      exact and_iff_right (quorum_policy_is_own own acts)
  | commit call =>
      refine iff_of_true (committed_policy_is_own own steadily acts) ?_
      intro bundle impossible
      cases impossible
  | commitCompensation call => exact Iff.rfl

/-! ### Another tenant's approval policy -/

/-- The engine of one tenant issues a grant under the approval policy of another. -/
theorem foreign_approval_policy_issues : ∃ grant after,
    (authorizeWithQuorum (Approvals.context (some "acme")) Approvals.readers
      (Approvals.callFor Payment.agent) Approvals.primitives
      (Approvals.asked (some "globex"))).Yields Approvals.handler Approvals.sealedWorld (.ok grant)
        after ∧
    ¬ OwnBundles "acme" (BundleCall.authorizeWithQuorum (Approvals.callFor Payment.agent)
      (Approvals.asked (some "globex"))).reliesOn := by
  obtain ⟨grant, after, returned⟩ := Approvals.quorum_issues (some "acme") (some "globex")
    Payment.agent
  refine ⟨grant, after, returned, ?_⟩
  intro isolated
  have same := isolated (Approvals.approvalBundle (some "globex")) (by simp [BundleCall.reliesOn,
    Approvals.asked])
  exact absurd same (by decide)

theorem own_approval_policy_is_isolated :
    OwnBundles "acme" (BundleCall.authorizeWithQuorum (Approvals.callFor Payment.agent)
      (Approvals.asked (some "acme"))).reliesOn := by
  have own : (Approvals.context (some "acme")).tenantId = some "acme" := rfl
  have acts : (BundleCall.authorizeWithQuorum (Approvals.callFor Payment.agent)
      (Approvals.asked (some "acme"))).Acts (Approvals.context (some "acme")) Approvals.readers
        Approvals.primitives Approvals.handler Approvals.sealedWorld :=
    Approvals.quorum_issues (some "acme") (some "acme") Payment.agent
  apply (isolated_iff_uncompared_own own (fun _ _ _ _ => answers_steadily) _ acts).mpr
  intro bundle member
  obtain rfl := List.mem_singleton.mp member
  rfl

end KarmaSakshi.Guarantees
