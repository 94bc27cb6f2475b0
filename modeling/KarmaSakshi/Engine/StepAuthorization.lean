import KarmaSakshi.Engine.SagaWrites
import KarmaSakshi.Engine.TransitionEnds

/-!
The two halves of authorizing a plan: checking and minting, which only reads the clock and
audits, and the move of the manifest.  A saga step adds the machine's own guard to them.
-/

namespace KarmaSakshi.Engine

open EffectProgram KarmaSakshi.Domain KarmaSakshi.Stores

set_option autoImplicit false

/-- The event that announces an issued grant. -/
def AuditRecord.announcesGrant (record : AuditRecord) : Prop :=
  record.eventType = "grant.issued" ∧ record.decision = "allowed"

/-- Nothing was audited that announces a grant. -/
def NothingIssued {Host : Type} (before after : World Host) : Prop :=
  ∃ audited, after.audit = before.audit ++ audited ∧
    ∀ record ∈ audited, ¬ record.announcesGrant

/-- Only the journal has changed, and it announces no grant. -/
structure OnlyChecked {Host : Type} (before after : World Host) : Prop where
  only : after = { before with audit := after.audit }
  issued : NothingIssued before after

def checksOnly : EngineOp → Prop
  | .now => True
  | .audit record => ¬ record.announcesGrant
  | _ => False

section Plan

variable (context : EngineContext) (readers : PayloadReaders) (call : AuthorizeCall)
  (graph : CausalEffectGraph)

/-- `authorize_plan` up to its grant. -/
def mintPlan : Action (ExecutionGrant × RoleAssignment) := do
  .settle (verifySeal context.crypto call.sealed context.keyring)
  assertAuthorityBudgetRegistered context call.authorityBudgetId
  auditedCheck call "atomic_plan.authorization_failed" "blocked" [("graph_id", graph.graphId)]
    (assertManifestInPlan context.crypto call.manifestHash graph context.keyring)
  authorizePolicy context call
  let roles ← Program.settle (combinedRoles call call.sealed.manifest.actor.principalId
    [call.issuer.principalId])
  authorizeSeparation context readers call roles
  let grant ← mintGrant context call
    { call.request with causalGraphHash := some (graph.canonicalHash context.crypto) }
  pure (grant, roles)

def planMetadata (roles : RoleAssignment) : List (String × String) :=
  [("causal_graph_hash", graph.canonicalHash context.crypto), ("graph_id", graph.graphId)] ++
    call.policyMetadata ++ roles.participationMetadata

theorem authorize_plan_mints : authorizePlan context readers call graph =
    (do
      let minted ← mintPlan context readers call graph
      moveToAuthorized context call minted.1 (planMetadata context call graph minted.2)
      pure minted.1) := by
  simp only [mintPlan, Program.bind_bind]
  rfl

end Plan

/-! ### The checks -/

section Checks

variable {context : EngineContext} {readers : PayloadReaders} {call : AuthorizeCall}
  {graph : CausalEffectGraph}

theorem audited_check_uses {eventType decision : String} {metadata : List (String × String)}
    {check : Except PyError Unit} (quiet : ¬ decision = "allowed") :
    (auditedCheck call eventType decision metadata check).Uses checksOnly := by
  unfold auditedCheck
  cases check with
  | ok _ => trivial
  | error error =>
      by_cases known : error.isKarmaSakshi = true
      · simp only [known, if_true]
        refine Program.Uses.after ?_ (fun _ => trivial)
        rintro ⟨_, allowed⟩
        exact quiet allowed
      · simp only [known, if_false, Bool.false_eq_true]
        trivial

theorem clock_uses {Value : Type} {next : Instant → Action Value}
    (uses : ∀ now, (next now).Uses checksOnly) : (perform .now >>= next).Uses checksOnly :=
  Program.Uses.after trivial uses

theorem settle_then_uses {Value Result : Type} {settled : Except PyError Value}
    {next : Value → Action Result} (uses : ∀ value, (next value).Uses checksOnly) :
    (Program.settle settled >>= next : Action Result).Uses checksOnly :=
  Program.Uses.bind (Program.uses_settle _ _) uses

theorem authorize_policy_uses : (authorizePolicy context call).Uses checksOnly := by
  unfold authorizePolicy
  cases call.policyBundle with
  | none => trivial
  | some bundle =>
      exact clock_uses (fun now => Program.Uses.bind (audited_check_uses (by decide))
        (fun _ => Program.uses_settle _ _))

theorem authorize_separation_uses {roles : RoleAssignment} :
    (authorizeSeparation context readers call roles).Uses checksOnly := by
  unfold authorizeSeparation
  cases call.separationPolicyBundle with
  | none => trivial
  | some bundle =>
      refine clock_uses (fun now => Program.Uses.bind (audited_check_uses (by decide))
        (fun _ => settle_then_uses (fun policy => ?_)))
      refine Program.Uses.after ?_ (fun _ => ?_)
      · rintro ⟨other, _⟩
        exact absurd other (by simp [AuthorizeCall.record])
      · by_cases satisfied : (checkSeparationOfDuty roles policy).satisfied = true
        · rw [if_pos satisfied]
          trivial
        · rw [if_neg satisfied]
          trivial

theorem mint_grant_uses {request : GrantRequest} :
    (mintGrant context call request).Uses checksOnly := by
  refine Program.Uses.attempt ?_ (fun outcome => ?_)
  · unfold issueGrant
    by_cases agent : request.issuer.principalType = .agent
    · rw [if_pos agent]
      trivial
    · rw [if_neg agent]
      exact clock_uses (fun issuedAt => settle_then_uses (fun grant => trivial))
  · cases outcome with
    | ok grant => trivial
    | error error =>
        by_cases known : error.isKarmaSakshi = true
        · simp only [known, if_true]
          refine Program.Uses.after ?_ (fun _ => trivial)
          rintro ⟨other, _⟩
          exact absurd other (by simp [AuthorizeCall.record])
        · simp only [known, if_false, Bool.false_eq_true]
          trivial

theorem mint_plan_uses (unbudgeted : call.authorityBudgetId = none) :
    (mintPlan context readers call graph).Uses checksOnly := by
  unfold mintPlan
  rw [unbudgeted]
  refine settle_then_uses (fun _ => ?_)
  refine Program.Uses.bind trivial (fun _ => ?_)
  refine Program.Uses.bind (audited_check_uses (by decide)) (fun _ => ?_)
  refine Program.Uses.bind authorize_policy_uses (fun _ => ?_)
  refine settle_then_uses (fun roles => ?_)
  refine Program.Uses.bind authorize_separation_uses (fun _ => ?_)
  exact Program.Uses.bind mint_grant_uses (fun grant => trivial)

end Checks

/-! ### The ends of a plan authorization -/

section Ends

variable {Host : Type} [DecidableEq Host] {environment : Environment} {host : Host}
  {context : EngineContext} {readers : PayloadReaders} {call : AuthorizeCall}
  {graph : CausalEffectGraph} {world : World Host}

omit [DecidableEq Host] in
theorem NothingIssued.refl : NothingIssued world world :=
  ⟨[], (List.append_nil _).symm, List.forall_mem_nil _⟩

omit [DecidableEq Host] in
theorem NothingIssued.trans {between after : World Host} (first : NothingIssued world between)
    (second : NothingIssued between after) : NothingIssued world after := by
  obtain ⟨early, grew, quiet⟩ := first
  obtain ⟨late, grown, silent⟩ := second
  refine ⟨early ++ late, by rw [grown, grew, List.append_assoc], ?_⟩
  intro record member
  rcases List.mem_append.mp member with inside | inside
  · exact quiet record inside
  · exact silent record inside

omit [DecidableEq Host] in
theorem OnlyBlocked.nothing_issued {after : World Host} (blocked : OnlyBlocked world after) :
    NothingIssued world after := by
  obtain ⟨records, grown, denials⟩ := blocked
  exact ⟨records, grown, fun record member announces => denials record member announces.2⟩

omit [DecidableEq Host] in
theorem OnlyChecked.record {after : World Host} (checked : OnlyChecked world after)
    (manifestId : String) :
    after.recordOf context host manifestId = world.recordOf context host manifestId := by
  rw [checked.only]
  rfl

omit [DecidableEq Host] in
theorem OnlyChecked.lifecycle {after : World Host} (checked : OnlyChecked world after) :
    after.lifecycle = world.lifecycle := by
  rw [checked.only]

theorem checks_keep {program : Action (ExecutionGrant × RoleAssignment)}
    (uses : program.Uses checksOnly) :
    Ensures (environment.answers host) program world (fun _ after => OnlyChecked world after) := by
  refine uses.ensures ⟨rfl, NothingIssued.refl⟩ ?_
  intro current op reply answered checked permitted told
  cases op with
  | now =>
      obtain ⟨_, rfl⟩ := told
      exact checked
  | audit record =>
      rcases told with ⟨_, _, _, rfl⟩ | ⟨_, rfl⟩
      · exact checked
      · refine ⟨?_, checked.issued.trans ⟨[record], rfl, ?_⟩⟩
        · rw [checked.only]
        · intro other member
          rw [List.mem_singleton.mp member]
          exact permitted
  | _ => exact permitted.elim

/-- The authorization gets to its grant. -/
def Mintable (environment : Environment) (host : Host) (context : EngineContext)
    (readers : PayloadReaders) (call : AuthorizeCall) (graph : CausalEffectGraph)
    (world : World Host) : Prop :=
  ∃ minted between, (mintPlan context readers call graph).Yields (environment.answers host) world
    (.ok minted) between

/-- How a plan authorization may end: it refuses and nothing has moved, it returns its grant
for the sealed manifest, or it is torn by the end of its transition. -/
inductive PlanEnd (environment : Environment) (host : Host) (context : EngineContext)
    (readers : PayloadReaders) (call : AuthorizeCall) (graph : CausalEffectGraph)
    (before : World Host) : Except PyError ExecutionGrant → World Host → Prop where
  | kept {error : PyError} {after : World Host}
      (same : SameLifecycle context host call.manifestId before after)
      (issued : NothingIssued before after) :
      PlanEnd environment host context readers call graph before (.error error) after
  | granted {grant : ExecutionGrant} {after : World Host}
      (mints : Mintable environment host context readers call graph before)
      (isSealed : (before.recordOf context host call.manifestId).state = .sealed)
      (writes : WritesThrough context call.manifestId .sealed before)
      (binds : grant.manifestHash = some call.manifestHash) :
      PlanEnd environment host context readers call graph before (.ok grant) after
  | torn {error : PyError} {after : World Host}
      (mints : Mintable environment host context readers call graph before)
      (isSealed : (before.recordOf context host call.manifestId).state = .sealed)
      (fault : (context.hasLifecycleStore = true ∧ environment.mayRaise .lifecycle error ∧
          ¬ error.isStoreUnavailable = true) ∨
        WritesThrough context call.manifestId .sealed before ∧
          environment.mayRaise .audit error) :
      PlanEnd environment host context readers call graph before (.error error) after

theorem legal_into_authorized {state : LifecycleState}
    (legal : LifecycleState.isLegalTransition state .authorized = true) : state = .sealed := by
  cases state <;> first | rfl | exact absurd legal (by decide)

theorem minted_grant_binds {minted : ExecutionGrant × RoleAssignment} {after : World Host}
    (returned : (mintPlan context readers call graph).Yields (environment.answers host) world
      (.ok minted) after) : minted.1.manifestHash = some call.manifestHash := by
  unfold mintPlan at returned
  obtain ⟨_, _, _, budget⟩ := yields_bind_ok.mp returned
  obtain ⟨_, _, _, checks⟩ := yields_bind_ok.mp budget
  obtain ⟨_, _, _, policy⟩ := yields_bind_ok.mp checks
  obtain ⟨_, _, _, combined⟩ := yields_bind_ok.mp policy
  obtain ⟨roles, _, _, separation⟩ := yields_bind_ok.mp combined
  obtain ⟨_, _, _, minting⟩ := yields_bind_ok.mp separation
  obtain ⟨grant, _, issued, final⟩ := yields_bind_ok.mp minting
  obtain ⟨wellFormed, issuedAt, rfl⟩ := mint_grant_returns issued
  rw [Except.ok.inj final.1]
  rfl

theorem plan_ends (unbudgeted : call.authorityBudgetId = none) :
    Ensures (environment.answers host) (authorizePlan context readers call graph) world
      (PlanEnd environment host context readers call graph world) := by
  rw [authorize_plan_mints]
  intro outcome after yields
  rcases yields_bind.mp yields with ⟨minted, between, mints, moves⟩ | ⟨error, refused, rfl⟩
  · have checked := checks_keep (mint_plan_uses unbudgeted) _ _ mints
    have mintable : Mintable environment host context readers call graph world :=
      ⟨minted, between, mints⟩
    have seals : ∀ legal : LifecycleState.isLegalTransition
        (between.recordOf context host call.manifestId).state .authorized = true,
        (world.recordOf context host call.manifestId).state = .sealed := by
      intro legal
      rw [checked.record] at legal
      exact legal_into_authorized legal
    have writesBefore : ∀ state, (world.recordOf context host call.manifestId).state = .sealed →
        (between.recordOf context host call.manifestId).state = state →
        WritesThrough context call.manifestId state between →
          WritesThrough context call.manifestId .sealed world := by
      intro state isSealed current writes
      rw [checked.record, isSealed] at current
      rw [← current] at writes
      exact writes.elsewhere checked.lifecycle.symm
    rcases yields_bind.mp moves with ⟨_, moved, transits, final⟩ | ⟨error, fails, rfl⟩
    · obtain ⟨rfl, rfl⟩ := final
      obtain ⟨record, _, transition, _, _⟩ := yields_bind_ok.mp transits
      cases transition_ends _ _ transition with
      | moved legal writes holds audited =>
          exact .granted mintable (seals legal) (writesBefore _ (seals legal) rfl writes)
            (minted_grant_binds mints)
    · have stops : ∃ current, (transition context call.manifestId .authorized {
          eventType := "grant.issued"
          manifestHash := some call.manifestHash
          grantId := some minted.1.grantId
          actorId := some call.issuer.principalId
          metadata := ("subject", call.subject.principalId) ::
            planMetadata context call graph minted.2 }).Yields (environment.answers host) between
              (.error error) current ∧ current = after := by
        rcases yields_bind.mp fails with ⟨_, _, _, impossible, _⟩ | ⟨_, transits, same⟩
        · cases impossible
        · cases same
          exact ⟨after, transits, rfl⟩
      obtain ⟨_, transits, rfl⟩ := stops
      cases transition_ends _ _ transits with
      | kept same blocked =>
          refine .kept ⟨?_, ?_, ?_⟩ (checked.issued.trans blocked.nothing_issued)
          · rw [same.state, checked.record]
          · rw [same.history, checked.record]
          · rw [same.durable, checked.lifecycle]
      | unaudited legal writes raises holds =>
          exact .torn mintable (seals legal)
            (Or.inr ⟨writesBefore _ (seals legal) rfl writes, raises⟩)
      | ahead legal stored raises uncaught memory =>
          exact .torn mintable (seals legal) (Or.inl ⟨stored, raises, uncaught⟩)
  · have checked := checks_keep (mint_plan_uses unbudgeted) _ _ refused
    refine .kept ⟨?_, ?_, ?_⟩ checked.issued
    · rw [checked.record]
    · rw [checked.record]
    · rw [checked.lifecycle]

end Ends

end KarmaSakshi.Engine
