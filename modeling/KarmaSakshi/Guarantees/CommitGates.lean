import KarmaSakshi.Engine.Scenario
import KarmaSakshi.Guarantees.LifecycleSafety

/-!
Gate soundness of a commit.

Whatever the configuration of the engine, the state of the stores and the calls
running beside it, a commit that reaches the adapter has had every gate hold at
some moment of its own run: each answer its gates relied on came from the store,
the registry or the clock while the call was running.
-/

namespace KarmaSakshi.Guarantees

open EffectProgram KarmaSakshi.Domain KarmaSakshi.Stores KarmaSakshi.Engine

set_option autoImplicit false

variable {Host Caller : Type} [DecidableEq Host] [DecidableEq Caller]

/-! ### Moments of a call -/

/-- The call was given this answer. -/
def Answered (service : Service Host Caller) (initial : World Host) (caller : Caller)
    (config : Snapshot (World Host) Caller) (event : EngineEvent) : Prop :=
  service.deployment.Took initial caller (fun _ seen _ => seen = event) config

/-- The world satisfied `fact` just before or just after a step of the call. -/
def During (service : Service Host Caller) (initial : World Host) (caller : Caller)
    (config : Snapshot (World Host) Caller) (fact : World Host → Prop) : Prop :=
  service.deployment.Took initial caller (fun before _ after => fact before ∨ fact after) config

section Moments

variable {service : Service Host Caller} {initial : World Host}
  {config : Snapshot (World Host) Caller} {caller : Caller}

theorem During.mono {fact weaker : World Host → Prop}
    (held : During service initial caller config fact)
    (weakens : ∀ world, fact world → weaker world) :
    During service initial caller config weaker := by
  have took : service.deployment.pool.Took initial caller
    (fun before _ after => fact before ∨ fact after) config := held
  exact took.mono (fun _ _ _ either => either.imp (weakens _) (weakens _))

/-- A mark of the progress that one kind of answer sets. -/
theorem answered_of_progress (reached : service.deployment.Reachable initial config)
    (mark : Progress → Prop) (absent : ¬ mark {}) (event : EngineEvent)
    (set_ : ∀ (op : EngineOp) reply progress,
      mark (progress.observe (service.deployment.call caller).subject op reply) →
        mark progress ∨ (⟨op, reply⟩ : EngineEvent) = event)
    (shown : mark (service.deployment.progress config caller)) :
    Answered service initial caller config event :=
  Deployment.took_of_progress reached caller mark absent _
    (fun _ op reply _ progress _ _ marked => set_ op reply progress marked) shown

theorem during_of_progress (reached : service.deployment.Reachable initial config)
    (mark : Progress → Prop) (absent : ¬ mark {}) (fact : World Host → Prop)
    (explained : ∀ before (op : EngineOp) reply after progress,
      service.environment.answers (service.engineOf caller) before op reply after →
      (service.deployment.call caller).admits (service.deployment.context caller) progress op →
      mark (progress.observe (service.deployment.call caller).subject op reply) →
        mark progress ∨ fact before ∨ fact after)
    (shown : mark (service.deployment.progress config caller)) :
    During service initial caller config fact :=
  Deployment.took_of_progress reached caller mark absent _
    (fun before op reply after progress admitted answered marked =>
      explained before op reply after progress answered admitted marked) shown

end Moments

/-! ### The executor -/

/-- Everything that held while the call was running, when it invokes the adapter. -/
structure ExecutorGated (service : Service Host Caller) (initial : World Host) (caller : Caller)
    (config : Snapshot (World Host) Caller) (call : CommitCall) : Prop where
  sealVerified : verifySeal (service.deployment.context caller).crypto call.sealed
    (service.deployment.context caller).keyring = .ok ()
  grantSigned : verifyGrantSignature (service.deployment.context caller).crypto call.grant
    (service.deployment.context caller).keyring = .ok ()
  inWindow : ∃ now, Answered service initial caller config ⟨.now, .ok now⟩ ∧
    call.grant.notBefore - (service.deployment.context caller).clockSkew.leeway ≤ now ∧
    now ≤ call.grant.expiresAt + (service.deployment.context caller).clockSkew.leeway
  manifestBound : call.grant.manifestHash =
    some (call.manifest.canonicalHash (service.deployment.context caller).crypto)
  policyBound : ∀ bound, call.grant.policyBundleHash = some bound → ∃ bundle now,
    call.policyBundle = some bundle ∧ Answered service initial caller config ⟨.now, .ok now⟩ ∧
    verifyPolicyBundle (service.deployment.context caller).crypto bundle
      (service.deployment.context caller).keyring now none = .ok () ∧
    bundle.bundle.canonicalHash (service.deployment.context caller).crypto = bound
  envelopeBound : ∀ bound, call.grant.decisionEnvelopeHash = some bound → ∃ envelope now,
    call.decisionEnvelope = some envelope ∧
    Answered service initial caller config ⟨.now, .ok now⟩ ∧
    verifyDecisionEnvelope (service.deployment.context caller).crypto envelope
      (service.deployment.context caller).keyring now = .ok () ∧
    envelope.canonicalHash (service.deployment.context caller).crypto = bound ∧
    assertManifestFitsEnvelope call.manifest envelope = .ok ()
  planBound : ∀ bound, call.grant.causalGraphHash = some bound → ∃ graph,
    call.causalGraph = some graph ∧
    graph.verify (service.deployment.context caller).crypto
      (service.deployment.context caller).keyring = .ok () ∧
    graph.canonicalHash (service.deployment.context caller).crypto = bound ∧
    call.manifestHash ∈ graph.nodeManifestHashes
  inAudience : call.adapter.adapterId ∈ call.grant.audience
  sameAdapter : call.manifest.adapter = call.adapter
  trusted : (service.deployment.context caller).hasAdapterRegistry = true →
    During service initial caller config (fun world => ∃ entry,
      world.registry.entries call.adapter.adapterId call.adapter.adapterVersion = some entry ∧
        entry.revoked = false ∧
        call.manifest.effectType ∈ entry.capability.supportedEffectTypes)
  effectAllowed : call.manifest.effectType ∈ call.grant.allowedEffectTypes
  unrevoked : During service initial caller config
    (fun world => world.grants.view.isRevoked call.grantId = false)
  ancestorsUnrevoked : ∀ ancestor,
    Ancestor initial.grants.view.lineage call.grant.parentGrantId ancestor →
      During service initial caller config
        (fun world => world.grants.view.isRevoked ancestor = false)
  budgetReserved : ∀ budgetId, call.grant.authorityBudgetId = some budgetId → ∃ budget amount,
    During service initial caller config (fun world => world.budget.get budgetId = .ok budget) ∧
    resolveBudgetConsumeAmount budget call.manifest = .ok amount ∧
    During service initial caller config (fun world => ∃ account,
      world.budget.accounts budgetId = some account ∧ amount ≤ account.reserved)
  grantReserved : During service initial caller config (fun world => ∃ slot,
    world.grants.view.slots call.grantId = some slot ∧ slot.reserved = true)
  wasAuthorized : During service initial caller config (fun world => ∃ record,
    world.records (service.engineOf caller) call.manifestId = some record ∧
      record.state = .authorized)
  isCommitting : During service initial caller config (fun world => ∃ record,
    world.records (service.engineOf caller) call.manifestId = some record ∧
      record.state = .committing)
  durably : (service.deployment.context caller).hasLifecycleStore = true →
    service.deployment.Took initial caller (fun before _ after =>
      before.lifecycle.view call.manifestId = some .authorized ∧
        after.lifecycle.view call.manifestId = some .committing) config
  preconditionsMet : ∃ result, result.satisfied = true ∧ Answered service initial caller config
    ⟨.adapter call.adapter (.validatePreconditions call.manifest), .ok result⟩
  notYetRecorded : During service initial caller config
    (fun world => world.grants.view.getIdempotentOutcome call.idempotencyKey = none)

section Proof

variable {service : Service Host Caller} {initial : World Host}
  {config : Snapshot (World Host) Caller} {caller : Caller} {call : CommitCall}

theorem clock_was_read (reached : service.deployment.Reachable initial config) {now : Instant}
    (read : now ∈ (service.deployment.progress config caller).reads.instants) :
    Answered service initial caller config ⟨.now, .ok now⟩ :=
  answered_of_progress reached (fun progress => now ∈ progress.reads.instants) (by simp) _
    (fun _ _ progress member => progress.reads.instant_by_answer member) read

theorem cleared_was_unrevoked (reached : service.deployment.Reachable initial config)
    {grantId : String}
    (cleared : grantId ∈ (service.deployment.progress config caller).reads.cleared) :
    During service initial caller config
      (fun world => world.grants.view.isRevoked grantId = false) := by
  refine during_of_progress reached (fun progress => grantId ∈ progress.reads.cleared) (by simp) _
    (fun before op reply after progress answered _ member => ?_) cleared
  refine (progress.reads.cleared_by_answer member).imp_right (fun equal => ?_)
  cases equal
  exact Or.inl (Except.ok.inj (grants_told answered).1)

theorem entry_was_registered (reached : service.deployment.Reachable initial config)
    {adapterId adapterVersion : String} {entry : Option RegistryEntry}
    (read : (adapterId, adapterVersion, entry) ∈
      (service.deployment.progress config caller).reads.entries) :
    During service initial caller config
      (fun world => world.registry.entries adapterId adapterVersion = entry) := by
  refine during_of_progress reached
    (fun progress => (adapterId, adapterVersion, entry) ∈ progress.reads.entries) (by simp) _
    (fun before op reply after progress answered _ member => ?_) read
  refine (progress.reads.entry_by_answer member).imp_right (fun equal => ?_)
  cases equal
  exact Or.inl (Except.ok.inj answered.1).symm

theorem budget_was_registered (reached : service.deployment.Reachable initial config)
    {budgetId : String} {budget : AuthorityBudget}
    (read : (budgetId, budget) ∈ (service.deployment.progress config caller).reads.budgets) :
    During service initial caller config (fun world => world.budget.get budgetId = .ok budget) := by
  refine during_of_progress reached
    (fun progress => (budgetId, budget) ∈ progress.reads.budgets) (by simp) _
    (fun before op reply after progress answered _ member => ?_) read
  refine (progress.reads.budget_by_answer member).imp_right (fun equal => ?_)
  cases equal
  exact Or.inl (budget_told answered).1

theorem budget_was_reserved (reached : service.deployment.Reachable initial config)
    {budgetId : String} {amount : Nat}
    (held : (service.deployment.progress config caller).work.budget = .held budgetId amount) :
    During service initial caller config (fun world => ∃ account,
      world.budget.accounts budgetId = some account ∧ amount ≤ account.reserved) := by
  refine during_of_progress reached
    (fun progress => progress.work.budget = .held budgetId amount) (by simp) _
    (fun before op reply after progress answered _ holds => ?_) held
  refine (progress.work.budget_by_reserve _ holds).imp_right (fun equal => ?_)
  cases equal
  obtain ⟨served, stored⟩ := budget_told answered
  obtain ⟨_, account, grown, _, present, became⟩ := before.budget.reserve_won _ _ served
  refine Or.inr ⟨grown, ?_, ?_⟩
  · rw [stored]
    exact present
  · rw [became.reserved]
    omega

theorem grant_was_reserved (reached : service.deployment.Reachable initial config)
    (isCommit : service.call caller = .commit call)
    (held : (service.deployment.progress config caller).work.grant = .held) :
    During service initial caller config (fun world => ∃ slot,
      world.grants.view.slots call.grantId = some slot ∧ slot.reserved = true) := by
  refine during_of_progress reached (fun progress => progress.work.grant = .held) (by simp) _
    (fun before op reply after progress answered admitted holds => ?_) held
  refine (progress.work.held_by_reserve _ holds).imp_right (fun equal => ?_)
  obtain ⟨reserved, maxUses, equal⟩ := equal
  cases equal
  rw [show service.deployment.call caller = .commit call from isCommit] at admitted
  obtain rfl : reserved = call.grantId := admitted.1
  obtain ⟨served, stored⟩ := grants_told answered
  have taken := (before.grants.view.reserve_won call.grantId (Except.ok.inj served)).2.2.2
  rw [← show after.grants.view = (before.grants.view.reserve call.grantId maxUses).2 from stored]
    at taken
  exact Or.inr ⟨_, taken, rfl⟩

theorem origin_was_cached (reached : service.deployment.Reachable initial config)
    {state : LifecycleState}
    (known : (service.deployment.progress config caller).work.origin = some state) :
    During service initial caller config (fun world => ∃ record,
      world.records (service.engineOf caller) (service.call caller).subject = some record ∧
        record.state = state) := by
  refine during_of_progress reached (fun progress => progress.work.origin = some state) (by simp) _
    (fun before op reply after progress answered _ knows => ?_) known
  refine (progress.work.origin_by_record _ knows).imp_right (fun ⟨record, shown, same⟩ => ?_)
  exact (record_shown answered shown).imp (fun cached => ⟨record, cached, same⟩)
    (fun cached => ⟨record, cached, same⟩)

theorem cached_was_cached (reached : service.deployment.Reachable initial config)
    {state : LifecycleState}
    (cached : (service.deployment.progress config caller).work.cached = some state) :
    During service initial caller config (fun world => ∃ record,
      world.records (service.engineOf caller) (service.call caller).subject = some record ∧
        record.state = state) := by
  refine during_of_progress reached (fun progress => progress.work.cached = some state) (by simp) _
    (fun before op reply after progress answered _ holds => ?_) cached
  refine (progress.work.cached_by_remember _ holds).imp_right (fun ⟨record, equal, same⟩ => ?_)
  exact (record_shown answered (Or.inr equal)).imp (fun found => ⟨record, found, same⟩)
    (fun found => ⟨record, found, same⟩)

/-- The compare-and-set that stored COMMITTING found AUTHORIZED. -/
theorem committing_was_entered (reached : service.deployment.Reachable initial config)
    (isCommit : service.call caller = .commit call)
    (stored : (service.deployment.progress config caller).work.stored = some .committing) :
    service.deployment.Took initial caller (fun before _ after =>
      before.lifecycle.view call.manifestId = some .authorized ∧
        after.lifecycle.view call.manifestId = some .committing) config := by
  have isCommitToo : service.deployment.call caller = .commit call := isCommit
  refine Deployment.took_of_progress reached caller
    (fun progress => progress.work.stored = some .committing) (by simp) _
    (fun before op reply after progress admitted answered writes => ?_) stored
  refine (progress.work.stored_by_swap _ writes).imp_right (fun ⟨expected, equal⟩ => ?_)
  cases equal
  rw [isCommitToo] at admitted answered
  have legal : LifecycleState.isLegalTransition (expected.getD .proposed) .committing = true :=
    admitted.2.2.1
  have told : service.environment.answers (service.engineOf caller) before
    (.lifecycle (.compareAndSet call.manifestId expected .committing)) (.ok true) after := answered
  obtain ⟨found, written⟩ := swap_told told
  have departed := LifecycleState.legal_into_committing legal
  cases expected with
  | none => exact absurd departed (by decide)
  | some state =>
      obtain rfl : state = .authorized := departed
      refine ⟨found, ?_⟩
      rw [written]
      exact Function.update_self _ _ _

theorem preconditions_were_checked (reached : service.deployment.Reachable initial config)
    (isCommit : service.call caller = .commit call)
    (satisfied : (service.deployment.progress config caller).work.satisfied = true) :
    ∃ result, result.satisfied = true ∧ Answered service initial caller config
      ⟨.adapter call.adapter (.validatePreconditions call.manifest), .ok result⟩ := by
  have isCommitToo : service.deployment.call caller = .commit call := isCommit
  have took := Deployment.took_of_progress reached caller
    (fun progress => progress.work.satisfied = true) (by simp)
    (fun _ event _ => ∃ result : PreconditionResult, result.satisfied = true ∧
      event = ⟨.adapter call.adapter (.validatePreconditions call.manifest), .ok result⟩)
    (fun before op reply after progress admitted answered holds => by
      refine (progress.work.satisfied_by_check _ holds).imp_right (fun equal => ?_)
      obtain ⟨identity, manifest, result, equal, met⟩ := equal
      cases equal
      rw [isCommitToo] at admitted
      obtain ⟨rfl, rfl, _⟩ := admitted
      exact ⟨result, met, rfl⟩) satisfied
  obtain ⟨moment, op, resume, reply, after, reachedMoment, runs, answered, leads, result, met,
    equal⟩ := took
  exact ⟨result, met, moment, op, resume, reply, after, reachedMoment, runs, answered, leads, equal⟩

theorem ledger_was_empty (reached : service.deployment.Reachable initial config)
    (isCommit : service.call caller = .commit call)
    (missed : (service.deployment.progress config caller).work.ledger = .missed) :
    During service initial caller config
      (fun world => world.grants.view.getIdempotentOutcome call.idempotencyKey = none) := by
  refine during_of_progress reached (fun progress => progress.work.ledger = .missed) (by simp) _
    (fun before op reply after progress answered admitted holds => ?_) missed
  refine (progress.work.missed_by_lookup _ holds).imp_right (fun ⟨key, equal⟩ => ?_)
  cases equal
  rw [show service.deployment.call caller = .commit call from isCommit] at admitted
  obtain rfl : key = call.idempotencyKey := admitted.1
  exact Or.inl (Except.ok.inj (grants_told answered).1)

/-- Gate soundness.  In every interleaving, over every configuration and every
state of the stores, a commit that is about to invoke the adapter does so with its
own arguments and has had every gate hold during its run. -/
theorem executor_is_gated (reached : service.deployment.Reachable initial config)
    {identity : AdapterIdentity} {manifest : EffectManifest} {grant : ExecutionGrant}
    {resume : Except PyError CommitResult → Action CallResult}
    (invokes : config.status caller =
      .running (.call (.adapter identity (.commit manifest grant)) resume)) :
    ∃ call, service.call caller = .commit call ∧ identity = call.adapter ∧
      manifest = call.manifest ∧ grant = call.grant ∧
      ExecutorGated service initial caller config call := by
  have stands := Deployment.reachable_stands reached caller
  rw [Deployment.Stands, invokes] at stands
  obtain ⟨call, isCommit, rfl, rfl, ready⟩ := admitted_invocation stands.1
  have own : service.call caller = .commit call := isCommit
  have sameIdentity : identity = call.adapter := by
    have admitted := stands.1
    rw [Deployment.specOf, isCommit] at admitted
    exact admitted.1
  have gates := ready.gates
  obtain ⟨now, read, verified⟩ := gates.grantHeld
  obtain ⟨signed, window⟩ := check_then_ok.mp verified
  obtain ⟨chain, walked⟩ := gates.ancestorsClear
  have subject : (service.call caller).subject = call.manifestId := by rw [own]; rfl
  refine ⟨call, own, sameIdentity, rfl, rfl, ?_⟩
  constructor
  case sealVerified => exact gates.sealHeld
  case grantSigned => exact signed
  case inWindow => exact ⟨now, clock_was_read reached read, grant_window_open window⟩
  case manifestBound =>
    have sameHash : call.manifest.canonicalHash (service.deployment.context caller).crypto =
        call.manifestHash := verify_integrity_hash (check_then_ok.mp gates.sealHeld).1
    rw [sameHash]
    exact gates.manifestBound
  case policyBound =>
    intro bound binds
    obtain ⟨bundle, instant, presented, readNow, held, same⟩ := gates.policyHeld.1 bound binds
    exact ⟨bundle, instant, presented, clock_was_read reached readNow, held,
      (policy_bundle_hash held).trans same⟩
  case envelopeBound =>
    intro bound binds
    obtain ⟨envelope, instant, presented, readNow, held⟩ := gates.envelopeHeld bound binds
    exact ⟨envelope, instant, presented, clock_was_read reached readNow, held⟩
  case planBound =>
    intro bound binds
    obtain ⟨graph, presented, checks⟩ := gates.graphHeld bound binds
    obtain ⟨matching, member⟩ := check_then_ok.mp checks
    exact ⟨graph, presented, (plan_member member).1, plan_hash matching, (plan_member member).2⟩
  case inAudience => exact gates.inAudience
  case sameAdapter => exact gates.sameAdapter
  case trusted =>
    intro configured
    obtain ⟨entry, readEntry, capability, passes⟩ := gates.registryHeld configured
    obtain ⟨found, rfl, unrevoked, declared⟩ := require_effect_ok passes
    exact (entry_was_registered reached readEntry).mono
      (fun _ same => ⟨found, same, unrevoked, declared⟩)
  case effectAllowed => exact gates.effectAllowed
  case unrevoked => exact cleared_was_unrevoked reached gates.unrevoked
  case ancestorsUnrevoked =>
    intro ancestor isAncestor
    have visited := ancestor_is_walked
      (fun _ _ readParent => service.shares_grants.parents_are_recorded reached readParent)
      isAncestor walked
    exact cleared_was_unrevoked reached (walked_is_cleared walked ancestor visited)
  case budgetReserved =>
    intro budgetId binds
    have budgetReady := ready.budget
    rw [BudgetReady, binds] at budgetReady
    obtain ⟨amount, ⟨budget, readBudget, resolved⟩, held⟩ := budgetReady
    exact ⟨budget, amount, budget_was_registered reached readBudget, resolved,
      budget_was_reserved reached held⟩
  case grantReserved => exact grant_was_reserved reached own ready.reserved
  case wasAuthorized => exact subject ▸ origin_was_cached reached ready.authorized
  case isCommitting => exact subject ▸ cached_was_cached reached ready.cached
  case durably =>
    exact fun configured => committing_was_entered reached own (ready.stored configured)
  case preconditionsMet => exact preconditions_were_checked reached own ready.preconditions
  case notYetRecorded => exact ledger_was_empty reached own ready.ledger

end Proof

/-! ### A commit about to invoke the adapter -/

def payingService : Service Unit Nat :=
  Payment.service Payment.prompt (fun _ => ())
    (fun _ => .commit (Payment.commitOf Payment.sealedTransfer Payment.transferGrant))

def payingState : Snapshot (World Unit) Nat :=
  payingService.replay Payment.prompt (Payment.authorizedWorld Unit) (List.replicate 14 0)

/-- What a running call is about to hand to the adapter. -/
def pendingInvocation : Status EngineOp EngineReply PyError CallResult →
    Option (AdapterIdentity × EffectManifest × ExecutionGrant)
  | .running (.call (.adapter identity (.commit manifest grant)) _) => some (identity, manifest, grant)
  | _ => none

theorem pending_invocation_runs {status : Status EngineOp EngineReply PyError CallResult}
    {identity : AdapterIdentity} {manifest : EffectManifest} {grant : ExecutionGrant}
    (pending : pendingInvocation status = some (identity, manifest, grant)) :
    ∃ resume, status = .running (.call (.adapter identity (.commit manifest grant)) resume) := by
  unfold pendingInvocation at pending
  split at pending
  · cases Option.some.inj pending
    exact ⟨_, rfl⟩
  · exact absurd pending (by simp)

theorem paying_commit_is_gated :
    ∃ call, payingService.call 0 = .commit call ∧ Payment.transferGrant = call.grant ∧
      ExecutorGated payingService (Payment.authorizedWorld Unit) 0 payingState call := by
  have pending : pendingInvocation (payingState.status 0) =
      some (Payment.adapter, Payment.transfer, Payment.transferGrant) := by decide +kernel
  obtain ⟨resume, invokes⟩ := pending_invocation_runs pending
  have reached : payingService.deployment.Reachable (Payment.authorizedWorld Unit) payingState :=
    Payment.service_reachable Payment.prompt (fun _ => ()) _ (Payment.authorizedWorld Unit) _
  obtain ⟨call, isCommit, _, _, granted, gated⟩ := executor_is_gated reached invokes
  exact ⟨call, isCommit, granted, gated⟩

end KarmaSakshi.Guarantees
