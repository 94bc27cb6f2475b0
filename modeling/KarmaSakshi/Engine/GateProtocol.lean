import KarmaSakshi.Engine.Progress

/-!
The protocol of a commit call, and the proof that its gates follow it.

`commitSpec` says when each operation may be issued, in terms of what the call
has done so far.  The gates only read: they leave the call's work untouched and,
when they let it through, `GatesHeld` describes what they read.
-/

namespace KarmaSakshi.Engine

open EffectProgram KarmaSakshi.Domain KarmaSakshi.Stores

set_option autoImplicit false

/-! ### The protocol -/

variable (context : EngineContext) (call : CommitCall)

/-- The call has not seen its own adapter call succeed. -/
def Work.unsuccessful (work : Work) : Prop := ∀ result, work.adapter ≠ .succeeded result

/-- What the ledger entry of a finished use may say. -/
def Work.mayFinalize (work : Work) (outcomeRef : String) : Prop :=
  (∃ result, work.adapter = .succeeded result ∧
      outcomeRef = orElse result.providerReference "committed") ∨
    work.adapter = .idle ∧ work.ledger = .hit outcomeRef

/-- `amount` is what a budget that was read under this id charges for the manifest. -/
def Charges (reads : Reads) (budgetId : String) (amount : Nat) : Prop :=
  ∃ budget, (budgetId, budget) ∈ reads.budgets ∧
    resolveBudgetConsumeAmount budget call.manifest = .ok amount

/-- A bound budget has the amount of this manifest reserved. -/
def BudgetReady (progress : Progress) : Prop :=
  match call.grant.authorityBudgetId with
  | none => progress.work.budget = .idle
  | some budgetId => ∃ amount, Charges call progress.reads budgetId amount ∧
      progress.work.budget = .held budgetId amount

/-- All that holds when the adapter's commit is invoked. -/
structure ReadyToExecute (progress : Progress) : Prop where
  gates : GatesHeld context call progress.reads
  budget : BudgetReady call progress
  reserved : progress.work.grant = .held
  authorized : progress.work.origin = some .authorized
  cached : progress.work.cached = some .committing
  stored : context.hasLifecycleStore = true → progress.work.stored = some .committing
  intent : context.hasOutboxStore = true → progress.work.outbox = .recorded
  ledger : progress.work.ledger = .missed
  preconditions : progress.work.satisfied = true
  first : progress.work.adapter = .idle

def admitsGrants (work : Work) : GrantOp → Prop
  | .reserve grantId maxUses =>
      grantId = call.grantId ∧ maxUses = call.grant.maxUses ∧ work.grant = .idle
  | .release grantId => grantId = call.grantId ∧ work.grant = .held ∧ work.unsuccessful
  | .commit grantId key outcomeRef =>
      grantId = call.grantId ∧ key = call.idempotencyKey ∧ work.grant = .held ∧
        work.mayFinalize outcomeRef ∧
        (context.hasOutboxStore = true → work.outbox = .confirmed)
  | .getIdempotentOutcome key =>
      key = call.idempotencyKey ∧ work.grant = .held ∧ work.adapter = .idle ∧
        work.ledger = .unread
  | .isRevoked _ | .getParentGrantId _ | .hasLineage _ | .getUseCount _ => True
  | .revoke _ | .recordIdempotentOutcome _ _ | .recordLineage _ _ => False

def admitsBudget (progress : Progress) : BudgetOp → Prop
  | .get _ | .remaining _ => True
  | .reserve budgetId amount =>
      call.grant.authorityBudgetId = some budgetId ∧ Charges call progress.reads budgetId amount ∧
        progress.work.budget = .idle ∧ progress.work.grant = .idle
  | .release budgetId amount =>
      progress.work.budget = .held budgetId amount ∧ progress.work.unsuccessful
  | .commit budgetId amount =>
      progress.work.budget = .held budgetId amount ∧
        ∃ result, progress.work.adapter = .succeeded result

def admitsOutbox (work : Work) : OutboxOp → Prop
  | .recordPending entry =>
      context.hasOutboxStore = true ∧ (∃ instant, entry = call.outboxEntry instant) ∧
        work.grant = .held ∧ work.outbox = .idle ∧ work.adapter = .idle ∧
        work.ledger = .unread
  | .get key => context.hasOutboxStore = true ∧ key = call.idempotencyKey
  | .markConfirmed key outcomeRef =>
      context.hasOutboxStore = true ∧ key = call.idempotencyKey ∧ work.outbox = .recorded ∧
        work.grant = .held ∧ work.mayFinalize outcomeRef
  | .markAbandoned key =>
      context.hasOutboxStore = true ∧ key = call.idempotencyKey ∧ work.outbox = .recorded ∧
        work.grant = .returned ∧ work.unsuccessful

/-- A durable write moves this manifest along a legal transition. -/
def admitsLifecycle (work : Work) : LifecycleOp → Prop
  | .get manifestId => context.hasLifecycleStore = true ∧ manifestId = call.manifestId
  | .compareAndSet manifestId expected newState =>
      context.hasLifecycleStore = true ∧ manifestId = call.manifestId ∧
        LifecycleState.isLegalTransition (expected.getD .proposed) newState = true ∧
        ((newState = .committing ∧ work.grant = .held ∧ work.adapter = .idle) ∨
          (newState = .failed ∧ work.grant = .returned ∧ work.unsuccessful) ∨
          (newState = .committed ∧ work.grant = .spent))

def admitsAdapter (progress : Progress) (identity : AdapterIdentity) : AdapterOp → Prop
  | .validatePreconditions manifest =>
      identity = call.adapter ∧ manifest = call.manifest ∧ progress.work.adapter = .idle
  | .commit manifest grant =>
      identity = call.adapter ∧ manifest = call.manifest ∧ grant = call.grant ∧
        ReadyToExecute context call progress
  | .verify _ _ | .compensate _ _ => False

def commitAdmits (progress : Progress) : EngineOp → Prop
  | .now | .audit _ | .lookupAdapter _ _ => True
  | .recall manifestId | .remember manifestId _ => manifestId = call.manifestId
  | .lifecycle op => admitsLifecycle context call progress.work op
  | .grants op => admitsGrants context call progress.work op
  | .budget op => admitsBudget call progress op
  | .outbox op => admitsOutbox context call progress.work op
  | .adapter identity op => admitsAdapter context call progress identity op

/-- The clock, the record cache and the registry have nothing that raises. -/
def steady : EngineOp → Bool
  | .now | .recall _ | .remember _ _ | .lookupAdapter _ _ => true
  | _ => false

def commitSpec : Spec EngineOp EngineReply PyError Progress where
  admits := commitAdmits context call
  expects := fun _ op reply => steady op = true → isError reply = false
  observe := Progress.observe call.manifestId

/-! ### Programs that only read -/

/-- Nothing has been reserved or written, and nothing has leaked. -/
structure AtGate (progress : Progress) : Prop where
  work : progress.work = {}
  leaked : progress.flags.leaked = false
  cleanup : progress.flags.cleanupRaised = false

theorem gate_op_is_admitted {progress : Progress} {op : EngineOp} (reading : gateOp op) :
    commitAdmits context call progress op := by
  cases op with
  | grants inner => cases inner <;> first | exact trivial | exact reading.elim
  | now => trivial
  | audit record => trivial
  | lookupAdapter adapterId adapterVersion => trivial
  | _ => exact reading.elim

theorem observe_keeps_gate {subject : String} {progress : Progress} {op : EngineOp}
    (reading : gateOp op) (atGate : AtGate progress) (reply : Except PyError (EngineReply op)) :
    AtGate (progress.observe subject op reply) := by
  obtain ⟨work, leaked, cleanup⟩ := atGate
  cases op with
  | grants inner =>
      cases inner <;> first
        | exact reading.elim
        | (cases reply <;> constructor <;>
            simp [Progress.observe, Work.observe, Work.observeGrants, Flags.observe, leaks,
              cleanupRaises, work, leaked, cleanup])
  | audit record =>
      constructor <;>
        simp [Progress.observe, Work.observe, Flags.observe, leaks, cleanupRaises, work, leaked,
          cleanup, show record.toState = none from reading]
  | now =>
      constructor <;>
        simp [Progress.observe, Work.observe, Flags.observe, leaks, cleanupRaises, work, leaked,
          cleanup]
  | lookupAdapter adapterId adapterVersion =>
      constructor <;>
        simp [Progress.observe, Work.observe, Flags.observe, leaks, cleanupRaises, work, leaked,
          cleanup]
  | _ => exact reading.elim

theorem reads_observe_extends (reads : Reads) (op : EngineOp)
    (reply : Except PyError (EngineReply op)) : (reads.observe op reply).Extends reads := by
  unfold Reads.observe
  split <;> constructor <;> simp

/-- A reading program leaves the gate state alone and, when it returns, has
established `fact` of its reads. -/
def GateRun {Value : Type} (program : Action Value) (progress : Progress)
    (fact : Value → Reads → Prop) : Prop :=
  Conforms (commitSpec context call)
    (fun outcome after => AtGate after ∧ after.reads.Extends progress.reads ∧
      ∀ value, outcome = .ok value → fact value after.reads) program progress

variable {context call} {Value Result : Type} {progress : Progress}

theorem gate_done {fact : Value → Reads → Prop} {value : Value} (atGate : AtGate progress)
    (held : fact value progress.reads) :
    GateRun context call (.done value) progress fact := by
  refine ⟨atGate, Reads.Extends.refl _, ?_⟩
  intro returned same
  cases same
  exact held

theorem gate_raised {fact : Value → Reads → Prop} {error : PyError} (atGate : AtGate progress) :
    GateRun context call (.raised error) progress fact :=
  ⟨atGate, Reads.Extends.refl _, fun _ impossible => by cases impossible⟩

theorem gate_perform (op : EngineOp) {fact : EngineReply op → Reads → Prop}
    (reading : gateOp op) (atGate : AtGate progress)
    (held : ∀ value, fact value (progress.reads.observe op (.ok value))) :
    GateRun context call (perform op) progress fact := by
  apply (conforms_perform op _ progress).mpr
  refine ⟨gate_op_is_admitted context call reading, ?_⟩
  intro reply expected
  refine ⟨observe_keeps_gate reading atGate reply, reads_observe_extends _ _ _, ?_⟩
  intro value same
  subst same
  exact held value

theorem GateRun.attempt {body : Action Value} {next : Except PyError Value → Action Result}
    {middle : Value → Reads → Prop} {fact : Result → Reads → Prop}
    (first : GateRun context call body progress middle)
    (returns : ∀ value after, AtGate after → after.reads.Extends progress.reads →
      middle value after.reads → GateRun context call (next (.ok value)) after fact)
    (raises : ∀ error after, AtGate after → GateRun context call (next (.error error)) after fact) :
    GateRun context call (body.attempt next) progress fact := by
  apply (conforms_attempt _ _ _ _).mpr
  apply Conforms.mono first
  intro outcome after held
  obtain ⟨atGate, extended, established⟩ := held
  have rest : GateRun context call (next outcome) after fact := by
    cases outcome with
    | ok value => exact returns value after atGate extended (established value rfl)
    | error error => exact raises error after atGate
  exact rest.mono fun final ending reached =>
    ⟨reached.1, reached.2.1.trans extended, reached.2.2⟩

theorem GateRun.bind {body : Action Value} {next : Value → Action Result}
    {middle : Value → Reads → Prop} {fact : Result → Reads → Prop}
    (first : GateRun context call body progress middle)
    (returns : ∀ value after, AtGate after → after.reads.Extends progress.reads →
      middle value after.reads → GateRun context call (next value) after fact) :
    GateRun context call (body >>= next) progress fact :=
  first.attempt returns (fun _ _ atGate => gate_raised atGate)

theorem GateRun.weaken {program : Action Value} {fact weaker : Value → Reads → Prop}
    (run : GateRun context call program progress fact)
    (implied : ∀ value reads, fact value reads → weaker value reads) :
    GateRun context call program progress weaker :=
  run.mono fun _ _ ending =>
    ⟨ending.1, ending.2.1, fun value same => implied value _ (ending.2.2 value same)⟩

/-! ### The gates, one by one -/

theorem deny_run (eventType decision : String) (error : PyError) (atGate : AtGate progress)
    (fact : Value → Reads → Prop) :
    GateRun context call (deny call eventType decision error) progress fact := by
  have audited : GateRun context call
      (perform (.audit (call.record eventType decision []))) progress (fun _ _ => True) :=
    gate_perform _ rfl atGate (fun _ => trivial)
  exact audited.bind (fun _ _ held _ _ => gate_raised held)

theorem checked_run (eventType : String) (check : Except PyError Unit)
    (atGate : AtGate progress) :
    GateRun context call (checked call eventType check) progress
      (fun _ _ => check = .ok ()) := by
  unfold checked
  cases check with
  | ok _ => exact gate_done atGate rfl
  | error error =>
      by_cases known : error.isKarmaSakshi = true
      · simp only [known, if_true]
        exact deny_run _ _ _ atGate _
      · simp only [known, Bool.false_eq_true, if_false]
        exact gate_raised atGate

/-- A refusing branch and its negation. -/
theorem refusal_run {condition : Prop} [Decidable condition] (eventType decision : String)
    (error : PyError) (atGate : AtGate progress) :
    GateRun context call
      (if condition then deny call eventType decision error else pure ()) progress
      (fun _ _ => ¬ condition) := by
  by_cases refused : condition
  · rw [if_pos refused]
    exact deny_run _ _ _ atGate _
  · rw [if_neg refused]
    exact gate_done atGate refused

theorem seal_gate_run (atGate : AtGate progress) :
    GateRun context call (sealGate context call) progress
      (fun _ _ => verifySeal context.crypto call.sealed context.keyring = .ok ()) :=
  checked_run _ _ atGate

theorem now_run (atGate : AtGate progress) :
    GateRun context call (perform .now) progress (fun now reads => now ∈ reads.instants) :=
  gate_perform .now trivial atGate (fun _ => List.mem_cons_self)

theorem grant_gate_run (atGate : AtGate progress) :
    GateRun context call (grantGate context call) progress (fun _ reads =>
      ∃ now ∈ reads.instants,
        verifyGrant context.crypto call.grant context.keyring now context.clockSkew = .ok ()) := by
  apply (now_run atGate).bind
  intro now after held _ read
  exact (checked_run _ _ held).mono fun _ _ ending => ⟨ending.1, ending.2.1, fun value same =>
    ⟨now, ending.2.1.instants read, ending.2.2 value same⟩⟩

theorem manifest_gate_run (atGate : AtGate progress) :
    GateRun context call (manifestGate call) progress
      (fun _ _ => call.grant.manifestHash = some call.manifestHash) :=
  (refusal_run _ _ _ atGate).weaken (fun _ _ kept => not_not.mp kept)

theorem tenant_gate_run (bundle : SealedPolicyBundle) (atGate : AtGate progress) :
    GateRun context call (tenantGate context call bundle) progress (fun _ _ =>
      bindEngineAndPolicyTenant context.tenantId bundle.bundle.tenantId = .ok ()) := by
  unfold tenantGate
  cases bindEngineAndPolicyTenant context.tenantId bundle.bundle.tenantId with
  | ok _ => exact gate_done atGate rfl
  | error error => exact deny_run _ _ _ atGate _

theorem bound_policy_gate_run (bound : String) (bundle : SealedPolicyBundle)
    (atGate : AtGate progress) :
    GateRun context call (boundPolicyGate context call bound bundle) progress (fun _ reads =>
      (∃ now ∈ reads.instants,
        verifyPolicyBundle context.crypto bundle context.keyring now none = .ok ()) ∧
      bundle.seal.bundleHash = bound ∧
      bindEngineAndPolicyTenant context.tenantId bundle.bundle.tenantId = .ok ()) := by
  apply (now_run atGate).bind
  intro now after held _ read
  apply (checked_run _ _ held).bind
  intro _ later heldLater extended verified
  by_cases mismatch : bundle.seal.bundleHash ≠ bound
  · rw [if_pos mismatch]
    exact deny_run _ _ _ heldLater _
  · rw [if_neg mismatch]
    exact (tenant_gate_run bundle heldLater).mono fun _ _ ending =>
      ⟨ending.1, ending.2.1, fun value same =>
        ⟨⟨now, ending.2.1.instants (extended.instants read), verified⟩, not_not.mp mismatch,
          ending.2.2 value same⟩⟩

theorem policy_gate_run (atGate : AtGate progress) :
    GateRun context call (policyGate context call) progress
      (fun _ reads => PolicyHeld context call reads) := by
  unfold policyGate PolicyHeld
  cases bound : call.grant.policyBundleHash with
  | some hash =>
      cases presented : call.policyBundle with
      | none => exact deny_run _ _ _ atGate _
      | some bundle =>
          apply (bound_policy_gate_run hash bundle atGate).weaken
          intro _ reads held
          obtain ⟨⟨now, read, verified⟩, same, tenant⟩ := held
          refine ⟨?_, ?_⟩
          · intro other equal
            cases equal
            exact ⟨bundle, now, rfl, read, verified, same⟩
          · intro other equal _
            cases equal
            exact tenant
  | none =>
      cases presented : call.policyBundle with
      | none => exact gate_done atGate ⟨by simp, by simp⟩
      | some bundle =>
          by_cases tenanted : context.tenantId.isSome = true
          · simp only [tenanted, if_true]
            apply (tenant_gate_run bundle atGate).weaken
            intro _ reads held
            exact ⟨by simp, fun other equal _ => by cases equal; exact held⟩
          · simp only [tenanted, Bool.false_eq_true, if_false]
            exact gate_done atGate ⟨by simp, fun _ _ required => by simp at required⟩

theorem bound_envelope_gate_run (bound : String) (envelope : DecisionEnvelope)
    (atGate : AtGate progress) :
    GateRun context call (boundEnvelopeGate context call bound envelope) progress
      (fun _ reads => ∃ now ∈ reads.instants,
        verifyDecisionEnvelope context.crypto envelope context.keyring now = .ok () ∧
        envelope.canonicalHash context.crypto = bound ∧
        assertManifestFitsEnvelope call.manifest envelope = .ok ()) := by
  apply (now_run atGate).bind
  intro now after held _ read
  apply (checked_run _ _ held).bind
  intro _ later heldLater extended verified
  by_cases mismatch : envelope.canonicalHash context.crypto ≠ bound
  · rw [if_pos mismatch]
    exact deny_run _ _ _ heldLater _
  · rw [if_neg mismatch]
    exact (checked_run _ _ heldLater).mono fun _ _ ending =>
      ⟨ending.1, ending.2.1, fun value same =>
        ⟨now, ending.2.1.instants (extended.instants read), verified, not_not.mp mismatch,
          ending.2.2 value same⟩⟩

theorem envelope_gate_run (atGate : AtGate progress) :
    GateRun context call (envelopeGate context call) progress
      (fun _ reads => EnvelopeHeld context call reads) := by
  unfold envelopeGate EnvelopeHeld
  cases bound : call.grant.decisionEnvelopeHash with
  | none => exact gate_done atGate (by simp)
  | some hash =>
      cases presented : call.decisionEnvelope with
      | none => exact deny_run _ _ _ atGate _
      | some envelope =>
          apply (bound_envelope_gate_run hash envelope atGate).weaken
          intro _ reads held
          obtain ⟨now, read, verified⟩ := held
          intro other equal
          cases equal
          exact ⟨envelope, now, rfl, read, verified⟩

theorem graph_gate_run (atGate : AtGate progress) :
    GateRun context call (graphGate context call) progress
      (fun _ _ => GraphHeld context call) := by
  unfold graphGate GraphHeld
  cases bound : call.grant.causalGraphHash with
  | none => exact gate_done atGate (by simp)
  | some hash =>
      cases presented : call.causalGraph with
      | none => exact deny_run _ _ _ atGate _
      | some graph =>
          apply (checked_run _ _ atGate).weaken
          intro _ reads verified other equal
          cases equal
          exact ⟨graph, rfl, verified⟩

theorem audience_gate_run (atGate : AtGate progress) :
    GateRun context call (audienceGate call) progress
      (fun _ _ => call.adapter.adapterId ∈ call.grant.audience) :=
  (refusal_run _ _ _ atGate).weaken (fun _ _ kept => not_not.mp kept)

theorem identity_gate_run (atGate : AtGate progress) :
    GateRun context call (identityGate call) progress
      (fun _ _ => call.manifest.adapter = call.adapter) := by
  apply (refusal_run _ _ _ atGate).weaken
  intro _ _ kept
  rw [not_or, not_not, not_not] at kept
  cases declared : call.manifest.adapter
  cases executing : call.adapter
  simp only [declared, executing] at kept
  rw [kept.1, kept.2]

theorem registry_gate_run (atGate : AtGate progress) :
    GateRun context call (registryGate context call) progress
      (fun _ reads => RegistryHeld context call reads) := by
  unfold registryGate RegistryHeld
  by_cases configured : context.hasAdapterRegistry = true
  · simp only [configured, if_true]
    have looked : GateRun context call
        (perform (.lookupAdapter call.adapter.adapterId call.adapter.adapterVersion)) progress
        (fun entry reads =>
          (call.adapter.adapterId, call.adapter.adapterVersion, entry) ∈ reads.entries) :=
      gate_perform _ trivial atGate (fun _ => List.mem_cons_self)
    apply looked.bind
    intro entry after held _ read
    cases trusted : requireEffect call.adapter.adapterId call.adapter.adapterVersion
        call.manifest.effectType entry with
    | ok capability => exact gate_done held (fun _ => ⟨entry, read, capability, trusted⟩)
    | error error => exact deny_run _ _ _ held _
  · simp only [configured, Bool.false_eq_true, if_false]
    exact gate_done atGate (fun required => by cases required)

theorem effect_type_gate_run (atGate : AtGate progress) :
    GateRun context call (effectTypeGate call) progress
      (fun _ _ => call.manifest.effectType ∈ call.grant.allowedEffectTypes) :=
  (refusal_run _ _ _ atGate).weaken (fun _ _ kept => not_not.mp kept)

theorem is_revoked_run (grantId : String) (atGate : AtGate progress) :
    GateRun context call (perform (.grants (.isRevoked grantId))) progress
      (fun revoked reads => revoked = false → grantId ∈ reads.cleared) := by
  apply gate_perform (.grants (.isRevoked grantId)) trivial atGate
  intro revoked clear
  subst clear
  exact List.mem_cons_self

theorem revocation_gate_run (atGate : AtGate progress) :
    GateRun context call (revocationGate call) progress
      (fun _ reads => call.grantId ∈ reads.cleared) := by
  apply (is_revoked_run call.grantId atGate).bind
  intro revoked after held _ read
  cases revoked with
  | true => exact deny_run _ _ _ held _
  | false => exact gate_done held (read rfl)

theorem next_parent_run (grantId current : String) (atGate : AtGate progress) :
    GateRun context call (nextParent grantId current) progress
      (fun parent reads => (current, parent) ∈ reads.parents) := by
  have asked : GateRun context call (perform (.grants (.getParentGrantId current))) progress
      (fun parent reads => (current, parent) ∈ reads.parents) :=
    gate_perform _ trivial atGate (fun _ => List.mem_cons_self)
  apply asked.bind
  intro parent after held _ read
  cases parent with
  | some above => exact gate_done held read
  | none =>
      have told : GateRun context call (perform (.grants (.hasLineage current))) after
          (fun _ _ => True) := gate_perform _ trivial held (fun _ => trivial)
      apply told.bind
      intro recorded later heldLater extended _
      cases recorded with
      | true => exact gate_done heldLater (extended.parents read)
      | false => exact gate_raised heldLater

/-- The walk returns the chain above its starting point, every member cleared. -/
theorem walk_run (grantId : String) (maxDepth left : Nat) :
    ∀ (current : String) (checked : List String) (progress : Progress), AtGate progress →
      GateRun context call (walkAncestors grantId maxDepth left current checked) progress
        (fun _ reads => ∃ chain, Walked reads (some current) chain) := by
  induction left with
  | zero => exact fun _ _ _ atGate => gate_raised atGate
  | succ left ih =>
      intro current checked progress atGate
      unfold walkAncestors
      by_cases cycle : current = grantId ∨ current ∈ checked
      · rw [if_pos cycle]
        exact gate_raised atGate
      · rw [if_neg cycle]
        apply (is_revoked_run current atGate).bind
        intro revoked after held _ clear
        cases revoked with
        | true => exact gate_raised held
        | false =>
            apply (next_parent_run grantId current held).bind
            intro parent later heldLater extended linked
            have cleared := extended.cleared (clear rfl)
            cases parent with
            | none => exact gate_done heldLater ⟨[current], .hop cleared linked .root⟩
            | some above =>
                apply (ih above (checked ++ [current]) later heldLater).mono
                intro _ final ending
                refine ⟨ending.1, ending.2.1, ?_⟩
                intro value same
                obtain ⟨chain, walked⟩ := ending.2.2 value same
                exact ⟨current :: chain, .hop (ending.2.1.cleared cleared)
                  (ending.2.1.parents linked) walked⟩

theorem ancestors_run (grant : ExecutionGrant) (maxDepth : Nat) (atGate : AtGate progress) :
    GateRun context call (assertNoRevokedAncestors grant maxDepth) progress
      (fun _ reads => ∃ chain, Walked reads grant.parentGrantId chain) := by
  unfold assertNoRevokedAncestors
  by_cases outside : maxDepth < 1 ∨ maxDelegationDepth < maxDepth
  · rw [if_pos outside]
    exact gate_raised atGate
  · rw [if_neg outside]
    cases grant.parentGrantId with
    | none => exact gate_done atGate ⟨[], .root⟩
    | some parent => exact walk_run grant.grantId maxDepth maxDepth parent [] progress atGate

theorem ancestor_gate_run (atGate : AtGate progress) :
    GateRun context call (ancestorGate call) progress
      (fun _ reads => ∃ chain, Walked reads call.grant.parentGrantId chain) := by
  apply (ancestors_run call.grant maxDelegationDepth atGate).attempt
  · intro ancestors after held _ walked
    by_cases root : ancestors = []
    · simp only [root, if_true]
      exact gate_done held walked
    · simp only [root, if_false]
      have audited : GateRun context call (perform (.audit
          (call.record "grant.ancestor_revocation_checked" "ancestors_clear"
            [("ancestor_count", toString ancestors.length)]))) after (fun _ _ => True) :=
        gate_perform _ rfl held (fun _ => trivial)
      apply audited.mono
      intro _ final ending
      obtain ⟨chain, walkedChain⟩ := walked
      exact ⟨ending.1, ending.2.1, fun _ _ => ⟨chain, walkedChain.extend ending.2.1⟩⟩
  · intro error after held
    by_cases refusal : error.isLineageRefusal = true
    · simp only [refusal, if_true, ancestorRefused]
      split
      · exact deny_run _ _ _ held _
      · exact deny_run _ _ _ held _
    · simp only [refusal, Bool.false_eq_true, if_false]
      exact gate_raised held

/-- All gates together: they read, and letting a call through means that
everything they check was so. -/
theorem gates_run (atGate : AtGate progress) :
    GateRun context call (gates context call) progress
      (fun _ reads => GatesHeld context call reads) := by
  unfold gates
  apply (seal_gate_run atGate).bind
  intro _ afterSeal atSeal _ sealHeld
  apply (grant_gate_run atSeal).bind
  intro _ afterGrant atGrant _ grantHeld
  apply (manifest_gate_run atGrant).bind
  intro _ afterManifest atManifest fromGrant manifestBound
  apply (policy_gate_run atManifest).bind
  intro _ afterPolicy atPolicy fromManifest policyHeld
  apply (envelope_gate_run atPolicy).bind
  intro _ afterEnvelope atEnvelope fromPolicy envelopeHeld
  apply (graph_gate_run atEnvelope).bind
  intro _ afterGraph atGraph fromEnvelope graphHeld
  apply (audience_gate_run atGraph).bind
  intro _ afterAudience atAudience fromGraph inAudience
  apply (identity_gate_run atAudience).bind
  intro _ afterIdentity atIdentity fromAudience sameAdapter
  apply (registry_gate_run atIdentity).bind
  intro _ afterRegistry atRegistry fromIdentity registryHeld
  apply (effect_type_gate_run atRegistry).bind
  intro _ afterEffect atEffect fromRegistry effectAllowed
  apply (revocation_gate_run atEffect).bind
  intro _ afterRevocation atRevocation fromEffect unrevoked
  apply (ancestor_gate_run atRevocation).mono
  intro outcome final ending
  obtain ⟨atEnd, fromRevocation, ancestors⟩ := ending
  have sinceRegistry := fromRevocation.trans (fromEffect)
  have sinceIdentity := sinceRegistry.trans fromRegistry
  have sinceEnvelope := ((sinceIdentity.trans fromIdentity).trans fromAudience).trans fromGraph
  have sincePolicy := sinceEnvelope.trans fromEnvelope
  have sinceManifest := sincePolicy.trans fromPolicy
  have sinceGrant := (sinceManifest.trans fromManifest).trans fromGrant
  obtain ⟨now, read, verified⟩ := grantHeld
  refine ⟨atEnd, fromRevocation, ?_⟩
  intro value same
  exact {
    sealHeld
    grantHeld := ⟨now, sinceGrant.instants read, verified⟩
    manifestBound
    policyHeld := policyHeld.extend sinceManifest
    envelopeHeld := envelopeHeld.extend sincePolicy
    graphHeld
    inAudience
    sameAdapter
    registryHeld := registryHeld.extend sinceIdentity
    effectAllowed
    unrevoked := fromRevocation.cleared unrevoked
    ancestorsClear := ancestors value same }

end KarmaSakshi.Engine
