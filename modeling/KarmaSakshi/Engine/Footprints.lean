import KarmaSakshi.Engine.Recovery

/-!
Which operations each of the engine's methods can issue at all.

A footprint does not depend on the replies, so it holds on every path of a
method, error paths included.  Every compare-and-set in it is along a legal
transition, because the record is advanced before it is written through.
-/

namespace KarmaSakshi.Engine

open EffectProgram KarmaSakshi.Domain KarmaSakshi.Stores

set_option autoImplicit false

variable (context : EngineContext)

/-- The operations of a transition; its audit events all name the target. -/
def transitionOp (subject : String) (target : LifecycleState) : EngineOp → Prop
  | .now => True
  | .audit record => record.toState = some target.value
  | .recall manifestId => manifestId = subject
  | .remember manifestId _ => manifestId = subject
  | .lifecycle (.get manifestId) => context.hasLifecycleStore = true ∧ manifestId = subject
  | .lifecycle (.compareAndSet manifestId expected newState) =>
      context.hasLifecycleStore = true ∧ manifestId = subject ∧ newState = target ∧
        LifecycleState.isLegalTransition (expected.getD .proposed) target = true
  | _ => False

theorem remember_fresh_uses (subject : String) (target state : LifecycleState) :
    (rememberFresh subject state).Uses (transitionOp context subject target) :=
  Program.Uses.after rfl (fun _ => trivial)

theorem get_record_uses (subject : String) (target : LifecycleState) :
    (getRecord context subject).Uses (transitionOp context subject target) := by
  refine Program.Uses.after rfl ?_
  intro found
  cases found with
  | some record => trivial
  | none =>
      unfold hydrateRecord
      by_cases configured : context.hasLifecycleStore = true
      · rw [if_pos configured]
        refine Program.Uses.after ⟨configured, rfl⟩ ?_
        intro stored
        cases stored <;> exact remember_fresh_uses context _ _ _
      · rw [if_neg configured]
        exact remember_fresh_uses context _ _ _

theorem compare_and_set_uses (subject : String) (expected : Option LifecycleState)
    (target : LifecycleState) {refused : Action Unit}
    (configured : context.hasLifecycleStore = true)
    (legal : LifecycleState.isLegalTransition (expected.getD .proposed) target = true)
    (uses : refused.Uses (transitionOp context subject target)) :
    (compareAndSetOr subject expected target refused).Uses
      (transitionOp context subject target) := by
  refine Program.Uses.after ⟨configured, rfl, rfl, legal⟩ ?_
  intro won
  cases won with
  | true => trivial
  | false => exact uses

theorem persist_uses (subject : String) {fromState target : LifecycleState}
    (legal : LifecycleState.isLegalTransition fromState target = true) :
    (persistLifecycle context subject fromState target).Uses
      (transitionOp context subject target) := by
  unfold persistLifecycle
  by_cases configured : context.hasLifecycleStore = true
  · rw [if_pos configured]
    refine Program.Uses.after ⟨configured, rfl⟩ ?_
    intro stored
    by_cases first : stored = none ∧ fromState = .proposed
    · rw [if_pos first]
      obtain ⟨_, rfl⟩ := first
      exact compare_and_set_uses context subject none target configured legal
        (compare_and_set_uses context subject (some .proposed) target configured legal trivial)
    · rw [if_neg first]
      exact compare_and_set_uses context subject (some fromState) target configured legal trivial
  · rw [if_neg configured]
    trivial

theorem roll_back_uses (subject : String) (record : LifecycleRecord) (target : LifecycleState)
    (note : TransitionNote) (error : PyError) :
    (rollBack subject record target note error).Uses (transitionOp context subject target) := by
  refine Program.Uses.after rfl ?_
  intro _
  exact Program.Uses.after rfl (fun _ => trivial)

theorem advance_uses (subject : String) (record advanced : LifecycleRecord)
    {target : LifecycleState} (note : TransitionNote)
    (legal : LifecycleState.isLegalTransition record.state target = true) :
    (advance context subject record advanced target note).Uses
      (transitionOp context subject target) := by
  refine Program.Uses.after rfl ?_
  intro _
  apply Program.Uses.bind
  · exact Program.Uses.rescue (persist_uses context subject legal)
      (fun error => roll_back_uses context subject record target note error)
  · intro _
    exact Program.Uses.after rfl (fun _ => trivial)

theorem move_record_uses (subject : String) (record : LifecycleRecord)
    (target : LifecycleState) (note : TransitionNote) :
    (moveRecord context subject record target note).Uses (transitionOp context subject target) := by
  refine Program.Uses.after trivial ?_
  intro instant
  cases advances : record.transition target instant with
  | error error =>
      exact Program.Uses.after rfl (fun _ => trivial)
  | ok advanced =>
      have legal := (LifecycleRecord.transition_ok_iff.mp advances).1
      exact advance_uses context subject record advanced note legal

theorem transition_uses (subject : String) (target : LifecycleState) (note : TransitionNote) :
    (transition context subject target note).Uses (transitionOp context subject target) :=
  Program.Uses.bind (get_record_uses context subject target)
    (fun record => move_record_uses context subject record target note)

/-! ### Recovery -/

/-- What a recovery does once it has evidence. -/
def recordingOp (manifest : EffectManifest) : EngineOp → Prop
  | .grants (.recordIdempotentOutcome key _) => key = manifest.idempotencyKey
  | .outbox (.get key) => context.hasOutboxStore = true ∧ key = manifest.idempotencyKey
  | .outbox (.markConfirmed key _) =>
      context.hasOutboxStore = true ∧ key = manifest.idempotencyKey
  | op => transitionOp context manifest.manifestId .recoveredCommitted op

theorem transition_is_recording {manifest : EffectManifest} {op : EngineOp}
    (within : transitionOp context manifest.manifestId .recoveredCommitted op) :
    recordingOp context manifest op := by
  cases op with
  | grants inner => exact within.elim
  | outbox inner => exact within.elim
  | _ => exact within

theorem confirm_recovered_uses (manifest : EffectManifest) (outcomeRef : String) :
    (confirmRecovered context manifest.idempotencyKey outcomeRef).Uses
      (recordingOp context manifest) := by
  unfold confirmRecovered
  by_cases configured : context.hasOutboxStore = true
  · rw [if_pos configured]
    refine Program.Uses.after ⟨configured, rfl⟩ ?_
    intro pending
    by_cases waits : pending.map OutboxEntry.status = some .pending
    · rw [if_pos waits]
      exact (Program.uses_perform _ _).mpr ⟨configured, rfl⟩
    · rw [if_neg waits]
      trivial
  · rw [if_neg configured]
    trivial

theorem reconcile_uses (manifest : EffectManifest) (outcomeRef : String) :
    (reconcile context manifest outcomeRef).Uses (recordingOp context manifest) := by
  have included : ∀ op, transitionOp context manifest.manifestId .recoveredCommitted op →
      recordingOp context manifest op := fun op => transition_is_recording context
  apply Program.Uses.bind ((get_record_uses context _ _).mono included)
  intro record
  by_cases legal : LifecycleState.isLegalTransition record.state .recoveredCommitted = true
  · rw [if_pos legal]
    exact Program.Uses.bind ((transition_uses context _ _ _).mono included) (fun _ => trivial)
  · rw [if_neg legal]
    trivial

theorem record_recovered_uses (manifest : EffectManifest) (proof : OutcomeProof) :
    (recordRecovered context manifest proof).Uses (recordingOp context manifest) := by
  refine Program.Uses.after rfl ?_
  intro _
  apply Program.Uses.bind (confirm_recovered_uses context manifest _)
  intro _
  exact Program.Uses.bind (reconcile_uses context manifest _) (fun _ => trivial)

/-! ### Checks -/

/-- A check reads the clock, the registry and the revocations, and its events carry no
states. -/
def checkOp : EngineOp → Prop
  | .now | .lookupAdapter _ _ => True
  | .audit record => record.toState = none
  | .grants (.isRevoked _) => True
  | _ => False

/-- The gates of a commit also read the lineage. -/
def gateOp : EngineOp → Prop
  | .now | .lookupAdapter _ _ => True
  | .audit record => record.toState = none
  | .grants (.isRevoked _) | .grants (.getParentGrantId _) | .grants (.hasLineage _) => True
  | _ => False

theorem check_op_is_gate {op : EngineOp} (checks : checkOp op) : gateOp op := by
  cases op with
  | grants inner => cases inner <;> first | exact trivial | exact checks.elim
  | now => trivial
  | audit record => exact checks
  | lookupAdapter adapterId adapterVersion => trivial
  | _ => exact checks.elim

section Checks

variable {Value : Type} (call : CommitCall)

theorem deny_uses (eventType decision : String) (error : PyError) :
    (deny call eventType decision error : Action Value).Uses checkOp :=
  Program.Uses.after rfl (fun _ => trivial)

theorem checked_uses (eventType : String) (check : Except PyError Unit) :
    (checked call eventType check).Uses checkOp := by
  unfold checked
  cases check with
  | ok _ => trivial
  | error error =>
      by_cases known : error.isKarmaSakshi = true
      · simp only [known, if_true]
        exact deny_uses call _ _ _
      · simp only [known, Bool.false_eq_true, if_false]
        trivial

theorem refusal_uses {condition : Prop} [Decidable condition] (eventType decision : String)
    (error : PyError) :
    (if condition then deny call eventType decision error else pure () :
      Action Unit).Uses checkOp := by
  by_cases refused : condition
  · rw [if_pos refused]
    exact deny_uses call _ _ _
  · rw [if_neg refused]
    trivial

/-- The clock is read first. -/
theorem timed_uses {next : Instant → Action Value} (uses : ∀ now, (next now).Uses checkOp) :
    (perform .now >>= next).Uses checkOp :=
  Program.Uses.after trivial uses

theorem tenant_gate_uses (bundle : SealedPolicyBundle) :
    (tenantGate context call bundle).Uses checkOp := by
  unfold tenantGate
  cases bindEngineAndPolicyTenant context.tenantId bundle.bundle.tenantId with
  | ok _ => trivial
  | error error => exact deny_uses call _ _ _

theorem policy_gate_uses : (policyGate context call).Uses checkOp := by
  unfold policyGate
  cases call.grant.policyBundleHash with
  | none =>
      cases call.policyBundle with
      | none => trivial
      | some bundle =>
          by_cases tenanted : context.tenantId.isSome = true
          · simp only [tenanted, if_true]
            exact tenant_gate_uses context call bundle
          · simp only [tenanted, Bool.false_eq_true, if_false]
            trivial
  | some bound =>
      cases call.policyBundle with
      | none => exact deny_uses call _ _ _
      | some bundle =>
          refine timed_uses (fun now => (checked_uses call _ _).bind (fun _ => ?_))
          by_cases mismatch : bundle.seal.bundleHash ≠ bound
          · rw [if_pos mismatch]
            exact deny_uses call _ _ _
          · rw [if_neg mismatch]
            exact tenant_gate_uses context call bundle

theorem envelope_gate_uses : (envelopeGate context call).Uses checkOp := by
  unfold envelopeGate
  cases call.grant.decisionEnvelopeHash with
  | none => trivial
  | some bound =>
      cases call.decisionEnvelope with
      | none => exact deny_uses call _ _ _
      | some envelope =>
          refine timed_uses (fun now => (checked_uses call _ _).bind (fun _ => ?_))
          by_cases mismatch : envelope.canonicalHash context.crypto ≠ bound
          · rw [if_pos mismatch]
            exact deny_uses call _ _ _
          · rw [if_neg mismatch]
            exact checked_uses call _ _

theorem graph_gate_uses : (graphGate context call).Uses checkOp := by
  unfold graphGate
  cases call.grant.causalGraphHash with
  | none => trivial
  | some bound =>
      cases call.causalGraph with
      | none => exact deny_uses call _ _ _
      | some graph => exact checked_uses call _ _

theorem registry_gate_uses : (registryGate context call).Uses checkOp := by
  unfold registryGate
  by_cases configured : context.hasAdapterRegistry = true
  · rw [if_pos configured]
    refine Program.Uses.after trivial (fun entry => ?_)
    cases requireEffect call.adapter.adapterId call.adapter.adapterVersion
        call.manifest.effectType entry with
    | ok capability => trivial
    | error error => exact deny_uses call _ _ _
  · rw [if_neg configured]
    trivial

theorem revocation_gate_uses : (revocationGate call).Uses checkOp := by
  refine Program.Uses.after trivial (fun revoked => ?_)
  cases revoked with
  | false => trivial
  | true => exact deny_uses call _ _ _

theorem next_parent_uses (grantId current : String) : (nextParent grantId current).Uses gateOp := by
  refine Program.Uses.after trivial (fun parent => ?_)
  cases parent with
  | some above => trivial
  | none =>
      refine Program.Uses.after trivial (fun recorded => ?_)
      cases recorded <;> trivial

theorem walk_uses (grantId : String) (maxDepth left : Nat) (current : String)
    (seen : List String) : (walkAncestors grantId maxDepth left current seen).Uses gateOp := by
  induction left generalizing current seen with
  | zero => trivial
  | succ left ih =>
      unfold walkAncestors
      by_cases cyclic : current = grantId ∨ current ∈ seen
      · rw [if_pos cyclic]
        trivial
      · rw [if_neg cyclic]
        refine Program.Uses.after trivial (fun revoked => ?_)
        cases revoked with
        | true => trivial
        | false =>
            refine (next_parent_uses grantId current).bind (fun parent => ?_)
            cases parent with
            | none => trivial
            | some above => exact ih _ _

theorem ancestors_uses (grant : ExecutionGrant) (maxDepth : Nat) :
    (assertNoRevokedAncestors grant maxDepth).Uses gateOp := by
  unfold assertNoRevokedAncestors
  split
  · trivial
  · cases grant.parentGrantId with
    | none => trivial
    | some parent => exact walk_uses _ _ _ _ _

theorem ancestor_gate_uses : (ancestorGate call).Uses gateOp := by
  refine Program.Uses.attempt (ancestors_uses _ _) (fun outcome => ?_)
  cases outcome with
  | ok ancestors =>
      by_cases root : ancestors = []
      · simp only [root, if_true]
        trivial
      · simp only [root, if_false]
        exact (Program.uses_perform _ _).mpr rfl
  | error error =>
      by_cases refusal : error.isLineageRefusal = true
      · simp only [refusal, if_true, ancestorRefused]
        split <;> exact (deny_uses call _ _ _).mono (fun _ => check_op_is_gate)
      · simp only [refusal, Bool.false_eq_true, if_false]
        trivial

theorem gates_use : (gates context call).Uses gateOp := by
  have included : ∀ op, checkOp op → gateOp op := fun _ => check_op_is_gate
  refine ((checked_uses call _ _).mono included).bind (fun _ => ?_)
  refine ((timed_uses (fun _ => checked_uses call _ _)).mono included).bind (fun _ => ?_)
  refine ((refusal_uses call _ _ _).mono included).bind (fun _ => ?_)
  refine ((policy_gate_uses context call).mono included).bind (fun _ => ?_)
  refine ((envelope_gate_uses context call).mono included).bind (fun _ => ?_)
  refine ((graph_gate_uses context call).mono included).bind (fun _ => ?_)
  refine ((refusal_uses call _ _ _).mono included).bind (fun _ => ?_)
  refine ((refusal_uses call _ _ _).mono included).bind (fun _ => ?_)
  refine ((registry_gate_uses context call).mono included).bind (fun _ => ?_)
  refine ((refusal_uses call _ _ _).mono included).bind (fun _ => ?_)
  refine ((revocation_gate_uses call).mono included).bind (fun _ => ?_)
  exact ancestor_gate_uses call

end Checks

/-! ### Compensation -/

/-- The operations of an authorized compensation. -/
def compensationOp (call : CompensationCall) : EngineOp → Prop
  | .now | .audit _ | .lookupAdapter _ _ => True
  | .recall manifestId => manifestId = call.originalId ∨ manifestId = call.compensationId
  | .remember manifestId _ => manifestId = call.originalId ∨ manifestId = call.compensationId
  | .lifecycle (.get manifestId) => context.hasLifecycleStore = true ∧
      (manifestId = call.originalId ∨ manifestId = call.compensationId)
  | .lifecycle (.compareAndSet manifestId expected newState) =>
      context.hasLifecycleStore = true ∧
        (manifestId = call.originalId ∨ manifestId = call.compensationId) ∧
        LifecycleState.isLegalTransition (expected.getD .proposed) newState = true
  | .grants (.isRevoked _) => True
  | .grants (.reserve grantId maxUses) =>
      grantId = call.grant.grantId ∧ maxUses = call.grant.maxUses
  | .grants (.release grantId) => grantId = call.grant.grantId
  | .grants (.commit grantId key outcomeRef) =>
      grantId = call.grant.grantId ∧ key = call.compensation.manifest.idempotencyKey ∧
        ∃ succeeded, outcomeRef = compensationOutcomeRef call succeeded
  | .adapter identity (.compensate manifest _) =>
      identity = call.adapter ∧ manifest = call.original.manifest
  | _ => False

variable (call : CompensationCall)

theorem transition_is_compensating {subject : String} {target : LifecycleState} {op : EngineOp}
    (party : subject = call.originalId ∨ subject = call.compensationId)
    (within : transitionOp context subject target op) : compensationOp context call op := by
  cases op with
  | now => trivial
  | audit record => trivial
  | «recall» manifestId => exact (show manifestId = subject from within) ▸ party
  | remember manifestId record => exact (show manifestId = subject from within) ▸ party
  | lifecycle inner =>
      cases inner with
      | get manifestId => exact ⟨within.1, within.2 ▸ party⟩
      | compareAndSet manifestId expected newState =>
          obtain ⟨configured, subjectIs, targetIs, legal⟩ := within
          exact ⟨configured, subjectIs ▸ party, targetIs ▸ legal⟩
  | _ => exact within.elim

theorem check_is_compensating {op : EngineOp} (checks : checkOp op) :
    compensationOp context call op := by
  cases op with
  | grants inner => cases inner <;> first | exact trivial | exact checks.elim
  | now => trivial
  | audit record => trivial
  | lookupAdapter adapterId adapterVersion => trivial
  | _ => exact checks.elim

theorem party_transition_uses {subject : String} (target : LifecycleState)
    (note : TransitionNote)
    (party : subject = call.originalId ∨ subject = call.compensationId) :
    (transition context subject target note).Uses (compensationOp context call) :=
  (transition_uses context subject target note).mono
    (fun _ within => transition_is_compensating context call party within)

theorem binding_gate_uses : (bindingGate context call).Uses checkOp := by
  unfold bindingGate
  cases assertCompensationBindsOriginal context.crypto call.compensation call.original with
  | ok _ => trivial
  | error error =>
      by_cases binding : error.kind = .compensationBinding
      · simp only [binding, if_true]
        exact deny_uses _ _ _ _
      · simp only [binding, if_false]
        trivial

theorem compensation_seal_gate_uses : (compensationSealGate context call).Uses checkOp := by
  unfold compensationSealGate
  cases verifySeal context.crypto call.compensation context.keyring with
  | ok _ => exact timed_uses (fun _ => checked_uses _ _ _)
  | error error => exact checked_uses _ _ _

theorem compensation_policy_gate_uses : (compensationPolicyGate context call).Uses checkOp := by
  unfold compensationPolicyGate
  cases call.grant.policyBundleHash with
  | none => trivial
  | some bound =>
      cases call.policyBundle with
      | none => exact deny_uses _ _ _ _
      | some bundle =>
          exact timed_uses (fun _ =>
            (checked_uses _ _ _).bind (fun _ => refusal_uses _ _ _ _))

theorem compensation_registry_gate_uses :
    (compensationRegistryGate context call).Uses checkOp := by
  unfold compensationRegistryGate
  by_cases configured : context.hasAdapterRegistry = true
  · rw [if_pos configured]
    refine Program.Uses.after trivial (fun entry => ?_)
    cases requireTrusted call.adapter.adapterId call.adapter.adapterVersion entry with
    | ok _ => trivial
    | error error => exact deny_uses _ _ _ _
  · rw [if_neg configured]
    trivial

/-- The gates in front of the reservation only check. -/
theorem compensation_checks_use {rest : Action Unit} {allowed : EngineOp → Prop}
    (included : ∀ op, checkOp op → allowed op) (uses : rest.Uses allowed) :
    (do
      Program.settle (verifySeal context.crypto call.original context.keyring)
      bindingGate context call
      compensationSealGate context call
      compensationManifestGate call
      compensationPolicyGate context call
      compensationAudienceGate call
      compensationIdentityGate call
      compensationRegistryGate context call
      effectTypeGate call.asCommit
      revocationGate call.asCommit
      rest).Uses allowed := by
  apply Program.Uses.bind (Program.uses_settle _ _)
  intro _
  apply ((binding_gate_uses context call).mono included).bind
  intro _
  apply ((compensation_seal_gate_uses context call).mono included).bind
  intro _
  apply ((refusal_uses call.asCommit _ _ _).mono included).bind
  intro _
  apply ((compensation_policy_gate_uses context call).mono included).bind
  intro _
  apply ((refusal_uses call.asCommit _ _ _).mono included).bind
  intro _
  apply ((refusal_uses call.asCommit _ _ _).mono included).bind
  intro _
  apply ((compensation_registry_gate_uses context call).mono included).bind
  intro _
  apply ((refusal_uses call.asCommit _ _ _).mono included).bind
  intro _
  apply ((revocation_gate_uses call.asCommit).mono included).bind
  exact fun _ => uses

theorem compensation_reserve_uses :
    (compensationReserve call).Uses (compensationOp context call) := by
  refine Program.Uses.after ⟨rfl, rfl⟩ (fun reserved => ?_)
  cases reserved with
  | true => trivial
  | false =>
      exact (deny_uses _ _ _ _).mono (fun _ checks => check_is_compensating context call checks)

theorem compensation_gates_use :
    (compensationGates context call).Uses (compensationOp context call) := by
  have included : ∀ op, checkOp op → compensationOp context call op :=
    fun _ checks => check_is_compensating context call checks
  exact compensation_checks_use context call included (compensation_reserve_uses context call)

theorem enter_compensating_uses (originalState : LifecycleState) :
    (enterCompensating context call originalState).Uses (compensationOp context call) := by
  unfold enterCompensating
  by_cases verified : originalState = .verified
  · rw [if_pos verified]
    apply Program.Uses.attempt (party_transition_uses context call _ _ (Or.inl rfl))
    intro outcome
    cases outcome with
    | ok _ => trivial
    | error error =>
        exact Program.Uses.after rfl (fun _ => trivial)
  · rw [if_neg verified]
    trivial

theorem perform_compensation_uses :
    (performCompensation context call).Uses (compensationOp context call) := by
  apply Program.Uses.bind (party_transition_uses context call _ _ (Or.inr rfl))
  intro _
  refine Program.Uses.after ⟨rfl, rfl⟩ ?_
  intro result
  exact Program.Uses.after ⟨rfl, rfl, result.succeeded, rfl⟩
    (fun _ => trivial)

theorem settle_original_uses (originalState : LifecycleState) (result : CompensationResult) :
    (settleOriginal context call originalState result).Uses (compensationOp context call) := by
  unfold settleOriginal
  by_cases succeeded : result.succeeded = true
  · rw [if_pos succeeded]
    exact Program.Uses.bind (party_transition_uses context call _ _ (Or.inl rfl))
      (fun _ => trivial)
  · rw [if_neg succeeded]
    by_cases verified : originalState = .verified
    · rw [if_pos verified]
      exact Program.Uses.bind (party_transition_uses context call _ _ (Or.inl rfl))
        (fun _ => trivial)
    · rw [if_neg verified]
      trivial

theorem commit_compensation_uses :
    (commitCompensation context call).Uses (compensationOp context call) := by
  apply Program.Uses.bind (compensation_gates_use context call)
  intro _
  apply Program.Uses.bind ((get_record_uses context call.originalId .compensating).mono
    (fun _ within => transition_is_compensating context call (Or.inl rfl) within))
  intro original
  apply Program.Uses.bind (enter_compensating_uses context call original.state)
  intro _
  apply Program.Uses.attempt (perform_compensation_uses context call)
  intro outcome
  cases outcome with
  | ok result =>
      apply Program.Uses.bind (party_transition_uses context call _ _ (Or.inr rfl))
      intro _
      exact Program.Uses.bind (settle_original_uses context call original.state result)
        (fun _ => trivial)
  | error error =>
      refine Program.Uses.after rfl ?_
      intro _
      exact Program.Uses.bind (party_transition_uses context call _ _ (Or.inr rfl))
        (fun _ => trivial)

end KarmaSakshi.Engine
