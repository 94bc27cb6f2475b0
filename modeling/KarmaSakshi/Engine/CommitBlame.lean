import KarmaSakshi.Engine.Saga
import KarmaSakshi.Library.Blame

/-!
Which answers make a commit fail its saga step.

A commit fails the step when it returns an unsuccessful result or raises anything
but a security denial.  The checks of the engine raise only denials, so each such
end goes back to one answer: an unsuccessful or raising adapter, preconditions that
no longer hold, or a component raising something that is no denial.
-/

namespace KarmaSakshi.Engine

open EffectProgram KarmaSakshi.Domain KarmaSakshi.Stores

set_option autoImplicit false

/-! ### Checks that raise only denials -/

section Checks

variable {Value : Type}

/-- The error fails no saga step. -/
def Denies (check : Except PyError Value) : Prop :=
  ∀ error, check = .error error → failsStep error = false

theorem denies_ok (value : Value) : Denies (.ok value) := by
  intro error impossible
  cases impossible

theorem denies_error {error : PyError} (denial : failsStep error = false) :
    Denies (.error error : Except PyError Value) := by
  intro raised same
  rw [← Except.error.inj same]
  exact denial

theorem Denies.bind {Result : Type} {check : Except PyError Value}
    {next : Value → Except PyError Result} (first : Denies check)
    (rest : ∀ value, Denies (next value)) : Denies (check >>= next) := by
  cases check with
  | ok value => exact rest value
  | error error => exact denies_error (first error rfl)

theorem Denies.ite {condition : Prop} [Decidable condition] {yes no : Except PyError Value}
    (whenTrue : Denies yes) (whenFalse : Denies no) :
    Denies (if condition then yes else no) := by
  by_cases holds : condition
  · rw [if_pos holds]
    exact whenTrue
  · rw [if_neg holds]
    exact whenFalse

variable {crypto : CryptoPrimitives} {keyring : Keyring}

theorem keyring_denies (keyId data signature : String) :
    Denies (keyring.verify crypto keyId data signature) := by
  unfold Keyring.verify
  cases keyring.keys keyId with
  | none => exact denies_error rfl
  | some key => exact Denies.ite (denies_error rfl) (Denies.ite (denies_error rfl) (denies_ok ()))

theorem seal_denies (signed : SealedManifest) : Denies (verifySeal crypto signed keyring) :=
  Denies.bind (Denies.ite (denies_error rfl) (denies_ok ()))
    (fun _ => keyring_denies _ _ _)

theorem schema_version_denies (schemaVersion : String) :
    Denies (assertSupportedSchemaVersion schemaVersion) := by
  have parsed : Denies (parseMajor schemaVersion) :=
    Denies.ite (denies_error rfl) (Denies.ite (denies_error rfl) (denies_ok _))
  unfold assertSupportedSchemaVersion
  cases major : parseMajor schemaVersion with
  | error error => exact denies_error (parsed error major)
  | ok major => exact Denies.ite (denies_ok ()) (denies_error rfl)

theorem grant_denies (grant : ExecutionGrant) (now : Instant) (skew : ClockSkewPolicy) :
    Denies (verifyGrant crypto grant keyring now skew) := by
  apply Denies.bind
  · apply Denies.bind (schema_version_denies grant.schemaVersion)
    intro _
    cases grant.signature with
    | none => exact denies_error rfl
    | some signature => exact keyring_denies _ _ _
  · intro _
    exact Denies.ite (denies_error rfl) (Denies.ite (denies_error rfl) (denies_ok ()))

theorem policy_bundle_denies (bundle : SealedPolicyBundle) (now : Instant) :
    Denies (verifyPolicyBundle crypto bundle keyring now none) := by
  apply Denies.bind (Denies.ite (denies_error rfl) (denies_ok ()))
  intro _
  apply Denies.bind (keyring_denies _ _ _)
  intro _
  apply Denies.ite (denies_error rfl)
  cases bundle.bundle.effectiveUntil with
  | none => exact denies_ok ()
  | some ending => exact Denies.ite (denies_error rfl) (denies_ok ())

theorem tenant_denies (engineTenant policyTenant : Option String) :
    Denies (bindEngineAndPolicyTenant engineTenant policyTenant) := by
  cases engineTenant with
  | none =>
      cases policyTenant with
      | none => exact denies_ok ()
      | some presented => exact denies_error rfl
  | some expected =>
      cases policyTenant with
      | none => exact denies_error rfl
      | some presented => exact Denies.ite (denies_error rfl) (denies_ok ())

theorem plan_denies (manifestHash bound : String) (graph : CausalEffectGraph) :
    Denies (do
      requireMatchingPlanHash crypto graph bound
      assertManifestInPlan crypto manifestHash graph keyring) := by
  apply Denies.bind (Denies.ite (denies_error rfl) (denies_ok ()))
  intro _
  unfold assertManifestInPlan
  cases graph.verify crypto keyring with
  | error error => exact denies_error rfl
  | ok _ => exact Denies.ite (denies_error rfl) (denies_ok ())

theorem trusted_denies (adapterId adapterVersion : String) (entry : Option RegistryEntry) :
    Denies (requireTrusted adapterId adapterVersion entry) := by
  unfold requireTrusted
  cases entry with
  | none => exact denies_error rfl
  | some found => exact Denies.ite (denies_error rfl) (denies_ok _)

theorem effect_denies (adapterId adapterVersion effectType : String)
    (entry : Option RegistryEntry) :
    Denies (requireEffect adapterId adapterVersion effectType entry) := by
  unfold requireEffect
  cases trusted : requireTrusted adapterId adapterVersion entry with
  | error error => exact denies_error (trusted_denies _ _ _ error trusted)
  | ok capability => exact Denies.ite (denies_error rfl) (denies_ok _)

theorem consume_amount_denies (budget : AuthorityBudget) (manifest : EffectManifest) :
    Denies (resolveBudgetConsumeAmount budget manifest) := by
  unfold resolveBudgetConsumeAmount
  cases budget.kind with
  | count limitCount positive => exact denies_ok 1
  | monetary currency limitMinorUnits positive =>
      cases manifest.estimatedCost with
      | none => exact denies_error rfl
      | some cost =>
          exact Denies.ite (denies_error rfl) (Denies.ite (denies_error rfl) (denies_ok _))

theorem record_transition_denies (record : LifecycleRecord) (target : LifecycleState)
    (instant : Instant) : Denies (record.transition target instant) := by
  have legal : Denies (LifecycleState.assertLegalTransition record.state target) :=
    Denies.ite (denies_ok ()) (denies_error rfl)
  unfold LifecycleRecord.transition
  cases refused : LifecycleState.assertLegalTransition record.state target with
  | error error => exact denies_error (legal error refused)
  | ok _ => exact denies_ok _

end Checks

/-! ### Answers that fail a step -/

/-- An answer that a commit turns into a failed step.  Audit events that name no
manifest are not its own. -/
def spoils : (op : EngineOp) → Except PyError (EngineReply op) → Bool
  | .audit record, .error error => record.manifestId.isSome && failsStep error
  | .adapter _ (.commit _ _), .ok result => !result.success
  | .adapter _ (.commit _ _), .error _ => true
  | .adapter _ (.validatePreconditions _), .ok result => !result.satisfied
  | _, .ok _ => false
  | _, .error error => failsStep error

/-- After an answer that fails the step, the external system is left alone; a
commit never compensates. -/
def leavesAlone (seen : Bool) : EngineOp → Prop
  | .audit record => record.manifestId.isSome = true
  | .adapter _ (.commit _ _) => seen = false
  | .adapter _ (.compensate _ _) => False
  | _ => True

def stepBlame : Blame EngineOp EngineReply PyError where
  grave := failsStep
  bad := spoils
  admits := leavesAlone
  traced := by
    intro seen op error admitted grave
    cases op with
    | audit record =>
        show (record.manifestId.isSome && failsStep error) = true
        rw [show record.manifestId.isSome = true from admitted, grave]
        rfl
    | adapter identity inner =>
        cases inner with
        | commit manifest grant => rfl
        | _ => exact grave
    | _ => exact grave

abbrev Blames (seen : Bool) {Value : Type} (program : Action Value) : Prop :=
  stepBlame.Blames seen program

abbrev Raises (seen : Bool) {Value : Type} (program : Action Value) : Prop :=
  stepBlame.Raises seen program

variable {context : EngineContext} {call : CommitCall} {seen : Bool}

/-- An operation outside the adapters, or the report about a manifest. -/
def isInternal : EngineOp → Prop
  | .adapter _ _ => False
  | .audit record => record.manifestId.isSome = true
  | _ => True

theorem internal_blames {op : EngineOp} (internal : isInternal op) :
    Blames seen (perform op) := by
  apply blames_perform
  · cases op with
    | adapter identity inner => exact internal.elim
    | audit record => exact internal
    | _ => trivial
  · intro value
    cases op with
    | adapter identity inner => exact internal.elim
    | _ => rfl

theorem asks_blames {Value : Type} {op : EngineOp} {next : EngineReply op → Action Value}
    (internal : isInternal op) (rest : ∀ reply, Blames seen (next reply)) :
    Blames seen (perform op >>= next) :=
  (internal_blames internal).bind rest

theorem asks_then_raises {Value : Type} {op : EngineOp} {next : EngineReply op → Action Value}
    (internal : isInternal op) (rest : ∀ reply, Raises seen (next reply)) :
    Raises seen (perform op >>= next) :=
  (internal_blames internal).thenRaise rest

/-! ### Denials -/

theorem deny_raises {Value : Type} {eventType decision : String} {error : PyError}
    (known : failsStep error = true → seen = true) :
    Raises seen (deny call eventType decision error : Action Value) :=
  asks_then_raises rfl (fun _ => raises_raised known)

theorem deny_blames {Value : Type} {eventType decision : String} {error : PyError}
    (denial : failsStep error = false) :
    Blames seen (deny call eventType decision error : Action Value) :=
  (deny_raises (fun grave => by rw [denial] at grave; cases grave)).blames

theorem refusal_blames {condition : Prop} [Decidable condition] {eventType decision : String}
    {error : PyError} (denial : failsStep error = false) :
    Blames seen (if condition then deny call eventType decision error else pure () :
      Action Unit) := by
  by_cases refused : condition
  · rw [if_pos refused]
    exact deny_blames denial
  · rw [if_neg refused]
    exact blames_pure ()

theorem checked_blames {eventType : String} {check : Except PyError Unit}
    (denies : Denies check) : Blames seen (checked call eventType check) := by
  unfold checked
  cases check with
  | ok _ => exact blames_pure ()
  | error error =>
      have denial := denies error rfl
      by_cases known : error.isKarmaSakshi = true
      · simp only [known, if_true]
        exact deny_blames denial
      · rw [failsStep, Bool.eq_false_iff.mpr known] at denial
        cases denial

/-! ### The gates -/

theorem tenant_gate_blames (bundle : SealedPolicyBundle) :
    Blames seen (tenantGate context call bundle) := by
  unfold tenantGate
  cases refused : bindEngineAndPolicyTenant context.tenantId bundle.bundle.tenantId with
  | ok _ => exact blames_pure ()
  | error error => exact deny_blames (tenant_denies _ _ error refused)

theorem bound_policy_gate_blames (bound : String) (bundle : SealedPolicyBundle) :
    Blames seen (boundPolicyGate context call bound bundle) := by
  refine asks_blames trivial ?_
  intro now
  apply Blame.Blames.bind (checked_blames (policy_bundle_denies bundle now))
  intro _
  by_cases mismatch : bundle.seal.bundleHash ≠ bound
  · rw [if_pos mismatch]
    exact deny_blames rfl
  · rw [if_neg mismatch]
    exact tenant_gate_blames bundle

theorem policy_gate_blames : Blames seen (policyGate context call) := by
  unfold policyGate
  cases call.grant.policyBundleHash with
  | some bound =>
      cases call.policyBundle with
      | none => exact deny_blames rfl
      | some bundle => exact bound_policy_gate_blames bound bundle
  | none =>
      cases call.policyBundle with
      | none => exact blames_pure ()
      | some bundle =>
          by_cases bound : context.tenantId.isSome = true
          · simp only [bound, if_true]
            exact tenant_gate_blames bundle
          · simp only [bound, Bool.false_eq_true, if_false]
            exact blames_pure ()

/-- A saga step presents no envelope. -/
theorem envelope_gate_blames (absent : call.decisionEnvelope = none) :
    Blames seen (envelopeGate context call) := by
  unfold envelopeGate
  cases call.grant.decisionEnvelopeHash with
  | none => exact blames_pure ()
  | some bound =>
      rw [absent]
      exact deny_blames rfl

theorem graph_gate_blames : Blames seen (graphGate context call) := by
  unfold graphGate
  cases call.grant.causalGraphHash with
  | none => exact blames_pure ()
  | some bound =>
      cases call.causalGraph with
      | none => exact deny_blames rfl
      | some graph => exact checked_blames (plan_denies call.manifestHash bound graph)

theorem registry_gate_blames : Blames seen (registryGate context call) := by
  unfold registryGate
  by_cases configured : context.hasAdapterRegistry = true
  · rw [if_pos configured]
    refine asks_blames trivial ?_
    intro entry
    cases refused : requireEffect call.adapter.adapterId call.adapter.adapterVersion
      call.manifest.effectType entry with
    | ok _ => exact blames_pure ()
    | error error => exact deny_blames (effect_denies _ _ _ _ error refused)
  · rw [if_neg configured]
    exact blames_pure ()

theorem revocation_gate_blames : Blames seen (revocationGate call) := by
  refine asks_blames trivial ?_
  intro revoked
  cases revoked with
  | true => exact deny_blames rfl
  | false => exact blames_pure ()

/-! ### The ancestor walk -/

theorem light_error_blames {Value : Type} {error : PyError} (denial : failsStep error = false) :
    Blames seen (.raised error : Action Value) :=
  (raises_raised (fun grave : failsStep error = true => by
    rw [denial] at grave; cases grave)).blames

theorem next_parent_blames (grantId current : String) :
    Blames seen (nextParent grantId current) := by
  refine asks_blames trivial ?_
  intro parent
  cases parent with
  | some parent => exact blames_pure _
  | none =>
      refine asks_blames trivial ?_
      intro recorded
      cases recorded with
      | true => exact blames_pure _
      | false => exact light_error_blames rfl

theorem walk_blames (grantId : String) (maxDepth left : Nat) (current : String)
    (cleared : List String) :
    Blames seen (walkAncestors grantId maxDepth left current cleared) := by
  induction left generalizing current cleared with
  | zero => exact light_error_blames rfl
  | succ left ih =>
      unfold walkAncestors
      by_cases looped : current = grantId ∨ current ∈ cleared
      · rw [if_pos looped]
        exact light_error_blames rfl
      · rw [if_neg looped]
        refine asks_blames trivial ?_
        intro revoked
        cases revoked with
        | true => exact light_error_blames rfl
        | false =>
            apply Blame.Blames.bind (next_parent_blames grantId current)
            intro parent
            cases parent with
            | none => exact blames_pure _
            | some parent => exact ih parent (cleared ++ [current])

theorem ancestor_gate_blames : Blames seen (ancestorGate call) := by
  have walked : Blames seen (assertNoRevokedAncestors call.grant maxDelegationDepth) := by
    unfold assertNoRevokedAncestors
    rw [if_neg (by decide)]
    cases call.grant.parentGrantId with
    | none => exact blames_pure _
    | some parent => exact walk_blames _ _ _ _ _
  apply walked.attempt
  · intro ancestors
    by_cases root : ancestors = []
    · simp only [root, if_true]
      exact blames_pure ()
    · simp only [root, if_false]
      exact internal_blames rfl
  · intro error later accounts
    have known : failsStep error = true → later = true := fun grave => accounts (Or.inr grave)
    by_cases lineage : error.isLineageRefusal = true
    · simp only [lineage, if_true, ancestorRefused]
      by_cases revoked : error.kind = .grantRevoked
      · rw [if_pos revoked]
        exact deny_raises known
      · rw [if_neg revoked]
        exact deny_raises known
    · simp only [lineage, Bool.false_eq_true, if_false]
      exact raises_raised known

theorem gates_blame (absent : call.decisionEnvelope = none) :
    Blames seen (gates context call) := by
  apply Blame.Blames.bind (checked_blames (seal_denies call.sealed))
  intro _
  apply Blame.Blames.bind
  · refine asks_blames trivial ?_
    exact fun now => checked_blames (grant_denies call.grant now context.clockSkew)
  intro _
  apply Blame.Blames.bind (refusal_blames rfl)
  intro _
  apply Blame.Blames.bind policy_gate_blames
  intro _
  apply Blame.Blames.bind (envelope_gate_blames absent)
  intro _
  apply Blame.Blames.bind graph_gate_blames
  intro _
  apply Blame.Blames.bind (refusal_blames rfl)
  intro _
  apply Blame.Blames.bind (refusal_blames rfl)
  intro _
  apply Blame.Blames.bind registry_gate_blames
  intro _
  apply Blame.Blames.bind (refusal_blames rfl)
  intro _
  exact Blame.Blames.bind revocation_gate_blames (fun _ => ancestor_gate_blames)

/-! ### Lifecycle transitions -/

theorem get_record_blames (subject : String) : Blames seen (getRecord context subject) := by
  refine asks_blames trivial ?_
  intro cached
  cases cached with
  | some record => exact blames_pure record
  | none =>
      have fresh : ∀ state, Blames seen (rememberFresh subject state) := fun _ =>
        asks_blames trivial (fun _ => blames_pure _)
      show Blames seen (hydrateRecord context subject)
      unfold hydrateRecord
      by_cases durable : context.hasLifecycleStore = true
      · rw [if_pos durable]
        refine asks_blames trivial ?_
        intro stored
        cases stored with
        | none => exact fresh _
        | some state => exact fresh _
      · rw [if_neg durable]
        exact fresh _

theorem compare_and_set_blames {subject : String} {expected : Option LifecycleState}
    {target : LifecycleState} {refused : Action Unit} (otherwise : Blames seen refused) :
    Blames seen (compareAndSetOr subject expected target refused) := by
  refine asks_blames trivial ?_
  intro won
  cases won with
  | true => exact blames_pure ()
  | false => exact otherwise

theorem persist_blames (subject : String) (fromState target : LifecycleState) :
    Blames seen (persistLifecycle context subject fromState target) := by
  unfold persistLifecycle
  by_cases durable : context.hasLifecycleStore = true
  · rw [if_pos durable]
    refine asks_blames trivial ?_
    intro stored
    by_cases first : stored = none ∧ fromState = .proposed
    · rw [if_pos first]
      exact compare_and_set_blames (compare_and_set_blames (light_error_blames rfl))
    · rw [if_neg first]
      exact compare_and_set_blames (light_error_blames rfl)
  · rw [if_neg durable]
    exact blames_pure ()

theorem advance_blames (subject : String) (record advanced : LifecycleRecord)
    (target : LifecycleState) (note : TransitionNote) :
    Blames seen (advance context subject record advanced target note) := by
  refine asks_blames trivial ?_
  intro _
  have persisted : Blames seen ((persistLifecycle context subject record.state target).rescue
      PyError.isStoreUnavailable (rollBack subject record target note)) := by
    apply (persist_blames subject record.state target).rescue
    intro error later accounts
    refine asks_then_raises trivial ?_
    intro _
    exact asks_then_raises rfl
      (fun _ => raises_raised (fun grave => accounts (Or.inr grave)))
  apply persisted.bind
  intro _
  exact asks_blames rfl (fun _ => blames_pure advanced)

theorem transition_blames (subject : String) (target : LifecycleState) (note : TransitionNote) :
    Blames seen (transition context subject target note) := by
  apply Blame.Blames.bind (get_record_blames subject)
  intro record
  refine asks_blames trivial ?_
  intro instant
  cases refused : record.transition target instant with
  | error error =>
      have denial := record_transition_denies record target instant error refused
      exact asks_blames rfl (fun _ => light_error_blames denial)
  | ok advanced => exact advance_blames subject record advanced target note

/-! ### The reservations -/

section Holding

variable {hold : BudgetHold}

theorem resolve_amount_blames (budgetId : String) :
    Blames seen (resolveAmount context call budgetId) := by
  have asked : Blames seen (requireBudget context budgetId) := by
    unfold requireBudget
    by_cases configured : context.hasBudgetLedger = true
    · rw [if_pos configured]
      exact internal_blames trivial
    · rw [if_neg configured]
      exact light_error_blames rfl
  have resolved : Blames seen (do
      let budget ← requireBudget context budgetId
      .settle (resolveBudgetConsumeAmount budget call.manifest)) :=
    asked.bind (fun budget => blames_settle (consume_amount_denies budget call.manifest))
  apply resolved.attempt blames_pure
  intro error later accounts
  have known : failsStep error = true → later = true := fun grave => accounts (Or.inr grave)
  by_cases budgetError : error.isAuthorityBudget = true
  · simp only [budgetError, if_true]
    exact deny_raises known
  · simp only [budgetError, Bool.false_eq_true, if_false]
    exact raises_raised known

theorem reserve_budget_blames : Blames seen (reserveBudget context call) := by
  unfold reserveBudget
  cases call.grant.authorityBudgetId with
  | none => exact blames_pure none
  | some budgetId =>
      apply Blame.Blames.bind (resolve_amount_blames budgetId)
      intro amount
      refine asks_blames trivial ?_
      intro reserved
      cases reserved with
      | true => exact blames_pure _
      | false => exact asks_blames trivial (fun _ => deny_blames rfl)

theorem release_budget_blames : Blames seen (releaseBudget hold) := by
  cases hold with
  | none => exact blames_pure ()
  | some held => exact internal_blames trivial

theorem reserve_grant_blames : Blames seen (reserveGrant call hold) := by
  refine asks_blames trivial ?_
  intro reserved
  cases reserved with
  | true => exact blames_pure ()
  | false => exact release_budget_blames.bind (fun _ => deny_blames rfl)

theorem release_holds_blames : Blames seen (releaseHolds call hold) :=
  asks_blames trivial (fun _ => release_budget_blames)

theorem enter_committing_blames : Blames seen (enterCommitting context call hold) := by
  apply (transition_blames call.manifestId .committing _).attempt (fun _ => blames_pure ())
  intro error later accounts
  exact release_holds_blames.thenRaise
    (fun _ => raises_raised (fun grave => accounts (Or.inr grave)))

theorem record_outbox_blames : Blames seen (recordOutbox context call hold) := by
  unfold recordOutbox
  by_cases configured : context.hasOutboxStore = true
  · rw [if_pos configured]
    refine asks_blames trivial ?_
    intro instant
    have recorded : Blames seen (perform (.outbox (.recordPending (call.outboxEntry instant)))) :=
      internal_blames trivial
    apply recorded.attempt (fun _ => blames_pure ())
    intro error later accounts
    have known : failsStep error = true → later = true := fun grave => accounts (Or.inr grave)
    by_cases refusal : error.isOutboxRefusal = true
    · simp only [refusal, if_true]
      exact release_holds_blames.thenRaise (fun _ => deny_raises known)
    · simp only [refusal, Bool.false_eq_true, if_false]
      exact raises_raised known
  · rw [if_neg configured]
    exact blames_pure ()

/-! ### Replay and settlement -/

theorem abandon_outbox_blames : Blames seen (abandonOutbox context call) := by
  unfold abandonOutbox
  by_cases configured : context.hasOutboxStore = true
  · rw [if_pos configured]
    exact internal_blames trivial
  · rw [if_neg configured]
    exact blames_pure ()

theorem confirm_outbox_blames (outcomeRef : String) :
    Blames seen (confirmOutbox context call outcomeRef) := by
  unfold confirmOutbox
  by_cases configured : context.hasOutboxStore = true
  · rw [if_pos configured]
    refine asks_blames trivial ?_
    intro existing
    simp only [configured, or_true, if_true]
    exact internal_blames trivial
  · rw [if_neg configured]
    exact blames_pure ()

theorem fail_with_blames (eventType : String) (metadata : List (String × String)) :
    Blames seen (failWith context call eventType metadata) :=
  (transition_blames call.manifestId .failed _).bind (fun _ => blames_pure ())

theorem settle_failure_blames (result : CommitResult) :
    Blames seen (settleFailure context call hold result) := by
  apply Blame.Blames.bind release_holds_blames
  intro _
  apply Blame.Blames.bind abandon_outbox_blames
  intro _
  exact (fail_with_blames _ _).bind (fun _ => blames_pure result)

theorem settle_error_raises {error : PyError} (known : failsStep error = true → seen = true) :
    Raises seen (settleError context call hold error) := by
  apply Blame.Blames.thenRaise release_holds_blames
  intro _
  exact (fail_with_blames _ _).thenRaise (fun _ => raises_raised known)

/-! ### The whole commit -/

/-- Put the holds back and move to FAILED, then report why. -/
theorem give_up_raises {eventType : String} {metadata : List (String × String)} {error : PyError}
    (known : failsStep error = true → seen = true) :
    Raises seen (do
      releaseHolds call hold
      abandonOutbox context call
      failWith context call eventType metadata
      .raised error : Action Unit) := by
  apply Blame.Blames.thenRaise release_holds_blames
  intro _
  apply Blame.Blames.thenRaise abandon_outbox_blames
  intro _
  exact (fail_with_blames _ _).thenRaise (fun _ => raises_raised known)

/-- Unsatisfied preconditions raise an error that fails the step. -/
theorem preconditions_blame : Blames false (checkPreconditions context call hold) := by
  refine conforms_asked trivial ?_
  intro reply
  cases reply with
  | error error =>
      have raises : Raises (failsStep error) (do
          releaseHolds call hold
          abandonOutbox context call
          failWith context call "effect.precondition_check_error"
            [("error", clipped error.message 200)]
          .raised error : Action Unit) := give_up_raises (fun grave => grave)
      exact raises.onward (fun impossible => by cases impossible)
  | ok result =>
      by_cases satisfied : result.satisfied = true
      · have fair : spoils (.adapter call.adapter (.validatePreconditions call.manifest))
            (.ok result) = false := by rw [spoils, satisfied]; rfl
        simp only [satisfied, if_true]
        show (false || spoils _ (.ok result)) = false
        rw [fair]
        rfl
      · have spoiled : spoils (.adapter call.adapter (.validatePreconditions call.manifest))
            (.ok result) = true := by rw [spoils, Bool.eq_false_iff.mpr satisfied]; rfl
        simp only [satisfied, Bool.false_eq_true, if_false]
        apply Blame.Raises.onward
        · exact give_up_raises (fun _ => by rw [show stepBlame.bad = spoils from rfl, spoiled]; rfl)
        · intro impossible
          cases impossible

/-- A commit that fails its step has seen an answer that fails it. -/
def Traced (seen : Bool) (program : Action CommitResult) : Prop :=
  Conforms stepBlame.spec (fun outcome after => commitFails outcome → after = true) program seen

theorem blames_then_traced {Value : Type} {program : Action Value}
    {next : Value → Action CommitResult} (first : Blames seen program)
    (rest : ∀ value, Traced seen (next value)) : Traced seen (program >>= next) := by
  refine Conforms.andThen (stepBlame.ended seen) first ?_ ?_
  · rintro value _ rfl
    exact rest value
  · intro fault after accounts grave
    exact accounts (Or.inr grave)

theorem returned_traced {result : CommitResult} (succeeded : result.success = true) :
    Traced seen (pure result) := by
  intro failed
  rw [commitFails, succeeded] at failed
  cases failed

theorem replay_traced (existingOutcome : String) :
    Traced seen (replayOutcome context call hold existingOutcome) := by
  apply blames_then_traced release_budget_blames
  intro _
  apply blames_then_traced (confirm_outbox_blames existingOutcome)
  intro _
  have finalized : Blames seen
      (perform (.grants (.commit call.grantId call.idempotencyKey existingOutcome))) :=
    internal_blames trivial
  apply blames_then_traced finalized
  intro _
  exact blames_then_traced (transition_blames call.manifestId .committed _)
    (fun _ => returned_traced rfl)

theorem settle_success_traced {result : CommitResult} (succeeded : result.success = true) :
    Traced seen (settleSuccess context call hold result) := by
  have consumed : Blames seen (consumeBudget hold) := by
    cases hold with
    | none => exact blames_pure ()
    | some held => exact internal_blames trivial
  apply blames_then_traced consumed
  intro _
  apply blames_then_traced (confirm_outbox_blames _)
  intro _
  have finalized : Blames seen (perform (.grants (.commit call.grantId call.idempotencyKey
      (orElse result.providerReference "committed")))) := internal_blames trivial
  apply blames_then_traced finalized
  intro _
  exact blames_then_traced (transition_blames call.manifestId .committed _)
    (fun _ => returned_traced succeeded)

theorem invoke_adapter_traced : Traced false (invokeAdapter context call hold) := by
  refine conforms_asked rfl ?_
  intro reply
  cases reply with
  | error error =>
      have raises : Raises true (settleError context call hold error) :=
        settle_error_raises (fun _ => rfl)
      apply raises.mono
      rintro _ after ⟨fault, rfl, accounts⟩ _
      exact accounts (Or.inl rfl)
  | ok result =>
      have answer : stepBlame.bad (.adapter call.adapter (.commit call.manifest call.grant))
          (.ok result) = !result.success := rfl
      by_cases succeeded : result.success = true
      · simp only [succeeded, if_true]
        exact settle_success_traced succeeded
      · simp only [succeeded, Bool.false_eq_true, if_false, answer]
        have settled : Blames true (settleFailure context call hold result) :=
          settle_failure_blames result
        apply settled.mono
        intro outcome after ended _
        cases outcome with
        | ok value => exact ended
        | error fault => exact ended (Or.inl rfl)

theorem execute_traced : Traced false (execute context call hold) := by
  have looked : Blames false (perform (.grants (.getIdempotentOutcome call.idempotencyKey))) :=
    internal_blames trivial
  apply blames_then_traced looked
  intro known
  cases known with
  | some existingOutcome => exact replay_traced existingOutcome
  | none => exact blames_then_traced preconditions_blame (fun _ => invoke_adapter_traced)

end Holding

/-- Of a call that presents no envelope, as those of a saga. -/
theorem commit_traced (absent : call.decisionEnvelope = none) :
    Traced false (commit context call) := by
  apply blames_then_traced (gates_blame absent)
  intro _
  apply blames_then_traced reserve_budget_blames
  intro hold
  apply blames_then_traced reserve_grant_blames
  intro _
  apply blames_then_traced enter_committing_blames
  intro _
  exact blames_then_traced record_outbox_blames (fun _ => execute_traced)

end KarmaSakshi.Engine
