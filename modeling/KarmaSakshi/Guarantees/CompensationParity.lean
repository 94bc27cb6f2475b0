import KarmaSakshi.Engine.OpenCompensation
import KarmaSakshi.Engine.Reversal

/-!
The gates of a compensation beside those of a commit.

`commit_compensation` means to apply the whole gate of `commit` to the compensation manifest
and its grant.  It has no place for an envelope or a plan, does not walk the ancestors of the
grant, charges no budget, and compares the adapter with the original manifest and the tenant
with nothing.
-/

namespace KarmaSakshi.Guarantees

open EffectProgram KarmaSakshi.Domain KarmaSakshi.Stores KarmaSakshi.Engine

set_option autoImplicit false

/-! ### The stores that gates consult -/

structure GateStores : Type where
  registry : TrustedAdapterRegistry
  grants : GrantStore
  budget : InMemoryBudgetLedger

/-- The clock stands still, the stores answer as they do, and the other components may answer
anything. -/
def gateAnswers (now : Instant) : Handler EngineOp EngineReply PyError GateStores :=
  fun stores op reply after =>
    match op, reply with
    | .now, reply => reply = .ok now ∧ after = stores
    | .lookupAdapter adapterId adapterVersion, reply =>
        reply = .ok (stores.registry.entries adapterId adapterVersion) ∧ after = stores
    | .grants op, reply =>
        reply = (stores.grants.serve op).1 ∧
          after = { stores with grants := (stores.grants.serve op).2 }
    | .budget op, reply =>
        reply = (stores.budget.serve op).1 ∧
          after = { stores with budget := (stores.budget.serve op).2 }
    | _, _ => after = stores

/-- The gates of `commit` up to the reservation, with the gate of the adapter registry left
open. -/
def gatesTrusting (context : EngineContext) (call : CommitCall) (trust : Action Unit) :
    Action Unit := do
  sealGate context call
  grantGate context call
  manifestGate call
  policyGate context call
  envelopeGate context call
  graphGate context call
  audienceGate call
  identityGate call
  trust
  effectTypeGate call
  revocationGate call
  ancestorGate call
  let hold ← reserveBudget context call
  reserveGrant call hold

theorem gates_trusting_registry (context : EngineContext) (call : CommitCall) :
    gatesTrusting context call (registryGate context call) = (do
      gates context call
      let hold ← reserveBudget context call
      reserveGrant call hold) := by
  unfold gatesTrusting gates
  simp only [then_assoc]

/-- The gates of `commit` on the compensation manifest and its grant.  The adapter must be
trusted as a compensation asks, with no regard to the effect type. -/
def comparedGates (context : EngineContext) (call : CompensationCall) : Action Unit :=
  gatesTrusting context call.asCommit (compensationRegistryGate context call)

/-- Wherever a compensation invokes the adapter, the gates of `commit` would let it pass, at the
same instant and from the same stores. -/
def ParityHeld (context : EngineContext) (call : CompensationCall) : Prop :=
  ∀ (now : Instant) (stores after : GateStores) (events : List EngineEvent)
    (rest : Action CommitResult),
    Steps (gateAnswers now) (commitCompensation context call) stores events rest after →
      (∃ event ∈ events, Compensates call.adapter event.op) →
        ∃ reserved, (comparedGates context call).Yields (gateAnswers now) stores (.ok ()) reserved

/-- What `commit` asks for and the compensation does not is there, or not asked for. -/
structure Mirrored (context : EngineContext) (call : CompensationCall) : Prop where
  tenant : ∀ bundle, call.policyBundle = some bundle →
    (call.grant.policyBundleHash.isSome ∨ context.tenantId.isSome) →
      bindEngineAndPolicyTenant context.tenantId bundle.bundle.tenantId = .ok ()
  noEnvelope : call.grant.decisionEnvelopeHash = none
  noPlan : call.grant.causalGraphHash = none
  sameAdapter : call.compensation.manifest.adapter = call.adapter
  root : call.grant.parentGrantId = none
  noBudget : call.grant.authorityBudgetId = none

section Gates

variable {context : EngineContext} {call : CompensationCall} {now : Instant}
  {stores after : GateStores}

theorem gate_answers_shows : Shows (gateAnswers now) now GateStores.registry where
  clock := fun _ _ _ => Iff.rfl
  lookup := fun _ _ _ _ _ => Iff.rfl

theorem gate_answers_unhindered (stores : GateStores) : Unhindered (gateAnswers now) stores where
  ticks := ⟨now, rfl, rfl⟩
  free := by
    intro op reply recording
    cases op with
    | audit record => rfl
    | «recall» manifestId => rfl
    | remember manifestId record => rfl
    | lifecycle inner => rfl
    | adapter identity inner => rfl
    | _ => exact recording.elim

theorem is_revoked_served (store : GrantStore) (grantId : String) :
    store.serve (.isRevoked grantId) = (.ok (store.view.isRevoked grantId), store) := by
  cases store with
  | memory inner => rfl
  | sqlite inner =>
      have told := inner.is_revoked_view grantId
      exact congrArg (fun revoked => (Except.ok revoked, GrantStore.sqlite inner)) told

theorem revocation_gate_answers {commitCall : CommitCall} :
    (revocationGate commitCall).Yields (gateAnswers now) stores (.ok ()) after ↔
      stores.grants.view.isRevoked commitCall.grantId = false ∧ after = stores := by
  unfold revocationGate
  rw [yields_bind_ok]
  constructor
  · rintro ⟨revoked, between, asked, rest⟩
    obtain ⟨told, moved⟩ := yields_perform.mp asked
    rw [is_revoked_served] at told moved
    obtain rfl := Except.ok.inj told
    cases valid : stores.grants.view.isRevoked commitCall.grantId with
    | true =>
        rw [valid] at rest
        exact absurd rest deny_never_passes
    | false =>
        rw [valid] at rest
        exact ⟨rfl, rest.2.trans moved⟩
  · rintro ⟨valid, rfl⟩
    refine ⟨false, after, yields_perform.mpr ⟨?_, ?_⟩, rfl, rfl⟩
    · rw [is_revoked_served, valid]
    · rw [is_revoked_served]

theorem trust_gate_answers :
    (compensationRegistryGate context call).Yields (gateAnswers now) stores (.ok ()) after ↔
      TrustPasses context call stores.registry ∧ after = stores := by
  rw [@trust_gate_yields context call _ (gateAnswers now) stores after
    (fun entry => entry =
      stores.registry.entries call.adapter.adapterId call.adapter.adapterVersion)
    (fun entry current => and_congr_left' ⟨Except.ok.inj, congrArg Except.ok⟩)]
  simp only [exists_eq_left, TrustPasses]

/-- Where the compensation invokes the adapter. -/
theorem compensation_reaches_iff :
    (commitCompensation context call).Reaches (gateAnswers now) (Compensates call.adapter) stores ↔
      CompensationChecks context call (fun instant => instant = now) ∧
        TrustPasses context call stores.registry ∧
          stores.grants.view.isRevoked call.grant.grantId = false ∧
            (stores.grants.serve (.reserve call.grant.grantId call.grant.maxUses)).1 =
              .ok true := by
  have reserved : (∃ after, (compensationReserve call).Yields (gateAnswers now) stores (.ok ())
      after) ↔ (stores.grants.serve (.reserve call.grant.grantId call.grant.maxUses)).1 =
        .ok true := by
    unfold compensationReserve
    constructor
    · rintro ⟨after, yields⟩
      obtain ⟨taken, between, asked, rest⟩ := yields_bind_ok.mp yields
      obtain ⟨told, _⟩ := yields_perform.mp asked
      cases taken with
      | true => exact told.symm
      | false => exact absurd rest deny_never_passes
    · intro taken
      exact ⟨_, yields_bind_ok.mpr
        ⟨true, _, yields_perform.mpr ⟨taken.symm, rfl⟩, rfl, rfl⟩⟩
  rw [commit_compensation_reaches gate_answers_unhindered, ← reserved]
  simp only [compensation_gates_yield gate_answers_shows.clocked ⟨now, rfl⟩
    (fun _ => trust_gate_answers) (fun _ => revocation_gate_answers), exists_and_left]
  exact Iff.rfl

/-- What the gates of `commit` say, up to the ancestors and the budget. -/
theorem compared_gates_yield :
    (comparedGates context call).Yields (gateAnswers now) stores (.ok ()) after ↔
      (verifySeal context.crypto call.compensation context.keyring = .ok () ∧
        verifyGrant context.crypto call.grant context.keyring now context.clockSkew = .ok () ∧
        call.grant.manifestHash = some call.compensation.seal.manifestHash ∧
        PolicyPasses context call.asCommit now ∧ EnvelopePasses context call.asCommit now ∧
        GraphPasses context call.asCommit ∧ call.adapter.adapterId ∈ call.grant.audience ∧
        call.compensation.manifest.adapter = call.adapter ∧
        TrustPasses context call stores.registry ∧
        call.compensation.manifest.effectType ∈ call.grant.allowedEffectTypes ∧
        stores.grants.view.isRevoked call.grant.grantId = false) ∧
      (do
        ancestorGate call.asCommit
        let hold ← reserveBudget context call.asCommit
        reserveGrant call.asCommit hold : Action Unit).Yields (gateAnswers now) stores (.ok ())
          after := by
  unfold comparedGates gatesTrusting
  rw [gate_then (fun _ => seal_gate_passes),
    gate_then (fun _ => grant_gate_passes gate_answers_shows),
    gate_then (fun _ => manifest_gate_passes),
    gate_then (fun _ => policy_gate_passes gate_answers_shows),
    gate_then (fun _ => envelope_gate_passes gate_answers_shows),
    gate_then (fun _ => graph_gate_passes), gate_then (fun _ => audience_gate_passes),
    gate_then (fun _ => identity_gate_passes), gate_then (fun _ => trust_gate_answers),
    gate_then (fun _ => effect_type_gate_passes), gate_then (fun _ => revocation_gate_answers)]
  simp only [and_assoc]
  exact Iff.rfl

theorem root_gate_passes {World : Type} {handler : Handler EngineOp EngineReply PyError World}
    {world current : World} {commitCall : CommitCall}
    (root : commitCall.grant.parentGrantId = none) :
    (ancestorGate commitCall).Yields handler world (.ok ()) current ↔ True ∧ current = world := by
  have bounded : ¬ (maxDelegationDepth < 1 ∨ maxDelegationDepth < maxDelegationDepth) := by decide
  have cleared : ancestorGate commitCall = pure () := by
    unfold ancestorGate assertNoRevokedAncestors
    rw [if_neg bounded, root]
    rfl
  rw [cleared]
  exact pure_passes trivial

/-! ### Stores that know no grant and no budget -/

def bareStores (registry : TrustedAdapterRegistry) : GateStores where
  registry := registry
  grants := .memory .empty
  budget := ⟨fun _ => none⟩

/-- Without a recorded lineage the ancestors of a delegated grant cannot be cleared. -/
theorem bare_stores_clear_roots {registry : TrustedAdapterRegistry} {commitCall : CommitCall}
    (passes : (ancestorGate commitCall).Yields (gateAnswers now) (bareStores registry) (.ok ())
      after) : commitCall.grant.parentGrantId = none := by
  have bounded : ¬ (maxDelegationDepth < 1 ∨ maxDelegationDepth < maxDelegationDepth) := by decide
  cases parent : commitCall.grant.parentGrantId with
  | none => rfl
  | some above =>
      exfalso
      obtain ⟨middle, between, walked, rest⟩ := yields_attempt.mp passes
      cases middle with
      | ok ancestors =>
          unfold assertNoRevokedAncestors at walked
          rw [if_neg bounded, parent] at walked
          change (if above = commitCall.grant.grantId ∨ above ∈ ([] : List String) then
            .raised (lineageCycle commitCall.grant.grantId above) else _ :
              Action (List String)).Yields _ _ _ _ at walked
          by_cases own : above = commitCall.grant.grantId ∨ above ∈ ([] : List String)
          · rw [if_pos own] at walked
            cases walked.1
          · rw [if_neg own] at walked
            obtain ⟨revoked, _, asked, walked⟩ := yields_bind_ok.mp walked
            obtain ⟨told, rfl⟩ := yields_perform.mp asked
            cases told
            obtain ⟨_, _, next, _⟩ := yields_bind_ok.mp walked
            obtain ⟨found, _, asked, next⟩ := yields_bind_ok.mp next
            obtain ⟨told, rfl⟩ := yields_perform.mp asked
            cases told
            obtain ⟨known, _, asked, next⟩ := yields_bind_ok.mp next
            obtain ⟨told, rfl⟩ := yields_perform.mp asked
            cases told
            cases next.1
      | error error =>
          dsimp only at rest
          by_cases refusal : error.isLineageRefusal = true
          · simp only [refusal, if_true, ancestorRefused] at rest
            by_cases revoked : error.kind = .grantRevoked
            · rw [if_pos revoked] at rest
              exact deny_never_passes rest
            · rw [if_neg revoked] at rest
              exact deny_never_passes rest
          · simp only [refusal, Bool.false_eq_true, if_false] at rest
            cases rest.1

/-- An unknown budget cannot be charged. -/
theorem bare_stores_charge_nothing {registry : TrustedAdapterRegistry} {commitCall : CommitCall}
    {hold : BudgetHold}
    (passes : (reserveBudget context commitCall).Yields (gateAnswers now) (bareStores registry)
      (.ok hold) after) : commitCall.grant.authorityBudgetId = none := by
  cases bound : commitCall.grant.authorityBudgetId with
  | none => rfl
  | some budgetId =>
      exfalso
      unfold reserveBudget at passes
      rw [bound] at passes
      obtain ⟨amount, _, resolved, _⟩ := yields_bind_ok.mp passes
      obtain ⟨outcome, _, read, rest⟩ := yields_attempt.mp resolved
      cases outcome with
      | ok amount =>
          obtain ⟨budget, _, required, _⟩ := yields_bind_ok.mp read
          unfold requireBudget at required
          by_cases ledger : context.hasBudgetLedger = true
          · rw [if_pos ledger] at required
            cases (yields_perform.mp required).1
          · rw [if_neg ledger] at required
            cases required.1
      | error error =>
          dsimp only at rest
          by_cases known : error.isAuthorityBudget = true
          · simp only [known, if_true] at rest
            exact deny_never_passes rest
          · simp only [known, Bool.false_eq_true, if_false] at rest
            cases rest.1

theorem bare_stores_reserve (registry : TrustedAdapterRegistry) (grant : ExecutionGrant) :
    ((bareStores registry).grants.serve (.reserve grant.grantId grant.maxUses)).1 = .ok true := by
  have available : decide (grant.maxUses ≤ 0) = false :=
    decide_eq_false (Nat.not_le.mpr grant.maxUsesPositive)
  change Except.ok (if (false || false || decide (grant.maxUses ≤ 0)) = true then (false, _)
    else (true, _) : Bool × InMemoryGrantStore).1 = _
  rw [available]
  rfl

end Gates

/-- The gates of a compensation are those of a commit exactly where the ones it lacks have nothing
to check, or the compensation is refused whatever the stores say. -/
theorem parity_held_iff {context : EngineContext} {call : CompensationCall} :
    ParityHeld context call ↔
      Mirrored context call ∨
        ¬ ∃ now, OpenCompensation context call (fun instant => instant = now) := by
  constructor
  · intro held
    by_cases opens : ∃ now, OpenCompensation context call (fun instant => instant = now)
    · left
      obtain ⟨now, checks, registry, trusted⟩ := opens
      have reaches := compensation_reaches_iff.mpr
        ⟨checks, trusted, rfl, bare_stores_reserve registry call.grant⟩
      obtain ⟨events, rest, after, run, performed⟩ := reaches.run
        (fun op world wants => by
          obtain ⟨manifest, commitResult, rfl⟩ := wants
          exact ⟨.error ⟨.runtimeError, ""⟩, world, rfl⟩)
      obtain ⟨reserved, passes⟩ := held now _ after events rest run performed
      obtain ⟨⟨_, _, _, policy, envelope, plan, _, sameAdapter, _, _, _⟩, passes⟩ :=
        compared_gates_yield.mp passes
      obtain ⟨_, between, cleared, passes⟩ := yields_bind_ok.mp passes
      have root := bare_stores_clear_roots cleared
      obtain ⟨_, rfl⟩ := (root_gate_passes root).mp cleared
      obtain ⟨hold, _, charged, _⟩ := yields_bind_ok.mp passes
      constructor
      case tenant => exact policy.tenant
      case noEnvelope =>
        cases bound : call.grant.decisionEnvelopeHash with
        | none => rfl
        | some hash =>
            obtain ⟨_, impossible, _⟩ := envelope hash bound
            cases impossible
      case noPlan =>
        cases bound : call.grant.causalGraphHash with
        | none => rfl
        | some hash =>
            obtain ⟨_, impossible, _⟩ := plan hash bound
            cases impossible
      case sameAdapter => exact sameAdapter
      case root => exact root
      case noBudget => exact bare_stores_charge_nothing charged
    · exact Or.inr opens
  · intro condition now stores after events rest run performed
    obtain ⟨event, member, wants⟩ := performed
    obtain ⟨checks, trusted, valid, free⟩ := compensation_reaches_iff.mp (run.reaches member wants)
    have opens : ∃ now, OpenCompensation context call (fun instant => instant = now) :=
      ⟨now, checks, _, trusted⟩
    have mirrored := condition.resolve_right (not_not.mpr opens)
    obtain ⟨_, rfl, granted⟩ := checks.grantHeld
    obtain ⟨_, rfl, permitted⟩ := checks.policyHeld
    have unbound : ∀ {bound : Option String} {fact : String → Prop}, bound = none →
        ∀ hash, bound = some hash → fact hash := by
      intro bound fact none hash some
      rw [none] at some
      cases some
    let reserved : GateStores := { stores with
      grants := (stores.grants.serve (.reserve call.grant.grantId call.grant.maxUses)).2 }
    refine ⟨reserved, compared_gates_yield.mpr ⟨⟨checks.sealHeld, granted, checks.manifestBound,
      ⟨permitted, mirrored.tenant⟩, unbound mirrored.noEnvelope, unbound mirrored.noPlan,
      checks.inAudience, mirrored.sameAdapter, trusted, checks.effectAllowed, valid⟩, ?_⟩⟩
    refine yields_bind_ok.mpr ⟨(), stores, (root_gate_passes mirrored.root).mpr ⟨trivial, rfl⟩, ?_⟩
    refine yields_bind_ok.mpr ⟨none, stores, ?_, ?_⟩
    · have none : call.asCommit.grant.authorityBudgetId = none := mirrored.noBudget
      unfold reserveBudget
      rw [none]
      exact ⟨rfl, rfl⟩
    · exact yields_bind_ok.mpr ⟨true, _, yields_perform.mpr ⟨free.symm, rfl⟩, rfl, rfl⟩

/-! ### A delegated grant whose parent is revoked -/

namespace RevokedParent

open KarmaSakshi.Engine.Reversal

/-- The lineage of both grants is recorded, and the parent is revoked. -/
def stores : GateStores :=
  { bareStores ⟨fun _ _ => none⟩ with
    grants := .memory (((InMemoryGrantStore.empty.recordLineage "grant-11" none).recordLineage
      "grant-12" (some "grant-11")).revoke "grant-11") }

theorem call_is_checked :
    CompensationChecks context (callUnder childGrant) (fun instant => instant = Payment.noon) where
  originalSealed := rfl
  bound := rfl
  sealHeld := rfl
  grantHeld := ⟨Payment.noon, rfl, rfl⟩
  manifestBound := rfl
  policyHeld := by
    refine ⟨Payment.noon, rfl, ?_⟩
    intro hash binds
    cases binds
  inAudience := List.mem_cons_self
  sameAdapter := rfl
  effectAllowed := List.mem_cons_self

theorem call_is_trusted : TrustPasses context (callUnder childGrant) stores.registry :=
  fun configured => by cases configured

end RevokedParent

/-- With its parent revoked a grant still reverses a transfer. -/
theorem revoked_delegation_compensates :
    Reversal.childGrant.parentGrantId = some "grant-11" ∧
      RevokedParent.stores.grants.view.isRevoked "grant-11" = true ∧
        (commitCompensation Reversal.context
          (Reversal.callUnder Reversal.childGrant)).Reaches
            (gateAnswers Payment.noon) (Compensates Payment.adapter) RevokedParent.stores ∧
          ¬ ParityHeld Reversal.context
            (Reversal.callUnder Reversal.childGrant) := by
  refine ⟨rfl, rfl, ?_, ?_⟩
  · exact compensation_reaches_iff.mpr
      ⟨RevokedParent.call_is_checked, RevokedParent.call_is_trusted, rfl, rfl⟩
  · intro held
    rcases parity_held_iff.mp held with mirrored | closed
    · cases mirrored.root
    · exact closed ⟨Payment.noon, RevokedParent.call_is_checked, _, RevokedParent.call_is_trusted⟩

end KarmaSakshi.Guarantees
