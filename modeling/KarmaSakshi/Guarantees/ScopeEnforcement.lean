import KarmaSakshi.Domain.Attenuation
import KarmaSakshi.Engine.OpenGates
import KarmaSakshi.Engine.Scenario

/-!
The scope of a grant, and what is executed under it.

Delegation orders scopes on every dimension, and a manifest inside a scope is inside every
wider one.  `commit` compares a manifest with its envelope, never with the scope of its grant.
-/

namespace KarmaSakshi.Guarantees

open EffectProgram KarmaSakshi.Domain KarmaSakshi.Engine

set_option autoImplicit false

/-- The manifest lies inside the scope: on its target, and under its cap. -/
structure InScope (scope : ScopeConstraints) (manifest : EffectManifest) : Prop where
  target : AllowList.Within (some [manifest.targetResource]) scope.targetResources
  amount : AmountWithin manifest.estimatedCost scope.maxAmount

theorem in_scope_target {scope : ScopeConstraints} {manifest : EffectManifest} :
    AllowList.Within (some [manifest.targetResource]) scope.targetResources ↔
      ∀ targets ∈ scope.targetResources, manifest.targetResource ∈ targets := by
  unfold AllowList.Within
  constructor
  · intro within targets restricted
    obtain ⟨allowed, same, included⟩ := within targets restricted
    cases same
    exact included List.mem_cons_self
  · intro listed targets restricted
    exact ⟨_, rfl, List.cons_subset.mpr ⟨listed targets restricted, List.nil_subset _⟩⟩

/-- A child of a scope admits nothing that its parent does not. -/
theorem narrower_scope_admits_less {child parent : ScopeConstraints} {manifest : EffectManifest}
    (narrower : ScopeWithin child parent) (within : InScope child manifest) :
    InScope parent manifest := by
  constructor
  · rw [in_scope_target]
    intro wide restricted
    obtain ⟨narrow, listed, included⟩ := narrower.targetResources wide restricted
    exact included (in_scope_target.mp within.target narrow listed)
  · intro cap capped
    obtain ⟨lower, lowered, sameCurrency, below⟩ := narrower.maxAmount cap capped
    obtain ⟨cost, estimated, currency, covered⟩ := within.amount lower lowered
    exact ⟨cost, estimated, currency.trans sameCurrency, covered.trans below⟩

/-- Whatever the components answer, a run of the commit that invokes the adapter is inside the
scope of its grant. -/
def ScopeHeld (context : EngineContext) (call : CommitCall) : Prop :=
  ∀ (World : Type) (handler : Handler EngineOp EngineReply PyError World) (before after : World)
    (events : List EngineEvent) (rest : Action CommitResult),
    Steps handler (commit context call) before events rest after →
      (∃ event ∈ events, Invokes call.adapter event.op) → InScope call.grant.scope call.manifest

/-- The scope of a grant holds of a commit exactly when the manifest happens to lie inside it, or
the arguments let no commit through. -/
theorem scope_held_iff {context : EngineContext} {call : CommitCall} :
    ScopeHeld context call ↔
      InScope call.grant.scope call.manifest ∨
        ¬ (OpenCall context call ∧ GraphPasses context call) := by
  rw [← commit_may_invoke]
  exact (every_run_iff ⟨.runtimeError, ""⟩).trans imp_iff_or_not

/-! ### A transfer to an account outside the scope -/

namespace Scoped

def call : CommitCall := Payment.commitOf Payment.sealedOtherTransfer Payment.otherGrant

theorem other_account : ¬ InScope Payment.firstAccountOnly Payment.otherTransfer := by
  intro within
  have listed := in_scope_target.mp within.target ["acct/100"] rfl
  exact absurd listed (by decide)

theorem call_is_open : OpenCall Payment.context call := by
  constructor
  case sealHeld => rfl
  case grantHeld => exact ⟨Payment.noon, rfl⟩
  case manifestBound => rfl
  case policyHeld =>
    refine ⟨Payment.noon, ?_, ?_⟩
    · intro hash binds
      cases binds
    · intro bundle presented
      cases presented
  case envelopeHeld =>
    refine ⟨Payment.noon, ?_⟩
    intro hash binds
    cases binds
  case inAudience => exact List.mem_cons_self
  case sameAdapter => rfl
  case registryHeld => exact ⟨⟨fun _ _ => none⟩, fun configured => by cases configured⟩
  case effectAllowed => exact List.mem_cons_self
  case foreignParent => exact fun own => by cases own
  case budgetOpen => exact fun bound => by cases bound

theorem call_is_planless : GraphPasses Payment.context call := by
  intro hash binds
  cases binds

end Scoped

/-- A grant for one account pays another. -/
theorem out_of_scope_transfer_commits :
    Payment.otherGrant.scope.targetResources = some ["acct/100"] ∧
      Payment.otherTransfer.targetResource = "acct/200" ∧
        ¬ ScopeHeld Payment.context Scoped.call := by
  refine ⟨rfl, rfl, ?_⟩
  intro held
  have reaches := commit_may_invoke.mpr ⟨Scoped.call_is_open, Scoped.call_is_planless⟩
  exact Scoped.other_account ((every_run_iff ⟨.runtimeError, ""⟩).mp held reaches)

end KarmaSakshi.Guarantees
