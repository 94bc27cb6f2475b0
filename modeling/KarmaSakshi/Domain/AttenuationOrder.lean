import Mathlib.Order.Defs.Unbundled
import KarmaSakshi.Domain.Attenuation

/-!
Attenuation as an order on grants.

Each dimension that the attenuation check compares is a preorder of its own, with its own
top: no allow-list, no cap, no budget.  A grant is compared on all of them at once.
-/

namespace KarmaSakshi.Domain

set_option autoImplicit false

/-! ### The order on each dimension -/

theorem AllowList.Within.refl (list : AllowList) : AllowList.Within list list := by
  intro permitted present
  exact ⟨permitted, present, List.Subset.refl permitted⟩

theorem AllowList.Within.trans {leaf middle root : AllowList}
    (lower : AllowList.Within leaf middle) (upper : AllowList.Within middle root) :
    AllowList.Within leaf root := by
  intro permitted present
  obtain ⟨between, restricts, inner⟩ := upper permitted present
  obtain ⟨allowed, listed, innermost⟩ := lower between restricts
  exact ⟨allowed, listed, List.Subset.trans innermost inner⟩

theorem AmountWithin.refl (amount : Option MonetaryAmount) : AmountWithin amount amount := by
  intro cap present
  exact ⟨cap, present, rfl, Nat.le_refl cap.minorUnits⟩

/-- Amounts of different currencies are never comparable, so a chain keeps its root's. -/
theorem AmountWithin.trans {leaf middle root : Option MonetaryAmount}
    (lower : AmountWithin leaf middle) (upper : AmountWithin middle root) :
    AmountWithin leaf root := by
  intro cap present
  obtain ⟨between, caps, sameAbove, atMost⟩ := upper cap present
  obtain ⟨amount, bounded, sameBelow, noMore⟩ := lower between caps
  exact ⟨amount, bounded, sameBelow.trans sameAbove, noMore.trans atMost⟩

theorem ScopeWithin.refl (scope : ScopeConstraints) : ScopeWithin scope scope where
  targetResources := AllowList.Within.refl scope.targetResources
  recipients := AllowList.Within.refl scope.recipients
  maxAmount := AmountWithin.refl scope.maxAmount
  allowedFields := AllowList.Within.refl scope.allowedFields
  environments := AllowList.Within.refl scope.environments

theorem ScopeWithin.trans {leaf middle root : ScopeConstraints}
    (lower : ScopeWithin leaf middle) (upper : ScopeWithin middle root) :
    ScopeWithin leaf root where
  targetResources := lower.targetResources.trans upper.targetResources
  recipients := lower.recipients.trans upper.recipients
  maxAmount := lower.maxAmount.trans upper.maxAmount
  allowedFields := lower.allowedFields.trans upper.allowedFields
  environments := lower.environments.trans upper.environments

theorem GrantWithin.refl (grant : ExecutionGrant) : GrantWithin grant grant where
  expiresAt := le_refl grant.expiresAt
  notBefore := le_refl grant.notBefore
  maxUses := Nat.le_refl grant.maxUses
  audience := List.Subset.refl grant.audience
  allowedEffectTypes := List.Subset.refl grant.allowedEffectTypes
  scope := ScopeWithin.refl grant.scope
  budget := fun _ bound => bound

theorem GrantWithin.trans {leaf middle root : ExecutionGrant}
    (lower : GrantWithin leaf middle) (upper : GrantWithin middle root) :
    GrantWithin leaf root where
  expiresAt := lower.expiresAt.trans upper.expiresAt
  notBefore := upper.notBefore.trans lower.notBefore
  maxUses := lower.maxUses.trans upper.maxUses
  audience := List.Subset.trans lower.audience upper.audience
  allowedEffectTypes := List.Subset.trans lower.allowedEffectTypes upper.allowedEffectTypes
  scope := lower.scope.trans upper.scope
  budget := fun budgetId bound => lower.budget budgetId (upper.budget budgetId bound)

instance : IsPreorder ExecutionGrant GrantWithin where
  refl := GrantWithin.refl
  trans _ _ _ := GrantWithin.trans

/-- `assert_grant_narrower_or_equal` passes. -/
def NarrowerOrEqual (child parent : ExecutionGrant) : Prop :=
  assertGrantNarrowerOrEqual child parent = .ok ()

instance : IsPreorder ExecutionGrant NarrowerOrEqual where
  refl grant := grant_narrower.mpr (GrantWithin.refl grant)
  trans _ _ _ lower upper :=
    grant_narrower.mpr ((grant_narrower.mp lower).trans (grant_narrower.mp upper))

end KarmaSakshi.Domain
