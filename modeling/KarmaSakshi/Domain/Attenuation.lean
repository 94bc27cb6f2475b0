import KarmaSakshi.Domain.Verification

/-!
Constraint comparison for delegation.

A child grant may only narrow its parent, or match it, along every dimension
that is compared.  Constraints that cannot be compared are refused with their own
error.  Each comparison is followed by what passing it means.
-/

namespace KarmaSakshi.Domain

set_option autoImplicit false

/-- `tuple(sorted(set(values)))`. -/
def dedupeSorted (values : List String) : List String := pySorted values.eraseDups

theorem mem_dedupe_sorted {values : List String} {value : String} :
    value ∈ dedupeSorted values ↔ value ∈ values := by
  rw [dedupeSorted, pySorted, List.mem_mergeSort, List.mem_eraseDups]

theorem dedupe_sorted_nonempty {values : List String} (nonempty : values ≠ []) :
    dedupeSorted values ≠ [] := by
  obtain ⟨value, member⟩ := List.exists_mem_of_ne_nil values nonempty
  exact List.ne_nil_of_mem (mem_dedupe_sorted.mpr member)

private def widened (message : String) : Except PyError Unit :=
  .error ⟨.constraintWidening, message⟩

/-- An allow-list, `none` being unrestricted. -/
abbrev AllowList := Option (List String)

/-- The child allows nothing that the parent does not. -/
def AllowList.Within (child parent : AllowList) : Prop :=
  ∀ permitted, parent = some permitted → ∃ allowed, child = some allowed ∧ allowed ⊆ permitted

/-- `sorted(child_set - parent_set)`. -/
def excess (allowed permitted : List String) : List String :=
  dedupeSorted (allowed.filter (fun value => value ∉ permitted))

theorem no_excess {allowed permitted : List String} :
    excess allowed permitted = [] ↔ allowed ⊆ permitted := by
  rw [excess, List.eq_nil_iff_forall_not_mem]
  constructor
  · intro nothing value member
    by_contra outside
    exact nothing value (mem_dedupe_sorted.mpr (by simp [member, outside]))
  · intro within value member
    have filtered := mem_dedupe_sorted.mp member
    simp only [List.mem_filter, decide_eq_true_eq] at filtered
    exact filtered.2 (within filtered.1)

def assertAllowListNarrowerOrEqual (child parent : AllowList) (dimension : String) :
    Except PyError Unit :=
  match parent, child with
  | none, _ => .ok ()
  | some permitted, none =>
      widened (dimension ++ ": child is unrestricted (null) but parent restricts to " ++
        pyReprList (pySorted permitted))
  | some permitted, some allowed =>
      if excess allowed permitted ≠ [] then
        widened (dimension ++ ": child allows " ++ pyReprList (excess allowed permitted) ++
          " which parent does not permit (parent allows " ++
          pyReprList (dedupeSorted permitted) ++ ")")
      else .ok ()

theorem allow_list_narrower {child parent : AllowList} {dimension : String} :
    assertAllowListNarrowerOrEqual child parent dimension = .ok () ↔
      AllowList.Within child parent := by
  unfold AllowList.Within
  cases parent with
  | none => simp [assertAllowListNarrowerOrEqual]
  | some permitted =>
      cases child with
      | none => simp [assertAllowListNarrowerOrEqual, widened]
      | some allowed =>
          have included : excess allowed permitted = [] ↔ allowed ⊆ permitted := no_excess
          by_cases extra : excess allowed permitted = []
          · simp [assertAllowListNarrowerOrEqual, extra, included.mp extra]
          · simp [assertAllowListNarrowerOrEqual, widened, extra, mt included.mpr extra]

/-- The child's cap is in the parent's currency and no higher. -/
def AmountWithin (child parent : Option MonetaryAmount) : Prop :=
  ∀ cap, parent = some cap → ∃ amount, child = some amount ∧
    amount.currency = cap.currency ∧ amount.minorUnits ≤ cap.minorUnits

def assertAmountNarrowerOrEqual (child parent : Option MonetaryAmount) : Except PyError Unit :=
  match parent, child with
  | none, _ => .ok ()
  | some cap, none =>
      widened ("max_amount: child is unrestricted (null) but parent caps at " ++ cap.text)
  | some cap, some amount =>
      if amount.currency ≠ cap.currency then
        .error ⟨.incomparableConstraint, "max_amount: cannot compare " ++ amount.currency ++
          " (child) with " ++ cap.currency ++ " (parent); treated as widening"⟩
      else if cap.minorUnits < amount.minorUnits then
        widened ("max_amount: child cap " ++ amount.text ++ " exceeds parent cap " ++ cap.text)
      else .ok ()

theorem amount_narrower {child parent : Option MonetaryAmount} :
    assertAmountNarrowerOrEqual child parent = .ok () ↔ AmountWithin child parent := by
  unfold AmountWithin
  cases parent with
  | none => simp [assertAmountNarrowerOrEqual]
  | some cap =>
      cases child with
      | none => simp [assertAmountNarrowerOrEqual, widened]
      | some amount =>
          by_cases differs : amount.currency = cap.currency
          · by_cases exceeds : cap.minorUnits < amount.minorUnits
            · simp [assertAmountNarrowerOrEqual, widened, differs, exceeds]
            · simp [assertAmountNarrowerOrEqual, differs, exceeds, Nat.not_lt.mp exceeds]
          · simp [assertAmountNarrowerOrEqual, differs]

structure ScopeWithin (child parent : ScopeConstraints) : Prop where
  targetResources : AllowList.Within child.targetResources parent.targetResources
  recipients : AllowList.Within child.recipients parent.recipients
  maxAmount : AmountWithin child.maxAmount parent.maxAmount
  allowedFields : AllowList.Within child.allowedFields parent.allowedFields
  environments : AllowList.Within child.environments parent.environments

def assertScopeNarrowerOrEqual (child parent : ScopeConstraints) : Except PyError Unit := do
  assertAllowListNarrowerOrEqual child.targetResources parent.targetResources "target_resources"
  assertAllowListNarrowerOrEqual child.recipients parent.recipients "recipients"
  assertAmountNarrowerOrEqual child.maxAmount parent.maxAmount
  assertAllowListNarrowerOrEqual child.allowedFields parent.allowedFields "allowed_fields"
  assertAllowListNarrowerOrEqual child.environments parent.environments "environments"

theorem scope_narrower {child parent : ScopeConstraints} :
    assertScopeNarrowerOrEqual child parent = .ok () ↔ ScopeWithin child parent := by
  unfold assertScopeNarrowerOrEqual
  rw [check_then_ok, check_then_ok, check_then_ok, check_then_ok, allow_list_narrower,
    allow_list_narrower, amount_narrower, allow_list_narrower, allow_list_narrower]
  constructor
  · rintro ⟨targetResources, recipients, maxAmount, allowedFields, environments⟩
    exact ⟨targetResources, recipients, maxAmount, allowedFields, environments⟩
  · intro within
    exact ⟨within.targetResources, within.recipients, within.maxAmount, within.allowedFields,
      within.environments⟩

private def windowNarrower (child parent : ExecutionGrant) : Except PyError Unit :=
  if parent.expiresAt < child.expiresAt then
    widened ("expires_at: child (" ++ child.expiresAt.isoformat ++ ") outlives parent (" ++
      parent.expiresAt.isoformat ++ ")")
  else if child.notBefore < parent.notBefore then
    widened ("not_before: child (" ++ child.notBefore.isoformat ++ ") starts before parent (" ++
      parent.notBefore.isoformat ++ ")")
  else if parent.maxUses < child.maxUses then
    widened ("max_uses: child (" ++ toString child.maxUses ++ ") exceeds parent (" ++
      toString parent.maxUses ++ ")")
  else .ok ()

/-- A parent's budget binding can be neither dropped nor swapped. -/
private def budgetNarrower (child parent : Option String) : Except PyError Unit :=
  match parent, child with
  | none, _ => .ok ()
  | some bound, none =>
      widened ("authority_budget_id: child is unbound but parent binds " ++ pyRepr bound)
  | some bound, some budgetId =>
      if budgetId ≠ bound then
        widened ("authority_budget_id: child binds " ++ pyRepr budgetId ++ " but parent binds " ++
          pyRepr bound ++ "; budget swap treated as widening")
      else .ok ()

/-- Everything the attenuation check compares. -/
structure GrantWithin (child parent : ExecutionGrant) : Prop where
  expiresAt : child.expiresAt ≤ parent.expiresAt
  notBefore : parent.notBefore ≤ child.notBefore
  maxUses : child.maxUses ≤ parent.maxUses
  audience : child.audience ⊆ parent.audience
  allowedEffectTypes : child.allowedEffectTypes ⊆ parent.allowedEffectTypes
  scope : ScopeWithin child.scope parent.scope
  budget : ∀ budgetId, parent.authorityBudgetId = some budgetId →
    child.authorityBudgetId = some budgetId

def assertGrantNarrowerOrEqual (child parent : ExecutionGrant) : Except PyError Unit := do
  windowNarrower child parent
  assertAllowListNarrowerOrEqual (some child.audience) (some parent.audience) "audience"
  assertAllowListNarrowerOrEqual (some child.allowedEffectTypes) (some parent.allowedEffectTypes)
    "allowed_effect_types"
  assertScopeNarrowerOrEqual child.scope parent.scope
  budgetNarrower child.authorityBudgetId parent.authorityBudgetId

private theorem window_narrower {child parent : ExecutionGrant} :
    windowNarrower child parent = .ok () ↔ child.expiresAt ≤ parent.expiresAt ∧
      parent.notBefore ≤ child.notBefore ∧ child.maxUses ≤ parent.maxUses := by
  unfold windowNarrower
  by_cases outlives : parent.expiresAt < child.expiresAt
  · simp [outlives, widened]
  · by_cases early : child.notBefore < parent.notBefore
    · simp [outlives, early, widened]
    · by_cases exceeds : parent.maxUses < child.maxUses
      · simp [outlives, early, exceeds, widened]
      · simp [outlives, early, exceeds, not_lt.mp outlives, not_lt.mp early, not_lt.mp exceeds]

private theorem budget_narrower {child parent : Option String} :
    budgetNarrower child parent = .ok () ↔
      ∀ budgetId, parent = some budgetId → child = some budgetId := by
  cases parent with
  | none => simp [budgetNarrower]
  | some bound =>
      cases child with
      | none => simp [budgetNarrower, widened]
      | some budgetId =>
          by_cases same : budgetId = bound <;> simp [budgetNarrower, widened, same]

private theorem listed_within {child parent : List String} :
    AllowList.Within (some child) (some parent) ↔ child ⊆ parent := by
  simp [AllowList.Within]

theorem grant_narrower {child parent : ExecutionGrant} :
    assertGrantNarrowerOrEqual child parent = .ok () ↔ GrantWithin child parent := by
  unfold assertGrantNarrowerOrEqual
  rw [check_then_ok, check_then_ok, check_then_ok, check_then_ok, window_narrower,
    allow_list_narrower, allow_list_narrower, listed_within, listed_within, scope_narrower,
    budget_narrower]
  constructor
  · rintro ⟨⟨expiresAt, notBefore, maxUses⟩, audience, effectTypes, scope, budget⟩
    exact ⟨expiresAt, notBefore, maxUses, audience, effectTypes, scope, budget⟩
  · intro within
    exact ⟨⟨within.expiresAt, within.notBefore, within.maxUses⟩, within.audience,
      within.allowedEffectTypes, within.scope, within.budget⟩

end KarmaSakshi.Domain
