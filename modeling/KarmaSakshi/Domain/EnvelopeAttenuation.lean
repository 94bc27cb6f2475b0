import KarmaSakshi.Domain.Attenuation

/-!
Attenuation of decision envelopes, and what the two comparisons mean.

`assert_envelope_narrower_or_equal` compares two envelopes field by field;
`assert_manifest_fits_envelope` decides what an envelope lets through.  Each of them is
followed by what passing it says.
-/

namespace KarmaSakshi.Domain

set_option autoImplicit false

/-! ### Comparing two constraints -/

/-- `repr(kind)`. -/
def ParameterConstraint.kindText : ParameterConstraint → String
  | exact _ => "'exact'"
  | enum _ _ => "'enum'"
  | integerRange _ _ _ => "'integer_range'"
  | monetaryRange _ _ _ _ => "'monetary_range'"

/-- By type name, then by `repr`. -/
def sortKeyPrecedes (left right : ParameterValue) : Prop :=
  left.typeName < right.typeName ∨ (left.typeName = right.typeName ∧ left.repr ≤ right.repr)

instance : DecidableRel sortKeyPrecedes :=
  fun _ _ => inferInstanceAs (Decidable (_ ∨ (_ ∧ _)))

/-- `sorted(set(child) - set(parent), key=_sort_key)`; the values of a constraint are
distinct already. -/
def extraValues (child parent : List ParameterValue) : List ParameterValue :=
  (child.filter (fun value => !parent.any value.pyEqual)).mergeSort
    (fun left right => sortKeyPrecedes left right)

/-- `parent.accepts(value)` with a constraint error rewrapped; any other error passes. -/
def acceptedBy (parent : ParameterConstraint) (value : ParameterValue) (before : String) :
    Except PyError Unit :=
  match parent.accepts value with
  | .ok _ => .ok ()
  | .error error =>
      if error.kind = .decisionEnvelopeConstraint then
        outsideEnvelope (before ++ " (" ++ error.message ++ ")")
      else .error error

/-- A bound of the child is at least as tight as the parent's, if the parent has one. -/
def assertBound {Amount : Type} (child parent : Option Amount) (tighter : Amount → Amount → Bool)
    (message : String) : Except PyError Unit :=
  match parent, child with
  | none, _ => .ok ()
  | some _, none => outsideEnvelope message
  | some limit, some bound => if tighter bound limit then .ok () else outsideEnvelope message

def assertIntBoundsNarrower (childMin childMax parentMin parentMax : Option Int) (name : String) :
    Except PyError Unit := do
  assertBound childMin parentMin (fun bound floor => floor ≤ bound)
    (name ++ ": integer_range child min_int widens parent floor")
  assertBound childMax parentMax (fun bound ceiling => bound ≤ ceiling)
    (name ++ ": integer_range child max_int widens parent ceiling")

def assertMoneyBoundsNarrower (childMin childMax parentMin parentMax : Option MonetaryAmount)
    (name : String) : Except PyError Unit := do
  assertBound childMin parentMin (fun bound floor => floor.minorUnits ≤ bound.minorUnits)
    (name ++ ": monetary_range child min_amount widens parent floor")
  assertBound childMax parentMax (fun bound ceiling => bound.minorUnits ≤ ceiling.minorUnits)
    (name ++ ": monetary_range child max_amount widens parent ceiling")

/-- Raises when the child is no subset of the parent's value space, as far as the kinds
tell. -/
def assertConstraintNarrowerOrEqual (child parent : ParameterConstraint) (name : String) :
    Except PyError Unit :=
  match child, parent with
  | .exact value, _ =>
      acceptedBy parent value (name ++ ": exact child value is outside parent constraint")
  | _, .exact _ => outsideEnvelope
      (name ++ ": child kind " ++ child.kindText ++ " widens parent exact constraint")
  | .enum childValues _, .enum parentValues _ =>
      if extraValues childValues parentValues ≠ [] then
        outsideEnvelope (name ++ ": enum child allows [" ++ commaSeparated
          ((extraValues childValues parentValues).map ParameterValue.repr) ++
          "] outside parent allow-list")
      else .ok ()
  | .integerRange childMin childMax _, .integerRange parentMin parentMax _ =>
      assertIntBoundsNarrower childMin childMax parentMin parentMax name
  | .monetaryRange childCurrency childMin childMax _,
      .monetaryRange parentCurrency parentMin parentMax _ =>
      if childCurrency ≠ parentCurrency then
        .error ⟨.incomparableConstraint, name ++ ": cannot compare monetary currencies " ++
          pyRepr childCurrency ++ " vs " ++ pyRepr parentCurrency ++ "; treated as widening"⟩
      else assertMoneyBoundsNarrower childMin childMax parentMin parentMax name
  | .enum childValues _, .integerRange _ _ _ =>
      childValues.forM (fun value => acceptedBy parent value
        (name ++ ": enum child value outside parent integer_range"))
  | .enum childValues _, .monetaryRange _ _ _ _ =>
      childValues.forM (fun value => acceptedBy parent value
        (name ++ ": enum child value outside parent monetary_range"))
  | _, _ => .error ⟨.incomparableConstraint, name ++ ": cannot safely compare child kind " ++
      child.kindText ++ " with parent kind " ++ parent.kindText ++ "; treated as widening"⟩

/-! ### Comparing two envelopes -/

def assertIdentityNarrower (child parent : DecisionEnvelope) : Except PyError Unit :=
  if child.effectType ≠ parent.effectType then
    .error ⟨.incomparableConstraint, "effect_type: cannot attenuate " ++ pyRepr child.effectType ++
      " from " ++ pyRepr parent.effectType ++ "; treated as widening"⟩
  else if child.adapter.adapterId ≠ parent.adapter.adapterId ∨
      child.adapter.adapterVersion ≠ parent.adapter.adapterVersion then
    .error ⟨.incomparableConstraint,
      "adapter: child and parent adapter identities differ; treated as widening"⟩
  else if excess child.targetResources parent.targetResources ≠ [] then
    outsideEnvelope ("target_resources: child allows " ++
      pyReprList (excess child.targetResources parent.targetResources) ++
      " which parent does not")
  else .ok ()

def assertCostNarrower (child parent : Option MonetaryAmount) : Except PyError Unit :=
  match parent, child with
  | none, _ => .ok ()
  | some _, none =>
      outsideEnvelope "max_estimated_cost: child is unrestricted but parent caps cost"
  | some cap, some amount =>
      if amount.currency ≠ cap.currency then
        .error ⟨.incomparableConstraint,
          "max_estimated_cost: currency mismatch; treated as widening"⟩
      else if cap.minorUnits < amount.minorUnits then
        outsideEnvelope "max_estimated_cost: child cap exceeds parent cap"
      else .ok ()

def assertGraphPreserved (child parent : Option String) : Except PyError Unit :=
  match parent, child with
  | some bound, _ =>
      if child ≠ some bound then
        outsideEnvelope
          "causal_graph_hash: child must preserve the parent's sealed graph binding"
      else .ok ()
  | none, some _ => outsideEnvelope
      "causal_graph_hash: child introduces a graph binding the parent did not have"
  | none, none => .ok ()

/-- The child may relax neither strictness flag, and may drop no constrained key. -/
def assertStrictnessKept (child parent : DecisionEnvelope) : Except PyError Unit :=
  if parent.forbidUnknownParameters ∧ ¬ child.forbidUnknownParameters then
    outsideEnvelope
      "forbid_unknown_parameters: child relaxes parent's strict unknown-key policy"
  else if parent.requireAllConstrainedParameters ∧ ¬ child.requireAllConstrainedParameters then
    outsideEnvelope
      "require_all_constrained_parameters: child relaxes parent's required-key policy"
  else if excess parent.parameterConstraints.keys child.parameterConstraints.keys ≠ [] then
    outsideEnvelope ("parameter_constraints: child drops parent constraints for " ++
      pyReprList (excess parent.parameterConstraints.keys child.parameterConstraints.keys))
  else .ok ()

/-- One pass of the constraint loop, over a key of the parent. -/
def assertEntryNarrower (childConstraints : Dict ParameterConstraint)
    (entry : String × ParameterConstraint) : Except PyError Unit :=
  match childConstraints.get entry.1 with
  | some constraint => assertConstraintNarrowerOrEqual constraint entry.2 entry.1
  | none => .error ⟨.other "KeyError", pyRepr entry.1⟩

def assertWindowNarrower (child parent : DecisionEnvelope) : Except PyError Unit :=
  if parent.expiresAt < child.expiresAt then outsideEnvelope "expires_at: child outlives parent"
  else if child.notBefore < parent.notBefore then
    outsideEnvelope "not_before: child starts before parent"
  else .ok ()

/-- Raises when the child widens authority relative to the parent. -/
def assertEnvelopeNarrowerOrEqual (child parent : DecisionEnvelope) : Except PyError Unit := do
  assertIdentityNarrower child parent
  assertCostNarrower child.maxEstimatedCost parent.maxEstimatedCost
  assertGraphPreserved child.causalGraphHash parent.causalGraphHash
  assertStrictnessKept child parent
  parent.parameterConstraints.entries.forM (assertEntryNarrower child.parameterConstraints)
  assertWindowNarrower child parent

def DecisionEnvelope.isEffectiveAt (envelope : DecisionEnvelope) (instant : Instant) : Bool :=
  envelope.notBefore ≤ instant ∧ instant < envelope.expiresAt

/-! ### Entries of a dictionary -/

namespace Dict

variable {Value : Type} {dict : Dict Value} {key : String} {value : Value}

theorem get_some_iff : dict.get key = some value ↔ (key, value) ∈ dict.entries := by
  rw [get, List.lookup_eq_some_iff]
  constructor
  · rintro ⟨front, back, split, -⟩
    rw [split]
    simp
  · intro member
    obtain ⟨front, back, split⟩ := List.append_of_mem member
    refine ⟨front, back, split, ?_⟩
    intro entry before
    have ordered := dict.ordered
    rw [split, List.map_append, List.map_cons, List.pairwise_append] at ordered
    have less := ordered.2.2 entry.1 (List.mem_map_of_mem before) key List.mem_cons_self
    have differs : key ≠ entry.1 := fun same => String.lt_irrefl key (same ▸ less)
    simpa using differs

theorem mem_keys_iff : key ∈ dict.keys ↔ ∃ value, dict.get key = some value := by
  simp only [keys, List.mem_map, get_some_iff]
  constructor
  · rintro ⟨entry, member, rfl⟩
    exact ⟨entry.2, member⟩
  · rintro ⟨value, member⟩
    exact ⟨(key, value), member, rfl⟩

end Dict

/-! ### What a constraint lets through -/

namespace ParameterValue

/-- Two values are equal in Python when these are: `True` counts as `1`, `False` as `0`. -/
def equalityKey : ParameterValue → String ⊕ Option Int
  | text value => .inl value
  | int value => .inr (some value)
  | bool value => .inr (some (if value then 1 else 0))
  | none => .inr Option.none

theorem py_equal_iff {left right : ParameterValue} :
    left.pyEqual right = true ↔ left.equalityKey = right.equalityKey := by
  cases left with
  | bool flag => cases right <;> cases flag <;> simp [pyEqual, equalityKey]
  | _ => cases right <;> simp [pyEqual, equalityKey]

end ParameterValue

namespace ParameterConstraint

/-- The two kinds that count `True` and `False` as no integers. -/
def isRange : ParameterConstraint → Bool
  | integerRange _ _ _ | monetaryRange _ _ _ _ => true
  | exact _ | enum _ _ => false

variable {value other : ParameterValue} {minInt maxInt : Option Int}
  {minAmount maxAmount : Option MonetaryAmount} {currency : String}

theorem accepts_exact : (exact other).accepts value = .ok () ↔ value.pyEqual other = true := by
  rw [accepts]
  split_ifs with same
  · simp [same]
  · simp [same, refusedValue]

theorem accepts_enum {allowed : List ParameterValue} {nonempty : allowed ≠ []} :
    (enum allowed nonempty).accepts value = .ok () ↔
      ∃ listed ∈ allowed, value.pyEqual listed = true := by
  rw [← List.any_eq_true, accepts]
  split_ifs with member
  · simp [member]
  · simp [member, refusedValue]

theorem accepts_integer_range {bounded : minInt ≠ none ∨ maxInt ≠ none} :
    (integerRange minInt maxInt bounded).accepts value = .ok () ↔ ∃ number, value = .int number ∧
      (∀ floor ∈ minInt, floor ≤ number) ∧ ∀ ceiling ∈ maxInt, number ≤ ceiling := by
  rw [accepts, acceptsIntegerRange]
  cases value with
  | int number =>
      simp only [asInt]
      by_cases below : ∃ floor ∈ minInt, number < floor
      · obtain ⟨floor, held, less⟩ := below
        rw [if_pos ⟨floor, held, less⟩]
        refine iff_of_false (by simp [refusedValue]) ?_
        rintro ⟨_, same, least, -⟩
        obtain rfl := ParameterValue.int.inj same
        exact absurd (least floor held) (not_le.mpr less)
      · by_cases above : ∃ ceiling ∈ maxInt, ceiling < number
        · rw [if_neg below, if_pos above]
          refine iff_of_false (by simp [refusedValue]) ?_
          rintro ⟨_, same, -, most⟩
          obtain rfl := ParameterValue.int.inj same
          obtain ⟨ceiling, held, less⟩ := above
          exact absurd (most ceiling held) (not_le.mpr less)
        · rw [if_neg below, if_neg above]
          refine iff_of_true rfl ⟨number, rfl, ?_, ?_⟩
          · intro floor held
            exact not_lt.mp (fun less => below ⟨floor, held, less⟩)
          · intro ceiling held
            exact not_lt.mp (fun less => above ⟨ceiling, held, less⟩)
  | _ => simp [asInt, refusedValue]

theorem accepts_monetary_range {bounded : minAmount ≠ none ∨ maxAmount ≠ none} :
    (monetaryRange currency minAmount maxAmount bounded).accepts value = .ok () ↔
      ∃ number, value = .int number ∧ 0 ≤ number ∧ number ≤ 10 ^ 15 ∧
        (∀ least ∈ minAmount, least.minorUnits ≤ number) ∧
        ∀ most ∈ maxAmount, number ≤ most.minorUnits := by
  rw [accepts, acceptsMonetaryRange]
  cases value with
  | int number =>
      simp only [asInt, ParameterValue.int.injEq, exists_eq_left']
      split_ifs with negative excessive below above
      · simp [not_le.mpr negative]
      · exact iff_of_false (by simp) (fun within => absurd within.2.1 (not_le.mpr excessive))
      · obtain ⟨least, held, less⟩ := below
        refine iff_of_false (by simp [refusedValue]) ?_
        rintro ⟨-, -, floors, -⟩
        exact absurd (floors least held) (not_le.mpr less)
      · obtain ⟨most, held, less⟩ := above
        refine iff_of_false (by simp [refusedValue]) ?_
        rintro ⟨-, -, -, ceilings⟩
        exact absurd (ceilings most held) (not_le.mpr less)
      · refine iff_of_true rfl ⟨not_lt.mp negative, not_lt.mp excessive, ?_, ?_⟩
        · intro least held
          exact not_lt.mp (fun less => below ⟨least, held, less⟩)
        · intro most held
          exact not_lt.mp (fun less => above ⟨most, held, less⟩)
  | _ => simp [asInt, refusedValue]

/-- A range accepts integers only. -/
theorem range_accepts_int {constraint : ParameterConstraint} (range : constraint.isRange = true)
    (accepted : constraint.accepts value = .ok ()) : ∃ number, value = .int number := by
  cases constraint with
  | integerRange _ _ _ =>
      obtain ⟨number, same, -⟩ := accepts_integer_range.mp accepted
      exact ⟨number, same⟩
  | monetaryRange _ _ _ _ =>
      obtain ⟨number, same, -⟩ := accepts_monetary_range.mp accepted
      exact ⟨number, same⟩
  | exact _ => cases range
  | enum _ _ => cases range

/-- A value equal to an accepted one is accepted too, unless it is a boolean under a range. -/
theorem accepts_equal {constraint : ParameterConstraint} (same : value.pyEqual other = true)
    (accepted : constraint.accepts other = .ok ()) :
    constraint.accepts value = .ok () ∨
      constraint.isRange = true ∧ ∃ flag, value = .bool flag := by
  have keys := ParameterValue.py_equal_iff.mp same
  cases constraint with
  | exact allowed =>
      have inner := ParameterValue.py_equal_iff.mp (accepts_exact.mp accepted)
      exact Or.inl (accepts_exact.mpr (ParameterValue.py_equal_iff.mpr (keys.trans inner)))
  | enum allowed nonempty =>
      obtain ⟨listed, member, equal⟩ := accepts_enum.mp accepted
      have inner := ParameterValue.py_equal_iff.mp equal
      exact Or.inl (accepts_enum.mpr
        ⟨listed, member, ParameterValue.py_equal_iff.mpr (keys.trans inner)⟩)
  | integerRange low high bounded =>
      obtain ⟨number, rfl⟩ := range_accepts_int rfl accepted
      cases value with
      | int found =>
          obtain rfl := Option.some.inj (Sum.inr.inj keys)
          exact Or.inl accepted
      | bool flag => exact Or.inr ⟨rfl, flag, rfl⟩
      | text _ => cases keys
      | none => cases keys
  | monetaryRange currency low high bounded =>
      obtain ⟨number, rfl⟩ := range_accepts_int rfl accepted
      cases value with
      | int found =>
          obtain rfl := Option.some.inj (Sum.inr.inj keys)
          exact Or.inl accepted
      | bool flag => exact Or.inr ⟨rfl, flag, rfl⟩
      | text _ => cases keys
      | none => cases keys

end ParameterConstraint

/-! ### What a narrower constraint lets through -/

section Narrower

variable {child parent : ParameterConstraint} {value : ParameterValue} {name message : String}

theorem accepted_by_iff :
    acceptedBy parent value message = .ok () ↔ parent.accepts value = .ok () := by
  rw [acceptedBy]
  cases parent.accepts value with
  | ok done => simp
  | error error =>
      simp only [outsideEnvelope]
      split_ifs <;> simp

theorem bound_iff {Amount : Type} {child parent : Option Amount}
    {tighter : Amount → Amount → Bool} :
    assertBound child parent tighter message = .ok () ↔
      ∀ limit ∈ parent, ∃ bound ∈ child, tighter bound limit = true := by
  cases parent with
  | none => simp [assertBound]
  | some limit =>
      cases child with
      | none => simp [assertBound, outsideEnvelope]
      | some bound =>
          cases tight : tighter bound limit <;> simp [assertBound, outsideEnvelope, tight]

theorem extra_values_nil {allowed permitted : List ParameterValue}
    (nothing : ¬ extraValues allowed permitted ≠ []) {listed : ParameterValue}
    (member : listed ∈ allowed) : ∃ other ∈ permitted, listed.pyEqual other = true := by
  rw [← List.any_eq_true]
  by_contra outside
  have extra : listed ∈ extraValues allowed permitted := by
    rw [extraValues, List.mem_mergeSort, List.mem_filter]
    exact ⟨member, by simpa using outside⟩
  exact List.ne_nil_of_mem extra (not_not.mp nothing)

/-- The loop over the values of an enum passes when the parent accepts each of them. -/
theorem all_accepted {allowed : List ParameterValue}
    (passed : allowed.forM (fun value => acceptedBy parent value message) = .ok ())
    {listed : ParameterValue} (member : listed ∈ allowed) : parent.accepts listed = .ok () := by
  induction allowed with
  | nil => cases member
  | cons first rest ih =>
      obtain ⟨head, tail⟩ := check_then_ok.mp passed
      rcases List.mem_cons.mp member with rfl | later
      · exact accepted_by_iff.mp head
      · exact ih tail later

/-- What a narrower child accepts the parent accepts, unless it is a boolean under a range. -/
theorem narrower_accepts (narrower : assertConstraintNarrowerOrEqual child parent name = .ok ())
    (accepted : child.accepts value = .ok ()) :
    parent.accepts value = .ok () ∨ parent.isRange = true ∧ ∃ flag, value = .bool flag := by
  cases child with
  | exact fixed =>
      rw [assertConstraintNarrowerOrEqual, accepted_by_iff] at narrower
      exact ParameterConstraint.accepts_equal (ParameterConstraint.accepts_exact.mp accepted)
        narrower
  | enum allowed nonempty =>
      obtain ⟨listed, member, same⟩ := ParameterConstraint.accepts_enum.mp accepted
      have listedAccepted : parent.accepts listed = .ok () := by
        cases parent with
        | exact fixed => cases narrower
        | enum permitted _ =>
            rw [assertConstraintNarrowerOrEqual] at narrower
            by_cases extra : extraValues allowed permitted ≠ []
            · rw [if_pos extra] at narrower
              cases narrower
            · exact ParameterConstraint.accepts_enum.mpr (extra_values_nil extra member)
        | integerRange low high _ => exact all_accepted narrower member
        | monetaryRange currency low high _ => exact all_accepted narrower member
      exact ParameterConstraint.accepts_equal same listedAccepted
  | integerRange low high bounded =>
      cases parent with
      | integerRange floor ceiling _ =>
          obtain ⟨number, rfl, above, below⟩ :=
            ParameterConstraint.accepts_integer_range.mp accepted
          obtain ⟨floors, ceilings⟩ := check_then_ok.mp narrower
          refine Or.inl (ParameterConstraint.accepts_integer_range.mpr ⟨number, rfl, ?_, ?_⟩)
          · intro least held
            obtain ⟨bound, low, tight⟩ := bound_iff.mp floors least held
            exact (of_decide_eq_true tight).trans (above bound low)
          · intro most held
            obtain ⟨bound, high, tight⟩ := bound_iff.mp ceilings most held
            exact (below bound high).trans (of_decide_eq_true tight)
      | exact _ => cases narrower
      | enum _ _ => cases narrower
      | monetaryRange _ _ _ _ => cases narrower
  | monetaryRange currency low high bounded =>
      cases parent with
      | monetaryRange parentCurrency floor ceiling _ =>
          obtain ⟨number, rfl, positive, sane, above, below⟩ :=
            ParameterConstraint.accepts_monetary_range.mp accepted
          rw [assertConstraintNarrowerOrEqual] at narrower
          by_cases differs : currency ≠ parentCurrency
          · rw [if_pos differs] at narrower
            cases narrower
          · rw [if_neg differs] at narrower
            obtain ⟨floors, ceilings⟩ := check_then_ok.mp narrower
            refine Or.inl (ParameterConstraint.accepts_monetary_range.mpr
              ⟨number, rfl, positive, sane, ?_, ?_⟩)
            · intro least held
              obtain ⟨bound, low, tight⟩ := bound_iff.mp floors least held
              exact (Int.ofNat_le.mpr (of_decide_eq_true tight)).trans (above bound low)
            · intro most held
              obtain ⟨bound, high, tight⟩ := bound_iff.mp ceilings most held
              exact (below bound high).trans (Int.ofNat_le.mpr (of_decide_eq_true tight))
      | exact _ => cases narrower
      | enum _ _ => cases narrower
      | integerRange _ _ _ => cases narrower

end Narrower

/-! ### What passing the two checks of envelopes says -/

/-- The child's cost is capped in the parent's currency and no higher. -/
def CostWithin (cost cap : Option MonetaryAmount) : Prop :=
  ∀ limit ∈ cap, ∃ amount ∈ cost,
    amount.currency = limit.currency ∧ amount.minorUnits ≤ limit.minorUnits

structure FitsEnvelope (manifest : EffectManifest) (envelope : DecisionEnvelope) : Prop where
  effectType : manifest.effectType = envelope.effectType
  adapterId : manifest.adapter.adapterId = envelope.adapter.adapterId
  adapterVersion : manifest.adapter.adapterVersion = envelope.adapter.adapterVersion
  target : manifest.targetResource ∈ envelope.targetResources
  known : envelope.forbidUnknownParameters = true →
    manifest.parameters.keys ⊆ envelope.parameterConstraints.keys
  present : envelope.requireAllConstrainedParameters = true →
    envelope.parameterConstraints.keys ⊆ manifest.parameters.keys
  accepted : ∀ entry ∈ envelope.parameterConstraints.entries,
    ∀ value ∈ manifest.parameters.get entry.1, entry.2.accepts value = .ok ()
  cost : CostWithin manifest.estimatedCost envelope.maxEstimatedCost

structure EnvelopeNarrower (child parent : DecisionEnvelope) : Prop where
  effectType : child.effectType = parent.effectType
  adapterId : child.adapter.adapterId = parent.adapter.adapterId
  adapterVersion : child.adapter.adapterVersion = parent.adapter.adapterVersion
  targets : child.targetResources ⊆ parent.targetResources
  cost : CostWithin child.maxEstimatedCost parent.maxEstimatedCost
  graph : child.causalGraphHash = parent.causalGraphHash
  forbid : parent.forbidUnknownParameters = true → child.forbidUnknownParameters = true
  require : parent.requireAllConstrainedParameters = true →
    child.requireAllConstrainedParameters = true
  keys : parent.parameterConstraints.keys ⊆ child.parameterConstraints.keys
  constraints : ∀ entry ∈ parent.parameterConstraints.entries, ∃ constraint,
    child.parameterConstraints.get entry.1 = some constraint ∧
      assertConstraintNarrowerOrEqual constraint entry.2 entry.1 = .ok ()
  expiresAt : child.expiresAt ≤ parent.expiresAt
  notBefore : parent.notBefore ≤ child.notBefore

section Envelopes

variable {manifest : EffectManifest} {envelope child parent : DecisionEnvelope}

theorem for_all_ok {Item : Type} {check : Item → Except PyError Unit} {items : List Item} :
    items.forM check = .ok () ↔ ∀ item ∈ items, check item = .ok () := by
  induction items with
  | nil => exact iff_of_true rfl (fun _ member => by cases member)
  | cons first rest ih =>
      rw [List.forall_mem_cons, ← ih]
      exact check_then_ok

theorem fits_identity_iff : fitsIdentity manifest envelope = .ok () ↔
    manifest.effectType = envelope.effectType ∧
      (manifest.adapter.adapterId = envelope.adapter.adapterId ∧
        manifest.adapter.adapterVersion = envelope.adapter.adapterVersion) ∧
      manifest.targetResource ∈ envelope.targetResources := by
  rw [fitsIdentity]
  split_ifs with effect adapters target
  · simp [outsideEnvelope, effect]
  · simp only [outsideEnvelope, reduceCtorEq, false_iff, not_and]
    intro _ same
    rcases adapters with differs | differs
    · exact absurd same.1 differs
    · exact absurd same.2 differs
  · simp only [not_or, not_not] at effect adapters
    simp [effect, adapters, target]
  · simp [outsideEnvelope, target]

theorem sorted_filter_nil {items others : List String} :
    pySorted (items.filter (fun item => item ∉ others)) = [] ↔ items ⊆ others := by
  rw [List.eq_nil_iff_forall_not_mem]
  simp only [pySorted, List.mem_mergeSort, List.mem_filter, decide_eq_true_eq, not_and, not_not]
  exact Iff.rfl

theorem fits_keys_iff : fitsParameterKeys manifest envelope = .ok () ↔
    (envelope.forbidUnknownParameters = true →
        manifest.parameters.keys ⊆ envelope.parameterConstraints.keys) ∧
      (envelope.requireAllConstrainedParameters = true →
        envelope.parameterConstraints.keys ⊆ manifest.parameters.keys) := by
  simp only [fitsParameterKeys]
  rw [← sorted_filter_nil, ← sorted_filter_nil]
  split_ifs with unknown missing
  · exact iff_of_false (by simp [outsideEnvelope]) (fun both => unknown.2 (both.1 unknown.1))
  · exact iff_of_false (by simp [outsideEnvelope]) (fun both => missing.2 (both.2 missing.1))
  · simp only [not_and, not_not] at unknown missing
    exact iff_of_true rfl ⟨unknown, missing⟩

theorem fits_constraint_iff {parameters : Dict ParameterValue}
    {entry : String × ParameterConstraint} : fitsConstraint parameters entry = .ok () ↔
      ∀ value ∈ parameters.get entry.1, entry.2.accepts value = .ok () := by
  rw [fitsConstraint]
  cases parameters.get entry.1 with
  | none => simp
  | some value =>
      cases accepted : entry.2.accepts value with
      | ok done => simp [accepted]
      | error error =>
          simp only [outsideEnvelope, Option.mem_some_iff, forall_eq', accepted]
          split_ifs <;> simp

theorem fits_cost_iff : fitsCost manifest envelope = .ok () ↔
    CostWithin manifest.estimatedCost envelope.maxEstimatedCost := by
  rw [fitsCost, CostWithin]
  cases envelope.maxEstimatedCost with
  | none => simp
  | some cap =>
      cases manifest.estimatedCost with
      | none => simp [outsideEnvelope]
      | some cost =>
          by_cases currency : cost.currency = cap.currency
          · by_cases exceeds : cap.minorUnits < cost.minorUnits
            · simp [outsideEnvelope, currency, exceeds]
            · simp [currency, exceeds, Nat.not_lt.mp exceeds]
          · simp [outsideEnvelope, currency]

theorem fits_iff :
    assertManifestFitsEnvelope manifest envelope = .ok () ↔ FitsEnvelope manifest envelope := by
  rw [assertManifestFitsEnvelope, check_then_ok, check_then_ok, check_then_ok, fits_identity_iff,
    fits_keys_iff, for_all_ok, fits_cost_iff]
  simp only [fits_constraint_iff]
  constructor
  · rintro ⟨⟨effect, ⟨adapterId, adapterVersion⟩, target⟩, ⟨known, present⟩, accepted, cost⟩
    exact ⟨effect, adapterId, adapterVersion, target, known, present, accepted, cost⟩
  · intro fits
    exact ⟨⟨fits.effectType, ⟨fits.adapterId, fits.adapterVersion⟩, fits.target⟩,
      ⟨fits.known, fits.present⟩, fits.accepted, fits.cost⟩

theorem identity_narrower_iff : assertIdentityNarrower child parent = .ok () ↔
    child.effectType = parent.effectType ∧
      (child.adapter.adapterId = parent.adapter.adapterId ∧
        child.adapter.adapterVersion = parent.adapter.adapterVersion) ∧
      child.targetResources ⊆ parent.targetResources := by
  rw [← no_excess, assertIdentityNarrower]
  split_ifs with effect adapters targets
  · simp [effect]
  · simp only [false_iff, not_and]
    intro _ same
    rcases adapters with differs | differs
    · exact absurd same.1 differs
    · exact absurd same.2 differs
  · simp [outsideEnvelope, targets]
  · simp only [not_or, not_not] at effect adapters targets
    simp [effect, adapters, targets]

theorem cost_narrower_iff {cost cap : Option MonetaryAmount} :
    assertCostNarrower cost cap = .ok () ↔ CostWithin cost cap := by
  rw [CostWithin]
  cases cap with
  | none => simp [assertCostNarrower]
  | some limit =>
      cases cost with
      | none => simp [assertCostNarrower, outsideEnvelope]
      | some amount =>
          by_cases currency : amount.currency = limit.currency
          · by_cases exceeds : limit.minorUnits < amount.minorUnits
            · simp [assertCostNarrower, outsideEnvelope, currency, exceeds]
            · simp [assertCostNarrower, currency, exceeds, Nat.not_lt.mp exceeds]
          · simp [assertCostNarrower, currency]

theorem graph_preserved_iff {bound held : Option String} :
    assertGraphPreserved held bound = .ok () ↔ held = bound := by
  cases bound with
  | none => cases held <;> simp [assertGraphPreserved, outsideEnvelope]
  | some graph =>
      by_cases same : held = some graph
      · simp [assertGraphPreserved, same]
      · simp [assertGraphPreserved, outsideEnvelope, same]

theorem strictness_kept_iff : assertStrictnessKept child parent = .ok () ↔
    (parent.forbidUnknownParameters = true → child.forbidUnknownParameters = true) ∧
      (parent.requireAllConstrainedParameters = true →
        child.requireAllConstrainedParameters = true) ∧
      parent.parameterConstraints.keys ⊆ child.parameterConstraints.keys := by
  rw [← no_excess, assertStrictnessKept]
  split_ifs with relaxed dropped missing
  · simp [outsideEnvelope, relaxed]
  · simp [outsideEnvelope, dropped]
  · simp [outsideEnvelope, missing]
  · simp only [not_and, not_not] at relaxed dropped missing
    exact iff_of_true rfl ⟨relaxed, dropped, missing⟩

theorem entry_narrower_iff {constraints : Dict ParameterConstraint}
    {entry : String × ParameterConstraint} : assertEntryNarrower constraints entry = .ok () ↔
      ∃ constraint, constraints.get entry.1 = some constraint ∧
        assertConstraintNarrowerOrEqual constraint entry.2 entry.1 = .ok () := by
  rw [assertEntryNarrower]
  cases constraints.get entry.1 <;> simp

theorem window_narrower_iff : assertWindowNarrower child parent = .ok () ↔
    child.expiresAt ≤ parent.expiresAt ∧ parent.notBefore ≤ child.notBefore := by
  rw [assertWindowNarrower]
  split_ifs with outlives early
  · simp [outsideEnvelope, not_le.mpr outlives]
  · simp [outsideEnvelope, not_le.mpr early]
  · exact iff_of_true rfl ⟨not_lt.mp outlives, not_lt.mp early⟩

theorem envelope_narrower_iff :
    assertEnvelopeNarrowerOrEqual child parent = .ok () ↔ EnvelopeNarrower child parent := by
  rw [assertEnvelopeNarrowerOrEqual, check_then_ok, check_then_ok, check_then_ok, check_then_ok,
    check_then_ok, identity_narrower_iff, cost_narrower_iff, graph_preserved_iff,
    strictness_kept_iff, for_all_ok, window_narrower_iff]
  simp only [entry_narrower_iff]
  constructor
  · rintro ⟨⟨effect, ⟨adapterId, adapterVersion⟩, targets⟩, cost, graph, ⟨forbid, require, keys⟩,
      constraints, expiresAt, notBefore⟩
    exact ⟨effect, adapterId, adapterVersion, targets, cost, graph, forbid, require, keys,
      constraints, expiresAt, notBefore⟩
  · intro narrower
    exact ⟨⟨narrower.effectType, ⟨narrower.adapterId, narrower.adapterVersion⟩, narrower.targets⟩,
      narrower.cost, narrower.graph, ⟨narrower.forbid, narrower.require, narrower.keys⟩,
      narrower.constraints, narrower.expiresAt, narrower.notBefore⟩

end Envelopes

end KarmaSakshi.Domain
