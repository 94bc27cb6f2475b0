import KarmaSakshi.Domain.EnvelopeAttenuation
import KarmaSakshi.Engine.Scenario

/-!
Whether a narrower envelope lets nothing through that its parent refuses.

Two things come between the comparison and its meaning.  A key that the child adds is
unknown to a parent that forbids unknown parameters; and a fixed `0` or `1` lets `False` or
`True` through, which no range of the parent accepts.
-/

namespace KarmaSakshi.Guarantees

open KarmaSakshi.Domain KarmaSakshi.Engine

set_option autoImplicit false

section Statement

/-- The limits that the manifest puts on a value. -/
def WithinLimit : ParameterValue → Prop
  | .text value => value.length ≤ 4096
  | _ => True

/-- The limits that the manifest puts on its parameters. -/
structure ParametersWithinLimits (parameters : Dict ParameterValue) : Prop where
  count : parameters.entries.length ≤ 64
  keys : ∀ key ∈ parameters.keys, boundedText 128 key
  values : ∀ entry ∈ parameters.entries, WithinLimit entry.2

/-- The validators of an envelope that bound its texts and its constraints. -/
structure ValidEnvelope (envelope : DecisionEnvelope) : Prop where
  effectType : boundedText 128 envelope.effectType
  targets : ∀ target ∈ envelope.targetResources, boundedText 256 target
  count : envelope.parameterConstraints.entries.length ≤ 64
  keys : ∀ key ∈ envelope.parameterConstraints.keys, boundedText 64 key

variable (child parent : DecisionEnvelope)

/-- The manifest fits the envelope while the envelope is effective. -/
def LetsThrough (manifest : EffectManifest) (instant : Instant) : Prop :=
  assertManifestFitsEnvelope manifest child = .ok () ∧ child.isEffectiveAt instant = true

/-- Everything that the child lets through the parent lets through as well. -/
def EnvelopeAttenuates : Prop :=
  ∀ manifest instant, ParametersWithinLimits manifest.parameters →
    LetsThrough child manifest instant → LetsThrough parent manifest instant

/-- Some value that a manifest can carry meets the constraint. -/
def Meetable (constraint : ParameterConstraint) : Prop :=
  ∃ value, WithinLimit value ∧ constraint.accepts value = .ok ()

/-- The child demands a parameter that no manifest can have. -/
def Unfittable : Prop :=
  child.requireAllConstrainedParameters = true ∧
    ∃ entry ∈ child.parameterConstraints.entries, ¬ Meetable entry.2

/-- Where the parent forbids unknown parameters, the child adds no key that can be used. -/
def AddsNoKey : Prop :=
  parent.forbidUnknownParameters = true → ∀ entry ∈ child.parameterConstraints.entries,
    entry.1 ∉ parent.parameterConstraints.keys → ¬ Meetable entry.2

/-- Under a range of the parent, the child's constraint lets no boolean through. -/
def KeepsBooleansOut : Prop :=
  ∀ entry ∈ parent.parameterConstraints.entries, entry.2.isRange = true →
    ∀ constraint, child.parameterConstraints.get entry.1 = some constraint →
      ∀ flag, constraint.accepts (.bool flag) ≠ .ok ()

end Statement

section Proof

variable {child parent : DecisionEnvelope} {manifest : EffectManifest}

/-! ### What the comparison does ensure -/

theorem cost_within_trans {cost cap limit : Option MonetaryAmount} (first : CostWithin cost cap)
    (second : CostWithin cap limit) : CostWithin cost limit := by
  intro most held
  obtain ⟨middle, capped, sameCurrency, lower⟩ := second most held
  obtain ⟨amount, spent, currency, within⟩ := first middle capped
  exact ⟨amount, spent, currency.trans sameCurrency, within.trans lower⟩

/-- A parameter that fits the child is a known one of the parent. -/
theorem parameter_is_known (added : AddsNoKey child parent)
    (narrower : EnvelopeNarrower child parent) (limits : ParametersWithinLimits manifest.parameters)
    (fits : FitsEnvelope manifest child) (forbids : parent.forbidUnknownParameters = true) :
    manifest.parameters.keys ⊆ parent.parameterConstraints.keys := by
  intro key used
  by_contra unknown
  obtain ⟨value, held⟩ := Dict.mem_keys_iff.mp used
  obtain ⟨constraint, constrained⟩ :=
    Dict.mem_keys_iff.mp (fits.known (narrower.forbid forbids) used)
  have entry := Dict.get_some_iff.mp constrained
  refine added forbids (key, constraint) entry unknown ⟨value, ?_, ?_⟩
  · exact limits.values (key, value) (Dict.get_some_iff.mp held)
  · exact fits.accepted (key, constraint) entry value held

theorem parameter_is_accepted (booleans : KeepsBooleansOut child parent)
    (narrower : EnvelopeNarrower child parent) (fits : FitsEnvelope manifest child)
    {entry : String × ParameterConstraint} (member : entry ∈ parent.parameterConstraints.entries)
    {value : ParameterValue} (held : manifest.parameters.get entry.1 = some value) :
    entry.2.accepts value = .ok () := by
  obtain ⟨constraint, constrained, smaller⟩ := narrower.constraints entry member
  have accepted : constraint.accepts value = .ok () :=
    fits.accepted (entry.1, constraint) (Dict.get_some_iff.mp constrained) value held
  rcases narrower_accepts smaller accepted with parental | ⟨range, flag, rfl⟩
  · exact parental
  · exact absurd accepted (booleans entry member range constraint constrained flag)

theorem attenuates_of_conditions (narrower : EnvelopeNarrower child parent)
    (added : AddsNoKey child parent) (booleans : KeepsBooleansOut child parent) :
    EnvelopeAttenuates child parent := by
  intro manifest instant limits through
  have fits := fits_iff.mp through.1
  have effective : child.notBefore ≤ instant ∧ instant < child.expiresAt :=
    of_decide_eq_true through.2
  refine ⟨fits_iff.mpr ?_, decide_eq_true ?_⟩
  · exact {
      effectType := fits.effectType.trans narrower.effectType
      adapterId := fits.adapterId.trans narrower.adapterId
      adapterVersion := fits.adapterVersion.trans narrower.adapterVersion
      target := narrower.targets fits.target
      known := parameter_is_known added narrower limits fits
      present := fun required =>
        List.Subset.trans narrower.keys (fits.present (narrower.require required))
      accepted := fun entry member value held =>
        parameter_is_accepted booleans narrower fits member held
      cost := cost_within_trans fits.cost narrower.cost }
  · exact ⟨narrower.notBefore.trans effective.1, effective.2.trans_le narrower.expiresAt⟩

/-- Nothing at all fits an unfittable child. -/
theorem attenuates_of_unfittable (unfittable : Unfittable child) : EnvelopeAttenuates child parent := by
  obtain ⟨required, entry, member, unmeetable⟩ := unfittable
  intro manifest instant limits through
  have fits := fits_iff.mp through.1
  have used : entry.1 ∈ manifest.parameters.keys :=
    fits.present required (List.mem_map_of_mem member)
  obtain ⟨value, held⟩ := Dict.mem_keys_iff.mp used
  refine absurd ⟨value, ?_, fits.accepted entry member value held⟩ unmeetable
  exact limits.values (entry.1, value) (Dict.get_some_iff.mp held)

/-! ### A manifest that fits the child -/

/-- Parameters that meet every constraint they name, among them one chosen entry. -/
structure Meets (constraints : Dict ParameterConstraint) (required : Bool) (key : String)
    (value : ParameterValue) (parameters : Dict ParameterValue) : Prop where
  limits : ParametersWithinLimits parameters
  holds : parameters.get key = some value
  known : parameters.keys ⊆ constraints.keys
  present : required = true → constraints.keys ⊆ parameters.keys
  accepted : ∀ entry ∈ constraints.entries,
    ∀ value ∈ parameters.get entry.1, entry.2.accepts value = .ok ()

variable {key : String} {constraint : ParameterConstraint} {value : ParameterValue}

/-- The dictionary that gives every key of another one a value. -/
def valuesOf (constraints : Dict ParameterConstraint)
    (choose : String × ParameterConstraint → ParameterValue) : Dict ParameterValue where
  entries := constraints.entries.map (fun entry => (entry.1, choose entry))
  ordered := by
    rw [List.map_map]
    exact constraints.ordered

theorem values_of_keys (constraints : Dict ParameterConstraint)
    (choose : String × ParameterConstraint → ParameterValue) :
    (valuesOf constraints choose).keys = constraints.keys := by
  rw [Dict.keys, Dict.keys, valuesOf, List.map_map]
  rfl

theorem values_of_get {constraints : Dict ParameterConstraint}
    {choose : String × ParameterConstraint → ParameterValue}
    (member : (key, constraint) ∈ constraints.entries) :
    (valuesOf constraints choose).get key = some (choose (key, constraint)) :=
  Dict.get_some_iff.mpr (List.mem_map.mpr ⟨(key, constraint), member, rfl⟩)

theorem full_parameters (valid : ValidEnvelope child)
    (meetable : ∀ entry ∈ child.parameterConstraints.entries, Meetable entry.2)
    (member : (key, constraint) ∈ child.parameterConstraints.entries)
    (limited : WithinLimit value) (accepted : constraint.accepts value = .ok ()) :
    ∃ parameters, Meets child.parameterConstraints true key value parameters := by
  classical
  -- The chosen entry gets the given value, every other one some value that meets it.
  let choose : String × ParameterConstraint → ParameterValue := fun entry =>
    if entry = (key, constraint) then value
    else if meets : Meetable entry.2 then meets.choose else .none
  have chosen : ∀ entry ∈ child.parameterConstraints.entries,
      WithinLimit (choose entry) ∧ entry.2.accepts (choose entry) = .ok () := by
    intro entry inside
    by_cases same : entry = (key, constraint)
    · simp only [choose, if_pos same]
      exact ⟨limited, same ▸ accepted⟩
    · simp only [choose, if_neg same, dif_pos (meetable entry inside)]
      exact (meetable entry inside).choose_spec
  refine ⟨valuesOf child.parameterConstraints choose, ⟨?_, ?_, ?_⟩, ?_, ?_, ?_, ?_⟩
  · rw [valuesOf, List.length_map]
    exact valid.count
  · rw [values_of_keys]
    intro other inside
    exact ⟨(valid.keys other inside).1, (valid.keys other inside).2.trans (by decide)⟩
  · intro entry inside
    obtain ⟨source, sourced, rfl⟩ := List.mem_map.mp inside
    exact (chosen source sourced).1
  · rw [values_of_get member]
    simp [choose]
  · rw [values_of_keys]
    exact List.Subset.refl _
  · rw [values_of_keys]
    exact fun _ => List.Subset.refl _
  · intro entry inside found held
    obtain rfl := Option.some.inj ((values_of_get inside).symm.trans held)
    exact (chosen entry inside).2

theorem single_parameter (valid : ValidEnvelope child)
    (member : (key, constraint) ∈ child.parameterConstraints.entries)
    (limited : WithinLimit value) (accepted : constraint.accepts value = .ok ()) :
    ∃ parameters, Meets child.parameterConstraints false key value parameters := by
  have inside : key ∈ child.parameterConstraints.keys := List.mem_map_of_mem member
  refine ⟨⟨[(key, value)], List.pairwise_singleton _ _⟩, ⟨by simp, ?_, ?_⟩, ?_, ?_, ?_, ?_⟩
  · intro other found
    rw [List.mem_singleton.mp found]
    exact ⟨(valid.keys key inside).1, (valid.keys key inside).2.trans (by decide)⟩
  · intro entry found
    obtain rfl := List.mem_singleton.mp found
    exact limited
  · exact Dict.get_some_iff.mpr List.mem_cons_self
  · intro other found
    rw [List.mem_singleton.mp found]
    exact inside
  · intro impossible
    cases impossible
  · intro entry named other held
    obtain ⟨same, rfl⟩ := Prod.mk.inj (List.mem_singleton.mp (Dict.get_some_iff.mp held))
    have sameConstraint := (Dict.get_some_iff.mpr named).symm.trans
      (same ▸ Dict.get_some_iff.mpr member)
    exact Option.some.inj sameConstraint ▸ accepted

/-- A manifest with these parameters, on the child's own terms. -/
def manifestUnder (child : DecisionEnvelope) (valid : ValidEnvelope child)
    (parameters : Dict ParameterValue) : EffectManifest :=
  { Payment.transfer with
    effectType := child.effectType
    adapter := child.adapter
    targetResource := child.targetResources.head child.targetResourcesNonempty
    parameters := parameters
    estimatedCost := child.maxEstimatedCost
    effectTypeBounded := valid.effectType
    targetResourceBounded :=
      have bounded := valid.targets _ (List.head_mem child.targetResourcesNonempty)
      ⟨bounded.1, bounded.2.trans (by decide)⟩ }

theorem manifest_under_fits (valid : ValidEnvelope child) {parameters : Dict ParameterValue}
    (meets : Meets child.parameterConstraints child.requireAllConstrainedParameters key value
      parameters) :
    LetsThrough child (manifestUnder child valid parameters) child.notBefore := by
  refine ⟨fits_iff.mpr ?_, decide_eq_true ⟨le_refl _, child.windowOpen⟩⟩
  exact {
    effectType := rfl
    adapterId := rfl
    adapterVersion := rfl
    target := List.head_mem _
    known := fun _ => meets.known
    present := meets.present
    accepted := meets.accepted
    cost := fun cap held => ⟨cap, held, rfl, le_refl _⟩ }

/-- Any single value that a fittable child accepts occurs in a manifest it lets through. -/
theorem value_occurs (valid : ValidEnvelope child) (fittable : ¬ Unfittable child)
    (member : (key, constraint) ∈ child.parameterConstraints.entries)
    (limited : WithinLimit value) (accepted : constraint.accepts value = .ok ()) :
    ∃ manifest, ParametersWithinLimits manifest.parameters ∧
      manifest.parameters.get key = some value ∧
      LetsThrough child manifest child.notBefore := by
  have parameters : ∃ parameters, Meets child.parameterConstraints
      child.requireAllConstrainedParameters key value parameters := by
    cases required : child.requireAllConstrainedParameters with
    | true =>
        refine full_parameters valid ?_ member limited accepted
        intro entry inside
        by_contra unmeetable
        exact fittable ⟨required, entry, inside, unmeetable⟩
    | false => exact single_parameter valid member limited accepted
  obtain ⟨parameters, meets⟩ := parameters
  exact ⟨manifestUnder child valid parameters, meets.limits, meets.holds,
    manifest_under_fits valid meets⟩

/-! ### The conditions are needed -/

theorem adds_no_key (valid : ValidEnvelope child) (fittable : ¬ Unfittable child)
    (attenuates : EnvelopeAttenuates child parent) : AddsNoKey child parent := by
  intro forbids entry member unknown meetable
  obtain ⟨value, limited, accepted⟩ := meetable
  obtain ⟨manifest, limits, holds, through⟩ := value_occurs valid fittable member limited accepted
  have fits := fits_iff.mp (attenuates manifest _ limits through).1
  exact unknown (fits.known forbids (Dict.mem_keys_iff.mpr ⟨value, holds⟩))

theorem keeps_booleans_out (valid : ValidEnvelope child) (fittable : ¬ Unfittable child)
    (attenuates : EnvelopeAttenuates child parent) : KeepsBooleansOut child parent := by
  intro entry member range constraint constrained flag accepted
  have limited : WithinLimit (.bool flag) := trivial
  obtain ⟨manifest, limits, holds, through⟩ := value_occurs valid fittable
    (Dict.get_some_iff.mp constrained) limited accepted
  have fits := fits_iff.mp (attenuates manifest _ limits through).1
  obtain ⟨number, impossible⟩ :=
    ParameterConstraint.range_accepts_int range (fits.accepted entry member (.bool flag) holds)
  cases impossible

/-- A child that passes the comparison lets nothing new through exactly when it adds no
usable key to a strict parent and lets no boolean through a parent's range, or lets nothing
through at all. -/
theorem attenuation_sound_iff (valid : ValidEnvelope child)
    (narrower : assertEnvelopeNarrowerOrEqual child parent = .ok ()) :
    EnvelopeAttenuates child parent ↔
      (Unfittable child ∨ AddsNoKey child parent ∧ KeepsBooleansOut child parent) := by
  constructor
  · intro attenuates
    by_cases unfittable : Unfittable child
    · exact Or.inl unfittable
    · exact Or.inr ⟨adds_no_key valid unfittable attenuates,
        keeps_booleans_out valid unfittable attenuates⟩
  · rintro (unfittable | ⟨added, booleans⟩)
    · exact attenuates_of_unfittable unfittable
    · exact attenuates_of_conditions (envelope_narrower_iff.mp narrower) added booleans

end Proof

/-! ### A key that the child adds -/

namespace Memo

/-- The transfers to one account, with these constraints on their parameters. -/
def envelope (constraints : Dict ParameterConstraint) : DecisionEnvelope where
  schemaVersion := "1.0"
  envelopeId := "envelope-1"
  effectType := "payment.transfer"
  adapter := Payment.adapter
  targetResources := ["acct/100"]
  parameterConstraints := constraints
  forbidUnknownParameters := true
  requireAllConstrainedParameters := true
  maxEstimatedCost := none
  causalGraphHash := none
  issuer := Payment.treasury
  createdAt := Payment.opening
  notBefore := Payment.opening
  expiresAt := Payment.closing
  nonce := "nonce-envelope-1"
  keyId := "issuer-key"
  signature := none
  targetResourcesNonempty := Payment.payee_listed
  windowOpen := Payment.transfer.windowOpen

def fixedMemo : Dict ParameterConstraint :=
  ⟨[("memo", .exact (.text "rent"))], List.pairwise_singleton _ _⟩

theorem rent_alone :
    ([("memo", ParameterValue.text "rent")].map Prod.fst).Pairwise (· < ·) :=
  List.pairwise_singleton _ _

/-- A transfer that carries the memo. -/
def transfer : EffectManifest :=
  { Payment.transfer with parameters := ⟨[("memo", .text "rent")], rent_alone⟩ }

theorem envelope_valid {constraints : Dict ParameterConstraint}
    (count : constraints.entries.length ≤ 64)
    (keys : ∀ key ∈ constraints.keys, boundedText 64 key) :
    ValidEnvelope (envelope constraints) where
  effectType := Payment.transfer.effectTypeBounded
  targets := by
    intro target member
    rw [List.mem_singleton.mp member]
    decide
  count := count
  keys := keys

/-- The child's only entry decides the comparison. -/
theorem memo_narrower {constraints : Dict ParameterConstraint}
    (keys : constraints.keys ⊆ ["memo"])
    (narrower : ∀ entry ∈ constraints.entries,
      assertConstraintNarrowerOrEqual (.exact (.text "rent")) entry.2 entry.1 = .ok ()) :
    assertEnvelopeNarrowerOrEqual (envelope fixedMemo) (envelope constraints) = .ok () := by
  refine envelope_narrower_iff.mpr ⟨rfl, rfl, rfl, List.Subset.refl _, ?_, rfl, id, id, keys, ?_,
    le_refl _, le_refl _⟩
  · intro limit held
    cases held
  · intro entry member
    have key : entry.1 = "memo" := List.mem_singleton.mp (keys (List.mem_map_of_mem member))
    refine ⟨.exact (.text "rent"), ?_, narrower entry member⟩
    rw [key]
    rfl

theorem memo_lets_through {constraints : Dict ParameterConstraint}
    (keys : constraints.keys = ["memo"])
    (accepted : ∀ entry ∈ constraints.entries, entry.2.accepts (.text "rent") = .ok ()) :
    LetsThrough (envelope constraints) transfer Payment.noon := by
  have effective : Payment.opening ≤ Payment.noon ∧ Payment.noon < Payment.closing := by decide
  refine ⟨fits_iff.mpr ⟨rfl, rfl, rfl, List.mem_cons_self, ?_, ?_, ?_, ?_⟩,
    decide_eq_true effective⟩
  · exact fun _ => keys ▸ List.Subset.refl _
  · exact fun _ => keys ▸ List.Subset.refl _
  · intro entry member value held
    obtain ⟨-, rfl⟩ := Prod.mk.inj (List.mem_singleton.mp (Dict.get_some_iff.mp held))
    exact accepted entry member
  · intro cap held
    cases held

end Memo

/-- The child that fixes a memo passes as narrower than the parent without parameters, and
lets a transfer through that the parent refuses. -/
theorem added_key_widens :
    assertEnvelopeNarrowerOrEqual (Memo.envelope Memo.fixedMemo) (Memo.envelope .empty) = .ok () ∧
      ParametersWithinLimits Memo.transfer.parameters ∧
      LetsThrough (Memo.envelope Memo.fixedMemo) Memo.transfer Payment.noon ∧
      ¬ LetsThrough (Memo.envelope .empty) Memo.transfer Payment.noon := by
  refine ⟨Memo.memo_narrower (List.nil_subset _) ?_, ⟨by decide, by decide, ?_⟩,
    Memo.memo_lets_through rfl ?_, ?_⟩
  · intro entry member
    cases member
  · intro entry member
    rw [List.mem_singleton.mp member]
    show "rent".length ≤ 4096
    decide
  · intro entry member
    rw [List.mem_singleton.mp member]
    rfl
  · intro through
    have known := (fits_iff.mp through.1).known rfl
    cases known List.mem_cons_self

namespace Memo

/-- Two memos to choose from. -/
def twoMemos : Dict ParameterConstraint :=
  ⟨[("memo", .enum [.text "rent", .text "wages"] (by decide))], List.pairwise_singleton _ _⟩

end Memo

/-- Fixing one of two permitted memos attenuates. -/
theorem fixed_memo_attenuates :
    EnvelopeAttenuates (Memo.envelope Memo.fixedMemo) (Memo.envelope Memo.twoMemos) := by
  have narrower : assertEnvelopeNarrowerOrEqual (Memo.envelope Memo.fixedMemo)
      (Memo.envelope Memo.twoMemos) = .ok () := by
    refine Memo.memo_narrower (List.Subset.refl _) ?_
    intro entry member
    rw [List.mem_singleton.mp member]
    rfl
  refine (attenuation_sound_iff (Memo.envelope_valid (by decide) (by decide)) narrower).mpr
    (Or.inr ⟨?_, ?_⟩)
  · intro _ entry member unknown
    rw [List.mem_singleton.mp member] at unknown
    exact absurd List.mem_cons_self unknown
  · intro entry member range
    rw [List.mem_singleton.mp member] at range
    cases range

end KarmaSakshi.Guarantees
