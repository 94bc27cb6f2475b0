import KarmaSakshi.Domain.AuditEvents
import KarmaSakshi.Domain.Manifest

/-!
Building a manifest from the arguments an adapter hands to the constructor.

Some validators of the record are fields of `EffectManifest` already; the ones on the
size of its dictionaries and on the characters of the target are only checked here.
-/

namespace KarmaSakshi.Domain

set_option autoImplicit false

def maxParameters : Nat := 64

def maxParameterKeyLength : Nat := 128

def maxParameterValueLength : Nat := 4096

def maxMetadataKeys : Nat := 16

def maxMetadataKeyLength : Nat := 64

def maxMetadataValueLength : Nat := 512

def maxMetadataTotal : Nat := 8192

def currentSchemaVersion : String := "1.0"

/-- The constructor arguments of `EffectManifest` that the adapters give; the others keep
their defaults. -/
structure ManifestDraft where
  manifestId : String
  effectType : String
  actor : Principal
  principal : Principal
  adapter : AdapterIdentity
  targetResource : String
  parameters : Dict ParameterValue
  beforeStateDigest : Option String
  stateFingerprint : Option StateFingerprint
  risk : RiskClassification
  reversibility : ReversibilityClassification
  blastRadius : BlastRadiusClassification
  estimatedCost : Option MonetaryAmount
  idempotencyKey : String
  createdAt : Instant
  expiresAt : Instant
  nonce : String
  metadata : Dict String

/-- One parameter passes `_validate_parameters`. -/
def parameterFits (entry : String × ParameterValue) : Prop :=
  boundedText maxParameterKeyLength entry.1 ∧
    ∀ text ∈ (match entry.2 with
      | .text value => some value
      | _ => none), text.length ≤ maxParameterValueLength

instance (entry : String × ParameterValue) : Decidable (parameterFits entry) :=
  inferInstanceAs (Decidable (_ ∧ _))

def parametersFit (parameters : Dict ParameterValue) : Prop :=
  parameters.entries.length ≤ maxParameters ∧
    ∀ entry ∈ parameters.entries, parameterFits entry

instance (parameters : Dict ParameterValue) : Decidable (parametersFit parameters) :=
  inferInstanceAs (Decidable (_ ∧ _))

/-- The metadata passes `_validate_metadata`. -/
def metadataFits (metadata : Dict String) : Prop :=
  metadata.entries.length ≤ maxMetadataKeys ∧
    (∀ entry ∈ metadata.entries,
      entry.1.length ≤ maxMetadataKeyLength ∧ entry.2.length ≤ maxMetadataValueLength) ∧
    (metadata.entries.map fun entry => entry.1.length + entry.2.length).sum ≤ maxMetadataTotal

instance (metadata : Dict String) : Decidable (metadataFits metadata) :=
  inferInstanceAs (Decidable (_ ∧ _))

theorem metadata_fits_empty : metadataFits Dict.empty :=
  ⟨Nat.zero_le _, List.forall_mem_nil _, Nat.zero_le _⟩

/-- `StateFingerprint` passes its own validator. -/
def fingerprintFits (fingerprint : Option StateFingerprint) : Prop :=
  ∀ observed ∈ fingerprint, boundedText 512 observed.value

instance (fingerprint : Option StateFingerprint) : Decidable (fingerprintFits fingerprint) :=
  inferInstanceAs (Decidable (∀ observed ∈ fingerprint, _))

def printable (text : String) : Prop := ∀ char ∈ text.toList, 32 ≤ char.toNat

instance (text : String) : Decidable (printable text) :=
  inferInstanceAs (Decidable (∀ char ∈ text.toList, _))

/-- What the record keeps as fields of its own. -/
structure DraftBounds (draft : ManifestDraft) : Prop where
  manifestId : boundedText 128 draft.manifestId
  idempotencyKey : boundedText 128 draft.idempotencyKey
  nonce : boundedText 128 draft.nonce
  effectType : boundedText 128 draft.effectType
  targetResource : boundedText 512 draft.targetResource
  window : draft.createdAt < draft.expiresAt

instance (draft : ManifestDraft) : Decidable (DraftBounds draft) :=
  decidable_of_iff
    (boundedText 128 draft.manifestId ∧ boundedText 128 draft.idempotencyKey ∧
      boundedText 128 draft.nonce ∧ boundedText 128 draft.effectType ∧
      boundedText 512 draft.targetResource ∧ draft.createdAt < draft.expiresAt)
    ⟨fun ⟨id, key, nonce, effect, target, window⟩ => ⟨id, key, nonce, effect, target, window⟩,
      fun ⟨id, key, nonce, effect, target, window⟩ => ⟨id, key, nonce, effect, target, window⟩⟩

namespace ManifestDraft

variable (draft : ManifestDraft)

/-- The manifest, once its own bounds hold. -/
def manifest (bounds : DraftBounds draft) : EffectManifest where
  schemaVersion := currentSchemaVersion
  manifestId := draft.manifestId
  effectType := draft.effectType
  actor := draft.actor
  principal := draft.principal
  adapter := draft.adapter
  targetResource := draft.targetResource
  parameters := draft.parameters
  beforeStateDigest := draft.beforeStateDigest
  expectedAfterStateDigest := none
  stateFingerprint := draft.stateFingerprint
  preconditions := []
  risk := draft.risk
  reversibility := draft.reversibility
  blastRadius := draft.blastRadius
  estimatedCost := draft.estimatedCost
  idempotencyKey := draft.idempotencyKey
  createdAt := draft.createdAt
  expiresAt := draft.expiresAt
  nonce := draft.nonce
  parentManifestId := none
  metadata := draft.metadata
  manifestIdBounded := bounds.manifestId
  idempotencyKeyBounded := bounds.idempotencyKey
  nonceBounded := bounds.nonce
  effectTypeBounded := bounds.effectType
  targetResourceBounded := bounds.targetResource
  windowOpen := bounds.window

/-- `EffectManifest(...)`. -/
def build : Except PyError EffectManifest :=
  if bounds : DraftBounds draft then
    if ¬ printable draft.targetResource then
      .error ⟨.validationError, "target_resource must not contain control characters"⟩
    else if ¬ parametersFit draft.parameters then
      .error ⟨.validationError, "parameters"⟩
    else if ¬ fingerprintFits draft.stateFingerprint then
      .error ⟨.validationError, "state fingerprint value must be 1-512 chars"⟩
    else if ¬ metadataFits draft.metadata then
      .error ⟨.validationError, "metadata"⟩
    else .ok (draft.manifest bounds)
  else .error ⟨.validationError, "EffectManifest"⟩

variable {draft}

theorem build_passes (bounds : DraftBounds draft) (target : printable draft.targetResource)
    (parameters : parametersFit draft.parameters)
    (fingerprint : fingerprintFits draft.stateFingerprint)
    (metadata : metadataFits draft.metadata) : draft.build = .ok (draft.manifest bounds) := by
  simp only [build, bounds, target, parameters, fingerprint, metadata, dite_true, not_true,
    if_false]

/-- A built manifest says what the draft says. -/
theorem build_ok {manifest : EffectManifest} (built : draft.build = .ok manifest) :
    ∃ bounds, manifest = draft.manifest bounds := by
  unfold build at built
  split at built
  · rename_i bounds
    repeat' split at built
    all_goals cases built
    exact ⟨bounds, rfl⟩
  · cases built

end ManifestDraft

/-! ### Reading the parameters -/

section Lookup

variable {Value : Type}

theorem lookup_put_entry (key other : String) (value : Value) (entries : List (String × Value)) :
    (Dict.putEntry key value entries).lookup other =
      if other = key then some value else entries.lookup other := by
  have one : ∀ rest : List (String × Value), ((key, value) :: rest).lookup other =
      if other = key then some value else rest.lookup other := by
    intro rest
    by_cases same : other = key
    · rw [if_pos same, List.lookup, beq_iff_eq.mpr same]
    · rw [if_neg same, List.lookup, beq_eq_false_iff_ne.mpr same]
  induction entries with
  | nil => exact one []
  | cons entry rest ih =>
      obtain ⟨first, held⟩ := entry
      rw [Dict.putEntry]
      by_cases before : key < first
      · rw [if_pos before]
        exact one _
      · rw [if_neg before]
        by_cases isFirst : key = first
        · rw [if_pos isFirst, one]
          by_cases same : other = key
          · rw [if_pos same, if_pos same]
          · rw [if_neg same, if_neg same, List.lookup, beq_eq_false_iff_ne.mpr (isFirst ▸ same)]
        · rw [if_neg isFirst, List.lookup, List.lookup, ih]
          by_cases isOther : other = first
          · have differs : other ≠ key := fun same => isFirst (same.symm.trans isOther)
            simp only [beq_iff_eq.mpr isOther, if_neg differs]
          · rw [beq_eq_false_iff_ne.mpr isOther]

@[simp] theorem get_put (dict : Dict Value) (key other : String) (value : Value) :
    (dict.put key value).get other = if other = key then some value else dict.get other :=
  lookup_put_entry key other value dict.entries

@[simp] theorem get_empty (key : String) : (Dict.empty : Dict Value).get key = none := rfl

end Lookup

/-- `str(value)`. -/
def ParameterValue.pyStr : ParameterValue → String
  | .text value => value
  | .int value => toString value
  | .bool value => if value then "True" else "False"
  | .none => "None"

/-- `_int_param(value)`, under which `True` is `1`. -/
def intParam (value : ParameterValue) : Except PyError Int :=
  match value with
  | .int value => .ok value
  | .bool value => .ok (if value then 1 else 0)
  | other => .error ⟨.other "TypeError",
      "expected an int manifest parameter, got " ++ other.typeName⟩

/-- `manifest.parameters[key]`. -/
def EffectManifest.parameter (manifest : EffectManifest) (key : String) :
    Except PyError ParameterValue :=
  match manifest.parameters.get key with
  | some value => .ok value
  | none => .error ⟨.other "KeyError", pyRepr key⟩

/-- `str(manifest.parameters[key])`. -/
def EffectManifest.textParameter (manifest : EffectManifest) (key : String) :
    Except PyError String := do
  return (← manifest.parameter key).pyStr

/-- `_int_param(manifest.parameters[key])`. -/
def EffectManifest.intParameter (manifest : EffectManifest) (key : String) :
    Except PyError Int := do
  intParam (← manifest.parameter key)

section Parameters

variable {manifest : EffectManifest} {key : String}

theorem text_parameter_of {value : String}
    (held : manifest.parameters.get key = some (.text value)) :
    manifest.textParameter key = .ok value := by
  simp [EffectManifest.textParameter, EffectManifest.parameter, held, ParameterValue.pyStr, bind,
    Except.bind, pure, Except.pure]

theorem int_parameter_of {value : Int} (held : manifest.parameters.get key = some (.int value)) :
    manifest.intParameter key = .ok value := by
  simp [EffectManifest.intParameter, EffectManifest.parameter, held, intParam, bind, Except.bind]

end Parameters

/-- `value or fallback` for a string. -/
def textOr (value fallback : String) : String := if value = "" then fallback else value

/-- The three letters of a currency; the pattern's `$` also ends before a last newline. -/
def currencyShape (currency : String) : Prop :=
  let letters := currency.toList
  letters.length ∈ [3, 4] ∧ (∀ letter ∈ letters.take 3, 'A' ≤ letter ∧ letter ≤ 'Z') ∧
    letters.drop 3 ∈ [[], ['\n']]

instance (currency : String) : Decidable (currencyShape currency) :=
  inferInstanceAs (Decidable (_ ∧ _))

/-- `MonetaryAmount(currency=..., minor_units=...)`. -/
def monetaryAmount (currency : String) (minorUnits : Int) : Except PyError MonetaryAmount :=
  if ¬ currencyShape currency then
    .error ⟨.validationError, "currency must be a 3-letter uppercase ISO 4217 code"⟩
  else if minorUnits < 0 then .error ⟨.validationError, "minor_units must be >= 0"⟩
  else if bounded : minorUnits.toNat ≤ 10 ^ 15 then .ok ⟨currency, minorUnits.toNat, bounded⟩
  else .error ⟨.validationError, "minor_units exceeds sane upper bound"⟩

end KarmaSakshi.Domain
