import KarmaSakshi.Domain.Manifest

/-!
Plan-level artifacts a grant can be bound to: signed policy bundles, decision
envelopes with their parameter constraints, and causal effect graphs.
-/

namespace KarmaSakshi.Domain

set_option autoImplicit false

/-- The unsigned policy content and its scope.  The payload is kept as its
canonical JSON text, the only form the hash depends on. -/
structure PolicyBundle where
  schemaVersion : String
  bundleId : String
  bundleVersion : String
  policyType : String
  payload : String
  issuer : Principal
  tenantId : Option String
  createdAt : Instant
  effectiveFrom : Instant
  effectiveUntil : Option Instant
  windowOpen : ∀ until_ ∈ effectiveUntil, effectiveFrom < until_

structure PolicyBundleSeal where
  keyId : String
  bundleHash : String
  signature : String
  sealedAt : Instant
  bundleHashShape : isDigest bundleHash

structure SealedPolicyBundle where
  bundle : PolicyBundle
  «seal» : PolicyBundleSeal

/-- One named parameter's allowed value space.  Each kind carries exactly the
fields that its shape validator lets it have. -/
inductive ParameterConstraint : Type where
  | exact (exactValue : ParameterValue)
  | enum (allowedValues : List ParameterValue) (nonempty : allowedValues ≠ [])
  | integerRange (minInt maxInt : Option Int) (bounded : minInt ≠ none ∨ maxInt ≠ none)
  | monetaryRange (currency : String) (minAmount maxAmount : Option MonetaryAmount)
      (bounded : minAmount ≠ none ∨ maxAmount ≠ none)

def refusedValue (message : String) : Except PyError Unit :=
  .error ⟨.decisionEnvelopeConstraint, message⟩

/-- Integer minor units out of a parameter, `bool` not counting as an `int`. -/
def asInt (value : ParameterValue) : Option Int :=
  match value with
  | .int number => some number
  | _ => none

def acceptsIntegerRange (minInt maxInt : Option Int) (value : ParameterValue) :
    Except PyError Unit :=
  match asInt value with
  | none => refusedValue ("integer_range requires an int value, got " ++ value.typeName)
  | some number =>
      if ∃ floor ∈ minInt, number < floor then
        refusedValue ("value " ++ toString number ++ " is below integer_range min_int " ++
          toString (minInt.getD 0))
      else if ∃ ceiling ∈ maxInt, ceiling < number then
        refusedValue ("value " ++ toString number ++ " exceeds integer_range max_int " ++
          toString (maxInt.getD 0))
      else .ok ()

/-- The amount is built as a `MonetaryAmount`, whose own bounds raise a
validation error rather than a constraint error. -/
def acceptsMonetaryRange (currency : String) (minAmount maxAmount : Option MonetaryAmount)
    (value : ParameterValue) : Except PyError Unit :=
  match asInt value with
  | none => refusedValue ("monetary_range requires integer minor units, got " ++ value.typeName)
  | some number =>
      if number < 0 then .error ⟨.validationError, "minor_units must be >= 0"⟩
      else if 10 ^ 15 < number then
        .error ⟨.validationError, "minor_units exceeds sane upper bound"⟩
      else if ∃ least ∈ minAmount, number < least.minorUnits then
        refusedValue ("amount " ++ currency ++ " " ++ toString number ++
          " is below monetary_range min " ++ ((minAmount.map MonetaryAmount.text).getD "None"))
      else if ∃ most ∈ maxAmount, (most.minorUnits : Int) < number then
        refusedValue ("amount " ++ currency ++ " " ++ toString number ++
          " exceeds monetary_range max " ++ ((maxAmount.map MonetaryAmount.text).getD "None"))
      else .ok ()

/-- Raises when `value` is out of bounds. -/
def ParameterConstraint.accepts (constraint : ParameterConstraint) (value : ParameterValue) :
    Except PyError Unit :=
  match constraint with
  | exact exactValue =>
      if value.pyEqual exactValue then .ok ()
      else refusedValue ("value " ++ value.repr ++ " does not equal exact constraint " ++
        exactValue.repr)
  | enum allowedValues _ =>
      if allowedValues.any value.pyEqual then .ok ()
      else refusedValue ("value " ++ value.repr ++ " is not in allowed_values [" ++
        commaSeparated (allowedValues.map ParameterValue.repr) ++ "]")
  | integerRange minInt maxInt _ => acceptsIntegerRange minInt maxInt value
  | monetaryRange currency minAmount maxAmount _ =>
      acceptsMonetaryRange currency minAmount maxAmount value

/-- Canonical constrained decision space for one authorized effect family. -/
structure DecisionEnvelope where
  schemaVersion : String
  envelopeId : String
  effectType : String
  adapter : AdapterIdentity
  targetResources : List String
  parameterConstraints : Dict ParameterConstraint
  forbidUnknownParameters : Bool
  requireAllConstrainedParameters : Bool
  maxEstimatedCost : Option MonetaryAmount
  causalGraphHash : Option String
  issuer : Principal
  createdAt : Instant
  notBefore : Instant
  expiresAt : Instant
  nonce : String
  keyId : String
  signature : Option String
  targetResourcesNonempty : targetResources ≠ []
  windowOpen : notBefore < expiresAt

def outsideEnvelope (message : String) : Except PyError Unit :=
  .error ⟨.decisionEnvelopeConstraint, message⟩

def fitsIdentity (manifest : EffectManifest) (envelope : DecisionEnvelope) :
    Except PyError Unit :=
  if manifest.effectType ≠ envelope.effectType then
    outsideEnvelope ("manifest effect_type " ++ pyRepr manifest.effectType ++
      " does not match envelope " ++ pyRepr envelope.effectType)
  else if manifest.adapter.adapterId ≠ envelope.adapter.adapterId ∨
      manifest.adapter.adapterVersion ≠ envelope.adapter.adapterVersion then
    outsideEnvelope ("manifest adapter " ++ manifest.adapter.adapterId ++ "@" ++
      manifest.adapter.adapterVersion ++ " does not match envelope " ++
      envelope.adapter.adapterId ++ "@" ++ envelope.adapter.adapterVersion)
  else if manifest.targetResource ∉ envelope.targetResources then
    outsideEnvelope ("manifest target_resource " ++ pyRepr manifest.targetResource ++
      " is not in envelope allow-list " ++ pyReprList envelope.targetResources)
  else .ok ()

def fitsParameterKeys (manifest : EffectManifest) (envelope : DecisionEnvelope) :
    Except PyError Unit :=
  let unknown := pySorted (manifest.parameters.keys.filter
    (fun key => key ∉ envelope.parameterConstraints.keys))
  let missing := pySorted (envelope.parameterConstraints.keys.filter
    (fun key => key ∉ manifest.parameters.keys))
  if envelope.forbidUnknownParameters ∧ unknown ≠ [] then
    outsideEnvelope ("manifest has parameters outside envelope constraints: " ++
      pyReprList unknown)
  else if envelope.requireAllConstrainedParameters ∧ missing ≠ [] then
    outsideEnvelope ("manifest is missing required constrained parameters: " ++
      pyReprList missing)
  else .ok ()

/-- One pass of the constraint loop: absent keys are skipped, and only a
constraint error is rewrapped with the key. -/
def fitsConstraint (parameters : Dict ParameterValue)
    (entry : String × ParameterConstraint) : Except PyError Unit :=
  match parameters.get entry.1 with
  | none => .ok ()
  | some value =>
      match entry.2.accepts value with
      | .ok _ => .ok ()
      | .error error =>
          if error.kind = .decisionEnvelopeConstraint then
            outsideEnvelope ("parameter " ++ pyRepr entry.1 ++
              " violates envelope constraint: " ++ error.message)
          else .error error

def fitsCost (manifest : EffectManifest) (envelope : DecisionEnvelope) :
    Except PyError Unit :=
  match envelope.maxEstimatedCost with
  | none => .ok ()
  | some cap =>
      match manifest.estimatedCost with
      | none => outsideEnvelope
          "envelope caps max_estimated_cost but manifest has no estimated_cost"
      | some cost =>
          if cost.currency ≠ cap.currency then
            outsideEnvelope ("manifest estimated_cost currency " ++ pyRepr cost.currency ++
              " does not match envelope cap currency " ++ pyRepr cap.currency)
          else if cap.minorUnits < cost.minorUnits then
            outsideEnvelope ("manifest estimated_cost " ++ cost.text ++
              " exceeds envelope cap " ++ cap.text)
          else .ok ()

/-- Raises when the manifest is outside the envelope's authorized space. -/
def assertManifestFitsEnvelope (manifest : EffectManifest) (envelope : DecisionEnvelope) :
    Except PyError Unit := do
  fitsIdentity manifest envelope
  fitsParameterKeys manifest envelope
  envelope.parameterConstraints.entries.forM (fitsConstraint manifest.parameters)
  fitsCost manifest envelope

inductive CausalRelation : Type where
  | causes
  | dependsOn
  | compensates
  | verifies
  deriving DecidableEq

/-- A signed parent-to-child link between exact manifest hashes. -/
structure CausalLink where
  linkId : String
  parentManifestHash : String
  childManifestHash : String
  relation : CausalRelation
  createdAt : Instant
  keyId : String
  signature : String
  parentShape : isDigest parentManifestHash
  childShape : isDigest childManifestHash

/-- A sealed causal graph.  Its acyclicity validator is not used by the gates
modelled here, which look only at its nodes and link signatures. -/
structure CausalEffectGraph where
  graphId : String
  nodeManifestHashes : List String
  links : List CausalLink
  nodesNonempty : nodeManifestHashes ≠ []
  endpointsPresent : ∀ link ∈ links,
    link.parentManifestHash ∈ nodeManifestHashes ∧ link.childManifestHash ∈ nodeManifestHashes

end KarmaSakshi.Domain
