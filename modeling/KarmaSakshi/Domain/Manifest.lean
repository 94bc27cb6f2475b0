import KarmaSakshi.Domain.Values

/-!
The effect manifest, its seal and the execution grant.

The records carry the checks of their pydantic validators as fields, so a value
that the constructors would reject cannot be built.
-/

namespace KarmaSakshi.Domain

set_option autoImplicit false

inductive PrincipalType : Type where
  | human
  | service
  | agent
  deriving DecidableEq

/-- A human, service or agent identity. -/
structure Principal where
  principalId : String
  principalType : PrincipalType
  displayName : Option String
  deriving DecidableEq

structure AdapterIdentity where
  adapterId : String
  adapterVersion : String
  deriving DecidableEq

/-- An exact monetary amount in integer minor units. -/
structure MonetaryAmount where
  currency : String
  minorUnits : Nat
  bounded : minorUnits ≤ 10 ^ 15
  deriving DecidableEq

/-- `str(amount)`. -/
def MonetaryAmount.text (amount : MonetaryAmount) : String :=
  amount.currency ++ " " ++ toString amount.minorUnits

inductive StateFingerprintKind : Type where
  | rowVersion
  | etag
  | revision
  | updatedAtDigest
  | contentHash
  | providerStatus
  | custom
  deriving DecidableEq

structure StateFingerprint where
  kind : StateFingerprintKind
  value : String
  deriving DecidableEq

structure Precondition where
  description : String
  fingerprint : StateFingerprint
  deriving DecidableEq

inductive RiskClassification : Type where
  | low
  | medium
  | high
  | critical
  deriving DecidableEq

inductive ReversibilityClassification : Type where
  | reversible
  | compensatable
  | irreversible
  deriving DecidableEq

inductive BlastRadiusClassification : Type where
  | singleResource
  | boundedSet
  | broad
  | unbounded
  deriving DecidableEq

/-- `str | int | bool | None`. -/
inductive ParameterValue : Type where
  | text (value : String)
  | int (value : Int)
  | bool (value : Bool)
  | none
  deriving DecidableEq

namespace ParameterValue

/-- Python's `==`, under which `True` is `1` and `False` is `0`. -/
def pyEqual : ParameterValue → ParameterValue → Bool
  | text left, text right => left == right
  | int left, int right => left == right
  | bool left, bool right => left == right
  | int left, bool right => left == (if right then 1 else 0)
  | bool left, int right => (if left then 1 else 0) == right
  | none, none => true
  | _, _ => false

/-- `type(value).__name__`. -/
def typeName : ParameterValue → String
  | text _ => "str"
  | int _ => "int"
  | bool _ => "bool"
  | none => "NoneType"

/-- `repr(value)`. -/
def repr : ParameterValue → String
  | text value => pyRepr value
  | int value => toString value
  | bool value => if value then "True" else "False"
  | none => "None"

end ParameterValue

/-- The exact resolved effect an agent proposes to execute. -/
structure EffectManifest where
  schemaVersion : String
  manifestId : String
  effectType : String
  actor : Principal
  principal : Principal
  adapter : AdapterIdentity
  targetResource : String
  parameters : Dict ParameterValue
  beforeStateDigest : Option String
  expectedAfterStateDigest : Option String
  stateFingerprint : Option StateFingerprint
  preconditions : List Precondition
  risk : RiskClassification
  reversibility : ReversibilityClassification
  blastRadius : BlastRadiusClassification
  estimatedCost : Option MonetaryAmount
  idempotencyKey : String
  createdAt : Instant
  expiresAt : Instant
  nonce : String
  parentManifestId : Option String
  metadata : Dict String
  manifestIdBounded : boundedText 128 manifestId
  idempotencyKeyBounded : boundedText 128 idempotencyKey
  nonceBounded : boundedText 128 nonce
  effectTypeBounded : boundedText 128 effectType
  targetResourceBounded : boundedText 512 targetResource
  windowOpen : createdAt < expiresAt
  deriving DecidableEq

/-- Signature metadata binding a signer to one exact manifest hash. -/
structure Seal where
  keyId : String
  manifestHash : String
  signature : String
  sealedAt : Instant
  keyIdBounded : boundedText 128 keyId
  manifestHashShape : isDigest manifestHash
  deriving DecidableEq

structure SealedManifest where
  manifest : EffectManifest
  «seal» : Seal
  deriving DecidableEq

/-- An allow-list is `none` when unrestricted, and never explicitly empty. -/
def allowListShape (allowed : Option (List String)) : Prop := allowed ≠ some []

instance (allowed : Option (List String)) : Decidable (allowListShape allowed) :=
  inferInstanceAs (Decidable (_ ≠ _))

/-- The narrowable dimensions of authority carried by a grant. -/
structure ScopeConstraints where
  targetResources : Option (List String)
  recipients : Option (List String)
  maxAmount : Option MonetaryAmount
  allowedFields : Option (List String)
  environments : Option (List String)
  targetResourcesShape : allowListShape targetResources
  recipientsShape : allowListShape recipients
  allowedFieldsShape : allowListShape allowedFields
  environmentsShape : allowListShape environments
  deriving DecidableEq

def hashFieldShape (hash : Option String) : Prop := ∀ digest ∈ hash, isDigest digest

instance (hash : Option String) : Decidable (hashFieldShape hash) :=
  match hash with
  | none => isTrue (fun _ absent => nomatch absent)
  | some digest =>
      decidable_of_iff (isDigest digest)
        ⟨fun shape _ same => Option.mem_some_iff.mp same ▸ shape,
          fun shape => shape digest rfl⟩

/-- A signed authorization.  `signature` is not part of what is signed. -/
structure ExecutionGrant where
  schemaVersion : String
  grantId : String
  manifestHash : Option String
  policyBundleHash : Option String
  approvalSetHash : Option String
  decisionEnvelopeHash : Option String
  causalGraphHash : Option String
  authorityBudgetId : Option String
  issuer : Principal
  subject : Principal
  audience : List String
  allowedEffectTypes : List String
  scope : ScopeConstraints
  issuedAt : Instant
  notBefore : Instant
  expiresAt : Instant
  maxUses : Nat
  nonce : String
  parentGrantId : Option String
  keyId : String
  signature : Option String
  grantIdBounded : boundedText 128 grantId
  nonceBounded : boundedText 128 nonce
  keyIdBounded : boundedText 128 keyId
  budgetIdBounded : ∀ budget ∈ authorityBudgetId, boundedText 128 budget
  manifestHashShape : hashFieldShape manifestHash
  policyBundleHashShape : hashFieldShape policyBundleHash
  approvalSetHashShape : hashFieldShape approvalSetHash
  decisionEnvelopeHashShape : hashFieldShape decisionEnvelopeHash
  causalGraphHashShape : hashFieldShape causalGraphHash
  audienceNonempty : audience ≠ []
  allowedEffectTypesNonempty : allowedEffectTypes ≠ []
  maxUsesPositive : 1 ≤ maxUses
  windowOpen : notBefore < expiresAt
  planBindingExclusive : decisionEnvelopeHash = none ∨ causalGraphHash = none
  deriving DecidableEq

end KarmaSakshi.Domain
