import Mathlib.Algebra.Order.Group.Int
import Mathlib.Algebra.Ring.Nat
import Mathlib.Tactic.Common

/-!
Values shared by the whole protocol: exceptions, timestamps, and the text forms
that error messages and audit metadata are written in.
-/

namespace KarmaSakshi.Domain

set_option autoImplicit false

/-- The exception classes the modelled code raises or tells apart.  Everything
else a component may raise is `other`, which is not a `KarmaSakshiError`. -/
inductive ErrorClass : Type where
  | manifestTampered
  | schemaVersion
  | unknownKey
  | invalidSignature
  | grantExpired
  | grantNotYetValid
  | grantRevoked
  | grantExhausted
  | grantManifestMismatch
  | grantAudience
  | delegationLineage
  | constraintWidening
  | incomparableConstraint
  | illegalTransition
  | staleManifest
  | storeUnavailable
  | auditWrite
  | auditTampered
  | decisionEnvelopeConstraint
  | decisionEnvelopeMismatch
  | decisionEnvelopeNotYetValid
  | decisionEnvelopeExpired
  | atomicPlan
  | compensationBinding
  | authorityBudget
  | authorityBudgetExhausted
  | policyBundleTampered
  | policyBundleNotYetEffective
  | policyBundleExpired
  | policyBundleTypeMismatch
  | policyBundleMismatch
  | adapterMismatch
  | untrustedAdapter
  | tenantIsolation
  | outboxConflict
  | grantIssuerNotAuthorized
  | approvalExpired
  | approvalBatchTooLarge
  | quorumNotMet
  | separationOfDutyViolation
  | roleAssignment
  | sagaPlan
  | sagaOrdering
  | sagaIllegalTransition
  | sagaAmbiguousStep
  | sagaGraphMismatch
  | causalGraph
  | keyLoad
  | evidencePackAssembly
  | evidencePackTooLarge
  | blastRadiusExceeded
  | recipientNotAllowed
  | unknownTenant
  | invalidOrganizationId
  | organizationNotFound
  | organizationAlreadyExists
  | organizationSuspended
  | gatewayMigration
  | gatewayUserNotFound
  | gatewayUserAlreadyExists
  | gatewayAgentNotFound
  | gatewayAgentAlreadyExists
  | gatewayAdapterNotFound
  | gatewayAdapterAlreadyExists
  | gatewayAuthentication
  | delegation
  | decisionEnvelopeSubstitution
  | evidenceBatchTooLarge
  | witnessBatchTooLarge
  | witnessExpired
  | rateLimitExceeded
  | runtimeError
  | validationError
  | httpException (status : Nat)
  | other (name : String)
  deriving DecidableEq, Repr

/-- `type(exc).__name__`. -/
def ErrorClass.name : ErrorClass → String
  | manifestTampered => "ManifestTamperedError"
  | schemaVersion => "SchemaVersionError"
  | unknownKey => "UnknownKeyError"
  | invalidSignature => "InvalidSignatureError"
  | grantExpired => "GrantExpiredError"
  | grantNotYetValid => "GrantNotYetValidError"
  | grantRevoked => "GrantRevokedError"
  | grantExhausted => "GrantExhaustedError"
  | grantManifestMismatch => "GrantManifestMismatchError"
  | grantAudience => "GrantAudienceError"
  | delegationLineage => "DelegationLineageError"
  | constraintWidening => "ConstraintWideningError"
  | incomparableConstraint => "IncomparableConstraintError"
  | illegalTransition => "IllegalTransitionError"
  | staleManifest => "StaleManifestError"
  | storeUnavailable => "StoreUnavailableError"
  | auditWrite => "AuditWriteError"
  | auditTampered => "AuditTamperedError"
  | decisionEnvelopeConstraint => "DecisionEnvelopeConstraintError"
  | decisionEnvelopeMismatch => "DecisionEnvelopeMismatchError"
  | decisionEnvelopeNotYetValid => "DecisionEnvelopeNotYetValidError"
  | decisionEnvelopeExpired => "DecisionEnvelopeExpiredError"
  | atomicPlan => "AtomicPlanError"
  | compensationBinding => "CompensationBindingError"
  | authorityBudget => "AuthorityBudgetError"
  | authorityBudgetExhausted => "AuthorityBudgetExhaustedError"
  | policyBundleTampered => "PolicyBundleTamperedError"
  | policyBundleNotYetEffective => "PolicyBundleNotYetEffectiveError"
  | policyBundleExpired => "PolicyBundleExpiredError"
  | policyBundleTypeMismatch => "PolicyBundleTypeMismatchError"
  | policyBundleMismatch => "PolicyBundleMismatchError"
  | adapterMismatch => "AdapterMismatchError"
  | untrustedAdapter => "UntrustedAdapterError"
  | tenantIsolation => "TenantIsolationError"
  | outboxConflict => "OutboxConflictError"
  | grantIssuerNotAuthorized => "GrantIssuerNotAuthorizedError"
  | approvalExpired => "ApprovalExpiredError"
  | approvalBatchTooLarge => "ApprovalBatchTooLargeError"
  | quorumNotMet => "QuorumNotMetError"
  | separationOfDutyViolation => "SeparationOfDutyViolationError"
  | roleAssignment => "RoleAssignmentError"
  | sagaPlan => "SagaPlanError"
  | sagaOrdering => "SagaOrderingError"
  | sagaIllegalTransition => "SagaIllegalTransitionError"
  | sagaAmbiguousStep => "SagaAmbiguousStepError"
  | sagaGraphMismatch => "SagaGraphMismatchError"
  | causalGraph => "CausalGraphError"
  | keyLoad => "KeyLoadError"
  | evidencePackAssembly => "EvidencePackAssemblyError"
  | evidencePackTooLarge => "EvidencePackTooLargeError"
  | blastRadiusExceeded => "BlastRadiusExceededError"
  | recipientNotAllowed => "RecipientNotAllowedError"
  | unknownTenant => "UnknownTenantError"
  | invalidOrganizationId => "InvalidOrganizationIdError"
  | organizationNotFound => "OrganizationNotFoundError"
  | organizationAlreadyExists => "OrganizationAlreadyExistsError"
  | organizationSuspended => "OrganizationSuspendedError"
  | gatewayMigration => "GatewayMigrationError"
  | gatewayUserNotFound => "GatewayUserNotFoundError"
  | gatewayUserAlreadyExists => "GatewayUserAlreadyExistsError"
  | gatewayAgentNotFound => "GatewayAgentNotFoundError"
  | gatewayAgentAlreadyExists => "GatewayAgentAlreadyExistsError"
  | gatewayAdapterNotFound => "GatewayAdapterNotFoundError"
  | gatewayAdapterAlreadyExists => "GatewayAdapterAlreadyExistsError"
  | gatewayAuthentication => "GatewayAuthenticationError"
  | delegation => "DelegationError"
  | decisionEnvelopeSubstitution => "DecisionEnvelopeSubstitutionError"
  | evidenceBatchTooLarge => "EvidenceBatchTooLargeError"
  | witnessBatchTooLarge => "WitnessBatchTooLargeError"
  | witnessExpired => "WitnessExpiredError"
  | rateLimitExceeded => "RateLimitExceededError"
  | runtimeError => "RuntimeError"
  | validationError => "ValidationError"
  | httpException _ => "HTTPException"
  | other name => name

/-- Membership in the `KarmaSakshiError` hierarchy. -/
def ErrorClass.isKarmaSakshi : ErrorClass → Bool
  | runtimeError | validationError | httpException _ | other _ => false
  | _ => true

structure PyError where
  kind : ErrorClass
  message : String
  deriving DecidableEq, Repr

namespace PyError

/-- `except KarmaSakshiError`. -/
def isKarmaSakshi (error : PyError) : Bool := error.kind.isKarmaSakshi

/-- `except StoreUnavailableError`. -/
def isStoreUnavailable (error : PyError) : Bool := error.kind == .storeUnavailable

/-- `except AuthorityBudgetError`, whose only subclass is the exhausted one. -/
def isAuthorityBudget (error : PyError) : Bool :=
  error.kind == .authorityBudget || error.kind == .authorityBudgetExhausted

/-- `except (GrantRevokedError, DelegationLineageError)`. -/
def isLineageRefusal (error : PyError) : Bool :=
  error.kind == .grantRevoked || error.kind == .delegationLineage

/-- `except (OutboxConflictError, StoreUnavailableError)`. -/
def isOutboxRefusal (error : PyError) : Bool :=
  error.kind == .outboxConflict || error.kind == .storeUnavailable

/-- The audit decision `f"blocked_{type(exc).__name__}"`. -/
def blockedDecision (error : PyError) : String := "blocked_" ++ error.kind.name

end PyError

/-! ### Checks in sequence -/

section Sequence

variable {First Second : Type}

theorem except_bind_ok {first : Except PyError First} {next : First → Except PyError Second}
    {result : Second} (returned : first >>= next = .ok result) :
    ∃ value, first = .ok value ∧ next value = .ok result := by
  cases first with
  | error error => cases returned
  | ok value => exact ⟨value, rfl, returned⟩

theorem except_bind_of_ok {first : Except PyError First} {next : First → Except PyError Second}
    {value : First} {result : Second} (held : first = .ok value) (goesOn : next value = .ok result) :
    first >>= next = .ok result := by
  rw [held]
  exact goesOn

theorem except_map_ok {first : Except PyError First} {change : First → Second} {result : Second}
    (returned : first.map change = .ok result) :
    ∃ value, first = .ok value ∧ change value = result := by
  cases first with
  | error error => cases returned
  | ok value => exact ⟨value, rfl, Except.ok.inj returned⟩

end Sequence

/-! ### Text forms -/

private def hexDigit (digit : Nat) : Char :=
  if digit < 10 then Char.ofNat (48 + digit) else Char.ofNat (87 + digit)

private def escapedChar (quote char : Char) : List Char :=
  if char = '\\' then ['\\', '\\']
  else if char = quote then ['\\', quote]
  else if char = '\n' then ['\\', 'n']
  else if char = '\r' then ['\\', 'r']
  else if char = '\t' then ['\\', 't']
  else if char.toNat < 32 ∨ (127 ≤ char.toNat ∧ char.toNat ≤ 160) ∨ char.toNat = 173 then
    ['\\', 'x', hexDigit (char.toNat / 16), hexDigit (char.toNat % 16)]
  else [char]

/-- Python's `repr` of a string, for code points below 256; the unprintable
code points above are left as they are. -/
def pyRepr (text : String) : String :=
  let quote := if '\'' ∈ text.toList ∧ '"' ∉ text.toList then '"' else '\''
  String.ofList (quote :: (text.toList.flatMap (escapedChar quote) ++ [quote]))

private def digitOf (char : Char) : Nat :=
  if char.toNat < 58 then char.toNat - 48 else char.toNat - 87

/-- The first character that an escaped text stands for, and the text after it. -/
private def unescaped : List Char → Option (Char × List Char)
  | '\\' :: 'n' :: rest => some ('\n', rest)
  | '\\' :: 'r' :: rest => some ('\r', rest)
  | '\\' :: 't' :: rest => some ('\t', rest)
  | '\\' :: 'x' :: high :: low :: rest =>
      some (Char.ofNat (16 * digitOf high + digitOf low), rest)
  | '\\' :: char :: rest => some (char, rest)
  | char :: rest => some (char, rest)
  | [] => none

def commaSeparated (items : List String) : String := String.intercalate ", " items

/-- `repr` of a list of strings. -/
def pyReprList (items : List String) : String := "[" ++ commaSeparated (items.map pyRepr) ++ "]"

/-- `repr` of a tuple of strings. -/
def pyReprTuple : List String → String
  | [item] => "(" ++ pyRepr item ++ ",)"
  | items => "(" ++ commaSeparated (items.map pyRepr) ++ ")"

/-- `repr` of an optional string. -/
def pyReprOption : Option String → String
  | none => "None"
  | some text => pyRepr text

/-- `text[:limit]`. -/
def clipped (text : String) (limit : Nat) : String := String.ofList (text.toList.take limit)

/-- `value or fallback` for an optional string: `None` and `""` are falsy. -/
def orElse (value : Option String) (fallback : String) : String :=
  match value with
  | some text => if text = "" then fallback else text
  | none => fallback

/-- `sorted` of distinct strings, by code point. -/
def pySorted (items : List String) : List String := items.mergeSort (fun left right => left ≤ right)

/-- A timezone-aware UTC datetime, in microseconds since the epoch. -/
abbrev Instant := Int

def microsPerSecond : Int := 1000000

private def padded (width : Nat) (value : Nat) : String :=
  let digits := toString value
  String.ofList (List.replicate (width - digits.length) '0') ++ digits

/-- `datetime.isoformat()` of a UTC datetime; the date is the civil date of the
day count. -/
def Instant.isoformat (instant : Instant) : String :=
  let seconds := instant / microsPerSecond
  let micros := (instant % microsPerSecond).toNat
  let clock := (seconds % 86400).toNat
  let shifted := seconds / 86400 + 719468
  let era := shifted / 146097
  let dayOfEra := (shifted % 146097).toNat
  let yearOfEra := (dayOfEra - dayOfEra / 1460 + dayOfEra / 36524 - dayOfEra / 146096) / 365
  let dayOfYear := dayOfEra - (365 * yearOfEra + yearOfEra / 4 - yearOfEra / 100)
  let marchMonth := (5 * dayOfYear + 2) / 153
  let day := dayOfYear - (153 * marchMonth + 2) / 5 + 1
  let month := if marchMonth < 10 then marchMonth + 3 else marchMonth - 9
  let year := (era * 400).toNat + yearOfEra + (if month ≤ 2 then 1 else 0)
  padded 4 year ++ "-" ++ padded 2 month ++ "-" ++ padded 2 day ++ "T" ++
    padded 2 (clock / 3600) ++ ":" ++ padded 2 (clock / 60 % 60) ++ ":" ++
    padded 2 (clock % 60) ++
    (if micros = 0 then "" else "." ++ padded 6 micros) ++ "+00:00"

/-- `str(timedelta(seconds=n))` for less than a day. -/
def durationText (seconds : Nat) : String :=
  toString (seconds / 3600) ++ ":" ++ padded 2 (seconds / 60 % 60) ++ ":" ++ padded 2 (seconds % 60)

/-- `str(timedelta(microseconds=n))`. -/
def timedeltaText (duration : Int) : String :=
  let seconds := duration / microsPerSecond
  let micros := (duration % microsPerSecond).toNat
  let days := seconds / 86400
  (if days = 0 then ""
    else toString days ++ (if days.natAbs = 1 then " day, " else " days, ")) ++
    durationText (seconds % 86400).toNat ++
    (if micros = 0 then "" else "." ++ padded 6 micros)

example : Instant.isoformat 1767225600000000 = "2026-01-01T00:00:00+00:00" := by decide

/-! ### Validated identifiers -/

/-- `1-128 chars`, the bound the models put on most identifiers. -/
def boundedText (limit : Nat) (text : String) : Prop :=
  text ≠ "" ∧ text.length ≤ limit

instance (limit : Nat) (text : String) : Decidable (boundedText limit text) :=
  inferInstanceAs (Decidable (_ ∧ _))

/-- A text is as long as the list of its letters. -/
theorem length_spelled {limit : Nat} {text : String} {letters : List Char}
    (spelled : text = String.ofList letters) (short : letters.length ≤ limit) :
    text.length ≤ limit := by
  rw [spelled, String.length_ofList]
  exact short

theorem bounded_spelled {limit : Nat} {text : String} {first : Char} {letters : List Char}
    (spelled : text = String.ofList (first :: letters)) (short : letters.length + 1 ≤ limit) :
    boundedText limit text := by
  constructor
  · intro empty
    rw [spelled, ← String.ofList_nil] at empty
    exact List.cons_ne_nil _ _ (String.ofList_injective empty)
  · exact length_spelled spelled short

theorem length_joined {first second : String} {firstLimit secondLimit : Nat}
    (firstShort : first.length ≤ firstLimit) (secondShort : second.length ≤ secondLimit) :
    (first ++ second).length ≤ firstLimit + secondLimit := by
  rw [String.length_append]
  exact Nat.add_le_add firstShort secondShort

/-- `sha256:` followed by 64 characters. -/
def isDigest (text : String) : Prop :=
  text.toList.take 7 = "sha256:".toList ∧ text.length = 71

instance (text : String) : Decidable (isDigest text) :=
  inferInstanceAs (Decidable (_ ∧ _))

/-- A string-keyed mapping, by its entries in key order. -/
structure Dict (Value : Type) where
  entries : List (String × Value)
  ordered : (entries.map Prod.fst).Pairwise (· < ·)
  deriving DecidableEq

namespace Dict

variable {Value : Type}

def empty : Dict Value := ⟨[], List.Pairwise.nil⟩

def keys (dict : Dict Value) : List String := dict.entries.map Prod.fst

def get (dict : Dict Value) (key : String) : Option Value := dict.entries.lookup key

end Dict

end KarmaSakshi.Domain
