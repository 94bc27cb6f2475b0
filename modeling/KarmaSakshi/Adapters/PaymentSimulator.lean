import KarmaSakshi.Domain.ManifestDraft
import KarmaSakshi.Engine.Operations

/-!
The payment simulator and its adapter.

The simulator lives in one process and is the external system: every method takes its
state and gives the next one.  The clock and the fresh identifiers are inputs.
-/

namespace KarmaSakshi.Adapters

open KarmaSakshi.Domain KarmaSakshi.Engine

set_option autoImplicit false

inductive PaymentStatus : Type where
  | settled
  | failed
  deriving DecidableEq

def PaymentStatus.value : PaymentStatus → String
  | settled => "settled"
  | failed => "failed"

structure PaymentRecord where
  providerIdempotencyKey : String
  beneficiary : String
  amountMinorUnits : Int
  currency : String
  feeMinorUnits : Int
  status : PaymentStatus
  reference : String
  deriving DecidableEq

structure PaymentRequest where
  actor : Principal
  principal : Principal
  sourceAccount : String
  beneficiary : String
  amountMinorUnits : Int
  currency : String
  reference : String
  feeMinorUnits : Int
  idempotencyKey : String
  ttlSeconds : Int

/-- One call of `submit_payment`. -/
structure PaymentOrder where
  providerIdempotencyKey : String
  sourceAccount : String
  beneficiary : String
  amountMinorUnits : Int
  currency : String
  feeMinorUnits : Int
  reference : String

structure PaymentSimulator where
  balances : String → Option Int
  payments : String → Option PaymentRecord
  failNext : Bool
  timeoutNext : Bool

namespace PaymentSimulator

variable (simulator : PaymentSimulator)

def getBalance (account : String) : Int := (simulator.balances account).getD 0

def fundAccount (account : String) (minorUnits : Int) : PaymentSimulator :=
  { simulator with
    balances := Function.update simulator.balances account
      (some (simulator.getBalance account + minorUnits)) }

def injectFailure : PaymentSimulator := { simulator with failNext := true }

def injectAmbiguousTimeout : PaymentSimulator := { simulator with timeoutNext := true }

def getPayment (key : String) : Option PaymentRecord := simulator.payments key

def recordOf (order : PaymentOrder) (status : PaymentStatus) : PaymentRecord where
  providerIdempotencyKey := order.providerIdempotencyKey
  beneficiary := order.beneficiary
  amountMinorUnits := order.amountMinorUnits
  currency := order.currency
  feeMinorUnits := order.feeMinorUnits
  status := status
  reference := order.reference

/-- The payment under its key. -/
def recorded (order : PaymentOrder) (status : PaymentStatus) : PaymentSimulator :=
  { simulator with
    payments := Function.update simulator.payments order.providerIdempotencyKey
      (some (recordOf order status)) }

def submitPayment (order : PaymentOrder) : Except PyError PaymentRecord × PaymentSimulator :=
  match simulator.payments order.providerIdempotencyKey with
  | some existing => (.ok existing, simulator)
  | none =>
      let total := order.amountMinorUnits + order.feeMinorUnits
      if simulator.failNext then
        (.ok (recordOf order .failed),
          { simulator with failNext := false }.recorded order .failed)
      else if simulator.getBalance order.sourceAccount < total then
        (.ok (recordOf order .failed), simulator.recorded order .failed)
      else
        match simulator.balances order.sourceAccount with
        | none => (.error ⟨.other "KeyError", pyRepr order.sourceAccount⟩, simulator)
        | some held =>
            let settled := { simulator with
              balances := Function.update simulator.balances order.sourceAccount
                (some (held - total)) }.recorded order .settled
            -- The payment settled, but the caller never learns that from this call.
            if settled.timeoutNext then
              (.error ⟨.other "TimeoutError", "simulated network timeout after settlement"⟩,
                { settled with timeoutNext := false })
            else (.ok (recordOf order .settled), settled)

end PaymentSimulator

namespace PaymentSimulatorAdapter

def identity : AdapterIdentity := ⟨"payment.simulator", "1.0.0"⟩

/-- What `prepare` takes from its surroundings. -/
structure PaymentInputs where
  now : Instant
  manifestId : String
  nonce : String

def preparedParameters (request : PaymentRequest) : Dict ParameterValue :=
  Dict.ofItems [("source_account", .text request.sourceAccount),
    ("beneficiary", .text request.beneficiary),
    ("amount_minor_units", .int request.amountMinorUnits),
    ("currency", .text request.currency),
    ("fee_minor_units", .int request.feeMinorUnits),
    ("reference", .text request.reference)]

def draft (request : PaymentRequest) (inputs : PaymentInputs) (balance : Int)
    (cost : MonetaryAmount) : ManifestDraft where
  manifestId := inputs.manifestId
  effectType := "payment.transfer"
  actor := request.actor
  principal := request.principal
  adapter := identity
  targetResource := "payment:beneficiary/" ++ request.beneficiary
  parameters := preparedParameters request
  beforeStateDigest := none
  stateFingerprint := some ⟨.providerStatus, "balance:" ++ toString balance⟩
  risk := .high
  reversibility := .compensatable
  blastRadius := .singleResource
  estimatedCost := some cost
  idempotencyKey := textOr request.idempotencyKey ("payment-" ++ request.reference)
  createdAt := inputs.now
  expiresAt := inputs.now + request.ttlSeconds * microsPerSecond
  nonce := inputs.nonce
  metadata := Dict.empty

def prepare (simulator : PaymentSimulator) (request : PaymentRequest) (inputs : PaymentInputs) :
    Except PyError EffectManifest := do
  let balance := simulator.getBalance request.sourceAccount
  let cost ← monetaryAmount request.currency (request.amountMinorUnits + request.feeMinorUnits)
  (draft request inputs balance cost).build

/-- `int(value.removeprefix("balance:"))`. -/
def expectedBalance (manifest : EffectManifest) : Except PyError Int :=
  match manifest.stateFingerprint with
  | none => .error ⟨.other "AssertionError", ""⟩
  | some fingerprint =>
      let digits := String.ofList (if "balance:".toList <+: fingerprint.value.toList
        then fingerprint.value.toList.drop 8 else fingerprint.value.toList)
      match digits.toInt? with
      | some balance => .ok balance
      | none => .error ⟨.other "ValueError",
          "invalid literal for int() with base 10: " ++ pyRepr digits⟩

def validatePreconditions (simulator : PaymentSimulator) (manifest : EffectManifest) :
    Except PyError PreconditionResult := do
  let expected ← expectedBalance manifest
  let account ← manifest.textParameter "source_account"
  let current := simulator.getBalance account
  if current ≠ expected then
    return ⟨false,
      some ("source account balance changed since prepare: expected " ++ toString expected ++
        ", observed " ++ toString current),
      some ⟨.providerStatus, "balance:" ++ toString current⟩⟩
  let total := (← manifest.intParameter "amount_minor_units") +
    (← manifest.intParameter "fee_minor_units")
  if current < total then return ⟨false, some "insufficient balance", none⟩
  return ⟨true, none, none⟩

/-- The order a manifest asks for. -/
def orderOf (manifest : EffectManifest) : Except PyError PaymentOrder := do
  return { providerIdempotencyKey := manifest.idempotencyKey
           sourceAccount := ← manifest.textParameter "source_account"
           beneficiary := ← manifest.textParameter "beneficiary"
           amountMinorUnits := ← manifest.intParameter "amount_minor_units"
           currency := ← manifest.textParameter "currency"
           feeMinorUnits := ← manifest.intParameter "fee_minor_units"
           reference := ← manifest.textParameter "reference" }

/-- What `commit` makes of the provider's answer; only a timeout is caught. -/
def reportPayment (manifest : EffectManifest) (answer : Except PyError PaymentRecord) :
    Except PyError CommitResult :=
  match answer with
  | .error error =>
      if error.kind = .other "TimeoutError" then
        .ok ⟨false, manifest.idempotencyKey, none,
          some ("ambiguous: request timed out, outcome unknown -- call verify() or " ++
            "engine.recover_ambiguous_commit() before retrying"), none⟩
      else .error error
  | .ok record =>
      if record.status = .failed then
        .ok ⟨false, manifest.idempotencyKey, none, some "payment failed", none⟩
      else .ok ⟨true, manifest.idempotencyKey, some record.reference, none,
        some ("settled:" ++ record.providerIdempotencyKey)⟩

def commit (simulator : PaymentSimulator) (manifest : EffectManifest) :
    Except PyError CommitResult × PaymentSimulator :=
  match orderOf manifest with
  | .error error => (.error error, simulator)
  | .ok order =>
      let (answer, after) := simulator.submitPayment order
      (reportPayment manifest answer, after)

/-- The comparison of `verify`, cut short like Python's `and`. -/
def matchesRecord (manifest : EffectManifest) (record : PaymentRecord) : Except PyError Bool := do
  if record.status ≠ .settled then return false
  if record.amountMinorUnits ≠ (← manifest.intParameter "amount_minor_units") then return false
  return record.beneficiary == (← manifest.textParameter "beneficiary")

def verify (simulator : PaymentSimulator) (manifest : EffectManifest) (now : Instant) :
    Except PyError OutcomeProof :=
  match simulator.getPayment manifest.idempotencyKey with
  | none => .ok ⟨false, now, none, some "no payment record found for this idempotency key"⟩
  | some record => do
      let matched ← matchesRecord manifest record
      return ⟨matched, now, some ("settled:" ++ record.providerIdempotencyKey),
        some ("provider status: " ++ record.status.value)⟩

def compensate (simulator : PaymentSimulator) (manifest : EffectManifest) : CompensationResult :=
  match simulator.getPayment manifest.idempotencyKey with
  | none => ⟨false, false, some "nothing to compensate", none⟩
  | some record =>
      if record.status = .failed then ⟨false, false, some "nothing to compensate", none⟩
      else ⟨true, false,
        some ("settled transfers cannot be reversed by this simulator; a real reversing " ++
          "payment would be required, and providers do not guarantee one succeeds"), none⟩

/-! ### What a prepared manifest says -/

section Prepared

variable {simulator : PaymentSimulator} {request : PaymentRequest} {inputs : PaymentInputs}
  {manifest : EffectManifest}

end Prepared

end PaymentSimulatorAdapter

end KarmaSakshi.Adapters
