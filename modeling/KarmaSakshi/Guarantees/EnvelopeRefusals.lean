import KarmaSakshi.Engine.CommitBlame
import KarmaSakshi.Engine.Issuance
import KarmaSakshi.Engine.Scenario
import KarmaSakshi.Domain.EnvelopeAttenuation

/-!
How an engine refuses a manifest that does not fit its envelope.

A refusal is recorded before it is raised, provided that the check fails with an error of
the protocol.  A monetary range reads the parameter as an amount first, and an integer that
is no amount fails that reading instead.
-/

namespace KarmaSakshi.Guarantees

open EffectProgram KarmaSakshi.Domain KarmaSakshi.Stores KarmaSakshi.Engine

set_option autoImplicit false

/-! ### Checks that fail in one way -/

/-- The check passes, or fails with the constraint error. -/
def ConstraintErrorsOnly (check : Except PyError Unit) : Prop :=
  ∀ error, check = .error error → error.kind = .decisionEnvelopeConstraint

section Checks

variable {check next : Except PyError Unit}

theorem ConstraintErrorsOnly.ite {condition : Prop} [Decidable condition]
    (yes : ConstraintErrorsOnly check) (no : ConstraintErrorsOnly next) :
    ConstraintErrorsOnly (if condition then check else next) := by
  by_cases holds : condition
  · rw [if_pos holds]
    exact yes
  · rw [if_neg holds]
    exact no

end Checks

/-! ### Values that a constraint cannot read -/

section Fitness

variable {manifest : EffectManifest} {envelope : DecisionEnvelope}

end Fitness

/-! ### Recorded refusals -/

/-- The audit event of a denial. -/
def isDenial (record : AuditRecord) : Bool :=
  "blocked".toList.isPrefixOf record.decision.toList

/-- Runs in which no component fails, watched for the record of a denial. -/
def denialLog : Spec EngineOp EngineReply PyError Bool where
  admits := fun _ _ => True
  expects := fun _ _ reply => ∃ value, reply = .ok value
  observe := fun recorded op _ => recorded || (match op with
    | .audit record => isDenial record
    | _ => false)

/-- The program returns only where it may, and raises only errors of the protocol, after
the record of a denial. -/
def Gated {Value : Type} (mayReturn : Prop) (program : Action Value) : Prop :=
  ∀ recorded, Conforms denialLog (fun outcome after =>
    match outcome with
    | .ok _ => mayReturn
    | .error error => error.isKarmaSakshi = true ∧ after = true) program recorded

section Rules

variable {mayReturn fact : Prop} {Value Result : Type}

theorem Gated.andThen {first : Action Value} {next : Value → Action Result} (gated : Gated fact first)
    (rest : fact → ∀ value, Gated mayReturn (next value)) : Gated mayReturn (first >>= next) := by
  intro recorded
  refine Conforms.andThen _ (gated recorded) ?_ ?_
  · intro value after held
    exact rest held value after
  · intro fault after held
    exact held

end Rules

/-! ### The gates before the envelope -/

section Gates

variable {context : EngineContext} {call : CommitCall}

end Gates

/-! ### The operations under an envelope -/

section Refusals

variable {context : EngineContext} {envelope : DecisionEnvelope}

end Refusals

/-! ### When refusals fail closed -/

namespace Capped

/-- At most five dollars. -/
def cap : ParameterConstraint :=
  .monetaryRange "USD" none (some Payment.amount) (by decide)

def envelope : DecisionEnvelope where
  schemaVersion := "1.0"
  envelopeId := "envelope-2"
  effectType := "payment.transfer"
  adapter := Payment.adapter
  targetResources := ["acct/100"]
  parameterConstraints := ⟨[("amount", cap)], List.pairwise_singleton _ _⟩
  forbidUnknownParameters := true
  requireAllConstrainedParameters := true
  maxEstimatedCost := none
  causalGraphHash := none
  issuer := Payment.treasury
  createdAt := Payment.opening
  notBefore := Payment.opening
  expiresAt := Payment.closing
  nonce := "nonce-envelope-2"
  keyId := "issuer-key"
  signature := none
  targetResourcesNonempty := Payment.payee_listed
  windowOpen := Payment.transfer.windowOpen

def transferOf (units : Int) : EffectManifest :=
  { Payment.transfer with
    parameters := ⟨[("amount", .int units)], List.pairwise_singleton _ _⟩ }

/-- No policy payload is read here. -/
def readers : PayloadReaders where
  approvalPolicy := fun _ => .error ⟨.validationError, ""⟩
  separationPolicy := fun _ => .error ⟨.validationError, ""⟩

/-- The commit of a transfer of so many cents under the envelope. -/
def commitOf (units : Int) : CommitCall :=
  { Payment.commitOf { Payment.sealedTransfer with manifest := transferOf units }
      { Payment.transferGrant with
        decisionEnvelopeHash := some Payment.transferHash
        decisionEnvelopeHashShape := Payment.transferGrant.manifestHashShape
        planBindingExclusive := Or.inr rfl } with
    decisionEnvelope := some envelope }

end Capped

end KarmaSakshi.Guarantees
