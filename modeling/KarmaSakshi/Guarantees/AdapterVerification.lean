import KarmaSakshi.Adapters.EmailSandbox
import KarmaSakshi.Adapters.PaymentSimulator
import KarmaSakshi.Adapters.SQLiteRow
import KarmaSakshi.Library.Execution

/-!
What a matched verification of an adapter says about the external system.

Each adapter compares the external record with the manifest field by field.  The row
adapter compares all there is; the payment and the email adapter leave fields out, so a
record that was made under the same key for another manifest can pass.
-/

namespace KarmaSakshi.Guarantees

open EffectProgram KarmaSakshi.Domain KarmaSakshi.Engine KarmaSakshi.Adapters

set_option autoImplicit false

section Statement

variable (manifest : EffectManifest)

end Statement

section Proof

variable {manifest : EffectManifest}

end Proof

/-! ### A record of another manifest under the same key -/

namespace Till

def agent : Principal := ⟨"agent-1", .agent, none⟩

def funded : PaymentSimulator where
  balances := fun account => if account = "acct-src" then some 1000 else none
  payments := fun _ => none
  failNext := false
  timeoutNext := false

/-- A refund of 100 under the key of the customer's case. -/
def request (currency reference : String) (fee : Int) : PaymentRequest where
  actor := agent
  principal := agent
  sourceAccount := "acct-src"
  beneficiary := "customer-7"
  amountMinorUnits := 100
  currency := currency
  reference := reference
  feeMinorUnits := fee
  idempotencyKey := "case-7"
  ttlSeconds := 300

def inputs (manifestId : String) : PaymentSimulatorAdapter.PaymentInputs := ⟨0, manifestId, "nonce-1"⟩

def transferDraft : ManifestDraft :=
  PaymentSimulatorAdapter.draft (request "USD" "refund-1" 0) (inputs "manifest-1") 1000
    ⟨"USD", 100, by decide⟩

def otherDraft : ManifestDraft :=
  PaymentSimulatorAdapter.draft (request "EUR" "refund-2" 5) (inputs "manifest-2") 1000
    ⟨"EUR", 105, by decide⟩

theorem transfer_bounds : DraftBounds transferDraft := by decide

theorem other_bounds : DraftBounds otherDraft := by decide

def transfer : EffectManifest := transferDraft.manifest transfer_bounds

/-- The same amount to the same customer, in another currency and under the same key. -/
def other : EffectManifest := otherDraft.manifest other_bounds

/-- The provider once the other manifest was committed. -/
def charged : PaymentSimulator := (PaymentSimulatorAdapter.commit funded other).2

end Till

end KarmaSakshi.Guarantees
