import KarmaSakshi.Adapters.PaymentLedger

/-!
Conservation of the payment simulator's ledger over every sequence of its calls.
-/

namespace KarmaSakshi.Guarantees

open KarmaSakshi.Domain KarmaSakshi.Adapters

set_option autoImplicit false

/-- What holds of a ledger after its calls. -/
structure Conserved (calls : List LedgerCall) : Prop where
  balances : ∀ account, (PaymentSimulator.opened.run calls).getBalance account =
    funded account calls - charged account (PaymentSimulator.opened.settlements calls)
  nonnegative : ∀ account, 0 ≤ (PaymentSimulator.opened.run calls).getBalance account
  debits : ∀ before call after, calls = before ++ call :: after → ∀ account,
    ((PaymentSimulator.opened.run before).step call).getBalance account <
      (PaymentSimulator.opened.run before).getBalance account →
    ∃ order, call = .submitPayment order ∧ order.sourceAccount = account ∧
      (PaymentSimulator.opened.run before).Settles order
  settledOnce : ((PaymentSimulator.opened.settlements calls).map
    PaymentOrder.providerIdempotencyKey).Nodup
  recordsKept : ∀ before after, calls = before ++ after → ∀ key record,
    (PaymentSimulator.opened.run before).getPayment key = some record →
      (PaymentSimulator.opened.run calls).getPayment key = some record

/-- Over every sequence of calls with non-negative amounts and fees, each balance is what was
funded less what settled, none is negative, no key debits twice, a balance goes down only by
a settlement, and no stored record changes. -/
theorem payment_ledger_is_conserved (calls : List LedgerCall)
    (allowed : ∀ call ∈ calls, call.NonNegative) : Conserved calls where
  balances account := by
    rw [PaymentSimulator.run_balance]
    simp [PaymentSimulator.opened, PaymentSimulator.getBalance]
  nonnegative account := by
    apply PaymentSimulator.run_nonnegative allowed
    intro other
    exact le_refl _
  debits before call after split account lower := by
    have permitted : call.NonNegative := allowed call (by simp [split])
    obtain ⟨order, submitted, settles, source⟩ := PaymentSimulator.debit_settles permitted lower
    exact ⟨order, submitted, source, settles⟩
  settledOnce := PaymentSimulator.settlement_keys_distinct
  recordsKept before after split key record held := by
    have joined : PaymentSimulator.opened.run calls =
        (PaymentSimulator.opened.run before).run after := by
      rw [split]
      exact List.foldl_append
    rw [joined]
    exact PaymentSimulator.run_keeps_record held

namespace Rent

/-- Rent of 900 with a fee of 25, under one key. -/
def order : PaymentOrder where
  providerIdempotencyKey := "rent-1"
  sourceAccount := "acct/100"
  beneficiary := "landlord"
  amountMinorUnits := 900
  currency := "EUR"
  feeMinorUnits := 25
  reference := "rent"

/-- The first payment settles but times out; its retry is answered from the records. -/
def calls : List LedgerCall :=
  [.fundAccount "acct/100" 1000, .injectAmbiguousTimeout, .submitPayment order,
    .submitPayment order]

end Rent

/-- A payment that timed out after it settled is charged once. -/
theorem timed_out_rent_is_charged_once :
    Conserved Rent.calls ∧
      (PaymentSimulator.opened.run Rent.calls).getBalance "acct/100" = 75 := by
  constructor
  · apply payment_ledger_is_conserved
    intro call member
    simp only [Rent.calls, List.mem_cons, List.not_mem_nil, or_false] at member
    rcases member with rfl | rfl | rfl | rfl
    · exact (by decide : (0 : Int) ≤ 1000)
    · trivial
    · exact ⟨by decide, by decide⟩
    · exact ⟨by decide, by decide⟩
  · decide

end KarmaSakshi.Guarantees
