import KarmaSakshi.Adapters.PaymentSimulator

/-!
The payment simulator over a whole sequence of calls: what was funded, which orders settled
and what they charged.

Whether an order settled is read off the provider's records before and after its call, so
that an order whose answer was a timeout counts as well.
-/

namespace KarmaSakshi.Adapters

open KarmaSakshi.Domain

set_option autoImplicit false

def PaymentOrder.total (order : PaymentOrder) : Int :=
  order.amountMinorUnits + order.feeMinorUnits

/-- The calls that change the simulator. -/
inductive LedgerCall : Type where
  | fundAccount (account : String) (minorUnits : Int)
  | submitPayment (order : PaymentOrder)
  | injectFailure
  | injectAmbiguousTimeout

def LedgerCall.NonNegative : LedgerCall → Prop
  | fundAccount _ minorUnits => 0 ≤ minorUnits
  | submitPayment order => 0 ≤ order.amountMinorUnits ∧ 0 ≤ order.feeMinorUnits
  | injectFailure => True
  | injectAmbiguousTimeout => True

namespace PaymentSimulator

/-- A new simulator. -/
def opened : PaymentSimulator := ⟨fun _ => none, fun _ => none, false, false⟩

def step (simulator : PaymentSimulator) : LedgerCall → PaymentSimulator
  | .fundAccount account minorUnits => simulator.fundAccount account minorUnits
  | .submitPayment order => (simulator.submitPayment order).2
  | .injectFailure => simulator.injectFailure
  | .injectAmbiguousTimeout => simulator.injectAmbiguousTimeout

def run : PaymentSimulator → List LedgerCall → PaymentSimulator := List.foldl step

/-- The call records a settled payment under a key that had no record. -/
def Settles (simulator : PaymentSimulator) (order : PaymentOrder) : Prop :=
  simulator.getPayment order.providerIdempotencyKey = none ∧
    ((simulator.submitPayment order).2.getPayment order.providerIdempotencyKey).map
      PaymentRecord.status = some .settled

instance (simulator : PaymentSimulator) (order : PaymentOrder) :
    Decidable (simulator.Settles order) :=
  inferInstanceAs (Decidable (_ ∧ _))

def settledBy (simulator : PaymentSimulator) : LedgerCall → List PaymentOrder
  | .submitPayment order => if simulator.Settles order then [order] else []
  | _ => []

/-- The orders that settled along the calls. -/
def settlements : PaymentSimulator → List LedgerCall → List PaymentOrder
  | _, [] => []
  | simulator, call :: rest => simulator.settledBy call ++ settlements (simulator.step call) rest

end PaymentSimulator

/-- What a call funds an account with. -/
def fundedBy (account : String) : LedgerCall → Int
  | .fundAccount funded minorUnits => if funded = account then minorUnits else 0
  | _ => 0

def funded (account : String) (calls : List LedgerCall) : Int :=
  (calls.map (fundedBy account)).sum

/-- Amount plus fee of the orders with this source account. -/
def charged (account : String) (orders : List PaymentOrder) : Int :=
  ((orders.filter (fun order => order.sourceAccount = account)).map PaymentOrder.total).sum

@[simp]
theorem charged_append (account : String) (first second : List PaymentOrder) :
    charged account (first ++ second) = charged account first + charged account second := by
  simp [charged]

@[simp]
theorem charged_nil (account : String) : charged account [] = 0 := rfl

theorem funded_nonnegative {account : String} {call : LedgerCall} (allowed : call.NonNegative) :
    0 ≤ fundedBy account call := by
  cases call with
  | fundAccount target minorUnits =>
      simp only [fundedBy]
      split_ifs
      · exact allowed
      · exact le_refl _
  | submitPayment order => exact le_refl _
  | injectFailure => exact le_refl _
  | injectAmbiguousTimeout => exact le_refl _

namespace PaymentSimulator

variable {simulator : PaymentSimulator} {order : PaymentOrder} {call : LedgerCall}
  {calls : List LedgerCall} {account key : String} {record : PaymentRecord}

theorem get_recorded {status : PaymentStatus} :
    (simulator.recorded order status).getPayment key =
      if key = order.providerIdempotencyKey then some (recordOf order status)
      else simulator.getPayment key := by
  simp [getPayment, recorded, Function.update_apply]

/-- A submitted order either settles, which takes its total out of its source account, or it
leaves every balance as it was. -/
theorem submit_ends (simulator : PaymentSimulator) (order : PaymentOrder) :
    (¬ simulator.Settles order ∧
      (simulator.submitPayment order).2.balances = simulator.balances) ∨
    (simulator.Settles order ∧ order.total ≤ simulator.getBalance order.sourceAccount ∧
      (simulator.submitPayment order).2.balances =
        Function.update simulator.balances order.sourceAccount
          (some (simulator.getBalance order.sourceAccount - order.total))) := by
  unfold Settles submitPayment
  cases present : simulator.payments order.providerIdempotencyKey with
  | some existing => exact .inl ⟨by simp [getPayment, present], rfl⟩
  | none =>
      by_cases failing : simulator.failNext = true
      · exact .inl ⟨by simp [failing, get_recorded, recordOf], by simp [failing, recorded]⟩
      by_cases short : simulator.getBalance order.sourceAccount <
          order.amountMinorUnits + order.feeMinorUnits
      · exact .inl ⟨by simp [failing, short, get_recorded, recordOf],
          by simp [failing, short, recorded]⟩
      · cases held : simulator.balances order.sourceAccount with
        | none => exact .inl ⟨by simp [failing, short, getPayment, present],
            by simp [failing, short]⟩
        | some amount =>
            have balance : simulator.getBalance order.sourceAccount = amount := by
              simp [getBalance, held]
            have covered : ¬ amount < order.amountMinorUnits + order.feeMinorUnits := by
              rwa [balance] at short
            have enough : order.total ≤ simulator.getBalance order.sourceAccount := by
              unfold PaymentOrder.total
              omega
            apply Or.inr
            by_cases timeout : simulator.timeoutNext = true
            · refine ⟨⟨present, ?_⟩, enough, ?_⟩
              · simp [failing, balance, covered, timeout, recorded, getPayment, recordOf]
              · simp [failing, covered, timeout, recorded, balance, PaymentOrder.total]
            · refine ⟨⟨present, ?_⟩, enough, ?_⟩
              · simp [failing, balance, covered, timeout, recorded, getPayment, recordOf]
              · simp [failing, covered, timeout, recorded, balance, PaymentOrder.total]

theorem submit_keeps_record (held : simulator.getPayment key = some record) :
    (simulator.submitPayment order).2.getPayment key = some record := by
  unfold submitPayment
  cases present : simulator.payments order.providerIdempotencyKey with
  | some existing => exact held
  | none =>
      have other : key ≠ order.providerIdempotencyKey := by
        intro same
        rw [same, getPayment, present] at held
        cases held
      dsimp only
      split_ifs with failing short
      · rw [get_recorded, if_neg other]
        exact held
      · rw [get_recorded, if_neg other]
        exact held
      · cases simulator.balances order.sourceAccount with
        | none => exact held
        | some amount =>
            dsimp only
            split_ifs <;> simpa [getPayment, recorded, other] using held

theorem step_keeps_record (held : simulator.getPayment key = some record) :
    (simulator.step call).getPayment key = some record := by
  cases call with
  | submitPayment order => exact submit_keeps_record held
  | fundAccount funded minorUnits => exact held
  | injectFailure => exact held
  | injectAmbiguousTimeout => exact held

/-- A stored record stays as it is. -/
theorem run_keeps_record (held : simulator.getPayment key = some record) :
    (simulator.run calls).getPayment key = some record := by
  induction calls generalizing simulator with
  | nil => exact held
  | cons call rest keeps => exact keeps (step_keeps_record held)

theorem step_balance :
    (simulator.step call).getBalance account =
      simulator.getBalance account + fundedBy account call -
        charged account (simulator.settledBy call) := by
  cases call with
  | fundAccount target minorUnits =>
      by_cases same : target = account
      · subst same
        simp [step, fundAccount, getBalance, fundedBy, settledBy, charged]
      · simp [step, fundAccount, getBalance, fundedBy, settledBy, charged, same, Ne.symm same]
  | submitPayment order =>
      cases submit_ends simulator order with
      | inl kept => simp [step, getBalance, kept.2, fundedBy, settledBy, kept.1, charged]
      | inr settled =>
          by_cases same : order.sourceAccount = account
          · subst same
            simp [step, getBalance, settled.2.2, fundedBy, settledBy, settled.1, charged]
          · simp [step, getBalance, settled.2.2, fundedBy, settledBy, settled.1, charged, same,
              Ne.symm same]
  | injectFailure => simp [step, injectFailure, getBalance, fundedBy, settledBy, charged]
  | injectAmbiguousTimeout =>
      simp [step, injectAmbiguousTimeout, getBalance, fundedBy, settledBy, charged]

/-- The ledger equation along the calls. -/
theorem run_balance :
    (simulator.run calls).getBalance account =
      simulator.getBalance account + funded account calls -
        charged account (simulator.settlements calls) := by
  induction calls generalizing simulator with
  | nil => simp [run, funded, settlements, charged]
  | cons call rest equation =>
      have later : (simulator.run (call :: rest)).getBalance account =
          (simulator.step call).getBalance account + funded account rest -
            charged account ((simulator.step call).settlements rest) := equation
      rw [later, step_balance, settlements, charged_append]
      simp only [funded, List.map_cons, List.sum_cons]
      omega

theorem step_nonnegative (allowed : call.NonNegative)
    (before : ∀ account, 0 ≤ simulator.getBalance account) :
    0 ≤ (simulator.step call).getBalance account := by
  have held := before account
  cases call with
  | fundAccount target minorUnits =>
      have added := @funded_nonnegative account _ allowed
      have settled : simulator.settledBy (.fundAccount target minorUnits) = [] := rfl
      rw [step_balance, settled, charged_nil]
      omega
  | submitPayment order =>
      cases submit_ends simulator order with
      | inl kept => simpa [step, getBalance, kept.2] using held
      | inr settled =>
          by_cases same : account = order.sourceAccount
          · subst same
            have enough := settled.2.1
            have left : (simulator.step (.submitPayment order)).getBalance order.sourceAccount =
                simulator.getBalance order.sourceAccount - order.total := by
              simp [step, getBalance, settled.2.2]
            omega
          · simpa [step, getBalance, settled.2.2, same] using held
  | injectFailure => exact held
  | injectAmbiguousTimeout => exact held

theorem run_nonnegative (allowed : ∀ call ∈ calls, call.NonNegative)
    (before : ∀ account, 0 ≤ simulator.getBalance account) :
    0 ≤ (simulator.run calls).getBalance account := by
  induction calls generalizing simulator with
  | nil => exact before account
  | cons call rest keeps =>
      apply keeps (fun later member => allowed later (List.mem_cons_of_mem _ member))
      intro other
      exact step_nonnegative (allowed call List.mem_cons_self) before

/-- What settles has no record before it. -/
theorem settlements_are_new (settled : order ∈ simulator.settlements calls) :
    simulator.getPayment order.providerIdempotencyKey = none := by
  induction calls generalizing simulator with
  | nil => cases settled
  | cons call rest earlier =>
      cases absent : simulator.getPayment order.providerIdempotencyKey with
      | none => rfl
      | some record =>
          rw [settlements, List.mem_append] at settled
          cases settled with
          | inl now =>
              cases call with
              | submitPayment submitted =>
                  rw [settledBy] at now
                  split_ifs at now with settles
                  · rw [List.mem_singleton.mp now] at absent
                    exact absurd (absent.symm.trans settles.1) (by simp)
                  · cases now
              | fundAccount _ _ => cases now
              | injectFailure => cases now
              | injectAmbiguousTimeout => cases now
          | inr later =>
              have kept : (simulator.step call).getPayment order.providerIdempotencyKey = some record :=
                step_keeps_record absent
              exact absurd (kept.symm.trans (earlier later)) (by simp)

/-- No key settles twice. -/
theorem settlement_keys_distinct :
    ((simulator.settlements calls).map PaymentOrder.providerIdempotencyKey).Nodup := by
  induction calls generalizing simulator with
  | nil => exact List.nodup_nil
  | cons call rest distinct =>
      rw [settlements]
      cases call with
      | submitPayment order =>
          rw [settledBy]
          split_ifs with settles
          · rw [List.singleton_append, List.map_cons, List.nodup_cons]
            constructor
            · intro repeated
              obtain ⟨later, settled, same⟩ := List.mem_map.mp repeated
              have absent := settlements_are_new settled
              rw [same] at absent
              have stored := settles.2
              rw [show (simulator.submitPayment order).2 = simulator.step (.submitPayment order)
                from rfl, absent] at stored
              cases stored
            · exact distinct
          · exact distinct
      | fundAccount _ _ => exact distinct
      | injectFailure => exact distinct
      | injectAmbiguousTimeout => exact distinct

/-- A balance goes down only where an order out of that account settles. -/
theorem debit_settles (allowed : call.NonNegative)
    (lower : (simulator.step call).getBalance account < simulator.getBalance account) :
    ∃ order, call = .submitPayment order ∧ simulator.Settles order ∧
      order.sourceAccount = account := by
  cases call with
  | fundAccount target minorUnits =>
      have added := @funded_nonnegative account _ allowed
      have settled : simulator.settledBy (.fundAccount target minorUnits) = [] := rfl
      rw [step_balance, settled, charged_nil] at lower
      omega
  | submitPayment order =>
      cases submit_ends simulator order with
      | inl kept =>
          rw [step, getBalance, kept.2] at lower
          exact absurd lower (lt_irrefl _)
      | inr settled =>
          refine ⟨order, rfl, settled.1, ?_⟩
          apply Classical.byContradiction
          intro other
          rw [step, getBalance, settled.2.2, Function.update_of_ne (Ne.symm other)] at lower
          exact absurd lower (lt_irrefl _)
  | injectFailure => exact absurd lower (lt_irrefl _)
  | injectAmbiguousTimeout => exact absurd lower (lt_irrefl _)

end PaymentSimulator

end KarmaSakshi.Adapters
