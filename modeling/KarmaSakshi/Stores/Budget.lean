import KarmaSakshi.Domain.Manifest

/-!
Authority budgets and the in-process ledger that consumes them.

An account keeps what is consumed and what is reserved.  Reservations are only
granted within the limit, so `consumed + reserved ≤ limit` is carried by every
account the ledger can hold.
-/

namespace KarmaSakshi.Stores

open KarmaSakshi.Domain

set_option autoImplicit false

/-- The two shapes of a budget definition with the limits each requires. -/
inductive BudgetKind : Type where
  | monetary (currency : String) (limitMinorUnits : Nat) (positive : 1 ≤ limitMinorUnits)
  | count (limitCount : Nat) (positive : 1 ≤ limitCount)

structure AuthorityBudget where
  schemaVersion : String
  budgetId : String
  kind : BudgetKind
  budgetIdBounded : boundedText 128 budgetId

def AuthorityBudget.limit (budget : AuthorityBudget) : Nat :=
  match budget.kind with
  | .monetary _ limitMinorUnits _ => limitMinorUnits
  | .count limitCount _ => limitCount

/-- How much of `budget` one commit of `manifest` consumes. -/
def resolveBudgetConsumeAmount (budget : AuthorityBudget) (manifest : EffectManifest) :
    Except PyError Nat :=
  match budget.kind with
  | .count _ _ => .ok 1
  | .monetary currency _ _ =>
      match manifest.estimatedCost with
      | none => .error ⟨.authorityBudget, "monetary authority budget " ++ budget.budgetId ++
          " requires manifest.estimated_cost; refuse to invent a consume amount"⟩
      | some cost =>
          if cost.currency ≠ currency then
            .error ⟨.authorityBudget, "manifest estimated_cost currency " ++
              pyRepr cost.currency ++ " does not match authority budget " ++ budget.budgetId ++
              " currency " ++ pyRepr currency⟩
          else if cost.minorUnits < 1 then
            .error ⟨.authorityBudget,
              "monetary authority budget consume requires estimated_cost.minor_units >= 1"⟩
          else .ok cost.minorUnits

theorem resolved_amount_is_positive {budget : AuthorityBudget} {manifest : EffectManifest}
    {amount : Nat} (resolved : resolveBudgetConsumeAmount budget manifest = .ok amount) :
    1 ≤ amount := by
  unfold resolveBudgetConsumeAmount at resolved
  cases shape : budget.kind with
  | count limitCount positive =>
      rw [shape] at resolved
      exact le_of_eq (Except.ok.inj resolved)
  | monetary currency limitMinorUnits positive =>
      rw [shape] at resolved
      cases cost : manifest.estimatedCost with
      | none => simp [cost] at resolved
      | some amountCost =>
          simp only [cost] at resolved
          by_cases mismatch : amountCost.currency ≠ currency
          · simp [mismatch] at resolved
          · by_cases small : amountCost.minorUnits < 1
            · simp [mismatch, small] at resolved
            · simp only [mismatch, small, if_false, Except.ok.injEq] at resolved
              omega

/-! ### The ledger -/

inductive BudgetOp : Type where
  | get (budgetId : String)
  | remaining (budgetId : String)
  | reserve (budgetId : String) (amount : Nat)
  | release (budgetId : String) (amount : Nat)
  | commit (budgetId : String) (amount : Nat)

abbrev BudgetReply : BudgetOp → Type
  | .get _ => AuthorityBudget
  | .remaining _ => Int
  | .reserve _ _ => Bool
  | .release _ _ => Unit
  | .commit _ _ => Unit

/-- A registered budget with its consumption. -/
structure BudgetAccount where
  budget : AuthorityBudget
  consumed : Nat
  reserved : Nat
  withinLimit : consumed + reserved ≤ budget.limit

/-- The account that an operation made of the one it found. -/
structure BudgetAccount.Becomes (before after : BudgetAccount) (consumed reserved : Nat) : Prop where
  budget : after.budget = before.budget
  consumed : after.consumed = consumed
  reserved : after.reserved = reserved

/-- The budget whose account a successful operation may write. -/
def BudgetOp.writes : BudgetOp → Option String
  | .reserve budgetId _ => some budgetId
  | .release budgetId _ => some budgetId
  | .commit budgetId _ => some budgetId
  | _ => none

structure InMemoryBudgetLedger where
  accounts : String → Option BudgetAccount

namespace InMemoryBudgetLedger

variable (ledger : InMemoryBudgetLedger) (budgetId : String) (amount : Nat)

def put (account : BudgetAccount) : InMemoryBudgetLedger :=
  ⟨Function.update ledger.accounts budgetId (some account)⟩

def unknownBudget : PyError := ⟨.authorityBudget, "unknown authority budget " ++ budgetId⟩

/-- The message of a release or commit that exceeds the reservation. -/
def excessive (verb preposition : String) (reserved : Nat) : PyError :=
  ⟨.authorityBudget, "cannot " ++ verb ++ " " ++ toString amount ++ " " ++ preposition ++
    " budget " ++ budgetId ++ " (reserved=" ++ toString reserved ++ ")"⟩

def get : Except PyError AuthorityBudget :=
  match ledger.accounts budgetId with
  | none => .error (unknownBudget budgetId)
  | some account => .ok account.budget

def remaining : Except PyError Int :=
  match ledger.accounts budgetId with
  | none => .error (unknownBudget budgetId)
  | some account => .ok (account.budget.limit - account.consumed - account.reserved)

def reserve : Except PyError Bool × InMemoryBudgetLedger :=
  if amount < 1 then
    (.error ⟨.authorityBudget, "budget reserve amount must be >= 1"⟩, ledger)
  else
    match ledger.accounts budgetId with
    | none => (.error (unknownBudget budgetId), ledger)
    | some account =>
        if fits : account.consumed + account.reserved + amount ≤ account.budget.limit then
          (.ok true, ledger.put budgetId
            { account with
              reserved := account.reserved + amount
              withinLimit := by omega })
        else (.ok false, ledger)

def release : Except PyError Unit × InMemoryBudgetLedger :=
  match ledger.accounts budgetId with
  | none => (.error (unknownBudget budgetId), ledger)
  | some account =>
      if amount < 1 ∨ account.reserved < amount then
        (.error (excessive budgetId amount "release" "from" account.reserved), ledger)
      else (.ok (), ledger.put budgetId
        { account with
          reserved := account.reserved - amount
          withinLimit := by have := account.withinLimit; omega })

def commit : Except PyError Unit × InMemoryBudgetLedger :=
  match ledger.accounts budgetId with
  | none => (.error (unknownBudget budgetId), ledger)
  | some account =>
      if within : amount < 1 ∨ account.reserved < amount then
        (.error (excessive budgetId amount "commit" "on" account.reserved), ledger)
      else (.ok (), ledger.put budgetId
        { account with
          reserved := account.reserved - amount
          consumed := account.consumed + amount
          withinLimit := by have := account.withinLimit; omega })

def serve : (op : BudgetOp) → Except PyError (BudgetReply op) × InMemoryBudgetLedger
  | .get budgetId => (ledger.get budgetId, ledger)
  | .remaining budgetId => (ledger.remaining budgetId, ledger)
  | .reserve budgetId amount => ledger.reserve budgetId amount
  | .release budgetId amount => ledger.release budgetId amount
  | .commit budgetId amount => ledger.commit budgetId amount

/-! ### What one operation does to one account -/

theorem put_self (account : BudgetAccount) :
    (ledger.put budgetId account).accounts budgetId = some account := by
  simp [put]

theorem put_other {other : String} (account : BudgetAccount) (differs : other ≠ budgetId) :
    (ledger.put budgetId account).accounts other = ledger.accounts other := by
  simp [put, differs]

theorem reserve_won (won : (ledger.reserve budgetId amount).1 = .ok true) :
    1 ≤ amount ∧ ∃ account after, ledger.accounts budgetId = some account ∧
      (ledger.reserve budgetId amount).2.accounts budgetId = some after ∧
      account.Becomes after account.consumed (account.reserved + amount) := by
  unfold reserve at *
  by_cases small : amount < 1
  · simp [small] at won
  · simp only [small, if_false] at won ⊢
    cases present : ledger.accounts budgetId with
    | none => simp [present] at won
    | some account =>
        simp only [present] at won ⊢
        by_cases fits : account.consumed + account.reserved + amount ≤ account.budget.limit
        · simp only [fits, dif_pos] at won ⊢
          exact ⟨not_lt.mp small, account, _, rfl, put_self _ _ _, rfl, rfl, rfl⟩
        · simp [fits] at won

theorem release_ok {done : Unit} (released : (ledger.release budgetId amount).1 = .ok done) :
    ∃ account after, ledger.accounts budgetId = some account ∧ amount ≤ account.reserved ∧
      (ledger.release budgetId amount).2.accounts budgetId = some after ∧
      account.Becomes after account.consumed (account.reserved - amount) := by
  unfold release at *
  cases present : ledger.accounts budgetId with
  | none => simp [present] at released
  | some account =>
      simp only [present] at released ⊢
      by_cases excess : amount < 1 ∨ account.reserved < amount
      · rw [if_pos excess] at released
        exact absurd released (by simp)
      · rw [if_neg excess]
        exact ⟨account, _, rfl, by omega, put_self _ _ _, rfl, rfl, rfl⟩

theorem commit_ok {done : Unit} (committed : (ledger.commit budgetId amount).1 = .ok done) :
    ∃ account after, ledger.accounts budgetId = some account ∧ amount ≤ account.reserved ∧
      (ledger.commit budgetId amount).2.accounts budgetId = some after ∧
      account.Becomes after (account.consumed + amount) (account.reserved - amount) := by
  unfold commit at *
  cases present : ledger.accounts budgetId with
  | none => simp [present] at committed
  | some account =>
      simp only [present] at committed ⊢
      by_cases excess : amount < 1 ∨ account.reserved < amount
      · rw [dif_pos excess] at committed
        exact absurd committed (by simp)
      · rw [dif_neg excess]
        exact ⟨account, _, rfl, by omega, put_self _ _ _, rfl, rfl, rfl⟩

theorem serve_other {op : BudgetOp} (elsewhere : op.writes ≠ some budgetId) :
    (ledger.serve op).2.accounts budgetId = ledger.accounts budgetId := by
  cases op with
  | get other => rfl
  | remaining other => rfl
  | reserve other amount =>
      have differs : budgetId ≠ other := fun same => elsewhere (congrArg some same.symm)
      unfold serve reserve
      dsimp only
      split
      · rfl
      · split
        · rfl
        · split
          · exact put_other _ _ _ differs
          · rfl
  | release other amount =>
      have differs : budgetId ≠ other := fun same => elsewhere (congrArg some same.symm)
      unfold serve release
      dsimp only
      split
      · rfl
      · split
        · rfl
        · exact put_other _ _ _ differs
  | commit other amount =>
      have differs : budgetId ≠ other := fun same => elsewhere (congrArg some same.symm)
      unfold serve commit
      dsimp only
      split
      · rfl
      · split
        · rfl
        · exact put_other _ _ _ differs

/-- An operation that raises writes nothing. -/
theorem serve_error {op : BudgetOp} {error : PyError} (raised : (ledger.serve op).1 = .error error) :
    (ledger.serve op).2 = ledger := by
  cases op with
  | get other => rfl
  | remaining other => rfl
  | reserve other amount =>
      unfold serve reserve at *
      dsimp only at *
      split
      · rfl
      · split
        · rfl
        · split
          · simp_all
          · rfl
  | release other amount =>
      unfold serve release at *
      dsimp only at *
      split
      · rfl
      · next account present =>
          by_cases excess : amount < 1 ∨ account.reserved < amount
          · rw [if_pos excess]
          · simp only [present, if_neg excess] at raised
            cases raised
  | commit other amount =>
      unfold serve commit at *
      dsimp only at *
      split
      · rfl
      · next account present =>
          by_cases excess : amount < 1 ∨ account.reserved < amount
          · rw [dif_pos excess]
          · simp only [present, dif_neg excess] at raised
            cases raised

theorem reserve_refused (refused : (ledger.reserve budgetId amount).1 = .ok false) :
    (ledger.reserve budgetId amount).2 = ledger := by
  unfold reserve at *
  split
  · rfl
  · split
    · rfl
    · split
      · simp_all
      · rfl

end InMemoryBudgetLedger

/-- Fail closed without a ledger; otherwise the registered budget. -/
def noLedgerError (budgetId : String) : PyError :=
  ⟨.authorityBudget, "grant binds authority_budget_id=" ++ pyRepr budgetId ++
    " but EngineContext has no budget_ledger; refuse to authorize/commit without a ledger"⟩

end KarmaSakshi.Stores
