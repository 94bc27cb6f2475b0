import KarmaSakshi.Engine.Scenario
import KarmaSakshi.Engine.WorkFrames
import Mathlib.Algebra.Order.BigOperators.Group.Finset
import Mathlib.Data.Fintype.Basic

/-!
Authority budgets are conserved.

What an account has reserved and consumed is what the calls hold and have spent, and what a call
has spent is the cost of an effect that its adapter reported.
-/

namespace KarmaSakshi.Guarantees

open EffectProgram KarmaSakshi.Domain KarmaSakshi.Stores KarmaSakshi.Engine

set_option autoImplicit false

variable {World Caller : Type} [DecidableEq Caller]

/-! ### A shared ledger -/

/-- The callers use one budget ledger. -/
structure SharesBudgetLedger (deployment : Deployment World Caller)
    (ledgerOf : World → InMemoryBudgetLedger) : Prop where
  serves : ∀ caller world (op : BudgetOp) reply after,
    deployment.answers caller world (.budget op) reply after →
      (isError reply = true ∧ ledgerOf after = ledgerOf world) ∨
        (reply = ((ledgerOf world).serve op).1 ∧ ledgerOf after = ((ledgerOf world).serve op).2)
  frames : ∀ caller world op reply after, deployment.answers caller world op reply after →
    (∀ inner, op ≠ .budget inner) → ledgerOf after = ledgerOf world

variable {deployment : Deployment World Caller} {ledgerOf : World → InMemoryBudgetLedger}

theorem SharesBudgetLedger.answer (shared : SharesBudgetLedger deployment ledgerOf)
    {caller : Caller} {world after : World} {inner : BudgetOp}
    {reply : Except PyError (BudgetReply inner)}
    (answered : deployment.answers caller world (.budget inner) reply after) :
    (∃ error, reply = .error error ∧ ledgerOf after = ledgerOf world) ∨
      ∃ value, reply = .ok value ∧ ((ledgerOf world).serve inner).1 = .ok value ∧
        ledgerOf after = ((ledgerOf world).serve inner).2 := by
  rcases shared.serves caller world inner reply after answered with ⟨raised, same⟩ | served
  · cases reply with
    | ok value => cases raised
    | error error => exact Or.inl ⟨error, rfl, same⟩
  · obtain ⟨replied, stored⟩ := served
    cases reply with
    | ok value => exact Or.inr ⟨value, rfl, replied.symm, stored⟩
    | error error =>
        refine Or.inl ⟨error, rfl, stored.trans ?_⟩
        exact InMemoryBudgetLedger.serve_error _ replied.symm

/-! ### One step -/

/-- What a call has reserved of a budget, and what it has consumed. -/
def heldUnder (budgetId : String) : BudgetUse → Nat
  | .held other amount => if other = budgetId then amount else 0
  | _ => 0

def spentUnder (budgetId : String) : BudgetUse → Nat
  | .spent other amount => if other = budgetId then amount else 0
  | _ => 0

/-- An account moves by what the use of one call moves by. -/
structure AccountMoves (budgetId : String) (before after : BudgetUse)
    (account later : BudgetAccount) : Prop where
  budget : later.budget = account.budget
  consumed : later.consumed + spentUnder budgetId before =
    account.consumed + spentUnder budgetId after
  reserved : later.reserved + heldUnder budgetId before =
    account.reserved + heldUnder budgetId after

theorem AccountMoves.refl (budgetId : String) (use : BudgetUse) (account : BudgetAccount) :
    AccountMoves budgetId use use account account := ⟨rfl, rfl, rfl⟩

section Steps

variable {caller : Caller} {world after : World} {op : EngineOp}
  {reply : Except PyError (EngineReply op)} {context : EngineContext} {call : EngineCall}
  {progress : Progress} {subject : String}

/-- Budgets are used by commits. -/
theorem budget_used_by {inner : BudgetOp}
    (admitted : call.admits context progress (.budget inner)) :
    ∃ commit, call = .commit commit ∧ admitsBudget commit progress inner := by
  cases call with
  | commit commit => exact ⟨commit, rfl, admitted⟩
  | recover recovery => exact admitted.2.elim
  | _ => exact admitted.elim

/-- An account that another one is written next to stays as it is. -/
theorem account_elsewhere (ledger : InMemoryBudgetLedger) {inner : BudgetOp} {budgetId : String}
    (elsewhere : inner.writes ≠ some budgetId) {account : BudgetAccount}
    (present : ledger.accounts budgetId = some account) :
    (ledger.serve inner).2.accounts budgetId = some account := by
  rw [InMemoryBudgetLedger.serve_other _ _ elsewhere]
  exact present

theorem served_moves (subject budgetId : String) {commit : CommitCall} {inner : BudgetOp}
    {ledger : InMemoryBudgetLedger} {value : BudgetReply inner}
    (admitted : admitsBudget commit progress inner) (served : (ledger.serve inner).1 = .ok value)
    {account : BudgetAccount} (present : ledger.accounts budgetId = some account) :
    ∃ later, (ledger.serve inner).2.accounts budgetId = some later ∧
      AccountMoves budgetId progress.work.budget
        (progress.work.observe subject (.budget inner) (.ok value)).budget account later := by
  cases inner with
  | get other => exact ⟨account, present, AccountMoves.refl _ _ _⟩
  | remaining other => exact ⟨account, present, AccountMoves.refl _ _ _⟩
  | reserve other amount =>
      cases value with
      | false =>
          refine ⟨account, ?_, AccountMoves.refl _ _ _⟩
          change (ledger.reserve other amount).2.accounts budgetId = _
          rw [InMemoryBudgetLedger.reserve_refused _ _ _ served]
          exact present
      | true =>
          have idle : progress.work.budget = .idle := admitted.2.2.1
          rw [idle]
          change ∃ later, _ ∧ AccountMoves budgetId .idle (.held other amount) account later
          by_cases same : other = budgetId
          · subst same
            obtain ⟨_, found, later, isFound, stored, becomes⟩ :=
              ledger.reserve_won other amount served
            obtain rfl : account = found := Option.some.inj (present.symm.trans isFound)
            refine ⟨later, stored, becomes.budget, ?_, ?_⟩
            · simp [spentUnder, becomes.consumed]
            · simp [heldUnder, becomes.reserved]
          · refine ⟨account, account_elsewhere ledger (by simp [BudgetOp.writes, same]) present,
              rfl, ?_, ?_⟩
            · simp [spentUnder]
            · simp [heldUnder, same]
  | release other amount =>
      rw [admitted.1]
      change ∃ later, _ ∧
        AccountMoves budgetId (.held other amount) (.returned other amount) account later
      by_cases same : other = budgetId
      · subst same
        obtain ⟨found, later, isFound, enough, stored, becomes⟩ :=
          ledger.release_ok other amount served
        obtain rfl : account = found := Option.some.inj (present.symm.trans isFound)
        refine ⟨later, stored, becomes.budget, ?_, ?_⟩
        · simp [spentUnder, becomes.consumed]
        · simp only [heldUnder, if_true, becomes.reserved]
          omega
      · refine ⟨account, account_elsewhere ledger (by simp [BudgetOp.writes, same]) present,
          rfl, ?_, ?_⟩
        · simp [spentUnder]
        · simp [heldUnder, same]
  | commit other amount =>
      rw [admitted.1]
      change ∃ later, _ ∧
        AccountMoves budgetId (.held other amount) (.spent other amount) account later
      by_cases same : other = budgetId
      · subst same
        obtain ⟨found, later, isFound, enough, stored, becomes⟩ :=
          ledger.commit_ok other amount served
        obtain rfl : account = found := Option.some.inj (present.symm.trans isFound)
        refine ⟨later, stored, becomes.budget, ?_, ?_⟩
        · simp [spentUnder, becomes.consumed]
        · simp only [heldUnder, if_true, becomes.reserved]
          omega
      · refine ⟨account, account_elsewhere ledger (by simp [BudgetOp.writes, same]) present,
          rfl, ?_, ?_⟩
        · simp [spentUnder, same]
        · simp [heldUnder, same]

/-- Every answered operation moves an account as it moves the call's own use. -/
theorem account_moves (shared : SharesBudgetLedger deployment ledgerOf) (subject budgetId : String)
    (admitted : call.admits context progress op)
    (answered : deployment.answers caller world op reply after) {account : BudgetAccount}
    (present : (ledgerOf world).accounts budgetId = some account) :
    ∃ later, (ledgerOf after).accounts budgetId = some later ∧
      AccountMoves budgetId progress.work.budget
        (progress.work.observe subject op reply).budget account later := by
  by_cases budgetOp : ∃ inner, op = .budget inner
  · obtain ⟨inner, rfl⟩ := budgetOp
    obtain ⟨commit, rfl, used⟩ := budget_used_by admitted
    rcases shared.answer answered with ⟨error, rfl, same⟩ | ⟨value, rfl, served, stored⟩
    · rw [same]
      have kept : (progress.work.observe subject (.budget inner) (.error error)).budget =
          progress.work.budget := by cases inner <;> rfl
      rw [kept]
      exact ⟨account, present, AccountMoves.refl _ _ _⟩
    · rw [stored]
      exact served_moves subject budgetId used served present
  · have other : ∀ inner, op ≠ .budget inner := fun inner same => budgetOp ⟨inner, same⟩
    rw [shared.frames caller world op reply after answered other,
      (progress.work.observe_keeps subject op reply).budget other]
    exact ⟨account, present, AccountMoves.refl _ _ _⟩

/-- A call uses the budget of its grant, at the cost of its manifest, and has spent it only after
an effect. -/
def UsedWell (commit : CommitCall) (progress : Progress) : BudgetUse → Prop
  | .held budgetId amount => commit.grant.authorityBudgetId = some budgetId ∧
      Charges commit progress.reads budgetId amount
  | .spent budgetId amount => (commit.grant.authorityBudgetId = some budgetId ∧
      Charges commit progress.reads budgetId amount) ∧
        ∃ result, progress.work.adapter = .succeeded result
  | _ => True

theorem used_well_later (subject : String) (reply : Except PyError (EngineReply op))
    {commit : CommitCall} (admitted : commitAdmits context commit progress op)
    {use : BudgetUse} (well : UsedWell commit progress use) :
    UsedWell commit (progress.observe subject op reply) use := by
  have extended := reads_observe_extends progress.reads op reply
  cases use with
  | held budgetId amount => exact ⟨well.1, well.2.extend extended⟩
  | spent budgetId amount =>
      obtain ⟨⟨bound, charges⟩, result, succeeded⟩ := well
      refine ⟨⟨bound, charges.extend extended⟩, result, ?_⟩
      rw [observe_work, answer_lasts subject reply admitted (by simp [succeeded])]
      exact succeeded
  | _ => trivial

theorem used_well_step {commit : CommitCall} (admitted : commitAdmits context commit progress op)
    (well : UsedWell commit progress progress.work.budget) :
    UsedWell commit (progress.observe subject op reply)
      (progress.observe subject op reply).work.budget := by
  have later := used_well_later subject reply admitted well
  by_cases budgetOp : ∃ inner, op = .budget inner
  · obtain ⟨inner, rfl⟩ := budgetOp
    cases reply with
    | error error => cases inner <;> exact later
    | ok value =>
        cases inner with
        | get other => exact later
        | remaining other => exact later
        | reserve other amount =>
            cases value with
            | false => exact later
            | true => exact ⟨admitted.1, admitted.2.1⟩
        | release other amount => trivial
        | commit other amount =>
            rw [admitted.1] at later
            exact ⟨later, admitted.2⟩
  · rw [observe_work, (progress.work.observe_keeps subject op reply).budget
      (fun inner same => budgetOp ⟨inner, same⟩)]
    exact later

end Steps

/-! ### The invariant -/

section Invariant

variable (deployment : Deployment World Caller) (ledgerOf : World → InMemoryBudgetLedger)

def useOf (config : Snapshot World Caller) (caller : Caller) : BudgetUse :=
  (deployment.progress config caller).work.budget

/-- Accounts hold what the calls hold and have spent. -/
structure Balanced [Fintype Caller] (initial : World) (config : Snapshot World Caller) : Prop where
  accounts : ∀ budgetId first, (ledgerOf initial).accounts budgetId = some first →
    ∃ account, (ledgerOf config.world).accounts budgetId = some account ∧
      account.budget = first.budget ∧
      account.consumed =
        first.consumed + ∑ caller, spentUnder budgetId (useOf deployment config caller) ∧
      account.reserved =
        first.reserved + ∑ caller, heldUnder budgetId (useOf deployment config caller)
  reads : ∀ caller budgetId budget first,
    (budgetId, budget) ∈ (deployment.progress config caller).reads.budgets →
      (ledgerOf initial).accounts budgetId = some first → budget = first.budget
  used : ∀ caller commit, deployment.call caller = .commit commit →
    UsedWell commit (deployment.progress config caller) (useOf deployment config caller)
  unused : ∀ caller, (∀ commit, deployment.call caller ≠ .commit commit) →
    useOf deployment config caller = .idle

end Invariant

/-- A sum over the callers in which one summand changes. -/
theorem sum_changes [Fintype Caller] (before after : Caller → Nat) (caller : Caller)
    (elsewhere : ∀ other, other ≠ caller → after other = before other) :
    (∑ other, after other) + before caller = (∑ other, before other) + after caller := by
  rw [← Finset.add_sum_erase _ after (Finset.mem_univ caller),
    ← Finset.add_sum_erase _ before (Finset.mem_univ caller)]
  have rest : ∑ other ∈ Finset.univ.erase caller, after other =
      ∑ other ∈ Finset.univ.erase caller, before other :=
    Finset.sum_congr rfl (fun other listed => elsewhere other (Finset.ne_of_mem_erase listed))
  omega

section Run

variable [Fintype Caller] {initial : World} {config : Snapshot World Caller} {caller : Caller}
  {op : EngineOp} {reply : Except PyError (EngineReply op)}
  {resume : Except PyError (EngineReply op) → Action CallResult} {world : World}

theorem Balanced.answer (shared : SharesBudgetLedger deployment ledgerOf)
    (held : Balanced deployment ledgerOf initial config)
    (admitted : (deployment.call caller).admits (deployment.context caller)
      (deployment.progress config caller) op)
    (answered : deployment.answers caller config.world op reply world) :
    Balanced deployment ledgerOf initial (config.answer caller op resume reply world) := by
  have own : deployment.progress (config.answer caller op resume reply world) caller =
      (deployment.progress config caller).observe (deployment.call caller).subject op reply :=
    deployment.progress_answer_own resume reply world config caller
  have others : ∀ other, other ≠ caller →
      deployment.progress (config.answer caller op resume reply world) other =
        deployment.progress config other :=
    fun other differs => deployment.progress_answer_other resume reply world config differs
  constructor
  · intro budgetId first registered
    obtain ⟨account, present, budget, consumed, reserved⟩ := held.accounts budgetId first registered
    obtain ⟨later, found, moves⟩ := account_moves shared (deployment.call caller).subject budgetId
      admitted answered present
    have uses : ∀ other, other ≠ caller → useOf deployment
        (config.answer caller op resume reply world) other = useOf deployment config other := by
      intro other differs
      rw [useOf, others other differs, useOf]
    have moved : useOf deployment (config.answer caller op resume reply world) caller =
        ((deployment.progress config caller).work.observe (deployment.call caller).subject op
          reply).budget := by
      rw [useOf, own, observe_work]
    have spent := sum_changes
      (fun other => spentUnder budgetId (useOf deployment config other))
      (fun other => spentUnder budgetId (useOf deployment
        (config.answer caller op resume reply world) other)) caller
      (fun other differs => by rw [uses other differs])
    have holding := sum_changes
      (fun other => heldUnder budgetId (useOf deployment config other))
      (fun other => heldUnder budgetId (useOf deployment
        (config.answer caller op resume reply world) other)) caller
      (fun other differs => by rw [uses other differs])
    have consumes := moves.consumed
    have reserves := moves.reserved
    rw [← moved] at consumes reserves
    change _ + spentUnder budgetId (useOf deployment config caller) = _ at consumes
    change _ + heldUnder budgetId (useOf deployment config caller) = _ at reserves
    refine ⟨later, found, moves.budget.trans budget, ?_, ?_⟩
    · omega
    · omega
  · intro other budgetId budget first read registered
    by_cases same : other = caller
    · subst same
      rw [own] at read
      rcases Reads.budget_by_answer _ read with earlier | event
      · exact held.reads other budgetId budget first earlier registered
      · cases event
        obtain ⟨account, present, known, _⟩ := held.accounts budgetId first registered
        rcases shared.answer answered with ⟨_, impossible, _⟩ | ⟨value, replied, served, _⟩
        · cases impossible
        · cases replied
          change (ledgerOf config.world).get budgetId = .ok budget at served
          rw [InMemoryBudgetLedger.get, present] at served
          exact (Except.ok.inj served).symm.trans known
    · rw [others other same] at read
      exact held.reads other budgetId budget first read registered
  · intro other commit call
    by_cases same : other = caller
    · subst same
      rw [useOf, own]
      rw [call] at admitted
      exact used_well_step admitted (held.used other commit call)
    · rw [useOf, others other same]
      exact held.used other commit call
  · intro other noCommit
    by_cases same : other = caller
    · subst same
      rw [useOf, own, observe_work, (Work.observe_keeps _ _ op reply).budget]
      · exact held.unused other noCommit
      · rintro inner rfl
        obtain ⟨commit, call, _⟩ := budget_used_by admitted
        exact noCommit commit call
    · rw [useOf, others other same]
      exact held.unused other noCommit

theorem Balanced.scheduled {after : Snapshot World Caller}
    (held : Balanced deployment ledgerOf initial config)
    (progress : ∀ other, deployment.progress after other = deployment.progress config other)
    (same : after.world = config.world) : Balanced deployment ledgerOf initial after := by
  have uses : ∀ other, useOf deployment after other = useOf deployment config other := by
    intro other
    rw [useOf, progress, useOf]
  constructor
  · intro budgetId first registered
    simp only [same, uses]
    exact held.accounts budgetId first registered
  · intro other
    rw [progress]
    exact held.reads other
  · intro other
    rw [uses, progress]
    exact held.used other
  · intro other
    rw [uses]
    exact held.unused other

theorem balanced_start (initial : World) :
    Balanced deployment ledgerOf initial (Pool.initial initial) := by
  have nothing : ∀ caller, useOf deployment (Pool.initial initial) caller = .idle := fun _ => rfl
  constructor
  · intro budgetId first registered
    refine ⟨first, registered, rfl, ?_, ?_⟩
    · simp [nothing, spentUnder]
    · simp [nothing, heldUnder]
  · intro caller budgetId budget first read
    cases read
  · intro caller commit _
    rw [nothing]
    trivial
  · intro caller _
    exact nothing caller

theorem balanced_reachable (shared : SharesBudgetLedger deployment ledgerOf)
    (reached : deployment.Reachable initial config) :
    Balanced deployment ledgerOf initial config := by
  have keeps : deployment.Keeps (Balanced deployment ledgerOf initial) := by
    constructor
    · intro current caller held _ _ _
      exact held.scheduled (fun other => deployment.progress_start current caller other _) rfl
    · intro current caller op resume reply world held _ _ admitted answered
      exact held.answer shared admitted answered
    · intro current caller outcome held _ _
      exact held.scheduled
        (fun other => deployment.progress_finish current caller other outcome) rfl
  exact (keeps.reachable (balanced_start initial) reached).1

/-! ### Effects and their costs -/

/-- What the effect that a call reported costs under a budget. -/
def effectCost (deployment : Deployment World Caller) (budgetId : String)
    (budget : AuthorityBudget) (config : Snapshot World Caller) (caller : Caller) : Nat :=
  match deployment.call caller, (deployment.progress config caller).work.adapter with
  | .commit commit, .succeeded _ =>
      if commit.grant.authorityBudgetId = some budgetId then
        (resolveBudgetConsumeAmount budget commit.manifest).toOption.getD 0
      else 0
  | _, _ => 0

/-- The call has not begun, or it has ended without a failing component or another call in its
way. -/
def Quiet (deployment : Deployment World Caller) (config : Snapshot World Caller)
    (caller : Caller) : Prop :=
  config.status caller = .waiting ∨ (∃ outcome, config.status caller = .ended outcome) ∧
    (deployment.progress config caller).flags.Calm

variable {budgetId : String} {first : BudgetAccount}

/-- What a call has spent of a budget is what its effect costs. -/
theorem spent_is_cost (held : Balanced deployment ledgerOf initial config)
    (registered : (ledgerOf initial).accounts budgetId = some first) {commit : CommitCall}
    {amount : Nat} (call : deployment.call caller = .commit commit)
    (spent : useOf deployment config caller = .spent budgetId amount) :
    effectCost deployment budgetId first.budget config caller = amount := by
  have well := held.used caller commit call
  rw [spent] at well
  obtain ⟨⟨bound, budget, read, resolved⟩, result, succeeded⟩ := well
  rw [held.reads caller budgetId budget first read registered] at resolved
  simp only [effectCost, call, succeeded, bound, if_true, resolved]
  rfl

/-- Nothing is spent without an effect. -/
theorem spent_le_cost (held : Balanced deployment ledgerOf initial config)
    (registered : (ledgerOf initial).accounts budgetId = some first) (caller : Caller) :
    spentUnder budgetId (useOf deployment config caller) ≤
      effectCost deployment budgetId first.budget config caller := by
  cases use : useOf deployment config caller with
  | spent other amount =>
      by_cases same : other = budgetId
      · subst same
        by_cases commits : ∃ commit, deployment.call caller = .commit commit
        · obtain ⟨commit, call⟩ := commits
          rw [spent_is_cost held registered call use]
          simp [spentUnder]
        · have idle := held.unused caller (fun commit call => commits ⟨commit, call⟩)
          rw [use] at idle
          cases idle
      · simp [spentUnder, same]
  | _ => exact Nat.zero_le _

/-- A quiet call holds nothing, and has spent what its effect costs. -/
theorem quiet_settled (held : Balanced deployment ledgerOf initial config)
    (registered : (ledgerOf initial).accounts budgetId = some first)
    (stands : deployment.Stands config caller) (quiet : Quiet deployment config caller) :
    heldUnder budgetId (useOf deployment config caller) = 0 ∧
      effectCost deployment budgetId first.budget config caller ≤
        spentUnder budgetId (useOf deployment config caller) := by
  rcases quiet with waits | ⟨⟨outcome, ended⟩, calm⟩
  · rw [Deployment.Stands, waits] at stands
    have fresh : deployment.progress config caller = {} := stands
    rw [useOf, fresh]
    refine ⟨rfl, ?_⟩
    simp [effectCost, fresh]
  · rw [Deployment.Stands, ended] at stands
    by_cases commits : ∃ commit, deployment.call caller = .commit commit
    · obtain ⟨commit, call⟩ := commits
      have well := held.used caller commit call
      have exit : EngineCall.exit (deployment.context caller) (deployment.call caller) outcome
        (deployment.progress config caller) := stands
      rw [call] at exit
      obtain ⟨result, _, exits⟩ := exit
      obtain ⟨unheld, settled⟩ := exits.settles calm
      constructor
      · rw [useOf]
        cases use : (deployment.progress config caller).work.budget with
        | held other amount =>
            rw [use] at unheld
            cases unheld
        | _ => rfl
      · cases succeeded : (deployment.progress config caller).work.adapter with
        | succeeded report =>
            by_cases bound : commit.grant.authorityBudgetId = some budgetId
            · obtain ⟨other, amount, use⟩ := (settled report succeeded).2 (by simp [bound])
              have spent : useOf deployment config caller = .spent other amount := use
              rw [spent] at well
              obtain rfl : budgetId = other := Option.some.inj (bound.symm.trans well.1.1)
              rw [spent_is_cost held registered call spent, spent]
              simp [spentUnder]
            · simp [effectCost, call, succeeded, bound]
        | _ => simp [effectCost, call, succeeded]
    · have idle := held.unused caller (fun commit call => commits ⟨commit, call⟩)
      rw [idle]
      refine ⟨rfl, ?_⟩
      unfold effectCost
      split
      · next commit _ call _ => exact absurd ⟨commit, call⟩ commits
      · exact Nat.zero_le _

/-- Budgets are conserved.  At every point of every interleaving of any calls over one ledger, a
registered budget keeps its definition, its account stays within the limit, and no more is consumed
than the reported effects under it cost; and where every call is quiet, exactly that is consumed,
and nothing more is reserved than before. -/
theorem budget_is_conserved (shared : SharesBudgetLedger deployment ledgerOf)
    (registered : (ledgerOf initial).accounts budgetId = some first)
    (reached : deployment.Reachable initial config) :
    ∃ account, (ledgerOf config.world).accounts budgetId = some account ∧
      account.budget = first.budget ∧
      account.consumed + account.reserved ≤ first.budget.limit ∧
      account.consumed ≤ first.consumed +
        ∑ caller, effectCost deployment budgetId first.budget config caller ∧
      ((∀ caller, Quiet deployment config caller) →
        account.consumed = first.consumed +
            ∑ caller, effectCost deployment budgetId first.budget config caller ∧
          account.reserved = first.reserved) := by
  have held := balanced_reachable shared reached
  obtain ⟨account, present, budget, consumed, reserved⟩ := held.accounts budgetId first registered
  have atMost : ∑ caller, spentUnder budgetId (useOf deployment config caller) ≤
      ∑ caller, effectCost deployment budgetId first.budget config caller :=
    Finset.sum_le_sum (fun caller _ => spent_le_cost held registered caller)
  refine ⟨account, present, budget, budget ▸ account.withinLimit, by omega, ?_⟩
  intro quiet
  have settled := fun caller =>
    quiet_settled held registered (Deployment.reachable_stands reached caller) (quiet caller)
  have atLeast : ∑ caller, effectCost deployment budgetId first.budget config caller ≤
      ∑ caller, spentUnder budgetId (useOf deployment config caller) :=
    Finset.sum_le_sum (fun caller _ => (settled caller).2)
  have unheld : ∑ caller, heldUnder budgetId (useOf deployment config caller) = 0 :=
    Finset.sum_eq_zero (fun caller _ => (settled caller).1)
  constructor <;> omega

end Run

/-! ### Two payments under one budget -/

/-- Engines with a budget ledger of their world share it. -/
theorem service_shares_budgets {Host : Type} [DecidableEq Host] (service : Service Host Caller) :
    SharesBudgetLedger service.deployment Engine.World.budget where
  serves := by
    intro caller world op reply after answered
    rcases answered with faulted | ⟨replied, same⟩
    · have nothing := fault_changes_nothing faulted
      exact Or.inl ⟨nothing.1, by rw [nothing.2]⟩
    · exact Or.inr ⟨replied, by rw [same]⟩
  frames := fun _ _ _ _ _ answered other => (answers_only answered).budget_kept other

/-- A budget of 800, and two commits of 500 under it. -/
def budgetAccount : BudgetAccount where
  budget := ⟨"1.0", "budget-1", .monetary "USD" 800 (by decide), by decide⟩
  consumed := 0
  reserved := 0
  withinLimit := by decide

def budgetedWorld : Engine.World Unit :=
  { Payment.authorizedWorld Unit with
    budget := ⟨fun budgetId => if budgetId = "budget-1" then some budgetAccount else none⟩ }

def budgetedCommits : Service Unit Bool where
  environment := Payment.prompt.environment
  context := fun _ => Payment.context
  engineOf := fun _ => ()
  call := fun _ => .commit (Payment.commitOf Payment.sealedTransfer Payment.budgetGrant)
  mayStart := fun _ _ => True
  mayPerform := fun _ _ _ => True

/-- The second commit runs while the first one holds the budget. -/
def budgetedState : Snapshot (Engine.World Unit) Bool :=
  budgetedCommits.replay Payment.prompt budgetedWorld
    (List.replicate 12 false ++ List.replicate 30 true ++ List.replicate 30 false)

theorem budgeted_state_is_reached :
    budgetedCommits.deployment.Reachable budgetedWorld budgetedState :=
  Service.replay_reachable rfl (fun _ _ => trivial) (fun _ _ _ => trivial) _ _

def hasEnded : Status EngineOp EngineReply PyError CallResult → Bool
  | .ended _ => true
  | _ => false

theorem quiet_of_ended {deployment : Deployment World Caller} {config : Snapshot World Caller}
    {caller : Caller} (ended : hasEnded (config.status caller) = true)
    (calm : (deployment.progress config caller).flags.Calm) : Quiet deployment config caller := by
  right
  cases status : config.status caller with
  | ended outcome => exact ⟨⟨outcome, rfl⟩, calm⟩
  | _ =>
      rw [status] at ended
      cases ended

theorem second_payment_exceeds_the_budget :
    ∃ account, budgetedState.world.budget.accounts "budget-1" = some account ∧
      account.consumed = 500 ∧ account.reserved = 0 := by
  have registered : budgetedWorld.budget.accounts "budget-1" = some budgetAccount := rfl
  have ended : ∀ caller, hasEnded (budgetedState.status caller) = true := by decide +kernel
  have calm : ∀ caller, (budgetedCommits.deployment.progress budgetedState caller).flags.faulted =
      false ∧ (budgetedCommits.deployment.progress budgetedState caller).flags.interfered =
      false := by decide +kernel
  have costs : ∑ caller, effectCost budgetedCommits.deployment "budget-1" budgetAccount.budget
      budgetedState caller = 500 := by decide +kernel
  obtain ⟨account, present, _, _, _, settled⟩ := budget_is_conserved
    (service_shares_budgets budgetedCommits) registered budgeted_state_is_reached
  obtain ⟨consumed, reserved⟩ := settled (fun caller => quiet_of_ended (ended caller) (calm caller))
  rw [costs] at consumed
  exact ⟨account, present, consumed, reserved⟩

end KarmaSakshi.Guarantees
