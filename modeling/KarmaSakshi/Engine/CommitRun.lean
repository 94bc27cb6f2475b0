import KarmaSakshi.Engine.CommitProtocol

/-!
The parts of a commit, from the settlement back to the gates.

Every lemma enters a part with the exact work done so far and shows how it can
end, so that the last one covers the whole operation.
-/

namespace KarmaSakshi.Engine

open EffectProgram KarmaSakshi.Domain KarmaSakshi.Stores

set_option autoImplicit false

variable {context : EngineContext} {call : CommitCall} {hold : BudgetHold}
  {progress : Progress}

/-! ### Milestones -/

def Work.outboxed (work : Work) (context : EngineContext) (use : OutboxUse) : Work :=
  { work with outbox := if context.hasOutboxStore then use else work.outbox }

def reservedWork (hold : BudgetHold) : Work := { budget := heldUse hold, grant := .held }

def enteredWork (context : EngineContext) (hold : BudgetHold) : Work :=
  ((reservedWork hold).knowing .authorized).advancedTo context .committing

def recordedWork (context : EngineContext) (hold : BudgetHold) : Work :=
  (enteredWork context hold).outboxed context .recorded

def lookedUpWork (context : EngineContext) (hold : BudgetHold) (ledger : LedgerRead) : Work :=
  { recordedWork context hold with ledger }

def clearedWork (context : EngineContext) (hold : BudgetHold) : Work :=
  { lookedUpWork context hold .missed with satisfied := true }

def executedWork (context : EngineContext) (hold : BudgetHold) (adapter : AdapterUse) : Work :=
  { clearedWork context hold with adapter }

/-- The work after both holds were given back. -/
def Work.released (work : Work) (hold : BudgetHold) : Work :=
  { work with grant := .returned, budget := returnedUse hold }

theorem entered_is_own (hold : BudgetHold) : OwnCommitting context (enteredWork context hold) := by
  constructor
  · rfl
  · simp [enteredWork, reservedWork, Work.advancedTo, Work.persisted, Work.knowing]

theorem OwnCommitting.of_same {work other : Work} (own : OwnCommitting context work)
    (cached : other.cached = work.cached) (stored : other.stored = work.stored) :
    OwnCommitting context other :=
  ⟨cached.trans own.cached, stored.trans own.stored⟩

@[simp] theorem returned_is_not_held (hold : BudgetHold) : (returnedUse hold).isHeld = false := by
  cases hold <;> rfl

@[simp] theorem spent_is_not_held (hold : BudgetHold) : (spentUse hold).isHeld = false := by
  cases hold <;> rfl

@[simp] theorem recorded_outbox (configured : context.hasOutboxStore = true)
    (hold : BudgetHold) : (recordedWork context hold).outbox = .recorded := by
  simp [recordedWork, Work.outboxed, configured]

/-! ### The outbox -/

/-- An outbox operation that raises leaks; nothing was written. -/
def OrLeaked {Value : Type} (good : Progress → Prop) (before : Progress)
    (outcome : Except PyError Value) (after : Progress) : Prop :=
  match outcome with
  | .ok _ => good after
  | .error _ => after.work = before.work ∧ after.flags.leaked = true ∧
      after.flags.faulted = true

theorem abandon_run (returned : progress.work.grant = .returned)
    (unsuccessful : progress.work.unsuccessful)
    (recorded : context.hasOutboxStore = true → progress.work.outbox = .recorded) :
    Conforms (commitSpec context call)
      (OrLeaked (Follows progress (progress.work.outboxed context .abandoned)) progress)
      (abandonOutbox context call) progress := by
  unfold abandonOutbox
  by_cases configured : context.hasOutboxStore = true
  · simp only [configured, if_true]
    apply commit_step (.outbox (.markAbandoned call.idempotencyKey))
      ⟨configured, rfl, recorded configured, returned, unsuccessful⟩
    intro reply _
    cases reply with
    | ok done =>
        have follows := follows_observe call progress
          (.outbox (.markAbandoned call.idempotencyKey)) (.ok done) rfl rfl
        rw [show progress.work.outboxed context .abandoned =
          progress.work.observe call.manifestId (.outbox (.markAbandoned call.idempotencyKey))
            (.ok done) by simp [Work.outboxed, configured, Work.observe, Work.observeOutbox]]
        exact follows
    | error error => exact ⟨rfl, by simp [leaks, isError], by simp [faults, isError]⟩
  · simp only [configured, Bool.false_eq_true, if_false]
    refine ⟨Reads.Extends.refl _, ?_, rfl, rfl⟩
    simp [Work.outboxed, configured]

theorem confirm_run (outcomeRef : String) (reserved : progress.work.grant = .held)
    (finalizes : progress.work.mayFinalize outcomeRef)
    (recorded : context.hasOutboxStore = true → progress.work.outbox = .recorded) :
    Conforms (commitSpec context call)
      (OrLeaked (Follows progress (progress.work.outboxed context .confirmed)) progress)
      (confirmOutbox context call outcomeRef) progress := by
  unfold confirmOutbox
  by_cases configured : context.hasOutboxStore = true
  · simp only [configured, if_true, or_true]
    apply Conforms.andThen
      (OrLeaked (Follows progress progress.work) progress)
      (commit_step (.outbox (.get call.idempotencyKey)) ⟨configured, rfl⟩ (fun reply _ => ?_))
      (fun existing after follows => ?_) (fun error after leaked => ?_)
    · cases reply with
      | ok existing =>
          exact follows_observe call progress (.outbox (.get call.idempotencyKey)) (.ok existing)
            rfl rfl
      | error error => exact ⟨rfl, by simp [leaks, isError], by simp [faults, isError]⟩
    · have asked : Follows progress progress.work after := follows
      have sameWork := asked.work
      apply commit_step (.outbox (.markConfirmed call.idempotencyKey outcomeRef))
      · refine ⟨configured, rfl, ?_, ?_, ?_⟩
        · rw [sameWork]
          exact recorded configured
        · rw [sameWork]
          exact reserved
        · rw [sameWork]
          exact finalizes
      · intro reply _
        cases reply with
        | ok done =>
            have confirmed := follows_observe call after
              (.outbox (.markConfirmed call.idempotencyKey outcomeRef)) (.ok done) rfl rfl
            rw [sameWork] at confirmed
            rw [show progress.work.outboxed context .confirmed =
              progress.work.observe call.manifestId
                (.outbox (.markConfirmed call.idempotencyKey outcomeRef)) (.ok done) by
              simp [Work.outboxed, configured, Work.observe, Work.observeOutbox]]
            exact asked.trans confirmed
        | error error =>
            exact ⟨sameWork, by simp [leaks, isError], by simp [faults, isError]⟩
    · exact leaked
  · simp only [configured, Bool.false_eq_true, if_false]
    refine ⟨Reads.Extends.refl _, ?_, rfl, rfl⟩
    simp [Work.outboxed, configured]

/-! ### After the adapter answered -/

/-- A raise after the adapter answered is a failing component. -/
def OrFaulted {Value : Type} (good : Progress → Prop) (outcome : Except PyError Value)
    (after : Progress) : Prop :=
  match outcome with
  | .ok _ => good after
  | .error _ => after.flags.faulted = true ∧ after.work.adapter ≠ .idle

theorem consume_budget_run (hold : BudgetHold)
    (executed : ∃ result, progress.work.adapter = .succeeded result)
    (held : progress.work.budget = heldUse hold) :
    Conforms (commitSpec context call)
      (OrFaulted (Follows progress { progress.work with budget := spentUse hold }))
      (consumeBudget hold) progress := by
  cases hold with
  | none =>
      show Follows progress { progress.work with budget := .idle } progress
      refine ⟨Reads.Extends.refl _, ?_, rfl, rfl⟩
      rw [show BudgetUse.idle = progress.work.budget from held.symm]
  | some reserved =>
      obtain ⟨budgetId, amount⟩ := reserved
      apply commit_step (.budget (.commit budgetId amount)) ⟨held, executed⟩
      intro reply _
      cases reply with
      | ok done =>
          exact follows_observe call progress (.budget (.commit budgetId amount)) (.ok done)
            rfl rfl
      | error error =>
          refine ⟨by simp [faults, isError], ?_⟩
          obtain ⟨result, succeeded⟩ := executed
          show progress.work.adapter ≠ .idle
          simp [succeeded]

/-- Finalizing the grant use: the ledger entry is written with it. -/
theorem finalize_run (outcomeRef : String) (reserved : progress.work.grant = .held)
    (finalizes : progress.work.mayFinalize outcomeRef)
    (confirmed : context.hasOutboxStore = true → progress.work.outbox = .confirmed) :
    Conforms (commitSpec context call)
      (OrLeaked (Follows progress { progress.work with grant := .spent }) progress)
      (perform (.grants (.commit call.grantId call.idempotencyKey outcomeRef))) progress := by
  apply commit_step (.grants (.commit call.grantId call.idempotencyKey outcomeRef))
    ⟨rfl, rfl, reserved, finalizes, confirmed⟩
  intro reply _
  cases reply with
  | ok done =>
      exact follows_observe call progress
        (.grants (.commit call.grantId call.idempotencyKey outcomeRef)) (.ok done) rfl rfl
  | error error => exact ⟨rfl, by simp [leaks, isError], by simp [faults, isError]⟩

/-- What a settled success leaves behind. -/
theorem exit_of_success (hold : BudgetHold) (result : CommitResult) {after before : Progress}
    (settled : Settled context .committed before after)
    (spent : before.work.grant = .spent) (budget : before.work.budget = spentUse hold)
    (bound : HoldBound call before.reads hold)
    (succeeded : before.work.adapter = .succeeded result) :
    CommitExit call (.ok result) after := by
  obtain ⟨fromState, work⟩ := settled.work
  constructor
  · intro returned same _
    cases same
    rw [work]
    exact ⟨spent, Or.inl succeeded⟩
  · exact fun impossible => by cases impossible
  · intro _
    rw [work]
    refine ⟨?_, ?_⟩
    · show before.work.budget.isHeld = false
      rw [budget, spent_is_not_held]
    · intro other _
      refine ⟨rfl, ?_⟩
      intro isBound
      show ∃ budgetId amount, before.work.budget = .spent budgetId amount
      rw [budget]
      cases hold with
      | none =>
          rw [show call.grant.authorityBudgetId = none from bound] at isBound
          exact absurd isBound (by simp)
      | some reserved => exact ⟨reserved.1, reserved.2, rfl⟩

theorem settle_success_run {result : CommitResult}
    (stage : Stage context call hold (executedWork context hold (.succeeded result)) progress) :
    Conforms (commitSpec context call) (CommitExit call)
      (settleSuccess context call hold result) progress := by
  have work := stage.work
  refine Conforms.andThen _ (consume_budget_run hold ?_ ?_)
    (fun _ consumed follows => ?_) (fun _ _ faulted => exit_of_fault faulted.1 faulted.2)
  · rw [work]
    exact ⟨result, rfl⟩
  · rw [work]
    rfl
  have stageConsumed := stage.follow follows
  have workConsumed := stageConsumed.work
  rw [work] at workConsumed
  have finalizes : consumed.work.mayFinalize (orElse result.providerReference "committed") := by
    rw [workConsumed]
    exact Or.inl ⟨result, rfl, rfl⟩
  refine Conforms.andThen _ (confirm_run (orElse result.providerReference "committed") ?_
    finalizes ?_) (fun _ confirmed confirms => ?_) (fun _ after leaked => ?_)
  · rw [workConsumed]
    rfl
  · intro configured
    rw [workConsumed]
    exact recorded_outbox configured hold
  · have stageConfirmed := stageConsumed.follow confirms
    have workConfirmed := stageConfirmed.work
    rw [workConsumed] at workConfirmed
    refine Conforms.andThen _ (finalize_run (orElse result.providerReference "committed") ?_ ?_ ?_)
      (fun _ spent finalized => ?_) (fun _ after leaked => ?_)
    · rw [workConfirmed]
      rfl
    · rw [workConfirmed]
      exact Or.inl ⟨result, rfl, rfl⟩
    · intro configured
      rw [workConfirmed]
      simp [Work.outboxed, configured]
    · have stageSpent := stageConfirmed.follow finalized
      have workSpent := stageSpent.work
      rw [workConfirmed] at workSpent
      refine Conforms.andThen _ (settle_run committed_hosts _ rfl ?_ ?_ ?_ stageSpent.unleaked)
        (fun _ after settled => ?_) (fun _ after spoiled => exit_of_spoiled spoiled)
      · rw [workSpent]
        rfl
      · rw [workSpent]
        rfl
      · rw [workSpent]
        exact (entered_is_own hold).of_same rfl rfl
      · apply exit_of_success hold result settled
        · rw [workSpent]
        · rw [workSpent]
          rfl
        · exact stageSpent.bound
        · rw [workSpent]
          rfl
    · apply exit_of_fault leaked.2.2
      rw [leaked.1, workConfirmed]
      exact fun impossible => by cases impossible
  · apply exit_of_fault leaked.2.2
    rw [leaked.1, workConsumed]
    exact fun impossible => by cases impossible

/-- Moving to FAILED after the holds were given back. -/
theorem fail_run (eventType : String) (metadata : List (String × String))
    (returned : progress.work.grant = .returned) (unsuccessful : progress.work.unsuccessful)
    (own : OwnCommitting context progress.work) (unleaked : progress.flags.leaked = false) :
    Conforms (commitSpec context call) (UnlessSpoiled (Settled context .failed progress))
      (failWith context call eventType metadata) progress := by
  refine Conforms.andThen _ (settle_run failing_hosts (call.note eventType metadata) rfl
    ⟨returned, unsuccessful⟩ ?_ own unleaked) (fun _ _ settled => settled)
    (fun _ _ spoiled => spoiled)
  simp [Work.settling, returned]

/-- A commit whose adapter call did not succeed, with its budget given back. -/
theorem exit_of_failure {outcome : Except PyError CommitResult} {after : Progress}
    (reported : ∀ result, outcome = .ok result → result.success = false)
    (executed : after.work.adapter ≠ .idle) (unsuccessful : after.work.unsuccessful)
    (returned : after.work.budget.isHeld = false) : CommitExit call outcome after := by
  constructor
  · intro result same success
    rw [reported result same] at success
    exact absurd success (by simp)
  · exact fun _ idle => absurd idle executed
  · exact fun _ => ⟨returned, fun result succeeded => absurd succeeded (unsuccessful result)⟩

/-- The fields a final transition leaves alone. -/
theorem Settled.kept {target : LifecycleState} {before after : Progress}
    (settled : Settled context target before after) :
    after.work.adapter = before.work.adapter ∧ after.work.budget = before.work.budget ∧
      after.work.grant = before.work.grant := by
  obtain ⟨fromState, work⟩ := settled.work
  rw [work]
  exact ⟨rfl, rfl, rfl⟩

theorem Settled.exit_of_failure {outcome : Except PyError CommitResult}
    {before after : Progress} (settled : Settled context .failed before after)
    (hold : BudgetHold) (reported : ∀ result, outcome = .ok result → result.success = false)
    (executed : before.work.adapter ≠ .idle) (unsuccessful : before.work.unsuccessful)
    (returned : before.work.budget = returnedUse hold) : CommitExit call outcome after := by
  obtain ⟨adapter, budget, _⟩ := settled.kept
  apply Engine.exit_of_failure reported
  · rw [adapter]
    exact executed
  · unfold Work.unsuccessful
    rw [adapter]
    exact unsuccessful
  · rw [budget, returned, returned_is_not_held]

theorem settle_failure_run {result : CommitResult} (failure : result.success = false)
    (stage : Stage context call hold (executedWork context hold .failed) progress) :
    Conforms (commitSpec context call) (CommitExit call)
      (settleFailure context call hold result) progress := by
  have work := stage.work
  refine Conforms.andThen _ (release_holds_run hold ?_ ?_ ?_) (fun _ released follows => ?_)
    (fun _ _ spoiled => exit_of_spoiled spoiled)
  · rw [work]
    rfl
  · rw [work]
    rfl
  · rw [work]
    exact fun _ impossible => by cases impossible
  have stageReleased := stage.follow follows
  have workReleased := stageReleased.work
  rw [work] at workReleased
  refine Conforms.andThen _ (abandon_run ?_ ?_ ?_) (fun _ abandoned abandons => ?_)
    (fun _ after leaked => ?_)
  · rw [workReleased]
  · rw [workReleased]
    exact fun _ impossible => by cases impossible
  · intro configured
    rw [workReleased]
    exact recorded_outbox configured hold
  · have stageAbandoned := stageReleased.follow abandons
    have workAbandoned := stageAbandoned.work
    rw [workReleased] at workAbandoned
    refine Conforms.andThen _ (fail_run _ _ ?_ ?_ ?_ stageAbandoned.unleaked)
      (fun _ after settled => ?_) (fun _ _ spoiled => exit_of_spoiled spoiled)
    · rw [workAbandoned]
      rfl
    · rw [workAbandoned]
      exact fun _ impossible => by cases impossible
    · rw [workAbandoned]
      exact (entered_is_own hold).of_same rfl rfl
    · apply settled.exit_of_failure hold
      · intro returned same
        cases same
        exact failure
      · rw [workAbandoned]
        exact fun impossible => by cases impossible
      · rw [workAbandoned]
        exact fun _ impossible => by cases impossible
      · rw [workAbandoned]
        rfl
  · apply exit_of_fault leaked.2.2
    rw [leaked.1, workReleased]
    exact fun impossible => by cases impossible

theorem settle_error_run (error : PyError)
    (stage : Stage context call hold (executedWork context hold .raised) progress) :
    Conforms (commitSpec context call) (CommitExit call)
      (settleError context call hold error) progress := by
  have work := stage.work
  refine Conforms.andThen _ (release_holds_run hold ?_ ?_ ?_) (fun _ released follows => ?_)
    (fun _ _ spoiled => exit_of_spoiled spoiled)
  · rw [work]
    rfl
  · rw [work]
    rfl
  · rw [work]
    exact fun _ impossible => by cases impossible
  have stageReleased := stage.follow follows
  have workReleased := stageReleased.work
  rw [work] at workReleased
  refine Conforms.andThen _ (fail_run _ _ ?_ ?_ ?_ stageReleased.unleaked)
    (fun _ after settled => ?_) (fun _ _ spoiled => exit_of_spoiled spoiled)
  · rw [workReleased]
  · rw [workReleased]
    exact fun _ impossible => by cases impossible
  · rw [workReleased]
    exact (entered_is_own hold).of_same rfl rfl
  · apply settled.exit_of_failure hold
    · exact fun _ impossible => by cases impossible
    · rw [workReleased]
      exact fun impossible => by cases impossible
    · rw [workReleased]
      exact fun _ impossible => by cases impossible
    · rw [workReleased]

/-! ### Preconditions, adapter, replay -/

theorem budget_ready (stage : Stage context call hold (clearedWork context hold) progress) :
    BudgetReady call progress := by
  have bound := stage.bound
  unfold BudgetReady
  rw [stage.work]
  cases hold with
  | none =>
      rw [show call.grant.authorityBudgetId = none from bound]
      rfl
  | some reserved =>
      rw [bound.1]
      exact ⟨reserved.2, bound.2, rfl⟩

/-- With its preconditions satisfied, a commit is ready to execute. -/
theorem ready_to_execute (stage : Stage context call hold (clearedWork context hold) progress) :
    ReadyToExecute context call progress := by
  have work := stage.work
  constructor
  · exact stage.gates
  · exact budget_ready stage
  · rw [work]
    rfl
  · rw [work]
    rfl
  · rw [work]
    rfl
  · intro configured
    rw [work]
    exact if_pos configured
  · intro configured
    rw [work]
    exact recorded_outbox configured hold
  · rw [work]
    rfl
  · rw [work]
    rfl
  · rw [work]
    rfl

theorem invoke_run (stage : Stage context call hold (clearedWork context hold) progress) :
    Conforms (commitSpec context call) (CommitExit call) (invokeAdapter context call hold)
      progress := by
  apply (conforms_attempt _ _ _ _).mpr
  apply commit_step (.adapter call.adapter (.commit call.manifest call.grant))
    ⟨rfl, rfl, rfl, ready_to_execute stage⟩
  intro reply _
  cases reply with
  | error error =>
      exact settle_error_run error (stage.observe
        (.adapter call.adapter (.commit call.manifest call.grant)) (.error error) rfl rfl)
  | ok result =>
      have answered : Stage context call hold
          (executedWork context hold (if result.success then .succeeded result else .failed))
          (progress.observe call.manifestId
            (.adapter call.adapter (.commit call.manifest call.grant)) (.ok result)) :=
        stage.observe (.adapter call.adapter (.commit call.manifest call.grant)) (.ok result)
          rfl rfl
      by_cases success : result.success = true
      · simp only [success, if_true] at answered ⊢
        exact settle_success_run answered
      · simp only [success, Bool.false_eq_true, if_false] at answered ⊢
        exact settle_failure_run (by simpa using success) answered

/-- A raise before the adapter with a leak behind it. -/
theorem exit_of_leak {error : PyError} {after : Progress} (idle : after.work.adapter = .idle)
    (unspent : after.work.grant ≠ .spent) (leaked : after.flags.leaked = true)
    (faulted : after.flags.faulted = true) (residue : after.work.Residue) :
    CommitExit call (.error error) after :=
  exit_of_abort idle unspent (by simp [leaked, residue])
    (fun calm => absurd calm (by simp [faulted]))

/-- The work of a call that gave everything back and found its preconditions
unsatisfied moves to FAILED and raises. -/
theorem give_up_run (eventType : String) (metadata : List (String × String)) (error : PyError)
    (stage : Stage context call hold (lookedUpWork context hold .missed) progress) :
    Conforms (commitSpec context call) (Handover call (fun (_ : Unit) _ => False))
      (do
        releaseHolds call hold
        abandonOutbox context call
        failWith context call eventType metadata
        .raised error) progress := by
  have work := stage.work
  refine Conforms.andThen _ (release_holds_run hold ?_ ?_ ?_) (fun _ released follows => ?_)
    (fun _ _ spoiled => exit_of_spoiled spoiled)
  · rw [work]
    rfl
  · rw [work]
    rfl
  · rw [work]
    exact fun _ impossible => by cases impossible
  have stageReleased := stage.follow follows
  have workReleased := stageReleased.work
  rw [work] at workReleased
  refine Conforms.andThen _ (abandon_run ?_ ?_ ?_) (fun _ abandoned abandons => ?_)
    (fun _ after leaked => ?_)
  · rw [workReleased]
  · rw [workReleased]
    exact fun _ impossible => by cases impossible
  · intro configured
    rw [workReleased]
    exact recorded_outbox configured hold
  · have stageAbandoned := stageReleased.follow abandons
    have workAbandoned := stageAbandoned.work
    rw [workReleased] at workAbandoned
    have own : OwnCommitting context abandoned.work := by
      rw [workAbandoned]
      exact (entered_is_own hold).of_same rfl rfl
    have budget : abandoned.work.budget = returnedUse hold := by
      rw [workAbandoned]
      rfl
    have grant : abandoned.work.grant = .returned := by
      rw [workAbandoned]
      rfl
    have adapter : abandoned.work.adapter = .idle := by
      rw [workAbandoned]
      rfl
    refine Conforms.andThen _ (fail_run _ _ grant ?_ own stageAbandoned.unleaked)
      (fun _ after settled => ?_) (fun _ _ spoiled => exit_of_spoiled spoiled)
    · rw [workAbandoned]
      exact fun _ impossible => by cases impossible
    · have kept := Settled.kept settled
      have cleanly := Settled.no_residue settled (by decide) own
        (by rw [budget, returned_is_not_held]) (by rw [grant]; decide)
      apply exit_of_abort
      · rw [kept.1, adapter]
      · rw [kept.2.2, grant]
        decide
      · simp [settled.leaked, cleanly]
      · intro _
        rw [kept.2.1, budget, returned_is_not_held]
  · have same : after.work = { lookedUpWork context hold .missed with
        grant := .returned, budget := returnedUse hold } := leaked.1.trans workReleased
    apply exit_of_leak
    · rw [same]
      rfl
    · rw [same]
      exact fun impossible => by cases impossible
    · exact leaked.2.1
    · exact leaked.2.2
    · rw [same]
      exact Or.inr (Or.inr (Or.inl rfl))

theorem precondition_run
    (stage : Stage context call hold (lookedUpWork context hold .missed) progress) :
    Conforms (commitSpec context call)
      (Handover call (fun (_ : Unit) => Stage context call hold (clearedWork context hold)))
      (checkPreconditions context call hold) progress := by
  have gives_up : ∀ eventType metadata error (after : Progress),
      Stage context call hold (lookedUpWork context hold .missed) after →
      Conforms (commitSpec context call)
        (Handover call (fun (_ : Unit) => Stage context call hold (clearedWork context hold)))
        (do
          releaseHolds call hold
          abandonOutbox context call
          failWith context call eventType metadata
          .raised error) after := by
    intro eventType metadata error after held
    apply (give_up_run eventType metadata error held).mono
    intro outcome final ending
    cases outcome with
    | ok _ => exact False.elim ending
    | error _ => exact ending
  apply (conforms_attempt _ _ _ _).mpr
  apply commit_step (.adapter call.adapter (.validatePreconditions call.manifest))
    ⟨rfl, rfl, by rw [stage.work]; rfl⟩
  intro reply _
  cases reply with
  | error error =>
      exact gives_up _ _ _ _ (stage.observe
        (.adapter call.adapter (.validatePreconditions call.manifest)) (.error error) rfl rfl)
  | ok result =>
      have answered := stage.observe
        (.adapter call.adapter (.validatePreconditions call.manifest)) (.ok result) rfl rfl
      by_cases satisfied : result.satisfied = true
      · simp only [satisfied, if_true]
        simp only [Work.observe, Work.observeAdapter, satisfied] at answered
        exact answered
      · simp only [satisfied, Bool.false_eq_true, if_false]
        simp only [Work.observe, Work.observeAdapter,
          show result.satisfied = false by simpa using satisfied] at answered
        exact gives_up _ _ _ _ answered

theorem exit_of_replay (hold : BudgetHold) {after before : Progress} {result : CommitResult}
    (settled : Settled context .committed before after) (spent : before.work.grant = .spent)
    (budget : before.work.budget = returnedUse hold) (replays : before.work.Replays result) :
    CommitExit call (.ok result) after := by
  obtain ⟨fromState, work⟩ := settled.work
  constructor
  · intro returned same _
    cases same
    rw [work]
    exact ⟨spent, Or.inr replays⟩
  · exact fun impossible => by cases impossible
  · intro _
    rw [work]
    refine ⟨?_, ?_⟩
    · show before.work.budget.isHeld = false
      rw [budget, returned_is_not_held]
    · intro other succeeded
      exact absurd (replays.1.symm.trans succeeded) (by simp)

theorem replay_run (outcomeRef : String)
    (stage : Stage context call hold (lookedUpWork context hold (.hit outcomeRef)) progress) :
    Conforms (commitSpec context call) (CommitExit call)
      (replayOutcome context call hold outcomeRef) progress := by
  have work := stage.work
  refine Conforms.andThen _ (release_budget_run hold ?_ ?_) (fun _ released follows => ?_)
    (fun _ _ spoiled => exit_of_spoiled spoiled)
  · rw [work]
    rfl
  · rw [work]
    exact fun _ impossible => by cases impossible
  have stageReleased := stage.follow follows
  have workReleased := stageReleased.work
  rw [work] at workReleased
  refine Conforms.andThen _ (confirm_run outcomeRef ?_ ?_ ?_) (fun _ confirmed confirms => ?_)
    (fun _ after leaked => ?_)
  · rw [workReleased]
    rfl
  · rw [workReleased]
    exact Or.inr ⟨rfl, rfl⟩
  · intro configured
    rw [workReleased]
    exact recorded_outbox configured hold
  · have stageConfirmed := stageReleased.follow confirms
    have workConfirmed := stageConfirmed.work
    rw [workReleased] at workConfirmed
    refine Conforms.andThen _ (finalize_run outcomeRef ?_ ?_ ?_)
      (fun _ spent finalized => ?_) (fun _ after leaked => ?_)
    · rw [workConfirmed]
      rfl
    · rw [workConfirmed]
      exact Or.inr ⟨rfl, rfl⟩
    · intro configured
      rw [workConfirmed]
      simp [Work.outboxed, configured]
    · have stageSpent := stageConfirmed.follow finalized
      have workSpent := stageSpent.work
      rw [workConfirmed] at workSpent
      refine Conforms.andThen _ (settle_run committed_hosts _ rfl ?_ ?_ ?_ stageSpent.unleaked)
        (fun _ after settled => ?_) (fun _ after spoiled => exit_of_spoiled spoiled)
      · rw [workSpent]
        rfl
      · rw [workSpent]
        rfl
      · rw [workSpent]
        exact (entered_is_own hold).of_same rfl rfl
      · apply exit_of_replay hold settled
        · rw [workSpent]
        · rw [workSpent]
          rfl
        · rw [workSpent]
          exact ⟨rfl, outcomeRef, rfl, rfl⟩
    · have same := leaked.1.trans workConfirmed
      apply exit_of_leak
      · rw [same]
        rfl
      · rw [same]
        exact fun impossible => by cases impossible
      · exact leaked.2.1
      · exact leaked.2.2
      · rw [same]
        exact Or.inr (Or.inl rfl)
  · have same := leaked.1.trans workReleased
    apply exit_of_leak
    · rw [same]
      rfl
    · rw [same]
      exact fun impossible => by cases impossible
    · exact leaked.2.1
    · exact leaked.2.2
    · rw [same]
      exact Or.inr (Or.inl rfl)

theorem execute_run (stage : Stage context call hold (recordedWork context hold) progress) :
    Conforms (commitSpec context call) (CommitExit call) (execute context call hold)
      progress := by
  have work := stage.work
  refine Conforms.andThen
    (fun outcome after =>
      match outcome with
      | .ok none => Stage context call hold (lookedUpWork context hold .missed) after
      | .ok (some outcomeRef) =>
          Stage context call hold (lookedUpWork context hold (.hit outcomeRef)) after
      | .error error => CommitExit call (.error error) after)
    (commit_step (.grants (.getIdempotentOutcome call.idempotencyKey)) ?_ (fun reply _ => ?_))
    (fun found after held => ?_) (fun _ _ exits => exits)
  · refine ⟨rfl, ?_, ?_, ?_⟩
    · rw [work]
      rfl
    · rw [work]
      rfl
    · rw [work]
      rfl
  · cases reply with
    | error error =>
        have same : (progress.observe call.manifestId
            (.grants (.getIdempotentOutcome call.idempotencyKey)) (.error error)).work =
            recordedWork context hold := work
        apply exit_of_leak
        · rw [same]
          rfl
        · rw [same]
          exact fun impossible => by cases impossible
        · simp [leaks, isError]
        · simp [faults, isError]
        · rw [same]
          exact Or.inr (Or.inl rfl)
    | ok found =>
        cases found with
        | none =>
            exact stage.observe (.grants (.getIdempotentOutcome call.idempotencyKey)) (.ok none)
              rfl rfl
        | some outcomeRef =>
            exact stage.observe (.grants (.getIdempotentOutcome call.idempotencyKey))
              (.ok (some outcomeRef)) rfl rfl
  · cases found with
    | some outcomeRef => exact replay_run outcomeRef held
    | none =>
        exact Conforms.andThen _ (precondition_run held) (fun _ _ cleared => invoke_run cleared)
          (fun _ _ exits => exits)

/-! ### From the gates to the outbox -/

/-- What a call raises with before it reached the adapter. -/
structure Aborted (progress : Progress) : Prop where
  idle : progress.work.adapter = .idle
  unspent : progress.work.grant ≠ .spent
  leaks : progress.flags.leaked = true ↔ progress.work.Residue
  returned : progress.work.budget.isHeld = false

theorem Aborted.exit (aborted : Aborted progress) (error : PyError) :
    CommitExit call (.error error) progress :=
  exit_of_abort aborted.idle aborted.unspent aborted.leaks (fun _ => aborted.returned)

theorem Aborted.follow {after : Progress} (aborted : Aborted progress)
    (follows : Follows progress progress.work after) : Aborted after := by
  obtain ⟨idle, unspent, leaks, returned⟩ := aborted
  constructor
  · rw [follows.work]
    exact idle
  · rw [follows.work]
    exact unspent
  · rw [follows.work, follows.leaked]
    exact leaks
  · rw [follows.work]
    exact returned

/-- A refusal is audited and raised; it changes nothing. -/
theorem refuse_run {Value : Type} {next : Value → Progress → Prop} (aborted : Aborted progress)
    (eventType decision : String) (error : PyError) :
    Conforms (commitSpec context call) (Handover call next)
      (deny call eventType decision error) progress := by
  refine Conforms.andThen (fun _ after => Follows progress progress.work after)
    (commit_step (.audit (call.record eventType decision [])) trivial (fun reply _ => ?_))
    (fun _ after follows => ?_) (fun error after follows => ?_)
  · exact follows_observe call progress (.audit (call.record eventType decision [])) reply
      (by simp [leaks, CommitCall.record]) (by simp [cleanupRaises, CommitCall.record])
  · exact (aborted.follow follows).exit error
  · exact (aborted.follow follows).exit error

/-- The clean-up of an outbox that refused the intent leaves COMMITTING behind. -/
theorem refused_outbox_run (error : PyError) (work : progress.work = enteredWork context hold)
    (leaked : progress.flags.leaked = true) :
    Conforms (commitSpec context call)
      (Handover call (fun (_ : Unit) => Stage context call hold (recordedWork context hold)))
      (do
        releaseHolds call hold
        deny call "outbox.record_failed" error.blockedDecision error) progress := by
  refine Conforms.andThen _ (release_holds_run hold ?_ ?_ ?_) (fun _ released follows => ?_)
    (fun _ _ spoiled => exit_of_spoiled spoiled)
  · rw [work]
    rfl
  · rw [work]
    rfl
  · rw [work]
    exact fun _ impossible => by cases impossible
  · have given : Follows progress { progress.work with
        grant := .returned, budget := returnedUse hold } released := follows
    have workReleased := given.work
    rw [work] at workReleased
    apply refuse_run
    constructor
    · rw [workReleased]
      rfl
    · rw [workReleased]
      exact fun impossible => by cases impossible
    · rw [given.leaked, leaked, workReleased]
      simp only [true_iff]
      exact Or.inr (Or.inr (Or.inl rfl))
    · rw [workReleased]
      exact returned_is_not_held hold

theorem record_outbox_run (stage : Stage context call hold (enteredWork context hold) progress) :
    Conforms (commitSpec context call)
      (Handover call (fun (_ : Unit) => Stage context call hold (recordedWork context hold)))
      (recordOutbox context call hold) progress := by
  unfold recordOutbox
  by_cases configured : context.hasOutboxStore = true
  · simp only [configured, if_true]
    refine Conforms.andThen
      (fun outcome after => isError outcome = false ∧
        Stage context call hold (enteredWork context hold) after)
      (commit_step .now trivial (fun reply answered => ?_))
      (fun instant after held => ?_) (fun _ _ held => absurd held.1 (by simp [isError]))
    · exact ⟨answered rfl, stage.observe .now reply rfl rfl⟩
    · have work := held.2.work
      apply (conforms_attempt _ _ _ _).mpr
      apply commit_step (.outbox (.recordPending (call.outboxEntry instant)))
      · refine ⟨configured, ⟨instant, rfl⟩, ?_⟩
        rw [work]
        exact ⟨rfl, rfl, rfl, rfl⟩
      · intro reply _
        cases reply with
        | ok done =>
            have recorded := held.2.observe
              (.outbox (.recordPending (call.outboxEntry instant))) (.ok done) rfl rfl
            rw [show recordedWork context hold = (enteredWork context hold).observe
              call.manifestId (.outbox (.recordPending (call.outboxEntry instant))) (.ok done) by
              simp [recordedWork, Work.outboxed, configured, Work.observe, Work.observeOutbox]]
            exact recorded
        | error error =>
            have same : (after.observe call.manifestId
                (.outbox (.recordPending (call.outboxEntry instant))) (.error error)).work =
                enteredWork context hold := work
            have leaked : (after.observe call.manifestId
                (.outbox (.recordPending (call.outboxEntry instant))) (.error error)).flags.leaked
                = true := by
              simp [leaks, isError]
            by_cases refusal : error.isOutboxRefusal = true
            · simp only [refusal, if_true]
              exact refused_outbox_run error same leaked
            · simp only [refusal, Bool.false_eq_true, if_false]
              apply exit_of_leak
              · rw [same]
                rfl
              · rw [same]
                exact fun impossible => by cases impossible
              · exact leaked
              · simp [faults, refusal]
              · rw [same]
                exact Or.inr (Or.inl rfl)
  · simp only [configured, Bool.false_eq_true, if_false]
    have same : recordedWork context hold = enteredWork context hold := by
      simp [recordedWork, Work.outboxed, configured]
    show Stage context call hold (recordedWork context hold) progress
    rw [same]
    exact stage

theorem enter_run (stage : Stage context call hold (reservedWork hold) progress) :
    Conforms (commitSpec context call)
      (Handover call (fun (_ : Unit) => Stage context call hold (enteredWork context hold)))
      (enterCommitting context call hold) progress := by
  have work := stage.work
  have inPhase : enteringPhase progress.work := by
    rw [work]
    exact ⟨rfl, rfl⟩
  have unmoved : Unmoved progress := by
    constructor
    · rw [work]
      rfl
    · rw [work]
      rfl
    · rw [work]
      rfl
    · exact stage.unleaked
    · exact stage.clean
  have moves : Conforms (commitSpec context call)
      (fun outcome after => (Transitioned context .committing progress.work outcome after ∧
        Entered outcome after) ∧
        GatesHeld context call after.reads ∧ HoldBound call after.reads hold)
      (transition context call.manifestId .committing
        (call.note "effect.committing" (budgetMetadata hold))) progress := by
    apply ((transition_writes entering_hosts _ progress inPhase).and
      (transition_enters entering_hosts _ inPhase unmoved)).keeping (Program.uses_anything _)
    · intro current op reply held _
      have extended := reads_observe_extends current.reads op reply
      exact ⟨held.1.extend extended, held.2.extend extended⟩
    · exact ⟨stage.gates, stage.bound⟩
  apply (conforms_attempt _ _ _ _).mpr
  apply moves.mono
  rintro outcome after ⟨⟨written, clean, leaked⟩, gates, bound⟩
  cases outcome with
  | ok record =>
      obtain ⟨fromState, legal, moved⟩ := written
      rw [LifecycleState.legal_into_committing legal, work] at moved
      exact ⟨gates, bound, moved, leaked, clean⟩
  | error error =>
      have only : LifecycleOnly progress.work after.work := written
      have adapter : after.work.adapter = .idle := by
        rw [only, work]
        rfl
      have grant : after.work.grant = .held := by
        rw [only, work]
        rfl
      have budget : after.work.budget = heldUse hold := by
        rw [only, work]
        rfl
      refine Conforms.andThen _ (release_holds_run hold grant budget ?_)
        (fun _ released follows => ?_) (fun _ _ spoiled => exit_of_spoiled spoiled)
      · intro result succeeded
        rw [adapter] at succeeded
        exact absurd succeeded (by simp)
      · have given : Follows after { after.work with
            grant := .returned, budget := returnedUse hold } released := follows
        apply Aborted.exit
        constructor
        · rw [given.work]
          exact adapter
        · rw [given.work]
          exact fun impossible => by cases impossible
        · rw [given.leaked, given.work]
          simp only [Work.Residue, returned_is_not_held, Bool.false_eq_true, false_or, reduceCtorEq]
          exact leaked
        · rw [given.work]
          exact returned_is_not_held hold

theorem reserve_grant_run (stage : Stage context call hold { budget := heldUse hold } progress) :
    Conforms (commitSpec context call)
      (Handover call (fun (_ : Unit) => Stage context call hold (reservedWork hold)))
      (reserveGrant call hold) progress := by
  have work := stage.work
  refine Conforms.andThen
    (fun outcome after =>
      match outcome with
      | .ok true => Stage context call hold (reservedWork hold) after
      | .ok false => Stage context call hold { budget := heldUse hold } after
      | .error error => CommitExit call (.error error) after)
    (commit_step (.grants (.reserve call.grantId call.grant.maxUses)) ?_ (fun reply _ => ?_))
    (fun reserved after held => ?_) (fun _ _ exits => exits)
  · exact ⟨rfl, rfl, by rw [work]⟩
  · cases reply with
    | ok reserved =>
        cases reserved with
        | true =>
            exact stage.observe (.grants (.reserve call.grantId call.grant.maxUses)) (.ok true)
              rfl rfl
        | false =>
            exact stage.observe (.grants (.reserve call.grantId call.grant.maxUses)) (.ok false)
              rfl rfl
    | error error =>
        have same : (progress.observe call.manifestId
            (.grants (.reserve call.grantId call.grant.maxUses)) (.error error)).work =
            { budget := heldUse hold } := work
        apply exit_of_abort
        · rw [same]
        · rw [same]
          exact fun impossible => by cases impossible
        · rw [same, observe_leaked, stage.unleaked, work]
          cases hold <;> simp [leaks, isError, Work.Residue, heldUse, BudgetUse.isHeld]
        · intro calm
          simp [faults, isError] at calm
  · cases reserved with
    | true => exact held
    | false =>
        have workRefused := Stage.work held
        refine Conforms.andThen _ (release_budget_run hold ?_ ?_) (fun _ released follows => ?_)
          (fun _ _ spoiled => exit_of_spoiled spoiled)
        · rw [workRefused]
        · rw [workRefused]
          exact fun _ impossible => by cases impossible
        · have stageReleased := Stage.follow held follows
          have workReleased := stageReleased.work
          rw [workRefused] at workReleased
          apply refuse_run
          constructor
          · rw [workReleased]
          · rw [workReleased]
            exact fun impossible => by cases impossible
          · rw [stageReleased.unleaked, workReleased]
            simp [Work.Residue]
          · rw [workReleased]
            exact returned_is_not_held hold

/-! ### The budget reservation -/

/-- Past the gates with nothing reserved yet. -/
structure PastGates (context : EngineContext) (call : CommitCall) (progress : Progress) :
    Prop where
  atGate : AtGate progress
  gates : GatesHeld context call progress.reads

theorem PastGates.aborted (past : PastGates context call progress) : Aborted progress := by
  obtain ⟨⟨work, leaked, _⟩, _⟩ := past
  constructor
  · rw [work]
  · rw [work]
    exact fun impossible => by cases impossible
  · rw [leaked, work]
    simp [Work.Residue, BudgetUse.isHeld]
  · rw [work]
    rfl

/-- Asking the ledger, or being refused by it, reserves nothing. -/
theorem PastGates.observe_budget (past : PastGates context call progress) (op : BudgetOp)
    (reply : Except PyError (BudgetReply op))
    (unreserved : progress.work.observeBudget op reply = progress.work)
    (unreleased : ∀ budgetId amount, op ≠ .release budgetId amount) :
    PastGates context call (progress.observe call.manifestId (.budget op) reply) := by
  refine ⟨⟨unreserved.trans past.atGate.work, ?_, ?_⟩,
    past.gates.extend (reads_observe_extends _ _ _)⟩
  · rw [observe_leaked, past.atGate.leaked]
    rfl
  · rw [observe_cleanup, past.atGate.cleanup]
    cases op with
    | release budgetId amount => exact absurd rfl (unreleased budgetId amount)
    | _ => rfl

theorem require_budget_run (budgetId : String) (past : PastGates context call progress) :
    Conforms (commitSpec context call) (fun outcome after => PastGates context call after ∧
        ∀ budget, outcome = .ok budget → (budgetId, budget) ∈ after.reads.budgets)
      (requireBudget context budgetId) progress := by
  unfold requireBudget
  by_cases configured : context.hasBudgetLedger = true
  · simp only [configured, if_true]
    apply commit_step (.budget (.get budgetId)) trivial
    intro reply _
    refine ⟨past.observe_budget (.get budgetId) reply ?_ (fun _ _ impossible =>
      by cases impossible), ?_⟩
    · cases reply <;> rfl
    · intro budget same
      subst same
      exact List.mem_cons_self
  · simp only [configured, Bool.false_eq_true, if_false]
    exact ⟨past, fun _ impossible => by cases impossible⟩

theorem resolve_amount_run (budgetId : String) (past : PastGates context call progress) :
    Conforms (commitSpec context call)
      (Handover call (fun amount after => PastGates context call after ∧
        Charges call after.reads budgetId amount))
      (resolveAmount context call budgetId) progress := by
  apply (conforms_attempt _ _ _ _).mpr
  refine Conforms.andThen
    (fun outcome after => PastGates context call after ∧
      ∀ budget, outcome = .ok budget → (budgetId, budget) ∈ after.reads.budgets)
    (require_budget_run budgetId past) (fun budget after held => ?_) (fun error after held => ?_)
  · rw [conforms_settle]
    cases resolved : resolveBudgetConsumeAmount budget call.manifest with
    | ok amount => exact ⟨held.1, budget, held.2 budget rfl, resolved⟩
    | error error =>
        by_cases known : error.isAuthorityBudget = true
        · simp only [known, if_true]
          exact refuse_run held.1.aborted _ _ _
        · simp only [known, Bool.false_eq_true, if_false]
          exact held.1.aborted.exit error
  · by_cases known : error.isAuthorityBudget = true
    · simp only [known, if_true]
      exact refuse_run held.1.aborted _ _ _
    · simp only [known, Bool.false_eq_true, if_false]
      exact held.1.aborted.exit error

/-- Where the commit stands after asking its budget for the amount. -/
def AmountAsked (context : EngineContext) (call : CommitCall) (budgetId : String)
    (amount : Nat) : Except PyError Bool → Progress → Prop
  | .ok true, after =>
      Stage context call (some (budgetId, amount)) { budget := .held budgetId amount } after
  | .ok false, after => PastGates context call after
  | .error _, after => PastGates context call after

theorem reserve_amount_run (budgetId : String) (amount : Nat)
    (bound : call.grant.authorityBudgetId = some budgetId)
    (past : PastGates context call progress) (charges : Charges call progress.reads budgetId amount) :
    Conforms (commitSpec context call)
      (Handover call (fun hold => Stage context call hold { budget := heldUse hold }))
      (reserveBudgetAmount call budgetId amount) progress := by
  have work := past.atGate.work
  refine Conforms.andThen (AmountAsked context call budgetId amount)
    (commit_step (.budget (.reserve budgetId amount)) ?_ (fun reply _ => ?_))
    (fun reserved after held => ?_) (fun error after held => ?_)
  · refine ⟨bound, charges, ?_, ?_⟩
    · rw [work]
    · rw [work]
  · cases reply with
    | error error =>
        exact past.observe_budget (.reserve budgetId amount) (.error error) rfl
          (fun _ _ impossible => by cases impossible)
    | ok reserved =>
        cases reserved with
        | false =>
            exact past.observe_budget (.reserve budgetId amount) (.ok false) rfl
              (fun _ _ impossible => by cases impossible)
        | true =>
            have extended := reads_observe_extends progress.reads
              (.budget (.reserve budgetId amount)) (.ok true)
            refine ⟨past.gates.extend extended, ⟨bound, charges.extend extended⟩, ?_, ?_, ?_⟩
            · rw [observe_work, work]
              rfl
            · rw [observe_leaked, past.atGate.leaked]
              rfl
            · rw [observe_cleanup, past.atGate.cleanup]
              rfl
  · cases reserved with
    | true => exact held
    | false =>
        have pastRefused : PastGates context call after := held
        refine Conforms.andThen
          (fun _ later => PastGates context call later)
          (commit_step (.budget (.remaining budgetId)) trivial (fun reply _ => ?_))
          (fun remaining later pastLater => ?_)
          (fun error later pastLater => pastLater.aborted.exit error)
        · apply pastRefused.observe_budget (.remaining budgetId) reply _
            (fun _ _ impossible => by cases impossible)
          cases reply <;> rfl
        · exact refuse_run pastLater.aborted _ _ _
  · have pastRaised : PastGates context call after := held
    exact pastRaised.aborted.exit error

theorem reserve_budget_run (past : PastGates context call progress) :
    Conforms (commitSpec context call)
      (Handover call (fun hold => Stage context call hold { budget := heldUse hold }))
      (reserveBudget context call) progress := by
  unfold reserveBudget
  cases bound : call.grant.authorityBudgetId with
  | none => exact ⟨past.gates, bound, past.atGate.work, past.atGate.leaked, past.atGate.cleanup⟩
  | some budgetId =>
      exact Conforms.andThen _ (resolve_amount_run budgetId past)
        (fun amount _ held => reserve_amount_run budgetId amount bound held.1 held.2)
        (fun _ _ exits => exits)

/-! ### The whole call -/

/-- Every commit call follows its protocol, whatever the components answer, and
ends as `CommitExit` says. -/
theorem commit_conforms (context : EngineContext) (call : CommitCall) :
    Conforms (commitSpec context call) (CommitExit call) (commit context call) {} := by
  have atGate : AtGate {} := ⟨rfl, rfl, rfl⟩
  refine Conforms.andThen
    (Handover call (fun (_ : Unit) => PastGates context call))
    ((gates_run atGate).mono (fun outcome after held => ?_))
    (fun _ _ past => ?_) (fun _ _ exits => exits)
  · cases outcome with
    | ok _ => exact ⟨held.1, held.2.2 () rfl⟩
    | error error =>
        obtain ⟨work, leaked, cleanup⟩ := held.1
        apply Aborted.exit
        constructor
        · rw [work]
        · rw [work]
          exact fun impossible => by cases impossible
        · rw [leaked, work]
          simp [Work.Residue, BudgetUse.isHeld]
        · rw [work]
          rfl
  · refine Conforms.andThen _ (reserve_budget_run past) (fun hold _ budgeted => ?_)
      (fun _ _ exits => exits)
    refine Conforms.andThen _ (reserve_grant_run budgeted) (fun _ _ reserved => ?_)
      (fun _ _ exits => exits)
    refine Conforms.andThen _ (enter_run reserved) (fun _ _ entered => ?_)
      (fun _ _ exits => exits)
    exact Conforms.andThen _ (record_outbox_run entered) (fun _ _ recorded =>
      execute_run recorded) (fun _ _ exits => exits)

end KarmaSakshi.Engine
