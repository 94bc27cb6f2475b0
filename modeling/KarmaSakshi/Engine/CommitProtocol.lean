import KarmaSakshi.Engine.TransitionProtocol

/-!
A whole commit call follows its protocol, and what it leaves behind.

Each part of the operation is entered with a known amount of work done and
hands the next known amount on.  `CommitExit` is what every way out guarantees:
a success is backed by an effect or by the ledger, an abort before the adapter
leaves residue exactly when something leaked, and a call nobody disturbed does
not keep its budget.
-/

namespace KarmaSakshi.Engine

open EffectProgram KarmaSakshi.Domain KarmaSakshi.Stores

set_option autoImplicit false

/-! ### The exit of a commit -/

def BudgetUse.isHeld : BudgetUse → Bool
  | held _ _ => true
  | _ => false

/-- What an aborted commit must not leave behind. -/
def Work.Residue (work : Work) : Prop :=
  work.budget.isHeld = true ∨ work.grant = .held ∨ work.moved = some .committing ∨
    work.stored = some .committing

/-- The call's success is an earlier one, read from the ledger. -/
def Work.Replays (work : Work) (result : CommitResult) : Prop :=
  work.adapter = .idle ∧ ∃ outcomeRef, work.ledger = .hit outcomeRef ∧
    result.providerReference = some outcomeRef

/-- No clean-up operation raised and no other call interfered. -/
def Flags.Undisturbed (flags : Flags) : Prop :=
  flags.cleanupRaised = false ∧ flags.interfered = false

/-- No component failed and no other call interfered. -/
def Flags.Calm (flags : Flags) : Prop :=
  flags.faulted = false ∧ flags.interfered = false

structure CommitExit (call : CommitCall) (outcome : Except PyError CommitResult)
    (after : Progress) : Prop where
  succeeds : ∀ result, outcome = .ok result → result.success = true →
    after.work.grant = .spent ∧
      (after.work.adapter = .succeeded result ∨ after.work.Replays result)
  aborts : isError outcome = true → after.work.adapter = .idle → after.flags.Undisturbed →
    (after.flags.leaked = true ↔ after.work.Residue) ∧ after.work.grant ≠ .spent
  settles : after.flags.Calm → after.work.budget.isHeld = false ∧
    ∀ result, after.work.adapter = .succeeded result →
      after.work.moved = some .committed ∧
        (call.grant.authorityBudgetId.isSome = true →
          ∃ budgetId amount, after.work.budget = .spent budgetId amount)

variable {context : EngineContext} {call : CommitCall}

theorem exit_of_spoiled {error : PyError} {after : Progress} (spoiled : Spoiled after) :
    CommitExit call (.error error) after := by
  constructor
  · exact fun _ impossible => by cases impossible
  · rintro _ _ ⟨clean, alone⟩
    rcases spoiled with interfered | ⟨raised, _⟩
    · exact absurd interfered (by simp [alone])
    · exact absurd raised (by simp [clean])
  · rintro ⟨calm, alone⟩
    rcases spoiled with interfered | ⟨_, faulted⟩
    · exact absurd interfered (by simp [alone])
    · exact absurd faulted (by simp [calm])

/-- After the adapter answered, a failing component is the only way to raise. -/
theorem exit_of_fault {error : PyError} {after : Progress} (faulted : after.flags.faulted = true)
    (executed : after.work.adapter ≠ .idle) : CommitExit call (.error error) after := by
  constructor
  · exact fun _ impossible => by cases impossible
  · exact fun _ idle => absurd idle executed
  · rintro ⟨calm, _⟩
    exact absurd faulted (by simp [calm])

/-- A raise before the adapter was reached. -/
theorem exit_of_abort {error : PyError} {after : Progress} (idle : after.work.adapter = .idle)
    (unspent : after.work.grant ≠ .spent)
    (leaks : after.flags.leaked = true ↔ after.work.Residue)
    (returned : after.flags.faulted = false → after.work.budget.isHeld = false) :
    CommitExit call (.error error) after := by
  constructor
  · exact fun _ impossible => by cases impossible
  · exact fun _ _ _ => ⟨leaks, unspent⟩
  · rintro ⟨calm, _⟩
    refine ⟨returned calm, ?_⟩
    intro result succeeded
    rw [idle] at succeeded
    exact absurd succeeded (by simp)

/-! ### Stages -/

/-- The budget reservation belongs to the grant and has the manifest's amount. -/
def HoldBound (call : CommitCall) (reads : Reads) : BudgetHold → Prop
  | none => call.grant.authorityBudgetId = none
  | some (budgetId, amount) =>
      call.grant.authorityBudgetId = some budgetId ∧ Charges call reads budgetId amount

def heldUse : BudgetHold → BudgetUse
  | none => .idle
  | some (budgetId, amount) => .held budgetId amount

def returnedUse : BudgetHold → BudgetUse
  | none => .idle
  | some (budgetId, amount) => .returned budgetId amount

def spentUse : BudgetHold → BudgetUse
  | none => .idle
  | some (budgetId, amount) => .spent budgetId amount

/-- A commit past its gates: what it read, the work it has done, no flag up. -/
structure Stage (context : EngineContext) (call : CommitCall) (hold : BudgetHold)
    (work : Work) (progress : Progress) : Prop where
  gates : GatesHeld context call progress.reads
  bound : HoldBound call progress.reads hold
  work : progress.work = work
  unleaked : progress.flags.leaked = false
  clean : progress.flags.cleanupRaised = false

theorem Charges.extend {earlier later : Reads} (extends_ : later.Extends earlier)
    {budgetId : String} {amount : Nat} (charges : Charges call earlier budgetId amount) :
    Charges call later budgetId amount := by
  obtain ⟨budget, read, resolved⟩ := charges
  exact ⟨budget, extends_.budgets read, resolved⟩

theorem HoldBound.extend {earlier later : Reads} (extends_ : later.Extends earlier)
    {hold : BudgetHold} (bound : HoldBound call earlier hold) : HoldBound call later hold := by
  cases hold with
  | none => exact bound
  | some held => exact ⟨bound.1, bound.2.extend extends_⟩

/-- One answered operation that raises no flag. -/
theorem Stage.observe {hold : BudgetHold} {work : Work} {progress : Progress}
    (stage : Stage context call hold work progress) (op : EngineOp)
    (reply : Except PyError (EngineReply op)) (unleaked : leaks work op reply = false)
    (clean : cleanupRaises work op reply = false) :
    Stage context call hold (work.observe call.manifestId op reply)
      (progress.observe call.manifestId op reply) := by
  have extended := reads_observe_extends progress.reads op reply
  constructor
  · exact stage.gates.extend extended
  · exact stage.bound.extend extended
  · simp only [Progress.observe, stage.work]
  · simp only [Progress.observe, Flags.observe, stage.work, stage.unleaked, unleaked,
      Bool.or_self]
  · simp only [Progress.observe, Flags.observe, stage.work, stage.clean, clean, Bool.or_self]

/-- Issue one operation of a commit and reason about its reply. -/
theorem commit_step (op : EngineOp) {exit : Except PyError (EngineReply op) → Progress → Prop}
    {progress : Progress} (admitted : commitAdmits context call progress op)
    (answers : ∀ reply, (steady op = true → isError reply = false) →
      exit reply (progress.observe call.manifestId op reply)) :
    Conforms (commitSpec context call) exit (perform op) progress :=
  (conforms_perform op exit progress).mpr ⟨admitted, answers⟩

@[simp] theorem observe_leaked (subject : String) (progress : Progress) (op : EngineOp)
    (reply : Except PyError (EngineReply op)) :
    (progress.observe subject op reply).flags.leaked =
      (progress.flags.leaked || leaks progress.work op reply) := rfl

@[simp] theorem observe_faulted (subject : String) (progress : Progress) (op : EngineOp)
    (reply : Except PyError (EngineReply op)) :
    (progress.observe subject op reply).flags.faulted =
      (progress.flags.faulted || faults op reply) := rfl

@[simp] theorem observe_cleanup (subject : String) (progress : Progress) (op : EngineOp)
    (reply : Except PyError (EngineReply op)) :
    (progress.observe subject op reply).flags.cleanupRaised =
      (progress.flags.cleanupRaised || cleanupRaises progress.work op reply) := rfl

theorem observe_work (subject : String) (progress : Progress) (op : EngineOp)
    (reply : Except PyError (EngineReply op)) :
    (progress.observe subject op reply).work = progress.work.observe subject op reply := rfl

/-- How a part of a commit ends: it hands over, or the whole call raises. -/
def Handover {Value : Type} (call : CommitCall) (next : Value → Progress → Prop)
    (outcome : Except PyError Value) (after : Progress) : Prop :=
  match outcome with
  | .ok value => next value after
  | .error error => CommitExit call (.error error) after

/-- `after` has exactly the given work, more reads, and the same flags. -/
structure Follows (before : Progress) (work : Work) (after : Progress) : Prop where
  reads : after.reads.Extends before.reads
  work : after.work = work
  leaked : after.flags.leaked = before.flags.leaked
  cleanup : after.flags.cleanupRaised = before.flags.cleanupRaised

theorem Follows.trans {first second third : Progress} {work later : Work}
    (one : Follows first work second) (two : Follows second later third) :
    Follows first later third :=
  ⟨two.reads.trans one.reads, two.work, two.leaked.trans one.leaked,
    two.cleanup.trans one.cleanup⟩

theorem Stage.follow {hold : BudgetHold} {work later : Work} {progress after : Progress}
    (stage : Stage context call hold work progress) (follows : Follows progress later after) :
    Stage context call hold later after :=
  ⟨stage.gates.extend follows.reads, stage.bound.extend follows.reads, follows.work,
    follows.leaked.trans stage.unleaked, follows.cleanup.trans stage.clean⟩

theorem follows_observe (call : CommitCall) (progress : Progress) (op : EngineOp)
    (reply : Except PyError (EngineReply op)) (unleaked : leaks progress.work op reply = false)
    (clean : cleanupRaises progress.work op reply = false) :
    Follows progress (progress.work.observe call.manifestId op reply)
      (progress.observe call.manifestId op reply) := by
  refine ⟨reads_observe_extends _ _ _, rfl, ?_, ?_⟩
  · rw [observe_leaked, unleaked, Bool.or_false]
  · rw [observe_cleanup, clean, Bool.or_false]

/-! ### Giving the holds back -/

/-- A clean-up ends as it should, unless it is spoiled. -/
def UnlessSpoiled {Value : Type} (good : Progress → Prop) (outcome : Except PyError Value)
    (after : Progress) : Prop :=
  match outcome with
  | .ok _ => good after
  | .error _ => Spoiled after

theorem release_budget_run (hold : BudgetHold) {progress : Progress}
    (held : progress.work.budget = heldUse hold) (unsuccessful : progress.work.unsuccessful) :
    Conforms (commitSpec context call)
      (UnlessSpoiled (Follows progress { progress.work with budget := returnedUse hold }))
      (releaseBudget hold) progress := by
  cases hold with
  | none =>
      show Follows progress { progress.work with budget := .idle } progress
      refine ⟨Reads.Extends.refl _, ?_, rfl, rfl⟩
      rw [show BudgetUse.idle = progress.work.budget from held.symm]
  | some reserved =>
      obtain ⟨budgetId, amount⟩ := reserved
      apply commit_step (.budget (.release budgetId amount)) ⟨held, unsuccessful⟩
      intro reply _
      cases reply with
      | ok done => exact follows_observe call progress _ (.ok done) rfl rfl
      | error error => exact Or.inr (by simp [cleanupRaises, faults, isError])

theorem release_holds_run (hold : BudgetHold) {progress : Progress}
    (reserved : progress.work.grant = .held) (held : progress.work.budget = heldUse hold)
    (unsuccessful : progress.work.unsuccessful) :
    Conforms (commitSpec context call)
      (UnlessSpoiled (Follows progress
        { progress.work with grant := .returned, budget := returnedUse hold }))
      (releaseHolds call hold) progress := by
  apply Conforms.andThen
    (UnlessSpoiled (Follows progress { progress.work with grant := .returned }))
    (commit_step (.grants (.release call.grantId)) ⟨rfl, reserved, unsuccessful⟩
      (fun reply _ => ?_))
    (fun _ after follows => ?_) (fun _ after spoiled => ?_)
  · cases reply with
    | ok done => exact follows_observe call progress _ (.ok done) rfl rfl
    | error error => exact Or.inr (by simp [cleanupRaises, faults, isError])
  · have grantReturned : Follows progress { progress.work with grant := .returned } after :=
      follows
    have heldAfter : after.work.budget = heldUse hold := by
      rw [grantReturned.work]
      exact held
    have unsuccessfulAfter : after.work.unsuccessful := by
      rw [grantReturned.work]
      exact unsuccessful
    apply (release_budget_run hold heldAfter unsuccessfulAfter).mono
    intro outcome final ending
    cases outcome with
    | ok _ =>
        have both := grantReturned.trans ending
        rw [grantReturned.work] at both
        exact both
    | error _ => exact ending
  · exact spoiled

/-! ### The final transition -/

/-- While a call settles, a transition to anything but COMMITTING cannot leak. -/
theorem settling_keeps_unleaked {target : LifecycleState} (elsewhere : target ≠ .committing)
    {subject manifestId : String} {progress : Progress} {op : EngineOp}
    (within : transitionOp context manifestId target op)
    (reply : Except PyError (EngineReply op))
    (held : progress.flags.leaked = false ∧ progress.work.settling = true) :
    (progress.observe subject op reply).flags.leaked = false ∧
      (progress.observe subject op reply).work.settling = true := by
  obtain ⟨unleaked, settling⟩ := held
  have differs : target.value ≠ LifecycleState.committing.value :=
    fun same => elsewhere (LifecycleState.value_injective same)
  cases op with
  | now => exact ⟨by simp [unleaked, leaks], settling⟩
  | audit record =>
      have reported : record.toState = some target.value := within
      exact ⟨by simp [unleaked, leaks, reported, differs], settling⟩
  | «recall» manifestId =>
      refine ⟨by simp [unleaked, leaks], ?_⟩
      rw [observe_work, Work.observe.eq_def]
      cases reply with
      | error error => exact settling
      | ok found =>
          cases found with
          | none => exact settling
          | some record => dsimp only; split <;> exact settling
  | remember manifestId record =>
      refine ⟨by simp [unleaked, leaks], ?_⟩
      rw [observe_work, Work.observe.eq_def]
      cases reply with
      | error error => exact settling
      | ok _ => dsimp only; split <;> exact settling
  | lifecycle inner =>
      constructor
      · cases reply <;> simp [unleaked, leaks, settling]
      · rw [observe_work, Work.observe.eq_def]
        cases inner with
        | get manifestId => exact settling
        | compareAndSet manifestId expected newState =>
            cases reply with
            | error error => exact settling
            | ok won =>
                cases won with
                | false => exact settling
                | true => dsimp only; split <;> exact settling
  | _ => exact within.elim

/-- The phases in which a commit moves its manifest. -/
def enteringPhase (work : Work) : Prop := work.grant = .held ∧ work.adapter = .idle

def failingPhase (work : Work) : Prop := work.grant = .returned ∧ work.unsuccessful

def committedPhase (work : Work) : Prop := work.grant = .spent

theorem commit_hosts {target : LifecycleState} {phase : Work → Prop}
    (allowed : ∀ work, phase work →
      (target = .committing ∧ work.grant = .held ∧ work.adapter = .idle) ∨
        (target = .failed ∧ work.grant = .returned ∧ work.unsuccessful) ∨
        (target = .committed ∧ work.grant = .spent))
    (stable : ∀ work origin cached moved stored, phase work →
      phase { work with origin, cached, moved, stored }) :
    Hosts context (commitSpec context call) call.manifestId target phase where
  observes := rfl
  steadily := fun _ _ _ expected => expected
  ticks := fun _ => trivial
  audits := fun _ _ => trivial
  recalls := fun _ => rfl
  remembers := fun _ _ => rfl
  gets := fun _ configured => ⟨configured, rfl⟩
  writes := fun _ _ configured inPhase legal => ⟨configured, rfl, legal, allowed _ inPhase⟩
  stable := stable

theorem entering_hosts :
    Hosts context (commitSpec context call) call.manifestId .committing enteringPhase :=
  commit_hosts (fun _ inPhase => Or.inl ⟨rfl, inPhase⟩) (fun _ _ _ _ _ inPhase => inPhase)

theorem failing_hosts :
    Hosts context (commitSpec context call) call.manifestId .failed failingPhase :=
  commit_hosts (fun _ inPhase => Or.inr (Or.inl ⟨rfl, inPhase⟩))
    (fun _ _ _ _ _ inPhase => inPhase)

theorem committed_hosts :
    Hosts context (commitSpec context call) call.manifestId .committed committedPhase :=
  commit_hosts (fun _ inPhase => Or.inr (Or.inr ⟨rfl, inPhase⟩))
    (fun _ _ _ _ _ inPhase => inPhase)

/-- The manifest is in COMMITTING by this call's own writes. -/
structure OwnCommitting (context : EngineContext) (work : Work) : Prop where
  cached : work.cached = some .committing
  stored : work.stored = if context.hasLifecycleStore then some .committing else none

/-- The final transition happened and leaked nothing. -/
structure Settled (context : EngineContext) (target : LifecycleState) (before after : Progress) :
    Prop where
  work : ∃ fromState, after.work = (before.work.knowing fromState).advancedTo context target
  leaked : after.flags.leaked = false

theorem settle_run {target : LifecycleState} {phase : Work → Prop}
    (hosts : Hosts context (commitSpec context call) call.manifestId target phase)
    (note : TransitionNote)
    (legal : LifecycleState.isLegalTransition .committing target = true) {progress : Progress}
    (inPhase : phase progress.work) (settling : progress.work.settling = true)
    (own : OwnCommitting context progress.work) (unleaked : progress.flags.leaked = false) :
    Conforms (commitSpec context call) (UnlessSpoiled (Settled context target progress))
      (transition context call.manifestId target note) progress := by
  have elsewhere : target ≠ .committing := (LifecycleState.legal_is_strict legal).symm
  have stored : context.hasLifecycleStore = true →
      progress.work.stored = some .committing := by
    intro configured
    rw [own.stored, if_pos configured]
  have settles := transition_settles hosts note legal inPhase settling own.cached stored
  have writes : Conforms (commitSpec context call)
      (fun outcome after => Transitioned context target progress.work outcome after ∧
        (after.flags.leaked = false ∧ after.work.settling = true))
      (transition context call.manifestId target note) progress :=
    (transition_writes hosts note progress inPhase).keeping
      (transition_uses context call.manifestId target note)
      (fun _ _ reply held within => settling_keeps_unleaked elsewhere within reply held)
      ⟨unleaked, settling⟩
  apply (settles.and writes).mono
  rintro outcome after ⟨settled, written, stillUnleaked, _⟩
  cases outcome with
  | ok record =>
      obtain ⟨fromState, _, work⟩ := written
      exact ⟨⟨fromState, work⟩, stillUnleaked⟩
  | error error => exact settled rfl

/-- A settled transition leaves no COMMITTING behind. -/
theorem Settled.no_residue {target : LifecycleState} {before after : Progress}
    (settled : Settled context target before after) (elsewhere : target ≠ .committing)
    (own : OwnCommitting context before.work) (budget : before.work.budget.isHeld = false)
    (grant : before.work.grant ≠ .held) : ¬ after.work.Residue := by
  obtain ⟨fromState, work⟩ := settled.work
  rintro (held | reserved | moved | stored)
  · rw [work] at held
    exact absurd held (by simp [Work.advancedTo, Work.persisted, Work.knowing, budget])
  · rw [work] at reserved
    exact grant reserved
  · rw [work] at moved
    exact elsewhere (Option.some.inj moved)
  · rw [work] at stored
    by_cases configured : context.hasLifecycleStore = true
    · simp only [Work.advancedTo, Work.persisted, configured, if_true, Option.some.injEq] at stored
      exact elsewhere stored
    · simp [Work.advancedTo, Work.persisted, Work.knowing, configured, own.stored] at stored

end KarmaSakshi.Engine
