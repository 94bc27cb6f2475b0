import KarmaSakshi.Engine.Scenario
import KarmaSakshi.Engine.TransitionEnds

/-!
When a transition either happens or does not.

The rollback covers the store's own unavailability.  Whatever else the store raises, and a
journal that fails after the durable write, leave the manifest moved behind the error.
-/

namespace KarmaSakshi.Guarantees

open EffectProgram KarmaSakshi.Domain KarmaSakshi.Stores KarmaSakshi.Engine

set_option autoImplicit false

variable {Host : Type} [DecidableEq Host]

/-- A transition that raises leaves memory and the durable entry as they were; one that
returns leaves the target in both and appends its one audit event. -/
def TransitionAtomic (context : EngineContext) (host : Host) (manifestId : String)
    (target : LifecycleState) (note : TransitionNote) (before : World Host) :
    Except PyError LifecycleRecord → World Host → Prop
  | .error _, after => SameLifecycle context host manifestId before after
  | .ok _, after => HoldsState context host manifestId target after ∧
      after.audit = before.audit ++ [note.record "allowed" manifestId
        (before.recordOf context host manifestId).state target]

/-- Once the transition is legal, the lifecycle store raises nothing but its unavailability,
and the journal does not fail on a write that went through. -/
def FailsInTime (context : EngineContext) (environment : Environment) (host : Host)
    (manifestId : String) (target : LifecycleState) (world : World Host) : Prop :=
  LifecycleState.isLegalTransition (world.recordOf context host manifestId).state target = true →
    (context.hasLifecycleStore = true → ∀ error, environment.mayRaise .lifecycle error →
      error.isStoreUnavailable = true) ∧
    (WritesThrough context manifestId (world.recordOf context host manifestId).state world →
      ∀ error, ¬ environment.mayRaise .audit error)

section Proof

variable {context : EngineContext} {host : Host} {manifestId : String} {target : LifecycleState}
  {world after : World Host}

omit [DecidableEq Host] in
theorem advanced_is_not_same
    (legal : LifecycleState.isLegalTransition
      (world.recordOf context host manifestId).state target = true)
    (memory : (after.recordOf context host manifestId).state = target) :
    ¬ SameLifecycle context host manifestId world after := by
  intro same
  exact LifecycleState.legal_is_strict legal (same.state.symm.trans memory)

end Proof

theorem transition_atomic_iff (context : EngineContext) (environment : Environment) (host : Host)
    (manifestId : String) (target : LifecycleState) (note : TransitionNote) (world : World Host) :
    (∀ outcome after, (transition context manifestId target note).Yields
      (environment.answers host) world outcome after →
        TransitionAtomic context host manifestId target note world outcome after) ↔
      FailsInTime context environment host manifestId target world := by
  constructor
  · intro atomic legal
    constructor
    · intro stored error raises
      by_contra uncaught
      obtain ⟨after, yields, memory⟩ := transition_runs_ahead legal stored raises uncaught
      exact advanced_is_not_same legal memory (atomic _ after yields)
    · intro writes error raises
      obtain ⟨_, _, _, _, tears⟩ := transition_moves legal writes
      obtain ⟨torn, yields, holds⟩ := tears error raises
      exact advanced_is_not_same legal holds.memory (atomic _ torn yields)
  · intro inTime outcome after yields
    cases transition_ends outcome after yields with
    | kept same blocked => exact same
    | moved legal writes holds audited => exact ⟨holds, audited⟩
    | unaudited legal writes raises holds => exact absurd raises ((inTime legal).2 writes _)
    | ahead legal stored raises uncaught memory =>
        exact absurd ((inTime legal).1 stored _ raises) uncaught

/-! ### A journal that fails -/

namespace FailingJournal

def failure : PyError := ⟨.auditWrite, "failed to durably write audit event event-1"⟩

def environment : Environment :=
  { Payment.prompt.environment with
    mayRaise := fun component error => component = .audit ∧ error = failure }

/-- The transfer is sealed in the durable store. -/
def world : World Unit :=
  { Payment.emptyWorld Unit with lifecycle := .memory ⟨fun _ => some .sealed⟩ }

def note : TransitionNote where
  eventType := "grant.issued"
  manifestHash := some Payment.transferHash
  grantId := some "grant-1"
  actorId := some "treasury"
  metadata := []

end FailingJournal

/-- The write-through has happened when the journal fails: the manifest is AUTHORIZED in
memory and in the store, and the transition raises. -/
theorem failing_journal_tears_transition :
    ¬ ∀ outcome after, (transition Payment.context "mf-1" .authorized
      FailingJournal.note).Yields (FailingJournal.environment.answers ()) FailingJournal.world
        outcome after →
          TransitionAtomic Payment.context () "mf-1" .authorized FailingJournal.note
            FailingJournal.world outcome after := by
  intro atomic
  have legal : LifecycleState.isLegalTransition
      (FailingJournal.world.recordOf Payment.context () "mf-1").state .authorized = true := rfl
  obtain ⟨_, _, _, _, tears⟩ := @transition_moves _ _ _ FailingJournal.environment _ _ _
    FailingJournal.note _ legal (fun _ => Or.inl rfl)
  obtain ⟨torn, yields, holds⟩ := tears FailingJournal.failure ⟨rfl, rfl⟩
  exact advanced_is_not_same legal holds.memory (atomic _ torn yields)

end KarmaSakshi.Guarantees
