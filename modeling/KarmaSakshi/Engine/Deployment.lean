import KarmaSakshi.Engine.Answers
import KarmaSakshi.Engine.Calls

/-!
Many engines serving calls at the same time.

A deployment fixes the calls, the engine each of them runs on, and how the
components answer.  Which components are shared is a property of the answers, so
the same pool covers one engine with many threads and many engines over one
store.
-/

namespace KarmaSakshi.Engine

open EffectProgram KarmaSakshi.Domain KarmaSakshi.Stores

set_option autoImplicit false

variable {World Caller : Type} [DecidableEq Caller]

/-- The calls of a deployment and what answers them.  `mayStart` and
`mayPerform` restrict the scheduler; a deployment that restricts nothing has
every interleaving. -/
structure Deployment (World Caller : Type) [DecidableEq Caller] where
  context : Caller → EngineContext
  call : Caller → EngineCall
  answers : Caller → Handler EngineOp EngineReply PyError World
  mayStart : Config EngineOp EngineReply PyError CallResult World Caller → Caller → Prop
  mayPerform : Config EngineOp EngineReply PyError CallResult World Caller → Caller →
    EngineOp → Prop
  steadily : ∀ caller world op reply after, answers caller world op reply after →
    steady op = true → isError reply = false

/-- A state of a deployment. -/
abbrev Snapshot (World Caller : Type) :=
  Config EngineOp EngineReply PyError CallResult World Caller

abbrev Log (Caller : Type) := List (Entry EngineOp EngineReply PyError CallResult Caller)

namespace Deployment

variable (deployment : Deployment World Caller)

def pool : Pool EngineOp EngineReply PyError CallResult World Caller where
  program := fun caller => (deployment.call caller).program (deployment.context caller)
  handler := deployment.answers
  mayStart := deployment.mayStart
  mayPerform := deployment.mayPerform

def specOf (caller : Caller) : Spec EngineOp EngineReply PyError Progress :=
  (deployment.call caller).spec (deployment.context caller)

/-- What one caller has done by now. -/
def progressIn (log : Log Caller) (caller : Caller) : Progress :=
  (deployment.specOf caller).seen {} caller log

def progress (config : Snapshot World Caller) (caller : Caller) : Progress :=
  deployment.progressIn config.log caller

def Reachable (world : World) (config : Snapshot World Caller) : Prop :=
  deployment.pool.Reachable world config

@[simp] theorem progress_start (config : Snapshot World Caller) (caller other : Caller)
    (program : Action CallResult) :
    deployment.progress (config.start caller program) other = deployment.progress config other :=
  seen_started _ _ _ _ _

@[simp] theorem progress_finish (config : Snapshot World Caller) (caller other : Caller)
    (outcome : Except PyError CallResult) :
    deployment.progress (config.finish caller outcome) other = deployment.progress config other :=
  seen_finished _ _ _ _ _ _

variable {op : EngineOp}
  (resume : Except PyError (EngineReply op) → Action CallResult)
  (reply : Except PyError (EngineReply op)) (world : World)

@[simp] theorem progress_answer_own (config : Snapshot World Caller) (caller : Caller) :
    deployment.progress (config.answer caller op resume reply world) caller =
      (deployment.progress config caller).observe (deployment.call caller).subject op reply :=
  seen_own _ _ _ _ _ _

theorem progress_answer_other (config : Snapshot World Caller) {caller other : Caller}
    (differs : other ≠ caller) :
    deployment.progress (config.answer caller op resume reply world) other =
      deployment.progress config other :=
  seen_other _ _ _ _ _ _ _ (fun same => differs same.symm)

/-- What an invariant of a deployment has to survive. -/
structure Keeps (invariant : Snapshot World Caller → Prop) : Prop where
  started : ∀ config caller, invariant config → deployment.mayStart config caller →
    config.status caller = .waiting → deployment.progress config caller = {} →
      invariant (config.start caller (deployment.pool.program caller))
  answered : ∀ config caller (op : EngineOp) resume reply world, invariant config →
    config.status caller = .running (.call op resume) → deployment.mayPerform config caller op →
    (deployment.call caller).admits (deployment.context caller)
      (deployment.progress config caller) op →
    deployment.answers caller config.world op reply world →
      invariant (config.answer caller op resume reply world)
  finished : ∀ config caller outcome, invariant config →
    config.status caller = .running (.settle outcome) →
    (deployment.call caller).exit (deployment.context caller) outcome
      (deployment.progress config caller) →
      invariant (config.finish caller outcome)

variable {deployment}

/-- One state of the deployment leads to another. -/
def Leads (deployment : Deployment World Caller) (middle config : Snapshot World Caller) : Prop :=
  Relation.ReflTransGen deployment.pool.Step middle config

/-- Where every caller of a reachable state stands. -/
def Stands (deployment : Deployment World Caller) (config : Snapshot World Caller)
    (caller : Caller) : Prop :=
  Standing (deployment.specOf caller)
    ((deployment.call caller).exit (deployment.context caller))
    (deployment.progress config caller) {} (config.status caller)

theorem Keeps.in_pool {invariant : Snapshot World Caller → Prop}
    (keeps : deployment.Keeps invariant) :
    deployment.pool.Keeps deployment.specOf
      (fun caller => (deployment.call caller).exit (deployment.context caller))
      (fun _ => {}) invariant := by
  constructor
  · exact fun config caller held waits permitted fresh =>
      keeps.started config caller held permitted waits fresh
  · intro config caller op resume reply world held runs permitted admitted answered
    exact ⟨deployment.steadily caller config.world op reply world answered,
      keeps.answered config caller op resume reply world held runs permitted admitted answered⟩
  · exact fun config caller outcome held runs ended =>
      keeps.finished config caller outcome held runs ended

theorem Keeps.reachable {invariant : Snapshot World Caller → Prop}
    (keeps : deployment.Keeps invariant) {initial : World}
    (start : invariant (Pool.initial initial)) {config : Snapshot World Caller}
    (reached : deployment.Reachable initial config) :
    invariant config ∧ ∀ caller, deployment.Stands config caller :=
  keeps.in_pool.reachable (fun _ => call_conforms _ _) start reached

theorem reachable_stands {initial : World} {config : Snapshot World Caller}
    (reached : deployment.Reachable initial config) (caller : Caller) :
    deployment.Stands config caller := by
  have keeps : deployment.Keeps (fun _ => True) :=
    ⟨fun _ _ _ _ _ _ => trivial, fun _ _ _ _ _ _ _ _ _ _ _ => trivial,
      fun _ _ _ _ _ _ => trivial⟩
  exact (keeps.reachable trivial reached).2 caller

/-- The invariant rule from a reachable state onwards. -/
theorem Keeps.onward {invariant : Snapshot World Caller → Prop}
    (keeps : deployment.Keeps invariant) {initial : World} {middle config : Snapshot World Caller}
    (reached : deployment.Reachable initial middle) (held : invariant middle)
    (leads : deployment.Leads middle config) : invariant config :=
  (keeps.in_pool.onward (fun _ => call_conforms _ _) held (reachable_stands reached)
    leads).1

/-- One of the caller's own steps satisfied `fact`. -/
def Took (deployment : Deployment World Caller) (initial : World) (caller : Caller)
    (fact : World → EngineEvent → World → Prop) (config : Snapshot World Caller) : Prop :=
  deployment.pool.Took initial caller fact config

/-- What a call's progress shows was caused by one of its steps. -/
theorem took_of_progress {initial : World} {config : Snapshot World Caller}
    (reached : deployment.Reachable initial config) (caller : Caller) (mark : Progress → Prop)
    (absent : ¬ mark {}) (fact : World → EngineEvent → World → Prop)
    (explained : ∀ before (op : EngineOp) reply after progress,
      (deployment.call caller).admits (deployment.context caller) progress op →
      deployment.answers caller before op reply after →
      mark (progress.observe (deployment.call caller).subject op reply) →
        mark progress ∨ fact before ⟨op, reply⟩ after)
    (shown : mark (deployment.progress config caller)) :
    deployment.Took initial caller fact config := by
  have conforms : ∀ actor, Conforms (deployment.specOf actor)
      ((deployment.call actor).exit (deployment.context actor)) (deployment.pool.program actor) {} :=
    fun _ => call_conforms _ _
  exact Pool.took_of_watched conforms
    (fun actor world op reply after _ answered =>
      deployment.steadily actor world op reply after answered)
    caller mark absent fact explained reached shown

end Deployment

/-! ### Shared components -/

/-- The callers use one grant store: it answers or raises, and nothing else
writes to it. -/
structure SharesGrantStore (deployment : Deployment World Caller) (grantsOf : World → GrantStore) :
    Prop where
  serves : ∀ caller world (op : GrantOp) reply after,
    deployment.answers caller world (.grants op) reply after →
      (isError reply = true ∧ grantsOf after = grantsOf world) ∨
        (reply = ((grantsOf world).serve op).1 ∧ grantsOf after = ((grantsOf world).serve op).2)
  frames : ∀ caller world op reply after, deployment.answers caller world op reply after →
    (∀ inner, op ≠ .grants inner) → grantsOf after = grantsOf world

/-- A grant operation raises and changes nothing, or is served. -/
theorem SharesGrantStore.answer {deployment : Deployment World Caller}
    {grantsOf : World → GrantStore} (shared : SharesGrantStore deployment grantsOf)
    {caller : Caller} {world after : World} {inner : GrantOp}
    {reply : Except PyError (GrantReply inner)}
    (answered : deployment.answers caller world (.grants inner) reply after) :
    (∃ error, reply = .error error ∧ (grantsOf after).view = (grantsOf world).view) ∨
      ∃ value, reply = .ok value ∧ ((grantsOf world).view.serve inner).1 = .ok value ∧
        (grantsOf after).view = ((grantsOf world).view.serve inner).2 := by
  rcases shared.serves caller world inner reply after answered with ⟨raised, same⟩ | served
  · left
    cases reply with
    | ok value => exact absurd raised (by simp [isError])
    | error error => exact ⟨error, rfl, by rw [same]⟩
  · obtain ⟨replied, stored⟩ := served
    have viewed := ((grantsOf world).serve_view inner).2
    rw [← stored] at viewed
    cases reply with
    | ok value => exact Or.inr ⟨value, rfl, GrantStore.serve_ok replied.symm, viewed⟩
    | error error =>
        refine Or.inl ⟨error, rfl, viewed.trans ?_⟩
        exact GrantStore.serve_raised replied.symm

/-- No call records lineage rows. -/
theorem admits_no_lineage {context : EngineContext} {call : EngineCall} {progress : Progress}
    {child : String} {parent : Option String}
    (admitted : call.admits context progress (.grants (.recordLineage child parent))) : False := by
  cases call with
  | commit inner => exact admitted
  | move subject target note => exact admitted
  | recover inner => exact admitted.2
  | revoke inner => exact admitted
  | compensate inner => exact admitted

namespace SharesGrantStore

variable {deployment : Deployment World Caller} {grantsOf : World → GrantStore} {initial : World}
  {config : Snapshot World Caller}

theorem lineage_step (shared : SharesGrantStore deployment grantsOf) {caller : Caller}
    {world after : World} {op : EngineOp} {reply : Except PyError (EngineReply op)}
    {progress : Progress}
    (admitted : (deployment.call caller).admits (deployment.context caller) progress op)
    (answered : deployment.answers caller world op reply after) :
    (grantsOf after).view.lineage = (grantsOf world).view.lineage := by
  by_cases grantsOp : ∃ inner, op = .grants inner
  · obtain ⟨inner, rfl⟩ := grantsOp
    rcases shared.answer answered with ⟨_, _, same⟩ | ⟨value, _, _, served⟩
    · rw [same]
    · rw [served]
      apply InMemoryGrantStore.serve_keeps_lineage
      intro child parent same
      subst same
      exact admits_no_lineage admitted
  · rw [shared.frames caller world op reply after answered
      (fun inner equal => grantsOp ⟨inner, equal⟩)]

theorem lineage_constant (shared : SharesGrantStore deployment grantsOf)
    (reached : deployment.Reachable initial config) :
    (grantsOf config.world).view.lineage = (grantsOf initial).view.lineage := by
  have keeps : deployment.Keeps (fun current =>
      (grantsOf current.world).view.lineage = (grantsOf initial).view.lineage) :=
    ⟨fun _ _ held _ _ _ => held,
      fun _ _ _ _ _ _ held _ _ admitted answered =>
        (shared.lineage_step admitted answered).trans held,
      fun _ _ _ held _ _ => held⟩
  exact (keeps.reachable rfl reached).1

/-- The parents a call has read are the recorded ones. -/
theorem parents_are_recorded (shared : SharesGrantStore deployment grantsOf)
    (reached : deployment.Reachable initial config) {caller : Caller} {child : String}
    {parent : Option String}
    (read : (child, parent) ∈ (deployment.progress config caller).reads.parents) :
    parent = ((grantsOf initial).view.lineage child).getD none := by
  have took := Deployment.took_of_progress reached caller
    (fun progress => (child, parent) ∈ progress.reads.parents) (by simp)
    (fun before _ _ => parent = ((grantsOf before).view.lineage child).getD none)
    (fun before op reply after progress _ answered member => by
      refine (Reads.parent_by_answer _ member).imp_right (fun equal => ?_)
      cases equal
      rcases shared.answer answered with ⟨_, impossible, _⟩ | ⟨value, replied, served, _⟩
      · cases impossible
      · exact (Except.ok.inj replied).trans (Except.ok.inj served).symm) read
  obtain ⟨moment, _, _, _, _, reachedMoment, _, _, _, recorded⟩ := took
  rw [recorded, shared.lineage_constant reachedMoment]

end SharesGrantStore

/-- The callers use one lifecycle store with an atomic compare-and-set. -/
structure SharesLifecycleStore (deployment : Deployment World Caller)
    (statesOf : World → LifecycleMap) : Prop where
  reads : ∀ caller world manifestId reply after,
    deployment.answers caller world (.lifecycle (.get manifestId)) reply after →
      statesOf after = statesOf world ∧ ∀ state, reply = .ok state → state = statesOf world manifestId
  swaps : ∀ caller world manifestId expected newState reply after,
    deployment.answers caller world (.lifecycle (.compareAndSet manifestId expected newState))
      reply after →
      (isError reply = true ∧ statesOf after = statesOf world) ∨
        (reply = .ok ((statesOf world).compareAndSet manifestId expected newState).1 ∧
          statesOf after = ((statesOf world).compareAndSet manifestId expected newState).2)
  frames : ∀ caller world op reply after, deployment.answers caller world op reply after →
    (∀ inner, op ≠ .lifecycle inner) → statesOf after = statesOf world

/-- Every caller looks its records up in the cache of its own engine. -/
structure OwnsRecords {Host : Type} [DecidableEq Host] (deployment : Deployment World Caller)
    (engineOf : Caller → Host) (recordsOf : World → Host → String → Option LifecycleRecord) :
    Prop where
  recalls : ∀ caller world manifestId reply after,
    deployment.answers caller world (.recall manifestId) reply after →
      reply = .ok (recordsOf world (engineOf caller) manifestId) ∧
        recordsOf after = recordsOf world
  remembers : ∀ caller world manifestId record reply after,
    deployment.answers caller world (.remember manifestId record) reply after →
      recordsOf after = Function.update (recordsOf world) (engineOf caller)
        (Function.update (recordsOf world (engineOf caller)) manifestId (some record))
  frames : ∀ caller world op reply after, deployment.answers caller world op reply after →
    (∀ manifestId record, op ≠ .remember manifestId record) → recordsOf after = recordsOf world

/-- An engine serves one call at a time; different engines still interleave. -/
def OneCallPerEngine {Host : Type} (deployment : Deployment World Caller)
    (engineOf : Caller → Host) : Prop :=
  ∀ config caller, deployment.mayStart config caller → ∀ other rest,
    engineOf other = engineOf caller → config.status other ≠ .running rest

/-- The callers use one outbox store. -/
structure SharesOutbox (deployment : Deployment World Caller) (outboxOf : World → OutboxStore) :
    Prop where
  serves : ∀ caller world (op : OutboxOp) reply after,
    deployment.answers caller world (.outbox op) reply after →
      (isError reply = true ∧ outboxOf after = outboxOf world) ∨
        (reply = ((outboxOf world).serve op).1 ∧ outboxOf after = ((outboxOf world).serve op).2)
  frames : ∀ caller world op reply after, deployment.answers caller world op reply after →
    (∀ inner, op ≠ .outbox inner) → outboxOf after = outboxOf world

end KarmaSakshi.Engine
