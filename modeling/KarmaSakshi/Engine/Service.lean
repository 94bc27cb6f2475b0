import KarmaSakshi.Engine.Deployment

/-!
The deployments the repository ships: engines over one world.

All engines use the stores of one `World` and differ in their configuration and
their record caches.  What is outside the repository is the `Environment`.
-/

namespace KarmaSakshi.Engine

open EffectProgram KarmaSakshi.Domain KarmaSakshi.Stores

set_option autoImplicit false

/-! ### What an operation can change -/

variable {Host : Type}

/-- Every operation writes to its own component only. -/
def World.OnlyChanges (world after : World Host) : EngineOp → Prop
  | .now | .recall _ | .lookupAdapter _ _ => after = world
  | .audit _ => ∃ audit, after = { world with audit }
  | .remember _ _ => ∃ records, after = { world with records }
  | .lifecycle _ => ∃ lifecycle, after = { world with lifecycle }
  | .grants _ => ∃ grants, after = { world with grants }
  | .budget _ => ∃ budget, after = { world with budget }
  | .outbox _ => ∃ outbox, after = { world with outbox }
  | .adapter _ _ => ∃ effects, after = { world with effects }

section Frames

variable {world after : World Host} {op : EngineOp}

theorem World.OnlyChanges.grants_kept (only : world.OnlyChanges after op)
    (other : ∀ inner, op ≠ .grants inner) : after.grants = world.grants := by
  cases op <;>
    first
      | (obtain ⟨_, rfl⟩ := only; rfl)
      | exact absurd rfl (other _)

theorem World.OnlyChanges.lifecycle_kept (only : world.OnlyChanges after op)
    (other : ∀ inner, op ≠ .lifecycle inner) : after.lifecycle = world.lifecycle := by
  cases op <;>
    first
      | (obtain ⟨_, rfl⟩ := only; rfl)
      | exact absurd rfl (other _)

theorem World.OnlyChanges.budget_kept (only : world.OnlyChanges after op)
    (other : ∀ inner, op ≠ .budget inner) : after.budget = world.budget := by
  cases op <;>
    first
      | (obtain ⟨_, rfl⟩ := only; rfl)
      | exact absurd rfl (other _)

theorem World.OnlyChanges.outbox_kept (only : world.OnlyChanges after op)
    (other : ∀ inner, op ≠ .outbox inner) : after.outbox = world.outbox := by
  cases op <;>
    first
      | (obtain ⟨_, rfl⟩ := only; rfl)
      | exact absurd rfl (other _)

theorem World.OnlyChanges.records_kept (only : world.OnlyChanges after op)
    (other : ∀ manifestId record, op ≠ .remember manifestId record) : after.records = world.records := by
  cases op <;>
    first
      | (obtain ⟨_, rfl⟩ := only; rfl)
      | exact absurd rfl (other _ _)

theorem World.OnlyChanges.effects_kept (only : world.OnlyChanges after op)
    (other : ∀ identity inner, op ≠ .adapter identity inner) : after.effects = world.effects := by
  cases op <;>
    first
      | (obtain ⟨_, rfl⟩ := only; rfl)
      | exact absurd rfl (other _ _)

theorem World.OnlyChanges.registry_kept (only : world.OnlyChanges after op) :
    after.registry = world.registry := by
  cases op <;> (obtain ⟨_, rfl⟩ := only; rfl)

end Frames

theorem fault_changes_nothing {environment : Environment} {Value : Type} {component : Component}
    {world after : World Host} {reply : Except PyError Value}
    (faulted : environment.Faults component world reply after) :
    isError reply = true ∧ after = world := by
  obtain ⟨error, _, rfl, rfl⟩ := faulted
  exact ⟨rfl, rfl⟩

variable [DecidableEq Host]

theorem answers_only {environment : Environment} {host : Host} {world after : World Host}
    {op : EngineOp} {reply : Except PyError (EngineReply op)}
    (answered : environment.answers host world op reply after) : world.OnlyChanges after op := by
  cases op with
  | now => exact answered.2
  | «recall» manifestId => exact answered.2
  | lookupAdapter adapterId adapterVersion => exact answered.2
  | remember manifestId record => exact ⟨_, answered.2⟩
  | adapter identity inner =>
      cases inner with
      | validatePreconditions manifest => exact ⟨_, answered.2⟩
      | verify manifest commitResult => exact ⟨_, answered.2⟩
      | commit manifest grant =>
          obtain ⟨effects, _, same⟩ := answered
          exact ⟨effects, same⟩
      | compensate manifest commitResult =>
          obtain ⟨effects, _, same⟩ := answered
          exact ⟨effects, same⟩
  | _ =>
      rcases answered with faulted | ⟨_, same⟩
      · exact ⟨_, (fault_changes_nothing faulted).2⟩
      · exact ⟨_, same⟩

theorem answers_steadily {environment : Environment} {host : Host} {world after : World Host}
    {op : EngineOp} {reply : Except PyError (EngineReply op)}
    (answered : environment.answers host world op reply after) (isSteady : steady op = true) :
    isError reply = false := by
  cases op with
  | now =>
      obtain ⟨⟨instant, rfl⟩, _⟩ := answered
      rfl
  | «recall» manifestId =>
      rw [answered.1]
      rfl
  | remember manifestId record =>
      rw [answered.1]
      rfl
  | lookupAdapter adapterId adapterVersion =>
      rw [answered.1]
      rfl
  | _ => exact absurd isSteady (by simp [steady])

/-! ### What an answer tells -/

section Told

variable {environment : Environment} {host : Host} {world after : World Host}

/-- A store that answers at all answers from its state. -/
theorem grants_told {inner : GrantOp} {value : GrantReply inner}
    (answered : environment.answers host world (.grants inner) (.ok value) after) :
    (world.grants.view.serve inner).1 = .ok value ∧
      after.grants.view = (world.grants.view.serve inner).2 := by
  rcases answered with faulted | ⟨replied, same⟩
  · exact absurd (fault_changes_nothing faulted).1 (by simp [isError])
  · refine ⟨GrantStore.serve_ok replied.symm, ?_⟩
    rw [same]
    exact (world.grants.serve_view inner).2

theorem budget_told {inner : BudgetOp} {value : BudgetReply inner}
    (answered : environment.answers host world (.budget inner) (.ok value) after) :
    (world.budget.serve inner).1 = .ok value ∧ after.budget = (world.budget.serve inner).2 := by
  rcases answered with faulted | ⟨replied, same⟩
  · exact absurd (fault_changes_nothing faulted).1 (by simp [isError])
  · exact ⟨replied.symm, by rw [same]⟩

theorem swap_told {manifestId : String} {expected : Option LifecycleState}
    {newState : LifecycleState}
    (answered : environment.answers host world
      (.lifecycle (.compareAndSet manifestId expected newState)) (.ok true) after) :
    world.lifecycle.view manifestId = expected ∧
      after.lifecycle.view = Function.update world.lifecycle.view manifestId (some newState) := by
  rcases answered with faulted | ⟨replied, same⟩
  · exact absurd (fault_changes_nothing faulted).1 (by simp [isError])
  · have viewed := world.lifecycle.compare_and_set_view manifestId expected newState
    have won : (world.lifecycle.view.compareAndSet manifestId expected newState).1 = true :=
      viewed.1.symm.trans (Except.ok.inj replied).symm
    refine ⟨(LifecycleMap.compare_and_set_won won).1, ?_⟩
    rw [same]
    exact viewed.2.trans (LifecycleMap.compare_and_set_won won).2

/-- A record a call has looked up or written is in its engine's cache. -/
theorem record_shown {manifestId : String} {record : LifecycleRecord} {op : EngineOp}
    {reply : Except PyError (EngineReply op)}
    (answered : environment.answers host world op reply after)
    (shown : showsRecord manifestId record ⟨op, reply⟩) :
    world.records host manifestId = some record ∨ after.records host manifestId = some record := by
  rcases shown with equal | equal
  · cases equal
    exact Or.inl (Except.ok.inj answered.1).symm
  · cases equal
    right
    rw [answered.2]
    simp [World.putRecord]

end Told

/-! ### A service -/

/-- Engines over one world, the calls they serve, and the schedule. -/
structure Service (Host Caller : Type) where
  environment : Environment
  context : Host → EngineContext
  engineOf : Caller → Host
  call : Caller → EngineCall
  mayStart : Snapshot (World Host) Caller → Caller → Prop
  mayPerform : Snapshot (World Host) Caller → Caller → EngineOp → Prop

namespace Service

variable {Caller : Type} [DecidableEq Caller] (service : Service Host Caller)

def deployment : Deployment (World Host) Caller where
  context := fun caller => service.context (service.engineOf caller)
  call := service.call
  answers := fun caller => service.environment.answers (service.engineOf caller)
  mayStart := service.mayStart
  mayPerform := service.mayPerform
  steadily := fun _ _ _ _ _ answered => answers_steadily answered

theorem shares_grants : SharesGrantStore service.deployment World.grants where
  serves := by
    intro caller world op reply after answered
    rcases answered with faulted | ⟨replied, same⟩
    · have nothing := fault_changes_nothing faulted
      exact Or.inl ⟨nothing.1, by rw [nothing.2]⟩
    · exact Or.inr ⟨replied, by rw [same]⟩
  frames := fun _ _ _ _ _ answered other => (answers_only answered).grants_kept other

theorem shares_states :
    SharesLifecycleStore service.deployment (fun world => world.lifecycle.view) where
  reads := by
    intro caller world manifestId reply after answered
    rcases answered with faulted | ⟨replied, same⟩
    · obtain ⟨raised, kept⟩ := fault_changes_nothing faulted
      refine ⟨by rw [kept], fun state isState => ?_⟩
      rw [isState] at raised
      exact absurd raised (by simp [isError])
    · refine ⟨by rw [same]; rfl, fun state isState => ?_⟩
      rw [isState] at replied
      exact Except.ok.inj replied
  swaps := by
    intro caller world manifestId expected newState reply after answered
    rcases answered with faulted | ⟨replied, same⟩
    · obtain ⟨raised, kept⟩ := fault_changes_nothing faulted
      exact Or.inl ⟨raised, by rw [kept]⟩
    · have viewed := world.lifecycle.compare_and_set_view manifestId expected newState
      refine Or.inr ⟨replied.trans (congrArg Except.ok viewed.1), ?_⟩
      rw [same]
      exact viewed.2
  frames := fun _ _ _ _ _ answered other =>
    congrArg LifecycleStore.view ((answers_only answered).lifecycle_kept other)

theorem shares_outbox : SharesOutbox service.deployment World.outbox where
  serves := by
    intro caller world op reply after answered
    rcases answered with faulted | ⟨replied, same⟩
    · have nothing := fault_changes_nothing faulted
      exact Or.inl ⟨nothing.1, by rw [nothing.2]⟩
    · exact Or.inr ⟨replied, by rw [same]⟩
  frames := fun _ _ _ _ _ answered other => (answers_only answered).outbox_kept other

theorem owns_records : OwnsRecords service.deployment service.engineOf World.records where
  recalls := by
    rintro caller world manifestId reply after ⟨replied, same⟩
    exact ⟨replied, by rw [same]⟩
  remembers := by
    rintro caller world manifestId record reply after ⟨_, same⟩
    rw [same]
    rfl
  frames := fun _ _ _ _ _ answered other => (answers_only answered).records_kept other

end Service

end KarmaSakshi.Engine
