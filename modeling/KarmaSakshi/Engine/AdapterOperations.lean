import KarmaSakshi.Engine.Footprints
import KarmaSakshi.Engine.Saga
import KarmaSakshi.Library.Mediation

/-!
The operations that hand the engine an adapter.

`prepare` is the one method of an adapter that no other operation calls, so it is an
operation of its own here, beside those of the sagas.
-/

namespace KarmaSakshi.Engine

open EffectProgram KarmaSakshi.Domain KarmaSakshi.Stores

set_option autoImplicit false

/-! ### Operations -/

/-- An operation of a saga or of the engine, or the adapter's `prepare`, whose `request`
and `context` arguments are part of the external world. -/
inductive HostOp : Type where
  | saga (op : SagaOp)
  | prepare (adapter : AdapterIdentity)

abbrev HostReply : HostOp → Type
  | .saga op => SagaReply op
  | .prepare _ => EffectManifest

abbrev HostAction (Value : Type) := Program HostOp HostReply PyError Value

/-- The components, with what an adapter may prepare. -/
structure HostEnvironment where
  components : Environment
  prepares : AdapterIdentity → List EffectManifest → Except PyError EffectManifest → Prop

def HostEnvironment.answers {Host : Type} [DecidableEq Host] (environment : HostEnvironment)
    (host : Host) : Handler HostOp HostReply PyError (SagaWorld Host) :=
  fun saga op reply after =>
    match op, reply with
    | .saga op, reply => environment.components.sagaAnswers host saga op reply after
    | .prepare adapter, reply =>
        environment.prepares adapter saga.world.effects reply ∧ after = saga

def inSaga {Value : Type} (action : SagaAction Value) : HostAction Value :=
  action.translate HostOp.saga (fun _ reply => reply)

def inEngine {Value : Type} (action : Action Value) : HostAction Value := inSaga (within action)

variable (context : EngineContext)

/-! ### Prepare -/

/-- `_require_trusted_adapter` without an effect type. -/
def requireKnownAdapter (adapter : AdapterIdentity) : Action Unit :=
  if context.hasAdapterRegistry then do
    let entry ← perform (.lookupAdapter adapter.adapterId adapter.adapterVersion)
    let _ ← Program.settle (requireTrusted adapter.adapterId adapter.adapterVersion entry)
    pure ()
  else pure ()

def preparedMismatch (manifest : EffectManifest) (adapter : AdapterIdentity) : PyError :=
  ⟨.adapterMismatch, "adapter.prepare returned manifest for " ++ manifest.adapter.adapterId ++ "@" ++
    manifest.adapter.adapterVersion ++ ", but executing adapter is " ++ adapter.adapterId ++ "@" ++
    adapter.adapterVersion⟩

def enterPrepared (adapter : AdapterIdentity) (manifest : EffectManifest) : Action Unit := do
  requireTrustedAdapter context adapter manifest.effectType
  if manifest.adapter.adapterId ≠ adapter.adapterId ∨
      manifest.adapter.adapterVersion ≠ adapter.adapterVersion then
    .raised (preparedMismatch manifest adapter)
  else do
    let _ ← transition context manifest.manifestId .prepared {
      eventType := "manifest.prepared"
      manifestHash := some (manifest.canonicalHash context.crypto)
      grantId := none
      actorId := some manifest.actor.principalId
      metadata := [("adapter_id", adapter.adapterId), ("effect_type", manifest.effectType)] }
    pure ()

def prepare (adapter : AdapterIdentity) : HostAction EffectManifest := do
  inEngine (requireKnownAdapter context adapter)
  let manifest ← (Program.perform (HostOp.prepare adapter) : HostAction EffectManifest)
  inEngine (enterPrepared context adapter manifest)
  pure manifest

/-! ### The legacy compensation -/

/-- The arguments of `compensate`. -/
structure CompensateCall where
  manifest : EffectManifest
  commitResult : CommitResult
  adapter : AdapterIdentity

def CompensateCall.note (call : CompensateCall) (eventType : String)
    (metadata : List (String × String)) : TransitionNote where
  eventType := eventType
  manifestHash := some (call.manifest.canonicalHash context.crypto)
  grantId := none
  actorId := some call.manifest.actor.principalId
  metadata := metadata

def compensate (call : CompensateCall) : Action CompensationResult := do
  requireTrustedAdapter context call.adapter call.manifest.effectType
  let _ ← transition context call.manifest.manifestId .compensating
    (call.note context "effect.compensating" [])
  let result ← perform (.adapter call.adapter (.compensate call.manifest call.commitResult))
  let _ ← transition context call.manifest.manifestId
    (if result.succeeded then .compensated else .failed)
    (call.note context "effect.compensation_result"
      [("attempted", pyBool result.attempted), ("succeeded", pyBool result.succeeded),
        ("reason", clipped (orElse result.reason "") 200), ("legacy_path", "true")])
  pure result

/-! ### The operations as one type -/

inductive AdapterOperation : Type where
  | prepare (adapter : AdapterIdentity)
  | commit (call : CommitCall)
  | verify (call : VerifyCall)
  | compensate (call : CompensateCall)
  | commitCompensation (call : CompensationCall)
  | recoverAmbiguousCommit (call : RecoveryCall)
  | commitSagaStep (step : CommitStep)
  | verifySagaStep (step : VerifyStep)
  | recoverSagaStep (step : RecoverStep)

namespace AdapterOperation

/-- The adapter the operation is handed. -/
def adapter : AdapterOperation → AdapterIdentity
  | prepare adapter => adapter
  | commit call => call.adapter
  | verify call => call.adapter
  | compensate call => call.adapter
  | commitCompensation call => call.adapter
  | recoverAmbiguousCommit call => call.adapter
  | commitSagaStep step => step.adapter
  | verifySagaStep step => step.call.adapter
  | recoverSagaStep step => step.adapter

/-- What the operation returns is left out. -/
def program : AdapterOperation → HostAction Unit
  | prepare adapter => do
      let _ ← Engine.prepare context adapter
      pure ()
  | commit call => do
      let _ ← inEngine (Engine.commit context call)
      pure ()
  | verify call => do
      let _ ← inEngine (Engine.verify context call)
      pure ()
  | compensate call => do
      let _ ← inEngine (Engine.compensate context call)
      pure ()
  | commitCompensation call => do
      let _ ← inEngine (Engine.commitCompensation context call)
      pure ()
  | recoverAmbiguousCommit call => do
      let _ ← inEngine (Engine.recoverAmbiguousCommit context call)
      pure ()
  | commitSagaStep step => do
      let _ ← inSaga (Engine.commitSagaStep context step)
      pure ()
  | verifySagaStep step => do
      let _ ← inSaga (Engine.verifySagaStep context step)
      pure ()
  | recoverSagaStep step => do
      let _ ← inSaga (Engine.recoverSagaStep context step)
      pure ()

end AdapterOperation

/-! ### Calls of an adapter -/

section Calls

variable (adapter : AdapterIdentity)

/-- The operation is a method of the adapter. -/
def Calls : EngineOp → Prop
  | .adapter identity _ => identity = adapter
  | _ => False

/-- The registry has the adapter's exact version, and it is not revoked. -/
def Confirms : EngineEvent → Prop
  | ⟨.lookupAdapter adapterId adapterVersion, .ok (some found)⟩ =>
      adapterId = adapter.adapterId ∧ adapterVersion = adapter.adapterVersion ∧
        found.revoked = false
  | _ => False

def SagaCalls : SagaOp → Prop
  | .engine op => Calls adapter op
  | _ => False

def SagaConfirms : Event SagaOp SagaReply PyError → Prop
  | ⟨.engine op, reply⟩ => Confirms adapter ⟨op, reply⟩
  | _ => False

def HostCalls : HostOp → Prop
  | .saga op => SagaCalls adapter op
  | .prepare identity => identity = adapter

def HostConfirms : Event HostOp HostReply PyError → Prop
  | ⟨.saga op, reply⟩ => SagaConfirms adapter ⟨op, reply⟩
  | _ => False

end Calls

variable {context} {adapter : AdapterIdentity} {Value : Type}

theorem careful_in_saga {action : SagaAction Value}
    (careful : Careful (SagaCalls adapter) (SagaConfirms adapter) action) :
    Careful (HostCalls adapter) (HostConfirms adapter) (inSaga action) :=
  careful.translate (fun _ calls => calls) (fun _ _ => Iff.rfl)

theorem careful_within {action : Action Value}
    (careful : Careful (Calls adapter) (Confirms adapter) action) :
    Careful (SagaCalls adapter) (SagaConfirms adapter) (Engine.within action) :=
  careful.translate (fun _ calls => calls) (fun _ _ => Iff.rfl)

theorem careful_in_engine {action : Action Value}
    (careful : Careful (Calls adapter) (Confirms adapter) action) :
    Careful (HostCalls adapter) (HostConfirms adapter) (inEngine action) :=
  careful_in_saga (careful_within careful)

theorem checks_in_engine {action : Action Value}
    (checks : Checks (Calls adapter) (Confirms adapter) action) :
    Checks (HostCalls adapter) (HostConfirms adapter) (inEngine action) := by
  have inside : Checks (SagaCalls adapter) (SagaConfirms adapter) (within action) :=
    checks.translate (fun _ calls => calls) (fun _ _ => Iff.rfl)
  exact inside.translate (fun _ calls => calls) (fun _ _ => Iff.rfl)

/-! ### The checks of the registry -/

/-- A lookup is a check when nothing returns on an entry that is missing or revoked. -/
theorem lookup_checks {next : Option RegistryEntry → Action Value}
    (refuses : ∀ entry, (∀ found, entry = some found → found.revoked = true) →
      Checks (Calls adapter) (Confirms adapter) (next entry)) :
    Checks (Calls adapter) (Confirms adapter)
      (perform (.lookupAdapter adapter.adapterId adapter.adapterVersion) >>= next) := by
  intro permitted
  refine Conforms.andThen (fun outcome after => ∀ entry, outcome = .ok entry →
      (∀ found, entry = some found → found.revoked = true) ∨ after)
    ((conforms_perform _ _ _).mpr ⟨fun impossible => impossible.elim, fun reply _ entry same => ?_⟩)
    (fun entry after told => ?_) (fun fault after _ returned => ?_)
  · subst same
    cases entry with
    | none => exact Or.inl (fun found impossible => by cases impossible)
    | some found =>
        cases revoked : found.revoked with
        | true =>
            refine Or.inl (fun other same => ?_)
            obtain rfl := Option.some.inj same
            exact revoked
        | false => exact Or.inr (Or.inr ⟨rfl, rfl, revoked⟩)
  · rcases told entry rfl with refused | given
    · exact refuses entry refused after
    · exact (permitted_conforms given).mono (fun _ _ held _ => held)
  · obtain ⟨value, impossible⟩ := returned
    cases impossible

theorem untrusted_refused {entry : Option RegistryEntry}
    (untrusted : ∀ found, entry = some found → found.revoked = true)
    (capability : AdapterCapability) (adapterId adapterVersion : String) :
    requireTrusted adapterId adapterVersion entry ≠ .ok capability := by
  intro trusted
  unfold requireTrusted at trusted
  cases entry with
  | none => cases trusted
  | some found =>
      simp only [untrusted found rfl, if_true] at trusted
      cases trusted

theorem untrusted_effect_refused {entry : Option RegistryEntry}
    (untrusted : ∀ found, entry = some found → found.revoked = true)
    (capability : AdapterCapability) (adapterId adapterVersion effectType : String) :
    requireEffect adapterId adapterVersion effectType entry ≠ .ok capability := by
  intro trusted
  obtain ⟨found, rfl, unrevoked, _⟩ := require_effect_ok trusted
  rw [untrusted found rfl] at unrevoked
  cases unrevoked

theorem never_settles {outcome : Except PyError Value} (fails : ∀ value, outcome ≠ .ok value)
    {Result : Type} {next : Value → Action Result} :
    Checks (Calls adapter) (Confirms adapter) (Program.settle outcome >>= next) := by
  cases outcome with
  | ok value => exact absurd rfl (fails value)
  | error error => exact checks_raised error

theorem deny_checks (call : CommitCall) (eventType decision : String) (error : PyError) :
    Checks (Calls adapter) (Confirms adapter)
      (deny call eventType decision error : Action Value) :=
  Checks.after ((Program.uses_perform _ _).mpr not_false) (fun _ => checks_raised error)

theorem trusted_adapter_checks (configured : context.hasAdapterRegistry = true)
    (effectType : String) :
    Checks (Calls adapter) (Confirms adapter) (requireTrustedAdapter context adapter effectType) := by
  unfold requireTrustedAdapter
  rw [if_pos configured]
  exact lookup_checks (fun entry untrusted => never_settles (fun capability =>
    untrusted_effect_refused untrusted capability _ _ _))

theorem known_adapter_checks (configured : context.hasAdapterRegistry = true) :
    Checks (Calls adapter) (Confirms adapter) (requireKnownAdapter context adapter) := by
  unfold requireKnownAdapter
  rw [if_pos configured]
  exact lookup_checks (fun entry untrusted => never_settles (fun capability =>
    untrusted_refused untrusted capability _ _))

theorem registry_gate_checks (configured : context.hasAdapterRegistry = true) (call : CommitCall) :
    Checks (Calls call.adapter) (Confirms call.adapter) (registryGate context call) := by
  unfold registryGate
  rw [if_pos configured]
  refine lookup_checks (fun entry untrusted => ?_)
  cases trusted : requireEffect call.adapter.adapterId call.adapter.adapterVersion
      call.manifest.effectType entry with
  | ok capability => exact absurd trusted (untrusted_effect_refused untrusted _ _ _ _)
  | error error => exact deny_checks call _ _ error

theorem compensation_registry_gate_checks (configured : context.hasAdapterRegistry = true)
    (call : CompensationCall) :
    Checks (Calls call.adapter) (Confirms call.adapter) (compensationRegistryGate context call) := by
  unfold compensationRegistryGate
  rw [if_pos configured]
  refine lookup_checks (fun entry untrusted => ?_)
  cases trusted : requireTrusted call.adapter.adapterId call.adapter.adapterVersion entry with
  | ok capability => exact absurd trusted (untrusted_refused untrusted _ _ _)
  | error error => exact deny_checks call.asCommit _ _ error

/-! ### The gates before the registry's -/

variable (adapter)

/-- The program calls no method of the adapter. -/
def Apart (program : Action Value) : Prop := program.Uses (fun op => ¬ Calls adapter op)

variable {adapter}

theorem gate_op_is_apart {op : EngineOp} (reads : gateOp op) : ¬ Calls adapter op := by
  intro calls
  cases op with
  | adapter identity inner => exact reads
  | _ => exact calls

/-- What only reads calls nothing. -/
theorem apart_of_reads {program : Action Value} (uses : program.Uses gateOp) :
    Apart adapter program :=
  uses.mono (fun _ => gate_op_is_apart)

theorem apart_of_checks {program : Action Value} (uses : program.Uses checkOp) :
    Apart adapter program :=
  apart_of_reads (uses.mono (fun _ => check_op_is_gate))

theorem gates_check (configured : context.hasAdapterRegistry = true) (call : CommitCall) :
    Checks (Calls call.adapter) (Confirms call.adapter) (gates context call) := by
  refine Checks.after (apart_of_checks (checked_uses call _ _)) (fun _ => ?_)
  refine Checks.after (apart_of_checks (timed_uses (fun _ => checked_uses call _ _)))
    (fun _ => ?_)
  refine Checks.after (apart_of_checks (refusal_uses call _ _ _)) (fun _ => ?_)
  refine Checks.after (apart_of_checks (policy_gate_uses context call)) (fun _ => ?_)
  refine Checks.after (apart_of_checks (envelope_gate_uses context call)) (fun _ => ?_)
  refine Checks.after (apart_of_checks (graph_gate_uses context call)) (fun _ => ?_)
  refine Checks.after (apart_of_checks (refusal_uses call _ _ _)) (fun _ => ?_)
  refine Checks.after (apart_of_checks (refusal_uses call _ _ _)) (fun _ => ?_)
  exact (registry_gate_checks configured call).before

theorem compensation_gates_check (configured : context.hasAdapterRegistry = true)
    (call : CompensationCall) :
    Checks (Calls call.adapter) (Confirms call.adapter) (compensationGates context call) := by
  refine Checks.after (Program.uses_settle _ _) (fun _ => ?_)
  refine Checks.after (apart_of_checks (binding_gate_uses context call)) (fun _ => ?_)
  refine Checks.after (apart_of_checks (compensation_seal_gate_uses context call)) (fun _ => ?_)
  refine Checks.after (apart_of_checks (refusal_uses call.asCommit _ _ _)) (fun _ => ?_)
  refine Checks.after (apart_of_checks (compensation_policy_gate_uses context call))
    (fun _ => ?_)
  refine Checks.after (apart_of_checks (refusal_uses call.asCommit _ _ _)) (fun _ => ?_)
  refine Checks.after (apart_of_checks (refusal_uses call.asCommit _ _ _)) (fun _ => ?_)
  exact (compensation_registry_gate_checks configured call).before

end KarmaSakshi.Engine
