import KarmaSakshi.Engine.Operations

/-!
The engine's lifecycle records: `_get_record`, `_persist_lifecycle` and
`_transition`.
-/

namespace KarmaSakshi.Engine

open EffectProgram KarmaSakshi.Domain KarmaSakshi.Stores

set_option autoImplicit false

variable (context : EngineContext)

def perform (op : EngineOp) : Action (EngineReply op) := Program.perform op

/-- Cache a fresh record of a manifest and return it. -/
def rememberFresh (manifestId : String) (state : LifecycleState) : Action LifecycleRecord := do
  let record := LifecycleRecord.fresh manifestId state
  perform (.remember manifestId record)
  pure record

/-- A cache miss: hydrate from the durable store, or start at PROPOSED. -/
def hydrateRecord (manifestId : String) : Action LifecycleRecord :=
  if context.hasLifecycleStore then do
    match ← perform (.lifecycle (.get manifestId)) with
    | some stored => rememberFresh manifestId stored
    | none => rememberFresh manifestId .proposed
  else rememberFresh manifestId .proposed

def getRecord (manifestId : String) : Action LifecycleRecord := do
  match ← perform (.recall manifestId) with
  | some record => pure record
  | none => hydrateRecord context manifestId

def compareAndSetFailed (manifestId : String) (fromState target : LifecycleState)
    (suffix : String) : PyError :=
  ⟨.storeUnavailable, "lifecycle store compare_and_set failed for " ++ manifestId ++ " (" ++
    fromState.value ++ " -> " ++ target.value ++ ")" ++ suffix⟩

/-- One compare-and-set, and what to do when it is refused. -/
def compareAndSetOr (manifestId : String) (expected : Option LifecycleState)
    (target : LifecycleState) (refused : Action Unit) : Action Unit := do
  if ← perform (.lifecycle (.compareAndSet manifestId expected target)) then pure ()
  else refused

/-- The first write of a manifest that was never stored: insert, and if a
concurrent writer inserted first, retry expecting PROPOSED. -/
def persistFirst (manifestId : String) (fromState target : LifecycleState) : Action Unit :=
  compareAndSetOr manifestId none target
    (compareAndSetOr manifestId (some fromState) target
      (.raised (compareAndSetFailed manifestId fromState target "")))

def persistNext (manifestId : String) (fromState target : LifecycleState) : Action Unit :=
  compareAndSetOr manifestId (some fromState) target
    (.raised (compareAndSetFailed manifestId fromState target
      "; refuse to continue with uncertain durable lifecycle state"))

def persistLifecycle (manifestId : String) (fromState target : LifecycleState) : Action Unit :=
  if context.hasLifecycleStore then do
    let stored ← perform (.lifecycle (.get manifestId))
    if stored = none ∧ fromState = .proposed then persistFirst manifestId fromState target
    else persistNext manifestId fromState target
  else pure ()

/-- What a transition writes into its audit event besides the two states. -/
structure TransitionNote where
  eventType : String
  manifestHash : Option String
  grantId : Option String
  actorId : Option String
  metadata : List (String × String)

def TransitionNote.record (note : TransitionNote) (decision manifestId : String)
    (fromState target : LifecycleState) : AuditRecord where
  eventType := note.eventType
  decision := decision
  manifestId := some manifestId
  manifestHash := note.manifestHash
  grantId := note.grantId
  actorId := note.actorId
  fromState := some fromState.value
  toState := some target.value
  metadata := note.metadata

/-- A failed durable write puts the cached record back before it is reported. -/
def rollBack (manifestId : String) (record : LifecycleRecord) (target : LifecycleState)
    (note : TransitionNote) (error : PyError) : Action Unit := do
  perform (.remember manifestId { record with manifestId })
  perform (.audit (note.record "blocked_lifecycle_store_unavailable" manifestId
    record.state target))
  .raised error

/-- Advance the cached record, write it through, and audit the decision. -/
def advance (manifestId : String) (record advanced : LifecycleRecord) (target : LifecycleState)
    (note : TransitionNote) : Action LifecycleRecord := do
  perform (.remember manifestId advanced)
  (persistLifecycle context manifestId record.state target).rescue
    PyError.isStoreUnavailable (rollBack manifestId record target note)
  perform (.audit (note.record "allowed" manifestId record.state target))
  pure advanced

/-- `record.transition`, with its refusal audited. -/
def moveRecord (manifestId : String) (record : LifecycleRecord) (target : LifecycleState)
    (note : TransitionNote) : Action LifecycleRecord := do
  let instant ← perform .now
  match record.transition target instant with
  | .error error => do
      perform (.audit (note.record "blocked_illegal_transition" manifestId record.state target))
      .raised error
  | .ok advanced => advance context manifestId record advanced target note

def transition (manifestId : String) (target : LifecycleState) (note : TransitionNote) :
    Action LifecycleRecord := do
  let record ← getRecord context manifestId
  moveRecord context manifestId record target note

end KarmaSakshi.Engine
