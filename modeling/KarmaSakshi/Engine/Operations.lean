import KarmaSakshi.Library.Pool
import KarmaSakshi.Domain.Verification
import KarmaSakshi.Stores.Budget
import KarmaSakshi.Stores.Grants
import KarmaSakshi.Stores.Lifecycle
import KarmaSakshi.Stores.Outbox
import KarmaSakshi.Stores.Registry

/-!
The operations an engine performs and the world that answers them.

The engine's methods are programs over these operations: reading the clock,
writing the audit journal, looking up its own record cache, calling a store, or
calling an adapter.  One operation is one atomic step, because every store
guards each of its methods with a lock or a transaction.  Stores and the audit
journal may raise instead of answering, which leaves them as they were; an
adapter may do anything to the external system, whether it answers or raises.
-/

namespace KarmaSakshi.Engine

open EffectProgram KarmaSakshi.Domain KarmaSakshi.Stores

set_option autoImplicit false

/-! ### Adapter results -/

structure PreconditionResult where
  satisfied : Bool
  reason : Option String
  observedFingerprint : Option StateFingerprint

/-- Result of performing the external effect. -/
structure CommitResult where
  success : Bool
  idempotencyKey : String
  providerReference : Option String
  detail : Option String
  afterStateDigest : Option String
  deriving DecidableEq

/-- Result of independently observing external state. -/
structure OutcomeProof where
  matchedExpected : Bool
  observedAt : Instant
  observedAfterStateDigest : Option String
  detail : Option String
  deriving DecidableEq

structure CompensationResult where
  attempted : Bool
  succeeded : Bool
  reason : Option String
  detail : Option String

/-! ### Operations -/

/-- One call of `AuditJournal.record`. -/
structure AuditRecord where
  eventType : String
  decision : String
  manifestId : Option String
  manifestHash : Option String
  grantId : Option String
  actorId : Option String
  fromState : Option String
  toState : Option String
  metadata : List (String × String)
  deriving DecidableEq

inductive LifecycleOp : Type where
  | get (manifestId : String)
  | compareAndSet (manifestId : String) (expected : Option LifecycleState)
      (newState : LifecycleState)

abbrev LifecycleReply : LifecycleOp → Type
  | .get _ => Option LifecycleState
  | .compareAndSet _ _ _ => Bool

/-- A method of an effect adapter.  The opaque `context` argument is part of the
external world. -/
inductive AdapterOp : Type where
  | validatePreconditions (manifest : EffectManifest)
  | commit (manifest : EffectManifest) (grant : ExecutionGrant)
  | verify (manifest : EffectManifest) (commitResult : CommitResult)
  | compensate (manifest : EffectManifest) (commitResult : CommitResult)

abbrev AdapterReply : AdapterOp → Type
  | .validatePreconditions _ => PreconditionResult
  | .commit _ _ => CommitResult
  | .verify _ _ => OutcomeProof
  | .compensate _ _ => CompensationResult

/-- `recall` and `remember` are the lookups and writes of the engine's own
`_records` dictionary. -/
inductive EngineOp : Type where
  | now
  | audit (record : AuditRecord)
  | recall (manifestId : String)
  | remember (manifestId : String) (record : LifecycleRecord)
  | lifecycle (op : LifecycleOp)
  | grants (op : GrantOp)
  | budget (op : BudgetOp)
  | outbox (op : OutboxOp)
  | lookupAdapter (adapterId adapterVersion : String)
  | adapter (identity : AdapterIdentity) (op : AdapterOp)

abbrev EngineReply : EngineOp → Type
  | .now => Instant
  | .audit _ => Unit
  | .recall _ => Option LifecycleRecord
  | .remember _ _ => Unit
  | .lifecycle op => LifecycleReply op
  | .grants op => GrantReply op
  | .budget op => BudgetReply op
  | .outbox op => OutboxReply op
  | .lookupAdapter _ _ => Option RegistryEntry
  | .adapter _ op => AdapterReply op

abbrev Action (Value : Type) := Program EngineOp EngineReply PyError Value

abbrev EngineEvent := Event EngineOp EngineReply PyError

/-- An engine's dependencies.  The stores themselves live in the world; the
context says which optional ones this engine is configured with. -/
structure EngineContext where
  crypto : CryptoPrimitives
  keyring : Keyring
  clockSkew : ClockSkewPolicy
  hasBudgetLedger : Bool
  hasLifecycleStore : Bool
  hasOutboxStore : Bool
  hasAdapterRegistry : Bool
  tenantId : Option String

/-! ### The world -/

/-- Everything outside the running calls: the shared stores, each engine's
record cache, the audit journal, and the effects performed on the external
system, oldest first. -/
structure World (Engine : Type) where
  grants : GrantStore
  lifecycle : LifecycleStore
  budget : InMemoryBudgetLedger
  outbox : OutboxStore
  registry : TrustedAdapterRegistry
  records : Engine → String → Option LifecycleRecord
  audit : List AuditRecord
  effects : List EffectManifest

/-- The components that may raise on their own. -/
inductive Component : Type where
  | audit
  | lifecycle
  | grants
  | budget
  | outbox

/-- What is outside the repository: the errors a component may raise on its
own, and how the adapters behave towards the external system. -/
structure Environment where
  mayRaise : Component → PyError → Prop
  validates : AdapterIdentity → EffectManifest → List EffectManifest →
    Except PyError PreconditionResult → Prop
  commits : AdapterIdentity → EffectManifest → ExecutionGrant → List EffectManifest →
    Except PyError CommitResult → List EffectManifest → Prop
  verifies : AdapterIdentity → EffectManifest → CommitResult → List EffectManifest →
    Except PyError OutcomeProof → Prop
  compensates : AdapterIdentity → EffectManifest → CommitResult → List EffectManifest →
    Except PyError CompensationResult → List EffectManifest → Prop

variable {Engine : Type} [DecidableEq Engine]

namespace World

def putRecord (world : World Engine) (engine : Engine) (manifestId : String)
    (record : LifecycleRecord) : World Engine :=
  { world with
    records := Function.update world.records engine
      (Function.update (world.records engine) manifestId (some record)) }

def serveLifecycle (world : World Engine) :
    (op : LifecycleOp) → Except PyError (LifecycleReply op) × LifecycleStore
  | .get manifestId => (.ok (world.lifecycle.view manifestId), world.lifecycle)
  | .compareAndSet manifestId expected newState =>
      let answer := world.lifecycle.compareAndSet manifestId expected newState
      (.ok answer.1, answer.2)

end World

namespace Environment

variable (environment : Environment)

/-- The component raises and nothing changes. -/
def Faults {Value : Type} (component : Component) (world : World Engine)
    (reply : Except PyError Value) (after : World Engine) : Prop :=
  ∃ error, environment.mayRaise component error ∧ reply = .error error ∧ after = world

def answersAdapter (identity : AdapterIdentity) (world : World Engine) :
    (op : AdapterOp) → Except PyError (AdapterReply op) → World Engine → Prop
  | .validatePreconditions manifest, reply, after =>
      environment.validates identity manifest world.effects reply ∧ after = world
  | .commit manifest grant, reply, after => ∃ effects,
      environment.commits identity manifest grant world.effects reply effects ∧
        after = { world with effects }
  | .verify manifest commitResult, reply, after =>
      environment.verifies identity manifest commitResult world.effects reply ∧ after = world
  | .compensate manifest commitResult, reply, after => ∃ effects,
      environment.compensates identity manifest commitResult world.effects reply effects ∧
        after = { world with effects }

/-- How the world answers one operation of one engine.  The clock may read any
time. -/
def answers (engine : Engine) : Handler EngineOp EngineReply PyError (World Engine) :=
  fun world op reply after =>
    match op, reply with
    | .now, reply => (∃ instant, reply = .ok instant) ∧ after = world
    | .audit record, reply =>
        environment.Faults .audit world reply after ∨
          reply = .ok () ∧ after = { world with audit := world.audit ++ [record] }
    | .recall manifestId, reply =>
        reply = .ok (world.records engine manifestId) ∧ after = world
    | .remember manifestId record, reply =>
        reply = .ok () ∧ after = world.putRecord engine manifestId record
    | .lifecycle op, reply =>
        environment.Faults .lifecycle world reply after ∨
          reply = (world.serveLifecycle op).1 ∧
            after = { world with lifecycle := (world.serveLifecycle op).2 }
    | .grants op, reply =>
        environment.Faults .grants world reply after ∨
          reply = (world.grants.serve op).1 ∧
            after = { world with grants := (world.grants.serve op).2 }
    | .budget op, reply =>
        environment.Faults .budget world reply after ∨
          reply = (world.budget.serve op).1 ∧
            after = { world with budget := (world.budget.serve op).2 }
    | .outbox op, reply =>
        environment.Faults .outbox world reply after ∨
          reply = (world.outbox.serve op).1 ∧
            after = { world with outbox := (world.outbox.serve op).2 }
    | .lookupAdapter adapterId adapterVersion, reply =>
        reply = .ok (world.registry.entries adapterId adapterVersion) ∧ after = world
    | .adapter identity op, reply => environment.answersAdapter identity world op reply after

end Environment

end KarmaSakshi.Engine
