import KarmaSakshi.Engine.Footprints

/-!
What one engine call has done so far, as a function of its own operations.

`Reads` collects what the gates were told, `Work` says what the call holds and
has written, and `Flags` records the replies that decide how it can end.  All
three are computed from the call's own events, so they can be used under any
interleaving with other calls.
-/

namespace KarmaSakshi.Engine

open EffectProgram KarmaSakshi.Domain KarmaSakshi.Stores

set_option autoImplicit false

/-- What the stores, the registry and the clock have told the call. -/
structure Reads where
  instants : List Instant := []
  cleared : List String := []
  parents : List (String × Option String) := []
  entries : List (String × String × Option RegistryEntry) := []
  budgets : List (String × AuthorityBudget) := []

inductive BudgetUse : Type where
  | idle
  | held (budgetId : String) (amount : Nat)
  | returned (budgetId : String) (amount : Nat)
  | spent (budgetId : String) (amount : Nat)
  deriving DecidableEq

inductive GrantUse : Type where
  | idle
  | held
  | returned
  | spent
  deriving DecidableEq

inductive OutboxUse : Type where
  | idle
  | recorded
  | confirmed
  | abandoned
  deriving DecidableEq

inductive LedgerRead : Type where
  | unread
  | missed
  | hit (outcomeRef : String)
  deriving DecidableEq

inductive AdapterUse : Type where
  | idle
  | raised
  | failed
  | succeeded (result : CommitResult)
  deriving DecidableEq

/-- What the call holds and has written.  `origin` is the state in which it
found its own manifest, `cached` and `stored` are the states it last wrote for it
to the record cache and to the store; `moved` leaves out the records it only
hydrated. -/
structure Work where
  budget : BudgetUse := .idle
  grant : GrantUse := .idle
  origin : Option LifecycleState := none
  cached : Option LifecycleState := none
  moved : Option LifecycleState := none
  stored : Option LifecycleState := none
  outbox : OutboxUse := .idle
  ledger : LedgerRead := .unread
  satisfied : Bool := false
  adapter : AdapterUse := .idle
  evidence : Bool := false

/-- `faulted`: a component raised that had no reason to.  `interfered`: another
call changed what this one had written.  `leaked`: an operation raised that has
no clean-up behind it.  `cleanupRaised`: a clean-up operation itself raised. -/
structure Flags where
  faulted : Bool := false
  interfered : Bool := false
  leaked : Bool := false
  cleanupRaised : Bool := false

structure Progress where
  reads : Reads := {}
  work : Work := {}
  flags : Flags := {}

/-! ### Observing one answered operation -/

def Reads.observe (reads : Reads) : (op : EngineOp) → Except PyError (EngineReply op) → Reads
  | .now, .ok instant => { reads with instants := instant :: reads.instants }
  | .grants (.isRevoked grantId), .ok false => { reads with cleared := grantId :: reads.cleared }
  | .grants (.getParentGrantId grantId), .ok parent =>
      { reads with parents := (grantId, parent) :: reads.parents }
  | .lookupAdapter adapterId adapterVersion, .ok entry =>
      { reads with entries := (adapterId, adapterVersion, entry) :: reads.entries }
  | .budget (.get budgetId), .ok budget =>
      { reads with budgets := (budgetId, budget) :: reads.budgets }
  | _, _ => reads

def Work.observeGrants (work : Work) :
    (op : GrantOp) → Except PyError (GrantReply op) → Work
  | .reserve _ _, .ok true => { work with grant := .held }
  | .release _, .ok _ => { work with grant := .returned }
  | .commit _ _ _, .ok _ => { work with grant := .spent }
  | .getIdempotentOutcome _, .ok none => { work with ledger := .missed }
  | .getIdempotentOutcome _, .ok (some outcomeRef) => { work with ledger := .hit outcomeRef }
  | _, _ => work

def Work.observeBudget (work : Work) :
    (op : BudgetOp) → Except PyError (BudgetReply op) → Work
  | .reserve budgetId amount, .ok true => { work with budget := .held budgetId amount }
  | .release budgetId amount, .ok _ => { work with budget := .returned budgetId amount }
  | .commit budgetId amount, .ok _ => { work with budget := .spent budgetId amount }
  | _, _ => work

def Work.observeOutbox (work : Work) :
    (op : OutboxOp) → Except PyError (OutboxReply op) → Work
  | .recordPending _, .ok _ => { work with outbox := .recorded }
  | .markConfirmed _ _, .ok _ => { work with outbox := .confirmed }
  | .markAbandoned _, .ok _ => { work with outbox := .abandoned }
  | _, _ => work

def Work.observeAdapter (work : Work) :
    (op : AdapterOp) → Except PyError (AdapterReply op) → Work
  | .validatePreconditions _, .ok result => { work with satisfied := result.satisfied }
  | .commit _ _, .ok result =>
      { work with adapter := if result.success then .succeeded result else .failed }
  | .commit _ _, .error _ => { work with adapter := .raised }
  | .verify _ _, .ok proof => { work with evidence := proof.matchedExpected }
  | _, _ => work

/-- The first state in which the call sees its manifest is its origin. -/
def Work.knowing (work : Work) (state : LifecycleState) : Work :=
  { work with origin := work.origin.or (some state) }

/-- The lifecycle fields after writing a record to the cache. -/
def Work.remembered (work : Work) (record : LifecycleRecord) : Work :=
  { work.knowing record.state with
    cached := some record.state
    moved := if record.history = [] then none else some record.state }

/-- `subject` is the manifest the call is about. -/
def Work.observe (subject : String) (work : Work) :
    (op : EngineOp) → Except PyError (EngineReply op) → Work
  | .recall manifestId, .ok (some record) =>
      if manifestId = subject then work.knowing record.state else work
  | .remember manifestId record, .ok _ =>
      if manifestId = subject then work.remembered record else work
  | .lifecycle (.compareAndSet manifestId _ newState), .ok true =>
      if manifestId = subject then { work with stored := some newState } else work
  | .grants op, reply => work.observeGrants op reply
  | .budget op, reply => work.observeBudget op reply
  | .outbox op, reply => work.observeOutbox op reply
  | .adapter _ op, reply => work.observeAdapter op reply
  | _, _ => work

/-- An operation changes only the fields of its own component. -/
def Work.OnlyChanges (work after : Work) : EngineOp → Prop
  | .recall _ | .remember _ _ | .lifecycle _ => ∃ origin cached moved stored,
      after = { work with origin, cached, moved, stored }
  | .grants _ => ∃ grant ledger, after = { work with grant, ledger }
  | .budget _ => ∃ budget, after = { work with budget }
  | .outbox _ => ∃ outbox, after = { work with outbox }
  | .adapter _ _ => ∃ satisfied adapter evidence,
      after = { work with satisfied, adapter, evidence }
  | .now | .audit _ | .lookupAdapter _ _ => after = work

theorem Work.observe_only (work : Work) (subject : String) (op : EngineOp)
    (reply : Except PyError (EngineReply op)) :
    work.OnlyChanges (work.observe subject op reply) op := by
  cases op with
  | now => rfl
  | audit record => rfl
  | lookupAdapter adapterId adapterVersion => rfl
  | «recall» manifestId =>
      simp only [Work.observe.eq_def]
      split <;> first | contradiction | (split <;> exact ⟨_, _, _, _, rfl⟩) | exact ⟨_, _, _, _, rfl⟩
  | remember manifestId record =>
      simp only [Work.observe.eq_def]
      split <;> first | contradiction | (split <;> exact ⟨_, _, _, _, rfl⟩) | exact ⟨_, _, _, _, rfl⟩
  | lifecycle inner =>
      simp only [Work.observe.eq_def]
      split <;> first | contradiction | (split <;> exact ⟨_, _, _, _, rfl⟩) | exact ⟨_, _, _, _, rfl⟩
  | grants inner =>
      simp only [Work.observe, Work.observeGrants.eq_def]
      split <;> exact ⟨_, _, rfl⟩
  | budget inner =>
      simp only [Work.observe, Work.observeBudget.eq_def]
      split <;> exact ⟨_, rfl⟩
  | outbox inner =>
      simp only [Work.observe, Work.observeOutbox.eq_def]
      split <;> exact ⟨_, rfl⟩
  | adapter identity inner =>
      simp only [Work.observe, Work.observeAdapter.eq_def]
      split <;> exact ⟨_, _, _, rfl⟩

/-- The operations of the final transition come after the reservation is gone. -/
def Work.settling (work : Work) : Bool :=
  work.grant = .returned || work.grant = .spent

def isError {Value : Type} : Except PyError Value → Bool
  | .ok _ => false
  | .error _ => true

/-- The raises of reliable components: only a budget, an outbox conflict and an
adapter have a reason to raise. -/
def faults : (op : EngineOp) → Except PyError (EngineReply op) → Bool
  | .budget (.get _), _ => false
  | .budget (.reserve _ _), _ => false
  | .outbox (.recordPending _), .error error => !error.isOutboxRefusal
  | .adapter _ _, _ => false
  | _, reply => isError reply

/-- The call's own record or durable write is no longer what it wrote. -/
def interferes (work : Work) : (op : EngineOp) → Except PyError (EngineReply op) → Bool
  | .recall _, .ok (some record) => work.cached.isSome && work.cached != some record.state
  | .recall _, .ok none => work.cached.isSome
  | .lifecycle (.compareAndSet _ expected _), .ok false =>
      work.stored.isSome && work.stored == expected
  | _, _ => false

/-- The raises that `commit` has no clean-up for. -/
def leaks (work : Work) : (op : EngineOp) → Except PyError (EngineReply op) → Bool
  | .grants (.reserve _ _), reply => isError reply && work.budget != .idle
  | .audit record, reply =>
      isError reply && record.decision == "allowed" &&
        record.toState == some LifecycleState.committing.value
  | .lifecycle _, .error error =>
      !error.isStoreUnavailable && work.moved == some .committing && !work.settling
  | .outbox _, reply => isError reply
  | .grants (.getIdempotentOutcome _), reply => isError reply
  | .grants (.commit _ _ _), reply => isError reply
  | _, _ => false

/-- The raises of the clean-up itself: releasing, and the final transition. -/
def cleanupRaises (work : Work) : (op : EngineOp) → Except PyError (EngineReply op) → Bool
  | .grants (.release _), reply => isError reply
  | .budget (.release _ _), reply => isError reply
  | .audit record, reply => work.settling && record.toState.isSome && isError reply
  | .lifecycle _, reply => work.settling && isError reply
  | _, _ => false

def Flags.observe (flags : Flags) (work : Work) (op : EngineOp)
    (reply : Except PyError (EngineReply op)) : Flags where
  faulted := flags.faulted || faults op reply
  interfered := flags.interfered || interferes work op reply
  leaked := flags.leaked || leaks work op reply
  cleanupRaised := flags.cleanupRaised || cleanupRaises work op reply

def Progress.observe (subject : String) (progress : Progress) (op : EngineOp)
    (reply : Except PyError (EngineReply op)) : Progress where
  reads := progress.reads.observe op reply
  work := progress.work.observe subject op reply
  flags := progress.flags.observe progress.work op reply

/-! ### What the gates established -/

/-- One collection of reads extends another. -/
structure Reads.Extends (later earlier : Reads) : Prop where
  instants : earlier.instants ⊆ later.instants
  cleared : earlier.cleared ⊆ later.cleared
  parents : earlier.parents ⊆ later.parents
  entries : earlier.entries ⊆ later.entries
  budgets : earlier.budgets ⊆ later.budgets

theorem Reads.Extends.refl (reads : Reads) : reads.Extends reads :=
  ⟨fun _ member => member, fun _ member => member, fun _ member => member,
    fun _ member => member, fun _ member => member⟩

theorem Reads.Extends.trans {first second third : Reads} (later : third.Extends second)
    (earlier : second.Extends first) : third.Extends first :=
  ⟨List.Subset.trans earlier.instants later.instants,
    List.Subset.trans earlier.cleared later.cleared,
    List.Subset.trans earlier.parents later.parents,
    List.Subset.trans earlier.entries later.entries,
    List.Subset.trans earlier.budgets later.budgets⟩

/-- The ancestor chain above `parent`, as it was read and cleared. -/
inductive Walked (reads : Reads) : Option String → List String → Prop where
  | root : Walked reads none []
  | hop {ancestor : String} {parent : Option String} {rest : List String}
      (cleared : ancestor ∈ reads.cleared) (linked : (ancestor, parent) ∈ reads.parents)
      (above : Walked reads parent rest) : Walked reads (some ancestor) (ancestor :: rest)

theorem Walked.extend {earlier later : Reads} (extends_ : later.Extends earlier)
    {parent : Option String} {chain : List String} (walked : Walked earlier parent chain) :
    Walked later parent chain := by
  induction walked with
  | root => exact .root
  | hop cleared linked above ih =>
      exact .hop (extends_.cleared cleared) (extends_.parents linked) ih

variable (context : EngineContext) (call : CommitCall)

/-- A bound policy bundle was presented, verified at a time the clock showed,
and is the bound one, of the engine's tenant. -/
def PolicyHeld (reads : Reads) : Prop :=
  (∀ bound, call.grant.policyBundleHash = some bound → ∃ bundle now,
    call.policyBundle = some bundle ∧ now ∈ reads.instants ∧
      verifyPolicyBundle context.crypto bundle context.keyring now none = .ok () ∧
      bundle.seal.bundleHash = bound) ∧
  ∀ bundle, call.policyBundle = some bundle →
    (call.grant.policyBundleHash.isSome ∨ context.tenantId.isSome) →
      bindEngineAndPolicyTenant context.tenantId bundle.bundle.tenantId = .ok ()

def EnvelopeHeld (reads : Reads) : Prop :=
  ∀ bound, call.grant.decisionEnvelopeHash = some bound → ∃ envelope now,
    call.decisionEnvelope = some envelope ∧ now ∈ reads.instants ∧
      verifyDecisionEnvelope context.crypto envelope context.keyring now = .ok () ∧
      envelope.canonicalHash context.crypto = bound ∧
      assertManifestFitsEnvelope call.manifest envelope = .ok ()

def GraphHeld : Prop :=
  ∀ bound, call.grant.causalGraphHash = some bound → ∃ graph,
    call.causalGraph = some graph ∧ planChecks context call bound graph = .ok ()

def RegistryHeld (reads : Reads) : Prop :=
  context.hasAdapterRegistry = true → ∃ entry,
    (call.adapter.adapterId, call.adapter.adapterVersion, entry) ∈ reads.entries ∧
      ∃ capability, requireEffect call.adapter.adapterId call.adapter.adapterVersion
        call.manifest.effectType entry = .ok capability

/-- Everything the gates checked, in terms of what they read. -/
structure GatesHeld (reads : Reads) : Prop where
  sealHeld : verifySeal context.crypto call.sealed context.keyring = .ok ()
  grantHeld : ∃ now ∈ reads.instants,
    verifyGrant context.crypto call.grant context.keyring now context.clockSkew = .ok ()
  manifestBound : call.grant.manifestHash = some call.manifestHash
  policyHeld : PolicyHeld context call reads
  envelopeHeld : EnvelopeHeld context call reads
  graphHeld : GraphHeld context call
  inAudience : call.adapter.adapterId ∈ call.grant.audience
  sameAdapter : call.manifest.adapter = call.adapter
  registryHeld : RegistryHeld context call reads
  effectAllowed : call.manifest.effectType ∈ call.grant.allowedEffectTypes
  unrevoked : call.grantId ∈ reads.cleared
  ancestorsClear : ∃ chain, Walked reads call.grant.parentGrantId chain

variable {context call}

theorem PolicyHeld.extend {earlier later : Reads} (extends_ : later.Extends earlier)
    (held : PolicyHeld context call earlier) : PolicyHeld context call later := by
  refine ⟨?_, held.2⟩
  intro bound binds
  obtain ⟨bundle, now, presented, read, verified⟩ := held.1 bound binds
  exact ⟨bundle, now, presented, extends_.instants read, verified⟩

theorem EnvelopeHeld.extend {earlier later : Reads} (extends_ : later.Extends earlier)
    (held : EnvelopeHeld context call earlier) : EnvelopeHeld context call later := by
  intro bound binds
  obtain ⟨envelope, now, presented, read, verified⟩ := held bound binds
  exact ⟨envelope, now, presented, extends_.instants read, verified⟩

theorem RegistryHeld.extend {earlier later : Reads} (extends_ : later.Extends earlier)
    (held : RegistryHeld context call earlier) : RegistryHeld context call later := by
  intro configured
  obtain ⟨entry, read, trusted⟩ := held configured
  exact ⟨entry, extends_.entries read, trusted⟩

/-- Later reads keep what the gates established. -/
theorem GatesHeld.extend {earlier later : Reads} (extends_ : later.Extends earlier)
    (held : GatesHeld context call earlier) : GatesHeld context call later := by
  obtain ⟨now, read, verified⟩ := held.grantHeld
  obtain ⟨chain, walked⟩ := held.ancestorsClear
  exact { held with
    grantHeld := ⟨now, extends_.instants read, verified⟩
    policyHeld := held.policyHeld.extend extends_
    envelopeHeld := held.envelopeHeld.extend extends_
    registryHeld := held.registryHeld.extend extends_
    unrevoked := extends_.cleared held.unrevoked
    ancestorsClear := ⟨chain, walked.extend extends_⟩ }

end KarmaSakshi.Engine
