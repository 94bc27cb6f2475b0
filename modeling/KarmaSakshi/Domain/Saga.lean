import KarmaSakshi.Domain.Verification

/-!
Saga plans over causal graphs, saga runs, and the pure transitions of a run.
-/

namespace KarmaSakshi.Domain

set_option autoImplicit false

/-! ### Statuses -/

inductive CompensationStatus : Type where
  | refused
  | attempted
  | verified
  deriving DecidableEq

def CompensationStatus.value : CompensationStatus → String
  | refused => "refused"
  | attempted => "attempted"
  | verified => "verified"

inductive SagaRunStatus : Type where
  | pending
  | running
  | awaitingRecovery
  | compensating
  | completed
  | failedPartial
  | aborted
  deriving DecidableEq

def SagaRunStatus.value : SagaRunStatus → String
  | pending => "pending"
  | running => "running"
  | awaitingRecovery => "awaiting_recovery"
  | compensating => "compensating"
  | completed => "completed"
  | failedPartial => "failed_partial"
  | aborted => "aborted"

inductive SagaStepStatus : Type where
  | pending
  | ready
  | authorized
  | committing
  | committed
  | verified
  | failed
  | ambiguous
  | compensating
  | compensated
  | compensationRefused
  | compensationFailed
  deriving DecidableEq

def SagaStepStatus.value : SagaStepStatus → String
  | pending => "pending"
  | ready => "ready"
  | authorized => "authorized"
  | committing => "committing"
  | committed => "committed"
  | verified => "verified"
  | failed => "failed"
  | ambiguous => "ambiguous"
  | compensating => "compensating"
  | compensated => "compensated"
  | compensationRefused => "compensation_refused"
  | compensationFailed => "compensation_failed"

/-! ### Plans and runs -/

def maxSagaSteps : Nat := 256

structure SagaStepRecord where
  manifestHash : String
  index : Nat
  status : SagaStepStatus := .pending
  grantId : Option String := none
  commitSuccess : Option Bool := none
  providerReference : Option String := none
  ambiguous : Bool := false
  compensationStatus : Option CompensationStatus := none
  detail : Option String := none
  deriving DecidableEq

structure SagaPlan where
  sagaId : String
  causalGraphHash : String
  stepManifestHashes : List String
  createdAt : Instant
  nonce : String
  stepsNonempty : stepManifestHashes ≠ []
  stepsBounded : stepManifestHashes.length ≤ maxSagaSteps
  stepsDistinct : stepManifestHashes.Nodup

structure SagaRun where
  runId : String
  plan : SagaPlan
  status : SagaRunStatus
  steps : List SagaStepRecord
  cursor : Nat := 0
  compensationCursor : Option Nat := none

/-! ### The order of the steps -/

/-- The dictionaries and lists of Kahn's algorithm. -/
structure TopoState where
  indegree : String → Int
  ready : List String
  ordered : List String

namespace TopoState

variable (graph : CausalEffectGraph)

def start : TopoState :=
  let indegree := fun node =>
    ((graph.links.filter (fun link => link.childManifestHash = node)).length : Int)
  { indegree
    ready := pySorted (graph.nodeManifestHashes.filter (fun node => indegree node = 0))
    ordered := [] }

def childrenOf (node : String) : List String :=
  pySorted ((graph.links.filter (fun link => link.parentManifestHash = node)).map
    CausalLink.childManifestHash)

/-- One link less into `child`. -/
def relax (state : TopoState) (child : String) : TopoState :=
  let degree := state.indegree child - 1
  { state with
    indegree := Function.update state.indegree child degree
    ready := if degree = 0 then pySorted (state.ready ++ [child]) else state.ready }

/-- The loop over the ready nodes.  A node becomes ready once, so it takes no
more rounds than there are nodes. -/
def drain : (rounds : Nat) → TopoState → TopoState
  | 0, state => state
  | rounds + 1, state =>
      match state.ready with
      | [] => state
      | node :: rest => drain rounds ((childrenOf graph node).foldl relax
          { state with ready := rest, ordered := state.ordered ++ [node] })

end TopoState

def topoManifestHashes (graph : CausalEffectGraph) : Except PyError (List String) :=
  let nodes := graph.nodeManifestHashes.eraseDups
  if maxSagaSteps < nodes.length then
    .error ⟨.sagaOrdering, "saga cannot exceed " ++ toString maxSagaSteps ++ " steps"⟩
  else
    let ordered := (TopoState.drain graph nodes.length (TopoState.start graph)).ordered
    if ordered.length ≠ nodes.length then
      .error ⟨.sagaOrdering, "causal graph must be acyclic for saga ordering"⟩
    else .ok ordered

/-! ### Building plans and runs -/

namespace SagaPlan

/-- The constructor with its validator. -/
def build (sagaId causalGraphHash : String) (stepManifestHashes : List String)
    (createdAt : Instant) (nonce : String) : Except PyError SagaPlan :=
  if empty : stepManifestHashes = [] then
    .error ⟨.validationError, "saga plan requires at least one step"⟩
  else if bounded : stepManifestHashes.length ≤ maxSagaSteps then
    if distinct : stepManifestHashes.Nodup then
      .ok {
        sagaId, causalGraphHash, stepManifestHashes, createdAt, nonce
        stepsNonempty := empty
        stepsBounded := bounded
        stepsDistinct := distinct }
    else .error ⟨.validationError, "saga step hashes must be unique"⟩
  else .error ⟨.validationError, "saga plan exceeds " ++ toString maxSagaSteps ++ " steps"⟩

end SagaPlan

/-- `set(left) != set(right)` negated. -/
def sameMembers (left right : List String) : Prop := left ⊆ right ∧ right ⊆ left

instance (left right : List String) : Decidable (sameMembers left right) :=
  inferInstanceAs (Decidable (_ ∧ _))

/-- The first step is ready, the others wait. -/
def freshStep (index : Nat) (manifestHash : String) : SagaStepRecord where
  manifestHash := manifestHash
  index := index
  status := if index = 0 then .ready else .pending

def buildSagaRun (plan : SagaPlan) (runId : String) : SagaRun where
  runId := runId
  plan := plan
  status := .pending
  steps := plan.stepManifestHashes.mapIdx freshStep

/-! ### Transitions of a run -/

def illegalSaga {Value : Type} (message : String) : Except PyError Value :=
  .error ⟨.sagaIllegalTransition, message⟩

namespace SagaRun

variable (run : SagaRun)

def replaceStep (index : Nat) (step : SagaStepRecord) : SagaRun :=
  { run with steps := run.steps.set index step }

/-- The first step of that manifest. -/
def stepOf (manifestHash : String) : Option SagaStepRecord :=
  run.steps.find? (fun step => step.manifestHash = manifestHash)

def refusesCommits : Prop :=
  run.status ∈ [.awaitingRecovery, .compensating, .completed, .failedPartial, .aborted]

instance : Decidable run.refusesCommits := inferInstanceAs (Decidable (_ ∈ _))

/-- The step index that may be committed. -/
def assertCanCommitStep (manifestHash : String) : Except PyError Nat :=
  match run.steps[run.cursor]? with
  | none => illegalSaga ("saga run " ++ run.runId ++ " has no forward cursor")
  | some step =>
      if step.manifestHash ≠ manifestHash then
        illegalSaga ("saga cursor expects " ++ step.manifestHash ++ ", got " ++ manifestHash)
      else if step.status = .ambiguous ∨ step.ambiguous then
        .error ⟨.sagaAmbiguousStep, "saga step " ++ manifestHash ++
          " is AMBIGUOUS; recover before any re-commit"⟩
      else if run.refusesCommits then
        illegalSaga ("saga run " ++ run.runId ++ " status " ++ run.status.value ++
          " cannot accept commits")
      else if step.status ≠ .authorized then
        illegalSaga ("saga step " ++ manifestHash ++ " status " ++ step.status.value ++
          " cannot be committed")
      else .ok run.cursor

def unknownStep {Value : Type} (manifestHash : String) : Except PyError Value :=
  illegalSaga ("manifest " ++ manifestHash ++ " is not a step in this saga")

def assertCanRecoverStep (manifestHash : String) : Except PyError Nat :=
  if run.status ≠ .awaitingRecovery then
    illegalSaga ("saga run " ++ run.runId ++ " is not awaiting recovery (" ++ run.status.value ++ ")")
  else
    match run.stepOf manifestHash with
    | none => unknownStep manifestHash
    | some step =>
        if step.status ≠ .ambiguous then
          illegalSaga ("saga step " ++ manifestHash ++ " is not AMBIGUOUS")
        else .ok step.index

def markStepAuthorized (manifestHash grantId : String) : Except PyError SagaRun :=
  match run.steps[run.cursor]? with
  | none => illegalSaga "no step available to authorize"
  | some step =>
      if step.manifestHash ≠ manifestHash then
        illegalSaga ("saga cursor expects " ++ step.manifestHash ++ ", got " ++ manifestHash)
      else if step.status ≠ .ready ∧ step.status ≠ .pending then
        illegalSaga ("saga step " ++ manifestHash ++ " status " ++ step.status.value ++
          " cannot be authorized")
      else .ok { run.replaceStep step.index
          { step with status := .authorized, grantId := some grantId } with status := .running }

def committedIndices : List Nat :=
  (run.steps.filter (fun step => step.status = .committed ∨ step.status = .verified)).map
    SagaStepRecord.index

/-- Enter compensating mode; the cursor walks back over committed and verified
steps. -/
def startCompensation : SagaRun :=
  match run.committedIndices.max? with
  | none => { run with status := .aborted }
  | some top => { run with status := .compensating, compensationCursor := some top }

def markStepFailed (manifestHash : String) (detail : Option String) : Except PyError SagaRun :=
  match run.stepOf manifestHash with
  | none => unknownStep manifestHash
  | some step => .ok (run.replaceStep step.index
      { step with status := .failed, commitSuccess := some false, detail }).startCompensation

def markStepCommitted (manifestHash : String) (success : Bool)
    (providerReference detail : Option String) : Except PyError SagaRun := do
  let index ← run.assertCanCommitStep manifestHash
  if success then
    match run.steps[index]? with
    | none => illegalSaga ("saga run " ++ run.runId ++ " has no forward cursor")
    | some step => .ok { run.replaceStep index
        { step with
          status := .committed, commitSuccess := some true, providerReference, detail } with
        status := .running }
  else run.markStepFailed manifestHash detail

/-- The step after a verified one becomes ready; after the last one the run is
complete. -/
def advanceCursor (next : Nat) : SagaRun :=
  match run.steps[next]? with
  | none => { run with cursor := next, status := .completed }
  | some step => { run.replaceStep next { step with status := .ready } with
      cursor := next, status := .running }

def markStepVerified (manifestHash : String) : Except PyError SagaRun :=
  match run.stepOf manifestHash with
  | none => unknownStep manifestHash
  | some step =>
      if step.status ≠ .committed then
        illegalSaga ("saga step " ++ manifestHash ++ " must be COMMITTED before VERIFIED")
      else .ok ((run.replaceStep step.index
        { step with status := .verified }).advanceCursor (step.index + 1))

def markStepAmbiguous (manifestHash : String) (detail : Option String) :
    Except PyError SagaRun := do
  let index ← run.assertCanCommitStep manifestHash
  match run.steps[index]? with
  | none => illegalSaga ("saga run " ++ run.runId ++ " has no forward cursor")
  | some step => .ok { run.replaceStep index
      { step with status := .ambiguous, ambiguous := true, detail } with
      status := .awaitingRecovery }

def compensatedStatus : CompensationStatus → SagaStepStatus
  | .verified => .compensated
  | .refused => .compensationRefused
  | .attempted => .compensationFailed

/-- The next lower committed or verified step, or the end of the walk. -/
def lowerCursor (index : Nat) : SagaRun :=
  match (run.committedIndices.filter (fun other => other < index)).max? with
  | none => { run with status := .failedPartial, compensationCursor := none }
  | some top => { run with compensationCursor := some top }

def markCompensationResult (manifestHash : String) (status : CompensationStatus)
    (detail : Option String) : Except PyError SagaRun :=
  if run.status ≠ .compensating then illegalSaga "saga is not compensating"
  else
    match run.stepOf manifestHash with
    | none => unknownStep manifestHash
    | some step =>
        if run.compensationCursor ≠ some step.index then
          illegalSaga ("compensation cursor expects index " ++
            ((run.compensationCursor.map toString).getD "None") ++ ", got " ++
            toString step.index)
        else .ok ((run.replaceStep step.index
          { step with
            status := compensatedStatus status
            compensationStatus := some status
            detail }).lowerCursor step.index)

def nextCompensationManifestHash : Option String :=
  if run.status ≠ .compensating then none
  else run.compensationCursor.bind (fun top => run.steps[top]?.map SagaStepRecord.manifestHash)

/-- The run as `recover_saga_step` hands it to `mark_step_committed`. -/
def retried (manifestHash : String) : SagaRun :=
  { run with
    status := .running
    steps := run.steps.map (fun step =>
      if step.manifestHash = manifestHash then
        { step with status := .authorized, ambiguous := false }
      else step) }

end SagaRun

end KarmaSakshi.Domain
