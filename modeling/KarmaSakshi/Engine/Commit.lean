import KarmaSakshi.Engine.Gates

/-!
`commit` from the budget reservation to the final transition.

The operation is cut at the points where its exception handlers change: budget,
grant reservation, the COMMITTING transition, the outbox record, the ledger
lookup, the preconditions, the adapter call and the settlement.  Each part hands
over to the next in its last position, as the source falls through.
-/

namespace KarmaSakshi.Engine

open EffectProgram KarmaSakshi.Domain KarmaSakshi.Stores

set_option autoImplicit false

/-- The budget reservation a commit holds: `budget_id` and `budget_amount`. -/
abbrev BudgetHold := Option (String × Nat)

variable (context : EngineContext) (call : CommitCall)

/-- `require_budget`. -/
def requireBudget (budgetId : String) : Action AuthorityBudget :=
  if context.hasBudgetLedger then perform (.budget (.get budgetId))
  else .raised (noLedgerError budgetId)

def resolveAmount (budgetId : String) : Action Nat :=
  (do
    let budget ← requireBudget context budgetId
    .settle (resolveBudgetConsumeAmount budget call.manifest)).attempt (fun
      | .ok amount => pure amount
      | .error error =>
          if error.isAuthorityBudget then
            deny call "authority_budget.resolve_failed" error.blockedDecision error
          else .raised error)

def budgetExhausted (budgetId : String) (amount : Nat) (remaining : Int) : PyError :=
  ⟨.authorityBudgetExhausted, "authority budget " ++ budgetId ++ " exhausted for amount=" ++
    toString amount ++ " (remaining=" ++ toString remaining ++ ")"⟩

def reserveBudgetAmount (budgetId : String) (amount : Nat) : Action BudgetHold := do
  if ← perform (.budget (.reserve budgetId amount)) then pure (some (budgetId, amount))
  else do
    let remaining ← perform (.budget (.remaining budgetId))
    deny call "authority_budget.exhausted" "blocked_authority_budget_exhausted"
      (budgetExhausted budgetId amount remaining)

def reserveBudget : Action BudgetHold :=
  match call.grant.authorityBudgetId with
  | none => pure none
  | some budgetId => do
      let amount ← resolveAmount context call budgetId
      reserveBudgetAmount call budgetId amount

/-- `release_budget`. -/
def releaseBudget (hold : BudgetHold) : Action Unit :=
  match hold with
  | none => pure ()
  | some (budgetId, amount) => perform (.budget (.release budgetId amount))

def grantExhausted : PyError :=
  ⟨.grantExhausted, "grant " ++ call.grantId ++
    " has no available uses (revoked, already in-flight, or max_uses reached)"⟩

def reserveGrant (hold : BudgetHold) : Action Unit := do
  if ← perform (.grants (.reserve call.grantId call.grant.maxUses)) then pure ()
  else do
    releaseBudget hold
    deny call "grant.reservation_failed" "blocked_exhausted_or_inflight" (grantExhausted call)

/-- Give the reservation slot and the budget back. -/
def releaseHolds (hold : BudgetHold) : Action Unit := do
  perform (.grants (.release call.grantId))
  releaseBudget hold

def budgetMetadata (hold : BudgetHold) : List (String × String) :=
  match hold with
  | none => []
  | some (budgetId, amount) =>
      [("authority_budget_id", budgetId), ("authority_budget_amount", toString amount)]

def CommitCall.note (eventType : String) (metadata : List (String × String)) :
    TransitionNote where
  eventType := eventType
  manifestHash := some call.manifestHash
  grantId := some call.grantId
  actorId := some call.actorId
  metadata := metadata

/-- A failed transition must not leak the reservations. -/
def enterCommitting (hold : BudgetHold) : Action Unit :=
  (transition context call.manifestId .committing
    (call.note "effect.committing" (budgetMetadata hold))).attempt (fun
      | .ok _ => pure ()
      | .error error => do
          releaseHolds call hold
          .raised error)

def CommitCall.outboxEntry (instant : Instant) : OutboxEntry where
  schemaVersion := "1.0"
  idempotencyKey := call.idempotencyKey
  grantId := call.grantId
  manifestId := call.manifestId
  manifestHash := call.manifestHash
  status := .pending
  createdAt := instant
  outcomeRef := none

/-- Only a conflict or an unavailable store is cleaned up after. -/
def recordOutbox (hold : BudgetHold) : Action Unit :=
  if context.hasOutboxStore then do
    let instant ← perform .now
    (perform (.outbox (.recordPending (call.outboxEntry instant)))).attempt (fun
      | .ok _ => pure ()
      | .error error =>
          if error.isOutboxRefusal then do
            releaseHolds call hold
            deny call "outbox.record_failed" error.blockedDecision error
          else .raised error)
  else pure ()

/-- `abandon_outbox`, after this call recorded its own intent. -/
def abandonOutbox : Action Unit :=
  if context.hasOutboxStore then perform (.outbox (.markAbandoned call.idempotencyKey))
  else pure ()

/-- `confirm_outbox`; a store being configured means this call recorded its
intent, so `outbox_pending` holds whenever it is reached. -/
def confirmOutbox (outcomeRef : String) : Action Unit :=
  if context.hasOutboxStore then do
    let existing ← perform (.outbox (.get call.idempotencyKey))
    let outboxPending := context.hasOutboxStore
    if (existing.map OutboxEntry.status = some .pending) ∨ outboxPending then
      perform (.outbox (.markConfirmed call.idempotencyKey outcomeRef))
    else pure ()
  else pure ()

/-- The effect was already committed under this key: finalize the grant use. -/
def replayOutcome (hold : BudgetHold) (existingOutcome : String) : Action CommitResult := do
  releaseBudget hold
  confirmOutbox context call existingOutcome
  perform (.grants (.commit call.grantId call.idempotencyKey existingOutcome))
  let _ ← transition context call.manifestId .committed
    (call.note "effect.committed_idempotent_replay" [("outcome_ref", existingOutcome)])
  pure {
    success := true
    idempotencyKey := call.idempotencyKey
    providerReference := some existingOutcome
    detail := some
      "idempotent replay: effect was already committed for this idempotency key"
    afterStateDigest := none }

/-- Move to FAILED with one note. -/
def failWith (eventType : String) (metadata : List (String × String)) : Action Unit := do
  let _ ← transition context call.manifestId .failed (call.note eventType metadata)
  pure ()

def staleError (result : PreconditionResult) : PyError :=
  ⟨.staleManifest, orElse result.reason "preconditions no longer hold; re-prepare required"⟩

def checkPreconditions (hold : BudgetHold) : Action Unit :=
  (perform (.adapter call.adapter (.validatePreconditions call.manifest))).attempt (fun
    | .error error => do
        releaseHolds call hold
        abandonOutbox context call
        failWith context call "effect.precondition_check_error"
          [("error", clipped error.message 200)]
        .raised error
    | .ok result =>
        if result.satisfied then pure ()
        else do
          releaseHolds call hold
          abandonOutbox context call
          failWith context call "effect.stale_manifest"
            [("reason", clipped (orElse result.reason "") 200)]
          .raised (staleError result))

/-- Finalize the held budget reservation into consumed capacity. -/
def consumeBudget (hold : BudgetHold) : Action Unit :=
  match hold with
  | none => pure ()
  | some (budgetId, amount) => perform (.budget (.commit budgetId amount))

def settleSuccess (hold : BudgetHold) (result : CommitResult) : Action CommitResult := do
  consumeBudget hold
  let outcomeRef := orElse result.providerReference "committed"
  confirmOutbox context call outcomeRef
  perform (.grants (.commit call.grantId call.idempotencyKey outcomeRef))
  let _ ← transition context call.manifestId .committed
    (call.note "effect.committed"
      (("provider_reference", clipped outcomeRef 200) :: budgetMetadata hold))
  pure result

/-- An unsuccessful answer of the adapter is returned, not raised. -/
def settleFailure (hold : BudgetHold) (result : CommitResult) : Action CommitResult := do
  releaseHolds call hold
  abandonOutbox context call
  failWith context call "effect.commit_failed"
    [("detail", clipped (orElse result.detail "") 200)]
  pure result

/-- An adapter exception leaves the outbox pending: the outcome is ambiguous. -/
def settleError (hold : BudgetHold) (error : PyError) : Action CommitResult := do
  releaseHolds call hold
  failWith context call "effect.commit_error"
    [("error", clipped error.message 200), ("outbox", "pending_ambiguous")]
  .raised error

def invokeAdapter (hold : BudgetHold) : Action CommitResult :=
  (perform (.adapter call.adapter (.commit call.manifest call.grant))).attempt (fun
    | .error error => settleError context call hold error
    | .ok result =>
        if result.success then settleSuccess context call hold result
        else settleFailure context call hold result)

def execute (hold : BudgetHold) : Action CommitResult := do
  match ← perform (.grants (.getIdempotentOutcome call.idempotencyKey)) with
  | some existingOutcome => replayOutcome context call hold existingOutcome
  | none => do
      checkPreconditions context call hold
      invokeAdapter context call hold

def commit : Action CommitResult := do
  gates context call
  let hold ← reserveBudget context call
  reserveGrant call hold
  enterCommitting context call hold
  recordOutbox context call hold
  execute context call hold

end KarmaSakshi.Engine
