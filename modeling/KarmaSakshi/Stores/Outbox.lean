import KarmaSakshi.Domain.Values

/-!
The transactional outbox of commit intents.

A key is bound once, to one grant and one manifest hash, and its status only
ever moves from pending to confirmed or abandoned.
-/

namespace KarmaSakshi.Stores

open KarmaSakshi.Domain

set_option autoImplicit false

inductive OutboxStatus : Type where
  | pending
  | confirmed
  | abandoned
  deriving DecidableEq

def OutboxStatus.text : OutboxStatus → String
  | pending => "pending"
  | confirmed => "confirmed"
  | abandoned => "abandoned"

/-- One durable commit-intent row. -/
structure OutboxEntry where
  schemaVersion : String
  idempotencyKey : String
  grantId : String
  manifestId : String
  manifestHash : String
  status : OutboxStatus
  createdAt : Instant
  outcomeRef : Option String

inductive OutboxOp : Type where
  | recordPending (entry : OutboxEntry)
  | get (idempotencyKey : String)
  | markConfirmed (idempotencyKey outcomeRef : String)
  | markAbandoned (idempotencyKey : String)

abbrev OutboxReply : OutboxOp → Type
  | .recordPending _ => Unit
  | .get _ => Option OutboxEntry
  | .markConfirmed _ _ => Unit
  | .markAbandoned _ => Unit

/-- Both shipped outboxes hold one entry a key and check it under one lock. -/
structure OutboxStore where
  entries : String → Option OutboxEntry

namespace OutboxStore

variable (store : OutboxStore) (idempotencyKey : String)

def put (entry : OutboxEntry) : OutboxStore :=
  ⟨Function.update store.entries entry.idempotencyKey (some entry)⟩

def conflict (message : String) : PyError := ⟨.outboxConflict, message⟩

def unknownKey : PyError := conflict ("unknown outbox key " ++ pyRepr idempotencyKey)

def recordPending (entry : OutboxEntry) : Except PyError Unit × OutboxStore :=
  if entry.status ≠ .pending then
    (.error (conflict "record_pending requires status=pending"), store)
  else
    match store.entries entry.idempotencyKey with
    | none => (.ok (), store.put entry)
    | some existing =>
        if existing.grantId ≠ entry.grantId ∨ existing.manifestHash ≠ entry.manifestHash then
          (.error (conflict ("outbox key " ++ pyRepr entry.idempotencyKey ++
            " already bound to a different grant/manifest")), store)
        else if existing.status ≠ .pending then
          (.error (conflict ("outbox key " ++ pyRepr entry.idempotencyKey ++ " already " ++
            existing.status.text)), store)
        else (.ok (), store)

def get : Option OutboxEntry := store.entries idempotencyKey

/-- The entry under `key` with its settled status, keyed as it was. -/
def settle (entry : OutboxEntry) (status : OutboxStatus) (outcomeRef : Option String) :
    OutboxStore :=
  ⟨Function.update store.entries idempotencyKey (some { entry with status, outcomeRef })⟩

def markConfirmed (outcomeRef : String) : Except PyError Unit × OutboxStore :=
  match store.entries idempotencyKey with
  | none => (.error (unknownKey idempotencyKey), store)
  | some entry =>
      match entry.status with
      | .confirmed => (.ok (), store)
      | .pending => (.ok (), store.settle idempotencyKey entry .confirmed (some outcomeRef))
      | .abandoned => (.error (conflict ("cannot confirm outbox key " ++
          pyRepr idempotencyKey ++ " in status " ++ entry.status.text)), store)

def markAbandoned : Except PyError Unit × OutboxStore :=
  match store.entries idempotencyKey with
  | none => (.error (unknownKey idempotencyKey), store)
  | some entry =>
      match entry.status with
      | .abandoned => (.ok (), store)
      | .pending => (.ok (), store.settle idempotencyKey entry .abandoned entry.outcomeRef)
      | .confirmed => (.error (conflict ("cannot abandon outbox key " ++
          pyRepr idempotencyKey ++ " in status " ++ entry.status.text)), store)

def serve : (op : OutboxOp) → Except PyError (OutboxReply op) × OutboxStore
  | .recordPending entry => store.recordPending entry
  | .get idempotencyKey => (.ok (store.get idempotencyKey), store)
  | .markConfirmed idempotencyKey outcomeRef => store.markConfirmed idempotencyKey outcomeRef
  | .markAbandoned idempotencyKey => store.markAbandoned idempotencyKey

end OutboxStore

end KarmaSakshi.Stores
