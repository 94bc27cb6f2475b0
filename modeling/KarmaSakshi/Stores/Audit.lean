import KarmaSakshi.Domain.AuditEvents
import KarmaSakshi.Library.Pool

/-!
The shared audit backends, SQLite and Redis.

SQLite keys the rows by sequence number and refuses a second row under one key; the
Redis script appends only the event that comes next.  A backend that is cut off may
have stored the event all the same.
-/

namespace KarmaSakshi.Stores

open EffectProgram KarmaSakshi.Domain

set_option autoImplicit false

/-- How events are written, by `canonical_json_bytes` or `model_dump_json`, and read
back by `model_validate_json`, which restores what was dumped. -/
structure EventCodec where
  Payload : Type
  dump : AuditEvent → Payload
  validate : Payload → Except PyError AuditEvent
  restores : ∀ event, validate (dump event) = .ok event

variable (codec : EventCodec)

inductive AuditOp : Type where
  | newEventId
  | now
  | selectLast
  | insertRow (sequence : Int) (payload : codec.Payload)
  | rollback
  | indexLast
  | runAppend (payload : codec.Payload) (expectedSequence : Int)

abbrev AuditReply : AuditOp codec → Type
  | .newEventId => String
  | .now => Instant
  | .selectLast => Option codec.Payload
  | .insertRow _ _ => Unit
  | .rollback => Unit
  | .indexLast => Option codec.Payload
  | .runAppend _ _ => Int

abbrev AuditAction (Value : Type) := Program (AuditOp codec) (AuditReply codec) PyError Value

variable {codec} in
def ask (op : AuditOp codec) : AuditAction codec (AuditReply codec op) := Program.perform op

inductive AuditBackend : Type where
  | sqlite
  | redis
  deriving DecidableEq

/-- `except sqlite3.Error`, by the names of its subclasses. -/
def isSqliteError (error : PyError) : Bool :=
  error.kind.name ∈ ["Error", "InterfaceError", "DatabaseError", "DataError", "OperationalError",
    "IntegrityError", "InternalError", "ProgrammingError", "NotSupportedError"]

/-- A row or a list item that was read, as an event. -/
def readBack : Option codec.Payload → Except PyError (Option AuditEvent)
  | none => .ok none
  | some payload => do
      let event ← codec.validate payload
      .ok (some event)

namespace AuditBackend

def append : AuditBackend → AuditEvent → AuditAction codec Unit
  | sqlite, event =>
      Program.rescue (ask (.insertRow event.sequence (codec.dump event))) isSqliteError
        (fun _ => do
          ask .rollback
          .raised ⟨.auditWrite, "failed to durably write audit event sequence=" ++
            toString event.sequence⟩)
  | redis, event =>
      (ask (.runAppend (codec.dump event) event.sequence)).attempt (fun
          | .error _ => .raised ⟨.auditWrite, "redis audit append failed for sequence=" ++
              toString event.sequence⟩
          | .ok done =>
              if done ≠ (1 : Int) then
                .raised ⟨.auditWrite, "redis audit append rejected sequence=" ++
                  toString event.sequence ++
                  " (concurrent writer or stale journal tip); fail closed"⟩
              else .done ())

def lastEvent : AuditBackend → AuditAction codec (Option AuditEvent)
  | sqlite => do
      let row ← ask .selectLast
      Program.settle (readBack codec row)
  | redis =>
      (ask .indexLast).attempt (fun
        | .error _ => .raised ⟨.auditWrite, "redis audit last_event failed"⟩
        | .ok raw => Program.settle (readBack codec raw))

end AuditBackend

/-! ### The store -/

/-- Both backends' contents, in order.  Beside them stand the callers who stored
something, oldest first, and those whose append came too late. -/
structure AuditStore (Caller : Type) where
  rows : List (Int × codec.Payload)
  items : List codec.Payload
  writers : List Caller
  outrun : List Caller

/-- The rows of a table in the order of its key. -/
def putRow {Payload : Type} (row : Int × Payload) :
    List (Int × Payload) → List (Int × Payload)
  | [] => [row]
  | first :: rest => if row.1 < first.1 then row :: first :: rest else first :: putRow row rest

namespace AuditStore

variable {codec} {Caller : Type} (store : AuditStore codec Caller) (caller : Caller)

def empty : AuditStore codec Caller := ⟨[], [], [], []⟩

def late : AuditStore codec Caller := { store with outrun := store.outrun ++ [caller] }

def inserted (sequence : Int) (payload : codec.Payload) : AuditStore codec Caller :=
  { store with
    rows := putRow (sequence, payload) store.rows
    writers := store.writers ++ [caller] }

def pushed (payload : codec.Payload) : AuditStore codec Caller :=
  { store with items := store.items ++ [payload], writers := store.writers ++ [caller] }

/-- `SELECT payload FROM audit_events ORDER BY sequence ASC`, and `LRANGE 0 -1`. -/
def payloads : AuditBackend → List codec.Payload
  | .sqlite => store.rows.map Prod.snd
  | .redis => store.items

end AuditStore

/-- The operation raises. -/
def Raised {Value : Type} (reply : Except PyError Value) : Prop := ∃ error, reply = .error error

/-- How the shared backends answer one caller. -/
def auditAnswers {Caller : Type} (caller : Caller) :
    Handler (AuditOp codec) (AuditReply codec) PyError (AuditStore codec Caller) :=
  fun store op reply after =>
    match op, reply with
    | .newEventId, _ => after = store
    | .now, _ => after = store
    | .rollback, _ => after = store
    | .selectLast, reply =>
        (reply = .ok (store.rows.getLast?.map Prod.snd) ∨ Raised reply) ∧ after = store
    | .indexLast, reply => (reply = .ok store.items.getLast? ∨ Raised reply) ∧ after = store
    | .insertRow sequence payload, reply =>
        if sequence ∈ store.rows.map Prod.fst then Raised reply ∧ after = store.late caller
        else reply = .ok () ∧ after = store.inserted caller sequence payload ∨
          Raised reply ∧ (after = store ∨ after = store.inserted caller sequence payload)
    | .runAppend payload expectedSequence, reply =>
        if (store.items.length : Int) + 1 ≠ expectedSequence then
          (reply = .ok (0 : Int) ∨ Raised reply) ∧ after = store.late caller
        else reply = .ok (1 : Int) ∧ after = store.pushed caller payload ∨
          Raised reply ∧ (after = store ∨ after = store.pushed caller payload)

/-! ### What an append does to a chain -/

variable {codec} {Caller : Type}

/-- The backend holds exactly these events. -/
def Holds (backend : AuditBackend) (store : AuditStore codec Caller) (events : List AuditEvent) :
    Prop :=
  match backend with
  | .sqlite => store.rows = events.map (fun event => (event.sequence, codec.dump event))
  | .redis => store.items = events.map codec.dump

end KarmaSakshi.Stores
