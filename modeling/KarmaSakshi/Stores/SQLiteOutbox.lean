import KarmaSakshi.Gateway.Migrations
import KarmaSakshi.Library.Linearization
import KarmaSakshi.Stores.Outbox

/-!
The SQLite outbox, statement by statement.

Several processes may share the file, so a method that reads a row and then writes it is two
steps of a pool.  The columns `created_at` and `status` are kept as the instant and the
enumeration their texts stand for; rows are ordered by the text.
-/

namespace KarmaSakshi.Stores

open EffectProgram KarmaSakshi.Domain

set_option autoImplicit false

/-! ### The table -/

/-- The rows of `commit_outbox`, whose primary key is the idempotency key. -/
structure OutboxTable where
  rows : List OutboxEntry
  keyed : (rows.map OutboxEntry.idempotencyKey).Nodup

inductive OutboxStatement : Type where
  | select (idempotencyKey : String)
  | insert (entry : OutboxEntry)
  | confirm (idempotencyKey outcomeRef : String)
  | abandon (idempotencyKey : String)
  | selectPending

/-- An update answers with its row count. -/
abbrev OutboxRows : OutboxStatement → Type
  | .select _ => Option OutboxEntry
  | .insert _ => Unit
  | .confirm _ _ | .abandon _ => Nat
  | .selectPending => List OutboxEntry

namespace OutboxTable

variable (table : OutboxTable)

def find (idempotencyKey : String) : Option OutboxEntry :=
  table.rows.find? (fun row => row.idempotencyKey = idempotencyKey)

/-- The rows an update of a pending row counts. -/
def pendingAt (idempotencyKey : String) (row : OutboxEntry) : Bool :=
  row.idempotencyKey = idempotencyKey ∧ row.status = .pending

def insert (entry : OutboxEntry) (absent : table.find entry.idempotencyKey = none) :
    OutboxTable where
  rows := table.rows ++ [entry]
  keyed := by
    rw [List.map_append, List.map_singleton, List.nodup_append]
    refine ⟨table.keyed, by simp, ?_⟩
    intro key listed last member same
    obtain ⟨row, inside, rfl⟩ := List.mem_map.mp listed
    have free := List.find?_eq_none.mp absent row inside
    rw [List.mem_singleton.mp member] at same
    exact free (decide_eq_true same)

/-- `UPDATE … WHERE idempotency_key = ? AND status = 'pending'`. -/
def update (idempotencyKey : String) (settle : OutboxEntry → OutboxStatus × Option String) :
    OutboxTable where
  rows := table.rows.map (fun row =>
    if pendingAt idempotencyKey row then
      { row with status := (settle row).1, outcomeRef := (settle row).2 }
    else row)
  keyed := by
    have same : ∀ row : OutboxEntry, OutboxEntry.idempotencyKey (if pendingAt idempotencyKey row
        then { row with status := (settle row).1, outcomeRef := (settle row).2 } else row) =
          row.idempotencyKey := by
      intro row
      split_ifs <;> rfl
    simp only [List.map_map, Function.comp_def, same]
    exact table.keyed

def uniqueFailed : PyError :=
  ⟨.other "IntegrityError", "UNIQUE constraint failed: commit_outbox.idempotency_key"⟩

/-- What a statement answers when nothing fails. -/
def execute : (statement : OutboxStatement) → Except PyError (OutboxRows statement) × OutboxTable
  | .select idempotencyKey => (.ok (table.find idempotencyKey), table)
  | .insert entry =>
      if absent : table.find entry.idempotencyKey = none then (.ok (), table.insert entry absent)
      else (.error uniqueFailed, table)
  | .confirm idempotencyKey outcomeRef => (.ok (table.rows.countP (pendingAt idempotencyKey)),
      table.update idempotencyKey (fun _ => (.confirmed, some outcomeRef)))
  | .abandon idempotencyKey => (.ok (table.rows.countP (pendingAt idempotencyKey)),
      table.update idempotencyKey (fun row => (.abandoned, row.outcomeRef)))
  | .selectPending => (.ok ((table.rows.filter (fun row => row.status = .pending)).mergeSort
      (fun one other => one.createdAt.isoformat ≤ other.createdAt.isoformat)), table)

end OutboxTable

abbrev OutboxProgram := Program OutboxStatement OutboxRows PyError

namespace SQLiteOutboxStore

open OutboxStore (conflict unknownKey)

def execute (statement : OutboxStatement) : OutboxProgram (OutboxRows statement) :=
  Program.perform statement

def guarded {Value : Type} (failure : String) (body : OutboxProgram Value) :
    OutboxProgram Value :=
  body.rescue Gateway.isSqliteError (fun _ => .raised ⟨.storeUnavailable, failure⟩)

def recordPending (entry : OutboxEntry) : OutboxProgram Unit :=
  if entry.status ≠ .pending then .raised (conflict "record_pending requires status=pending")
  else guarded ("sqlite outbox record_pending failed for " ++ entry.idempotencyKey) do
    match ← execute (.select entry.idempotencyKey) with
    | some existing =>
        if existing.grantId ≠ entry.grantId ∨ existing.manifestHash ≠ entry.manifestHash then
          .raised (conflict ("outbox key " ++ pyRepr entry.idempotencyKey ++
            " already bound to a different grant/manifest"))
        else if existing.status ≠ .pending then
          .raised (conflict ("outbox key " ++ pyRepr entry.idempotencyKey ++ " already " ++
            existing.status.text))
        else pure ()
    | none => execute (.insert entry)

def get (idempotencyKey : String) : OutboxProgram (Option OutboxEntry) :=
  guarded ("sqlite outbox get failed for " ++ idempotencyKey) (execute (.select idempotencyKey))

/-- `mark_confirmed` and `mark_abandoned`: the row is read, then updated where it is still
pending. -/
def mark (word : String) (settled : OutboxStatus) (idempotencyKey : String)
    (updated : OutboxProgram Nat) : OutboxProgram Unit :=
  guarded ("sqlite outbox mark_" ++ settled.text ++ " failed for " ++ idempotencyKey) do
    match ← execute (.select idempotencyKey) with
    | none => .raised (unknownKey idempotencyKey)
    | some entry =>
        if entry.status = settled then pure ()
        else if entry.status ≠ .pending then
          .raised (conflict ("cannot " ++ word ++ " outbox key " ++ pyRepr idempotencyKey ++
            " in status " ++ entry.status.text))
        else do
          let rowcount ← updated
          if rowcount ≠ 1 then
            .raised (conflict ("outbox " ++ word ++ " race for " ++ pyRepr idempotencyKey))
          else pure ()

def markConfirmed (idempotencyKey outcomeRef : String) : OutboxProgram Unit :=
  mark "confirm" .confirmed idempotencyKey (execute (.confirm idempotencyKey outcomeRef))

def markAbandoned (idempotencyKey : String) : OutboxProgram Unit :=
  mark "abandon" .abandoned idempotencyKey (execute (.abandon idempotencyKey))

def listPending : OutboxProgram (List OutboxEntry) :=
  guarded "sqlite outbox list_pending failed" (execute .selectPending)

end SQLiteOutboxStore

/-! ### Calls -/

inductive OutboxCall : Type where
  | recordPending (entry : OutboxEntry)
  | get (idempotencyKey : String)
  | markConfirmed (idempotencyKey outcomeRef : String)
  | markAbandoned (idempotencyKey : String)
  | listPending

inductive OutboxAnswer : Type where
  | done
  | found (entry : Option OutboxEntry)
  | listed (entries : List OutboxEntry)

def OutboxCall.program : OutboxCall → OutboxProgram OutboxAnswer
  | recordPending entry => do
      let _ ← SQLiteOutboxStore.recordPending entry
      pure .done
  | get idempotencyKey => do
      let entry ← SQLiteOutboxStore.get idempotencyKey
      pure (.found entry)
  | markConfirmed idempotencyKey outcomeRef => do
      let _ ← SQLiteOutboxStore.markConfirmed idempotencyKey outcomeRef
      pure .done
  | markAbandoned idempotencyKey => do
      let _ ← SQLiteOutboxStore.markAbandoned idempotencyKey
      pure .done
  | listPending => do
      let entries ← SQLiteOutboxStore.listPending
      pure (.listed entries)

end KarmaSakshi.Stores
