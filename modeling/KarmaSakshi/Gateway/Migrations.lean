import KarmaSakshi.Library.Replay
import KarmaSakshi.Domain.Values
import Mathlib.Data.List.Sort

/-!
The versioned migrations of the gateway's database.

A program over the statements that one connection executes.  The connection follows the
default transaction control of `sqlite3`: a data statement opens a transaction, a `CREATE
TABLE` does not, so outside a transaction it is durable at once.
-/

namespace KarmaSakshi.Gateway

open EffectProgram KarmaSakshi.Domain

set_option autoImplicit false

/-- A `CREATE TABLE` statement. -/
structure CreateTable where
  table : String
  columns : List String

structure Migration where
  id : Nat
  name : String
  sql : CreateTable

/-- `MIGRATIONS`. -/
def migrations : List Migration := [
  { id := 1
    name := "create_organizations"
    sql := ⟨"organizations", [
      "org_id TEXT PRIMARY KEY",
      "name TEXT NOT NULL",
      "status TEXT NOT NULL",
      "created_at TEXT NOT NULL"]⟩ },
  { id := 2
    name := "create_gateway_users"
    sql := ⟨"gateway_users", [
      "user_id TEXT PRIMARY KEY",
      "org_id TEXT NOT NULL REFERENCES organizations(org_id)",
      "email TEXT NOT NULL",
      "display_name TEXT NOT NULL",
      "role TEXT NOT NULL",
      "password_hash TEXT NOT NULL",
      "password_salt TEXT NOT NULL",
      "created_at TEXT NOT NULL",
      "UNIQUE(org_id, email)"]⟩ },
  { id := 3
    name := "create_gateway_agents"
    sql := ⟨"gateway_agents", [
      "org_id TEXT NOT NULL REFERENCES organizations(org_id)",
      "agent_id TEXT NOT NULL",
      "display_name TEXT NOT NULL",
      "created_at TEXT NOT NULL",
      "PRIMARY KEY(org_id, agent_id)"]⟩ },
  { id := 4
    name := "create_gateway_adapters"
    sql := ⟨"gateway_adapters", [
      "org_id TEXT NOT NULL REFERENCES organizations(org_id)",
      "adapter_id TEXT NOT NULL",
      "adapter_version TEXT NOT NULL",
      "effect_types_json TEXT NOT NULL",
      "created_at TEXT NOT NULL",
      "PRIMARY KEY(org_id, adapter_id)"]⟩ },
  { id := 5
    name := "create_gateway_refund_state"
    sql := ⟨"gateway_refund_state", [
      "org_id TEXT NOT NULL REFERENCES organizations(org_id)",
      "bucket TEXT NOT NULL",
      "item_key TEXT NOT NULL",
      "payload_json TEXT NOT NULL",
      "updated_at TEXT NOT NULL",
      "PRIMARY KEY(org_id, bucket, item_key)"]⟩ }]

/-- `sorted(MIGRATIONS, key=lambda m: m.id)`. -/
def sortedMigrations : List Migration :=
  migrations.insertionSort (fun first second => first.id ≤ second.id)

/-- The migrations are declared in the order of their ids. -/
theorem sorted_migrations : sortedMigrations = migrations := rfl

/-! ### The connection -/

/-- The tables of the database, and the rows of `schema_migrations` if it exists. -/
structure Database where
  tables : List CreateTable
  recorded : Option (List (Nat × String))

namespace Database

variable (database : Database)

def has (table : String) : Prop := table ∈ database.tables.map CreateTable.table

instance (table : String) : Decidable (database.has table) :=
  inferInstanceAs (Decidable (table ∈ database.tables.map CreateTable.table))

def rows : List (Nat × String) := database.recorded.getD []

def ids : List Nat := database.rows.map Prod.fst

def ensured : Database := { database with recorded := some database.rows }

def create (sql : CreateTable) : Database :=
  { database with tables := database.tables ++ [sql] }

def record (id : Nat) (name : String) : Database :=
  { database with recorded := some (database.rows ++ [(id, name)]) }

@[simp] theorem has_ensured (table : String) : database.ensured.has table ↔ database.has table :=
  Iff.rfl

@[simp] theorem ids_ensured : database.ensured.ids = database.ids := rfl

@[simp] theorem has_create (sql : CreateTable) (table : String) :
    (database.create sql).has table ↔ database.has table ∨ table = sql.table := by
  simp only [has, create, List.map_append, List.map_cons, List.map_nil, List.mem_append,
    List.mem_singleton]

@[simp] theorem ids_create (sql : CreateTable) : (database.create sql).ids = database.ids := rfl

@[simp] theorem has_record (id : Nat) (name table : String) :
    (database.record id name).has table ↔ database.has table := Iff.rfl

@[simp] theorem ids_record (id : Nat) (name : String) :
    (database.record id name).ids = database.ids ++ [id] := by
  simp only [ids, rows, record, Option.getD_some, List.map_append, List.map_cons, List.map_nil]

end Database

/-- A connection: what is on disk, and what its open transaction sees. -/
structure Connection where
  durable : Database
  opened : Option Database

namespace Connection

variable (connection : Connection)

def current : Database := connection.opened.getD connection.durable

/-- Put a change where the connection writes: into the open transaction, if there is one. -/
def define (database : Database) : Connection :=
  match connection.opened with
  | some _ => { connection with opened := some database }
  | none => { connection with durable := database }

end Connection

/-- `sqlite3.connect`. -/
def connect (database : Database) : Connection := ⟨database, none⟩

inductive MigrationOp : Type where
  /-- `CREATE TABLE IF NOT EXISTS schema_migrations`. -/
  | ensureTable
  | createTable (sql : CreateTable)
  | selectIds
  | insertMigration (id : Nat) (name : String)
  | commit
  | rollback

abbrev MigrationReply : MigrationOp → Type
  | .selectIds => List Nat
  | .ensureTable | .createTable _ | .insertMigration _ _ | .commit | .rollback => Unit

def operationalError (text : String) : PyError := ⟨.other "OperationalError", text⟩

/-- What SQLite makes of a statement. -/
def migrationServer : Server MigrationOp MigrationReply PyError Connection
  | connection, .ensureTable =>
      (.ok (), connection.define connection.current.ensured)
  | connection, .createTable sql =>
      if connection.current.has sql.table then
        (.error (operationalError ("table " ++ sql.table ++ " already exists")), connection)
      else
        (.ok (), connection.define (connection.current.create sql))
  | connection, .selectIds =>
      match connection.current.recorded with
      | none => (.error (operationalError "no such table: schema_migrations"), connection)
      | some rows => (.ok (rows.map Prod.fst), connection)
  | connection, .insertMigration id name =>
      match connection.current.recorded with
      | none => (.error (operationalError "no such table: schema_migrations"), connection)
      | some rows =>
          if id ∈ rows.map Prod.fst then
            (.error ⟨.other "IntegrityError", "UNIQUE constraint failed: schema_migrations.id"⟩,
              { connection with opened := some connection.current })
          else
            (.ok (), { connection with opened := some (connection.current.record id name) })
  | connection, .commit => (.ok (), ⟨connection.current, none⟩)
  | connection, .rollback => (.ok (), { connection with opened := none })

/-- A statement is executed, or fails: then nothing durable has changed, and the open
transaction is either kept or rolled back. -/
def migrationHandler : Handler MigrationOp MigrationReply PyError Connection :=
  fun connection op reply after =>
    (reply, after) = migrationServer connection op ∨
      (∃ error, reply = .error error) ∧ after.durable = connection.durable ∧
        (after.opened = connection.opened ∨ after.opened = none)

theorem connect_current (database : Database) : (connect database).current = database := rfl

theorem migration_server_serves : migrationServer.Serves migrationHandler :=
  fun _ _ => Or.inl rfl

/-! ### The migrations -/

abbrev MigrationProgram := Program MigrationOp MigrationReply PyError

def execute (op : MigrationOp) : MigrationProgram (MigrationReply op) := Program.perform op

/-- `except sqlite3.Error`. -/
def isSqliteError (error : PyError) : Bool :=
  match error.kind with
  | .other name =>
      name ∈ ["Error", "InterfaceError", "DatabaseError", "DataError", "OperationalError",
        "IntegrityError", "InternalError", "ProgrammingError", "NotSupportedError"]
  | _ => false

/-- `_ensure_migrations_table`. -/
def ensureMigrationsTable : MigrationProgram Unit := do
  let _ ← execute .ensureTable
  execute .commit

/-- `applied_migration_ids`. -/
def appliedMigrationIds : MigrationProgram (List Nat) := do
  let _ ← ensureMigrationsTable
  execute .selectIds

/-- The `GatewayMigrationError` for a migration that failed with the error. -/
def Migration.failed (migration : Migration) (error : PyError) : PyError :=
  ⟨.gatewayMigration, "migration " ++ toString migration.id ++ " (" ++ migration.name ++
    ") failed to apply: " ++ error.message⟩

/-- The body of the loop, for a migration that is not recorded. -/
def applyMigration (migration : Migration) : MigrationProgram Unit :=
  Program.rescue
    (do
      let _ ← execute (.createTable migration.sql)
      let _ ← execute (.insertMigration migration.id migration.name)
      execute .commit)
    isSqliteError
    (fun error => do
      let _ ← execute .rollback
      .raised (migration.failed error))

/-- The loop; it returns the ids it applied. -/
def applyUnrecorded (recorded : List Nat) : List Migration → MigrationProgram (List Nat)
  | [] => pure []
  | migration :: rest =>
      if migration.id ∈ recorded then applyUnrecorded recorded rest
      else do
        let _ ← applyMigration migration
        let newlyApplied ← applyUnrecorded recorded rest
        pure (migration.id :: newlyApplied)

/-- `apply_migrations`. -/
def applyMigrations : MigrationProgram (List Nat) := do
  let _ ← ensureMigrationsTable
  let alreadyApplied ← appliedMigrationIds
  applyUnrecorded alreadyApplied sortedMigrations

end KarmaSakshi.Gateway
