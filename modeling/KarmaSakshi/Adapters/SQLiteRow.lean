import KarmaSakshi.Domain.ManifestDraft
import KarmaSakshi.Engine.Operations

/-!
The SQLite row adapter.

Every method is a program over two accesses of the table: a read of one row, and one
statement run in a transaction of its own.  The digest function and the clock are inputs,
and so are the manifest's fresh identifiers.
-/

namespace KarmaSakshi.Adapters

open EffectProgram KarmaSakshi.Domain KarmaSakshi.Engine

set_option autoImplicit false

inductive RowOperation : Type where
  | insert
  | update
  | delete
  deriving DecidableEq

def RowOperation.value : RowOperation → String
  | insert => "insert"
  | update => "update"
  | delete => "delete"

structure RowEffectRequest where
  operation : RowOperation
  rowId : String
  actor : Principal
  principal : Principal
  newBalance : Option Int
  idempotencyKey : String
  nonce : String
  ttlSeconds : Int

/-- The columns of `ledger_accounts` that the adapter reads back. -/
structure Row where
  balance : ParameterValue
  version : Int
  deriving DecidableEq

/-! ### The table -/

/-- The statements the adapter runs on the row with a given id.  `restore` and `remove` are
the ones of `compensate`, which look at no version. -/
inductive RowStatement : Type where
  | insert (balance : Int)
  | update (balance : Int) (version : Int)
  | delete (version : Int)
  | restore (balance : ParameterValue)
  | remove
  deriving DecidableEq

/-- What an INTEGER column makes of a value. -/
def integerAffinity : ParameterValue → ParameterValue
  | .text value =>
      match value.toInt? with
      | some number => .int number
      | none => .text value
  | .bool value => .int (if value then 1 else 0)
  | other => other

/-- The affected rows and the row afterwards; `none` is an `IntegrityError`. -/
def RowStatement.run (statement : RowStatement) (row : Option Row) : Option (Nat × Option Row) :=
  match statement, row with
  | .insert balance, none => some (1, some ⟨.int balance, 0⟩)
  | .insert _, some _ => none
  | _, none => some (0, none)
  | .update balance version, some held =>
      if held.version = version then some (1, some ⟨.int balance, held.version + 1⟩)
      else some (0, some held)
  | .delete version, some held =>
      if held.version = version then some (1, none) else some (0, some held)
  | .restore balance, some held => some (1, some ⟨integerAffinity balance, held.version + 1⟩)
  | .remove, some _ => some (1, none)

inductive RowOp : Type where
  | fetch (rowId : String)
  /-- Execute the statement, and roll back when it affects no row or more than the ceiling. -/
  | transact (rowId : String) (statement : RowStatement) (ceiling : Option Int)

abbrev RowReply : RowOp → Type
  | .fetch _ => Option Row
  | .transact _ _ _ => Option Nat

abbrev Table := String → Option Row

/-- More rows than the adapter's `max_affected_rows`. -/
def overCeiling (ceiling : Option Int) (affected : Nat) : Prop :=
  ∃ most ∈ ceiling, most < affected

instance (ceiling : Option Int) (affected : Nat) : Decidable (overCeiling ceiling affected) :=
  inferInstanceAs (Decidable (∃ most ∈ ceiling, _))

/-- The row a transaction leaves behind. -/
def committedRow (statement : RowStatement) (ceiling : Option Int) (row : Option Row) :
    Option Row :=
  match statement.run row with
  | none => row
  | some (affected, after) => if overCeiling ceiling affected then row else after

def answerRow (table : Table) : (op : RowOp) → RowReply op × Table
  | .fetch rowId => (table rowId, table)
  | .transact rowId statement ceiling =>
      ((statement.run (table rowId)).map Prod.fst,
        Function.update table rowId (committedRow statement ceiling (table rowId)))

/-- The database answers, or an `sqlite3.Error` leaves the table as it was. -/
def rowHandler : Handler RowOp RowReply PyError Table := fun table op reply after =>
  (reply = .ok (answerRow table op).1 ∧ after = (answerRow table op).2) ∨
    ∃ error, reply = .error error ∧ after = table

abbrev RowProgram := Program RowOp RowReply PyError

/-- `_fetch`. -/
def fetch (rowId : String) : RowProgram (Option Row) := Program.perform (RowOp.fetch rowId)

def transact (rowId : String) (statement : RowStatement) (ceiling : Option Int) :
    RowProgram (Option Nat) := Program.perform (RowOp.transact rowId statement ceiling)

/-! ### The adapter -/

/-- `sqlite3` binds 64-bit integers only. -/
def bindable (value : Int) : Except PyError Int :=
  if -(2 ^ 63) ≤ value ∧ value < 2 ^ 63 then .ok value
  else .error ⟨.other "OverflowError", "Python int too large to convert to SQLite INTEGER"⟩

def bindableValue : ParameterValue → Except PyError ParameterValue
  | .int value => (bindable value).map .int
  | other => .ok other

/-- `int(manifest.state_fingerprint.value)`, after the assertion. -/
def expectedVersion (manifest : EffectManifest) : Except PyError Int :=
  match manifest.stateFingerprint with
  | none => .error ⟨.other "AssertionError", ""⟩
  | some fingerprint =>
      match fingerprint.value.toInt? with
      | some version => .ok version
      | none => .error ⟨.other "ValueError",
          "invalid literal for int() with base 10: " ++ pyRepr fingerprint.value⟩

/-- `_int_param(manifest.parameters["new_balance"])`. -/
def newBalance (manifest : EffectManifest) : Except PyError Int :=
  manifest.intParameter "new_balance"

/-- `str(manifest.parameters["row_id"])`. -/
def rowIdOf (manifest : EffectManifest) : Except PyError String := manifest.textParameter "row_id"

structure SQLiteRowAdapter where
  table : String
  maxAffectedRows : Int

/-- What `prepare` takes from its surroundings. -/
structure FreshInputs where
  now : Instant
  manifestId : String

variable (digestBytes : ByteArray → String)

def rowDigest : Option Row → String
  | none => digestBytes "<absent>".toUTF8
  | some row =>
      digestBytes ("(" ++ row.balance.repr ++ ", " ++ toString row.version ++ ")").toUTF8

namespace SQLiteRowAdapter

variable (adapter : SQLiteRowAdapter)

def identity : AdapterIdentity := ⟨"sqlite.row", "1.0.0"⟩

/-- The fingerprint's version: `0` for an insert and for a row that is not there. -/
def preparedVersion (operation : RowOperation) (existing : Option Row) : Int :=
  match operation, existing with
  | .insert, _ => 0
  | _, none => 0
  | _, some row => row.version

def preparedReversibility : RowOperation → ReversibilityClassification
  | .delete => .irreversible
  | _ => .compensatable

def preparedParameters (request : RowEffectRequest) (existing : Option Row) :
    Dict ParameterValue :=
  let named := (Dict.empty.put "operation" (.text request.operation.value)).put "row_id"
    (.text request.rowId)
  let balanced := match request.newBalance with
    | some balance => named.put "new_balance" (.int balance)
    | none => named
  match existing with
  | some row => balanced.put "previous_balance" row.balance
  | none => balanced

def draft (request : RowEffectRequest) (fresh : FreshInputs) (existing : Option Row) :
    ManifestDraft where
  manifestId := fresh.manifestId
  effectType := "sqlite.row." ++ request.operation.value
  actor := request.actor
  principal := request.principal
  adapter := identity
  targetResource := "sqlite:" ++ adapter.table ++ "/" ++ request.rowId
  parameters := preparedParameters request existing
  beforeStateDigest := some (rowDigest digestBytes existing)
  stateFingerprint := some ⟨.rowVersion, toString (preparedVersion request.operation existing)⟩
  risk := .medium
  reversibility := preparedReversibility request.operation
  blastRadius := .singleResource
  estimatedCost := none
  idempotencyKey := textOr request.idempotencyKey ("sqlite-" ++ request.rowId)
  createdAt := fresh.now
  expiresAt := fresh.now + request.ttlSeconds * microsPerSecond
  nonce := textOr request.nonce ("nonce-" ++ request.rowId)
  metadata := Dict.empty

def prepare (request : RowEffectRequest) (fresh : FreshInputs) : RowProgram EffectManifest := do
  let existing ← fetch request.rowId
  Program.settle (adapter.draft digestBytes request fresh existing).build

/-- The verdict of `validate_preconditions` on the row it reads. -/
def rowVerdict (operation : ParameterValue) (expected : Int) (existing : Option Row) :
    PreconditionResult :=
  if operation = .text "insert" then
    match existing with
    | some _ => ⟨false, some "row already exists", none⟩
    | none => ⟨true, none, none⟩
  else
    match existing with
    | none => ⟨false, some "row no longer exists", none⟩
    | some row =>
        if row.version ≠ expected then
          ⟨false,
            some ("row version changed: expected " ++ toString expected ++ ", observed " ++
              toString row.version),
            some ⟨.rowVersion, toString row.version⟩⟩
        else ⟨true, none, none⟩

def validatePreconditions (manifest : EffectManifest) : RowProgram PreconditionResult := do
  let rowId ← Program.settle (rowIdOf manifest)
  let expected ← Program.settle (expectedVersion manifest)
  let existing ← fetch rowId
  let operation ← Program.settle (manifest.parameter "operation")
  return rowVerdict operation expected existing

/-- The statement a commit runs; every other operation than the first two is a delete. -/
def commitStatement (manifest : EffectManifest) (operation : ParameterValue) (expected : Int) :
    Except PyError RowStatement := do
  if operation = .text "insert" then
    return .insert (← bindable (← newBalance manifest))
  else if operation = .text "update" then
    return .update (← bindable (← newBalance manifest)) (← bindable expected)
  else return .delete (← bindable expected)

def failed (manifest : EffectManifest) (detail : String) : CommitResult :=
  { success := false, idempotencyKey := manifest.idempotencyKey, providerReference := none
    detail := some detail, afterStateDigest := none }

/-- The rest of a commit, once the statement was run. -/
def reportCommit (manifest : EffectManifest) (rowId : String) (affected : Option Nat) :
    RowProgram CommitResult :=
  match affected with
  | none => return failed manifest "row already exists"
  | some affected =>
      if adapter.maxAffectedRows < affected then
        .raised ⟨.blastRadiusExceeded, "operation would affect " ++ toString affected ++
          " rows, ceiling is " ++ toString adapter.maxAffectedRows⟩
      else if affected = 0 then
        return failed manifest "no matching row (version mismatch, missing, or already deleted)"
      else do
        let after ← fetch rowId
        return { success := true, idempotencyKey := manifest.idempotencyKey
                 providerReference := some (adapter.table ++ ":" ++ rowId), detail := none
                 afterStateDigest := some (rowDigest digestBytes after) }

def commit (manifest : EffectManifest) : RowProgram CommitResult := do
  let rowId ← Program.settle (rowIdOf manifest)
  let operation ← Program.settle (manifest.parameter "operation")
  let expected ← Program.settle (expectedVersion manifest)
  let statement ← Program.settle (commitStatement manifest operation expected)
  let affected ← transact rowId statement (some adapter.maxAffectedRows)
  adapter.reportCommit digestBytes manifest rowId affected

/-- `int(row[0])`. -/
def storedBalance (row : Row) : Except PyError Int :=
  match row.balance with
  | .text value =>
      match value.toInt? with
      | some number => .ok number
      | none => .error ⟨.other "ValueError",
          "invalid literal for int() with base 10: " ++ pyRepr value⟩
  | other => intParam other

/-- The row is what the manifest wants it to be. -/
def rowMatches (manifest : EffectManifest) (operation : ParameterValue) (row : Option Row) :
    Except PyError Bool :=
  if operation = .text "delete" then .ok row.isNone
  else do
    let expected ← newBalance manifest
    match row with
    | none => return false
    | some held => return (← storedBalance held) == expected

def verify (manifest : EffectManifest) (now : Instant) : RowProgram OutcomeProof := do
  let rowId ← Program.settle (rowIdOf manifest)
  let row ← fetch rowId
  let operation ← Program.settle (manifest.parameter "operation")
  let matched ← Program.settle (rowMatches manifest operation row)
  return { matchedExpected := matched, observedAt := now
           observedAfterStateDigest := some (rowDigest digestBytes row), detail := none }

/-- What a compensation reports once its statement was run. -/
def reportCompensation (reason : String) (affected : Option Nat) : CompensationResult :=
  if 0 < affected.getD 0 then ⟨true, true, none, none⟩ else ⟨true, false, some reason, none⟩

def compensate (manifest : EffectManifest) : RowProgram CompensationResult := do
  let operation ← Program.settle (manifest.parameter "operation")
  let rowId ← Program.settle (rowIdOf manifest)
  if operation = .text "delete" then
    return ⟨false, false, some ("row deletion is treated as irreversible by this reference " ++
      "adapter; reinserting a snapshot would not guarantee identical downstream state"), none⟩
  else if operation = .text "insert" then
    let affected ← transact rowId .remove none
    return reportCompensation "row was already gone" affected
  else
    match manifest.parameters.get "previous_balance" with
    | none => return ⟨false, false, some "no previous balance recorded to restore", none⟩
    | some .none => return ⟨false, false, some "no previous balance recorded to restore", none⟩
    | some balance =>
        let balance ← Program.settle (bindableValue balance)
        let affected ← transact rowId (.restore balance) none
        return reportCompensation "row no longer exists" affected

/-! ### What a prepared manifest says -/

section Prepared

variable {adapter : SQLiteRowAdapter} {digestBytes : ByteArray → String}
  {request : RowEffectRequest} {fresh : FreshInputs} {existing : Option Row}
  {manifest : EffectManifest}

theorem prepared_get_row_id (request : RowEffectRequest) (existing : Option Row) :
    (preparedParameters request existing).get "row_id" = some (.text request.rowId) := by
  unfold preparedParameters
  cases request.newBalance <;> cases existing <;> simp

theorem prepared_get_operation (request : RowEffectRequest) (existing : Option Row) :
    (preparedParameters request existing).get "operation" =
      some (.text request.operation.value) := by
  unfold preparedParameters
  cases request.newBalance <;> cases existing <;> simp

theorem prepared_get_new_balance (request : RowEffectRequest) (existing : Option Row) :
    (preparedParameters request existing).get "new_balance" =
      request.newBalance.map ParameterValue.int := by
  unfold preparedParameters
  cases request.newBalance <;> cases existing <;> simp

theorem prepared_parameters
    (prepared : (adapter.draft digestBytes request fresh existing).build = .ok manifest) :
    manifest.parameters = preparedParameters request existing := by
  obtain ⟨bounds, rfl⟩ := ManifestDraft.build_ok prepared
  rfl

theorem prepared_row_id
    (prepared : (adapter.draft digestBytes request fresh existing).build = .ok manifest) :
    rowIdOf manifest = .ok request.rowId := by
  apply text_parameter_of
  rw [prepared_parameters prepared]
  exact prepared_get_row_id request existing

theorem prepared_operation
    (prepared : (adapter.draft digestBytes request fresh existing).build = .ok manifest) :
    manifest.parameter "operation" = .ok (.text request.operation.value) := by
  rw [EffectManifest.parameter, prepared_parameters prepared, prepared_get_operation]

/-- The version survives being written to the fingerprint and read back. -/
theorem prepared_expected_version
    (prepared : (adapter.draft digestBytes request fresh existing).build = .ok manifest) :
    expectedVersion manifest = .ok (preparedVersion request.operation existing) := by
  obtain ⟨bounds, rfl⟩ := ManifestDraft.build_ok prepared
  have readBack : (toString (preparedVersion request.operation existing)).toInt? =
      some (preparedVersion request.operation existing) := Int.toInt?_repr _
  simp only [expectedVersion, ManifestDraft.manifest, draft, readBack]

theorem prepared_new_balance
    (prepared : (adapter.draft digestBytes request fresh existing).build = .ok manifest)
    {balance : Int} (wanted : newBalance manifest = .ok balance) :
    request.newBalance = some balance := by
  have held := prepared_get_new_balance request existing
  rw [← prepared_parameters prepared] at held
  cases given : request.newBalance with
  | none =>
      rw [given] at held
      obtain ⟨value, present, _⟩ := except_bind_ok wanted
      rw [EffectManifest.parameter, held] at present
      cases present
  | some value =>
      rw [given] at held
      have same := (int_parameter_of held).symm.trans wanted
      rw [Except.ok.inj same]

end Prepared

/-! ### What a commit runs -/

section Statements

variable {manifest : EffectManifest} {operation : ParameterValue} {expected : Int}
  {statement : RowStatement}

theorem bindable_ok {value bound : Int} (binds : bindable value = .ok bound) : bound = value := by
  unfold bindable at binds
  split at binds
  · cases binds
    rfl
  · cases binds

/-- The statement by the operation of the manifest. -/
inductive Commits (operation : ParameterValue) (expected : Int) : RowStatement → Prop where
  | insert (balance : Int) (named : operation = .text "insert") :
      Commits operation expected (.insert balance)
  | update (balance : Int) (named : operation = .text "update") :
      Commits operation expected (.update balance expected)
  | delete (notInsert : operation ≠ .text "insert") (notUpdate : operation ≠ .text "update") :
      Commits operation expected (.delete expected)

theorem statement_commits (asked : commitStatement manifest operation expected = .ok statement) :
    Commits operation expected statement := by
  unfold commitStatement at asked
  split at asked
  · rename_i named
    obtain ⟨balance, _, asked⟩ := except_bind_ok asked
    obtain ⟨stored, _, asked⟩ := except_bind_ok asked
    cases asked
    exact .insert stored named
  · rename_i notInsert
    split at asked
    · rename_i named
      obtain ⟨balance, _, asked⟩ := except_bind_ok asked
      obtain ⟨stored, _, asked⟩ := except_bind_ok asked
      obtain ⟨version, binds, returned⟩ := except_bind_ok asked
      cases returned
      rw [bindable_ok binds]
      exact .update stored named
    · rename_i notUpdate
      obtain ⟨version, binds, returned⟩ := except_bind_ok asked
      cases returned
      rw [bindable_ok binds]
      exact .delete notInsert notUpdate

end Statements

end SQLiteRowAdapter

end KarmaSakshi.Adapters
