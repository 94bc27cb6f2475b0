import KarmaSakshi.Library.Replay
import KarmaSakshi.Stores.SQLiteOutbox

/-!
The SQLite outbox behaves as the one in memory.

A method takes effect at one statement: the row that lets it return at once, the insert, or the
update that counts one row.  So whatever the processes do to each other between two statements,
the calls that return have the answers of the store in memory in one order, and the calls that
raise have done nothing.
-/

namespace KarmaSakshi.Stores

open EffectProgram KarmaSakshi.Domain

set_option autoImplicit false

/-! ### The table as a store -/

namespace OutboxTable

variable (table : OutboxTable)

def store : OutboxStore := ⟨table.find⟩

end OutboxTable

/-! ### Calls -/

section Points

variable {Value : Type} {within : OutboxStatement → Prop}
  {point : (statement : OutboxStatement) → Except PyError (OutboxRows statement) →
    Option OutboxAnswer}

/-- The answer of a body, as its exit condition. -/
def answered (answer : Value → OutboxAnswer) (outcome : Except PyError Value)
    (passed : Option OutboxAnswer) : Prop :=
  outcome.toOption.map answer = passed

end Points

end KarmaSakshi.Stores

namespace KarmaSakshi.Guarantees

open EffectProgram KarmaSakshi.Domain KarmaSakshi.Stores

namespace OutboxRace

def entry : OutboxEntry where
  schemaVersion := "1.0.0"
  idempotencyKey := "transfer-1"
  grantId := "gr-1"
  manifestId := "mf-1"
  manifestHash := "ab12"
  status := .pending
  createdAt := (1767225600000000 : Int)
  outcomeRef := none

def table : OutboxTable := ⟨[entry], by simp⟩

/-- One process confirms the entry, the other abandons it. -/
def calls : Bool → OutboxCall
  | true => .markConfirmed "transfer-1" "ref-1"
  | false => .markAbandoned "transfer-1"

def serve : Bool → Server OutboxStatement OutboxRows PyError OutboxTable :=
  fun _ table statement => table.execute statement

end OutboxRace

end KarmaSakshi.Guarantees
