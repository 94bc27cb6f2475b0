import KarmaSakshi.Domain.Values

/-!
The lifecycle state machine, its in-process records and its durable stores.

The transition graph has no cycle: every legal transition raises `rank`, so a
state that has been left is never entered again.  The two shipped lifecycle
stores differ in how they keep a row; both are read through `view`, and their
compare-and-set is the same partial-map operation there.
-/

namespace KarmaSakshi.Stores

open KarmaSakshi.Domain

set_option autoImplicit false

inductive LifecycleState : Type where
  | proposed
  | prepared
  | sealed
  | authorized
  | committing
  | committed
  | verified
  | failed
  | recoveredCommitted
  | revoked
  | expired
  | compensating
  | compensated
  deriving DecidableEq

namespace LifecycleState

/-- The enumeration's stored text. -/
def value : LifecycleState → String
  | proposed => "proposed"
  | prepared => "prepared"
  | sealed => "sealed"
  | authorized => "authorized"
  | committing => "committing"
  | committed => "committed"
  | verified => "verified"
  | failed => "failed"
  | recoveredCommitted => "recovered_committed"
  | revoked => "revoked"
  | expired => "expired"
  | compensating => "compensating"
  | compensated => "compensated"

def transitions : LifecycleState → List LifecycleState
  | proposed => [prepared, failed, revoked]
  | prepared => [sealed, failed, revoked, expired]
  | sealed => [authorized, failed, revoked, expired]
  | authorized => [committing, failed, revoked, expired]
  | committing => [committed, failed]
  | committed => [verified]
  | verified => [compensating, compensated]
  | compensating => [compensated, failed]
  | failed => [recoveredCommitted]
  | recoveredCommitted => []
  | revoked => []
  | expired => []
  | compensated => []

def isLegalTransition (current target : LifecycleState) : Bool :=
  target ∈ current.transitions

def assertLegalTransition (current target : LifecycleState) : Except PyError Unit :=
  if isLegalTransition current target then .ok ()
  else .error ⟨.illegalTransition,
    "illegal lifecycle transition: " ++ current.value ++ " -> " ++ target.value⟩

def isRevocable (current : LifecycleState) : Bool :=
  current ∈ [proposed, prepared, sealed, authorized]

/-- Position along the graph; every legal transition raises it. -/
def rank : LifecycleState → Nat
  | proposed => 0
  | prepared => 1
  | sealed => 2
  | authorized => 3
  | committing => 4
  | committed => 5
  | verified => 6
  | compensating => 7
  | failed => 8
  | recoveredCommitted => 9
  | revoked => 10
  | expired => 11
  | compensated => 12

theorem value_injective : Function.Injective value := by
  intro left right same
  cases left <;> cases right <;> first | rfl | exact absurd same (by decide)

theorem legal_raises_rank {current target : LifecycleState}
    (legal : isLegalTransition current target) : current.rank < target.rank := by
  cases current <;> cases target <;>
    first
      | exact absurd legal (by decide)
      | decide

theorem legal_is_strict {current target : LifecycleState}
    (legal : isLegalTransition current target) : current ≠ target := by
  intro same
  subst same
  exact absurd (legal_raises_rank legal) (lt_irrefl _)

/-- Only an authorized manifest can enter COMMITTING. -/
theorem legal_into_committing {current : LifecycleState}
    (legal : isLegalTransition current .committing) : current = .authorized := by
  cases current <;> first | rfl | exact absurd legal (by decide)

/-- Only a failed manifest can become RECOVERED_COMMITTED. -/
theorem legal_into_recovered {current : LifecycleState}
    (legal : isLegalTransition current .recoveredCommitted) : current = .failed := by
  cases current <;> first | rfl | exact absurd legal (by decide)

theorem legal_out_of_committing {target : LifecycleState}
    (legal : isLegalTransition .committing target) : target = .committed ∨ target = .failed := by
  cases target <;> first | exact absurd legal (by decide) | simp

theorem assert_legal_ok_iff (current target : LifecycleState) :
    assertLegalTransition current target = .ok () ↔ isLegalTransition current target = true := by
  unfold assertLegalTransition
  by_cases legal : isLegalTransition current target = true <;> simp [legal]

end LifecycleState

/-- One engine's in-process record of a manifest. -/
structure LifecycleRecord where
  manifestId : String
  state : LifecycleState
  history : List (LifecycleState × LifecycleState × Instant)

namespace LifecycleRecord

def fresh (manifestId : String) (state : LifecycleState) : LifecycleRecord :=
  { manifestId, state, history := [] }

def transition (record : LifecycleRecord) (target : LifecycleState) (instant : Instant) :
    Except PyError LifecycleRecord :=
  match LifecycleState.assertLegalTransition record.state target with
  | .error error => .error error
  | .ok _ => .ok { record with
      state := target
      history := record.history ++ [(record.state, target, instant)] }

/-- A transition succeeds exactly when it is legal, and then advances. -/
theorem transition_ok_iff {record advanced : LifecycleRecord} {target : LifecycleState}
    {instant : Instant} :
    record.transition target instant = .ok advanced ↔
      LifecycleState.isLegalTransition record.state target = true ∧
        advanced = { record with
          state := target
          history := record.history ++ [(record.state, target, instant)] } := by
  unfold transition LifecycleState.assertLegalTransition
  by_cases legal : LifecycleState.isLegalTransition record.state target = true
  · simp [legal, eq_comm]
  · simp [legal]

end LifecycleRecord

/-! ### Durable stores -/

abbrev LifecycleMap := String → Option LifecycleState

/-- Compare-and-set on the map both stores implement. -/
def LifecycleMap.compareAndSet (states : LifecycleMap) (manifestId : String)
    (expected : Option LifecycleState) (newState : LifecycleState) : Bool × LifecycleMap :=
  if states manifestId = expected then
    (true, Function.update states manifestId (some newState))
  else (false, states)

theorem LifecycleMap.compare_and_set_won {states : LifecycleMap} {manifestId : String}
    {expected : Option LifecycleState} {newState : LifecycleState}
    (won : (states.compareAndSet manifestId expected newState).1 = true) :
    states manifestId = expected ∧
      (states.compareAndSet manifestId expected newState).2 =
        Function.update states manifestId (some newState) := by
  unfold compareAndSet at *
  by_cases found : states manifestId = expected
  · rw [if_pos found]
    exact ⟨found, rfl⟩
  · simp [found] at won

structure InMemoryLifecycleStore where
  states : String → Option LifecycleState

namespace InMemoryLifecycleStore

def get (store : InMemoryLifecycleStore) (manifestId : String) : Option LifecycleState :=
  store.states manifestId

def compareAndSet (store : InMemoryLifecycleStore) (manifestId : String)
    (expected : Option LifecycleState) (newState : LifecycleState) :
    Bool × InMemoryLifecycleStore :=
  if store.states manifestId ≠ expected then (false, store)
  else (true, ⟨Function.update store.states manifestId (some newState)⟩)

def set (store : InMemoryLifecycleStore) (manifestId : String) (state : LifecycleState) :
    InMemoryLifecycleStore :=
  ⟨Function.update store.states manifestId (some state)⟩

end InMemoryLifecycleStore

/-- The `lifecycle_state` table.  The column holds the state's text; the store
writes nothing else, which the last field records. -/
structure SQLiteLifecycleStore where
  rows : String → Option String
  known : ∀ manifestId text, rows manifestId = some text →
    ∃ state : LifecycleState, state.value = text

namespace SQLiteLifecycleStore

/-- `LifecycleState(text)`. -/
def parse (text : String) : Option LifecycleState :=
  [.proposed, .prepared, .sealed, .authorized, .committing, .committed, .verified, .failed,
    .recoveredCommitted, .revoked, .expired, .compensating, .compensated].find?
    (fun state => state.value == text)

theorem parse_value (state : LifecycleState) : parse state.value = some state := by
  cases state <;> decide

def get (store : SQLiteLifecycleStore) (manifestId : String) : Option LifecycleState :=
  (store.rows manifestId).bind parse

private def write (store : SQLiteLifecycleStore) (manifestId : String)
    (state : LifecycleState) : SQLiteLifecycleStore where
  rows := Function.update store.rows manifestId (some state.value)
  known := by
    intro other text stored
    by_cases same : other = manifestId
    · subst same
      rw [Function.update_self] at stored
      exact ⟨state, Option.some.inj stored⟩
    · rw [Function.update_of_ne same] at stored
      exact store.known other text stored

/-- `expected=None` is an `INSERT OR IGNORE`; otherwise an `UPDATE … WHERE
state = expected`.  The answer is whether one row changed. -/
def compareAndSet (store : SQLiteLifecycleStore) (manifestId : String)
    (expected : Option LifecycleState) (newState : LifecycleState) :
    Bool × SQLiteLifecycleStore :=
  match expected with
  | none =>
      if store.rows manifestId = none then (true, store.write manifestId newState)
      else (false, store)
  | some state =>
      if store.rows manifestId = some state.value then (true, store.write manifestId newState)
      else (false, store)

/-- An `INSERT … ON CONFLICT DO UPDATE`, whatever the row holds. -/
def set (store : SQLiteLifecycleStore) (manifestId : String) (state : LifecycleState) :
    SQLiteLifecycleStore :=
  store.write manifestId state

end SQLiteLifecycleStore

/-- The durable lifecycle store an engine is configured with. -/
inductive LifecycleStore : Type where
  | memory (store : InMemoryLifecycleStore)
  | sqlite (store : SQLiteLifecycleStore)

namespace LifecycleStore

def view : LifecycleStore → LifecycleMap
  | memory store => store.get
  | sqlite store => store.get

def compareAndSet (store : LifecycleStore) (manifestId : String)
    (expected : Option LifecycleState) (newState : LifecycleState) : Bool × LifecycleStore :=
  match store with
  | memory inner =>
      let answer := inner.compareAndSet manifestId expected newState
      (answer.1, .memory answer.2)
  | sqlite inner =>
      let answer := inner.compareAndSet manifestId expected newState
      (answer.1, .sqlite answer.2)

def set (store : LifecycleStore) (manifestId : String) (state : LifecycleState) :
    LifecycleStore :=
  match store with
  | memory inner => .memory (inner.set manifestId state)
  | sqlite inner => .sqlite (inner.set manifestId state)

private theorem sqlite_row_iff (store : SQLiteLifecycleStore) (manifestId : String)
    (expected : Option LifecycleState) :
    store.get manifestId = expected ↔ store.rows manifestId = expected.map LifecycleState.value := by
  unfold SQLiteLifecycleStore.get
  cases stored : store.rows manifestId with
  | none => cases expected <;> simp
  | some text =>
      rcases store.known manifestId text stored with ⟨state, rfl⟩
      rw [Option.bind_some, SQLiteLifecycleStore.parse_value]
      cases expected with
      | none => simp
      | some wanted =>
          simp only [Option.some.injEq, Option.map_some]
          exact LifecycleState.value_injective.eq_iff.symm

private theorem sqlite_write_view (store : SQLiteLifecycleStore) (manifestId : String)
    (state : LifecycleState) :
    (store.write manifestId state).get =
      Function.update store.get manifestId (some state) := by
  funext other
  by_cases same : other = manifestId
  · subst same
    simp [SQLiteLifecycleStore.get, SQLiteLifecycleStore.write,
      SQLiteLifecycleStore.parse_value]
  · simp [SQLiteLifecycleStore.get, SQLiteLifecycleStore.write, same]

/-- Both stores refine compare-and-set on the viewed map. -/
theorem compare_and_set_view (store : LifecycleStore) (manifestId : String)
    (expected : Option LifecycleState) (newState : LifecycleState) :
    (store.compareAndSet manifestId expected newState).1 =
        (store.view.compareAndSet manifestId expected newState).1 ∧
      (store.compareAndSet manifestId expected newState).2.view =
        (store.view.compareAndSet manifestId expected newState).2 := by
  cases store with
  | memory inner =>
      by_cases matching : inner.states manifestId = expected <;>
        simp [compareAndSet, InMemoryLifecycleStore.compareAndSet, LifecycleMap.compareAndSet,
          view, InMemoryLifecycleStore.get, matching]
      funext other
      rfl
  | sqlite inner =>
      have row := sqlite_row_iff inner manifestId expected
      unfold compareAndSet LifecycleMap.compareAndSet
      simp only [view]
      cases expected with
      | none =>
          by_cases absent : inner.rows manifestId = none
          · simp [SQLiteLifecycleStore.compareAndSet, row, absent, sqlite_write_view]
          · simp [SQLiteLifecycleStore.compareAndSet, row, absent]
      | some state =>
          by_cases matching : inner.rows manifestId = some state.value
          · simp [SQLiteLifecycleStore.compareAndSet, row, matching, sqlite_write_view]
          · simp [SQLiteLifecycleStore.compareAndSet, row, matching]

/-- Both stores overwrite the viewed map. -/
theorem set_view (store : LifecycleStore) (manifestId : String) (state : LifecycleState) :
    (store.set manifestId state).view = Function.update store.view manifestId (some state) := by
  cases store with
  | memory inner => rfl
  | sqlite inner => exact sqlite_write_view inner manifestId state

end LifecycleStore

end KarmaSakshi.Stores
