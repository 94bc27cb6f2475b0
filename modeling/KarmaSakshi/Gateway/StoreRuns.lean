import Mathlib
import KarmaSakshi.Gateway.Store
import KarmaSakshi.Library.Observation

/-!
Runs of the store's methods over tables.

The environment may fail any access.  The creation of a user is taken apart: the statements
before its insert, and the insert, with the exact condition under which each returns.
-/

namespace KarmaSakshi.Gateway

open EffectProgram KarmaSakshi.Domain

set_option autoImplicit false

open GatewayStore (UserRequest StoreCodec)

variable {Payload : Type}

structure StoreWorld where
  tables : GatewayTables
  faults : List (Option PyError)

/-- The fault of the next access. -/
def StoreWorld.fault (world : StoreWorld) : Option PyError := world.faults.head?.join

def storeServer (now : Instant) (salt : String) :
    Server StoreOp StoreReply PyError StoreWorld := fun world op =>
  match world.fault with
  | some error => (.error error, { world with faults := world.faults.tail })
  | none => ((answerStore now salt world.tables op).1,
      ⟨(answerStore now salt world.tables op).2, world.faults.tail⟩)

/-! ### The creation of a user -/

/-- None of the next accesses fails. -/
def Undisturbed : Nat → List (Option PyError) → Prop
  | 0, _ => True
  | count + 1, faults => faults.head?.join = none ∧ Undisturbed count faults.tail

instance Undisturbed.decidable :
    (count : Nat) → (faults : List (Option PyError)) → Decidable (Undisturbed count faults)
  | 0, _ => isTrue trivial
  | count + 1, faults =>
      have := Undisturbed.decidable count faults.tail
      inferInstanceAs (Decidable (faults.head?.join = none ∧ _))

/-- The arguments are those of a user. -/
def UserArguments (orgId : String) (request : UserRequest) : Prop :=
  identifierShape request.userId ∧ identifierShape orgId ∧ emailShape request.email ∧
    identifierShape request.displayName

instance (orgId : String) (request : UserRequest) : Decidable (UserArguments orgId request) :=
  inferInstanceAs (Decidable (_ ∧ _ ∧ _ ∧ _))

def OrganizationActive (tables : GatewayTables) (orgId : String) : Prop :=
  ∃ org ∈ tables.organizations.find? (fun row => row.orgId = orgId), org.status = .active

instance (tables : GatewayTables) (orgId : String) : Decidable (OrganizationActive tables orgId) :=
  inferInstanceAs (Decidable (∃ org ∈ tables.organizations.find? _, _))

section Creation

variable {orgId : String} {tables : GatewayTables} {now : Instant} {salt : String}
  {faults : List (Option PyError)} {request : UserRequest} {world after : StoreWorld}
  {Value : Type}

/-- The statements before the insert of a user. -/
def userPrepared (codec : StoreCodec Payload) (orgId : String) (request : UserRequest) :
    StoreProgram UserRow := do
  let _ ← GatewayStore.requireActiveOrganization orgId
  let now ← query .now
  let user ← .settle (GatewayUser.build request.userId orgId request.email request.displayName
    request.role now)
  let salt ← query .tokenBytes
  pure ⟨user, codec.hashPassword request.password salt, salt⟩

/-- The insert of a user. -/
def userInserted (orgId : String) (request : UserRequest) (row : UserRow) :
    StoreProgram GatewayUser :=
  insertGuarded ("create_user(" ++ pyRepr request.email ++ ")") (.user row) row.user
    (.raised ⟨.gatewayUserAlreadyExists, "user " ++ pyRepr request.email ++
      " already exists in organization " ++ pyRepr orgId⟩)

theorem create_user_steps (codec : StoreCodec Payload) (request : UserRequest) :
    GatewayStore.createUser codec orgId request =
      userPrepared codec orgId request >>= userInserted orgId request := by
  simp only [GatewayStore.createUser, userPrepared, Program.bind_bind]
  rfl

theorem user_settled {userId email displayName : String} {role : GatewayUserRole} {now : Instant}
    {user : GatewayUser}
    (built : GatewayUser.build userId orgId email displayName role now = .ok user) :
    user.userId = userId ∧ user.orgId = orgId ∧ user.email = email ∧
      user.displayName = displayName := by
  simp only [GatewayUser.build, validated] at built
  repeat' split at built
  all_goals cases built
  exact ⟨rfl, rfl, rfl, rfl⟩

theorem query_answered {op : StoreOp} {reply : StoreReply op} (calm : world.fault = none)
    (answered : answerStore now salt world.tables op = (.ok reply, after.tables))
    (left : after.faults = world.faults.tail) :
    (query op).run (storeServer now salt) world = (.ok reply, after) := by
  rw [query, run_perform, storeServer, calm]
  simp only [answered, ← left]

theorem query_returns {op : StoreOp} {reply : StoreReply op}
    (returns : (query op).run (storeServer now salt) world = (.ok reply, after)) :
    world.fault = none ∧ answerStore now salt world.tables op = (.ok reply, after.tables) ∧
      after.faults = world.faults.tail := by
  rw [query, run_perform, storeServer] at returns
  cases calm : world.fault with
  | some error =>
      rw [calm] at returns
      cases returns
  | none =>
      rw [calm] at returns
      cases returned : answerStore now salt world.tables op with
      | mk outcome left =>
          simp only [returned] at returns
          cases returns
          exact ⟨rfl, rfl, rfl⟩

/-- A handler that raises again returns nothing of its own. -/
theorem guarded_returns {server : Server StoreOp StoreReply PyError StoreWorld} {call : String}
    {body : StoreProgram Value} {value : Value}
    (returns : (guarded call body).run server world = (.ok value, after)) :
    body.run server world = (.ok value, after) := by
  rw [guarded, Program.rescue, run_attempt] at returns
  cases ended : body.run server world with
  | mk outcome between =>
      rw [ended] at returns
      cases outcome with
      | ok result => exact returns
      | error error =>
          by_cases caught : isSqliteError error = true
          · simp only [caught, if_true] at returns
            cases returns
          · simp only [caught, Bool.false_eq_true, if_false] at returns
            cases returns

theorem require_active_returns {org : Organization}
    (returns : (GatewayStore.requireActiveOrganization orgId).run (storeServer now salt) world =
      (.ok org, after)) :
    world.fault = none ∧ OrganizationActive world.tables orgId ∧
      after = ⟨world.tables, world.faults.tail⟩ := by
  obtain ⟨held, middle, gets, checks⟩ := run_bind_returns returns
  obtain ⟨row, between, selects, finds⟩ := run_bind_returns gets
  obtain ⟨calm, answered, left⟩ := query_returns (guarded_returns selects)
  cases row with
  | none => cases finds
  | some row =>
      cases finds
      by_cases active : held.status = .active
      · rw [if_pos active] at checks
        cases checks
        obtain ⟨selected, same⟩ := Prod.mk.inj answered
        refine ⟨calm, ⟨_, Except.ok.inj selected, active⟩, ?_⟩
        rw [← left, same]
      · rw [if_neg active] at checks
        cases checks

theorem require_active_answered (calm : world.fault = none)
    (active : OrganizationActive world.tables orgId) :
    ∃ org, (GatewayStore.requireActiveOrganization orgId).run (storeServer now salt) world =
      (.ok org, ⟨world.tables, world.faults.tail⟩) := by
  obtain ⟨org, held, active⟩ := active
  refine ⟨org, ?_⟩
  have selects : (query (.selectOrganization orgId)).run (storeServer now salt) world =
      (.ok (some org), ⟨world.tables, world.faults.tail⟩) :=
    query_answered calm (by rw [answerStore]; exact congrArg (fun row => (Except.ok row, _)) held)
      rfl
  have reads : (guarded ("get_organization(" ++ pyRepr orgId ++ ")")
      (query (.selectOrganization orgId))).run (storeServer now salt) world =
        (.ok (some org), ⟨world.tables, world.faults.tail⟩) := by
    rw [guarded, Program.rescue, run_attempt, selects]
    rfl
  have gets : (GatewayStore.getOrganization orgId).run (storeServer now salt) world =
      (.ok org, ⟨world.tables, world.faults.tail⟩) := run_bind_ok reads
  rw [GatewayStore.requireActiveOrganization, run_bind_ok gets, if_pos active]
  rfl

theorem user_built_iff {role : GatewayUserRole} {created : Instant} :
    (∃ user, GatewayUser.build request.userId orgId request.email request.displayName role
      created = .ok user) ↔ UserArguments orgId request := by
  simp only [GatewayUser.build, validated, UserArguments]
  constructor
  · rintro ⟨user, built⟩
    repeat' split at built
    all_goals first | exact ⟨by assumption, by assumption, by assumption, by assumption⟩ |
      cases built
  · rintro ⟨userId, org, email, display⟩
    simp only [dif_pos userId, dif_pos org, dif_pos email, dif_pos display]
    exact ⟨_, rfl⟩

theorem tail_thrice {Item : Type} (items : List Item) : items.tail.tail.tail = items.drop 3 := by
  simp only [← List.drop_one, List.drop_drop, Nat.reduceAdd]

/-- The insert is reached exactly when no access before it fails, the organization is active
and the arguments are those of a user. -/
theorem user_prepared_returns (codec : StoreCodec Payload) {row : UserRow}
    (returns : (userPrepared codec orgId request).run (storeServer now salt) ⟨tables, faults⟩ =
      (.ok row, after)) :
    Undisturbed 3 faults ∧ OrganizationActive tables orgId ∧ UserArguments orgId request ∧
      row.user.userId = request.userId ∧ row.user.orgId = orgId ∧
        row.user.email = request.email ∧ after = ⟨tables, faults.drop 3⟩ := by
  obtain ⟨org, first, requires, returns⟩ := run_bind_returns returns
  obtain ⟨calm, active, rfl⟩ := require_active_returns requires
  obtain ⟨created, second, reads, returns⟩ := run_bind_returns returns
  obtain ⟨calmSecond, answered, left⟩ := query_returns reads
  obtain ⟨user, third, settles, returns⟩ := run_bind_returns returns
  rw [run_settle] at settles
  obtain ⟨built, rfl⟩ := Prod.mk.inj settles
  obtain ⟨token, fourth, draws, returns⟩ := run_bind_returns returns
  obtain ⟨calmThird, drawn, leftLast⟩ := query_returns draws
  cases returns
  have fields := user_settled built
  refine ⟨⟨calm, calmSecond, ?_, trivial⟩, active, user_built_iff.mp ⟨user, built⟩, fields.1,
    fields.2.1, fields.2.2.1, ?_⟩
  · rw [StoreWorld.fault, left] at calmThird
    exact calmThird
  · have sameSecond := (Prod.mk.inj answered).2
    have sameLast := (Prod.mk.inj drawn).2
    have tablesKept : after.tables = tables := sameLast.symm.trans sameSecond.symm
    have faultsLeft : after.faults = faults.drop 3 := by
      rw [leftLast, left]
      exact tail_thrice faults
    rw [← tablesKept, ← faultsLeft]

variable (now salt) in
theorem user_prepared_answered (codec : StoreCodec Payload) (undisturbed : Undisturbed 3 faults)
    (active : OrganizationActive tables orgId) (valid : UserArguments orgId request) :
    ∃ row, (userPrepared codec orgId request).run (storeServer now salt) ⟨tables, faults⟩ =
      (.ok row, ⟨tables, faults.drop 3⟩) := by
  obtain ⟨user, built⟩ := user_built_iff.mpr valid
  have calm : (StoreWorld.mk tables faults).fault = none := undisturbed.1
  obtain ⟨org, requires⟩ := require_active_answered calm active
  refine ⟨⟨user, codec.hashPassword request.password salt, salt⟩, ?_⟩
  rw [userPrepared, run_bind_ok requires]
  have reads : (query .now).run (storeServer now salt) ⟨tables, faults.tail⟩ =
      (.ok now, ⟨tables, faults.tail.tail⟩) := query_answered undisturbed.2.1 rfl rfl
  rw [run_bind_ok reads, built]
  have draws : (query .tokenBytes).run (storeServer now salt) ⟨tables, faults.tail.tail⟩ =
      (.ok salt, ⟨tables, faults.drop 3⟩) :=
    query_answered undisturbed.2.2.1 rfl (tail_thrice faults).symm
  exact (run_bind_ok (run_settle_ok rfl _)).trans (run_bind_ok draws)

def userRefused (orgId : String) (request : UserRequest) : PyError :=
  ⟨.gatewayUserAlreadyExists, "user " ++ pyRepr request.email ++
    " already exists in organization " ++ pyRepr orgId⟩

/-- An insert that is executed on a free key. -/
theorem insert_guarded_accepted {call : String} {row : TableRow} {inserted : Value}
    {conflict : StoreProgram Value} (calm : world.fault = none)
    (free : ¬ world.tables.Conflicts row) :
    (insertGuarded call row inserted conflict).run (storeServer now salt) world =
      (.ok inserted, ⟨world.tables.insert row, world.faults.tail⟩) := by
  have asked : (query (.insert row)).run (storeServer now salt) world =
      (.ok (), ⟨world.tables.insert row, world.faults.tail⟩) := by
    rw [query, run_perform, storeServer, calm]
    simp only [answerStore, if_neg free]
  rw [insertGuarded, run_attempt, asked]
  rfl

/-- What an insert that fails makes of the creation, whatever the tables hold. -/
theorem user_inserted_faulted (now : Instant) (salt orgId : String) (request : UserRequest)
    (row : UserRow) (error : PyError) :
    ∃ raised, ∀ world : StoreWorld, world.fault = some error →
      (userInserted orgId request row).run (storeServer now salt) world =
        (.error raised, ⟨world.tables, world.faults.tail⟩) := by
  have asked : ∀ world : StoreWorld, world.fault = some error →
      (query (.insert (.user row))).run (storeServer now salt) world =
        (.error error, ⟨world.tables, world.faults.tail⟩) := by
    intro world fault
    rw [query, run_perform, storeServer, fault]
  by_cases integrity : isIntegrityError error = true
  · refine ⟨userRefused orgId request, fun world fault => ?_⟩
    rw [userInserted, insertGuarded, run_attempt, asked world fault]
    simp only [integrity, if_true]
    rfl
  · by_cases sqlite : isSqliteError error = true
    · refine ⟨⟨.storeUnavailable, "create_user(" ++ pyRepr request.email ++ ")" ++ " failed"⟩,
        fun world fault => ?_⟩
      rw [userInserted, insertGuarded, run_attempt, asked world fault]
      simp only [integrity, sqlite, if_true, Bool.false_eq_true, if_false]
      rfl
    · refine ⟨error, fun world fault => ?_⟩
      rw [userInserted, insertGuarded, run_attempt, asked world fault]
      simp only [integrity, sqlite, Bool.false_eq_true, if_false]
      rfl

theorem user_inserted_refused {row : UserRow} (calm : world.fault = none)
    (taken : world.tables.Conflicts (.user row)) :
    (userInserted orgId request row).run (storeServer now salt) world =
      (.error (userRefused orgId request), ⟨world.tables, world.faults.tail⟩) := by
  have asked : (query (.insert (.user row))).run (storeServer now salt) world =
      (.error (uniqueFailed (.user row)), ⟨world.tables, world.faults.tail⟩) := by
    rw [query, run_perform, storeServer, calm]
    simp only [answerStore, if_pos taken]
  rw [userInserted, insertGuarded, run_attempt, asked]
  rfl

end Creation

end KarmaSakshi.Gateway
