import KarmaSakshi.Gateway.StoreRuns

/-!
What one organization sees of the others through the gateway's store.

The tables are restricted to the rows of one organization.  Every statement about that
organization is answered from its own rows, but one: a `user_id` is unique over all
organizations, so the insert of a user is also refused for a row of another one.
-/

namespace KarmaSakshi.Gateway

open EffectProgram KarmaSakshi.Domain

set_option autoImplicit false

/-! ### Calls of the store -/

variable {Payload : Type}

open GatewayStore (UserRequest StoreCodec)

/-- The methods of the store. -/
inductive StoreRequest (Payload : Type) : Type where
  | createOrganization (orgId name : String)
  | getOrganization (orgId : String)
  | listOrganizations
  | setOrganizationStatus (orgId : String) (status : OrganizationStatus)
  | requireActiveOrganization (orgId : String)
  | createUser (orgId : String) (request : UserRequest)
  | getUser (orgId email : String)
  | getUserById (orgId userId : String)
  | listUsers (orgId : String)
  | authenticate (orgId email password : String)
  | registerAgent (orgId agentId displayName : String)
  | getAgent (orgId agentId : String)
  | listAgents (orgId : String)
  | registerAdapter (orgId adapterId adapterVersion : String) (effectTypes : List String)
  | getAdapter (orgId adapterId : String)
  | listAdapters (orgId : String)
  | putRefundState (orgId bucket itemKey : String) (payload : Payload)
  | loadRefundState (orgId : String)

inductive StoreResult (Payload : Type) : Type where
  | organization (value : Organization)
  | organizations (value : List Organization)
  | user (value : GatewayUser)
  | users (value : List GatewayUser)
  | agent (value : GatewayAgent)
  | agents (value : List GatewayAgent)
  | adapter (value : GatewayAdapterRegistration)
  | adapters (value : List GatewayAdapterRegistration)
  | written
  | refundState (value : List (String × String × Payload))

namespace StoreRequest

open StoreResult

/-- The organization a method is called for. -/
def scope : StoreRequest Payload → Option String
  | .listOrganizations => none
  | .createOrganization orgId _ | .getOrganization orgId | .setOrganizationStatus orgId _
  | .requireActiveOrganization orgId | .createUser orgId _ | .getUser orgId _
  | .getUserById orgId _ | .listUsers orgId | .authenticate orgId _ _
  | .registerAgent orgId _ _ | .getAgent orgId _ | .listAgents orgId
  | .registerAdapter orgId _ _ _ | .getAdapter orgId _ | .listAdapters orgId
  | .putRefundState orgId _ _ _ | .loadRefundState orgId => some orgId

variable (codec : StoreCodec Payload)

def program : StoreRequest Payload → StoreProgram (StoreResult Payload)
  | .createOrganization orgId name => organization <$> GatewayStore.createOrganization orgId name
  | .getOrganization orgId => organization <$> GatewayStore.getOrganization orgId
  | .listOrganizations => organizations <$> GatewayStore.listOrganizations
  | .setOrganizationStatus orgId status =>
      organization <$> GatewayStore.setOrganizationStatus orgId status
  | .requireActiveOrganization orgId =>
      organization <$> GatewayStore.requireActiveOrganization orgId
  | .createUser orgId request => user <$> GatewayStore.createUser codec orgId request
  | .getUser orgId email => user <$> GatewayStore.getUser orgId email
  | .getUserById orgId userId => user <$> GatewayStore.getUserById orgId userId
  | .listUsers orgId => users <$> GatewayStore.listUsers orgId
  | .authenticate orgId email password =>
      user <$> GatewayStore.authenticate codec orgId email password
  | .registerAgent orgId agentId displayName =>
      agent <$> GatewayStore.registerAgent orgId agentId displayName
  | .getAgent orgId agentId => agent <$> GatewayStore.getAgent orgId agentId
  | .listAgents orgId => agents <$> GatewayStore.listAgents orgId
  | .registerAdapter orgId adapterId adapterVersion effectTypes =>
      adapter <$> GatewayStore.registerAdapter orgId adapterId adapterVersion effectTypes
  | .getAdapter orgId adapterId => adapter <$> GatewayStore.getAdapter orgId adapterId
  | .listAdapters orgId => adapters <$> GatewayStore.listAdapters orgId
  | .putRefundState orgId bucket itemKey payload =>
      (fun _ => written) <$> GatewayStore.putRefundState codec orgId bucket itemKey payload
  | .loadRefundState orgId => refundState <$> GatewayStore.loadRefundState codec orgId

end StoreRequest

/-- A call of a method, with what its environment answers: the clock, the random bytes, and
which of its accesses fail. -/
structure StoreCall (Payload : Type) where
  request : StoreRequest Payload
  now : Instant
  salt : String
  faults : List (Option PyError)

/-- What a call returns or raises, and the tables after it. -/
def StoreCall.serve (codec : StoreCodec Payload) (call : StoreCall Payload)
    (tables : GatewayTables) : Except PyError (StoreResult Payload) × GatewayTables :=
  let ended := (call.request.program codec).run (storeServer call.now call.salt)
    ⟨tables, call.faults⟩
  (ended.1, ended.2.tables)

/-- The answers to the calls for one organization, in a history of calls. -/
def scopedAnswers (codec : StoreCodec Payload) (orgId : String) :
    GatewayTables → List (StoreCall Payload) → List (Except PyError (StoreResult Payload))
  | _, [] => []
  | tables, call :: later =>
      if call.request.scope = some orgId then
        (call.serve codec tables).1 :: scopedAnswers codec orgId (call.serve codec tables).2 later
      else scopedAnswers codec orgId (call.serve codec tables).2 later

/-! ### The rows of one organization -/

def GatewayTables.within (tables : GatewayTables) (orgId : String) : GatewayTables where
  organizations := tables.organizations.filter (fun row => row.orgId = orgId)
  users := tables.users.filter (fun row => row.user.orgId = orgId)
  agents := tables.agents.filter (fun row => row.orgId = orgId)
  adapters := tables.adapters.filter (fun row => row.orgId = orgId)
  refundState := tables.refundState.filter (fun row => row.orgId = orgId)

/-- The organization a statement is about; `none` for one that reads no organization's rows
or all of them. -/
def StoreOp.scope : StoreOp → Option String
  | .now | .tokenBytes | .selectOrganizations => none
  | .insert row => some row.orgId
  | .upsertRefundState row => some row.orgId
  | .selectOrganization orgId | .updateOrganizationStatus orgId _ | .selectUser orgId _
  | .selectUsers orgId | .selectAgent orgId _ | .selectAgents orgId | .selectAdapter orgId _
  | .selectAdapters orgId | .selectRefundState orgId => some orgId

/-- The statement is about the organization, or about none. -/
def StoreOp.ScopedTo (orgId : String) (op : StoreOp) : Prop :=
  op ≠ .selectOrganizations ∧ ∀ other ∈ op.scope, other = orgId

/-- The statement is answered from the rows of the organization. -/
def StoreOp.Local (orgId : String) (op : StoreOp) : Prop :=
  op.ScopedTo orgId ∧ ∀ row, op ≠ .insert (.user row)

section Statements

variable {orgId : String} {tables : GatewayTables} {now : Instant} {salt : String}

theorem find_within {Row : Type} (rows : List Row) (mine wanted : Row → Bool) :
    (rows.filter mine).find? (fun row => mine row && wanted row) =
      rows.find? (fun row => mine row && wanted row) := by
  rw [List.find?_filter]
  congr 1
  funext row
  cases mine row <;> simp

theorem exists_within {Row : Type} {rows : List Row} {mine : Row → Bool} {wanted : Row → Prop}
    (only : ∀ row, wanted row → mine row = true) :
    (∃ row ∈ rows.filter mine, wanted row) ↔ ∃ row ∈ rows, wanted row := by
  constructor
  · rintro ⟨row, member, holds⟩
    exact ⟨row, (List.mem_filter.mp member).1, holds⟩
  · rintro ⟨row, member, holds⟩
    exact ⟨row, List.mem_filter.mpr ⟨member, only row holds⟩, holds⟩

variable (tables) in
/-- The keys of all rows but a user's contain the organization. -/
theorem conflicts_within {row : TableRow} (mine : row.orgId = orgId)
    (other : ∀ user, row ≠ .user user) :
    (tables.within orgId).Conflicts row ↔ tables.Conflicts row := by
  cases row with
  | organization row =>
      exact exists_within fun held same => decide_eq_true (same.trans mine)
  | user row => exact absurd rfl (other row)
  | agent row =>
      exact exists_within fun held same => decide_eq_true (same.1.trans mine)
  | adapter row =>
      exact exists_within fun held same => decide_eq_true (same.1.trans mine)

theorem insert_within {row : TableRow} (mine : row.orgId = orgId) :
    (tables.within orgId).insert row = (tables.insert row).within orgId := by
  cases row <;>
    simp only [TableRow.orgId] at mine <;>
    simp [GatewayTables.insert, GatewayTables.within, List.filter_append, mine]

theorem insert_elsewhere {row : TableRow} (foreign : row.orgId ≠ orgId) :
    (tables.insert row).within orgId = tables.within orgId := by
  cases row <;>
    simp only [TableRow.orgId] at foreign <;>
    simp [GatewayTables.insert, GatewayTables.within, List.filter_append, foreign]

theorem update_within (other : String) (status : OrganizationStatus) :
    (tables.updateOrganizationStatus other status).within orgId =
      (tables.within orgId).updateOrganizationStatus other status := by
  have renamed : ∀ row : Organization, (decide
      ((if row.orgId = other then { row with status } else row : Organization).orgId = orgId)) =
        decide (row.orgId = orgId) := by
    intro row
    split <;> rfl
  simp only [GatewayTables.updateOrganizationStatus, GatewayTables.within, List.filter_map,
    Function.comp_def, renamed]

theorem update_elsewhere {other : String} (foreign : other ≠ orgId)
    (status : OrganizationStatus) :
    (tables.updateOrganizationStatus other status).within orgId = tables.within orgId := by
  rw [update_within]
  have kept : ∀ row ∈ tables.organizations.filter (fun row => row.orgId = orgId),
      (if row.orgId = other then { row with status } else row : Organization) = row := by
    intro row member
    have mine := of_decide_eq_true (List.mem_filter.mp member).2
    exact if_neg fun same => foreign (same.symm.trans mine)
  simp only [GatewayTables.updateOrganizationStatus, GatewayTables.within]
  rw [List.map_congr_left kept, List.map_id']

theorem upsert_within (row : RefundStateRow) (mine : row.orgId = orgId) :
    (tables.upsertRefundState row).within orgId =
      (tables.within orgId).upsertRefundState row := by
  simp only [GatewayTables.upsertRefundState, GatewayTables.within, List.filter_append,
    List.filter_filter, List.filter_cons, mine, decide_true, if_true, List.filter_nil, Bool.and_comm]

theorem upsert_elsewhere {row : RefundStateRow} (foreign : row.orgId ≠ orgId) :
    (tables.upsertRefundState row).within orgId = tables.within orgId := by
  have kept : ∀ held ∈ tables.refundState, (decide (held.orgId = orgId) &&
      decide (¬ (held.orgId = row.orgId ∧ held.bucket = row.bucket ∧
        held.itemKey = row.itemKey))) = decide (held.orgId = orgId) := by
    intro held _
    by_cases mine : held.orgId = orgId
    · simp [mine, foreign.symm]
    · simp [mine]
  simp only [GatewayTables.upsertRefundState, GatewayTables.within, List.filter_append,
    List.filter_filter, List.filter_cons, foreign, decide_false, Bool.false_eq_true, if_false,
    List.filter_nil, List.append_nil]
  rw [List.filter_congr kept]

variable (tables now salt) in
/-- A local statement is answered from the rows of the organization alone. -/
theorem local_answer {op : StoreOp} (islocal : op.Local orgId) :
    (answerStore now salt (tables.within orgId) op).1 = (answerStore now salt tables op).1 ∧
      (answerStore now salt (tables.within orgId) op).2 =
        (answerStore now salt tables op).2.within orgId := by
  obtain ⟨⟨notAll, about⟩, notUser⟩ := islocal
  cases op with
  | now => exact ⟨rfl, rfl⟩
  | tokenBytes => exact ⟨rfl, rfl⟩
  | selectOrganizations => exact absurd rfl notAll
  | insert row =>
      have mine : row.orgId = orgId := about _ rfl
      have conflicts := conflicts_within tables mine
        fun user same => notUser user (congrArg StoreOp.insert same)
      by_cases taken : tables.Conflicts row
      · simp only [answerStore, if_pos taken, if_pos (conflicts.mpr taken), and_self]
      · have free := fun within => taken (conflicts.mp within)
        simp only [answerStore, if_neg taken, if_neg free, true_and]
        exact insert_within mine
  | selectOrganization other =>
      obtain rfl : other = orgId := about _ rfl
      have same := find_within tables.organizations (fun row => row.orgId = other) (fun _ => true)
      simp only [Bool.and_true] at same
      exact ⟨congrArg Except.ok same, rfl⟩
  | updateOrganizationStatus other status =>
      obtain rfl : other = orgId := about _ rfl
      refine ⟨congrArg Except.ok ?_, (update_within other status).symm⟩
      simp only [GatewayTables.within, List.countP_filter, Bool.and_self]
  | selectUser other key =>
      obtain rfl : other = orgId := about _ rfl
      exact ⟨congrArg Except.ok (find_within tables.users (fun row => row.user.orgId = other)
        (fun row => key.names row.user)), rfl⟩
  | selectUsers other =>
      obtain rfl : other = orgId := about _ rfl
      simp only [answerStore, GatewayTables.within, List.filter_filter, Bool.and_self, and_self]
  | selectAgent other agentId =>
      obtain rfl : other = orgId := about _ rfl
      exact ⟨congrArg Except.ok (find_within tables.agents (fun row => row.orgId = other)
        (fun row => row.agentId = agentId)), rfl⟩
  | selectAgents other =>
      obtain rfl : other = orgId := about _ rfl
      simp only [answerStore, GatewayTables.within, List.filter_filter, Bool.and_self, and_self]
  | selectAdapter other adapterId =>
      obtain rfl : other = orgId := about _ rfl
      exact ⟨congrArg Except.ok (find_within tables.adapters (fun row => row.orgId = other)
        (fun row => row.adapterId = adapterId)), rfl⟩
  | selectAdapters other =>
      obtain rfl : other = orgId := about _ rfl
      simp only [answerStore, GatewayTables.within, List.filter_filter, Bool.and_self, and_self]
  | upsertRefundState row =>
      exact ⟨rfl, (upsert_within row (about _ rfl)).symm⟩
  | selectRefundState other =>
      obtain rfl : other = orgId := about _ rfl
      simp only [answerStore, GatewayTables.within, List.filter_filter, Bool.and_self, and_self]

/-- A statement about another organization leaves the rows of this one. -/
theorem foreign_answer {op : StoreOp} (foreign : ∀ other ∈ op.scope, other ≠ orgId) :
    (answerStore now salt tables op).2.within orgId = tables.within orgId := by
  cases op with
  | insert row =>
      by_cases taken : tables.Conflicts row
      · rw [answerStore, if_pos taken]
      · rw [answerStore, if_neg taken]
        exact insert_elsewhere (foreign _ rfl)
  | updateOrganizationStatus other status => exact update_elsewhere (foreign _ rfl) status
  | upsertRefundState row => exact upsert_elsewhere (foreign _ rfl)
  | now | tokenBytes | selectOrganizations => rfl
  | selectOrganization _ | selectUser _ _ | selectUsers _ | selectAgent _ _ | selectAgents _
  | selectAdapter _ _ | selectAdapters _ | selectRefundState _ => rfl

end Statements

/-! ### What the methods ask for -/

section Footprints

variable {orgId : String} {allowed : StoreOp → Prop} {Value : Type}

theorem uses_guarded {call : String} {body : StoreProgram Value} (uses : body.Uses allowed) :
    (guarded call body).Uses allowed :=
  uses.rescue fun _ => trivial

theorem uses_found {row : Option Value} {missing : PyError} :
    (found row missing).Uses allowed := by
  cases row <;> trivial

theorem uses_insert_guarded {call : String} {row : TableRow} {inserted : Value}
    {conflict : StoreProgram Value} (asked : allowed (.insert row))
    (uses : conflict.Uses allowed) : (insertGuarded call row inserted conflict).Uses allowed := by
  refine ⟨asked, ?_⟩
  intro reply
  cases reply with
  | ok _ => trivial
  | error error =>
      change Program.Uses allowed (if _ then _ else _)
      split
      · exact uses
      · split <;> trivial

theorem uses_map {Result : Type} {body : StoreProgram Value} (wrap : Value → Result)
    (uses : body.Uses allowed) : Program.Uses allowed (wrap <$> body) :=
  uses.bind fun _ => trivial

/-- The statements of one organization that are not the insert of a user. -/
theorem local_of_scope {op : StoreOp} (named : op.scope = some orgId)
    (notUser : ∀ row, op ≠ .insert (.user row)) : op.Local orgId := by
  refine ⟨⟨?_, ?_⟩, notUser⟩
  · rintro rfl
    cases named
  · intro other isOther
    exact Option.some.inj (isOther.symm.trans named)

theorem get_organization_local :
    (GatewayStore.getOrganization orgId).Uses (StoreOp.Local orgId) := by
  apply Program.Uses.bind
  · exact uses_guarded ((Program.uses_perform _ _).mpr (local_of_scope rfl (by simp)))
  · exact fun _ => uses_found

theorem require_active_local :
    (GatewayStore.requireActiveOrganization orgId).Uses (StoreOp.Local orgId) := by
  apply get_organization_local.bind
  intro org
  split <;> trivial

theorem local_now : StoreOp.now.Local orgId := by
  refine ⟨⟨fun same => ?_, fun other named => ?_⟩, fun row same => ?_⟩
  · cases same
  · cases named
  · cases same

theorem local_query {op : StoreOp} (named : op.scope = some orgId)
    (notUser : ∀ row, op ≠ .insert (.user row)) : (query op).Uses (StoreOp.Local orgId) :=
  (Program.uses_perform _ _).mpr (local_of_scope named notUser)

theorem organization_settled {name : String} {now : Instant} {org : Organization}
    (built : Organization.build orgId name now = .ok org) : org.orgId = orgId := by
  simp only [Organization.build, validated] at built
  split at built
  · split at built
    · cases built
      rfl
    · cases built
  · cases built

theorem create_organization_local (name : String) :
    (GatewayStore.createOrganization orgId name).Uses (StoreOp.Local orgId) := by
  refine Program.Uses.after local_now fun now => ?_
  cases built : Organization.build orgId name now with
  | error error => trivial
  | ok org =>
      exact uses_insert_guarded
        (local_of_scope (congrArg some (organization_settled built)) (by simp)) trivial

theorem set_status_local (status : OrganizationStatus) :
    (GatewayStore.setOrganizationStatus orgId status).Uses (StoreOp.Local orgId) := by
  apply (uses_guarded (local_query rfl (by simp))).bind
  intro rowcount
  split
  · trivial
  · exact get_organization_local

theorem get_user_local (method : String) (key : UserKey) :
    (GatewayStore.getUserBy method orgId key).Uses (StoreOp.Local orgId) := by
  apply (uses_guarded (local_query rfl (by simp))).bind
  exact fun row => uses_found.bind fun _ => trivial

theorem authenticate_local (codec : StoreCodec Payload) (email password : String) :
    (GatewayStore.authenticate codec orgId email password).Uses (StoreOp.Local orgId) := by
  apply Program.Uses.bind
  · apply Program.Uses.rescue
    · exact require_active_local.bind fun _ => uses_guarded (local_query rfl (by simp))
    · exact fun _ => trivial
  · intro row
    apply uses_found.bind
    intro row
    split <;> trivial

theorem agent_settled {agentId displayName : String} {now : Instant} {agent : GatewayAgent}
    (built : GatewayAgent.build agentId orgId displayName now = .ok agent) :
    agent.orgId = orgId := by
  simp only [GatewayAgent.build, validated] at built
  repeat' split at built
  all_goals cases built
  rfl

theorem register_agent_local (agentId displayName : String) :
    (GatewayStore.registerAgent orgId agentId displayName).Uses (StoreOp.Local orgId) := by
  apply require_active_local.bind
  intro org
  refine Program.Uses.after local_now fun now => ?_
  cases built : GatewayAgent.build agentId orgId displayName now with
  | error error => trivial
  | ok agent =>
      apply uses_insert_guarded
      · exact local_of_scope (congrArg some (agent_settled built)) (by simp)
      · apply (local_query rfl (by simp)).bind
        intro row
        apply uses_found.bind
        intro row
        split <;> trivial

theorem adapter_settled {adapterId adapterVersion : String} {effectTypes : List String}
    {now : Instant} {registration : GatewayAdapterRegistration}
    (built : GatewayAdapterRegistration.build adapterId orgId adapterVersion effectTypes now =
      .ok registration) : registration.orgId = orgId := by
  simp only [GatewayAdapterRegistration.build, validated] at built
  repeat' split at built
  all_goals cases built
  rfl

theorem register_adapter_local (adapterId adapterVersion : String) (effectTypes : List String) :
    (GatewayStore.registerAdapter orgId adapterId adapterVersion effectTypes).Uses
      (StoreOp.Local orgId) := by
  apply require_active_local.bind
  intro org
  refine Program.Uses.after local_now fun now => ?_
  cases built : GatewayAdapterRegistration.build adapterId orgId adapterVersion
      (pySorted effectTypes) now with
  | error error => trivial
  | ok registration =>
      apply uses_insert_guarded
      · exact local_of_scope (congrArg some (adapter_settled built)) (by simp)
      · apply (local_query rfl (by simp)).bind
        intro row
        apply uses_found.bind
        intro row
        split <;> trivial

theorem put_refund_state_local (codec : StoreCodec Payload) (bucket itemKey : String)
    (payload : Payload) :
    (GatewayStore.putRefundState codec orgId bucket itemKey payload).Uses
      (StoreOp.Local orgId) := by
  refine Program.Uses.after local_now fun now => ?_
  apply uses_guarded
  exact (Program.uses_settle _ _).bind fun _ => local_query rfl (by simp)

theorem load_refund_state_local (codec : StoreCodec Payload) :
    (GatewayStore.loadRefundState codec orgId).Uses (StoreOp.Local orgId) :=
  (uses_guarded (local_query rfl (by simp))).bind fun _ => Program.uses_settle _ _

theorem user_prepared_local (codec : StoreCodec Payload) (request : UserRequest) :
    (userPrepared codec orgId request).Uses (StoreOp.Local orgId) := by
  apply require_active_local.bind
  intro org
  refine Program.Uses.after local_now fun now => ?_
  apply (Program.uses_settle _ _).bind
  intro user
  exact Program.Uses.after ⟨⟨by simp, by simp [StoreOp.scope]⟩, by simp⟩ fun salt => trivial

/-- Every method for an organization but the creation of a user keeps to its rows. -/
theorem request_local (codec : StoreCodec Payload) {request : StoreRequest Payload}
    (named : request.scope = some orgId)
    (notUser : ∀ user, request ≠ .createUser orgId user) :
    (request.program codec).Uses (StoreOp.Local orgId) := by
  cases request with
  | listOrganizations => cases named
  | createOrganization other name =>
      obtain rfl := Option.some.inj named
      exact uses_map _ (create_organization_local name)
  | getOrganization other =>
      obtain rfl := Option.some.inj named
      exact uses_map _ get_organization_local
  | setOrganizationStatus other status =>
      obtain rfl := Option.some.inj named
      exact uses_map _ (set_status_local status)
  | requireActiveOrganization other =>
      obtain rfl := Option.some.inj named
      exact uses_map _ require_active_local
  | createUser other user =>
      obtain rfl := Option.some.inj named
      exact absurd rfl (notUser user)
  | getUser other email =>
      obtain rfl := Option.some.inj named
      exact uses_map _ (get_user_local _ _)
  | getUserById other userId =>
      obtain rfl := Option.some.inj named
      exact uses_map _ (get_user_local _ _)
  | listUsers other =>
      obtain rfl := Option.some.inj named
      exact uses_map _ (require_active_local.bind fun _ =>
        (uses_guarded (local_query rfl (by simp))).bind fun _ => trivial)
  | authenticate other email password =>
      obtain rfl := Option.some.inj named
      exact uses_map _ (authenticate_local codec email password)
  | registerAgent other agentId displayName =>
      obtain rfl := Option.some.inj named
      exact uses_map _ (register_agent_local agentId displayName)
  | getAgent other agentId =>
      obtain rfl := Option.some.inj named
      exact uses_map _ (require_active_local.bind fun _ =>
        (uses_guarded (local_query rfl (by simp))).bind fun _ => uses_found)
  | listAgents other =>
      obtain rfl := Option.some.inj named
      exact uses_map _ (require_active_local.bind fun _ =>
        uses_guarded (local_query rfl (by simp)))
  | registerAdapter other adapterId adapterVersion effectTypes =>
      obtain rfl := Option.some.inj named
      exact uses_map _ (register_adapter_local adapterId adapterVersion effectTypes)
  | getAdapter other adapterId =>
      obtain rfl := Option.some.inj named
      exact uses_map _ (require_active_local.bind fun _ =>
        (uses_guarded (local_query rfl (by simp))).bind fun _ => uses_found)
  | listAdapters other =>
      obtain rfl := Option.some.inj named
      exact uses_map _ (require_active_local.bind fun _ =>
        uses_guarded (local_query rfl (by simp)))
  | putRefundState other bucket itemKey payload =>
      obtain rfl := Option.some.inj named
      exact uses_map _ (put_refund_state_local codec bucket itemKey payload)
  | loadRefundState other =>
      obtain rfl := Option.some.inj named
      exact uses_map _ (load_refund_state_local codec)

/-- Creating a user asks for statements about its own organization. -/
theorem create_user_scoped (codec : StoreCodec Payload) (request : UserRequest) :
    (GatewayStore.createUser codec orgId request).Uses (StoreOp.ScopedTo orgId) := by
  apply (require_active_local.mono fun _ islocal => islocal.1).bind
  intro org
  refine Program.Uses.after local_now.1 fun now => ?_
  cases built : GatewayUser.build request.userId orgId request.email request.displayName
      request.role now with
  | error error => trivial
  | ok user =>
      refine Program.Uses.after ⟨by simp, by simp [StoreOp.scope]⟩ fun salt => ?_
      refine uses_insert_guarded ⟨by simp, ?_⟩ trivial
      intro other named
      exact (Option.some.inj named).symm.trans (user_settled built).2.1

theorem request_scoped (codec : StoreCodec Payload) {request : StoreRequest Payload}
    (named : request.scope = some orgId) :
    (request.program codec).Uses (StoreOp.ScopedTo orgId) := by
  by_cases creates : ∃ user, request = .createUser orgId user
  · obtain ⟨user, rfl⟩ := creates
    exact uses_map _ (create_user_scoped codec user)
  · exact (request_local codec named fun user same => creates ⟨user, same⟩).mono
      fun _ islocal => islocal.1

end Footprints

/-! ### The creation of a user -/

/-! ### Who holds the keys of a user -/

/-- A user of the organization has the id or the email. -/
def TakenWithin (tables : GatewayTables) (orgId : String) (request : UserRequest) : Prop :=
  ∃ held ∈ tables.users, held.user.orgId = orgId ∧
    (held.user.userId = request.userId ∨ held.user.email = request.email)

/-- A user of another organization has the id. -/
def TakenElsewhere (tables : GatewayTables) (orgId : String) (request : UserRequest) : Prop :=
  ∃ held ∈ tables.users, held.user.orgId ≠ orgId ∧ held.user.userId = request.userId

instance (tables : GatewayTables) (orgId : String) (request : UserRequest) :
    Decidable (TakenWithin tables orgId request) :=
  inferInstanceAs (Decidable (∃ held ∈ tables.users, _))

instance (tables : GatewayTables) (orgId : String) (request : UserRequest) :
    Decidable (TakenElsewhere tables orgId request) :=
  inferInstanceAs (Decidable (∃ held ∈ tables.users, _))

/-- The call creates a user whom the organization's own rows would admit, under an id that a
user of another organization has. -/
def Squatted (tables : GatewayTables) (call : StoreCall Payload) : Prop :=
  match call.request with
  | .createUser orgId request =>
      Undisturbed 4 call.faults ∧ OrganizationActive tables orgId ∧
        UserArguments orgId request ∧ ¬ TakenWithin tables orgId request ∧
          TakenElsewhere tables orgId request
  | _ => False

instance (tables : GatewayTables) (call : StoreCall Payload) : Decidable (Squatted tables call) :=
  match named : call.request with
  | .createUser orgId request => decidable_of_iff
      (Undisturbed 4 call.faults ∧ OrganizationActive tables orgId ∧
        UserArguments orgId request ∧ ¬ TakenWithin tables orgId request ∧
          TakenElsewhere tables orgId request)
      (by rw [Squatted, named])
  | .createOrganization _ _ | .getOrganization _ | .listOrganizations
  | .setOrganizationStatus _ _ | .requireActiveOrganization _ | .getUser _ _ | .getUserById _ _
  | .listUsers _ | .authenticate _ _ _ | .registerAgent _ _ _ | .getAgent _ _ | .listAgents _
  | .registerAdapter _ _ _ _ | .getAdapter _ _ | .listAdapters _ | .putRefundState _ _ _ _
  | .loadRefundState _ => isFalse (by rw [Squatted, named]; exact id)

theorem conflicts_user {orgId : String} (tables : GatewayTables) {request : UserRequest}
    {row : UserRow} (id : row.user.userId = request.userId)
    (org : row.user.orgId = orgId) (email : row.user.email = request.email) :
    tables.Conflicts (.user row) ↔
      TakenWithin tables orgId request ∨ TakenElsewhere tables orgId request := by
  constructor
  · rintro ⟨held, member, taken⟩
    rw [id, org, email] at taken
    by_cases mine : held.user.orgId = orgId
    · exact Or.inl ⟨held, member, mine, taken.imp_right And.right⟩
    · refine Or.inr ⟨held, member, mine, ?_⟩
      cases taken with
      | inl sameId => exact sameId
      | inr sameEmail => exact absurd sameEmail.1 mine
  · rintro (⟨held, member, mine, taken⟩ | ⟨held, member, _, taken⟩)
    · refine ⟨held, member, ?_⟩
      rw [id, org, email]
      exact taken.imp_right fun sameEmail => ⟨mine, sameEmail⟩
    · exact ⟨held, member, Or.inl (taken.trans id.symm)⟩

/-! ### Two stores with the same rows of one organization -/

section Related

variable {orgId : String} {first second : GatewayTables} {now : Instant} {salt : String}

structure SameWithin (orgId : String) (world other : StoreWorld) : Prop where
  tables : world.tables.within orgId = other.tables.within orgId
  faults : world.faults = other.faults

theorem SameWithin.step {world other : StoreWorld} (same : SameWithin orgId world other)
    (op : StoreOp) (islocal : op.Local orgId) :
    (storeServer now salt world op).1 = (storeServer now salt other op).1 ∧
      SameWithin orgId (storeServer now salt world op).2 (storeServer now salt other op).2 := by
  obtain ⟨tables, faults⟩ := world
  obtain ⟨others, otherFaults⟩ := other
  obtain ⟨rows, rfl⟩ := same
  cases fault : (StoreWorld.mk tables faults).fault with
  | some error =>
      have otherFault : (StoreWorld.mk others faults).fault = some error := fault
      simp only [storeServer, fault, otherFault]
      exact ⟨trivial, rows, rfl⟩
  | none =>
      have otherFault : (StoreWorld.mk others faults).fault = none := fault
      have mine := local_answer tables now salt islocal
      have theirs := local_answer others now salt islocal
      simp only [storeServer, fault, otherFault]
      refine ⟨?_, ?_, rfl⟩
      · rw [← mine.1, ← theirs.1, rows]
      · rw [← mine.2, ← theirs.2, rows]

theorem same_within_step (now : Instant) (salt : String) {world other : StoreWorld}
    (same : SameWithin orgId world other) (op : StoreOp) (islocal : op.Local orgId) :
    (storeServer now salt world op).1 = (storeServer now salt other op).1 ∧
      SameWithin orgId (storeServer now salt world op).2 (storeServer now salt other op).2 :=
  same.step op islocal

theorem same_within_start (same : first.within orgId = second.within orgId)
    (faults : List (Option PyError)) : SameWithin orgId ⟨first, faults⟩ ⟨second, faults⟩ :=
  ⟨same, rfl⟩

theorem active_within (same : first.within orgId = second.within orgId) :
    OrganizationActive first orgId ↔ OrganizationActive second orgId := by
  have looked : ∀ tables : GatewayTables,
      tables.organizations.find? (fun row => row.orgId = orgId) =
        (tables.within orgId).organizations.head? := by
    intro tables
    rw [GatewayTables.within, List.head?_filter]
  rw [OrganizationActive, OrganizationActive, looked, looked, same]

theorem taken_within (same : first.within orgId = second.within orgId) (request : UserRequest) :
    TakenWithin first orgId request ↔ TakenWithin second orgId request := by
  have restricted : ∀ tables : GatewayTables, TakenWithin tables orgId request ↔
      ∃ held ∈ (tables.within orgId).users, held.user.orgId = orgId ∧
        (held.user.userId = request.userId ∨ held.user.email = request.email) :=
    fun tables => (exists_within fun held mine => decide_eq_true mine.1).symm
  rw [restricted, restricted, same]

/-- Both stores answer the call alike exactly when both or neither of them hold the id for a
user of another organization; and then they still have the same rows. -/
structure AnsweredAlike (codec : StoreCodec Payload) (orgId : String)
    (first second : GatewayTables) (call : StoreCall Payload) : Prop where
  answers : (call.serve codec first).1 = (call.serve codec second).1 ↔
    (Squatted first call ↔ Squatted second call)
  keeps : (Squatted first call ↔ Squatted second call) →
    (call.serve codec first).2.within orgId = (call.serve codec second).2.within orgId

theorem local_answered_alike (codec : StoreCodec Payload) {call : StoreCall Payload}
    (same : first.within orgId = second.within orgId)
    (named : call.request.scope = some orgId)
    (notUser : ∀ user, call.request ≠ .createUser orgId user) :
    AnsweredAlike codec orgId first second call := by
  have related := (request_local codec named notUser).run_related
    (same_within_step call.now call.salt) (same_within_start same call.faults)
  have unsquatted : ∀ tables : GatewayTables, ¬ Squatted tables call := by
    intro tables squatted
    rw [Squatted] at squatted
    split at squatted
    · rename_i other user creates
      rw [creates] at named
      obtain rfl := Option.some.inj named
      exact notUser user creates
    · exact squatted
  exact ⟨iff_of_true related.1 (iff_of_false (unsquatted _) (unsquatted _)),
    fun _ => related.2.tables⟩

theorem create_user_fails (codec : StoreCodec Payload) {tables : GatewayTables}
    {call : StoreCall Payload} {request : UserRequest} {error : PyError} {after : StoreWorld}
    (creates : call.request = .createUser orgId request)
    (prepared : (userPrepared codec orgId request).run (storeServer call.now call.salt)
      ⟨tables, call.faults⟩ = (.error error, after)) :
    call.serve codec tables = (.error error, after.tables) := by
  have created : (GatewayStore.createUser codec orgId request).run
      (storeServer call.now call.salt) ⟨tables, call.faults⟩ = (.error error, after) := by
    rw [create_user_steps, run_bind_error prepared]
  have mapped : (call.request.program codec).run (storeServer call.now call.salt)
      ⟨tables, call.faults⟩ = (.error error, after) := by
    rw [creates]
    exact run_bind_error created
  rw [StoreCall.serve, mapped]

/-- How the creation of a user ends, from where its insert is reached. -/
theorem create_user_serve (codec : StoreCodec Payload) {tables : GatewayTables}
    {call : StoreCall Payload} {request : UserRequest} {row : UserRow}
    {outcome : Except PyError GatewayUser} {between after : StoreWorld}
    (creates : call.request = .createUser orgId request)
    (prepared : (userPrepared codec orgId request).run (storeServer call.now call.salt)
      ⟨tables, call.faults⟩ = (.ok row, between))
    (inserted : (userInserted orgId request row).run (storeServer call.now call.salt) between =
      (outcome, after)) :
    call.serve codec tables = (outcome.map StoreResult.user, after.tables) := by
  have created : (GatewayStore.createUser codec orgId request).run
      (storeServer call.now call.salt) ⟨tables, call.faults⟩ = (outcome, after) := by
    rw [create_user_steps, run_bind_ok prepared, inserted]
  have mapped : (call.request.program codec).run (storeServer call.now call.salt)
      ⟨tables, call.faults⟩ = (outcome.map StoreResult.user, after) := by
    rw [creates]
    cases outcome with
    | ok user => exact run_bind_ok created
    | error error => exact run_bind_error created
  rw [StoreCall.serve, mapped]

theorem answered_alike_iff {codec : StoreCodec Payload} {call : StoreCall Payload}
    {here there : Prop} (decided : Squatted first call ↔ here)
    (otherDecided : Squatted second call ↔ there) :
    AnsweredAlike codec orgId first second call ↔
      ((call.serve codec first).1 = (call.serve codec second).1 ↔ (here ↔ there)) ∧
        ((here ↔ there) →
          (call.serve codec first).2.within orgId = (call.serve codec second).2.within orgId) := by
  rw [← decided, ← otherDecided]
  exact ⟨fun alike => ⟨alike.answers, alike.keeps⟩, fun both => ⟨both.1, both.2⟩⟩

theorem undisturbed_four {faults : List (Option PyError)} (calm : Undisturbed 3 faults)
    (next : (faults.drop 3).head?.join = none) : Undisturbed 4 faults := by
  rw [← tail_thrice] at next
  exact ⟨calm.1, calm.2.1, calm.2.2.1, next, trivial⟩

theorem create_user_answered_alike (codec : StoreCodec Payload) {call : StoreCall Payload}
    {request : UserRequest} (same : first.within orgId = second.within orgId)
    (creates : call.request = .createUser orgId request) :
    AnsweredAlike codec orgId first second call := by
  have related := (user_prepared_local codec request).run_related
    (same_within_step call.now call.salt) (same_within_start same call.faults)
  have squatted : ∀ tables : GatewayTables, Squatted tables call ↔
      Undisturbed 4 call.faults ∧ OrganizationActive tables orgId ∧
        UserArguments orgId request ∧ ¬ TakenWithin tables orgId request ∧
          TakenElsewhere tables orgId request := by
    intro tables
    rw [Squatted, creates]
  cases prepared : (userPrepared codec orgId request).run (storeServer call.now call.salt)
      ⟨first, call.faults⟩ with
  | mk outcome between =>
  cases others : (userPrepared codec orgId request).run (storeServer call.now call.salt)
      ⟨second, call.faults⟩ with
  | mk otherOutcome otherBetween =>
  rw [prepared, others] at related
  obtain ⟨rfl, within⟩ := related
  cases outcome with
  | error error =>
      have ends := create_user_fails codec creates prepared
      have otherEnds := create_user_fails codec creates others
      have neither : ∀ {tables : GatewayTables} {after : StoreWorld},
          (userPrepared codec orgId request).run (storeServer call.now call.salt)
            ⟨tables, call.faults⟩ = (.error error, after) → ¬ Squatted tables call := by
        intro tables after fails holds
        obtain ⟨calm, active, valid, _⟩ := (squatted tables).mp holds
        obtain ⟨row, answered⟩ := user_prepared_answered call.now call.salt
          codec ⟨calm.1, calm.2.1, calm.2.2.1, trivial⟩ active valid
        rw [fails] at answered
        cases answered
      constructor
      · rw [ends, otherEnds]
        exact iff_of_true rfl (iff_of_false (neither prepared) (neither others))
      · intro _
        rw [ends, otherEnds]
        exact within.tables
  | ok row =>
      obtain ⟨calm, active, valid, id, org, email, rfl⟩ := user_prepared_returns codec prepared
      obtain ⟨_, otherActive, _, _, _, _, rfl⟩ := user_prepared_returns codec others
      cases fault : (call.faults.drop 3).head?.join with
      | some error =>
          obtain ⟨raised, fails⟩ := user_inserted_faulted call.now call.salt orgId request row error
          have ends := create_user_serve codec creates prepared (fails _ fault)
          have otherEnds := create_user_serve codec creates others (fails _ fault)
          have neither : ∀ tables : GatewayTables, ¬ Squatted tables call := by
            intro tables holds
            have fourth := ((squatted tables).mp holds).1.2.2.2.1
            rw [tail_thrice, fault] at fourth
            cases fourth
          constructor
          · rw [ends, otherEnds]
            exact iff_of_true rfl (iff_of_false (neither _) (neither _))
          · intro _
            rw [ends, otherEnds]
            exact same
      | none =>
          have calmFour := undisturbed_four calm fault
          have conflicts := fun tables => conflicts_user tables id org email
          by_cases taken : TakenWithin first orgId request
          · have otherTaken := (taken_within same request).mp taken
            have ends := create_user_serve codec creates prepared
              (user_inserted_refused fault ((conflicts first).mpr (Or.inl taken)))
            have otherEnds := create_user_serve codec creates others
              (user_inserted_refused fault ((conflicts second).mpr (Or.inl otherTaken)))
            constructor
            · rw [ends, otherEnds]
              exact iff_of_true rfl (iff_of_false
                (fun holds => ((squatted first).mp holds).2.2.2.1 taken)
                (fun holds => ((squatted second).mp holds).2.2.2.1 otherTaken))
            · intro _
              rw [ends, otherEnds]
              exact same
          · have otherFree := fun holds => taken ((taken_within same request).mpr holds)
            have decided : Squatted first call ↔ TakenElsewhere first orgId request :=
              (squatted first).trans ⟨fun holds => holds.2.2.2.2,
                fun elsewhere => ⟨calmFour, active, valid, taken, elsewhere⟩⟩
            have otherDecided : Squatted second call ↔ TakenElsewhere second orgId request :=
              (squatted second).trans ⟨fun holds => holds.2.2.2.2,
                fun elsewhere => ⟨calmFour, otherActive, valid, otherFree, elsewhere⟩⟩
            have refusal : ∀ {tables : GatewayTables}, TakenElsewhere tables orgId request →
                tables.Conflicts (.user row) :=
              fun elsewhere => (conflicts _).mpr (Or.inr elsewhere)
            have admission : ∀ {tables : GatewayTables}, ¬ TakenWithin tables orgId request →
                ¬ TakenElsewhere tables orgId request → ¬ tables.Conflicts (.user row) :=
              fun free unclaimed holds => ((conflicts _).mp holds).elim free unclaimed
            rw [answered_alike_iff decided otherDecided]
            by_cases elsewhere : TakenElsewhere first orgId request <;>
              by_cases otherElsewhere : TakenElsewhere second orgId request
            · rw [create_user_serve codec creates prepared
                  (user_inserted_refused fault (refusal elsewhere)),
                create_user_serve codec creates others
                  (user_inserted_refused fault (refusal otherElsewhere))]
              exact ⟨iff_of_true rfl (iff_of_true elsewhere otherElsewhere), fun _ => same⟩
            · rw [create_user_serve codec creates prepared
                  (user_inserted_refused fault (refusal elsewhere)),
                create_user_serve codec creates others
                  (insert_guarded_accepted fault (admission otherFree otherElsewhere))]
              refine ⟨iff_of_false (by simp [Except.map]) ?_, ?_⟩
              · exact fun agree => otherElsewhere (agree.mp elsewhere)
              · exact fun agree => absurd (agree.mp elsewhere) otherElsewhere
            · rw [create_user_serve codec creates prepared
                  (insert_guarded_accepted fault (admission taken elsewhere)),
                create_user_serve codec creates others
                  (user_inserted_refused fault (refusal otherElsewhere))]
              refine ⟨iff_of_false (by simp [Except.map]) ?_, ?_⟩
              · exact fun agree => elsewhere (agree.mpr otherElsewhere)
              · exact fun agree => absurd (agree.mpr otherElsewhere) elsewhere
            · rw [create_user_serve codec creates prepared
                  (insert_guarded_accepted fault (admission taken elsewhere)),
                create_user_serve codec creates others
                  (insert_guarded_accepted fault (admission otherFree otherElsewhere))]
              refine ⟨iff_of_true rfl (iff_of_false elsewhere otherElsewhere), fun _ => ?_⟩
              have mine : (TableRow.user row).orgId = orgId := org
              rw [← insert_within mine, ← insert_within mine, same]

theorem scoped_answered_alike (codec : StoreCodec Payload) {call : StoreCall Payload}
    (same : first.within orgId = second.within orgId) (named : call.request.scope = some orgId) :
    AnsweredAlike codec orgId first second call := by
  by_cases creates : ∃ user, call.request = .createUser orgId user
  · obtain ⟨user, creates⟩ := creates
    exact create_user_answered_alike codec same creates
  · exact local_answered_alike codec same named fun user isUser => creates ⟨user, isUser⟩

/-- The rows of the organization are those of the tables. -/
def HasRows (orgId : String) (tables : GatewayTables) (world : StoreWorld) : Prop :=
  world.tables.within orgId = tables.within orgId

/-- A call for another organization, or for none, leaves the rows of this one. -/
theorem foreign_call_within (codec : StoreCodec Payload) {call : StoreCall Payload}
    (tables : GatewayTables) (foreign : call.request.scope ≠ some orgId) :
    (call.serve codec tables).2.within orgId = tables.within orgId := by
  have step : ∀ {world : StoreWorld}, HasRows orgId tables world →
      ∀ op : StoreOp, (∀ other ∈ op.scope, other ≠ orgId) →
        HasRows orgId tables (storeServer call.now call.salt world op).2 := by
    intro world kept op elsewhere
    rw [storeServer]
    split
    · exact kept
    · exact (foreign_answer elsewhere).trans kept
  have uses : (call.request.program codec).Uses (fun op => ∀ other ∈ op.scope, other ≠ orgId) := by
    cases named : call.request.scope with
    | none =>
        cases asked : call.request <;> rw [asked] at named <;> cases named
        exact uses_map _ (uses_guarded ((Program.uses_perform _ _).mpr
          (fun other none => by cases none)))
    | some scope =>
        apply (request_scoped codec named).mono
        intro op scopedOp other isOther same
        have isScope := scopedOp.2 other isOther
        exact foreign (named.trans (congrArg some (isScope.symm.trans same)))
  have start : HasRows orgId tables ⟨tables, call.faults⟩ := rfl
  exact uses.run_keeps step start

end Related

/-- At which of the calls for one organization the id of a new user is squatted. -/
def scopedSquats (codec : StoreCodec Payload) (orgId : String) :
    GatewayTables → List (StoreCall Payload) → List Bool
  | _, [] => []
  | tables, call :: later =>
      if call.request.scope = some orgId then
        decide (Squatted tables call) :: scopedSquats codec orgId (call.serve codec tables).2 later
      else scopedSquats codec orgId (call.serve codec tables).2 later

end KarmaSakshi.Gateway

namespace KarmaSakshi.Guarantees

open EffectProgram KarmaSakshi.Domain KarmaSakshi.Gateway

set_option autoImplicit false

section Histories

variable {Payload : Type} {codec : GatewayStore.StoreCodec Payload} {orgId : String}
  {first second : GatewayTables} {calls others : List (StoreCall Payload)}

/-- The calls of a history that are for the organization. -/
def scopedCalls (orgId : String) (calls : List (StoreCall Payload)) : List (StoreCall Payload) :=
  calls.filter (fun call => call.request.scope = some orgId)

variable (codec) in
/-- Calls for other organizations up to the next call for this one. -/
theorem skip_foreign (tables : GatewayTables) {skipped : List (StoreCall Payload)}
    (foreign : ∀ call ∈ skipped, call.request.scope ≠ some orgId) :
    ∃ after, after.within orgId = tables.within orgId ∧ ∀ rest,
      scopedAnswers codec orgId tables (skipped ++ rest) = scopedAnswers codec orgId after rest ∧
        scopedSquats codec orgId tables (skipped ++ rest) =
          scopedSquats codec orgId after rest := by
  induction skipped generalizing tables with
  | nil => exact ⟨tables, rfl, fun rest => ⟨rfl, rfl⟩⟩
  | cons call later ih =>
      have notMine := foreign call List.mem_cons_self
      obtain ⟨after, within, rests⟩ := ih (call.serve codec tables).2
        fun other member => foreign other (List.mem_cons_of_mem _ member)
      refine ⟨after, within.trans (foreign_call_within codec tables notMine), ?_⟩
      intro rest
      rw [List.cons_append, scopedAnswers, scopedSquats, if_neg notMine, if_neg notMine]
      exact rests rest

/-- Two histories with the same calls for an organization get the same answers to them
exactly when the ids of its new users are squatted at the same calls. -/
theorem organization_noninterference_iff (start : first.within orgId = second.within orgId)
    (agree : scopedCalls orgId calls = scopedCalls orgId others) :
    scopedAnswers codec orgId first calls = scopedAnswers codec orgId second others ↔
      scopedSquats codec orgId first calls = scopedSquats codec orgId second others := by
  induction calls generalizing first second others with
  | nil =>
      have foreign : ∀ call ∈ others, call.request.scope ≠ some orgId := by
        intro call member named
        have listed : call ∈ scopedCalls orgId others :=
          List.mem_filter.mpr ⟨member, decide_eq_true named⟩
        rw [← agree] at listed
        cases listed
      obtain ⟨after, _, rests⟩ := skip_foreign codec second foreign
      have ended := rests []
      rw [List.append_nil] at ended
      rw [ended.1, ended.2]
      exact iff_of_true rfl rfl
  | cons call later ih =>
      by_cases named : call.request.scope = some orgId
      · have listed : scopedCalls orgId others = call :: scopedCalls orgId later := by
          rw [← agree]
          simp only [scopedCalls, List.filter_cons, named, decide_true, if_true]
        obtain ⟨skipped, rest, rfl, foreign, _, remains⟩ := List.filter_eq_cons_iff.mp listed
        obtain ⟨after, within, rests⟩ := skip_foreign codec second
          fun other member mine => foreign other member (decide_eq_true mine)
        have alike := scoped_answered_alike codec (start.trans within.symm) named
        rw [(rests _).1, (rests _).2]
        simp only [scopedAnswers, scopedSquats, if_pos named, List.cons.injEq, decide_eq_decide]
        constructor
        · rintro ⟨answer, answers⟩
          have squats := alike.answers.mp answer
          exact ⟨squats, (ih (alike.keeps squats) remains.symm).mp answers⟩
        · rintro ⟨squat, squats⟩
          exact ⟨alike.answers.mpr squat, (ih (alike.keeps squat) remains.symm).mpr squats⟩
      · rw [scopedAnswers, scopedSquats, if_neg named, if_neg named]
        apply ih
        · exact (foreign_call_within codec first named).trans start
        · rw [← agree]
          simp only [scopedCalls, List.filter_cons, named, decide_false, Bool.false_eq_true,
            if_false]

end Histories

/-! ### Two organizations -/

namespace Registrations

/-- PBKDF2 of the one password below with its salt. -/
def codec : GatewayStore.StoreCodec Unit where
  hashPassword := fun _ _ => "597993259dbdfd7eb60cddefb4e871bcecaec0879dff800ea3fbe19720871e8c"
  dumps := fun _ => .ok "null"
  loads := fun _ => .ok ()

def call (request : StoreRequest Unit) : StoreCall Unit :=
  ⟨request, 1700000000000000, "000102030405060708090a0b0c0d0e0f", []⟩

def empty : GatewayTables := ⟨[], [], [], [], []⟩

def member (userId email : String) : GatewayStore.UserRequest :=
  ⟨userId, email, "A member", "secret1", .member⟩

/-- What the first organization does in both histories. -/
def own : List (StoreCall Unit) := [
  call (.createOrganization "acme" "Acme"),
  call (.createUser "acme" (member "treasurer" "pay@acme.example")),
  call (.getUser "acme" "pay@acme.example")]

/-- A second organization that first gives one of its users an id. -/
def crowded (userId : String) : List (StoreCall Unit) :=
  [call (.createOrganization "bravo" "Bravo"),
    call (.createUser "bravo" (member userId "pay@bravo.example"))] ++ own

end Registrations

open Registrations in
/-- Other ids leave the answers of the first organization alone. -/
theorem other_ids_unnoticed :
    scopedAnswers codec "acme" empty own =
      scopedAnswers codec "acme" empty (crowded "bravo-treasurer") :=
  (organization_noninterference_iff rfl rfl).mpr (by decide)

open Registrations in
/-- The same id in another organization: the user is refused, and cannot be looked up. -/
theorem squatted_id_is_noticed :
    ∃ calls others : List (StoreCall Unit),
      scopedCalls "acme" calls = scopedCalls "acme" others ∧
        scopedAnswers codec "acme" empty calls ≠ scopedAnswers codec "acme" empty others := by
  refine ⟨own, crowded "treasurer", rfl, ?_⟩
  intro same
  have returned := congrArg (List.map (fun answer => answer.toOption.isSome)) same
  revert returned
  decide

end KarmaSakshi.Guarantees
