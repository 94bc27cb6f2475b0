import KarmaSakshi.Gateway.Migrations

/-!
The gateway's durable store.

Each method is a program over SQL statements, one transaction a statement, as the lock of
the store makes them.  The keys are those of the migrations.  `REFERENCES` clauses are not
enforced: the store never sets `PRAGMA foreign_keys`.
-/

namespace KarmaSakshi.Gateway

open EffectProgram KarmaSakshi.Domain

set_option autoImplicit false

/-! ### Models -/

inductive OrganizationStatus : Type where
  | active
  | suspended
  deriving DecidableEq

inductive GatewayUserRole : Type where
  | owner
  | member
  deriving DecidableEq

/-- `_MAX_IDENTIFIER_LEN`. -/
def maxIdentifierLength : Nat := 256

/-- `_MAX_EMAIL_LEN`. -/
def maxEmailLength : Nat := 320

/-- What `_nonempty` accepts. -/
def identifierShape (text : String) : Prop := boundedText maxIdentifierLength text

/-- What `_email` accepts. -/
def emailShape (text : String) : Prop := boundedText maxEmailLength text ∧ '@' ∈ text.toList

/-- What `_effect_types` accepts. -/
def effectTypesShape (types : List String) : Prop :=
  types ≠ [] ∧ types.length ≤ 32 ∧ (∀ item ∈ types, identifierShape item) ∧ types.Nodup

instance (text : String) : Decidable (identifierShape text) :=
  inferInstanceAs (Decidable (boundedText _ _))

instance (text : String) : Decidable (emailShape text) :=
  inferInstanceAs (Decidable (_ ∧ _))

instance (types : List String) : Decidable (effectTypesShape types) :=
  inferInstanceAs (Decidable (_ ∧ _ ∧ _ ∧ _))

structure Organization where
  orgId : String
  name : String
  status : OrganizationStatus
  createdAt : Instant
  orgIdShape : identifierShape orgId
  nameShape : identifierShape name

structure GatewayUser where
  userId : String
  orgId : String
  email : String
  displayName : String
  role : GatewayUserRole
  createdAt : Instant
  userIdShape : identifierShape userId
  orgIdShape : identifierShape orgId
  displayNameShape : identifierShape displayName
  emailPlausible : emailShape email

structure GatewayAgent where
  agentId : String
  orgId : String
  displayName : String
  createdAt : Instant
  agentIdShape : identifierShape agentId
  orgIdShape : identifierShape orgId
  displayNameShape : identifierShape displayName

structure GatewayAdapterRegistration where
  adapterId : String
  orgId : String
  adapterVersion : String
  effectTypes : List String
  createdAt : Instant
  adapterIdShape : identifierShape adapterId
  orgIdShape : identifierShape orgId
  adapterVersionShape : identifierShape adapterVersion
  effectTypesListed : effectTypesShape effectTypes

def notAnIdentifier : PyError := ⟨.validationError, "must be 1-256 chars"⟩

/-- A validator: the value is accepted, or the model is refused. -/
def validated (shape : Prop) [Decidable shape] (refusal : PyError) : Except PyError (PLift shape) :=
  if holds : shape then .ok ⟨holds⟩ else .error refusal

def Organization.build (orgId name : String) (createdAt : Instant) :
    Except PyError Organization := do
  let ⟨orgIdShape⟩ ← validated (identifierShape orgId) notAnIdentifier
  let ⟨nameShape⟩ ← validated (identifierShape name) notAnIdentifier
  return { orgId, name, status := .active, createdAt, orgIdShape, nameShape }

def GatewayUser.build (userId orgId email displayName : String) (role : GatewayUserRole)
    (createdAt : Instant) : Except PyError GatewayUser := do
  let ⟨userIdShape⟩ ← validated (identifierShape userId) notAnIdentifier
  let ⟨orgIdShape⟩ ← validated (identifierShape orgId) notAnIdentifier
  let ⟨emailPlausible⟩ ← validated (emailShape email)
    ⟨.validationError, "must be a plausible email address"⟩
  let ⟨displayNameShape⟩ ← validated (identifierShape displayName) notAnIdentifier
  return { userId, orgId, email, displayName, role, createdAt, userIdShape, orgIdShape
           displayNameShape, emailPlausible }

def GatewayAgent.build (agentId orgId displayName : String) (createdAt : Instant) :
    Except PyError GatewayAgent := do
  let ⟨agentIdShape⟩ ← validated (identifierShape agentId) notAnIdentifier
  let ⟨orgIdShape⟩ ← validated (identifierShape orgId) notAnIdentifier
  let ⟨displayNameShape⟩ ← validated (identifierShape displayName) notAnIdentifier
  return { agentId, orgId, displayName, createdAt, agentIdShape, orgIdShape, displayNameShape }

def GatewayAdapterRegistration.build (adapterId orgId adapterVersion : String)
    (effectTypes : List String) (createdAt : Instant) :
    Except PyError GatewayAdapterRegistration := do
  let ⟨adapterIdShape⟩ ← validated (identifierShape adapterId) notAnIdentifier
  let ⟨orgIdShape⟩ ← validated (identifierShape orgId) notAnIdentifier
  let ⟨adapterVersionShape⟩ ← validated (identifierShape adapterVersion) notAnIdentifier
  let ⟨effectTypesListed⟩ ← validated (effectTypesShape effectTypes)
    ⟨.validationError, "effect_types must contain 1-32 non-empty values without duplicates"⟩
  return { adapterId, orgId, adapterVersion, effectTypes, createdAt, adapterIdShape, orgIdShape
           adapterVersionShape, effectTypesListed }

/-! ### Tables -/

/-- A row of `gateway_users`. -/
structure UserRow where
  user : GatewayUser
  passwordHash : String
  passwordSalt : String

/-- A row of `gateway_refund_state`, without the time of its last write, which no method
reads. -/
structure RefundStateRow where
  orgId : String
  bucket : String
  itemKey : String
  payloadJson : String

inductive TableRow : Type where
  | organization (row : Organization)
  | user (row : UserRow)
  | agent (row : GatewayAgent)
  | adapter (row : GatewayAdapterRegistration)

def TableRow.orgId : TableRow → String
  | organization row => row.orgId
  | user row => row.user.orgId
  | agent row => row.orgId
  | adapter row => row.orgId

structure GatewayTables where
  organizations : List Organization
  users : List UserRow
  agents : List GatewayAgent
  adapters : List GatewayAdapterRegistration
  refundState : List RefundStateRow

/-- The two keys a user is looked up by, both within an organization. -/
inductive UserKey : Type where
  | email (text : String)
  | userId (text : String)

def UserKey.names (key : UserKey) (user : GatewayUser) : Bool :=
  match key with
  | email text => user.email = text
  | userId text => user.userId = text

inductive StoreOp : Type where
  | now
  | tokenBytes
  | insert (row : TableRow)
  | selectOrganization (orgId : String)
  | selectOrganizations
  | updateOrganizationStatus (orgId : String) (status : OrganizationStatus)
  | selectUser (orgId : String) (key : UserKey)
  | selectUsers (orgId : String)
  | selectAgent (orgId agentId : String)
  | selectAgents (orgId : String)
  | selectAdapter (orgId adapterId : String)
  | selectAdapters (orgId : String)
  | upsertRefundState (row : RefundStateRow)
  | selectRefundState (orgId : String)

/-- `tokenBytes` answers in hexadecimal; an update answers with its row count. -/
abbrev StoreReply : StoreOp → Type
  | .now => Instant
  | .tokenBytes => String
  | .insert _ | .upsertRefundState _ => Unit
  | .selectOrganization _ => Option Organization
  | .selectOrganizations => List Organization
  | .updateOrganizationStatus _ _ => Nat
  | .selectUser _ _ => Option UserRow
  | .selectUsers _ => List UserRow
  | .selectAgent _ _ => Option GatewayAgent
  | .selectAgents _ => List GatewayAgent
  | .selectAdapter _ _ => Option GatewayAdapterRegistration
  | .selectAdapters _ => List GatewayAdapterRegistration
  | .selectRefundState _ => List RefundStateRow

namespace GatewayTables

variable (tables : GatewayTables)

/-- A key of the row is taken: `PRIMARY KEY` and `UNIQUE` of its table. -/
def Conflicts : TableRow → Prop
  | .organization row => ∃ held ∈ tables.organizations, held.orgId = row.orgId
  | .user row => ∃ held ∈ tables.users, held.user.userId = row.user.userId ∨
      held.user.orgId = row.user.orgId ∧ held.user.email = row.user.email
  | .agent row => ∃ held ∈ tables.agents, held.orgId = row.orgId ∧ held.agentId = row.agentId
  | .adapter row =>
      ∃ held ∈ tables.adapters, held.orgId = row.orgId ∧ held.adapterId = row.adapterId

instance (row : TableRow) : Decidable (tables.Conflicts row) :=
  match row with
  | .organization _ => inferInstanceAs (Decidable (∃ held ∈ tables.organizations, _))
  | .user _ => inferInstanceAs (Decidable (∃ held ∈ tables.users, _))
  | .agent _ => inferInstanceAs (Decidable (∃ held ∈ tables.agents, _))
  | .adapter _ => inferInstanceAs (Decidable (∃ held ∈ tables.adapters, _))

def insert : TableRow → GatewayTables
  | .organization row => { tables with organizations := tables.organizations ++ [row] }
  | .user row => { tables with users := tables.users ++ [row] }
  | .agent row => { tables with agents := tables.agents ++ [row] }
  | .adapter row => { tables with adapters := tables.adapters ++ [row] }

def updateOrganizationStatus (orgId : String) (status : OrganizationStatus) : GatewayTables :=
  { tables with organizations := tables.organizations.map (fun row =>
      if row.orgId = orgId then { row with status } else row) }

/-- `ON CONFLICT(org_id, bucket, item_key) DO UPDATE`. -/
def upsertRefundState (row : RefundStateRow) : GatewayTables :=
  { tables with refundState := tables.refundState.filter (fun held =>
      ¬ (held.orgId = row.orgId ∧ held.bucket = row.bucket ∧ held.itemKey = row.itemKey)) ++
        [row] }

end GatewayTables

/-- The text of the `IntegrityError` of a table. -/
def uniqueFailed (row : TableRow) : PyError :=
  ⟨.other "IntegrityError", "UNIQUE constraint failed: " ++ match row with
    | .organization _ => "organizations.org_id"
    | .user _ => "gateway_users.user_id"
    | .agent _ => "gateway_agents.org_id, gateway_agents.agent_id"
    | .adapter _ => "gateway_adapters.org_id, gateway_adapters.adapter_id"⟩

/-- What the tables answer; the clock and the random bytes are given. -/
def answerStore (now : Instant) (salt : String) (tables : GatewayTables) :
    (op : StoreOp) → Except PyError (StoreReply op) × GatewayTables
  | .now => (.ok now, tables)
  | .tokenBytes => (.ok salt, tables)
  | .insert row =>
      if tables.Conflicts row then (.error (uniqueFailed row), tables)
      else (.ok (), tables.insert row)
  | .selectOrganization orgId =>
      (.ok (tables.organizations.find? (fun row => row.orgId = orgId)), tables)
  | .selectOrganizations =>
      (.ok (tables.organizations.insertionSort (fun left right => left.orgId ≤ right.orgId)),
        tables)
  | .updateOrganizationStatus orgId status =>
      (.ok (tables.organizations.countP (fun row => row.orgId = orgId)),
        tables.updateOrganizationStatus orgId status)
  | .selectUser orgId key =>
      (.ok (tables.users.find? (fun row => row.user.orgId = orgId && key.names row.user)), tables)
  | .selectUsers orgId =>
      (.ok ((tables.users.filter (fun row => row.user.orgId = orgId)).insertionSort
        (fun left right => left.user.email ≤ right.user.email)), tables)
  | .selectAgent orgId agentId =>
      (.ok (tables.agents.find? (fun row => row.orgId = orgId && row.agentId = agentId)), tables)
  | .selectAgents orgId =>
      (.ok ((tables.agents.filter (fun row => row.orgId = orgId)).insertionSort
        (fun left right => left.agentId ≤ right.agentId)), tables)
  | .selectAdapter orgId adapterId =>
      (.ok (tables.adapters.find? (fun row => row.orgId = orgId && row.adapterId = adapterId)),
        tables)
  | .selectAdapters orgId =>
      (.ok ((tables.adapters.filter (fun row => row.orgId = orgId)).insertionSort
        (fun left right => left.adapterId ≤ right.adapterId)), tables)
  | .upsertRefundState row => (.ok (), tables.upsertRefundState row)
  | .selectRefundState orgId =>
      (.ok (tables.refundState.filter (fun row => row.orgId = orgId)), tables)

/-! ### Methods -/

abbrev StoreProgram := Program StoreOp StoreReply PyError

def query (op : StoreOp) : StoreProgram (StoreReply op) := Program.perform op

/-- `except sqlite3.IntegrityError`. -/
def isIntegrityError (error : PyError) : Bool := error.kind == .other "IntegrityError"

/-- `except sqlite3.Error`: the call is reported as failed. -/
def guarded {Value : Type} (call : String) (body : StoreProgram Value) : StoreProgram Value :=
  body.rescue isSqliteError (fun _ => .raised ⟨.storeUnavailable, call ++ " failed"⟩)

/-- Insert and commit; a taken key goes on with `conflict`. -/
def insertGuarded {Value : Type} (call : String) (row : TableRow) (inserted : Value)
    (conflict : StoreProgram Value) : StoreProgram Value :=
  (query (.insert row)).attempt fun outcome =>
    match outcome with
    | .ok _ => pure inserted
    | .error error =>
        if isIntegrityError error then conflict
        else if isSqliteError error then .raised ⟨.storeUnavailable, call ++ " failed"⟩
        else .raised error

/-- A row that has to be there. -/
def found {Value : Type} (row : Option Value) (missing : PyError) : StoreProgram Value :=
  match row with
  | some row => pure row
  | none => .raised missing

namespace GatewayStore

/-- `create_organization`. -/
def createOrganization (orgId name : String) : StoreProgram Organization := do
  let now ← query .now
  let org ← .settle (Organization.build orgId name now)
  insertGuarded ("create_organization(" ++ pyRepr orgId ++ ")") (.organization org) org
    (.raised ⟨.organizationAlreadyExists, "organization " ++ pyRepr orgId ++ " already exists"⟩)

/-- `get_organization`. -/
def getOrganization (orgId : String) : StoreProgram Organization := do
  let row ← guarded ("get_organization(" ++ pyRepr orgId ++ ")")
    (query (.selectOrganization orgId))
  found row ⟨.organizationNotFound, "no such organization: " ++ pyRepr orgId⟩

/-- `list_organizations`. -/
def listOrganizations : StoreProgram (List Organization) :=
  guarded "list_organizations()" (query .selectOrganizations)

/-- `set_organization_status`. -/
def setOrganizationStatus (orgId : String) (status : OrganizationStatus) :
    StoreProgram Organization := do
  let rowcount ← guarded ("set_organization_status(" ++ pyRepr orgId ++ ")")
    (query (.updateOrganizationStatus orgId status))
  if rowcount = 0 then
    .raised ⟨.organizationNotFound, "no such organization: " ++ pyRepr orgId⟩
  else getOrganization orgId

/-- `require_active_organization`. -/
def requireActiveOrganization (orgId : String) : StoreProgram Organization := do
  let org ← getOrganization orgId
  if org.status = .active then pure org
  else .raised ⟨.organizationSuspended, "organization " ++ pyRepr orgId ++ " is suspended"⟩

structure UserRequest where
  userId : String
  email : String
  displayName : String
  password : String
  role : GatewayUserRole

/-- `_hash_password` with the salt in hexadecimal, and `json.dumps`, `json.loads` of the
payloads. -/
structure StoreCodec (Payload : Type) where
  hashPassword : String → String → String
  dumps : Payload → Except PyError String
  loads : String → Except PyError Payload

variable {Payload : Type} (codec : StoreCodec Payload)

/-- `create_user`. -/
def createUser (orgId : String) (request : UserRequest) : StoreProgram GatewayUser := do
  let _ ← requireActiveOrganization orgId
  let now ← query .now
  let user ← .settle (GatewayUser.build request.userId orgId request.email request.displayName
    request.role now)
  let salt ← query .tokenBytes
  insertGuarded ("create_user(" ++ pyRepr request.email ++ ")")
    (.user ⟨user, codec.hashPassword request.password salt, salt⟩) user
    (.raised ⟨.gatewayUserAlreadyExists, "user " ++ pyRepr request.email ++
      " already exists in organization " ++ pyRepr orgId⟩)

def UserKey.text : UserKey → String
  | .email text | .userId text => text

/-- `get_user` and `get_user_by_id`. -/
def getUserBy (method orgId : String) (key : UserKey) : StoreProgram GatewayUser := do
  let row ← guarded (method ++ "(" ++ pyRepr (UserKey.text key) ++ ")")
    (query (.selectUser orgId key))
  let row ← found row ⟨.gatewayUserNotFound, "no user " ++ pyRepr (UserKey.text key) ++
    " in organization " ++ pyRepr orgId⟩
  pure row.user

def getUser (orgId email : String) : StoreProgram GatewayUser :=
  getUserBy "get_user" orgId (.email email)

def getUserById (orgId userId : String) : StoreProgram GatewayUser :=
  getUserBy "get_user_by_id" orgId (.userId userId)

/-- `list_users`. -/
def listUsers (orgId : String) : StoreProgram (List GatewayUser) := do
  let _ ← requireActiveOrganization orgId
  let rows ← guarded ("list_users(" ++ pyRepr orgId ++ ")") (query (.selectUsers orgId))
  pure (rows.map UserRow.user)

def authenticationFailed : PyError := ⟨.gatewayAuthentication, "authentication failed"⟩

/-- `authenticate`. -/
def authenticate (orgId email password : String) : StoreProgram GatewayUser := do
  let row ← Program.rescue
    (do
      let _ ← requireActiveOrganization orgId
      guarded ("authenticate(" ++ pyRepr email ++ ")") (query (.selectUser orgId (.email email))))
    (fun error => error.kind ∈ [.organizationNotFound, .organizationSuspended])
    (fun _ => .raised authenticationFailed)
  let row ← found row authenticationFailed
  if codec.hashPassword password row.passwordSalt = row.passwordHash then pure row.user
  else .raised authenticationFailed

/-- `register_agent`. -/
def registerAgent (orgId agentId displayName : String) : StoreProgram GatewayAgent := do
  let _ ← requireActiveOrganization orgId
  let now ← query .now
  let agent ← .settle (GatewayAgent.build agentId orgId displayName now)
  let taken : PyError := ⟨.gatewayAgentAlreadyExists, "agent " ++ pyRepr agentId ++
    " already exists in organization " ++ pyRepr orgId⟩
  insertGuarded ("register_agent(" ++ pyRepr agentId ++ ")") (.agent agent) agent do
    let row ← query (.selectAgent orgId agentId)
    let row ← found row taken
    if row.displayName = displayName then pure row else .raised taken

/-- `get_agent`. -/
def getAgent (orgId agentId : String) : StoreProgram GatewayAgent := do
  let _ ← requireActiveOrganization orgId
  let row ← guarded ("get_agent(" ++ pyRepr agentId ++ ")") (query (.selectAgent orgId agentId))
  found row ⟨.gatewayAgentNotFound, "no agent " ++ pyRepr agentId ++ " in organization " ++
    pyRepr orgId⟩

/-- `list_agents`. -/
def listAgents (orgId : String) : StoreProgram (List GatewayAgent) := do
  let _ ← requireActiveOrganization orgId
  guarded ("list_agents(" ++ pyRepr orgId ++ ")") (query (.selectAgents orgId))

/-- `register_adapter`. -/
def registerAdapter (orgId adapterId adapterVersion : String) (effectTypes : List String) :
    StoreProgram GatewayAdapterRegistration := do
  let _ ← requireActiveOrganization orgId
  let now ← query .now
  let registration ← .settle (GatewayAdapterRegistration.build adapterId orgId adapterVersion
    (pySorted effectTypes) now)
  let taken : PyError := ⟨.gatewayAdapterAlreadyExists, "adapter " ++ pyRepr adapterId ++
    " already exists in organization " ++ pyRepr orgId⟩
  insertGuarded ("register_adapter(" ++ pyRepr adapterId ++ ")") (.adapter registration)
      registration do
    let row ← query (.selectAdapter orgId adapterId)
    let row ← found row taken
    if row.adapterVersion = adapterVersion ∧ row.effectTypes = registration.effectTypes then
      pure row
    else .raised taken

/-- `get_adapter`. -/
def getAdapter (orgId adapterId : String) : StoreProgram GatewayAdapterRegistration := do
  let _ ← requireActiveOrganization orgId
  let row ← guarded ("get_adapter(" ++ pyRepr adapterId ++ ")")
    (query (.selectAdapter orgId adapterId))
  found row ⟨.gatewayAdapterNotFound, "no adapter " ++ pyRepr adapterId ++ " in organization " ++
    pyRepr orgId⟩

/-- `list_adapters`. -/
def listAdapters (orgId : String) : StoreProgram (List GatewayAdapterRegistration) := do
  let _ ← requireActiveOrganization orgId
  guarded ("list_adapters(" ++ pyRepr orgId ++ ")") (query (.selectAdapters orgId))

/-- `put_refund_state`. -/
def putRefundState (orgId bucket itemKey : String) (payload : Payload) : StoreProgram Unit := do
  let _ ← query .now
  guarded ("put_refund_state(" ++ pyRepr orgId ++ ", " ++ pyRepr bucket ++ ", " ++
      pyRepr itemKey ++ ")") do
    let payloadJson ← .settle (codec.dumps payload)
    query (.upsertRefundState ⟨orgId, bucket, itemKey, payloadJson⟩)

/-- `load_refund_state`: the items of each bucket, by key. -/
def loadRefundState (orgId : String) : StoreProgram (List (String × String × Payload)) := do
  let rows ← guarded ("load_refund_state(" ++ pyRepr orgId ++ ")")
    (query (.selectRefundState orgId))
  .settle (rows.mapM fun row => do
    let payload ← codec.loads row.payloadJson
    pure (row.bucket, row.itemKey, payload))

end GatewayStore

end KarmaSakshi.Gateway
