import Mathlib.Data.List.Infix
import KarmaSakshi.Gateway.StoreRuns

/-!
The bootstrap of an organization: its row, its owner and its tenant.

The handler is a program over the statements of the store and the steps of the control
plane, whose registry and states are maps of the process.
-/

namespace KarmaSakshi.Gateway

open EffectProgram KarmaSakshi.Domain

set_option autoImplicit false

/-! ### Organization ids -/

/-- `MAX_ORG_ID_LENGTH`. -/
def maxOrgIdLength : Nat := 64

/-- `RESERVED_WINDOWS_NAMES`. -/
def reservedWindowsNames : List String :=
  ["con", "prn", "aux", "nul"] ++
    (List.range 9).map (fun digit => "com" ++ toString (digit + 1)) ++
      (List.range 9).map (fun digit => "lpt" ++ toString (digit + 1))

/-- `[a-z0-9]`. -/
def lowerAlphanumeric (letter : Char) : Prop :=
  'a' ≤ letter ∧ letter ≤ 'z' ∨ '0' ≤ letter ∧ letter ≤ '9'

instance (letter : Char) : Decidable (lowerAlphanumeric letter) :=
  inferInstanceAs (Decidable (_ ∧ _ ∨ _ ∧ _))

/-- `_ORG_ID_RE`, for a text without a newline. -/
def orgIdPattern (text : String) : Prop :=
  text ≠ "" ∧ text.length ≤ 64 ∧
    text.toList.all (fun letter => lowerAlphanumeric letter ∨ letter = '-') ∧
      text.toList.head? ≠ some '-' ∧ text.toList.getLast? ≠ some '-'

instance (text : String) : Decidable (orgIdPattern text) :=
  inferInstanceAs (Decidable (_ ∧ _ ∧ _ ∧ _ ∧ _))

private def invalidOrgId (rule : String) : Except PyError String :=
  .error ⟨.invalidOrganizationId, "organization id " ++ rule⟩

/-- `validate_canonical_org_id`; `nfkc` is `unicodedata.normalize("NFKC", ·)`. -/
def validateCanonicalOrgId (nfkc : String → String) (value : String) : Except PyError String :=
  if value = "" then invalidOrgId "must be a non-empty string"
  else if maxOrgIdLength < value.length then
    invalidOrgId ("must be " ++ toString maxOrgIdLength ++ " characters or fewer")
  else if value.toList.any (fun letter => letter.toNat < 0x20 ∨ letter = '\x7f') then
    invalidOrgId "must not contain control characters"
  else if nfkc value ≠ value then
    invalidOrgId "must already be in normalized (NFKC) ASCII form"
  else if '/' ∈ value.toList ∨ '\\' ∈ value.toList then
    invalidOrgId "must not contain a path separator"
  else if ['.', '.'] <:+: value.toList then
    invalidOrgId "must not contain a traversal sequence"
  else if ':' ∈ value.toList then
    invalidOrgId "must not contain a drive letter or scheme prefix"
  else if ¬ orgIdPattern value then
    invalidOrgId ("must be 1-64 lowercase ASCII letters, digits, or " ++
      "internal hyphens, and must not start or end with a hyphen")
  else if value ∈ reservedWindowsNames then
    invalidOrgId "collides with a reserved Windows device name"
  else .ok value

/-- What `Tenant.__post_init__` leaves to check of a tenant that is created active. -/
structure Tenant where
  tenantId : String
  displayName : String
  createdAt : Instant

def Tenant.build (nfkc : String → String) (tenantId displayName : String)
    (createdAt : Instant) : Except PyError Tenant := do
  let _ ← validateCanonicalOrgId nfkc tenantId
  if boundedText 256 displayName then .ok ⟨tenantId, displayName, createdAt⟩
  else .error ⟨.other "ValueError", "display_name must be 1-256 chars"⟩

inductive BootstrapOp : Type where
  | store (op : StoreOp)
  | registryGet (tenantId : String)
  | registryRegister (tenant : Tenant)
  /-- Resolve and make the tenant's directory and build its state there. -/
  | buildState (tenantId : String)
  | assignState (tenantId : String)

abbrev BootstrapReply : BootstrapOp → Type
  | .store op => StoreReply op
  | .registryGet _ => Option Tenant
  | .registryRegister _ | .buildState _ | .assignState _ => Unit

abbrev BootstrapProgram := Program BootstrapOp BootstrapReply PyError

variable {Value : Type}

def control (op : BootstrapOp) : BootstrapProgram (BootstrapReply op) := Program.perform op

namespace MultiTenantControlPlane

/-- `_build_state`. -/
def buildState (nfkc : String → String) (tenantId : String) : BootstrapProgram Unit := do
  let _ ← .settle (validateCanonicalOrgId nfkc tenantId)
  control (.buildState tenantId)

end MultiTenantControlPlane

/-- `OrganizationBootstrapIn`: its validator has accepted the id. -/
structure BootstrapRequest (nfkc : String → String) where
  orgId : String
  name : String
  ownerEmail : String
  ownerDisplayName : String
  ownerPassword : String
  canonical : validateCanonicalOrgId nfkc orgId = .ok orgId

namespace BootstrapRequest

variable {nfkc : String → String} (request : BootstrapRequest nfkc)

/-- The arguments of `create_user` for the owner. -/
def owner : GatewayStore.UserRequest where
  userId := request.orgId ++ "-owner"
  email := request.ownerEmail
  displayName := request.ownerDisplayName
  password := request.ownerPassword
  role := .owner

end BootstrapRequest

def httpError (status : Nat) (error : PyError) : PyError := ⟨.httpException status, error.message⟩

variable {Payload : Type} {nfkc : String → String}

/-- The registry and the states of the control plane, and the database. -/
structure BootstrapWorld where
  store : StoreWorld
  registry : String → Option Tenant
  states : String → Bool

end KarmaSakshi.Gateway
