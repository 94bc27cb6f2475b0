import KarmaSakshi.Domain.Quorum
import KarmaSakshi.Library.Json

/-!
Two payments officers: a collision-free digest of statements, and approvals signed
under it.

A digest is the JSON text of what it is taken of, a signature names its key and what
it signs.
-/

namespace KarmaSakshi.Domain

open Json (Document CodeUnit)

set_option autoImplicit false

namespace Officers

def spelled (text : String) : Document (List CodeUnit) := .text (Json.units (Json.ofString text))

def spelledOption : Option String → Document (List CodeUnit)
  | none => .null
  | some text => spelled text

def principalName : PrincipalType → String
  | .human => "human"
  | .service => "service"
  | .agent => "agent"

def spelledPrincipal (principal : Principal) : Document (List CodeUnit) :=
  .array [spelled principal.principalId, spelled (principalName principal.principalType),
    spelledOption principal.displayName]

/-- The JSON form of the fields of a statement. -/
def spelledStatement (statement : ApprovalStatement) : Document (List CodeUnit) :=
  .array [spelled statement.schemaVersion, spelled statement.statementId,
    spelled statement.manifestHash, spelled statement.approvalPolicyBundleHash,
    spelledPrincipal statement.approver, spelledOption statement.role,
    .bool (statement.decision = .approve), spelledOption statement.reason,
    .int statement.signedAt, .int statement.expiresAt, spelled statement.nonce,
    spelled statement.keyId, spelledOption statement.signature]

def digests : ApprovalPrimitives where
  statementDigest := fun statement => String.ofList (spelledStatement statement).print
  setDigest := fun hashes => String.ofList (Document.array (hashes.map spelled)).print

theorem spelled_injective : Function.Injective spelled := by
  intro text other same
  exact Json.units_of_string_injective (Document.text.inj same)

theorem spelled_option_injective : Function.Injective spelledOption := by
  intro text other same
  cases text with
  | none =>
      cases other with
      | none => rfl
      | some otherText => cases same
  | some text =>
      cases other with
      | none => cases same
      | some otherText => rw [spelled_injective same]

theorem spelled_principal_injective : Function.Injective spelledPrincipal := by
  intro principal other same
  obtain ⟨id, type, name⟩ := principal
  obtain ⟨otherId, otherType, otherName⟩ := other
  simp only [spelledPrincipal, Document.array.injEq, List.cons.injEq, and_true] at same
  obtain ⟨ids, types, names⟩ := same
  have typesSame : type = otherType := by
    have spelledTypes := spelled_injective types
    revert spelledTypes
    cases type <;> cases otherType <;> decide
  rw [spelled_injective ids, typesSame, spelled_option_injective names]

theorem spelled_statement_injective : Function.Injective spelledStatement := by
  intro statement other same
  simp only [spelledStatement, Document.array.injEq, List.cons.injEq, and_true, Document.int.injEq,
    Document.bool.injEq, decide_eq_decide] at same
  obtain ⟨schema, ids, manifests, bundles, approvers, roles, decisions, reasons, signed, expires,
    nonces, keys, signatures⟩ := same
  have decided : statement.decision = other.decision := by
    cases first : statement.decision with
    | approve => exact (decisions.mp first).symm
    | dissent =>
        cases second : other.decision with
        | approve => cases first.symm.trans (decisions.mpr second)
        | dissent => rfl
  cases statement
  cases other
  simp only at *
  obtain rfl := spelled_injective schema
  obtain rfl := spelled_injective ids
  obtain rfl := spelled_injective manifests
  obtain rfl := spelled_injective bundles
  obtain rfl := spelled_principal_injective approvers
  obtain rfl := spelled_option_injective roles
  obtain rfl := spelled_option_injective reasons
  obtain rfl := spelled_injective nonces
  obtain rfl := spelled_injective keys
  obtain rfl := spelled_option_injective signatures
  subst signed expires decided
  rfl

theorem statement_digest_injective : Function.Injective digests.statementDigest := by
  intro statement other same
  exact spelled_statement_injective (Document.print_injective (String.ofList_injective same))

theorem set_digest_injective : Function.Injective digests.setDigest := by
  intro hashes others same
  have lists := Document.array.inj (Document.print_injective (String.ofList_injective same))
  exact List.map_injective_iff.mpr spelled_injective lists

/-! ### Signed statements -/

def crypto : CryptoPrimitives where
  manifestDigest := fun _ => ""
  grantDigest := fun _ => ""
  policyBundleDigest := fun _ => ""
  decisionEnvelopeDigest := fun _ => ""
  causalGraphDigest := fun _ => ""
  causalLinkPayload := fun _ => ""
  isBase64 := fun _ => true
  ed25519Verify := fun publicKey data signature => decide (signature = publicKey ++ data)

def manifestHash : String :=
  "sha256:dde313528cbac6d583f419db06e1f709f4186db725f4ba469e9a007121c3d6b8"

def bundleHash : String :=
  "sha256:4981e719d2877ce565d3131594bcab8995a47cbf742119837a6eaa593c3014bf"

def signed (statement : ApprovalStatement) : ApprovalStatement :=
  { statement with signature := some (statement.keyId ++ statement.canonicalHash digests) }

theorem manifest_hash_digest : isDigest manifestHash := by decide

theorem day_open : (1767225600000000 : Instant) < 1767312000000000 := by decide

theorem first_version_dotted : '.' ∈ "1.0".toList := by decide

theorem considered_bounded : 1 ≤ 32 ∧ 32 ≤ 128 := by decide

def approval : ApprovalStatement where
  schemaVersion := "1.0"
  statementId := "statement-1"
  manifestHash := manifestHash
  approvalPolicyBundleHash := bundleHash
  approver := ⟨"alice", .human, none⟩
  role := some "finance"
  decision := .approve
  reason := none
  signedAt := 1767225600000000
  expiresAt := 1767312000000000
  nonce := "nonce-1"
  keyId := "alice-key"
  signature := none
  statementIdBounded := by decide
  manifestHashShape := manifest_hash_digest
  bundleHashShape := by decide
  windowOpen := day_open

/-- The same approver at the same time under the same id. -/
def objection : ApprovalStatement := { approval with decision := .dissent, nonce := "nonce-2" }

def secondApproval : ApprovalStatement :=
  { approval with
    statementId := "statement-2"
    approver := ⟨"bob", .human, none⟩
    role := some "risk"
    nonce := "nonce-3"
    keyId := "bob-key"
    statementIdBounded := by decide }

/-- One approval is enough. -/
def quorumSize : Nat := 1

def policy : ApprovalPolicy where
  policyId := "default"
  policyVersion := "1.0"
  requiredApprovals := quorumSize
  requiredRoles := ["finance"]
  forbidProposerAsApprover := true
  forbidSubjectAsApprover := true
  vetoOnAnyDissent := true
  coolingOffSeconds := 0
  maxStatementsConsidered := 100
  policyIdBounded := by decide
  requiredApprovalsPositive := by decide
  enoughConsidered := by decide
  requiredRolesDistinct := by decide

def question : QuorumQuestion where
  manifestHash := manifestHash
  approvalPolicyBundleHash := bundleHash
  keyring := ⟨fun keyId => if keyId ∈ ["alice-key", "bob-key"] then some ⟨keyId, keyId⟩ else none⟩
  proposer := ⟨"agent-1", .agent, none⟩
  subject := ⟨"agent-1", .agent, none⟩
  now := 1767229200000000

/-- A statement on the question's manifest and bundle, signed by an officer in time. -/
structure Submitted (draft : ApprovalStatement) : Prop where
  manifest : draft.manifestHash = manifestHash
  bundle : draft.approvalPolicyBundleHash = bundleHash
  officer : draft.approver.principalType = .human ∧ draft.approver.principalId ≠ "agent-1"
  key : draft.keyId ∈ ["alice-key", "bob-key"]
  schema : draft.schemaVersion = "1.0"
  inTime : question.now ≤ draft.expiresAt

theorem signed_survives {draft : ApprovalStatement} (submitted : Submitted draft) :
    Survives crypto digests policy question (signed draft) := by
  refine ⟨submitted.manifest, submitted.bundle, ?_, fun _ => submitted.officer.2,
    fun _ => submitted.officer.2, ⟨?_, _, ⟨draft.keyId, draft.keyId⟩, rfl, ?_, rfl, ?_⟩,
    submitted.inTime⟩
  · show draft.approver.principalType ≠ .agent
    rw [submitted.officer.1]
    decide
  · show assertSupportedSchemaVersion draft.schemaVersion = .ok ()
    rw [submitted.schema]
    decide
  · exact if_pos submitted.key
  · exact decide_eq_true rfl

theorem approval_submitted : Submitted approval := by
  constructor <;> decide

theorem objection_submitted : Submitted objection := by
  constructor <;> decide

theorem second_approval_submitted : Submitted secondApproval := by
  constructor <;> decide

end Officers

end KarmaSakshi.Domain
