import KarmaSakshi.Domain.Witness
import KarmaSakshi.Guarantees.QuorumOrder

/-!
The witness quorum and the order of the statements.

The verdict is a function of who witnesses: of the set of witnesses with a surviving
statement.  Reordering or replaying statements leaves that set alone.
-/

namespace KarmaSakshi.Guarantees

open KarmaSakshi.Domain Selection
open KarmaSakshi.Domain.WitnessStatement (witnessId rank)

set_option autoImplicit false

section Order

variable (crypto : CryptoPrimitives) (primitives : WitnessPrimitives) (policy : WitnessPolicy)
  (question : WitnessQuestion)

/-- The same verdict, apart from the reasons of the statements that were turned down. -/
structure SameWitnesses (first second : WitnessQuorumResult) : Prop where
  satisfied : first.satisfied = second.satisfied
  accepted : first.acceptedWitnessIds = second.acceptedWitnessIds
  setHash : first.witnessSetHash = second.witnessSetHash

inductive SameWitnessOutcome :
    Except PyError WitnessQuorumResult → Except PyError WitnessQuorumResult → Prop where
  | verdict {first second : WitnessQuorumResult} (same : SameWitnesses first second) :
      SameWitnessOutcome (.ok first) (.ok second)
  | refused (error : PyError) : SameWitnessOutcome (.error error) (.error error)

/-- A permutation of the statements, some of them repeated if the limit allows. -/
structure Replays (limit : Nat) (statements other : List WitnessStatement) : Prop where
  copied : ∃ copies, (∀ statement ∈ copies, statement ∈ statements) ∧
    other.Perm (statements ++ copies) ∧ (copies = [] ∨ other.length ≤ limit)

variable {crypto primitives policy question} {statements other : List WitnessStatement}

theorem Replays.members {limit : Nat} (replays : Replays limit statements other)
    (statement : WitnessStatement) : statement ∈ statements ↔ statement ∈ other := by
  obtain ⟨copies, copied, permuted, _⟩ := replays.copied
  rw [permuted.mem_iff, List.mem_append]
  constructor
  · exact Or.inl
  · rintro (original | copy)
    · exact original
    · exact copied statement copy

/-- The counted witnesses depend on which statements there are, not on where or how often. -/
theorem accepted_ids_of_members
    (members : ∀ statement, statement ∈ statements ↔ statement ∈ other) :
    (authoritativeStatements (witnessSurvivors crypto primitives policy question
        statements)).map witnessId =
      (authoritativeStatements (witnessSurvivors crypto primitives policy question
        other)).map witnessId := by
  apply same_sorted accepted_ids_sorted accepted_ids_sorted
  intro witness
  rw [mem_accepted_ids, mem_accepted_ids, List.mem_map, List.mem_map]
  simp only [mem_witness_survivors, members]

theorem evaluated_alike (within : statements.length ≤ policy.maxStatementsConsidered)
    (otherWithin : other.length ≤ policy.maxStatementsConsidered)
    (members : ∀ statement, statement ∈ statements ↔ statement ∈ other) :
    SameWitnessOutcome (evaluateWitnessQuorum crypto primitives policy question statements)
      (evaluateWitnessQuorum crypto primitives policy question other) := by
  have ids := @accepted_ids_of_members crypto primitives policy question _ _ members
  have counts := congrArg List.length ids
  rw [List.length_map, List.length_map] at counts
  rw [evaluateWitnessQuorum, evaluateWitnessQuorum, if_neg (not_lt.mpr within),
    if_neg (not_lt.mpr otherWithin)]
  apply SameWitnessOutcome.verdict
  constructor
  · simp only [counts]
  · exact ids
  · simp only [counts, ids]

end Order

/-- A witness quorum is evaluated alike however its statements are ordered and replayed, and
counts nobody twice. -/
theorem witness_quorum_order_free (crypto : CryptoPrimitives) (primitives : WitnessPrimitives)
    (policy : WitnessPolicy) (question : WitnessQuestion)
    {statements other : List WitnessStatement}
    (replays : Replays policy.maxStatementsConsidered statements other) :
    SameWitnessOutcome (evaluateWitnessQuorum crypto primitives policy question statements)
        (evaluateWitnessQuorum crypto primitives policy question other) ∧
      ∀ result, evaluateWitnessQuorum crypto primitives policy question statements = .ok result →
        result.acceptedWitnessIds.Nodup ∧
          (result.satisfied = true ↔
            policy.requiredWitnesses ≤ result.acceptedWitnessIds.length) := by
  obtain ⟨copies, _, permuted, limited⟩ := replays.copied
  by_cases within : statements.length ≤ policy.maxStatementsConsidered
  · constructor
    · apply evaluated_alike within _ replays.members
      rcases limited with none | enough
      · rw [permuted.length_eq, none, List.append_nil]
        exact within
      · exact enough
    · intro result evaluated
      rw [evaluateWitnessQuorum, if_neg (not_lt.mpr within)] at evaluated
      rw [← Except.ok.inj evaluated]
      refine ⟨accepted_ids_sorted.imp ne_of_lt, decide_eq_true_iff.trans ?_⟩
      rw [List.length_map]
  · have oversized := not_le.mp within
    constructor
    · have same : other.length = statements.length := by
        rcases limited with rfl | enough
        · rw [permuted.length_eq, List.append_nil]
        · rw [permuted.length_eq, List.length_append] at enough
          omega
      rw [evaluateWitnessQuorum, evaluateWitnessQuorum, same, if_pos oversized, if_pos oversized]
      exact .refused _
    · intro result evaluated
      rw [evaluateWitnessQuorum, if_pos oversized] at evaluated
      cases evaluated

/-! ### An inspector -/

namespace Inspection

open KarmaSakshi.Domain.Officers (spelled spelledOption spelledPrincipal)

def digests : WitnessPrimitives where
  statementDigest := fun statement => String.ofList (Json.Document.array
    [spelled statement.schemaVersion, spelled statement.statementId,
      spelled statement.manifestHash, spelled statement.witnessPolicyHash,
      spelled statement.observedAfterStateDigest, .bool statement.matchedExpected,
      spelledPrincipal statement.witness, .int statement.signedAt, .int statement.expiresAt,
      spelled statement.nonce, spelled statement.keyId, spelledOption statement.signature]).print
  policyDigest := fun _ =>
    "sha256:bdc97a12982dc1bffb21ff924794b01f177b59182e9964cc10d2a34ae4f056b9"
  setDigest := fun _ =>
    "sha256:20d9fbd575e2fec02d7c5acbc8da6d06e497593306544cfe517227f59793fb77"

def policy : WitnessPolicy where
  policyId := "default-witness"
  policyVersion := "1.0"
  requiredWitnesses := 1
  forbidActorAsWitness := true
  forbidSubjectAsWitness := true
  requireMatchedExpected := true
  maxStatementsConsidered := 32
  policyIdBounded := by decide
  policyVersionDotted := Officers.first_version_dotted
  requiredWitnessesBounded := by decide
  statementsBounded := Officers.considered_bounded

def question : WitnessQuestion where
  manifestHash := Officers.manifestHash
  expectedAfterStateDigest := Officers.bundleHash
  actor := ⟨"agent-1", .agent, none⟩
  subject := ⟨"agent-1", .agent, none⟩
  keyring := ⟨fun keyId => if keyId = "inspector-key" then some ⟨keyId, keyId⟩ else none⟩
  now := 1767229200000000

def sighting : WitnessStatement where
  schemaVersion := "1.0"
  statementId := "sighting-1"
  manifestHash := Officers.manifestHash
  witnessPolicyHash := "sha256:bdc97a12982dc1bffb21ff924794b01f177b59182e9964cc10d2a34ae4f056b9"
  observedAfterStateDigest := Officers.bundleHash
  matchedExpected := true
  witness := ⟨"inspector", .human, none⟩
  signedAt := 1767225600000000
  expiresAt := 1767312000000000
  nonce := "nonce-1"
  keyId := "inspector-key"
  signature := none
  statementIdBounded := by decide
  nonceBounded := by decide
  keyIdBounded := by decide
  manifestHashShape := Officers.manifest_hash_digest
  policyHashShape := by decide
  digestBounded := by decide
  windowOpen := Officers.day_open

/-- A second look, a minute later, that does not find the expected state. -/
def retraction : WitnessStatement :=
  { sighting with
    statementId := "sighting-2"
    matchedExpected := false
    signedAt := 1767225660000000
    nonce := "nonce-2"
    statementIdBounded := by decide
    nonceBounded := by decide
    windowOpen := by decide }

def signed (statement : WitnessStatement) : WitnessStatement :=
  { statement with signature := some (statement.keyId ++ statement.canonicalHash digests) }

/-- The inspector's key verifies what it signed. -/
theorem signed_verifies {statement : WitnessStatement} (schema : statement.schemaVersion = "1.0")
    (key : statement.keyId = "inspector-key") :
    verifyWitnessStatementSignature Officers.crypto digests (signed statement) question.keyring =
      .ok () := by
  have supported : assertSupportedSchemaVersion (signed statement).schemaVersion = .ok () := by
    show assertSupportedSchemaVersion statement.schemaVersion = .ok ()
    rw [schema]
    decide
  have known : question.keyring.keys (signed statement).keyId =
      some ⟨statement.keyId, statement.keyId⟩ := if_pos key
  have verifies : question.keyring.verify Officers.crypto (signed statement).keyId
      ((signed statement).canonicalHash digests)
      (statement.keyId ++ statement.canonicalHash digests) = .ok () := by
    rw [keyring_verifies]
    exact ⟨_, known, rfl, decide_eq_true rfl⟩
  exact except_bind_of_ok supported verifies

theorem sighting_genuine :
    Genuine Officers.crypto digests policy question (signed sighting) where
  manifest := rfl
  policyHash := rfl
  signed := signed_verifies rfl rfl
  unexpired := by decide

theorem retraction_genuine :
    Genuine Officers.crypto digests policy question (signed retraction) where
  manifest := rfl
  policyHash := rfl
  signed := signed_verifies rfl rfl
  unexpired := by decide

theorem sighting_survives {statements : List WitnessStatement}
    (member : signed sighting ∈ statements) :
    signed sighting ∈ witnessSurvivors Officers.crypto digests policy question statements := by
  refine mem_witness_survivors.mpr ⟨member, sighting_genuine, ⟨rfl, fun _ => rfl⟩, ?_, ?_, ?_⟩
  · show PrincipalType.human ≠ .agent
    decide
  · intro _
    show "inspector" ≠ "agent-1"
    decide
  · intro _
    show "inspector" ≠ "agent-1"
    decide

end Inspection

/-- A sighting that is sent twice counts as once. -/
theorem replayed_sighting_counts_once :
    SameWitnessOutcome
      (evaluateWitnessQuorum Officers.crypto Inspection.digests Inspection.policy
        Inspection.question [Inspection.signed Inspection.sighting])
      (evaluateWitnessQuorum Officers.crypto Inspection.digests Inspection.policy
        Inspection.question
        [Inspection.signed Inspection.sighting, Inspection.signed Inspection.sighting]) := by
  apply (witness_quorum_order_free Officers.crypto Inspection.digests Inspection.policy
    Inspection.question ?_).1
  exact ⟨[Inspection.signed Inspection.sighting], fun _ member => member, List.Perm.refl _,
    Or.inr (by decide)⟩

end KarmaSakshi.Guarantees
