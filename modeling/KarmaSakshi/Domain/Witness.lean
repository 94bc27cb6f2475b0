import KarmaSakshi.Domain.Quorum

/-!
Independent witness statements and the evaluation of a witness quorum.

A witness attests to what was observed after the commit.  A statement survives when
nothing turns it down; per witness the latest surviving statement is authoritative,
and the quorum counts witnesses.
-/

namespace KarmaSakshi.Domain

open Selection

set_option autoImplicit false

structure WitnessStatement where
  schemaVersion : String
  statementId : String
  manifestHash : String
  witnessPolicyHash : String
  observedAfterStateDigest : String
  matchedExpected : Bool
  witness : Principal
  signedAt : Instant
  expiresAt : Instant
  nonce : String
  keyId : String
  signature : Option String
  statementIdBounded : boundedText 128 statementId
  nonceBounded : boundedText 128 nonce
  keyIdBounded : boundedText 128 keyId
  manifestHashShape : isDigest manifestHash
  policyHashShape : isDigest witnessPolicyHash
  digestBounded : boundedText 256 observedAfterStateDigest
  windowOpen : signedAt < expiresAt

structure WitnessPolicy where
  policyId : String
  policyVersion : String
  requiredWitnesses : Nat
  forbidActorAsWitness : Bool
  forbidSubjectAsWitness : Bool
  requireMatchedExpected : Bool
  maxStatementsConsidered : Nat
  policyIdBounded : boundedText 128 policyId
  policyVersionDotted : '.' ∈ policyVersion.toList
  requiredWitnessesBounded : 1 ≤ requiredWitnesses ∧ requiredWitnesses ≤ 16
  statementsBounded : 1 ≤ maxStatementsConsidered ∧ maxStatementsConsidered ≤ 128

structure WitnessQuorumResult where
  satisfied : Bool
  witnessPolicyHash : String
  witnessSetHash : Option String
  acceptedWitnessIds : List String
  rejectionReasons : List String

/-- What the hash of an accepted witness set covers. -/
structure WitnessSet where
  manifestHash : String
  witnessPolicyHash : String
  digest : String
  witnesses : List String

/-- The canonical hashes of statements, policies and witness sets. -/
structure WitnessPrimitives where
  statementDigest : WitnessStatement → String
  policyDigest : WitnessPolicy → String
  setDigest : WitnessSet → String

/-- What a witness quorum is evaluated for. -/
structure WitnessQuestion where
  manifestHash : String
  expectedAfterStateDigest : String
  actor : Principal
  subject : Principal
  keyring : Keyring
  now : Instant

namespace WitnessStatement

def witnessId (statement : WitnessStatement) : String := statement.witness.principalId

/-- The key `(signed_at, statement_id)`. -/
def rank (statement : WitnessStatement) : Int ×ₗ String :=
  toLex (statement.signedAt, statement.statementId)

/-- The hash of the signing payload, which leaves the signature out. -/
def canonicalHash (primitives : WitnessPrimitives) (statement : WitnessStatement) : String :=
  primitives.statementDigest { statement with signature := none }

end WitnessStatement

open WitnessStatement (witnessId rank)

variable (crypto : CryptoPrimitives) (primitives : WitnessPrimitives)

def verifyWitnessStatementSignature (statement : WitnessStatement) (keyring : Keyring) :
    Except PyError Unit := do
  assertSupportedSchemaVersion statement.schemaVersion
  match statement.signature with
  | none => .error ⟨.invalidSignature,
      "witness statement " ++ statement.statementId ++ " is unsigned"⟩
  | some signature =>
      keyring.verify crypto statement.keyId (statement.canonicalHash primitives) signature

def verifyWitnessStatementTimeWindow (statement : WitnessStatement) (now : Instant) :
    Except PyError Unit :=
  if statement.expiresAt < now then
    .error ⟨.witnessExpired, "witness statement " ++ statement.statementId ++ " expired at " ++
      statement.expiresAt.isoformat⟩
  else .ok ()

variable (policy : WitnessPolicy) (question : WitnessQuestion)

/-- `_reject_reason`: why a statement does not count, if there is a reason. -/
def witnessRejectReason (statement : WitnessStatement) : Option String :=
  if statement.manifestHash ≠ question.manifestHash then some "manifest_hash mismatch"
  else if statement.witnessPolicyHash ≠ primitives.policyDigest policy then
    some "witness_policy_hash mismatch"
  else if statement.observedAfterStateDigest ≠ question.expectedAfterStateDigest then
    some "observed_after_state_digest mismatch"
  else if policy.requireMatchedExpected ∧ statement.matchedExpected = false then
    some "matched_expected must be true"
  else if statement.witness.principalType = .agent then some "agent principals cannot witness"
  else if policy.forbidActorAsWitness ∧
      statement.witness.principalId = question.actor.principalId then
    some "actor cannot witness its own effect"
  else if policy.forbidSubjectAsWitness ∧
      statement.witness.principalId = question.subject.principalId then
    some "subject/executor cannot witness its own effect"
  else
    match verifyWitnessStatementSignature crypto primitives statement question.keyring with
    | .error error => some error.message
    | .ok _ =>
        match verifyWitnessStatementTimeWindow statement question.now with
        | .error error => some error.message
        | .ok _ => none

def witnessSurvivors (statements : List WitnessStatement) : List WitnessStatement :=
  statements.filter (fun statement =>
    witnessRejectReason crypto primitives policy question statement = none)

def witnessRejections (statements : List WitnessStatement) : List String :=
  statements.filterMap (fun statement =>
    (witnessRejectReason crypto primitives policy question statement).map
      (fun reason => statement.statementId ++ ":" ++ reason))

/-- Per witness the latest of its survivors, the first of several latest ones; by witness. -/
def authoritativeStatements (survivors : List WitnessStatement) : List WitnessStatement :=
  (chosen witnessId rank survivors).mergeSort (fun left right => left.witnessId ≤ right.witnessId)

def evaluateWitnessQuorum (statements : List WitnessStatement) :
    Except PyError WitnessQuorumResult :=
  if policy.maxStatementsConsidered < statements.length then
    .error ⟨.witnessBatchTooLarge, "received " ++ toString statements.length ++
      " witness statements; max_statements_considered=" ++
      toString policy.maxStatementsConsidered⟩
  else
    let authoritative := authoritativeStatements
      (witnessSurvivors crypto primitives policy question statements)
    let acceptedIds := authoritative.map witnessId
    let satisfied := decide (policy.requiredWitnesses ≤ authoritative.length)
    .ok
      { satisfied
        witnessPolicyHash := primitives.policyDigest policy
        witnessSetHash := if satisfied then
          some (primitives.setDigest
            { manifestHash := question.manifestHash
              witnessPolicyHash := primitives.policyDigest policy
              digest := question.expectedAfterStateDigest
              witnesses := acceptedIds })
          else none
        acceptedWitnessIds := acceptedIds
        rejectionReasons :=
          pySorted (witnessRejections crypto primitives policy question statements) }

/-! ### What a statement must be to survive -/

/-- The statement attests the expected digest and, where required, a match. -/
structure Favourable (statement : WitnessStatement) : Prop where
  digest : statement.observedAfterStateDigest = question.expectedAfterStateDigest
  matched : policy.requireMatchedExpected = true → statement.matchedExpected = true

/-- The witness may attest to this effect. -/
structure MayWitness (statement : WitnessStatement) : Prop where
  notAgent : statement.witness.principalType ≠ .agent
  notActor : policy.forbidActorAsWitness = true →
    statement.witness.principalId ≠ question.actor.principalId
  notSubject : policy.forbidSubjectAsWitness = true →
    statement.witness.principalId ≠ question.subject.principalId

/-- A validly signed, unexpired statement about the manifest and the policy. -/
structure Genuine (statement : WitnessStatement) : Prop where
  manifest : statement.manifestHash = question.manifestHash
  policyHash : statement.witnessPolicyHash = primitives.policyDigest policy
  signed : verifyWitnessStatementSignature crypto primitives statement question.keyring = .ok ()
  unexpired : question.now ≤ statement.expiresAt

variable {crypto primitives policy question} {statement : WitnessStatement}
  {statements survivors : List WitnessStatement}

theorem witness_window_verifies {now : Instant} :
    verifyWitnessStatementTimeWindow statement now = .ok () ↔ now ≤ statement.expiresAt := by
  unfold verifyWitnessStatementTimeWindow
  by_cases expired : statement.expiresAt < now
  · simp [expired]
  · simp [expired, not_lt.mp expired]

theorem witness_kept_iff :
    witnessRejectReason crypto primitives policy question statement = none ↔
      Genuine crypto primitives policy question statement ∧
        Favourable policy question statement ∧ MayWitness policy question statement := by
  unfold witnessRejectReason
  split_ifs with manifest policyHash digest unmatched agent actor subject
  · exact iff_of_false not_false (fun kept => manifest kept.1.manifest)
  · exact iff_of_false not_false (fun kept => policyHash kept.1.policyHash)
  · exact iff_of_false not_false (fun kept => digest kept.2.1.digest)
  · refine iff_of_false not_false (fun kept => ?_)
    cases unmatched.2.symm.trans (kept.2.1.matched unmatched.1)
  · exact iff_of_false not_false (fun kept => kept.2.2.notAgent agent)
  · exact iff_of_false not_false (fun kept => kept.2.2.notActor actor.1 actor.2)
  · exact iff_of_false not_false (fun kept => kept.2.2.notSubject subject.1 subject.2)
  · cases signed : verifyWitnessStatementSignature crypto primitives statement
        question.keyring with
    | error error =>
        refine iff_of_false (by simp) (fun kept => ?_)
        cases signed.symm.trans kept.1.signed
    | ok done =>
        cases window : verifyWitnessStatementTimeWindow statement question.now with
        | error error =>
            refine iff_of_false (by simp) (fun kept => ?_)
            cases window.symm.trans (witness_window_verifies.mpr kept.1.unexpired)
        | ok done =>
            refine iff_of_true (by simp) ⟨⟨not_not.mp manifest, not_not.mp policyHash, signed,
              witness_window_verifies.mp window⟩, ⟨not_not.mp digest, ?_⟩, agent, ?_, ?_⟩
            · intro required
              by_contra differs
              exact unmatched ⟨required, Bool.eq_false_iff.mpr differs⟩
            · exact fun forbids same => actor ⟨forbids, same⟩
            · exact fun forbids same => subject ⟨forbids, same⟩

theorem mem_witness_survivors :
    statement ∈ witnessSurvivors crypto primitives policy question statements ↔
      statement ∈ statements ∧ Genuine crypto primitives policy question statement ∧
        Favourable policy question statement ∧ MayWitness policy question statement := by
  rw [witnessSurvivors, List.mem_filter, decide_eq_true_eq, witness_kept_iff]

/-! ### The authoritative statements -/

theorem mem_authoritative :
    statement ∈ authoritativeStatements survivors ↔ statement ∈ chosen witnessId rank survivors :=
  List.mem_mergeSort

/-- The witnesses that count are those with a surviving statement. -/
theorem mem_accepted_ids {witness : String} :
    witness ∈ (authoritativeStatements survivors).map witnessId ↔
      witness ∈ survivors.map witnessId := by
  have permuted : (authoritativeStatements survivors).Perm (chosen witnessId rank survivors) :=
    List.mergeSort_perm _ _
  rw [(permuted.map witnessId).mem_iff, chosen_owners, List.mem_eraseDups]

/-- The accepted ids come in order, each once. -/
theorem accepted_ids_sorted :
    ((authoritativeStatements survivors).map witnessId).Pairwise (· < ·) := by
  have ordered : ((authoritativeStatements survivors).map witnessId).Pairwise (· ≤ ·) := by
    rw [List.pairwise_map]
    exact merge_sorted (fun _ _ => decide_eq_true_iff) _
  have permuted : (authoritativeStatements survivors).Perm (chosen witnessId rank survivors) :=
    List.mergeSort_perm _ _
  have distinct := (permuted.map witnessId).nodup_iff.mpr chosen_owners_nodup
  exact (ordered.and distinct).imp (fun both => lt_of_le_of_ne both.1 both.2)

end KarmaSakshi.Domain
