import KarmaSakshi.Domain.Approval
import KarmaSakshi.Library.Selection
import Mathlib

/-!
What a quorum counts.

A statement survives when nothing turns it down; of each approver the latest
surviving statement counts.  The evaluation is related to this reading part by part.
-/

namespace KarmaSakshi.Domain

open Selection

set_option autoImplicit false

namespace ApprovalStatement

def approverId (statement : ApprovalStatement) : String := statement.approver.principalId

/-- The key statements of one approver are compared by. -/
def rank (statement : ApprovalStatement) : Int ×ₗ String :=
  toLex (statement.signedAt, statement.statementId)

/-- Everything a statement says: all but its signature. -/
def unsigned (statement : ApprovalStatement) : ApprovalStatement :=
  { statement with signature := none }

theorem is_later_iff (statement other : ApprovalStatement) :
    statement.isLaterThan other = true ↔ other.rank < statement.rank := by
  rw [rank, rank, Prod.Lex.toLex_lt_toLex, isLaterThan, Bool.or_eq_true, Bool.and_eq_true,
    decide_eq_true_eq, decide_eq_true_eq, decide_eq_true_eq]
  constructor
  · rintro (earlier | ⟨same, smaller⟩)
    · exact Or.inl earlier
    · exact Or.inr ⟨same.symm, smaller⟩
  · rintro (earlier | ⟨same, smaller⟩)
    · exact Or.inl earlier
    · exact Or.inr ⟨same.symm, smaller⟩

theorem rank_le_iff (statement other : ApprovalStatement) :
    statement.rank ≤ other.rank ↔ statement.signedAt < other.signedAt ∨
      statement.signedAt = other.signedAt ∧ statement.statementId ≤ other.statementId :=
  Prod.Lex.toLex_le_toLex

end ApprovalStatement

open ApprovalStatement (approverId rank)

/-! ### Surviving statements -/

section Surviving

variable (crypto : CryptoPrimitives) (primitives : ApprovalPrimitives) (policy : ApprovalPolicy)
  (question : QuorumQuestion)

/-- The signature verifies under the statement's own key. -/
structure ValidlySigned (keyring : Keyring) (statement : ApprovalStatement) : Prop where
  schema : assertSupportedSchemaVersion statement.schemaVersion = .ok ()
  verifies : ∃ signature key, statement.signature = some signature ∧
    keyring.keys statement.keyId = some key ∧ crypto.isBase64 signature = true ∧
    crypto.ed25519Verify key.publicKey (statement.canonicalHash primitives) signature = true

/-- Nothing turns the statement down. -/
structure Survives (statement : ApprovalStatement) : Prop where
  manifest : statement.manifestHash = question.manifestHash
  bundle : statement.approvalPolicyBundleHash = question.approvalPolicyBundleHash
  notAgent : statement.approver.principalType ≠ .agent
  notProposer : policy.forbidProposerAsApprover = true →
    statement.approver.principalId ≠ question.proposer.principalId
  notSubject : policy.forbidSubjectAsApprover = true →
    statement.approver.principalId ≠ question.subject.principalId
  signed : ValidlySigned crypto primitives question.keyring statement
  unexpired : question.now ≤ statement.expiresAt

/-- The latest of its approver's surviving statements: none is signed after it, and none
signed at the same time has a greater id. -/
structure IsLatest (statements : List ApprovalStatement) (statement : ApprovalStatement) :
    Prop where
  member : statement ∈ statements
  survives : Survives crypto primitives policy question statement
  latest : ∀ other ∈ statements, Survives crypto primitives policy question other →
    other.approver.principalId = statement.approver.principalId →
      other.signedAt < statement.signedAt ∨
        other.signedAt = statement.signedAt ∧ other.statementId ≤ statement.statementId

/-- The statements an evaluation keeps. -/
def survivorsOf (statements : List ApprovalStatement) : List ApprovalStatement :=
  statements.filter (fun statement =>
    rejectReason crypto primitives policy question statement = none)

variable {crypto primitives policy question} {statement : ApprovalStatement}
  {statements : List ApprovalStatement}

theorem key_verifies {key : VerificationKey} {data signature : String} :
    key.verify crypto data signature = .ok () ↔
      crypto.isBase64 signature = true ∧
        crypto.ed25519Verify key.publicKey data signature = true := by
  unfold VerificationKey.verify
  cases base64 : crypto.isBase64 signature
  · simp
  · cases verified : crypto.ed25519Verify key.publicKey data signature <;> simp

theorem keyring_verifies {keyring : Keyring} {keyId data signature : String} :
    keyring.verify crypto keyId data signature = .ok () ↔
      ∃ key, keyring.keys keyId = some key ∧ crypto.isBase64 signature = true ∧
        crypto.ed25519Verify key.publicKey data signature = true := by
  unfold Keyring.verify
  cases keyring.keys keyId with
  | none => simp
  | some key => simp [key_verifies]

theorem signature_verifies {keyring : Keyring} :
    verifyApprovalStatementSignature crypto primitives statement keyring = .ok () ↔
      ValidlySigned crypto primitives keyring statement := by
  unfold verifyApprovalStatementSignature
  cases schema : assertSupportedSchemaVersion statement.schemaVersion with
  | error error =>
      constructor
      · intro impossible
        cases impossible
      · intro signed
        cases schema.symm.trans signed.schema
  | ok done =>
      cases signature : statement.signature with
      | none =>
          constructor
          · intro impossible
            cases impossible
          · intro signed
            obtain ⟨_, _, present, _⟩ := signed.verifies
            cases signature.symm.trans present
      | some text =>
          constructor
          · intro verified
            obtain ⟨key, rest⟩ := keyring_verifies.mp verified
            exact ⟨schema, text, key, signature, rest⟩
          · intro signed
            obtain ⟨other, key, present, rest⟩ := signed.verifies
            obtain rfl := Option.some.inj (signature.symm.trans present)
            exact keyring_verifies.mpr ⟨key, rest⟩

theorem window_verifies {now : Instant} :
    verifyApprovalStatementTimeWindow statement now = .ok () ↔ now ≤ statement.expiresAt := by
  unfold verifyApprovalStatementTimeWindow
  by_cases expired : statement.expiresAt < now
  · simp [expired]
  · simp [expired, not_lt.mp expired]

theorem reject_none_iff :
    rejectReason crypto primitives policy question statement = none ↔
      Survives crypto primitives policy question statement := by
  unfold rejectReason
  split_ifs with manifest bundle agent proposer subject
  · exact iff_of_false not_false (fun survives => manifest survives.manifest)
  · exact iff_of_false not_false (fun survives => bundle survives.bundle)
  · exact iff_of_false not_false (fun survives => survives.notAgent agent)
  · exact iff_of_false not_false (fun survives => survives.notProposer proposer.1 proposer.2)
  · exact iff_of_false not_false (fun survives => survives.notSubject subject.1 subject.2)
  · cases signed : verifyApprovalStatementSignature crypto primitives statement
        question.keyring with
    | error error =>
        refine iff_of_false (by simp) (fun survives => ?_)
        cases signed.symm.trans (signature_verifies.mpr survives.signed)
    | ok done =>
        cases window : verifyApprovalStatementTimeWindow statement question.now with
        | error error =>
            refine iff_of_false (by simp) (fun survives => ?_)
            cases window.symm.trans (window_verifies.mpr survives.unexpired)
        | ok done =>
            refine iff_of_true (by simp) ⟨not_not.mp manifest, not_not.mp bundle, agent, ?_, ?_,
              signature_verifies.mp signed, window_verifies.mp window⟩
            · exact fun forbids same => proposer ⟨forbids, same⟩
            · exact fun forbids same => subject ⟨forbids, same⟩

theorem mem_survivors :
    statement ∈ survivorsOf crypto primitives policy question statements ↔
      statement ∈ statements ∧ Survives crypto primitives policy question statement := by
  rw [survivorsOf, List.mem_filter, decide_eq_true_eq, reject_none_iff]

/-- The latest statements are the greatest survivors. -/
theorem is_latest_iff :
    IsLatest crypto primitives policy question statements statement ↔
      Greatest approverId rank (survivorsOf crypto primitives policy question statements)
        statement := by
  constructor
  · intro latest
    refine ⟨mem_survivors.mpr ⟨latest.member, latest.survives⟩, ?_⟩
    intro other inside same
    obtain ⟨member, survives⟩ := mem_survivors.mp inside
    exact (other.rank_le_iff statement).mpr (latest.latest other member survives same)
  · intro greatest
    obtain ⟨member, survives⟩ := mem_survivors.mp greatest.member
    refine ⟨member, survives, ?_⟩
    intro other otherMember otherSurvives same
    exact (other.rank_le_iff statement).mp
      (greatest.highest other (mem_survivors.mpr ⟨otherMember, otherSurvives⟩) same)

end Surviving

/-! ### The authoritative statements -/

/-- `max` by the key is the greatest statement, the first of several. -/
theorem latest_statement_greatest (first : ApprovalStatement) (rest : List ApprovalStatement) :
    (first :: rest).argmax rank = some (latestStatement first rest) := by
  induction rest using List.reverseRecOn with
  | nil => rfl
  | append_singleton rest statement ih =>
      have folded : latestStatement first (rest ++ [statement]) =
          if statement.isLaterThan (latestStatement first rest) then statement
          else latestStatement first rest := by
        rw [latestStatement, List.foldl_append]
        rfl
      rw [← List.cons_append, List.argmax_concat, ih, folded]
      show (if rank (latestStatement first rest) < rank statement then some statement
        else some (latestStatement first rest)) = _
      by_cases later : statement.isLaterThan (latestStatement first rest) = true
      · rw [if_pos ((statement.is_later_iff _).mp later), if_pos later]
      · rw [if_neg (fun smaller => later ((statement.is_later_iff _).mpr smaller)), if_neg later]

theorem authoritative_chosen (statements : List ApprovalStatement) :
    (selectAuthoritative statements).map Prod.fst = chosen approverId rank statements := by
  rw [selectAuthoritative, List.map_filterMap, chosen]
  apply List.filterMap_congr
  intro principalId _
  show ((selectLatest (statementsOf statements principalId)).map Prod.fst) =
    (statementsOf statements principalId).argmax rank
  cases statementsOf statements principalId with
  | nil => rfl
  | cons first rest => exact (latest_statement_greatest first rest).symm

/-- The counted statements with one decision, by approver. -/
def counted (decision : Decision) (survivors : List ApprovalStatement) : List ApprovalStatement :=
  sortedByApprover ((chosen approverId rank survivors).filter
    (fun statement => statement.decision = decision))

section Counting

variable {decision : Decision} {survivors : List ApprovalStatement} {statement : ApprovalStatement}

theorem mem_counted : statement ∈ counted decision survivors ↔
    statement ∈ chosen approverId rank survivors ∧ statement.decision = decision := by
  rw [counted, sortedByApprover, List.mem_mergeSort, List.mem_filter, decide_eq_true_eq]

theorem counted_perm : (counted decision survivors).Perm
    ((chosen approverId rank survivors).filter (fun statement => statement.decision = decision)) :=
  List.mergeSort_perm _ _

/-- The approvers of the counted statements come in order, each once. -/
theorem counted_approvers_sorted :
    ((counted decision survivors).map approverId).Pairwise (· < ·) := by
  have ordered : ((counted decision survivors).map approverId).Pairwise (· ≤ ·) := by
    rw [List.pairwise_map]
    exact merge_sorted (fun _ _ => decide_eq_true_iff) _
  have distinct : ((counted decision survivors).map approverId).Nodup := by
    refine (counted_perm.map approverId).nodup_iff.mpr ?_
    exact (List.filter_sublist.map approverId).nodup chosen_owners_nodup
  exact (ordered.and distinct).imp (fun both => lt_of_le_of_ne both.1 both.2)

end Counting

/-! ### The verdict -/

theorem py_sorted_perm (items : List String) : (pySorted items).Perm items :=
  List.mergeSort_perm _ _

theorem py_sorted_ascending (texts : List String) : (pySorted texts).Pairwise (· ≤ ·) :=
  @merge_sorted String String _ _ id (fun _ _ => decide_eq_true_iff) texts

/-- Sorting forgets the order. -/
theorem py_sorted_of_perm {texts other : List String} (permuted : texts.Perm other) :
    pySorted texts = pySorted other := by
  have sortedPermuted := ((py_sorted_perm texts).trans permuted).trans (py_sorted_perm other).symm
  exact sortedPermuted.eq_of_pairwise (fun _ _ _ _ => le_antisymm) (py_sorted_ascending texts)
    (py_sorted_ascending other)

section Verdict

variable (primitives : ApprovalPrimitives) (policy : ApprovalPolicy) (question : QuorumQuestion)
  (survivors : List ApprovalStatement) (turnedDown : List (String × String))

/-- The verdict in terms of the counted approvals and dissents. -/
structure VerdictOn (approving dissenting : List ApprovalStatement) (result : QuorumResult) :
    Prop where
  approvingIds : result.approvingPrincipalIds = approving.map approverId
  dissentingIds : result.dissentingPrincipalIds = dissenting.map approverId
  missing : result.missingRoles = pySorted (policy.requiredRoles.filter
    (fun role => role ∉ approving.filterMap ApprovalStatement.role))
  setHash : result.approvalSetHash = primitives.setDigest
    (pySorted (approving.map (ApprovalStatement.canonicalHash primitives)))
  satisfied : result.satisfied = true ↔ policy.requiredApprovals ≤ approving.length ∧
    result.missingRoles = [] ∧ (policy.vetoOnAnyDissent = true → dissenting = []) ∧
    coolingOffRemaining policy approving question.now = 0

theorem quorum_verdict_on : VerdictOn primitives policy question (counted .approve survivors)
    (counted .dissent survivors) (quorumVerdict primitives policy question survivors turnedDown) := by
  have approvals : sortedByApprover (((selectAuthoritative survivors).map Prod.fst).filter
      (fun winner => winner.decision = .approve)) = counted .approve survivors := by
    rw [authoritative_chosen]
    rfl
  have dissents : sortedByApprover (((selectAuthoritative survivors).map Prod.fst).filter
      (fun winner => winner.decision = .dissent)) = counted .dissent survivors := by
    rw [authoritative_chosen]
    rfl
  unfold quorumVerdict
  simp only [approvals, dissents]
  constructor
  · rfl
  · rfl
  · rfl
  · rfl
  · have unopposed : (policy.vetoOnAnyDissent = false ∨
        (!(counted .dissent survivors).isEmpty) = false) ↔
          (policy.vetoOnAnyDissent = true → counted .dissent survivors = []) := by
      cases policy.vetoOnAnyDissent <;> simp
    simp only [Bool.and_eq_true, decide_eq_true_eq, List.isEmpty_iff, Bool.not_eq_true',
      Bool.and_eq_false_iff, unopposed]
    constructor
    · rintro ⟨⟨⟨enough, complete⟩, veto⟩, cooled⟩
      rw [if_pos ⟨⟨enough, complete⟩, veto⟩] at cooled
      exact ⟨enough, complete, veto, cooled⟩
    · rintro ⟨enough, complete, veto, cooled⟩
      refine ⟨⟨⟨enough, complete⟩, veto⟩, ?_⟩
      rw [if_pos ⟨⟨enough, complete⟩, veto⟩]
      exact cooled

end Verdict

end KarmaSakshi.Domain
