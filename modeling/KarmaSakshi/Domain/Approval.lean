import KarmaSakshi.Domain.Verification

/-!
Approval statements, quorum policies and the evaluation of a quorum.

The evaluation is a pure function of the statements, the policy and the time.  A
bad statement is recorded with the reason it was turned down and never raises;
only an oversized batch does.
-/

namespace KarmaSakshi.Domain

set_option autoImplicit false

inductive Decision : Type where
  | approve
  | dissent
  deriving DecidableEq

/-- One principal's signed decision on one exact manifest. -/
structure ApprovalStatement where
  schemaVersion : String
  statementId : String
  manifestHash : String
  approvalPolicyBundleHash : String
  approver : Principal
  role : Option String
  decision : Decision
  reason : Option String
  signedAt : Instant
  expiresAt : Instant
  nonce : String
  keyId : String
  signature : Option String
  statementIdBounded : boundedText 128 statementId
  manifestHashShape : isDigest manifestHash
  bundleHashShape : isDigest approvalPolicyBundleHash
  windowOpen : signedAt < expiresAt

/-- How many approvals are required, from which roles, and who may not count. -/
structure ApprovalPolicy where
  policyId : String
  policyVersion : String
  requiredApprovals : Nat
  requiredRoles : List String
  forbidProposerAsApprover : Bool
  forbidSubjectAsApprover : Bool
  vetoOnAnyDissent : Bool
  coolingOffSeconds : Nat
  maxStatementsConsidered : Nat
  policyIdBounded : boundedText 128 policyId
  requiredApprovalsPositive : 1 ≤ requiredApprovals
  enoughConsidered : requiredApprovals ≤ maxStatementsConsidered
  requiredRolesDistinct : requiredRoles.Nodup

structure QuorumResult where
  satisfied : Bool
  approvingCount : Nat
  approvingPrincipalIds : List String
  dissentingPrincipalIds : List String
  missingRoles : List String
  rejected : List (String × String)
  reason : String
  approvalSetHash : String

/-- The canonical hashes that the quorum takes of statements and of sets of them. -/
structure ApprovalPrimitives where
  statementDigest : ApprovalStatement → String
  setDigest : List String → String

variable (crypto : CryptoPrimitives) (primitives : ApprovalPrimitives)

/-- The hash of the signing payload, which leaves the signature out. -/
def ApprovalStatement.canonicalHash (statement : ApprovalStatement) : String :=
  primitives.statementDigest { statement with signature := none }

def verifyApprovalStatementSignature (statement : ApprovalStatement) (keyring : Keyring) :
    Except PyError Unit := do
  assertSupportedSchemaVersion statement.schemaVersion
  match statement.signature with
  | none => .error ⟨.invalidSignature,
      "approval statement " ++ statement.statementId ++ " is unsigned"⟩
  | some signature =>
      keyring.verify crypto statement.keyId (statement.canonicalHash primitives) signature

def verifyApprovalStatementTimeWindow (statement : ApprovalStatement) (now : Instant) :
    Except PyError Unit :=
  if statement.expiresAt < now then
    .error ⟨.approvalExpired, "approval statement " ++ statement.statementId ++ " expired at " ++
      statement.expiresAt.isoformat ++ " (now=" ++ now.isoformat ++ ")"⟩
  else .ok ()

/-- What a quorum is evaluated for. -/
structure QuorumQuestion where
  manifestHash : String
  approvalPolicyBundleHash : String
  keyring : Keyring
  proposer : Principal
  subject : Principal
  now : Instant

variable (policy : ApprovalPolicy) (question : QuorumQuestion)

/-- Why a statement does not count, if there is a reason. -/
def rejectReason (statement : ApprovalStatement) : Option String :=
  if statement.manifestHash ≠ question.manifestHash then some "manifest_hash mismatch"
  else if statement.approvalPolicyBundleHash ≠ question.approvalPolicyBundleHash then
    some "approval_policy_bundle_hash mismatch"
  else if statement.approver.principalType = .agent then
    some "agent principals cannot approve (invariant #30)"
  else if policy.forbidProposerAsApprover ∧
      statement.approver.principalId = question.proposer.principalId then
    some "proposer cannot approve its own proposal"
  else if policy.forbidSubjectAsApprover ∧
      statement.approver.principalId = question.subject.principalId then
    some "subject/executor cannot satisfy approval quorum"
  else
    match verifyApprovalStatementSignature crypto primitives statement question.keyring with
    | .error error => some error.message
    | .ok _ =>
        match verifyApprovalStatementTimeWindow statement question.now with
        | .error error => some error.message
        | .ok _ => none

/-- The key `(signed_at, statement_id)` of the first is strictly greater. -/
def ApprovalStatement.isLaterThan (statement other : ApprovalStatement) : Bool :=
  other.signedAt < statement.signedAt ||
    (statement.signedAt = other.signedAt && other.statementId < statement.statementId)

/-- `max` by that key, which keeps the first of several greatest statements. -/
def latestStatement (first : ApprovalStatement) (rest : List ApprovalStatement) :
    ApprovalStatement :=
  rest.foldl (fun best statement => if statement.isLaterThan best then statement else best) first

/-- One approver's statements, in the order they were submitted. -/
def statementsOf (statements : List ApprovalStatement) (principalId : String) :
    List ApprovalStatement :=
  statements.filter (fun statement => statement.approver.principalId = principalId)

/-- The authoritative statement of one approver, and the ones it supersedes. -/
def selectLatest : List ApprovalStatement → Option (ApprovalStatement × List (String × String))
  | [] => none
  | first :: rest =>
      let winner := latestStatement first rest
      some (winner, ((first :: rest).filter (fun statement =>
        statement.statementId ≠ winner.statementId)).map (fun statement =>
          (statement.statementId, "superseded by a later statement from the same approver")))

/-- Per approver, in the order of their first statements. -/
def selectAuthoritative (statements : List ApprovalStatement) :
    List (ApprovalStatement × List (String × String)) :=
  (statements.map (fun statement => statement.approver.principalId)).eraseDups.filterMap
    (fun principalId => selectLatest (statementsOf statements principalId))

def sortedByApprover (statements : List ApprovalStatement) : List ApprovalStatement :=
  statements.mergeSort
    (fun left right => left.approver.principalId ≤ right.approver.principalId)

/-- `f"{seconds:.0f}"` of a number of microseconds: rounded half to even. -/
def roundedSeconds (micros : Int) : Int :=
  let whole := micros / microsPerSecond
  let rest := micros % microsPerSecond
  if 2 * rest < microsPerSecond then whole
  else if microsPerSecond < 2 * rest then whole + 1
  else if whole % 2 = 0 then whole else whole + 1

/-- How much of the cooling-off period is left, if the quorum is otherwise met. -/
def coolingOffRemaining (approving : List ApprovalStatement) (now : Instant) : Int :=
  match approving.map ApprovalStatement.signedAt with
  | [] => 0
  | first :: rest =>
      let readyAt := rest.foldl min first + policy.coolingOffSeconds * microsPerSecond
      if 0 < policy.coolingOffSeconds ∧ now < readyAt then readyAt - now else 0

/-- `repr` of a list of pairs of strings. -/
def pyReprPairs (pairs : List (String × String)) : String :=
  "[" ++ commaSeparated (pairs.map (fun pair =>
    "(" ++ pyRepr pair.1 ++ ", " ++ pyRepr pair.2 ++ ")")) ++ "]"

private def quorumReason (approvingIds dissentingIds missingRoles : List String)
    (remaining : Int) (rejected : List (String × String)) (satisfied : Bool) : String :=
  String.intercalate " "
    ([toString approvingIds.length ++ "/" ++ toString policy.requiredApprovals ++
        " required approvals from " ++
        (if approvingIds = [] then "no one" else pyReprTuple approvingIds) ++ "."] ++
      (if missingRoles = [] then []
        else ["Missing required roles: " ++ pyReprList missingRoles ++ "."]) ++
      (if policy.vetoOnAnyDissent ∧ dissentingIds ≠ [] then
        ["Vetoed by dissent from " ++ pyReprTuple dissentingIds ++ "."] else []) ++
      (if 0 < remaining then
        ["Cooling-off period not yet elapsed (" ++ toString (roundedSeconds remaining) ++
          "s remaining)."] else []) ++
      (if rejected = [] then []
        else [toString rejected.length ++ " statement(s) rejected: " ++
          pyReprPairs rejected ++ "."]) ++
      [if satisfied then "QUORUM MET." else "QUORUM NOT MET."])

/-- The verdict over the statements that survived and the reasons of the others. -/
def quorumVerdict (survivors : List ApprovalStatement) (turnedDown : List (String × String)) :
    QuorumResult :=
  let authoritative := selectAuthoritative survivors
  let rejected := turnedDown ++ authoritative.flatMap Prod.snd
  let winners := authoritative.map Prod.fst
  let approving := sortedByApprover (winners.filter (fun winner => winner.decision = .approve))
  let dissenting := sortedByApprover (winners.filter (fun winner => winner.decision = .dissent))
  let approvingIds := approving.map (fun statement => statement.approver.principalId)
  let dissentingIds := dissenting.map (fun statement => statement.approver.principalId)
  let rolesPresent := approving.filterMap ApprovalStatement.role
  let missingRoles := pySorted (policy.requiredRoles.filter (fun role => role ∉ rolesPresent))
  let enough := decide (policy.requiredApprovals ≤ approving.length) && missingRoles.isEmpty &&
    !(policy.vetoOnAnyDissent && !dissenting.isEmpty)
  let remaining := if enough then coolingOffRemaining policy approving question.now else 0
  let satisfied := enough && decide (remaining = 0)
  { satisfied
    approvingCount := approving.length
    approvingPrincipalIds := approvingIds
    dissentingPrincipalIds := dissentingIds
    missingRoles
    rejected
    reason := quorumReason policy approvingIds dissentingIds missingRoles remaining rejected
      satisfied
    approvalSetHash := primitives.setDigest
      (pySorted (approving.map (ApprovalStatement.canonicalHash primitives))) }

def evaluateQuorum (statements : List ApprovalStatement) : Except PyError QuorumResult :=
  if policy.maxStatementsConsidered < statements.length then
    .error ⟨.approvalBatchTooLarge, toString statements.length ++
      " approval statements submitted, exceeds policy max_statements_considered=" ++
      toString policy.maxStatementsConsidered⟩
  else
    .ok (quorumVerdict primitives policy question
      (statements.filter (fun statement =>
        rejectReason crypto primitives policy question statement = none))
      (statements.filterMap (fun statement =>
        (rejectReason crypto primitives policy question statement).map
          (fun reason => (statement.statementId, reason)))))

end KarmaSakshi.Domain
