import KarmaSakshi.Domain.Duty
import KarmaSakshi.Domain.Payload
import KarmaSakshi.Domain.Quorum

/-!
Approval and separation policies as payloads of policy bundles.

`canonical_dict` writes a policy with its roles and pairs sorted; the reader rebuilds it
through the constructor and its checks.
-/

namespace KarmaSakshi.Domain

open Selection

set_option autoImplicit false

/-! ### Approval policies -/

namespace ApprovalPolicy

/-- The checks of the constructor that the type does not carry. -/
structure Checked (policy : ApprovalPolicy) : Prop where
  versionDotted : '.' ∈ policy.policyVersion.toList
  rolesBounded : ∀ role ∈ policy.requiredRoles, boundedText 64 role

theorem approvals_positive {requiredApprovals : Int} (approvals : 1 ≤ requiredApprovals) :
    1 ≤ requiredApprovals.toNat := by
  omega

theorem approvals_considered {requiredApprovals considered : Int}
    (enough : requiredApprovals ≤ considered) : requiredApprovals.toNat ≤ considered.toNat := by
  omega

/-- The constructor with its checks in order. -/
def build (policyId policyVersion : String) (requiredApprovals : Int) (requiredRoles : List String)
    (forbidProposerAsApprover forbidSubjectAsApprover vetoOnAnyDissent : Bool)
    (coolingOffSeconds maxStatementsConsidered : Int) : Except PyError ApprovalPolicy :=
  if idBounded : boundedText 128 policyId then
    if '.' ∉ policyVersion.toList then
      valueError "policy_version must be a MAJOR.MINOR string"
    else if approvals : 1 ≤ requiredApprovals then
      if coolingOffSeconds < 0 then valueError "cooling_off_seconds must be >= 0"
      else if enough : requiredApprovals ≤ maxStatementsConsidered then
        match requiredRoles.find? (fun role => ¬ boundedText 64 role) with
        | some role =>
            valueError ("required_roles entry " ++ pyRepr role ++ " must be 1-64 chars")
        | none =>
            if distinct : requiredRoles.Nodup then
              .ok
                { policyId
                  policyVersion
                  requiredApprovals := requiredApprovals.toNat
                  requiredRoles
                  forbidProposerAsApprover
                  forbidSubjectAsApprover
                  vetoOnAnyDissent
                  coolingOffSeconds := coolingOffSeconds.toNat
                  maxStatementsConsidered := maxStatementsConsidered.toNat
                  policyIdBounded := idBounded
                  requiredApprovalsPositive := approvals_positive approvals
                  enoughConsidered := approvals_considered enough
                  requiredRolesDistinct := distinct }
            else valueError "required_roles must not contain duplicates"
      else valueError "max_statements_considered must be >= required_approvals"
    else valueError "required_approvals must be >= 1"
  else valueError "policy_id must be 1-128 chars"

def canonicalFields (policy : ApprovalPolicy) : List (String × PayloadValue) :=
  [("policy_id", .text policy.policyId),
    ("policy_version", .text policy.policyVersion),
    ("required_approvals", .int policy.requiredApprovals),
    ("required_roles", textsPayload (pySorted policy.requiredRoles)),
    ("forbid_proposer_as_approver", .bool policy.forbidProposerAsApprover),
    ("forbid_subject_as_approver", .bool policy.forbidSubjectAsApprover),
    ("veto_on_any_dissent", .bool policy.vetoOnAnyDissent),
    ("cooling_off_seconds", .int policy.coolingOffSeconds),
    ("max_statements_considered", .int policy.maxStatementsConsidered)]

def canonicalDict (policy : ApprovalPolicy) : Payload := Dict.ofItems policy.canonicalFields

def policyHash (sha256 : ByteArray → String) (policy : ApprovalPolicy) : String :=
  policy.canonicalDict.canonicalHash sha256

def reading : Reading := ⟨"approval policy", false⟩

/-- `approval_policy_from_bundle_payload`. -/
def fromBundlePayload (payload : Payload) : Except PyError ApprovalPolicy := do
  let policyId ← Payload.asStr reading payload "policy_id"
  let policyVersion ← Payload.asStr reading payload "policy_version"
  let requiredApprovals ← Payload.asInt reading payload "required_approvals"
  let requiredRoles ← Payload.asTupleStr reading payload "required_roles"
  let forbidProposer ← Payload.asBool reading payload "forbid_proposer_as_approver"
  let forbidSubject ← Payload.asBool reading payload "forbid_subject_as_approver"
  let veto ← Payload.asBool reading payload "veto_on_any_dissent"
  let coolingOff ← Payload.asInt reading payload "cooling_off_seconds"
  let maxStatements ← Payload.asInt reading payload "max_statements_considered"
  build policyId policyVersion requiredApprovals requiredRoles forbidProposer forbidSubject veto
    coolingOff maxStatements

/-- The same rules with the roles in order. -/
def sortedRoles (policy : ApprovalPolicy) : ApprovalPolicy :=
  { policy with
    requiredRoles := pySorted policy.requiredRoles
    requiredRolesDistinct := (py_sorted_perm _).nodup_iff.mpr policy.requiredRolesDistinct }

theorem canonical_keys_distinct (policy : ApprovalPolicy) :
    (policy.canonicalFields.map Prod.fst).Nodup := by
  show ["policy_id", "policy_version", "required_approvals", "required_roles",
    "forbid_proposer_as_approver", "forbid_subject_as_approver", "veto_on_any_dissent",
    "cooling_off_seconds", "max_statements_considered"].Nodup
  decide

theorem field_at {policy : ApprovalPolicy} {key : String} {value : PayloadValue} (index : Nat)
    (listed : policy.canonicalFields[index]? = some (key, value)) :
    policy.canonicalDict.get key = some value :=
  Dict.get_of_item policy.canonical_keys_distinct (List.mem_of_getElem? listed)

theorem build_rebuilds {policy : ApprovalPolicy} (checked : policy.Checked) :
    build policy.policyId policy.policyVersion policy.requiredApprovals policy.requiredRoles
      policy.forbidProposerAsApprover policy.forbidSubjectAsApprover policy.vetoOnAnyDissent
      policy.coolingOffSeconds policy.maxStatementsConsidered = .ok policy := by
  have noneOut : policy.requiredRoles.find? (fun role => ¬ boundedText 64 role) = none := by
    rw [List.find?_eq_none]
    intro role member
    simpa using checked.rolesBounded role member
  have approvals : (1 : Int) ≤ policy.requiredApprovals := by
    have := policy.requiredApprovalsPositive
    omega
  have cooling : ¬ (policy.coolingOffSeconds : Int) < 0 := by omega
  have enough : (policy.requiredApprovals : Int) ≤ policy.maxStatementsConsidered := by
    have := policy.enoughConsidered
    omega
  simp only [build, dif_pos policy.policyIdBounded, if_neg (not_not.mpr checked.versionDotted),
    dif_pos approvals, if_neg cooling, dif_pos enough, noneOut,
    dif_pos policy.requiredRolesDistinct, Int.toNat_natCast]

/-- What is read back are the same rules. -/
theorem reads_back {policy : ApprovalPolicy} (checked : policy.Checked) :
    fromBundlePayload policy.canonicalDict = .ok policy.sortedRoles := by
  have sortedChecked : policy.sortedRoles.Checked :=
    ⟨checked.versionDotted, fun role member =>
      checked.rolesBounded role ((py_sorted_perm _).mem_iff.mp member)⟩
  have rebuilt := build_rebuilds sortedChecked
  refine except_bind_of_ok (Payload.reads_str (field_at 0 rfl)) ?_
  refine except_bind_of_ok (Payload.reads_str (field_at 1 rfl)) ?_
  refine except_bind_of_ok (Payload.reads_int (field_at 2 rfl)) ?_
  refine except_bind_of_ok (Payload.reads_texts (field_at 3 rfl)) ?_
  refine except_bind_of_ok (Payload.reads_bool (field_at 4 rfl)) ?_
  refine except_bind_of_ok (Payload.reads_bool (field_at 5 rfl)) ?_
  refine except_bind_of_ok (Payload.reads_bool (field_at 6 rfl)) ?_
  refine except_bind_of_ok (Payload.reads_int (field_at 7 rfl)) ?_
  refine except_bind_of_ok (Payload.reads_int (field_at 8 rfl)) ?_
  exact rebuilt

/-- Writing the same rules again gives the same payload. -/
theorem same_canonical_dict (policy : ApprovalPolicy) :
    policy.sortedRoles.canonicalDict = policy.canonicalDict := by
  have sorted : pySorted (pySorted policy.requiredRoles) = pySorted policy.requiredRoles :=
    py_sorted_of_perm (py_sorted_perm _)
  have fields : policy.sortedRoles.canonicalFields = policy.canonicalFields := by
    simp only [canonicalFields, sortedRoles, sorted]
  rw [canonicalDict, fields, canonicalDict]

section SameVerdict

variable {crypto : CryptoPrimitives} {primitives : ApprovalPrimitives} {policy : ApprovalPolicy}
  {question : QuorumQuestion}

theorem same_reject_reason (statement : ApprovalStatement) :
    rejectReason crypto primitives policy.sortedRoles question statement =
      rejectReason crypto primitives policy question statement := rfl

/-- Roles that are missing are reported in order, however the policy lists them. -/
theorem same_quorum_verdict (survivors : List ApprovalStatement)
    (turnedDown : List (String × String)) :
    quorumVerdict primitives policy.sortedRoles question survivors turnedDown =
      quorumVerdict primitives policy question survivors turnedDown := by
  have missing : ∀ present : List String,
      pySorted (policy.sortedRoles.requiredRoles.filter (fun role => role ∉ present)) =
        pySorted (policy.requiredRoles.filter (fun role => role ∉ present)) := by
    intro present
    apply py_sorted_of_perm
    exact (py_sorted_perm _).filter _
  unfold quorumVerdict
  simp only [missing]
  rfl

theorem same_evaluation (statements : List ApprovalStatement) :
    evaluateQuorum crypto primitives policy.sortedRoles question statements =
      evaluateQuorum crypto primitives policy question statements := by
  unfold evaluateQuorum
  simp only [same_reject_reason, same_quorum_verdict]
  rfl

end SameVerdict

end ApprovalPolicy

/-! ### Separation policies -/

namespace ProtocolRole

def all : List ProtocolRole :=
  [proposer, resolver, assessor, sealer, approver, executor, verifier, witness, compensator, auditor]

def ofValue (text : String) : Option ProtocolRole := all.find? (fun role => role.value = text)

theorem of_value (role : ProtocolRole) : ofValue role.value = some role := by
  cases role <;> rfl

theorem value_injective : Function.Injective value := by
  intro role other same
  have found := of_value role
  rw [same, of_value] at found
  exact (Option.some.inj found).symm

end ProtocolRole

abbrev RolePair := ProtocolRole × ProtocolRole

def pairTexts (pair : RolePair) : String × String := (pair.1.value, pair.2.value)

/-- The roles of a pair by their values. -/
def canonicalPair (pair : RolePair) : RolePair :=
  if pair.1.value ≤ pair.2.value then pair else pair.swap

theorem canonical_same_pair (pair : RolePair) : samePair pair (canonicalPair pair) := by
  unfold canonicalPair
  split_ifs with ordered
  · exact Or.inl rfl
  · exact Or.inr (Prod.swap_swap pair).symm

theorem canonical_swap (pair : RolePair) : canonicalPair pair.swap = canonicalPair pair := by
  rcases lt_trichotomy pair.1.value pair.2.value with less | same | greater
  · have flipped : canonicalPair pair.swap = pair.swap.swap := if_neg (not_le.mpr less)
    rw [flipped, canonicalPair, if_pos less.le, Prod.swap_swap]
  · have equal : pair.1 = pair.2 := ProtocolRole.value_injective same
    exact congrArg canonicalPair (Prod.ext equal.symm equal)
  · have kept : canonicalPair pair.swap = pair.swap := if_pos greater.le
    rw [kept, canonicalPair, if_neg (not_le.mpr greater)]

/-- Two pairs are the same exactly when they are written the same. -/
theorem same_pair_iff {left right : RolePair} :
    samePair left right ↔ canonicalPair left = canonicalPair right := by
  constructor
  · rintro (rfl | rfl)
    · rfl
    · exact canonical_swap right
  · intro written
    have leftSame := canonical_same_pair left
    rw [written] at leftSame
    rcases leftSame with leftKept | leftFlipped
    · rcases canonical_same_pair right with rightKept | rightFlipped
      · exact Or.inl (leftKept.trans rightKept.symm)
      · have back : right.swap = canonicalPair right :=
          (congrArg Prod.swap rightFlipped).trans (Prod.swap_swap _)
        exact Or.inr (leftKept.trans back.symm)
    · rcases canonical_same_pair right with rightKept | rightFlipped
      · exact Or.inr (leftFlipped.trans (congrArg Prod.swap rightKept.symm))
      · exact Or.inl (leftFlipped.trans rightFlipped.symm)

theorem canonical_idempotent (pair : RolePair) :
    canonicalPair (canonicalPair pair) = canonicalPair pair :=
  (same_pair_iff.mp (canonical_same_pair pair)).symm

theorem pair_texts_injective : Function.Injective pairTexts := by
  intro left right same
  obtain ⟨first, second⟩ := Prod.mk.inj same
  exact Prod.ext (ProtocolRole.value_injective first) (ProtocolRole.value_injective second)

namespace SeparationOfDutyPolicy

def pairText (pair : String × String) : String :=
  "(" ++ pyRepr pair.1 ++ ", " ++ pyRepr pair.2 ++ ")"

/-- The loop over the pairs: each names two different roles, and no pair before it. -/
def acceptPairs : (seen : List RolePair) → List (String × String) → Except PyError (List RolePair)
  | _, [] => .ok []
  | seen, pair :: rest =>
      match ProtocolRole.ofValue pair.1, ProtocolRole.ofValue pair.2 with
      | some roleA, some roleB =>
          if roleA = roleB then
            valueError ("forbidden role pair " ++ pairText pair ++
              " pairs a role with itself, which is meaningless " ++
              "(a single principal always holds its own role)")
          else if canonicalPair (roleA, roleB) ∈ seen then
            valueError ("duplicate forbidden role pair (order-independent): " ++ pairText pair)
          else do
            let others ← acceptPairs (canonicalPair (roleA, roleB) :: seen) rest
            .ok ((roleA, roleB) :: others)
      | _, _ =>
          valueError ("forbidden role pair " ++ pairText pair ++ " references an unknown role")

/-- Rules the constructor accepts, after the pairs it has seen. -/
structure Acceptable (seen rules : List RolePair) : Prop where
  notReflexive : ∀ pair ∈ rules, pair.1 ≠ pair.2
  distinct : rules.Pairwise (fun left right => ¬ samePair left right)
  fresh : ∀ pair ∈ rules, canonicalPair pair ∉ seen

theorem acceptable_cons {seen rules : List RolePair} {pair : RolePair} :
    Acceptable seen (pair :: rules) ↔ pair.1 ≠ pair.2 ∧ canonicalPair pair ∉ seen ∧
      Acceptable (canonicalPair pair :: seen) rules := by
  constructor
  · intro acceptable
    obtain ⟨apart, distinct⟩ := List.pairwise_cons.mp acceptable.distinct
    refine ⟨acceptable.notReflexive pair List.mem_cons_self,
      acceptable.fresh pair List.mem_cons_self, ?_, distinct, ?_⟩
    · intro other member
      exact acceptable.notReflexive other (List.mem_cons_of_mem _ member)
    · intro other member repeated
      rcases List.mem_cons.mp repeated with same | known
      · exact apart other member (same_pair_iff.mpr same.symm)
      · exact acceptable.fresh other (List.mem_cons_of_mem _ member) known
  · rintro ⟨different, fresh, acceptable⟩
    refine ⟨?_, List.pairwise_cons.mpr ⟨?_, acceptable.distinct⟩, ?_⟩
    · intro other member
      rcases List.mem_cons.mp member with rfl | later
      · exact different
      · exact acceptable.notReflexive other later
    · intro other member same
      exact acceptable.fresh other member (same_pair_iff.mp same ▸ List.mem_cons_self)
    · intro other member
      rcases List.mem_cons.mp member with rfl | later
      · exact fresh
      · exact fun known => acceptable.fresh other later (List.mem_cons_of_mem _ known)

theorem accept_known {seen : List RolePair} {pair : String × String}
    {rest : List (String × String)} {roleA roleB : ProtocolRole}
    (first : ProtocolRole.ofValue pair.1 = some roleA)
    (second : ProtocolRole.ofValue pair.2 = some roleB) :
    acceptPairs seen (pair :: rest) =
      (if roleA = roleB then
        valueError ("forbidden role pair " ++ pairText pair ++
          " pairs a role with itself, which is meaningless " ++
          "(a single principal always holds its own role)")
      else if canonicalPair (roleA, roleB) ∈ seen then
        valueError ("duplicate forbidden role pair (order-independent): " ++ pairText pair)
      else (do
        let others ← acceptPairs (canonicalPair (roleA, roleB) :: seen) rest
        .ok ((roleA, roleB) :: others))) := by
  conv_lhs => rw [acceptPairs, first, second]

theorem pairs_accepted {seen accepted : List RolePair} {pairs : List (String × String)}
    (accepts : acceptPairs seen pairs = .ok accepted) :
    Acceptable seen accepted ∧ accepted.length = pairs.length := by
  induction pairs generalizing seen accepted with
  | nil =>
      obtain rfl := Except.ok.inj accepts
      exact ⟨⟨by simp, List.Pairwise.nil, by simp⟩, rfl⟩
  | cons pair rest ih =>
      cases first : ProtocolRole.ofValue pair.1 with
      | none =>
          rw [acceptPairs, first] at accepts
          cases accepts
      | some roleA =>
          cases second : ProtocolRole.ofValue pair.2 with
          | none =>
              rw [acceptPairs, first, second] at accepts
              cases accepts
          | some roleB =>
              rw [accept_known first second] at accepts
              split_ifs at accepts with same repeated
              · cases accepts
              · cases accepts
              · obtain ⟨others, inner, returned⟩ := except_bind_ok accepts
                obtain rfl := Except.ok.inj returned
                obtain ⟨acceptable, lengths⟩ := ih inner
                exact ⟨acceptable_cons.mpr ⟨same, repeated, acceptable⟩,
                  congrArg Nat.succ lengths⟩

theorem accepts_pairs {seen rules : List RolePair} (acceptable : Acceptable seen rules) :
    acceptPairs seen (rules.map pairTexts) = .ok rules := by
  induction rules generalizing seen with
  | nil => rfl
  | cons pair rest ih =>
      obtain ⟨different, fresh, others⟩ := acceptable_cons.mp acceptable
      rw [List.map_cons, accept_known (ProtocolRole.of_value pair.1) (ProtocolRole.of_value pair.2),
        if_neg different, if_neg fresh]
      exact except_bind_of_ok (ih others) rfl

/-- The check of the constructor that the type does not carry. -/
def Checked (policy : SeparationOfDutyPolicy) : Prop := '.' ∈ policy.policyVersion.toList

def maxForbiddenRolePairs : Nat := 64

/-- The constructor with its checks in order. -/
def build (policyId policyVersion : String) (forbiddenRolePairs : List (String × String)) :
    Except PyError SeparationOfDutyPolicy :=
  if idBounded : boundedText 128 policyId then
    if '.' ∉ policyVersion.toList then
      valueError "policy_version must be a MAJOR.MINOR string"
    else if bounded : forbiddenRolePairs.length ≤ maxForbiddenRolePairs then
      match accepts : acceptPairs [] forbiddenRolePairs with
      | .error error => .error error
      | .ok rules =>
          .ok
            { policyId
              policyVersion
              forbiddenRolePairs := rules
              policyIdBounded := idBounded
              bounded := (pairs_accepted accepts).2.trans_le bounded
              notReflexive := (pairs_accepted accepts).1.notReflexive
              distinct := (pairs_accepted accepts).1.distinct }
    else valueError ("forbidden_role_pairs has " ++ toString forbiddenRolePairs.length ++
      " entries, exceeding the " ++ toString maxForbiddenRolePairs ++ " bound")
  else valueError "policy_id must be 1-128 chars"

/-- Pairs in the order of their texts. -/
def pairPrecedes (left right : RolePair) : Bool :=
  toLex (pairTexts left) ≤ toLex (pairTexts right)

def sortedPairs (pairs : List RolePair) : List RolePair :=
  (pairs.map canonicalPair).mergeSort pairPrecedes

def canonicalFields (policy : SeparationOfDutyPolicy) : List (String × PayloadValue) :=
  [("policy_id", .text policy.policyId),
    ("policy_version", .text policy.policyVersion),
    ("forbidden_role_pairs",
      .array (((sortedPairs policy.forbiddenRolePairs).map pairTexts).map pairPayload))]

def canonicalDict (policy : SeparationOfDutyPolicy) : Payload := Dict.ofItems policy.canonicalFields

def policyHash (sha256 : ByteArray → String) (policy : SeparationOfDutyPolicy) : String :=
  policy.canonicalDict.canonicalHash sha256

def reading : Reading := ⟨"separation policy", false⟩

/-- `separation_of_duty_policy_from_bundle_payload`. -/
def fromBundlePayload (payload : Payload) : Except PyError SeparationOfDutyPolicy := do
  let policyId ← Payload.asStr reading payload "policy_id"
  let policyVersion ← Payload.asStr reading payload "policy_version"
  let forbiddenRolePairs ← Payload.asRolePairs reading payload "forbidden_role_pairs"
  build policyId policyVersion forbiddenRolePairs

theorem mem_sorted_pairs {pairs : List RolePair} {pair : RolePair} :
    pair ∈ sortedPairs pairs ↔ ∃ rule ∈ pairs, canonicalPair rule = pair := by
  rw [sortedPairs, List.mem_mergeSort, List.mem_map]

/-- Written pairs are acceptable as they are. -/
theorem sorted_pairs_acceptable {pairs : List RolePair} (acceptable : Acceptable [] pairs) :
    Acceptable [] (sortedPairs pairs) := by
  refine ⟨?_, ?_, by simp⟩
  · intro pair member reflexive
    obtain ⟨rule, ruled, rfl⟩ := mem_sorted_pairs.mp member
    rcases canonical_same_pair rule with same | same
    · exact acceptable.notReflexive rule ruled (by rw [same, reflexive])
    · exact acceptable.notReflexive rule ruled (by rw [same]; exact reflexive.symm)
  · have apart : (pairs.map canonicalPair).Pairwise (fun left right => ¬ samePair left right) := by
      rw [List.pairwise_map]
      refine acceptable.distinct.imp (fun {left right} different same => different ?_)
      rw [same_pair_iff, canonical_idempotent, canonical_idempotent] at same
      exact same_pair_iff.mpr same
    refine ((List.mergeSort_perm _ _).pairwise_iff ?_).mpr apart
    intro left right different same
    exact different (same_pair_iff.mpr (same_pair_iff.mp same).symm)

/-- The same rules as they are written. -/
def sortedRules (policy : SeparationOfDutyPolicy) : SeparationOfDutyPolicy :=
  have acceptable : Acceptable [] (sortedPairs policy.forbiddenRolePairs) :=
    sorted_pairs_acceptable ⟨policy.notReflexive, policy.distinct, by simp⟩
  { policy with
    forbiddenRolePairs := sortedPairs policy.forbiddenRolePairs
    bounded := by
      rw [sortedPairs, List.length_mergeSort, List.length_map]
      exact policy.bounded
    notReflexive := acceptable.notReflexive
    distinct := acceptable.distinct }

theorem field_at {policy : SeparationOfDutyPolicy} {key : String} {value : PayloadValue}
    (index : Nat) (listed : policy.canonicalFields[index]? = some (key, value)) :
    policy.canonicalDict.get key = some value := by
  have distinct : (policy.canonicalFields.map Prod.fst).Nodup := by
    show ["policy_id", "policy_version", "forbidden_role_pairs"].Nodup
    decide
  exact Dict.get_of_item distinct (List.mem_of_getElem? listed)

theorem build_rebuilds {policy : SeparationOfDutyPolicy} (checked : policy.Checked) :
    build policy.policyId policy.policyVersion (policy.forbiddenRolePairs.map pairTexts) =
      .ok policy := by
  have bounded : (policy.forbiddenRolePairs.map pairTexts).length ≤ maxForbiddenRolePairs := by
    rw [List.length_map]
    exact policy.bounded
  have accepts : acceptPairs [] (policy.forbiddenRolePairs.map pairTexts) =
      .ok policy.forbiddenRolePairs :=
    accepts_pairs ⟨policy.notReflexive, policy.distinct, by simp⟩
  have dotted : ¬ '.' ∉ policy.policyVersion.toList := not_not.mpr checked
  rw [build, dif_pos policy.policyIdBounded, if_neg dotted, dif_pos bounded]
  split
  · rename_i error refused
    cases accepts.symm.trans refused
  · rename_i rules accepted
    obtain rfl := Except.ok.inj (accepts.symm.trans accepted)
    rfl

/-- What is read back are the same rules. -/
theorem reads_back {policy : SeparationOfDutyPolicy} (checked : policy.Checked) :
    fromBundlePayload policy.canonicalDict = .ok policy.sortedRules := by
  have sortedChecked : policy.sortedRules.Checked := checked
  refine except_bind_of_ok (Payload.reads_str (field_at 0 rfl)) ?_
  refine except_bind_of_ok (Payload.reads_str (field_at 1 rfl)) ?_
  refine except_bind_of_ok (Payload.reads_pairs (field_at 2 rfl)) ?_
  exact build_rebuilds sortedChecked

theorem sorted_pairs_idempotent (pairs : List RolePair) :
    sortedPairs (sortedPairs pairs) = sortedPairs pairs := by
  have canonical : (sortedPairs pairs).map canonicalPair = sortedPairs pairs := by
    conv_rhs => rw [← List.map_id (sortedPairs pairs)]
    apply List.map_congr_left
    intro pair member
    obtain ⟨rule, _, rfl⟩ := mem_sorted_pairs.mp member
    exact canonical_idempotent rule
  have sorted : (sortedPairs pairs).Pairwise (fun left right => pairPrecedes left right = true) :=
    (@merge_sorted _ _ _ pairPrecedes (fun pair => toLex (pairTexts pair))
      (fun _ _ => decide_eq_true_iff) _).imp decide_eq_true
  conv_lhs => rw [sortedPairs, canonical]
  exact List.mergeSort_of_pairwise sorted

/-- Writing the same rules again gives the same payload. -/
theorem same_canonical_dict (policy : SeparationOfDutyPolicy) :
    policy.sortedRules.canonicalDict = policy.canonicalDict := by
  have fields : policy.sortedRules.canonicalFields = policy.canonicalFields := by
    simp only [canonicalFields, sortedRules, sorted_pairs_idempotent]
  rw [canonicalDict, fields, canonicalDict]

/-- The same pairs are forbidden. -/
theorem sorted_rules_pairs (policy : SeparationOfDutyPolicy) (pair : RolePair) :
    (∃ rule ∈ policy.sortedRules.forbiddenRolePairs, samePair rule pair) ↔
      ∃ rule ∈ policy.forbiddenRolePairs, samePair rule pair := by
  constructor
  · rintro ⟨rule, member, same⟩
    obtain ⟨original, listed, rfl⟩ := mem_sorted_pairs.mp member
    refine ⟨original, listed, ?_⟩
    rw [same_pair_iff] at same ⊢
    rw [← same, canonical_idempotent]
  · rintro ⟨rule, member, same⟩
    refine ⟨canonicalPair rule, mem_sorted_pairs.mpr ⟨rule, member, rfl⟩, ?_⟩
    rw [same_pair_iff] at same ⊢
    rw [← same, canonical_idempotent]

end SeparationOfDutyPolicy

end KarmaSakshi.Domain
