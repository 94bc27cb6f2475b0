import KarmaSakshi.Guarantees.Quorum

/-!
How far the evaluation of a quorum depends on the order of the statements.

The verdict reads of the counted approvals what they say and of the dissents who
dissents, so it is settled once tied latest statements agree.  Where they do not, the
statement that is submitted first decides.
-/

namespace KarmaSakshi.Guarantees

open KarmaSakshi.Domain Selection
open KarmaSakshi.Domain.ApprovalStatement (approverId rank)

set_option autoImplicit false

section Evaluation

variable (crypto : CryptoPrimitives) (primitives : ApprovalPrimitives) (policy : ApprovalPolicy)
  (question : QuorumQuestion) (statements : List ApprovalStatement)

/-! ### The order of the statements -/

/-- The parts of a verdict that are to be reproducible. -/
structure SameVerdict (first second : QuorumResult) : Prop where
  satisfied : first.satisfied = second.satisfied
  approving : first.approvingPrincipalIds = second.approvingPrincipalIds
  dissenting : first.dissentingPrincipalIds = second.dissentingPrincipalIds
  missing : first.missingRoles = second.missingRoles
  setHash : first.approvalSetHash = second.approvalSetHash

inductive SameOutcome : Except PyError QuorumResult → Except PyError QuorumResult → Prop where
  | verdict {first second : QuorumResult} (same : SameVerdict first second) :
      SameOutcome (.ok first) (.ok second)
  | refused (error : PyError) : SameOutcome (.error error) (.error error)

/-- A permutation of the statements, some of them repeated if the limit allows. -/
def Rearranges (limit : Nat) (other : List ApprovalStatement) : Prop :=
  ∃ copies, (∀ statement ∈ copies, statement ∈ statements) ∧
    other.Perm (statements ++ copies) ∧ (copies = [] ∨ other.length ≤ limit)

/-- Every rearrangement of the statements is evaluated alike. -/
def OrderFree : Prop :=
  ∀ other, Rearranges statements policy.maxStatementsConsidered other →
    SameOutcome (evaluateQuorum crypto primitives policy question statements)
      (evaluateQuorum crypto primitives policy question other)

/-- Several latest statements of one approver decide alike, and approve in the same
words. -/
def TiesAgree : Prop :=
  ∀ first second, IsLatest crypto primitives policy question statements first →
    IsLatest crypto primitives policy question statements second →
    first.approver.principalId = second.approver.principalId →
      first.decision = second.decision ∧
        (first.decision = .approve → first.unsigned = second.unsigned)

section Order

variable {crypto primitives policy question statements}

theorem same_sorted {left right : List String} (sorted : left.Pairwise (· < ·))
    (otherSorted : right.Pairwise (· < ·)) (members : ∀ item, item ∈ left ↔ item ∈ right) :
    left = right := by
  have permuted : left.Perm right :=
    (List.perm_ext_iff_of_nodup (sorted.imp ne_of_lt) (otherSorted.imp ne_of_lt)).mpr members
  exact permuted.eq_of_pairwise (fun _ _ _ _ less greater => absurd greater (lt_asymm less))
    sorted otherSorted

section Agreement

variable {survivors others : List ApprovalStatement}

/-- Ties that agree, over the survivors. -/
def Agreeing (survivors : List ApprovalStatement) : Prop :=
  ∀ first second, Greatest approverId rank survivors first →
    Greatest approverId rank survivors second → approverId first = approverId second →
      first.decision = second.decision ∧
        (first.decision = .approve → first.unsigned = second.unsigned)

theorem counted_ids_subset (agreeing : Agreeing survivors)
    (members : ∀ statement, statement ∈ survivors ↔ statement ∈ others) {decision : Decision}
    {approver : String} (member : approver ∈ (counted decision survivors).map approverId) :
    approver ∈ (counted decision others).map approverId := by
  obtain ⟨statement, counts, rfl⟩ := List.mem_map.mp member
  obtain ⟨chosenHere, decides⟩ := mem_counted.mp counts
  have greatest := chosen_greatest chosenHere
  obtain ⟨best, chosenThere, same, _⟩ := (greatest.of_members members).chosen_beside
  have bestGreatest := (chosen_greatest chosenThere).of_members (fun other => (members other).symm)
  have agreed := agreeing best statement bestGreatest greatest same
  exact List.mem_map.mpr ⟨best, mem_counted.mpr ⟨chosenThere, agreed.1.trans decides⟩, same⟩

theorem agreeing_of_members (agreeing : Agreeing survivors)
    (members : ∀ statement, statement ∈ survivors ↔ statement ∈ others) : Agreeing others := by
  intro first second greatest other same
  exact agreeing first second (greatest.of_members (fun item => (members item).symm))
    (other.of_members (fun item => (members item).symm)) same

theorem counted_ids_same (agreeing : Agreeing survivors)
    (members : ∀ statement, statement ∈ survivors ↔ statement ∈ others) (decision : Decision) :
    (counted decision survivors).map approverId = (counted decision others).map approverId := by
  refine same_sorted counted_approvers_sorted counted_approvers_sorted (fun approver => ?_)
  exact ⟨counted_ids_subset agreeing members, counted_ids_subset (agreeing_of_members agreeing
    members) (fun statement => (members statement).symm)⟩

/-- The counted approvals say the same, in the same order. -/
theorem counted_words_same (agreeing : Agreeing survivors)
    (members : ∀ statement, statement ∈ survivors ↔ statement ∈ others) :
    (counted .approve survivors).map ApprovalStatement.unsigned =
      (counted .approve others).map ApprovalStatement.unsigned := by
  apply map_of_same_owners (counted_ids_same agreeing members .approve)
  intro statement counts other otherCounts same
  obtain ⟨chosenHere, approves⟩ := mem_counted.mp counts
  obtain ⟨chosenThere, _⟩ := mem_counted.mp otherCounts
  exact (agreeing statement other (chosen_greatest chosenHere)
    ((chosen_greatest chosenThere).of_members (fun item => (members item).symm)) same).2 approves

/-- The verdict reads of the approvals only what they say, of the dissents only who
dissents. -/
theorem same_verdict {approving otherApproving dissenting otherDissenting : List ApprovalStatement}
    {first second : QuorumResult}
    (verdict : VerdictOn primitives policy question approving dissenting first)
    (otherVerdict : VerdictOn primitives policy question otherApproving otherDissenting second)
    (words : approving.map ApprovalStatement.unsigned =
      otherApproving.map ApprovalStatement.unsigned)
    (dissents : dissenting.map approverId = otherDissenting.map approverId) :
    SameVerdict first second := by
  have reads : ∀ {Value : Type} (read : ApprovalStatement → Value),
      (∀ statement, read statement.unsigned = read statement) →
        approving.map read = otherApproving.map read := by
    intro Value read signatureFree
    have through := congrArg (List.map read) words
    rw [List.map_map, List.map_map] at through
    have dropped : read ∘ ApprovalStatement.unsigned = read := funext signatureFree
    rwa [dropped] at through
  have roles : approving.filterMap ApprovalStatement.role =
      otherApproving.filterMap ApprovalStatement.role := by
    have through := congrArg (List.filterMap id)
      (reads ApprovalStatement.role (fun _ => rfl))
    rwa [List.filterMap_map, List.filterMap_map] at through
  have lengths : approving.length = otherApproving.length := by
    simpa using congrArg List.length words
  have nobody : dissenting = [] ↔ otherDissenting = [] := by
    rw [← @List.map_eq_nil_iff _ _ approverId, dissents, List.map_eq_nil_iff]
  have cooling : coolingOffRemaining policy approving question.now =
      coolingOffRemaining policy otherApproving question.now := by
    rw [coolingOffRemaining, coolingOffRemaining,
      reads ApprovalStatement.signedAt (fun _ => rfl)]
  have missing : first.missingRoles = second.missingRoles := by
    rw [verdict.missing, otherVerdict.missing, roles]
  constructor
  · rw [Bool.eq_iff_iff, verdict.satisfied, otherVerdict.satisfied, lengths, missing, nobody,
      cooling]
  · rw [verdict.approvingIds, otherVerdict.approvingIds]
    exact reads approverId (fun _ => rfl)
  · rw [verdict.dissentingIds, otherVerdict.dissentingIds, dissents]
  · exact missing
  · rw [verdict.setHash, otherVerdict.setHash,
      reads (ApprovalStatement.canonicalHash primitives) (fun _ => rfl)]

end Agreement

theorem ties_agree_over_survivors :
    TiesAgree crypto primitives policy question statements ↔
      Agreeing (survivorsOf crypto primitives policy question statements) := by
  constructor
  · intro agree first second greatest other same
    exact agree first second (is_latest_iff.mpr greatest) (is_latest_iff.mpr other) same
  · intro agreeing first second latest other same
    exact agreeing first second (is_latest_iff.mp latest) (is_latest_iff.mp other) same

theorem order_free_of_agreement (agree : TiesAgree crypto primitives policy question statements)
    (within : statements.length ≤ policy.maxStatementsConsidered) {other : List ApprovalStatement}
    (rearranges : Rearranges statements policy.maxStatementsConsidered other) :
    SameOutcome (evaluateQuorum crypto primitives policy question statements)
      (evaluateQuorum crypto primitives policy question other) := by
  obtain ⟨copies, copied, permuted, limited⟩ := rearranges
  have otherWithin : other.length ≤ policy.maxStatementsConsidered := by
    rcases limited with none | enough
    · rw [permuted.length_eq, none, List.append_nil]
      exact within
    · exact enough
  have members : ∀ statement,
      statement ∈ survivorsOf crypto primitives policy question statements ↔
        statement ∈ survivorsOf crypto primitives policy question other := by
    intro statement
    rw [mem_survivors, mem_survivors, permuted.mem_iff, List.mem_append]
    constructor
    · exact fun inside => ⟨Or.inl inside.1, inside.2⟩
    · rintro ⟨original | copy, survives⟩
      · exact ⟨original, survives⟩
      · exact ⟨copied statement copy, survives⟩
  obtain ⟨turnedDown, evaluated⟩ := evaluate_within crypto primitives question within
  obtain ⟨otherTurnedDown, otherEvaluated⟩ := evaluate_within crypto primitives question
    otherWithin
  rw [evaluated, otherEvaluated]
  have agreeing := ties_agree_over_survivors.mp agree
  exact .verdict (same_verdict (quorum_verdict_on _ _ _ _ _) (quorum_verdict_on _ _ _ _ _)
    (counted_words_same agreeing members) (counted_ids_same agreeing members .dissent))

/-- An oversized batch is refused in every order. -/
theorem oversized_refused (oversized : policy.maxStatementsConsidered < statements.length)
    {other : List ApprovalStatement}
    (rearranges : Rearranges statements policy.maxStatementsConsidered other) :
    SameOutcome (evaluateQuorum crypto primitives policy question statements)
      (evaluateQuorum crypto primitives policy question other) := by
  obtain ⟨copies, _, permuted, limited⟩ := rearranges
  have longer : statements.length ≤ other.length := by
    rw [permuted.length_eq, List.length_append]
    exact Nat.le_add_right _ _
  rcases limited with rfl | enough
  · rw [List.append_nil] at permuted
    unfold evaluateQuorum
    rw [permuted.length_eq, if_pos oversized, if_pos oversized]
    exact .refused _
  · omega

/-- A latest statement moved to the front is the one that counts; the others stay. -/
theorem moved_to_front {first : ApprovalStatement}
    (latest : IsLatest crypto primitives policy question statements first) :
    ∃ other, other.Perm statements ∧
      chosen approverId rank (survivorsOf crypto primitives policy question other) =
        first :: chosen approverId rank ((survivorsOf crypto primitives policy question
          statements).filter (fun statement => approverId statement ≠ approverId first)) := by
  obtain ⟨before, after, rfl⟩ := List.append_of_mem latest.member
  refine ⟨first :: (before ++ after), List.perm_middle.symm, ?_⟩
  have survives : rejectReason crypto primitives policy question first = none :=
    reject_none_iff.mpr latest.survives
  have kept : survivorsOf crypto primitives policy question (first :: (before ++ after)) =
      first :: survivorsOf crypto primitives policy question (before ++ after) :=
    List.filter_cons_of_pos (by rw [decide_eq_true_eq]; exact survives)
  have highest := (is_latest_iff.mp latest).highest
  rw [kept, chosen_cons]
  · congr 2
    rw [survivorsOf, survivorsOf, List.filter_append, List.filter_append, List.filter_append,
      List.filter_append, List.filter_cons_of_pos (by rw [decide_eq_true_eq]; exact survives),
      List.filter_cons_of_neg (by simp)]
  · intro other member same
    refine highest other ?_ same
    rw [mem_survivors] at member ⊢
    refine ⟨?_, member.2⟩
    rcases List.mem_append.mp member.1 with inside | inside
    · exact List.mem_append_left _ inside
    · exact List.mem_append_right _ (List.mem_cons_of_mem _ inside)

section Fronts

variable {survivors others : List ApprovalStatement} {first : ApprovalStatement}

theorem front_approves (front : chosen approverId rank survivors = first :: others)
    (strangers : ∀ statement ∈ others, approverId statement ≠ approverId first) :
    approverId first ∈ (counted .approve survivors).map approverId ↔
      first.decision = .approve := by
  rw [List.mem_map]
  constructor
  · rintro ⟨statement, counts, same⟩
    obtain ⟨inside, approves⟩ := mem_counted.mp counts
    rw [front] at inside
    rcases List.mem_cons.mp inside with rfl | stranger
    · exact approves
    · exact absurd same (strangers statement stranger)
  · intro approves
    refine ⟨first, mem_counted.mpr ⟨?_, approves⟩, rfl⟩
    rw [front]
    exact List.mem_cons_self

theorem front_counted (front : chosen approverId rank survivors = first :: others)
    (approves : first.decision = .approve) :
    (counted .approve survivors).Perm
      (first :: others.filter (fun statement => statement.decision = .approve)) := by
  have kept : (counted .approve survivors).Perm _ := counted_perm
  rw [front, List.filter_cons_of_pos (by rw [decide_eq_true_eq]; exact approves)] at kept
  exact kept

end Fronts

/-- Two permutations that are evaluated alike count the same approvers and hash the same
approvals. -/
theorem permutations_count_alike (free : OrderFree crypto primitives policy question statements)
    (within : statements.length ≤ policy.maxStatementsConsidered)
    {front other : List ApprovalStatement} (permuted : front.Perm statements)
    (otherPermuted : other.Perm statements) :
    (counted .approve (survivorsOf crypto primitives policy question front)).map approverId =
        (counted .approve (survivorsOf crypto primitives policy question other)).map approverId ∧
      primitives.setDigest (pySorted ((counted .approve (survivorsOf crypto primitives policy
        question front)).map (ApprovalStatement.canonicalHash primitives))) =
      primitives.setDigest (pySorted ((counted .approve (survivorsOf crypto primitives policy
        question other)).map (ApprovalStatement.canonicalHash primitives))) := by
  have evaluations : ∀ list : List ApprovalStatement, list.Perm statements →
      ∃ result original, evaluateQuorum crypto primitives policy question statements =
          .ok original ∧ SameVerdict original result ∧
        VerdictOn primitives policy question
          (counted .approve (survivorsOf crypto primitives policy question list))
          (counted .dissent (survivorsOf crypto primitives policy question list)) result := by
    intro list permuted
    have listWithin : list.length ≤ policy.maxStatementsConsidered :=
      permuted.length_eq.trans_le within
    obtain ⟨turnedDown, evaluated⟩ := evaluate_within crypto primitives question
      listWithin
    have alike := free list ⟨[], by simp, by simpa using permuted, Or.inl rfl⟩
    rw [evaluated] at alike
    generalize original : evaluateQuorum crypto primitives policy question statements = outcome
      at alike
    cases alike with
    | verdict same => exact ⟨_, _, rfl, same, quorum_verdict_on _ _ _ _ _⟩
  obtain ⟨result, original, evaluated, same, verdict⟩ := evaluations front permuted
  obtain ⟨otherResult, _, otherEvaluated, otherSame, otherVerdict⟩ := evaluations other otherPermuted
  obtain rfl := Except.ok.inj (evaluated.symm.trans otherEvaluated)
  rw [← verdict.approvingIds, ← otherVerdict.approvingIds, ← verdict.setHash,
    ← otherVerdict.setHash]
  exact ⟨same.approving.symm.trans otherSame.approving, same.setHash.symm.trans otherSame.setHash⟩

theorem agreement_of_order_free (digests : Function.Injective primitives.statementDigest)
    (sets : Function.Injective primitives.setDigest)
    (free : OrderFree crypto primitives policy question statements)
    (within : statements.length ≤ policy.maxStatementsConsidered) :
    TiesAgree crypto primitives policy question statements := by
  intro first second latest otherLatest same
  have sameId : approverId first = approverId second := same
  obtain ⟨front, permuted, chosenFront⟩ := moved_to_front latest
  obtain ⟨otherFront, otherPermuted, chosenOther⟩ := moved_to_front otherLatest
  obtain ⟨ids, hashes⟩ := permutations_count_alike free within permuted otherPermuted
  have strangers : ∀ statement ∈ chosen approverId rank ((survivorsOf crypto primitives policy
      question statements).filter (fun statement => approverId statement ≠ approverId first)),
      approverId statement ≠ approverId first := by
    intro statement member
    simpa using (List.mem_filter.mp (chosen_greatest member).member).2
  rw [← sameId] at chosenOther
  have listed := front_approves chosenFront strangers
  have otherListed := front_approves chosenOther (by rwa [← sameId])
  rw [ids, sameId, otherListed] at listed
  refine ⟨?_, ?_⟩
  · cases decided : first.decision with
    | approve => exact (listed.mpr decided).symm
    | dissent =>
        cases otherDecided : second.decision with
        | approve => cases decided.symm.trans (listed.mp otherDecided)
        | dissent => rfl
  · intro approves
    have sorted := sets hashes
    have hashesPermuted : ((counted .approve (survivorsOf crypto primitives policy question
        front)).map (ApprovalStatement.canonicalHash primitives)).Perm
        ((counted .approve (survivorsOf crypto primitives policy question otherFront)).map
          (ApprovalStatement.canonicalHash primitives)) := by
      refine (py_sorted_perm _).symm.trans ?_
      rw [sorted]
      exact py_sorted_perm _
    have heads := (((front_counted chosenFront approves).map
      (ApprovalStatement.canonicalHash primitives)).symm.trans hashesPermuted).trans
      ((front_counted chosenOther (listed.mpr approves)).map
        (ApprovalStatement.canonicalHash primitives))
    rw [List.map_cons, List.map_cons] at heads
    have together := Multiset.coe_eq_coe.mpr heads
    rw [← Multiset.cons_coe, ← Multiset.cons_coe, Multiset.cons_inj_left] at together
    exact digests together

end Order

/-- The evaluation does not depend on the order of the statements exactly when tied
latest statements agree, for collision-free digests. -/
theorem order_free_iff_ties_agree (digests : Function.Injective primitives.statementDigest)
    (sets : Function.Injective primitives.setDigest) :
    OrderFree crypto primitives policy question statements ↔
      (statements.length ≤ policy.maxStatementsConsidered →
        TiesAgree crypto primitives policy question statements) := by
  constructor
  · exact agreement_of_order_free digests sets
  · intro agree other rearranges
    by_cases within : statements.length ≤ policy.maxStatementsConsidered
    · exact order_free_of_agreement (agree within) within rearranges
    · exact oversized_refused (not_le.mp within) rearranges

end Evaluation

/-! ### One officer, two decisions -/

section Officers

open KarmaSakshi.Domain.Officers

/-- Alice's approval and her objection both survive, and neither is later. -/
theorem both_latest {statement : ApprovalStatement}
    (member : statement ∈ [signed approval, signed objection]) :
    IsLatest crypto digests policy question [signed approval, signed objection] statement := by
  have drawn : ∀ other ∈ [signed approval, signed objection],
      Survives crypto digests policy question other ∧
        other.signedAt = approval.signedAt ∧ other.statementId = approval.statementId := by
    intro other otherMember
    rcases List.mem_cons.mp otherMember with rfl | second
    · exact ⟨signed_survives approval_submitted, rfl, rfl⟩
    · rw [List.mem_singleton.mp second]
      exact ⟨signed_survives objection_submitted, rfl, rfl⟩
  obtain ⟨survives, time, id⟩ := drawn statement member
  refine ⟨member, survives, ?_⟩
  intro other otherMember _ _
  obtain ⟨_, otherTime, otherId⟩ := drawn other otherMember
  rw [time, id, otherTime, otherId]
  exact Or.inr ⟨rfl, le_refl _⟩

/-- Whichever of the two statements comes first decides. -/
theorem tied_statements_depend_on_order :
    ¬ OrderFree crypto digests policy question [signed approval, signed objection] := by
  intro free
  have agree := agreement_of_order_free statement_digest_injective set_digest_injective free
    (by decide)
  have decided := (agree (signed approval) (signed objection) (both_latest List.mem_cons_self)
    (both_latest (List.mem_cons_of_mem _ List.mem_cons_self)) rfl).1
  cases decided

/-- The digests of the officers' statements have no collisions. -/
theorem officers_order_free_iff :
    OrderFree crypto digests policy question [signed approval, signed secondApproval] ↔
      ([signed approval, signed secondApproval].length ≤ policy.maxStatementsConsidered →
        TiesAgree crypto digests policy question [signed approval, signed secondApproval]) :=
  order_free_iff_ties_agree crypto digests policy question _ statement_digest_injective
    set_digest_injective

end Officers

end KarmaSakshi.Guarantees
