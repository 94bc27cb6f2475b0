import KarmaSakshi.Guarantees.QuorumOrder
import KarmaSakshi.Guarantees.SelfApproval

/-!
Separation of duties: what the verdict depends on, and which grants it holds back.

The check reads an assignment through its entries and a policy through its unordered
pairs.  A merge keeps every entry, so it keeps every violation.
-/

namespace KarmaSakshi.Guarantees

open EffectProgram KarmaSakshi.Domain KarmaSakshi.Engine

set_option autoImplicit false

/-! ### What the check reads -/

section Check

variable {assignment other base merged : RoleAssignment} {policy otherPolicy : SeparationOfDutyPolicy}
  {role : ProtocolRole} {principalId : String} {violation : SeparationOfDutyViolation}

/-- The same rules, in whatever order and orientation the pairs are listed. -/
def SamePairs (policy other : SeparationOfDutyPolicy) : Prop :=
  ∀ pair, (∃ rule ∈ policy.forbiddenRolePairs, samePair rule pair) ↔
    ∃ rule ∈ other.forbiddenRolePairs, samePair rule pair

theorem mem_principals_for :
    principalId ∈ assignment.principalsFor role ↔ (role, principalId) ∈ assignment.assignments := by
  rw [RoleAssignment.principalsFor, pySorted, List.mem_mergeSort, List.mem_eraseDups, List.mem_map]
  constructor
  · rintro ⟨entry, member, rfl⟩
    obtain ⟨inside, same⟩ := List.mem_filter.mp member
    rw [← of_decide_eq_true same]
    exact inside
  · intro inside
    exact ⟨(role, principalId), List.mem_filter.mpr ⟨inside, decide_eq_true rfl⟩, rfl⟩

theorem principals_strictly_sorted :
    (assignment.principalsFor role).Pairwise (· < ·) := by
  have distinct : (assignment.principalsFor role).Nodup :=
    (py_sorted_perm _).nodup_iff.mpr (Selection.nodup_erase_dups _)
  exact ((py_sorted_ascending _).and distinct).imp (fun both => lt_of_le_of_ne both.1 both.2)

/-- The principals of a role do not depend on the order of the entries. -/
theorem principals_of_entries
    (entries : ∀ entry, entry ∈ assignment.assignments ↔ entry ∈ other.assignments) :
    assignment.principalsFor role = other.principalsFor role := by
  apply same_sorted principals_strictly_sorted principals_strictly_sorted
  intro principalId
  rw [mem_principals_for, mem_principals_for, entries]

theorem check_of_entries
    (entries : ∀ entry, entry ∈ assignment.assignments ↔ entry ∈ other.assignments) :
    checkSeparationOfDuty assignment policy = checkSeparationOfDuty other policy := by
  have principals : assignment.principalsFor = other.principalsFor :=
    funext fun _ => principals_of_entries entries
  rw [checkSeparationOfDuty, checkSeparationOfDuty, principals]

/-- Who holds both roles of which forbidden pair. -/
theorem mem_violations :
    violation ∈ (checkSeparationOfDuty assignment policy).violations ↔
      (violation.roleA, violation.roleB) ∈ policy.forbiddenRolePairs ∧
        (violation.roleA, violation.principalId) ∈ assignment.assignments ∧
        (violation.roleB, violation.principalId) ∈ assignment.assignments := by
  have listed : violation ∈ policy.forbiddenRolePairs.flatMap (fun pair =>
      ((assignment.principalsFor pair.1).filter
        (fun principalId => principalId ∈ assignment.principalsFor pair.2)).map
          (fun principalId => (⟨pair.1, pair.2, principalId⟩ : SeparationOfDutyViolation))) ↔
      (violation.roleA, violation.roleB) ∈ policy.forbiddenRolePairs ∧
        (violation.roleA, violation.principalId) ∈ assignment.assignments ∧
        (violation.roleB, violation.principalId) ∈ assignment.assignments := by
    simp only [List.mem_flatMap, List.mem_map, List.mem_filter, decide_eq_true_eq,
      mem_principals_for]
    constructor
    · rintro ⟨pair, forbidden, principalId, held, rfl⟩
      exact ⟨forbidden, held⟩
    · rintro ⟨forbidden, held⟩
      exact ⟨_, forbidden, violation.principalId, held, rfl⟩
  rw [← listed, checkSeparationOfDuty]
  split_ifs with nothing
  · rw [List.isEmpty_iff] at nothing
    rw [nothing]
  · rfl

theorem satisfied_iff_no_violation :
    (checkSeparationOfDuty assignment policy).satisfied = true ↔
      (checkSeparationOfDuty assignment policy).violations = [] := by
  rw [checkSeparationOfDuty]
  split_ifs with nothing
  · exact iff_of_true rfl rfl
  · rw [List.isEmpty_iff] at nothing
    exact iff_of_false (by simp) nothing

/-- Nobody holds both roles of a forbidden pair. -/
theorem satisfied_iff :
    (checkSeparationOfDuty assignment policy).satisfied = true ↔
      ∀ pair ∈ policy.forbiddenRolePairs, ∀ principalId,
        (pair.1, principalId) ∈ assignment.assignments →
          (pair.2, principalId) ∉ assignment.assignments := by
  rw [satisfied_iff_no_violation, List.eq_nil_iff_forall_not_mem]
  simp only [mem_violations]
  constructor
  · intro none pair forbidden principalId first second
    exact none ⟨pair.1, pair.2, principalId⟩ ⟨forbidden, first, second⟩
  · rintro apart violation ⟨forbidden, first, second⟩
    exact apart _ forbidden _ first second

theorem satisfied_under_same_pairs (pairs : SamePairs policy otherPolicy)
    (satisfied : (checkSeparationOfDuty assignment policy).satisfied = true) :
    (checkSeparationOfDuty assignment otherPolicy).satisfied = true := by
  rw [satisfied_iff] at satisfied ⊢
  intro pair forbidden principalId first second
  obtain ⟨rule, ruled, same⟩ := (pairs pair).mpr ⟨pair, forbidden, Or.inl rfl⟩
  rcases same with rfl | rfl
  · exact satisfied rule ruled principalId first second
  · exact satisfied pair.swap ruled principalId second first

/-- The verdict does not depend on the order of entries, pairs and roles in a pair. -/
theorem same_separation_verdict
    (entries : ∀ entry, entry ∈ assignment.assignments ↔ entry ∈ other.assignments)
    (pairs : SamePairs policy otherPolicy) :
    (checkSeparationOfDuty assignment policy).satisfied =
      (checkSeparationOfDuty other otherPolicy).satisfied := by
  rw [check_of_entries entries, Bool.eq_iff_iff]
  constructor
  · exact satisfied_under_same_pairs pairs
  · exact satisfied_under_same_pairs (fun pair => (pairs pair).symm)

/-- A merge adds entries and so keeps the violations. -/
theorem merge_keeps_violation {further : Option RoleAssignment}
    (merges : base.merge further = .ok merged)
    (violated : violation ∈ (checkSeparationOfDuty base policy).violations) :
    violation ∈ (checkSeparationOfDuty merged policy).violations := by
  rw [mem_violations] at violated ⊢
  obtain ⟨forbidden, first, second⟩ := violated
  exact ⟨forbidden, (mem_merged merges).mpr (Or.inl first),
    (mem_merged merges).mpr (Or.inl second)⟩

end Check

/-! ### Grants issued under a separation bundle -/

section Issuing

variable (readers : PayloadReaders) (call : AuthorizeCall)

/-- The roles the engine derives, merged with the caller's, violate no rule of the presented
bundle. -/
def RolesSeparated (proposerId : String) (approverIds : List String) : Prop :=
  ∀ bundle ∈ call.separationPolicyBundle, ∃ base merged policy,
    baseRoleAssignment call.manifestHash proposerId call.subject.principalId approverIds =
      .ok base ∧
    base.merge call.roleAssignment = .ok merged ∧
    readers.separationPolicy bundle.bundle.payload = .ok policy ∧
    (checkSeparationOfDuty merged policy).violations = []

variable {readers call} {context : EngineContext} {grant : ExecutionGrant} {World : Type}
  {handler : Handler EngineOp EngineReply PyError World} {world after : World}

theorem roles_separated {proposerId : String} {approverIds : List String} {roles : RoleAssignment}
    (combined : combinedRoles call proposerId approverIds = .ok roles)
    (separated : ∀ bundle ∈ call.separationPolicyBundle, ∃ separation,
      readers.separationPolicy bundle.bundle.payload = .ok separation ∧
        (checkSeparationOfDuty roles separation).satisfied = true) :
    RolesSeparated readers call proposerId approverIds := by
  intro bundle presented
  obtain ⟨policy, reads, satisfied⟩ := separated bundle presented
  obtain ⟨base, based, merges⟩ := except_bind_ok combined
  exact ⟨base, roles, policy, based, merges, reads, satisfied_iff_no_violation.mp satisfied⟩

/-- The part that `authorize`, `authorize_with_envelope` and `authorize_plan` share. -/
theorem separated_path {proposerId : String} {approverIds : List String}
    {rest : RoleAssignment → Action ExecutionGrant}
    (returned : (do
      let roles ← Program.settle (combinedRoles call proposerId approverIds)
      authorizeSeparation context readers call roles
      rest roles).Yields handler world (.ok grant) after) :
    RolesSeparated readers call proposerId approverIds := by
  obtain ⟨roles, _, combined, separating⟩ := yields_bind_ok.mp returned
  obtain ⟨_, _, separated, _⟩ := yields_bind_ok.mp separating
  exact roles_separated (yields_settle.mp combined).1.symm (separation_holds separated)

theorem authorize_separated
    (returned : (authorize context readers call).Yields handler world (.ok grant) after) :
    RolesSeparated readers call (actorId call) [call.issuer.principalId] := by
  obtain ⟨_, _, _, budget⟩ := yields_bind_ok.mp returned
  obtain ⟨_, _, _, policy⟩ := yields_bind_ok.mp budget
  obtain ⟨_, _, _, combined⟩ := yields_bind_ok.mp policy
  exact separated_path combined

theorem authorize_with_envelope_separated {envelope : DecisionEnvelope}
    (returned : (authorizeWithEnvelope context readers call envelope).Yields handler world
      (.ok grant) after) :
    RolesSeparated readers call (actorId call) [call.issuer.principalId] := by
  obtain ⟨_, _, _, budget⟩ := yields_bind_ok.mp returned
  obtain ⟨_, _, _, clock⟩ := yields_bind_ok.mp budget
  obtain ⟨_, _, _, checks⟩ := yields_bind_ok.mp clock
  obtain ⟨_, _, _, policy⟩ := yields_bind_ok.mp checks
  obtain ⟨_, _, _, combined⟩ := yields_bind_ok.mp policy
  exact separated_path combined

theorem authorize_plan_separated {graph : CausalEffectGraph}
    (returned : (authorizePlan context readers call graph).Yields handler world (.ok grant)
      after) :
    RolesSeparated readers call (actorId call) [call.issuer.principalId] := by
  obtain ⟨_, _, _, budget⟩ := yields_bind_ok.mp returned
  obtain ⟨_, _, _, checks⟩ := yields_bind_ok.mp budget
  obtain ⟨_, _, _, policy⟩ := yields_bind_ok.mp checks
  obtain ⟨_, _, _, combined⟩ := yields_bind_ok.mp policy
  exact separated_path combined

end Issuing

/-- The verdict is free of order and repetition, no merge clears a violation, and every
operation that issues a grant under a separation bundle does so on roles without one. -/
theorem separation_of_duty_sound (context : EngineContext) (readers : PayloadReaders)
    (call : AuthorizeCall) {World : Type} (handler : Handler EngineOp EngineReply PyError World) :
    (∀ assignment other policy otherPolicy,
      (∀ entry, entry ∈ assignment.assignments ↔ entry ∈ other.assignments) →
        SamePairs policy otherPolicy →
          (checkSeparationOfDuty assignment policy).satisfied =
            (checkSeparationOfDuty other otherPolicy).satisfied) ∧
    (∀ (base merged : RoleAssignment) further policy, base.merge further = .ok merged →
      ∀ violation ∈ (checkSeparationOfDuty base policy).violations,
        violation ∈ (checkSeparationOfDuty merged policy).violations) ∧
    ∀ grant world after,
      ((authorize context readers call).Yields handler world (.ok grant) after →
        RolesSeparated readers call (actorId call) [call.issuer.principalId]) ∧
      (∀ envelope, (authorizeWithEnvelope context readers call envelope).Yields handler world
          (.ok grant) after →
        RolesSeparated readers call (actorId call) [call.issuer.principalId]) ∧
      (∀ graph, (authorizePlan context readers call graph).Yields handler world (.ok grant) after →
        RolesSeparated readers call (actorId call) [call.issuer.principalId]) ∧
      ∀ primitives asked,
        (authorizeWithQuorum context readers call primitives asked).Yields handler world
            (.ok grant) after →
          ∃ issue, IssuedOn context readers call primitives asked issue grant ∧
            RolesSeparated readers call asked.proposer.principalId
              issue.quorum.approvingPrincipalIds := by
  refine ⟨fun _ _ _ _ => same_separation_verdict,
    fun _ _ _ _ merges violation => merge_keeps_violation merges, fun grant world after => ?_⟩
  refine ⟨authorize_separated, fun _ => authorize_with_envelope_separated,
    fun _ => authorize_plan_separated, fun primitives asked returned => ?_⟩
  obtain ⟨issue, issued⟩ := quorum_grant_issued_on returned
  exact ⟨issue, issued, roles_separated issued.combined issued.separated⟩

end KarmaSakshi.Guarantees
