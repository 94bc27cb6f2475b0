import Mathlib.Data.List.Sort
import KarmaSakshi.Domain.Approval

/-!
Protocol roles and the separation of duties between them.
-/

namespace KarmaSakshi.Domain

set_option autoImplicit false

/-- The roles a principal may hold with respect to one manifest. -/
inductive ProtocolRole : Type where
  | proposer
  | resolver
  | assessor
  | sealer
  | approver
  | executor
  | verifier
  | witness
  | compensator
  | auditor
  deriving DecidableEq

def ProtocolRole.value : ProtocolRole → String
  | proposer => "proposer"
  | resolver => "resolver"
  | assessor => "assessor"
  | sealer => "sealer"
  | approver => "approver"
  | executor => "executor"
  | verifier => "verifier"
  | witness => "witness"
  | compensator => "compensator"
  | auditor => "auditor"

abbrev RoleEntry := ProtocolRole × String

def maxRoleAssignments : Nat := 256

/-- Which principals held which roles for one exact manifest. -/
structure RoleAssignment where
  manifestHash : String
  assignments : List RoleEntry
  manifestHashShape : isDigest manifestHash
  bounded : assignments.length ≤ maxRoleAssignments
  principalsBounded : ∀ entry ∈ assignments, boundedText 256 entry.2
  distinct : assignments.Nodup

namespace RoleAssignment

private def refusedRoles {Value : Type} (message : String) : Except PyError Value :=
  .error ⟨.roleAssignment, message⟩

/-- The first entry the constructor turns down: a principal out of bounds, or a repetition. -/
def offendingEntry : (seen entries : List RoleEntry) → Option String
  | _, [] => none
  | seen, entry :: rest =>
      if ¬ boundedText 256 entry.2 then
        some ("role assignment principal_id must be 1-256 chars, got " ++ pyRepr entry.2)
      else if entry ∈ seen then
        some ("duplicate role assignment entry: role=" ++ pyRepr entry.1.value ++
          " principal_id=" ++ pyRepr entry.2)
      else offendingEntry (entry :: seen) rest

theorem entries_accepted {seen entries : List RoleEntry}
    (accepted : offendingEntry seen entries = none) :
    (∀ entry ∈ entries, boundedText 256 entry.2) ∧ entries.Nodup ∧
      ∀ entry ∈ entries, entry ∉ seen := by
  induction entries generalizing seen with
  | nil => simp
  | cons entry rest ih =>
      unfold offendingEntry at accepted
      by_cases bounded : boundedText 256 entry.2
      · by_cases repeated : entry ∈ seen
        · simp [bounded, repeated] at accepted
        · simp only [bounded, repeated, not_true_eq_false, if_false] at accepted
          obtain ⟨allBounded, distinct, fresh⟩ := ih accepted
          refine ⟨?_, ?_, ?_⟩
          · intro other member
            rcases List.mem_cons.mp member with rfl | later
            · exact bounded
            · exact allBounded other later
          · exact List.nodup_cons.mpr
              ⟨fun member => fresh entry member List.mem_cons_self, distinct⟩
          · intro other member
            rcases List.mem_cons.mp member with rfl | later
            · exact repeated
            · exact fun known => fresh other later (List.mem_cons_of_mem _ known)
      · simp [bounded] at accepted

/-- The constructor with its checks in order. -/
def build (manifestHash : String) (assignments : List RoleEntry) :
    Except PyError RoleAssignment :=
  if shape : isDigest manifestHash then
    if bounded : assignments.length ≤ maxRoleAssignments then
      match accepted : offendingEntry [] assignments with
      | some message => refusedRoles message
      | none => .ok {
          manifestHash
          assignments
          manifestHashShape := shape
          bounded
          principalsBounded := (entries_accepted accepted).1
          distinct := (entries_accepted accepted).2.1 }
    else refusedRoles ("role assignment has " ++ toString assignments.length ++
      " entries, exceeding the " ++ toString maxRoleAssignments ++ " bound")
  else refusedRoles ("role assignment manifest_hash must be a sha256:<hex> digest, got " ++
    pyRepr manifestHash)

/-- By role value, then by principal. -/
def entryPrecedes (left right : RoleEntry) : Prop :=
  left.1.value < right.1.value ∨ (left.1 = right.1 ∧ left.2 ≤ right.2)

instance : DecidableRel entryPrecedes :=
  fun _ _ => inferInstanceAs (Decidable (_ ∨ (_ ∧ _)))

/-- `sorted(set(entries))`. -/
def sortedEntries (entries : List RoleEntry) : List RoleEntry :=
  entries.eraseDups.insertionSort entryPrecedes

def principalsFor (assignment : RoleAssignment) (role : ProtocolRole) : List String :=
  pySorted ((assignment.assignments.filter (fun entry => entry.1 = role)).map Prod.snd).eraseDups

def merge (assignment : RoleAssignment) (other : Option RoleAssignment) :
    Except PyError RoleAssignment :=
  match other with
  | none => .ok assignment
  | some other =>
      if other.manifestHash ≠ assignment.manifestHash then
        refusedRoles ("cannot merge role assignments for different manifests: " ++
          pyRepr assignment.manifestHash ++ " != " ++ pyRepr other.manifestHash)
      else build assignment.manifestHash
        (sortedEntries (assignment.assignments ++ other.assignments))

/-- `_role_participation_metadata`: one key per role present, in role order. -/
def participationMetadata (assignment : RoleAssignment) : List (String × String) :=
  ((sortedEntries assignment.assignments).map Prod.fst).eraseDups.map (fun role =>
    ("role:" ++ role.value, String.intercalate "," (assignment.principalsFor role)))

end RoleAssignment

def baseRoleAssignment (manifestHash proposerId executorId : String) (approverIds : List String) :
    Except PyError RoleAssignment :=
  RoleAssignment.build manifestHash (RoleAssignment.sortedEntries
    ((.proposer, proposerId) :: (.executor, executorId) ::
      approverIds.map (fun approverId => (ProtocolRole.approver, approverId))))

/-! ### The entries of an assignment -/

section Entries

variable {manifestHash : String} {entries : List RoleEntry} {entry : RoleEntry}
  {built base merged : RoleAssignment}

theorem mem_sorted_entries : entry ∈ RoleAssignment.sortedEntries entries ↔ entry ∈ entries := by
  rw [RoleAssignment.sortedEntries, List.mem_insertionSort, List.mem_eraseDups]

theorem built_entries (accepted : RoleAssignment.build manifestHash entries = .ok built) :
    built.assignments = entries := by
  unfold RoleAssignment.build at accepted
  split_ifs at accepted with shape bounded
  · split at accepted
    · cases accepted
    · obtain rfl := Except.ok.inj accepted
      rfl
  · cases accepted
  · cases accepted

/-- A merged assignment holds the entries of both. -/
theorem mem_merged {other : Option RoleAssignment} (merges : base.merge other = .ok merged) :
    entry ∈ merged.assignments ↔
      entry ∈ base.assignments ∨ ∃ further ∈ other, entry ∈ further.assignments := by
  cases other with
  | none =>
      obtain rfl := Except.ok.inj merges
      simp
  | some further =>
      simp only [RoleAssignment.merge] at merges
      by_cases differs : further.manifestHash ≠ base.manifestHash
      · rw [if_pos differs] at merges
        cases merges
      · rw [if_neg differs] at merges
        rw [built_entries merges, mem_sorted_entries, List.mem_append]
        simp

theorem mem_base_entries {proposerId executorId : String} {approverIds : List String}
    (based : baseRoleAssignment manifestHash proposerId executorId approverIds = .ok base) :
    entry ∈ base.assignments ↔ entry = (.proposer, proposerId) ∨ entry = (.executor, executorId) ∨
      ∃ approverId ∈ approverIds, entry = (.approver, approverId) := by
  rw [built_entries based, mem_sorted_entries, List.mem_cons, List.mem_cons, List.mem_map]
  simp only [eq_comm]

end Entries

/-! ### Separation of duties -/

/-- The two roles of a pair in either order. -/
def samePair (left right : ProtocolRole × ProtocolRole) : Prop :=
  left = right ∨ left = right.swap

structure SeparationOfDutyPolicy where
  policyId : String
  policyVersion : String
  forbiddenRolePairs : List (ProtocolRole × ProtocolRole)
  policyIdBounded : boundedText 128 policyId
  bounded : forbiddenRolePairs.length ≤ 64
  notReflexive : ∀ pair ∈ forbiddenRolePairs, pair.1 ≠ pair.2
  distinct : forbiddenRolePairs.Pairwise (fun left right => ¬ samePair left right)

structure SeparationOfDutyViolation where
  roleA : ProtocolRole
  roleB : ProtocolRole
  principalId : String

structure SeparationOfDutyResult where
  satisfied : Bool
  violations : List SeparationOfDutyViolation
  reason : String

private def violationText (violation : SeparationOfDutyViolation) : String :=
  pyRepr violation.principalId ++ " holds both " ++ pyRepr violation.roleA.value ++ " and " ++
    pyRepr violation.roleB.value

/-- Whether any principal holds both roles of a forbidden pair. -/
def checkSeparationOfDuty (assignment : RoleAssignment) (policy : SeparationOfDutyPolicy) :
    SeparationOfDutyResult :=
  let violations := policy.forbiddenRolePairs.flatMap (fun pair =>
    ((assignment.principalsFor pair.1).filter
      (fun principalId => principalId ∈ assignment.principalsFor pair.2)).map
        (fun principalId => ⟨pair.1, pair.2, principalId⟩))
  if violations.isEmpty then
    { satisfied := true, violations := [], reason := "no separation-of-duty violations" }
  else
    { satisfied := false
      violations
      reason := toString violations.length ++ " separation-of-duty violation(s): " ++
        String.intercalate "; " (violations.map violationText) }

end KarmaSakshi.Domain
