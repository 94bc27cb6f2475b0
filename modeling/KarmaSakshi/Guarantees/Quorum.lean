import KarmaSakshi.Domain.QuorumScenario

/-!
What the evaluation of a quorum decides.

An overflowing date makes the code raise where the model says that the cooling-off
period is not over; either way nothing is reported as satisfied.
-/

namespace KarmaSakshi.Guarantees

open KarmaSakshi.Domain Selection
open KarmaSakshi.Domain.ApprovalStatement (approverId rank)

set_option autoImplicit false

section Evaluation

variable (crypto : CryptoPrimitives) (primitives : ApprovalPrimitives) (policy : ApprovalPolicy)
  (question : QuorumQuestion) (statements : List ApprovalStatement)

/-! ### The verdict as the policy reads -/

/-- A latest statement that approves. -/
def Counts (statement : ApprovalStatement) : Prop :=
  IsLatest crypto primitives policy question statements statement ∧ statement.decision = .approve

def approvers : Set String :=
  {approver | ∃ statement, Counts crypto primitives policy question statements statement ∧
    statement.approver.principalId = approver}

section Specification

variable {crypto primitives policy question statements}

variable (crypto primitives question) in
theorem evaluate_within (within : statements.length ≤ policy.maxStatementsConsidered) :
    ∃ turnedDown, evaluateQuorum crypto primitives policy question statements =
      .ok (quorumVerdict primitives policy question
        (survivorsOf crypto primitives policy question statements) turnedDown) := by
  unfold evaluateQuorum
  rw [if_neg (not_lt.mpr within)]
  exact ⟨_, rfl⟩

end Specification

end Evaluation

end KarmaSakshi.Guarantees
