import KarmaSakshi.Engine.GateProtocol

/-!
Which part of a call's work an operation leaves as it was.
-/

namespace KarmaSakshi.Engine

open EffectProgram KarmaSakshi.Domain KarmaSakshi.Stores

set_option autoImplicit false

/-- Only a grant operation changes the hold, only a budget operation the reservation, only an
outbox operation the intent, and only an adapter operation what the adapter answered. -/
structure Work.Keeps (work after : Work) (op : EngineOp) : Prop where
  grant : (∀ inner, op ≠ .grants inner) → after.grant = work.grant
  budget : (∀ inner, op ≠ .budget inner) → after.budget = work.budget
  outbox : (∀ inner, op ≠ .outbox inner) → after.outbox = work.outbox
  adapter : (∀ identity inner, op ≠ .adapter identity inner) → after.adapter = work.adapter

theorem Work.observe_keeps (work : Work) (subject : String) (op : EngineOp)
    (reply : Except PyError (EngineReply op)) :
    work.Keeps (work.observe subject op reply) op := by
  have only := work.observe_only subject op reply
  cases op with
  | grants inner =>
      obtain ⟨_, _, changed⟩ := only
      rw [changed]
      exact ⟨fun other => absurd rfl (other inner), fun _ => rfl, fun _ => rfl, fun _ => rfl⟩
  | budget inner =>
      obtain ⟨_, changed⟩ := only
      rw [changed]
      exact ⟨fun _ => rfl, fun other => absurd rfl (other inner), fun _ => rfl, fun _ => rfl⟩
  | outbox inner =>
      obtain ⟨_, changed⟩ := only
      rw [changed]
      exact ⟨fun _ => rfl, fun _ => rfl, fun other => absurd rfl (other inner), fun _ => rfl⟩
  | adapter identity inner =>
      obtain ⟨_, _, _, changed⟩ := only
      rw [changed]
      exact ⟨fun _ => rfl, fun _ => rfl, fun _ => rfl,
        fun other => absurd rfl (other identity inner)⟩
  | «recall» manifestId =>
      obtain ⟨_, _, _, _, changed⟩ := only
      rw [changed]
      exact ⟨fun _ => rfl, fun _ => rfl, fun _ => rfl, fun _ => rfl⟩
  | remember manifestId record =>
      obtain ⟨_, _, _, _, changed⟩ := only
      rw [changed]
      exact ⟨fun _ => rfl, fun _ => rfl, fun _ => rfl, fun _ => rfl⟩
  | lifecycle inner =>
      obtain ⟨_, _, _, _, changed⟩ := only
      rw [changed]
      exact ⟨fun _ => rfl, fun _ => rfl, fun _ => rfl, fun _ => rfl⟩
  | _ => exact ⟨fun _ => rfl, fun _ => rfl, fun _ => rfl, fun _ => rfl⟩

/-- No reply takes a hold, an intent or an answer of the adapter back to nothing. -/
structure Work.Begun (work after : Work) : Prop where
  grant : after.grant = .idle → work.grant = .idle
  outbox : after.outbox = .idle → work.outbox = .idle
  adapter : after.adapter = .idle → work.adapter = .idle

theorem Work.observe_begun (work : Work) (subject : String) (op : EngineOp)
    (reply : Except PyError (EngineReply op)) :
    work.Begun (work.observe subject op reply) := by
  have keeps := work.observe_keeps subject op reply
  constructor
  · by_cases grantsOp : ∃ inner, op = .grants inner
    · obtain ⟨inner, rfl⟩ := grantsOp
      simp only [Work.observe, Work.observeGrants.eq_def]
      split <;> simp
    · rw [keeps.grant (fun inner same => grantsOp ⟨inner, same⟩)]
      exact id
  · by_cases outboxOp : ∃ inner, op = .outbox inner
    · obtain ⟨inner, rfl⟩ := outboxOp
      simp only [Work.observe, Work.observeOutbox.eq_def]
      split <;> simp
    · rw [keeps.outbox (fun inner same => outboxOp ⟨inner, same⟩)]
      exact id
  · by_cases adapterOp : ∃ identity inner, op = .adapter identity inner
    · obtain ⟨identity, inner, rfl⟩ := adapterOp
      simp only [Work.observe, Work.observeAdapter.eq_def]
      split
      · simp
      · split_ifs <;> simp
      all_goals simp
    · rw [keeps.adapter (fun identity inner same => adapterOp ⟨identity, inner, same⟩)]
      exact id

/-- An adapter is not asked again by the commit that it answered. -/
theorem answer_lasts {context : EngineContext} {call : CommitCall} {progress : Progress}
    {op : EngineOp} (subject : String) (reply : Except PyError (EngineReply op))
    (admitted : commitAdmits context call progress op) (asked : progress.work.adapter ≠ .idle) :
    (progress.work.observe subject op reply).adapter = progress.work.adapter := by
  by_cases adapterOp : ∃ identity inner, op = .adapter identity inner
  · obtain ⟨identity, inner, rfl⟩ := adapterOp
    cases inner with
    | commit manifest grant => exact absurd admitted.2.2.2.first asked
    | verify manifest result => exact admitted.elim
    | compensate manifest result => exact admitted.elim
    | validatePreconditions manifest => cases reply <;> rfl
  · exact (progress.work.observe_keeps subject op reply).adapter
      (fun identity inner same => adapterOp ⟨identity, inner, same⟩)

end KarmaSakshi.Engine
