import KarmaSakshi.Engine.Progress

/-!
Which answer a field of a call's progress comes from.

Each lemma inverts one observation: a field that shows something either showed it
before, or the operation just answered is the one that sets it.
-/

namespace KarmaSakshi.Engine

open EffectProgram KarmaSakshi.Domain KarmaSakshi.Stores

set_option autoImplicit false

/-! ### What was read -/

theorem Reads.instant_by_answer (reads : Reads) {op : EngineOp}
    {reply : Except PyError (EngineReply op)} {instant : Instant}
    (member : instant ∈ (reads.observe op reply).instants) :
    instant ∈ reads.instants ∨ (⟨op, reply⟩ : EngineEvent) = ⟨.now, .ok instant⟩ := by
  rw [Reads.observe.eq_def] at member
  split at member
  · rcases List.mem_cons.mp member with rfl | earlier
    · exact Or.inr rfl
    · exact Or.inl earlier
  all_goals exact Or.inl member

theorem Reads.cleared_by_answer (reads : Reads) {op : EngineOp}
    {reply : Except PyError (EngineReply op)} {grantId : String}
    (member : grantId ∈ (reads.observe op reply).cleared) :
    grantId ∈ reads.cleared ∨
      (⟨op, reply⟩ : EngineEvent) = ⟨.grants (.isRevoked grantId), .ok false⟩ := by
  rw [Reads.observe.eq_def] at member
  split at member
  · exact Or.inl member
  · rcases List.mem_cons.mp member with rfl | earlier
    · exact Or.inr rfl
    · exact Or.inl earlier
  all_goals exact Or.inl member

theorem Reads.parent_by_answer (reads : Reads) {op : EngineOp}
    {reply : Except PyError (EngineReply op)} {grantId : String} {parent : Option String}
    (member : (grantId, parent) ∈ (reads.observe op reply).parents) :
    (grantId, parent) ∈ reads.parents ∨
      (⟨op, reply⟩ : EngineEvent) = ⟨.grants (.getParentGrantId grantId), .ok parent⟩ := by
  rw [Reads.observe.eq_def] at member
  split at member
  · exact Or.inl member
  · exact Or.inl member
  · rcases List.mem_cons.mp member with same | earlier
    · cases same
      exact Or.inr rfl
    · exact Or.inl earlier
  all_goals exact Or.inl member

theorem Reads.entry_by_answer (reads : Reads) {op : EngineOp}
    {reply : Except PyError (EngineReply op)} {adapterId adapterVersion : String}
    {entry : Option RegistryEntry}
    (member : (adapterId, adapterVersion, entry) ∈ (reads.observe op reply).entries) :
    (adapterId, adapterVersion, entry) ∈ reads.entries ∨
      (⟨op, reply⟩ : EngineEvent) = ⟨.lookupAdapter adapterId adapterVersion, .ok entry⟩ := by
  rw [Reads.observe.eq_def] at member
  split at member
  case h_4 =>
    rcases List.mem_cons.mp member with same | earlier
    · cases same
      exact Or.inr rfl
    · exact Or.inl earlier
  all_goals exact Or.inl member

theorem Reads.budget_by_answer (reads : Reads) {op : EngineOp}
    {reply : Except PyError (EngineReply op)} {budgetId : String} {budget : AuthorityBudget}
    (member : (budgetId, budget) ∈ (reads.observe op reply).budgets) :
    (budgetId, budget) ∈ reads.budgets ∨
      (⟨op, reply⟩ : EngineEvent) = ⟨.budget (.get budgetId), .ok budget⟩ := by
  rw [Reads.observe.eq_def] at member
  split at member
  case h_5 =>
    rcases List.mem_cons.mp member with same | earlier
    · cases same
      exact Or.inr rfl
    · exact Or.inl earlier
  all_goals exact Or.inl member

/-! ### What was done -/

/-- Only an invocation of the adapter changes what is known of it. -/
theorem Work.adapter_is_kept (work : Work) (subject : String) {op : EngineOp}
    (reply : Except PyError (EngineReply op))
    (other : ∀ identity manifest grant, op ≠ .adapter identity (.commit manifest grant)) :
    (work.observe subject op reply).adapter = work.adapter := by
  rw [Work.observe.eq_def]
  split
  · split <;> rfl
  · split <;> rfl
  · split <;> rfl
  · rw [Work.observeGrants.eq_def]; split <;> rfl
  · rw [Work.observeBudget.eq_def]; split <;> rfl
  · rw [Work.observeOutbox.eq_def]; split <;> rfl
  · rw [Work.observeAdapter.eq_def]
    split <;> first | rfl | exact absurd rfl (other _ _ _)
  · rfl

/-- Only a successful reservation makes a call a holder. -/
theorem Work.held_by_reserve (work : Work) (subject : String) {op : EngineOp}
    {reply : Except PyError (EngineReply op)}
    (held : (work.observe subject op reply).grant = .held) :
    work.grant = .held ∨ ∃ grantId maxUses, (⟨op, reply⟩ : EngineEvent) =
      ⟨.grants (.reserve grantId maxUses), .ok true⟩ := by
  rw [Work.observe.eq_def] at held
  split at held
  · split at held <;> exact Or.inl held
  · split at held <;> exact Or.inl held
  · split at held <;> exact Or.inl held
  · rw [Work.observeGrants.eq_def] at held
    split at held
    · exact Or.inr ⟨_, _, rfl⟩
    all_goals first | exact Or.inl held | exact absurd held (by simp)
  · rw [Work.observeBudget.eq_def] at held
    split at held <;> exact Or.inl held
  · rw [Work.observeOutbox.eq_def] at held
    split at held <;> exact Or.inl held
  · rw [Work.observeAdapter.eq_def] at held
    split at held <;> exact Or.inl held
  · exact Or.inl held

theorem Work.missed_by_lookup (work : Work) (subject : String) {op : EngineOp}
    {reply : Except PyError (EngineReply op)}
    (missed : (work.observe subject op reply).ledger = .missed) :
    work.ledger = .missed ∨ ∃ key,
      (⟨op, reply⟩ : EngineEvent) = ⟨.grants (.getIdempotentOutcome key), .ok none⟩ := by
  rw [Work.observe.eq_def] at missed
  split at missed
  · split at missed <;> exact Or.inl missed
  · split at missed <;> exact Or.inl missed
  · split at missed <;> exact Or.inl missed
  · rw [Work.observeGrants.eq_def] at missed
    split at missed
    case h_4 => exact Or.inr ⟨_, rfl⟩
    all_goals first | exact Or.inl missed | exact absurd missed (by simp)
  · rw [Work.observeBudget.eq_def] at missed
    split at missed <;> exact Or.inl missed
  · rw [Work.observeOutbox.eq_def] at missed
    split at missed <;> exact Or.inl missed
  · rw [Work.observeAdapter.eq_def] at missed
    split at missed <;> exact Or.inl missed
  · exact Or.inl missed

theorem Work.budget_by_reserve (work : Work) (subject : String) {op : EngineOp}
    {reply : Except PyError (EngineReply op)} {budgetId : String} {amount : Nat}
    (held : (work.observe subject op reply).budget = .held budgetId amount) :
    work.budget = .held budgetId amount ∨
      (⟨op, reply⟩ : EngineEvent) = ⟨.budget (.reserve budgetId amount), .ok true⟩ := by
  rw [Work.observe.eq_def] at held
  split at held
  · split at held <;> exact Or.inl held
  · split at held <;> exact Or.inl held
  · split at held <;> exact Or.inl held
  · rw [Work.observeGrants.eq_def] at held
    split at held <;> exact Or.inl held
  · rw [Work.observeBudget.eq_def] at held
    split at held
    · cases held
      exact Or.inr rfl
    all_goals first | exact Or.inl held | exact absurd held (by simp)
  · rw [Work.observeOutbox.eq_def] at held
    split at held <;> exact Or.inl held
  · rw [Work.observeAdapter.eq_def] at held
    split at held <;> exact Or.inl held
  · exact Or.inl held

theorem Work.stored_by_swap (work : Work) (subject : String) {op : EngineOp}
    {reply : Except PyError (EngineReply op)} {state : LifecycleState}
    (stored : (work.observe subject op reply).stored = some state) :
    work.stored = some state ∨ ∃ expected, (⟨op, reply⟩ : EngineEvent) =
      ⟨.lifecycle (.compareAndSet subject expected state), .ok true⟩ := by
  rw [Work.observe.eq_def] at stored
  split at stored
  · split at stored <;> exact Or.inl stored
  · split at stored <;> exact Or.inl stored
  · split at stored
    · next same =>
        subst same
        obtain rfl := Option.some.inj stored
        exact Or.inr ⟨_, rfl⟩
    · exact Or.inl stored
  · rw [Work.observeGrants.eq_def] at stored
    split at stored <;> exact Or.inl stored
  · rw [Work.observeBudget.eq_def] at stored
    split at stored <;> exact Or.inl stored
  · rw [Work.observeOutbox.eq_def] at stored
    split at stored <;> exact Or.inl stored
  · rw [Work.observeAdapter.eq_def] at stored
    split at stored <;> exact Or.inl stored
  · exact Or.inl stored

/-- An engine's record of the subject, as it was looked up or written. -/
def showsRecord (subject : String) (record : LifecycleRecord) (event : EngineEvent) : Prop :=
  event = ⟨.recall subject, .ok (some record)⟩ ∨ event = ⟨.remember subject record, .ok ()⟩

theorem Work.origin_by_record (work : Work) (subject : String) {op : EngineOp}
    {reply : Except PyError (EngineReply op)} {state : LifecycleState}
    (known : (work.observe subject op reply).origin = some state) :
    work.origin = some state ∨
      ∃ record, showsRecord subject record ⟨op, reply⟩ ∧ record.state = state := by
  have learned : ∀ seen : LifecycleState, (work.knowing seen).origin = some state →
      work.origin = some state ∨ seen = state := by
    intro seen same
    cases origin : work.origin with
    | none => exact Or.inr (by simpa [Work.knowing, origin] using same)
    | some earlier => exact Or.inl (by simpa [Work.knowing, origin] using same)
  rw [Work.observe.eq_def] at known
  split at known
  · split at known
    · next same =>
        subst same
        exact (learned _ known).imp_right (fun equal => ⟨_, Or.inl rfl, equal⟩)
    · exact Or.inl known
  · split at known
    · next same =>
        subst same
        exact (learned _ known).imp_right (fun equal => ⟨_, Or.inr rfl, equal⟩)
    · exact Or.inl known
  · split at known <;> exact Or.inl known
  · rw [Work.observeGrants.eq_def] at known
    split at known <;> exact Or.inl known
  · rw [Work.observeBudget.eq_def] at known
    split at known <;> exact Or.inl known
  · rw [Work.observeOutbox.eq_def] at known
    split at known <;> exact Or.inl known
  · rw [Work.observeAdapter.eq_def] at known
    split at known <;> exact Or.inl known
  · exact Or.inl known

theorem Work.cached_by_remember (work : Work) (subject : String) {op : EngineOp}
    {reply : Except PyError (EngineReply op)} {state : LifecycleState}
    (cached : (work.observe subject op reply).cached = some state) :
    work.cached = some state ∨ ∃ record,
      (⟨op, reply⟩ : EngineEvent) = ⟨.remember subject record, .ok ()⟩ ∧ record.state = state := by
  rw [Work.observe.eq_def] at cached
  split at cached
  · split at cached <;> exact Or.inl cached
  · split at cached
    · next same =>
        subst same
        exact Or.inr ⟨_, rfl, Option.some.inj cached⟩
    · exact Or.inl cached
  · split at cached <;> exact Or.inl cached
  · rw [Work.observeGrants.eq_def] at cached
    split at cached <;> exact Or.inl cached
  · rw [Work.observeBudget.eq_def] at cached
    split at cached <;> exact Or.inl cached
  · rw [Work.observeOutbox.eq_def] at cached
    split at cached <;> exact Or.inl cached
  · rw [Work.observeAdapter.eq_def] at cached
    split at cached <;> exact Or.inl cached
  · exact Or.inl cached

theorem Work.satisfied_by_check (work : Work) (subject : String) {op : EngineOp}
    {reply : Except PyError (EngineReply op)}
    (satisfied : (work.observe subject op reply).satisfied = true) :
    work.satisfied = true ∨ ∃ identity manifest result, (⟨op, reply⟩ : EngineEvent) =
      ⟨.adapter identity (.validatePreconditions manifest), .ok result⟩ ∧
        result.satisfied = true := by
  rw [Work.observe.eq_def] at satisfied
  split at satisfied
  · split at satisfied <;> exact Or.inl satisfied
  · split at satisfied <;> exact Or.inl satisfied
  · split at satisfied <;> exact Or.inl satisfied
  · rw [Work.observeGrants.eq_def] at satisfied
    split at satisfied <;> exact Or.inl satisfied
  · rw [Work.observeBudget.eq_def] at satisfied
    split at satisfied <;> exact Or.inl satisfied
  · rw [Work.observeOutbox.eq_def] at satisfied
    split at satisfied <;> exact Or.inl satisfied
  · rw [Work.observeAdapter.eq_def] at satisfied
    split at satisfied
    · exact Or.inr ⟨_, _, _, rfl, satisfied⟩
    all_goals exact Or.inl satisfied
  · exact Or.inl satisfied

/-! ### Ancestors -/

/-- The ancestors of a grant with the given parent: the parent itself and what
the store records above it. -/
inductive Ancestor (lineage : String → Option (Option String)) : Option String → String → Prop where
  | parent (grantId : String) : Ancestor lineage (some grantId) grantId
  | above {child grantId : String} {parent : Option String} (recorded : lineage child = some parent)
      (higher : Ancestor lineage parent grantId) : Ancestor lineage (some child) grantId

theorem walked_is_cleared {reads : Reads} {parent : Option String} {chain : List String}
    (walked : Walked reads parent chain) : ∀ ancestor ∈ chain, ancestor ∈ reads.cleared := by
  induction walked with
  | root => exact fun _ member => absurd member (by simp)
  | hop cleared linked above ih =>
      intro ancestor member
      rcases List.mem_cons.mp member with rfl | higher
      · exact cleared
      · exact ih ancestor higher

/-- The walk visits every recorded ancestor. -/
theorem ancestor_is_walked {lineage : String → Option (Option String)} {reads : Reads}
    (truthful : ∀ child parent, (child, parent) ∈ reads.parents →
      parent = (lineage child).getD none)
    {parent : Option String} {grantId : String} (ancestor : Ancestor lineage parent grantId)
    {chain : List String} (walked : Walked reads parent chain) : grantId ∈ chain := by
  induction ancestor generalizing chain with
  | parent grantId =>
      cases walked with
      | hop cleared linked above => exact List.mem_cons_self
  | @above child grantId parent recorded higher ih =>
      cases walked with
      | @hop _ read rest cleared linked above =>
          have same : read = parent := by
            rw [truthful child read linked, recorded, Option.getD_some]
          subst same
          exact List.mem_cons_of_mem _ (ih above)

end KarmaSakshi.Engine
