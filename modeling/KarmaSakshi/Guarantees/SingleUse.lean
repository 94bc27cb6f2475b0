import KarmaSakshi.Engine.Scenario

/-!
Bounded use of a grant under concurrency.

Any number of commits on any number of engines share one grant store.  The
invariant ties the slot of one grant to the calls in flight: the slot's use count
is the number of finalized uses, every holder keeps it reserved, and a success
that is not finalized yet is owned by the one holder.
-/

namespace KarmaSakshi.Guarantees

open EffectProgram KarmaSakshi.Domain KarmaSakshi.Stores KarmaSakshi.Engine

set_option autoImplicit false

variable {World Caller : Type}

/-! ### Counting in the log -/

/-- An adapter call under the grant that returned success. -/
def isSuccess (grantId : String) : Entry EngineOp EngineReply PyError CallResult Caller → Bool
  | .performed _ (.adapter _ (.commit _ grant)) (.ok result) =>
      grant.grantId == grantId && result.success
  | _ => false

/-- A completed `grant_store.commit` of the grant. -/
def isFinalized (grantId : String) : Entry EngineOp EngineReply PyError CallResult Caller → Bool
  | .performed _ (.grants (.commit committed _ _)) (.ok _) => committed == grantId
  | _ => false

def successes (log : Log Caller) (grantId : String) : Nat := log.countP (isSuccess grantId)

def finalized (log : Log Caller) (grantId : String) : Nat := log.countP (isFinalized grantId)

theorem successes_append (log : Log Caller) (grantId : String)
    (entry : Entry EngineOp EngineReply PyError CallResult Caller) :
    successes (log ++ [entry]) grantId =
      successes log grantId + if isSuccess grantId entry then 1 else 0 := by
  simp [successes, List.countP_append, List.countP_cons]

theorem finalized_append (log : Log Caller) (grantId : String)
    (entry : Entry EngineOp EngineReply PyError CallResult Caller) :
    finalized (log ++ [entry]) grantId =
      finalized log grantId + if isFinalized grantId entry then 1 else 0 := by
  simp [finalized, List.countP_append, List.countP_cons]

/-! ### One step of one commit, seen from one grant -/

/-- Neither a success nor a finalized use of the grant. -/
def Plain (Caller : Type) (grantId : String) (op : EngineOp)
    (reply : Except PyError (EngineReply op)) : Prop :=
  ∀ caller : Caller, isSuccess grantId (.performed caller op reply) = false ∧
    isFinalized grantId (.performed caller op reply) = false

/-- What an answered operation of a commit does to the slot of a grant and to
the call's own use of it. -/
inductive UseStep (Caller : Type) (call : CommitCall) (grantId : String) (work after : Work)
    (slot slotAfter : Option Slot) :
    (op : EngineOp) → Except PyError (EngineReply op) → Prop where
  | elsewhere {op : EngineOp} {reply : Except PyError (EngineReply op)}
      (other : call.grantId ≠ grantId) (plain : Plain Caller grantId op reply)
      (kept : slotAfter = slot) : UseStep Caller call grantId work after slot slotAfter op reply
  | quiet {op : EngineOp} {reply : Except PyError (EngineReply op)}
      (plain : Plain Caller grantId op reply) (grant : after.grant = work.grant)
      (adapter : after.adapter = work.adapter)
      (kept : slotAfter = slot ∨ call.grantId = grantId ∧
        slotAfter = some (slot.getD (Slot.fresh call.grant.maxUses))) :
      UseStep Caller call grantId work after slot slotAfter op reply
  | reserved (own : call.grantId = grantId)
      (free : (slot.getD (Slot.fresh call.grant.maxUses)).reserved = false)
      (available : (slot.getD (Slot.fresh call.grant.maxUses)).uses <
        (slot.getD (Slot.fresh call.grant.maxUses)).maxUses)
      (grant : after.grant = .held)
      (taken : slotAfter =
        some { slot.getD (Slot.fresh call.grant.maxUses) with reserved := true }) :
      UseStep Caller call grantId work after slot slotAfter
        (.grants (.reserve grantId call.grant.maxUses)) (.ok true)
  | released (own : call.grantId = grantId) (held : work.grant = .held)
      (unsuccessful : work.unsuccessful) (grant : after.grant = .returned)
      (freed : slotAfter = slot.map (fun found => { found with reserved := false })) :
      UseStep Caller call grantId work after slot slotAfter (.grants (.release grantId)) (.ok ())
  | finalized {key outcomeRef : String} {found : Slot} (own : call.grantId = grantId)
      (held : work.grant = .held) (present : slot = some found) (grant : after.grant = .spent)
      (consumed : slotAfter = some { found with uses := found.uses + 1, reserved := false }) :
      UseStep Caller call grantId work after slot slotAfter
        (.grants (.commit grantId key outcomeRef)) (.ok ())
  | executed {identity : AdapterIdentity} {manifest : EffectManifest}
      {reply : Except PyError CommitResult} (own : call.grantId = grantId)
      (held : work.grant = .held) (first : work.adapter = .idle) (grant : after.grant = .held)
      (recorded : ∀ result, reply = .ok result → result.success = true →
        after.adapter = .succeeded result) (kept : slotAfter = slot) :
      UseStep Caller call grantId work after slot slotAfter
        (.adapter identity (.commit manifest call.grant)) reply

/-- The slot of a grant in a world. -/
def slotIn (grantsOf : World → GrantStore) (grantId : String) (world : World) : Option Slot :=
  (grantsOf world).view.slots grantId

/-- Operations that are no use of a grant. -/
def unusedBy : EngineOp → Prop
  | .grants _ => False
  | .adapter _ (.commit _ _) => False
  | _ => True

theorem unused_keeps_use {op : EngineOp} (unused : unusedBy op) (subject : String) (work : Work)
    (reply : Except PyError (EngineReply op)) :
    (work.observe subject op reply).grant = work.grant ∧
      (work.observe subject op reply).adapter = work.adapter := by
  have only := work.observe_only subject op reply
  cases op with
  | grants inner => exact unused.elim
  | adapter identity inner =>
      cases inner with
      | commit manifest grant => exact unused.elim
      | _ => cases reply <;> exact ⟨rfl, rfl⟩
  | budget inner =>
      obtain ⟨_, same⟩ := only
      rw [same]
      exact ⟨rfl, rfl⟩
  | outbox inner =>
      obtain ⟨_, same⟩ := only
      rw [same]
      exact ⟨rfl, rfl⟩
  | «recall» manifestId =>
      obtain ⟨_, _, _, _, same⟩ := only
      rw [same]
      exact ⟨rfl, rfl⟩
  | remember manifestId record =>
      obtain ⟨_, _, _, _, same⟩ := only
      rw [same]
      exact ⟨rfl, rfl⟩
  | lifecycle inner =>
      obtain ⟨_, _, _, _, same⟩ := only
      rw [same]
      exact ⟨rfl, rfl⟩
  | _ => exact ⟨rfl, rfl⟩

theorem unused_is_plain {op : EngineOp} (unused : unusedBy op) (grantId : String)
    (reply : Except PyError (EngineReply op)) : Plain Caller grantId op reply := by
  intro caller
  cases op with
  | grants inner => exact unused.elim
  | adapter identity inner =>
      cases inner with
      | commit manifest grant => exact unused.elim
      | _ => cases reply <;> exact ⟨rfl, rfl⟩
  | _ => exact ⟨rfl, rfl⟩

section Steps

variable {context : EngineContext} {call : CommitCall}

/-- A grant operation that raises changes nothing. -/
theorem raised_use_step (grantId subject : String) (work : Work) (inner : GrantOp)
    (error : PyError) {slot slotAfter : Option Slot} (kept : slotAfter = slot) :
    UseStep Caller call grantId work (work.observe subject (.grants inner) (.error error)) slot
      slotAfter (.grants inner) (.error error) := by
  have same : work.observe subject (.grants inner) (.error error) = work := by
    cases inner <;> rfl
  rw [same]
  exact .quiet (fun _ => by cases inner <;> exact ⟨rfl, rfl⟩) rfl rfl (Or.inl kept)

/-- A grant operation that is answered, seen from one slot of the view. -/
theorem served_use_step (grantId subject : String) {progress : Progress} {inner : GrantOp}
    {store : InMemoryGrantStore} {value : GrantReply inner}
    (admitted : admitsGrants context call progress.work inner)
    (served : (store.serve inner).1 = .ok value) :
    UseStep Caller call grantId progress.work
      (progress.work.observe subject (.grants inner) (.ok value)) (store.slots grantId)
      ((store.serve inner).2.slots grantId) (.grants inner) (.ok value) := by
  by_cases named : inner.writes = some grantId
  · cases inner with
    | reserve other maxUses =>
        obtain ⟨own, rfl, _⟩ := admitted
        obtain rfl : other = grantId := Option.some.inj named
        have replied : (store.reserve other call.grant.maxUses).1 = value := Except.ok.inj served
        cases value with
        | true =>
            obtain ⟨free, _, available, taken⟩ := store.reserve_won other replied
            exact .reserved own.symm free available rfl taken
        | false =>
            exact .quiet (fun _ => ⟨rfl, rfl⟩) rfl rfl
              (Or.inr ⟨own.symm, store.reserve_lost other replied⟩)
    | release other =>
        obtain ⟨own, held, unsuccessful⟩ := admitted
        obtain rfl : other = grantId := Option.some.inj named
        exact .released own.symm held unsuccessful rfl (store.release_slot other)
    | commit other key outcomeRef =>
        obtain ⟨own, _, held, _⟩ := admitted
        obtain rfl : other = grantId := Option.some.inj named
        obtain ⟨found, present, _, consumed⟩ := store.commit_ok other served
        exact .finalized own.symm held present rfl consumed
    | revoke other => exact admitted.elim
    | _ => exact absurd named (by simp [GrantOp.writes])
  · have kept := store.serve_slot_other grantId inner named
    cases inner with
    | reserve other maxUses =>
        refine .elsewhere (fun own => named ?_) (fun _ => ⟨rfl, rfl⟩) kept
        exact congrArg some (admitted.1.trans own)
    | release other =>
        refine .elsewhere (fun own => named ?_) (fun _ => ⟨rfl, rfl⟩) kept
        exact congrArg some (admitted.1.trans own)
    | commit other key outcomeRef =>
        have differs : other ≠ grantId := fun same => named (congrArg some same)
        refine .elsewhere (fun own => named ?_) (fun _ => ⟨rfl, ?_⟩) kept
        · exact congrArg some (admitted.1.trans own)
        · simpa [isFinalized] using differs
    | getIdempotentOutcome key =>
        cases value <;> exact .quiet (fun _ => ⟨rfl, rfl⟩) rfl rfl (Or.inl kept)
    | revoke other => exact admitted.elim
    | recordIdempotentOutcome key outcomeRef => exact admitted.elim
    | recordLineage other parent => exact admitted.elim
    | _ => exact .quiet (fun _ => ⟨rfl, rfl⟩) rfl rfl (Or.inl kept)

variable [DecidableEq Caller] {deployment : Deployment World Caller}
  {grantsOf : World → GrantStore}

/-- Every answered operation of a commit is one of the use steps. -/
theorem use_step (shared : SharesGrantStore deployment grantsOf) (grantId subject : String)
    {caller : Caller} {world after : World} {op : EngineOp}
    {reply : Except PyError (EngineReply op)} {progress : Progress}
    (admitted : commitAdmits context call progress op)
    (answered : deployment.answers caller world op reply after) :
    UseStep Caller call grantId progress.work (progress.work.observe subject op reply)
      (slotIn grantsOf grantId world) (slotIn grantsOf grantId after) op reply := by
  by_cases unused : unusedBy op
  · have kept : slotIn grantsOf grantId after = slotIn grantsOf grantId world := by
      unfold slotIn
      rw [shared.frames caller world op reply after answered]
      intro inner same
      subst same
      exact unused
    have use := unused_keeps_use unused subject progress.work reply
    exact .quiet (unused_is_plain unused grantId reply) use.1 use.2 (Or.inl kept)
  · cases op with
    | grants inner =>
        rcases shared.serves caller world inner reply after answered with
          ⟨raised, same⟩ | ⟨replied, served⟩
        · cases reply with
          | ok value => exact absurd raised (by simp [isError])
          | error error =>
              exact raised_use_step grantId subject progress.work inner error
                (by unfold slotIn; rw [same])
        · have viewed : slotIn grantsOf grantId after =
              ((grantsOf world).view.serve inner).2.slots grantId := by
            unfold slotIn
            rw [served, ((grantsOf world).serve_view inner).2]
          rw [viewed]
          cases reply with
          | ok value =>
              exact served_use_step grantId subject admitted (GrantStore.serve_ok replied.symm)
          | error error =>
              exact raised_use_step grantId subject progress.work inner error
                (by rw [GrantStore.serve_raised replied.symm]; rfl)
    | adapter identity inner =>
        cases inner with
        | commit manifest grant =>
            obtain ⟨_, _, rfl, ready⟩ := admitted
            have kept : slotIn grantsOf grantId after = slotIn grantsOf grantId world := by
              unfold slotIn
              rw [shared.frames caller world _ reply after answered (fun _ same => by cases same)]
            by_cases own : call.grantId = grantId
            · refine .executed own ready.reserved ready.first ?_ ?_ kept
              · cases reply <;> exact ready.reserved
              · intro result same success
                subst same
                exact if_pos success
            · refine .elsewhere own (fun _ => ⟨?_, rfl⟩) kept
              cases reply with
              | error error => rfl
              | ok result => simp [isSuccess, show call.grant.grantId ≠ grantId from own]
        | _ => exact absurd trivial unused
    | _ => exact absurd trivial unused

end Steps

/-! ### The invariant -/

section Invariant

variable [DecidableEq Caller] {deployment : Deployment World Caller} {commits : Caller → CommitCall}
  {grantsOf : World → GrantStore} {grantId : String} {maxUses : Nat} {initial : World}

/-- The caller has reserved the grant and neither released nor finalized it. -/
def Holds (deployment : Deployment World Caller) (commits : Caller → CommitCall)
    (grantId : String) (config : Snapshot World Caller) (caller : Caller) : Prop :=
  (commits caller).grantId = grantId ∧ (deployment.progress config caller).work.grant = .held

def used (slot : Option Slot) : Nat := (slot.map Slot.uses).getD 0

/-- A slot that nobody holds, presented with at most `maxUses`. -/
def Unheld (maxUses : Nat) (slot : Option Slot) : Prop :=
  ∀ found, slot = some found →
    found.reserved = false ∧ found.maxUses ≤ maxUses ∧ found.uses ≤ found.maxUses

structure UseInvariant (deployment : Deployment World Caller) (commits : Caller → CommitCall)
    (grantId : String) (maxUses before : Nat) (slot : Option Slot)
    (config : Snapshot World Caller) : Prop where
  counted : used slot = before + finalized config.log grantId
  within : ∀ found, slot = some found → found.maxUses ≤ maxUses ∧ found.uses ≤ found.maxUses ∧
    (found.reserved = true → found.uses < found.maxUses)
  reserved : ∀ caller, Holds deployment commits grantId config caller →
    ∃ found, slot = some found ∧ found.reserved = true
  unique : ∀ first second, Holds deployment commits grantId config first →
    Holds deployment commits grantId config second → first = second
  backed : successes config.log grantId ≤ finalized config.log grantId ∨
    ∃ caller result, Holds deployment commits grantId config caller ∧
      (deployment.progress config caller).work.adapter = .succeeded result ∧
      successes config.log grantId ≤ finalized config.log grantId + 1

/-- Successes never outnumber the uses the grant allows. -/
theorem UseInvariant.bounded {before : Nat} {slot : Option Slot} {config : Snapshot World Caller}
    (invariant : UseInvariant deployment commits grantId maxUses before slot config) :
    successes config.log grantId ≤ maxUses := by
  have counted := invariant.counted
  rcases invariant.backed with final | ⟨caller, result, holds, _, pending⟩
  · cases present : slot with
    | none =>
        rw [present] at counted
        simp only [used, Option.map_none, Option.getD_none] at counted
        omega
    | some found =>
        have within := invariant.within found present
        rw [present] at counted
        simp only [used, Option.map_some, Option.getD_some] at counted
        omega
  · obtain ⟨found, present, reserved⟩ := invariant.reserved caller holds
    have within := invariant.within found present
    have available := within.2.2 reserved
    rw [present] at counted
    simp only [used, Option.map_some, Option.getD_some] at counted
    omega

variable {config : Snapshot World Caller} {caller : Caller} {op : EngineOp}
  {reply : Except PyError (EngineReply op)}
  {resume : Except PyError (EngineReply op) → Action CallResult} {world : World}

theorem holds_other {other : Caller} (differs : other ≠ caller) :
    Holds deployment commits grantId (config.answer caller op resume reply world) other ↔
      Holds deployment commits grantId config other := by
  unfold Holds
  rw [deployment.progress_answer_other resume reply world config differs]

theorem holds_own :
    Holds deployment commits grantId (config.answer caller op resume reply world) caller ↔
      (commits caller).grantId = grantId ∧
        ((deployment.progress config caller).work.observe (deployment.call caller).subject op
          reply).grant = .held := by
  unfold Holds
  rw [deployment.progress_answer_own resume reply world config caller, observe_work]

/-- A step that leaves every holder and every count as it was. -/
theorem UseInvariant.same {before : Nat} {slot slotAfter : Option Slot}
    (invariant : UseInvariant deployment commits grantId maxUses before slot config)
    (presented : (commits caller).grantId = grantId → (commits caller).grant.maxUses = maxUses)
    (plain : Plain Caller grantId op reply)
    (own : (commits caller).grantId = grantId →
      ((deployment.progress config caller).work.observe (deployment.call caller).subject op
          reply).grant = (deployment.progress config caller).work.grant ∧
        ((deployment.progress config caller).work.observe (deployment.call caller).subject op
          reply).adapter = (deployment.progress config caller).work.adapter)
    (kept : slotAfter = slot ∨ (commits caller).grantId = grantId ∧
      slotAfter = some (slot.getD (Slot.fresh (commits caller).grant.maxUses))) :
    UseInvariant deployment commits grantId maxUses before slotAfter
      (config.answer caller op resume reply world) := by
  have holds : ∀ other, Holds deployment commits grantId
      (config.answer caller op resume reply world) other ↔
        Holds deployment commits grantId config other := by
    intro other
    by_cases same : other = caller
    · subst same
      rw [holds_own]
      unfold Holds
      constructor
      · rintro ⟨mine, held⟩
        exact ⟨mine, (own mine).1 ▸ held⟩
      · rintro ⟨mine, held⟩
        exact ⟨mine, (own mine).1.trans held⟩
    · exact holds_other same
  have counts : successes (config.answer caller op resume reply world).log grantId =
        successes config.log grantId ∧
      finalized (config.answer caller op resume reply world).log grantId =
        finalized config.log grantId := by
    simp [Config.answer, successes_append, finalized_append, (plain caller).1, (plain caller).2]
  have inserted : ∀ found, slot = some found → slotAfter = some found := by
    intro found present
    rcases kept with same | ⟨_, same⟩
    · rw [same, present]
    · rw [same, present, Option.getD_some]
  constructor
  · rw [counts.2, ← invariant.counted]
    rcases kept with same | ⟨_, same⟩
    · rw [same]
    · rw [same]
      cases slot <;> rfl
  · intro found present
    cases before : slot with
    | some other =>
        obtain rfl : other = found := Option.some.inj ((inserted other before).symm.trans present)
        exact invariant.within other before
    | none =>
        rcases kept with same | ⟨mine, same⟩
        · rw [same, before] at present
          exact absurd present (by simp)
        · rw [same, before, Option.getD_none] at present
          obtain rfl := Option.some.inj present
          exact ⟨le_of_eq (presented mine), Nat.zero_le _, fun impossible => by cases impossible⟩
  · intro other held
    obtain ⟨found, present, reserved⟩ := invariant.reserved other ((holds other).mp held)
    exact ⟨found, inserted found present, reserved⟩
  · exact fun first second one two =>
      invariant.unique first second ((holds first).mp one) ((holds second).mp two)
  · rw [counts.1, counts.2]
    rcases invariant.backed with final | ⟨owner, result, held, succeeded, pending⟩
    · exact Or.inl final
    · refine Or.inr ⟨owner, result, (holds owner).mpr held, ?_, pending⟩
      by_cases same : owner = caller
      · subst same
        rw [deployment.progress_answer_own resume reply world config owner, observe_work,
          (own held.1).2]
        exact succeeded
      · rw [deployment.progress_answer_other resume reply world config same]
        exact succeeded

/-- With a holder whose call has not succeeded, every success is finalized. -/
theorem UseInvariant.all_final {before : Nat} {slot : Option Slot}
    (invariant : UseInvariant deployment commits grantId maxUses before slot config)
    (holds : Holds deployment commits grantId config caller)
    (unsuccessful : (deployment.progress config caller).work.unsuccessful) :
    successes config.log grantId ≤ finalized config.log grantId := by
  rcases invariant.backed with final | ⟨owner, result, held, succeeded, _⟩
  · exact final
  · obtain rfl := invariant.unique owner caller held holds
    exact absurd succeeded (unsuccessful result)

/-- Without a holder, every success is finalized. -/
theorem UseInvariant.all_final_unheld {before : Nat} {slot : Option Slot}
    (invariant : UseInvariant deployment commits grantId maxUses before slot config)
    (unheld : ∀ other, ¬ Holds deployment commits grantId config other) :
    successes config.log grantId ≤ finalized config.log grantId := by
  rcases invariant.backed with final | ⟨owner, _, held, _⟩
  · exact final
  · exact absurd held (unheld owner)

theorem UseInvariant.answer {before : Nat} {slot slotAfter : Option Slot}
    (invariant : UseInvariant deployment commits grantId maxUses before slot config)
    (presented : (commits caller).grantId = grantId → (commits caller).grant.maxUses = maxUses)
    (step : UseStep Caller (commits caller) grantId (deployment.progress config caller).work
      ((deployment.progress config caller).work.observe (deployment.call caller).subject op reply)
      slot slotAfter op reply) :
    UseInvariant deployment commits grantId maxUses before slotAfter
      (config.answer caller op resume reply world) := by
  cases step with
  | elsewhere other plain kept =>
      exact invariant.same presented plain (fun own => absurd own other) (Or.inl kept)
  | quiet plain grant adapter kept =>
      exact invariant.same presented plain (fun _ => ⟨grant, adapter⟩) kept
  | reserved own free available grant taken =>
      have unheld : ∀ other, ¬ Holds deployment commits grantId config other := by
        intro other held
        obtain ⟨found, present, reserved⟩ := invariant.reserved other held
        rw [present, Option.getD_some] at free
        exact absurd reserved (by simp [free])
      have counts : successes (config.log ++ [.performed caller
            (.grants (.reserve grantId (commits caller).grant.maxUses)) (.ok true)]) grantId =
          successes config.log grantId ∧
          finalized (config.log ++ [.performed caller
            (.grants (.reserve grantId (commits caller).grant.maxUses)) (.ok true)]) grantId =
          finalized config.log grantId := by
        simp [successes_append, finalized_append, isSuccess, isFinalized]
      have mine : ∀ other, Holds deployment commits grantId
          (config.answer caller _ resume (.ok true) world) other → other = caller := by
        intro other held
        by_contra differs
        exact unheld other ((holds_other differs).mp held)
      constructor
      · simp only [Config.answer]
        rw [counts.2, ← invariant.counted, taken]
        cases slot <;> rfl
      · intro found present
        rw [taken] at present
        obtain rfl := Option.some.inj present
        cases was : slot with
        | none =>
            rw [was, Option.getD_none] at available
            exact ⟨le_of_eq (presented own), Nat.zero_le _, fun _ => available⟩
        | some found =>
            rw [was, Option.getD_some] at available
            have within := invariant.within found was
            exact ⟨within.1, within.2.1, fun _ => available⟩
      · exact fun other _ => ⟨_, taken, rfl⟩
      · exact fun first second one two => (mine first one).trans (mine second two).symm
      · simp only [Config.answer]
        rw [counts.1, counts.2]
        exact Or.inl (invariant.all_final_unheld unheld)
  | released own held unsuccessful grant freed =>
      have holds : Holds deployment commits grantId config caller := ⟨own, held⟩
      have unheld : ∀ other, ¬ Holds deployment commits grantId
          (config.answer caller _ resume (.ok ()) world) other := by
        intro other held
        by_cases same : other = caller
        · subst same
          exact absurd ((holds_own.mp held).2.symm.trans grant) (by decide)
        · exact same (invariant.unique other caller ((holds_other same).mp held) holds)
      have counts : successes (config.log ++ [.performed caller
            (.grants (.release grantId)) (.ok ())]) grantId = successes config.log grantId ∧
          finalized (config.log ++ [.performed caller (.grants (.release grantId)) (.ok ())])
            grantId = finalized config.log grantId := by
        simp [successes_append, finalized_append, isSuccess, isFinalized]
      constructor
      · simp only [Config.answer]
        rw [counts.2, ← invariant.counted, freed]
        cases slot <;> rfl
      · intro found present
        rw [freed] at present
        obtain ⟨was, wasPresent, rfl⟩ := Option.map_eq_some_iff.mp present
        have within := invariant.within was wasPresent
        exact ⟨within.1, within.2.1, fun impossible => by cases impossible⟩
      · exact fun other held => absurd held (unheld other)
      · exact fun first _ held => absurd held (unheld first)
      · simp only [Config.answer]
        rw [counts.1, counts.2]
        exact Or.inl (invariant.all_final holds unsuccessful)
  | @finalized key outcomeRef found own held present grant consumed =>
      have holds : Holds deployment commits grantId config caller := ⟨own, held⟩
      have unheld : ∀ other, ¬ Holds deployment commits grantId
          (config.answer caller _ resume (.ok ()) world) other := by
        intro other held
        by_cases same : other = caller
        · subst same
          exact absurd ((holds_own.mp held).2.symm.trans grant) (by decide)
        · exact same (invariant.unique other caller ((holds_other same).mp held) holds)
      have counts : successes (config.log ++ [.performed caller
            (.grants (.commit grantId key outcomeRef)) (.ok ())]) grantId =
          successes config.log grantId ∧
          finalized (config.log ++ [.performed caller
            (.grants (.commit grantId key outcomeRef)) (.ok ())]) grantId =
          finalized config.log grantId + 1 := by
        simp [successes_append, finalized_append, isSuccess, isFinalized]
      have within := invariant.within found present
      obtain ⟨same, isSame, reserved⟩ := invariant.reserved caller holds
      obtain rfl : same = found := Option.some.inj (isSame.symm.trans present)
      have available := within.2.2 reserved
      have counted := invariant.counted
      rw [present] at counted
      simp only [used, Option.map_some, Option.getD_some] at counted
      constructor
      · simp only [Config.answer]
        rw [counts.2, consumed]
        simp only [used, Option.map_some, Option.getD_some]
        omega
      · intro after presentAfter
        rw [consumed] at presentAfter
        obtain rfl := Option.some.inj presentAfter
        exact ⟨within.1, available, fun impossible => by cases impossible⟩
      · exact fun other held => absurd held (unheld other)
      · exact fun first _ held => absurd held (unheld first)
      · left
        simp only [Config.answer]
        rw [counts.1, counts.2]
        rcases invariant.backed with final | ⟨_, _, _, _, pending⟩ <;> omega
  | @executed identity manifest reply own held first grant recorded kept =>
      have holds : Holds deployment commits grantId config caller := ⟨own, held⟩
      have final := invariant.all_final holds
        (fun result succeeded => absurd (first.symm.trans succeeded) (by simp))
      have holdsAfter : ∀ other, Holds deployment commits grantId
          (config.answer caller _ resume reply world) other ↔
            Holds deployment commits grantId config other := by
        intro other
        by_cases same : other = caller
        · subst same
          exact ⟨fun _ => holds, fun _ => holds_own.mpr ⟨own, grant⟩⟩
        · exact holds_other same
      have counts : finalized (config.log ++ [.performed caller
          (.adapter identity (.commit manifest (commits caller).grant)) reply]) grantId =
          finalized config.log grantId := by
        simp [finalized_append, isFinalized]
      subst kept
      constructor
      · simp only [Config.answer]
        rw [counts]
        exact invariant.counted
      · exact invariant.within
      · exact fun other held => invariant.reserved other ((holdsAfter other).mp held)
      · exact fun one two isOne isTwo =>
          invariant.unique one two ((holdsAfter one).mp isOne) ((holdsAfter two).mp isTwo)
      · simp only [Config.answer]
        rw [counts, successes_append]
        by_cases success : isSuccess grantId (.performed caller
            (.adapter identity (.commit manifest (commits caller).grant)) reply) = true
        · right
          cases reply with
          | error error => exact absurd success (by simp [isSuccess])
          | ok result =>
              have succeeded : result.success = true := by
                simp only [isSuccess, Bool.and_eq_true] at success
                exact success.2
              refine ⟨caller, result, (holdsAfter caller).mpr holds, ?_, ?_⟩
              · exact (congrArg (fun progress => progress.work.adapter)
                  (deployment.progress_answer_own resume (.ok result) world config caller)).trans
                  (recorded result rfl succeeded)
              · rw [if_pos success]
                exact Nat.add_le_add_right final 1
        · left
          rw [if_neg success, Nat.add_zero]
          exact final

/-- The invariant is established by any store in which nobody holds the grant. -/
theorem use_invariant_start {slot : Option Slot} (unheld : Unheld maxUses slot)
    (start : World) :
    UseInvariant deployment commits grantId maxUses (used slot) slot
      (Pool.initial start : Snapshot World Caller) := by
  have nobody : ∀ caller, ¬ Holds deployment commits grantId (Pool.initial start) caller :=
    fun _ held => by cases held.2
  constructor
  · rfl
  · intro found present
    obtain ⟨free, limit, within⟩ := unheld found present
    exact ⟨limit, within, fun reserved => absurd reserved (by simp [free])⟩
  · exact fun caller held => absurd held (nobody caller)
  · exact fun first _ held => absurd held (nobody first)
  · exact Or.inl (Nat.zero_le _)

/-- Scheduling a call changes neither its work nor the counts. -/
theorem UseInvariant.scheduled {before : Nat} {slot : Option Slot}
    {after : Snapshot World Caller}
    (invariant : UseInvariant deployment commits grantId maxUses before slot config)
    (progress : ∀ other, deployment.progress after other = deployment.progress config other)
    (same : successes after.log grantId = successes config.log grantId)
    (sameFinal : finalized after.log grantId = finalized config.log grantId) :
    UseInvariant deployment commits grantId maxUses before slot after := by
  have holds : ∀ other, Holds deployment commits grantId after other ↔
      Holds deployment commits grantId config other := by
    intro other
    unfold Holds
    rw [progress other]
  constructor
  · rw [sameFinal]
    exact invariant.counted
  · exact invariant.within
  · exact fun other held => invariant.reserved other ((holds other).mp held)
  · exact fun first second one two =>
      invariant.unique first second ((holds first).mp one) ((holds second).mp two)
  · rw [same, sameFinal]
    rcases invariant.backed with final | ⟨owner, result, held, succeeded, pending⟩
    · exact Or.inl final
    · exact Or.inr ⟨owner, result, (holds owner).mpr held, (progress owner) ▸ succeeded, pending⟩

theorem use_invariant_reachable (shared : SharesGrantStore deployment grantsOf)
    (only : ∀ caller, deployment.call caller = .commit (commits caller))
    (presented : ∀ caller, (commits caller).grantId = grantId →
      (commits caller).grant.maxUses = maxUses)
    (unheld : Unheld maxUses (slotIn grantsOf grantId initial))
    (reached : deployment.Reachable initial config) :
    UseInvariant deployment commits grantId maxUses (used (slotIn grantsOf grantId initial))
      (slotIn grantsOf grantId config.world) config := by
  have keeps : deployment.Keeps (fun current => UseInvariant deployment commits grantId maxUses
      (used (slotIn grantsOf grantId initial)) (slotIn grantsOf grantId current.world)
      current) := by
    constructor
    · intro current caller held _ _ _
      exact held.scheduled (fun other => deployment.progress_start current caller other _)
        (by simp [Config.start, successes_append, isSuccess])
        (by simp [Config.start, finalized_append, isFinalized])
    · intro current caller op resume reply world held _ _ admitted answered
      rw [only caller] at admitted
      exact held.answer (presented caller)
        (use_step shared grantId (deployment.call caller).subject admitted answered)
    · intro current caller outcome held _ _
      exact held.scheduled (fun other => deployment.progress_finish current caller other outcome)
        (by simp [Config.finish, successes_append, isSuccess])
        (by simp [Config.finish, finalized_append, isFinalized])
  exact (keeps.reachable (use_invariant_start unheld initial) reached).1

/-- Bounded use under concurrency.  At every point of every interleaving of
commits over one grant store: the adapter calls that succeeded under a grant are
at most its `max_uses`; the grant is held by at most one call; and its use count
has grown by exactly the completed `grant_store.commit` calls, so an attempt
that ends before its own one consumes nothing. -/
theorem grant_uses_are_bounded (shared : SharesGrantStore deployment grantsOf)
    (only : ∀ caller, deployment.call caller = .commit (commits caller))
    (presented : ∀ caller, (commits caller).grantId = grantId →
      (commits caller).grant.maxUses = maxUses)
    (unheld : Unheld maxUses (slotIn grantsOf grantId initial))
    (reached : deployment.Reachable initial config) :
    successes config.log grantId ≤ maxUses ∧
      (∀ first second, Holds deployment commits grantId config first →
        Holds deployment commits grantId config second → first = second) ∧
      (grantsOf config.world).view.getUseCount grantId =
        (grantsOf initial).view.getUseCount grantId + finalized config.log grantId := by
  have invariant := use_invariant_reachable shared only presented unheld reached
  exact ⟨invariant.bounded, invariant.unique, invariant.counted⟩

end Invariant

/-! ### Two commits race for one use -/

def racingCommits : Service Unit Nat :=
  Payment.service Payment.prompt (fun _ => ())
    (fun _ => .commit (Payment.commitOf Payment.sealedTransfer Payment.transferGrant))

/-- The second commit runs while the first one holds the grant. -/
def racedState : Snapshot (Engine.World Unit) Nat :=
  racingCommits.replay Payment.prompt (Payment.authorizedWorld Unit)
    (List.replicate 12 0 ++ List.replicate 6 1 ++ List.replicate 11 0)

theorem raced_state_is_reached :
    racingCommits.deployment.Reachable (Payment.authorizedWorld Unit) racedState :=
  Payment.service_reachable Payment.prompt (fun _ => ()) _ (Payment.authorizedWorld Unit) _

theorem raced_uses_are_bounded :
    finalized racedState.log "grant-1" = 1 ∧ successes racedState.log "grant-1" ≤ 1 := by
  have unheld : Unheld 1 (slotIn Engine.World.grants "grant-1" (Payment.authorizedWorld Unit)) := by
    intro found present
    exact absurd present (by simp [slotIn, Payment.authorizedWorld, Payment.emptyWorld,
      GrantStore.view, InMemoryGrantStore.empty])
  have only : ∀ caller, racingCommits.deployment.call caller =
      .commit (Payment.commitOf Payment.sealedTransfer Payment.transferGrant) := fun _ => rfl
  have bounded := grant_uses_are_bounded racingCommits.shares_grants only (fun _ _ => rfl) unheld
    raced_state_is_reached
  exact ⟨by decide +kernel, bounded.1⟩

end KarmaSakshi.Guarantees
