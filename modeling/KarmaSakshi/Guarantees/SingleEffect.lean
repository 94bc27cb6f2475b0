import KarmaSakshi.Engine.WorkFrames
import KarmaSakshi.Guarantees.SingleUse

/-!
One effect for an idempotency key.

Engines that share an outbox bind a key to the grant of the first intent that is recorded under
it, and a grant is held by one commit at a time.  Once an effect has happened under a key, either
its intent is settled or the commit that caused it still holds the grant.
-/

namespace KarmaSakshi.Stores.OutboxStore

open KarmaSakshi.Domain

set_option autoImplicit false

variable {store : OutboxStore} {key : String}

/-- The key stays bound to its grant, and a settled entry stays settled. -/
structure Succeeds (entry later : OutboxEntry) : Prop where
  grant : later.grantId = entry.grantId
  final : entry.status ≠ .pending → later.status ≠ .pending

theorem Succeeds.refl (entry : OutboxEntry) : Succeeds entry entry := ⟨rfl, id⟩

theorem settle_succeeds {entry found : OutboxEntry} {settled : String} {status : OutboxStatus}
    {outcomeRef : Option String} (held : store.entries settled = some found)
    (moved : status ≠ .pending) (present : store.entries key = some entry) :
    ∃ later, (store.settle settled found status outcomeRef).entries key = some later ∧
      Succeeds entry later := by
  by_cases same : key = settled
  · subst same
    obtain rfl : entry = found := Option.some.inj (present.symm.trans held)
    exact ⟨_, Function.update_self .., rfl, fun _ => moved⟩
  · exact ⟨entry, (Function.update_of_ne same ..).trans present, Succeeds.refl entry⟩

theorem record_pending_keeps_entry (intent : OutboxEntry) {entry : OutboxEntry}
    (present : store.entries key = some entry) :
    (store.recordPending intent).2.entries key = some entry := by
  simp only [recordPending]
  split_ifs
  · exact present
  · cases found : store.entries intent.idempotencyKey with
    | none =>
        have different : key ≠ intent.idempotencyKey := by
          intro same
          rw [same, found] at present
          cases present
        exact (Function.update_of_ne different ..).trans present
    | some existing =>
        dsimp only
        split_ifs <;> exact present

/-- No operation unbinds a key. -/
theorem serve_keeps_entry (op : OutboxOp) {entry : OutboxEntry}
    (present : store.entries key = some entry) :
    ∃ later, (store.serve op).2.entries key = some later ∧ Succeeds entry later := by
  have unchanged : ∃ later, store.entries key = some later ∧ Succeeds entry later :=
    ⟨entry, present, Succeeds.refl entry⟩
  cases op with
  | get other => exact unchanged
  | recordPending intent =>
      exact ⟨entry, record_pending_keeps_entry intent present, Succeeds.refl entry⟩
  | markConfirmed other outcomeRef =>
      simp only [serve, markConfirmed]
      split
      · exact unchanged
      · next found held =>
          split
          · exact unchanged
          · exact settle_succeeds held (by decide) present
          · exact unchanged
  | markAbandoned other =>
      simp only [serve, markAbandoned]
      split
      · exact unchanged
      · next found held =>
          split
          · exact unchanged
          · exact settle_succeeds held (by decide) present
          · exact unchanged

/-- An intent is recorded under a free key, or under a key that waits for the same grant. -/
theorem record_pending_ok {intent : OutboxEntry} {done : Unit}
    (recorded : (store.recordPending intent).1 = .ok done) :
    (∀ entry, store.entries intent.idempotencyKey = some entry →
      entry.grantId = intent.grantId ∧ entry.status = .pending) ∧
    ∃ later, (store.recordPending intent).2.entries intent.idempotencyKey = some later ∧
      later.grantId = intent.grantId := by
  simp only [recordPending] at recorded ⊢
  split_ifs at recorded ⊢
  cases found : store.entries intent.idempotencyKey with
  | none =>
      refine ⟨?_, intent, Function.update_self .., rfl⟩
      intro entry impossible
      cases impossible
  | some existing =>
      simp only [found] at recorded ⊢
      split_ifs at recorded ⊢ with apart settled
      have bound : existing.grantId = intent.grantId := by
        by_contra differs
        exact apart (Or.inl differs)
      refine ⟨?_, existing, found, bound⟩
      intro entry same
      obtain rfl := Option.some.inj same
      exact ⟨bound, not_not.mp settled⟩

theorem mark_confirmed_ok {outcomeRef : String} {done : Unit}
    (confirmed : (store.markConfirmed key outcomeRef).1 = .ok done) :
    ∃ later, (store.markConfirmed key outcomeRef).2.entries key = some later ∧
      later.status = .confirmed := by
  simp only [markConfirmed] at confirmed ⊢
  cases found : store.entries key with
  | none =>
      rw [found] at confirmed
      cases confirmed
  | some entry =>
      simp only [found] at confirmed ⊢
      cases status : entry.status with
      | pending => exact ⟨_, Function.update_self .., rfl⟩
      | confirmed => exact ⟨entry, found, status⟩
      | abandoned =>
          simp only [status] at confirmed
          cases confirmed

end KarmaSakshi.Stores.OutboxStore

namespace KarmaSakshi.Guarantees

open EffectProgram KarmaSakshi.Domain KarmaSakshi.Stores KarmaSakshi.Engine

set_option autoImplicit false

variable {World Caller : Type} [DecidableEq Caller]

/-! ### Effects in the log -/

/-- An adapter was invoked for a manifest with the key. -/
def invokesUnder (key : String) : Entry EngineOp EngineReply PyError CallResult Caller → Bool
  | .performed _ (.adapter _ (.commit manifest _)) _ => manifest.idempotencyKey = key
  | _ => false

/-- An adapter reported an effect under the key. -/
def takesEffectUnder (key : String) : Entry EngineOp EngineReply PyError CallResult Caller → Bool
  | .performed _ (.adapter _ (.commit manifest _)) (.ok result) =>
      result.success && manifest.idempotencyKey = key
  | _ => false

def Happened (log : Log Caller) (key : String) : Prop :=
  ∃ entry ∈ log, takesEffectUnder key entry = true

omit [DecidableEq Caller] in
theorem happened_append {log : Log Caller} {key : String}
    {entry : Entry EngineOp EngineReply PyError CallResult Caller} :
    Happened (log ++ [entry]) key ↔ Happened log key ∨ takesEffectUnder key entry = true := by
  simp [Happened, or_and_right, exists_or]

/-! ### One step of a call -/

/-- The grant whose reservation an operation ends. -/
def frees : EngineOp → Option String
  | .grants (.release grantId) => some grantId
  | .grants (.commit grantId _ _) => some grantId
  | _ => none

section Steps

variable {context : EngineContext} {call : EngineCall} {commit : CommitCall} {progress : Progress}
  {op : EngineOp} {subject : String} {reply : Except PyError (EngineReply op)}

/-- Only a commit that holds the grant ends its reservation, or a compensation under it. -/
theorem freed_by {grantId : String} (admitted : call.admits context progress op)
    (freed : frees op = some grantId) :
    (∃ commit, call = .commit commit ∧ commit.grantId = grantId ∧ progress.work.grant = .held) ∨
      ∃ compensation, call = .compensate compensation ∧ compensation.grant.grantId = grantId := by
  unfold frees at freed
  split at freed
  · obtain rfl := Option.some.inj freed
    cases call with
    | commit commit => exact Or.inl ⟨commit, rfl, admitted.1.symm, admitted.2.1⟩
    | compensate compensation => exact Or.inr ⟨compensation, rfl, Eq.symm admitted⟩
    | recover recovery => exact admitted.2.elim
    | _ => exact admitted.elim
  · obtain rfl := Option.some.inj freed
    cases call with
    | commit commit => exact Or.inl ⟨commit, rfl, admitted.1.symm, admitted.2.2.1⟩
    | compensate compensation => exact Or.inr ⟨compensation, rfl, admitted.1.symm⟩
    | recover recovery => exact admitted.2.elim
    | _ => exact admitted.elim
  · cases freed

/-- Adapters are invoked by commits. -/
theorem invoked_by {identity : AdapterIdentity} {manifest : EffectManifest} {grant : ExecutionGrant}
    (admitted : call.admits context progress (.adapter identity (.commit manifest grant))) :
    ∃ commit, call = .commit commit ∧ manifest = commit.manifest ∧
      ReadyToExecute context commit progress := by
  cases call with
  | commit commit => exact ⟨commit, rfl, admitted.2.1, admitted.2.2.2⟩
  | recover recovery => exact admitted.2.elim
  | _ => exact admitted.elim

end Steps

/-! ### Grants -/

section Sharing

variable {deployment : Deployment World Caller} {grantsOf : World → GrantStore}
  {outboxOf : World → OutboxStore} {caller : Caller} {world after : World} {op : EngineOp}
  {reply : Except PyError (EngineReply op)} {context : EngineContext} {commit : CommitCall}
  {progress : Progress} {subject : String}

def Reserved (grantsOf : World → GrantStore) (grantId : String) (world : World) : Prop :=
  ∃ slot, slotIn grantsOf grantId world = some slot ∧ slot.reserved = true

/-- A reservation lasts until it is ended. -/
theorem reserved_lasts (shared : SharesGrantStore deployment grantsOf) {grantId : String}
    (answered : deployment.answers caller world op reply after)
    (reserved : Reserved grantsOf grantId world) (kept : frees op ≠ some grantId) :
    Reserved grantsOf grantId after := by
  obtain ⟨slot, present, taken⟩ := reserved
  by_cases grantsOp : ∃ inner, op = .grants inner
  · obtain ⟨inner, rfl⟩ := grantsOp
    rcases shared.answer answered with ⟨_, _, same⟩ | ⟨value, _, served, stored⟩
    · refine ⟨slot, ?_, taken⟩
      unfold slotIn
      rw [same]
      exact present
    · by_cases named : inner.writes = some grantId
      · cases inner with
        | reserve other maxUses =>
            obtain rfl : other = grantId := Option.some.inj named
            have looked : (grantsOf world).view.slotFor other maxUses = slot := by
              rw [InMemoryGrantStore.slotFor, show (grantsOf world).view.slots other = some slot
                from present, Option.getD_some]
            have replied : ((grantsOf world).view.reserve other maxUses).1 = value :=
              Except.ok.inj served
            cases value with
            | true =>
                have free := ((grantsOf world).view.reserve_won other replied).1
                rw [looked, taken] at free
                cases free
            | false =>
                refine ⟨slot, ?_, taken⟩
                unfold slotIn
                rw [stored, ← looked]
                exact (grantsOf world).view.reserve_lost other replied
        | revoke other =>
            obtain rfl : other = grantId := Option.some.inj named
            refine ⟨{ slot with revoked := true }, ?_, taken⟩
            unfold slotIn
            rw [stored]
            change ((grantsOf world).view.revoke other).slots other = _
            rw [InMemoryGrantStore.revoke, InMemoryGrantStore.put_slot_self,
              show (grantsOf world).view.slots other = some slot from present, Option.getD_some]
        | release other => exact absurd named kept
        | commit other key outcomeRef => exact absurd named kept
        | _ => cases named
      · refine ⟨slot, ?_, taken⟩
        unfold slotIn
        rw [stored, InMemoryGrantStore.serve_slot_other _ _ _ named]
        exact present
  · refine ⟨slot, ?_, taken⟩
    unfold slotIn
    rw [shared.frames caller world op reply after answered
      (fun inner same => grantsOp ⟨inner, same⟩)]
    exact present

/-- A commit holds its grant since it reserved it, and nobody else can have. -/
theorem held_after (shared : SharesGrantStore deployment grantsOf)
    (answered : deployment.answers caller world op reply after)
    (admitted : commitAdmits context commit progress op)
    (held : (progress.work.observe subject op reply).grant = .held) :
    (progress.work.grant = .held ∧
      (Reserved grantsOf commit.grantId world → Reserved grantsOf commit.grantId after)) ∨
    progress.work.grant = .idle ∧ ¬ Reserved grantsOf commit.grantId world ∧
      Reserved grantsOf commit.grantId after := by
  by_cases grantsOp : ∃ inner, op = .grants inner
  · obtain ⟨inner, rfl⟩ := grantsOp
    rcases shared.answer answered with ⟨error, rfl, same⟩ | ⟨value, rfl, served, stored⟩
    · left
      refine ⟨?_, ?_⟩
      · cases inner <;> exact held
      · rintro ⟨slot, present, taken⟩
        refine ⟨slot, ?_, taken⟩
        unfold slotIn
        rw [same]
        exact present
    · cases inner with
      | reserve other maxUses =>
          obtain ⟨rfl, _, idle⟩ := admitted
          have replied : ((grantsOf world).view.reserve commit.grantId maxUses).1 = value :=
            Except.ok.inj served
          cases value with
          | true =>
              right
              obtain ⟨free, _, _, taken⟩ := (grantsOf world).view.reserve_won _ replied
              refine ⟨idle, ?_, { (grantsOf world).view.slotFor commit.grantId maxUses with
                reserved := true }, ?_, rfl⟩
              · rintro ⟨slot, present, reserved⟩
                rw [InMemoryGrantStore.slotFor, show (grantsOf world).view.slots commit.grantId =
                  some slot from present, Option.getD_some, reserved] at free
                cases free
              · unfold slotIn
                rw [stored]
                exact taken
          | false =>
              rw [show (progress.work.observe subject (.grants (.reserve commit.grantId maxUses))
                (.ok false)).grant = progress.work.grant from rfl, idle] at held
              cases held
      | release other => cases held
      | commit other key outcomeRef => cases held
      | revoke other => exact admitted.elim
      | recordIdempotentOutcome key outcomeRef => exact admitted.elim
      | recordLineage other parent => exact admitted.elim
      | getIdempotentOutcome key =>
          exact Or.inl ⟨admitted.2.1, fun reserved =>
            reserved_lasts shared answered reserved (by simp [frees])⟩
      | _ =>
          exact Or.inl ⟨held, fun reserved =>
            reserved_lasts shared answered reserved (by simp [frees])⟩
  · have other : ∀ inner, op ≠ .grants inner := fun inner same => grantsOp ⟨inner, same⟩
    left
    refine ⟨((progress.work.observe_keeps subject op reply).grant other).symm.trans held,
      fun reserved => ?_⟩
    apply reserved_lasts shared answered reserved
    intro freed
    unfold frees at freed
    split at freed
    · exact other _ rfl
    · exact other _ rfl
    · cases freed

/-! ### Intents -/

/-- The key is bound to the grant, and waits for nothing if `final`. -/
def Binds (outboxOf : World → OutboxStore) (key grantId : String) (final : Prop)
    (world : World) : Prop :=
  ∃ entry, (outboxOf world).entries key = some entry ∧ entry.grantId = grantId ∧
    (final → entry.status ≠ .pending)

theorem entry_lasts (shared : SharesOutbox deployment outboxOf)
    (answered : deployment.answers caller world op reply after) {key : String}
    {entry : OutboxEntry} (present : (outboxOf world).entries key = some entry) :
    ∃ later, (outboxOf after).entries key = some later ∧ OutboxStore.Succeeds entry later := by
  by_cases outboxOp : ∃ inner, op = .outbox inner
  · obtain ⟨inner, rfl⟩ := outboxOp
    rcases shared.serves caller world inner reply after answered with ⟨_, same⟩ | ⟨_, served⟩
    · rw [same]
      exact ⟨entry, present, OutboxStore.Succeeds.refl entry⟩
    · rw [served]
      exact OutboxStore.serve_keeps_entry inner present
  · rw [shared.frames caller world op reply after answered
      (fun inner same => outboxOp ⟨inner, same⟩)]
    exact ⟨entry, present, OutboxStore.Succeeds.refl entry⟩

theorem binds_lasts (shared : SharesOutbox deployment outboxOf)
    (answered : deployment.answers caller world op reply after) {key grantId : String}
    {final : Prop} (binds : Binds outboxOf key grantId final world) :
    Binds outboxOf key grantId final after := by
  obtain ⟨entry, present, bound, settled⟩ := binds
  obtain ⟨later, found, succeeds⟩ := entry_lasts shared answered present
  exact ⟨later, found, succeeds.grant.trans bound, fun isFinal => succeeds.final (settled isFinal)⟩

/-- An intent that a commit has was there before, or it has just been recorded: then the key was
free, or waited for the same grant. -/
theorem intended_after (shared : SharesOutbox deployment outboxOf)
    (answered : deployment.answers caller world op reply after)
    (admitted : commitAdmits context commit progress op)
    (intended : (progress.work.observe subject op reply).outbox ≠ .idle) :
    (progress.work.outbox ≠ .idle ∧
      ((progress.work.observe subject op reply).outbox = .recorded →
        progress.work.outbox = .recorded)) ∨
      progress.work.grant = .held ∧
        (∀ entry, (outboxOf world).entries commit.idempotencyKey = some entry →
          entry.grantId = commit.grantId ∧ entry.status = .pending) ∧
        (progress.work.observe subject op reply).outbox = .recorded ∧
        Binds outboxOf commit.idempotencyKey commit.grantId False after := by
  by_cases outboxOp : ∃ inner, op = .outbox inner
  · obtain ⟨inner, rfl⟩ := outboxOp
    cases inner with
    | recordPending intent =>
        obtain ⟨_, ⟨instant, rfl⟩, held, _, _, _⟩ := admitted
        cases reply with
        | error error => exact Or.inl ⟨intended, id⟩
        | ok done =>
            right
            rcases shared.serves caller world _ _ after answered with
              ⟨raised, _⟩ | ⟨replied, served⟩
            · cases raised
            · obtain ⟨free, later, found, bound⟩ := OutboxStore.record_pending_ok replied.symm
              refine ⟨held, free, rfl, later, ?_, bound, False.elim⟩
              rw [served]
              exact found
    | get key => exact Or.inl ⟨intended, id⟩
    | markConfirmed key outcomeRef =>
        left
        rw [admitted.2.2.1]
        exact ⟨by decide, fun _ => rfl⟩
    | markAbandoned key =>
        left
        rw [admitted.2.2.1]
        exact ⟨by decide, fun _ => rfl⟩
  · left
    have same := (progress.work.observe_keeps subject op reply).outbox
      (fun inner same => outboxOp ⟨inner, same⟩)
    rw [same] at intended ⊢
    exact ⟨intended, id⟩

/-- A commit that has confirmed its intent has settled it. -/
theorem confirmed_after (shared : SharesOutbox deployment outboxOf)
    (answered : deployment.answers caller world op reply after)
    (admitted : commitAdmits context commit progress op)
    (confirmed : (progress.work.observe subject op reply).outbox = .confirmed) :
    progress.work.outbox = .confirmed ∨
      ∃ entry, (outboxOf after).entries commit.idempotencyKey = some entry ∧
        entry.status ≠ .pending := by
  by_cases outboxOp : ∃ inner, op = .outbox inner
  · obtain ⟨inner, rfl⟩ := outboxOp
    cases inner with
    | recordPending intent =>
        cases reply with
        | error error => exact Or.inl confirmed
        | ok done => cases confirmed
    | get key => exact Or.inl confirmed
    | markConfirmed key outcomeRef =>
        obtain ⟨_, rfl, _⟩ := admitted
        cases reply with
        | error error => exact Or.inl confirmed
        | ok done =>
            right
            rcases shared.serves caller world _ _ after answered with
              ⟨raised, _⟩ | ⟨replied, served⟩
            · cases raised
            · obtain ⟨later, found, settled⟩ := OutboxStore.mark_confirmed_ok replied.symm
              refine ⟨later, ?_, by rw [settled]; decide⟩
              rw [served]
              exact found
    | markAbandoned key =>
        cases reply with
        | error error => exact Or.inl confirmed
        | ok done => cases confirmed
  · left
    rwa [(progress.work.observe_keeps subject op reply).outbox
      (fun inner same => outboxOp ⟨inner, same⟩)] at confirmed

/-- A commit with an effect gives its grant up once its intent is confirmed. -/
theorem confirmed_of_lost (admitted : commitAdmits context commit progress op)
    (holds : progress.work.grant = .held)
    (lost : (progress.work.observe subject op reply).grant ≠ .held) {result : CommitResult}
    (succeeded : progress.work.adapter = .succeeded result)
    (configured : context.hasOutboxStore = true) :
    progress.work.outbox = .confirmed := by
  by_cases grantsOp : ∃ inner, op = .grants inner
  · obtain ⟨inner, rfl⟩ := grantsOp
    cases inner with
    | release grantId => exact absurd succeeded (admitted.2.2 result)
    | commit grantId key outcomeRef => exact admitted.2.2.2.2 configured
    | reserve grantId maxUses =>
        rw [admitted.2.2] at holds
        cases holds
    | revoke grantId => exact admitted.elim
    | recordIdempotentOutcome key outcomeRef => exact admitted.elim
    | recordLineage child parent => exact admitted.elim
    | getIdempotentOutcome key =>
        rcases reply with error | (_ | outcomeRef) <;> exact absurd holds lost
    | _ => exact absurd holds lost
  · rw [(progress.work.observe_keeps subject op reply).grant
      (fun inner same => grantsOp ⟨inner, same⟩)] at lost
    exact absurd holds lost

end Sharing

/-! ### The invariant -/

/-- Engines over one grant store and one outbox; a compensation has a grant of its own. -/
structure SharesIntents (deployment : Deployment World Caller) (grantsOf : World → GrantStore)
    (outboxOf : World → OutboxStore) : Prop where
  grants : SharesGrantStore deployment grantsOf
  outbox : SharesOutbox deployment outboxOf
  configured : ∀ caller commit, deployment.call caller = .commit commit →
    (deployment.context caller).hasOutboxStore = true
  apart : ∀ caller other commit compensation, deployment.call caller = .commit commit →
    deployment.call other = .compensate compensation →
      commit.grantId ≠ compensation.grant.grantId

section Invariant

variable (deployment : Deployment World Caller) (grantsOf : World → GrantStore)
  (outboxOf : World → OutboxStore)

/-- The commit of a caller, with what it has done. -/
structure Commits (config : Snapshot World Caller) (caller : Caller) (commit : CommitCall)
    (work : Work) : Prop where
  call : deployment.call caller = .commit commit
  work : (deployment.progress config caller).work = work

/-- Each grant is held by one commit, and each key bound to the grant of its intents. -/
structure KeyInvariant (config : Snapshot World Caller) : Prop where
  reserved : ∀ caller commit work, Commits deployment config caller commit work →
    work.grant = .held → Reserved grantsOf commit.grantId config.world
  unique : ∀ first second one other work otherWork, Commits deployment config first one work →
    Commits deployment config second other otherWork → one.grantId = other.grantId →
      work.grant = .held → otherWork.grant = .held → first = second
  begun : ∀ caller commit work, Commits deployment config caller commit work →
    work.outbox ≠ .idle → work.grant ≠ .idle
  bound : ∀ caller commit work, Commits deployment config caller commit work →
    work.outbox ≠ .idle →
      Binds outboxOf commit.idempotencyKey commit.grantId (work.outbox = .confirmed) config.world
  settled : ∀ key, Happened config.log key →
    (∃ entry, (outboxOf config.world).entries key = some entry ∧ entry.status ≠ .pending) ∨
      ∃ caller commit work result, Commits deployment config caller commit work ∧
        commit.idempotencyKey = key ∧ work.grant = .held ∧ work.outbox ≠ .idle ∧
          work.adapter = .succeeded result
  ahead : ∀ caller commit work, Commits deployment config caller commit work →
    work.grant = .held → work.outbox = .recorded → work.adapter = .idle →
      ¬ Happened config.log commit.idempotencyKey
  once : config.log.Pairwise (fun earlier later => ∀ key, takesEffectUnder key earlier = true →
    invokesUnder key later = false)

end Invariant

section Step

variable {deployment : Deployment World Caller} {grantsOf : World → GrantStore}
  {outboxOf : World → OutboxStore} {config : Snapshot World Caller} {caller : Caller}
  {op : EngineOp} {reply : Except PyError (EngineReply op)}
  {resume : Except PyError (EngineReply op) → Action CallResult} {world : World}

/-- After a step, a commit is the one that took it, or as it was. -/
theorem Commits.before {other : Caller} {commit : CommitCall} {work : Work}
    (commits : Commits deployment (config.answer caller op resume reply world) other commit work) :
    ∃ earlier, Commits deployment config other commit earlier ∧
      ((other = caller ∧ work = earlier.observe commit.manifestId op reply) ∨
        (other ≠ caller ∧ work = earlier)) := by
  refine ⟨_, ⟨commits.call, rfl⟩, ?_⟩
  by_cases same : other = caller
  · subst same
    left
    refine ⟨rfl, ?_⟩
    rw [← commits.work, deployment.progress_answer_own, observe_work, commits.call]
    rfl
  · right
    refine ⟨same, ?_⟩
    rw [← commits.work, deployment.progress_answer_other _ _ _ _ same]

theorem Commits.unique {other : Caller} {commit second : CommitCall} {work otherWork : Work}
    (one : Commits deployment config other commit work)
    (two : Commits deployment config other second otherWork) :
    commit = second ∧ work = otherWork := by
  refine ⟨?_, one.work.symm.trans two.work⟩
  have same := one.call.symm.trans two.call
  cases same
  rfl

/-- An answered operation of one of the callers. -/
structure KeyStep (deployment : Deployment World Caller) (grantsOf : World → GrantStore)
    (outboxOf : World → OutboxStore) (config : Snapshot World Caller) (caller : Caller)
    (op : EngineOp) (reply : Except PyError (EngineReply op)) (world : World) : Prop where
  shares : SharesIntents deployment grantsOf outboxOf
  held : KeyInvariant deployment grantsOf outboxOf config
  admitted : (deployment.call caller).admits (deployment.context caller)
    (deployment.progress config caller) op
  answered : deployment.answers caller config.world op reply world

namespace KeyStep

variable (step : KeyStep deployment grantsOf outboxOf config caller op reply world)
  {other : Caller} {commit second : CommitCall} {work otherWork : Work}
include step

theorem own_admits (commits : Commits deployment config caller commit work) :
    commitAdmits (deployment.context caller) commit (deployment.progress config caller) op := by
  have admitted := step.admitted
  rw [commits.call] at admitted
  exact admitted

/-- Nobody ends the reservation that another commit holds. -/
theorem unfreed (commits : Commits deployment config other commit work)
    (holds : work.grant = .held) (different : other ≠ caller) : frees op ≠ some commit.grantId := by
  intro freed
  rcases freed_by step.admitted freed with ⟨own, call, same, alsoHeld⟩ | ⟨compensation, call, same⟩
  · exact different (step.held.unique other caller commit own work _ commits ⟨call, rfl⟩ same.symm
      holds alsoHeld)
  · exact step.shares.apart other caller commit compensation commits.call call same.symm

theorem reserved
    (commits : Commits deployment (config.answer caller op resume reply world) other commit work)
    (holds : work.grant = .held) : Reserved grantsOf commit.grantId world := by
  obtain ⟨earlier, before, ⟨rfl, rfl⟩ | ⟨different, rfl⟩⟩ := commits.before
  · rw [← before.work] at holds
    rcases held_after step.shares.grants step.answered (step.own_admits before) holds with
      ⟨wasHeld, lasts⟩ | ⟨_, _, now⟩
    · exact lasts (step.held.reserved _ _ _ ⟨before.call, rfl⟩ wasHeld)
    · exact now
  · exact reserved_lasts step.shares.grants step.answered (step.held.reserved _ _ _ before holds)
      (step.unfreed before holds different)

/-- A commit does not reserve what another one holds. -/
theorem unique_own (own : Commits deployment config caller commit work)
    (before : Commits deployment config other second otherWork)
    (same : commit.grantId = second.grantId)
    (holds : (work.observe commit.manifestId op reply).grant = .held)
    (otherHolds : otherWork.grant = .held) : caller = other := by
  rw [← own.work] at holds
  rcases held_after step.shares.grants step.answered (step.own_admits own) holds with
    ⟨wasHeld, _⟩ | ⟨_, free, _⟩
  · exact step.held.unique caller other commit second _ otherWork ⟨own.call, rfl⟩ before same
      wasHeld otherHolds
  · rw [same] at free
    exact absurd (step.held.reserved _ _ _ before otherHolds) free

theorem unique {first : Caller}
    (commits : Commits deployment (config.answer caller op resume reply world) first commit work)
    (others : Commits deployment (config.answer caller op resume reply world) other second
      otherWork)
    (same : commit.grantId = second.grantId) (holds : work.grant = .held)
    (otherHolds : otherWork.grant = .held) : first = other := by
  obtain ⟨earlier, before, ⟨rfl, rfl⟩ | ⟨_, rfl⟩⟩ := commits.before
  · obtain ⟨otherEarlier, otherBefore, ⟨rfl, rfl⟩ | ⟨_, rfl⟩⟩ := others.before
    · rfl
    · exact step.unique_own before otherBefore same holds otherHolds
  · obtain ⟨otherEarlier, otherBefore, ⟨rfl, rfl⟩ | ⟨_, rfl⟩⟩ := others.before
    · exact (step.unique_own otherBefore before same.symm otherHolds holds).symm
    · exact step.held.unique _ _ _ _ _ _ before otherBefore same holds otherHolds

theorem begun
    (commits : Commits deployment (config.answer caller op resume reply world) other commit work)
    (intended : work.outbox ≠ .idle) : work.grant ≠ .idle := by
  obtain ⟨earlier, before, ⟨rfl, rfl⟩ | ⟨_, rfl⟩⟩ := commits.before
  · intro idle
    have wasIdle := (earlier.observe_begun _ op reply).grant idle
    rw [← before.work] at intended wasIdle
    rcases intended_after step.shares.outbox step.answered (step.own_admits before) intended with
      ⟨wasIntended, _⟩ | ⟨holds, _⟩
    · exact step.held.begun _ _ _ ⟨before.call, rfl⟩ wasIntended wasIdle
    · rw [holds] at wasIdle
      cases wasIdle
  · exact step.held.begun _ _ _ before intended

theorem bound
    (commits : Commits deployment (config.answer caller op resume reply world) other commit work)
    (intended : work.outbox ≠ .idle) :
    Binds outboxOf commit.idempotencyKey commit.grantId (work.outbox = .confirmed) world := by
  obtain ⟨earlier, before, ⟨rfl, rfl⟩ | ⟨_, rfl⟩⟩ := commits.before
  · rw [← before.work] at intended ⊢
    have admitted := step.own_admits before
    rcases intended_after step.shares.outbox step.answered admitted intended with
      ⟨wasIntended, _⟩ | ⟨_, _, recorded, binds⟩
    · obtain ⟨entry, present, binds, settled⟩ := binds_lasts step.shares.outbox step.answered
        (step.held.bound _ _ _ ⟨before.call, rfl⟩ wasIntended)
      refine ⟨entry, present, binds, ?_⟩
      intro confirmed
      rcases confirmed_after step.shares.outbox step.answered admitted confirmed with
        wasConfirmed | ⟨found, isFound, final⟩
      · exact settled wasConfirmed
      · obtain rfl : entry = found := Option.some.inj (present.symm.trans isFound)
        exact final
    · obtain ⟨entry, present, binds, _⟩ := binds
      refine ⟨entry, present, binds, ?_⟩
      intro confirmed
      rw [recorded] at confirmed
      cases confirmed
  · exact binds_lasts step.shares.outbox step.answered (step.held.bound _ _ _ before intended)

/-- An effect that is reported now is one of a commit that was ready for it. -/
theorem effect_now {key : String}
    (effect : takesEffectUnder key (.performed caller op reply) = true) :
    ∃ commit result, deployment.call caller = .commit commit ∧ commit.idempotencyKey = key ∧
      ReadyToExecute (deployment.context caller) commit (deployment.progress config caller) ∧
      ((deployment.progress config caller).work.observe commit.manifestId op reply).grant = .held ∧
      ((deployment.progress config caller).work.observe commit.manifestId op reply).outbox ≠
        .idle ∧
      ((deployment.progress config caller).work.observe commit.manifestId op reply).adapter =
        .succeeded result := by
  have admitted := step.admitted
  unfold takesEffectUnder at effect
  split at effect
  · next performed =>
      cases performed
      obtain ⟨commit, call, rfl, ready⟩ := invoked_by admitted
      rw [Bool.and_eq_true, decide_eq_true_eq] at effect
      have recorded := ready.intent (step.shares.configured caller commit call)
      refine ⟨commit, _, call, effect.2, ready, ready.reserved, ?_, if_pos effect.1⟩
      change (deployment.progress config caller).work.outbox ≠ .idle
      rw [recorded]
      decide
  · cases effect

/-- An adapter is invoked for a key under which nothing has happened. -/
theorem invocation_now {key : String}
    (invocation : invokesUnder key (.performed caller op reply) = true) :
    ¬ Happened config.log key := by
  have admitted := step.admitted
  unfold invokesUnder at invocation
  split at invocation
  · next performed =>
      cases performed
      obtain ⟨commit, call, rfl, ready⟩ := invoked_by admitted
      rw [decide_eq_true_eq] at invocation
      rw [← invocation]
      exact step.held.ahead caller commit _ ⟨call, rfl⟩ ready.reserved
        (ready.intent (step.shares.configured caller commit call)) ready.first
  · cases invocation

/-- What a commit with an effect has done after a step, if it still holds its grant; it gives it
up only once its intent is settled. -/
theorem succeeded (before : Commits deployment config other commit work)
    (holds : work.grant = .held) (intended : work.outbox ≠ .idle) {result : CommitResult}
    (succeeded : work.adapter = .succeeded result) :
    (∃ entry, (outboxOf world).entries commit.idempotencyKey = some entry ∧
      entry.status ≠ .pending) ∨
    ∃ after, Commits deployment (config.answer caller op resume reply world) other commit after ∧
      after.grant = .held ∧ after.outbox ≠ .idle ∧ after.adapter = .succeeded result := by
  by_cases same : other = caller
  · subst same
    have admitted := step.own_admits before
    obtain rfl := before.work
    by_cases kept : ((deployment.progress config other).work.observe commit.manifestId op
        reply).grant = .held
    · right
      refine ⟨_, ⟨before.call, rfl⟩, ?_⟩
      rw [deployment.progress_answer_own, observe_work, before.call]
      refine ⟨kept, fun idle => intended ((Work.observe_begun _ _ op reply).outbox idle), ?_⟩
      rw [← succeeded]
      apply answer_lasts _ reply admitted
      rw [succeeded]
      simp
    · left
      have confirmed := confirmed_of_lost admitted holds kept succeeded
      obtain ⟨entry, present, _, settled⟩ := binds_lasts step.shares.outbox step.answered
        (step.held.bound _ _ _ before intended)
      exact ⟨entry, present, settled (confirmed (step.shares.configured _ _ before.call))⟩
  · right
    refine ⟨work, ⟨before.call, ?_⟩, holds, intended, succeeded⟩
    rw [deployment.progress_answer_other _ _ _ _ same]
    exact before.work

theorem settled {key : String}
    (happened : Happened (config.log ++ [.performed caller op reply]) key) :
    (∃ entry, (outboxOf world).entries key = some entry ∧ entry.status ≠ .pending) ∨
      ∃ other commit work result,
        Commits deployment (config.answer caller op resume reply world) other commit work ∧
        commit.idempotencyKey = key ∧ work.grant = .held ∧ work.outbox ≠ .idle ∧
          work.adapter = .succeeded result := by
  rcases happened_append.mp happened with earlier | effect
  · rcases step.held.settled key earlier with ⟨entry, present, final⟩ |
      ⟨other, commit, work, result, before, rfl, holds, intended, succeeded⟩
    · obtain ⟨later, found, follows⟩ := entry_lasts step.shares.outbox step.answered present
      exact Or.inl ⟨later, found, follows.final final⟩
    · rcases step.succeeded before holds intended succeeded with final | ⟨after, commits, rest⟩
      · exact Or.inl final
      · exact Or.inr ⟨other, commit, after, result, commits, rfl, rest⟩
  · obtain ⟨commit, result, call, rfl, _, after⟩ := step.effect_now effect
    right
    refine ⟨caller, commit, _, result, ⟨call, rfl⟩, rfl, ?_⟩
    rw [deployment.progress_answer_own, observe_work, call]
    exact after

theorem ahead
    (commits : Commits deployment (config.answer caller op resume reply world) other commit work)
    (holds : work.grant = .held) (recorded : work.outbox = .recorded)
    (idle : work.adapter = .idle) :
    ¬ Happened (config.log ++ [.performed caller op reply]) commit.idempotencyKey := by
  obtain ⟨earlier, before, place⟩ := commits.before
  intro happened
  rcases happened_append.mp happened with already | effect
  · rcases place with ⟨rfl, rfl⟩ | ⟨_, rfl⟩
    · have wasIdle := (earlier.observe_begun _ op reply).adapter idle
      rw [← before.work] at holds recorded wasIdle
      have admitted := step.own_admits before
      have intended : ((deployment.progress config other).work.observe commit.manifestId op
          reply).outbox ≠ .idle := by
        rw [recorded]
        decide
      rcases intended_after step.shares.outbox step.answered admitted intended with
        ⟨wasIntended, wasRecorded⟩ | ⟨wasHeld, free, _⟩
      · rcases held_after step.shares.grants step.answered admitted holds with
          ⟨wasHeld, _⟩ | ⟨fresh, _⟩
        · exact step.held.ahead _ _ _ ⟨before.call, rfl⟩ wasHeld (wasRecorded recorded) wasIdle
            already
        · exact step.held.begun _ _ _ ⟨before.call, rfl⟩ wasIntended fresh
      · rcases step.held.settled _ already with ⟨entry, present, final⟩ |
          ⟨owner, second, otherWork, result, owns, sameKey, alsoHeld, alsoIntended, succeeded⟩
        · exact final (free entry present).2
        · obtain ⟨entry, present, bound, _⟩ := step.held.bound _ _ _ owns alsoIntended
          rw [sameKey] at present
          have sameGrant := bound.symm.trans (free entry present).1
          obtain rfl := step.held.unique _ _ _ _ _ _ owns ⟨before.call, rfl⟩ sameGrant alsoHeld
            wasHeld
          rw [owns.work, succeeded] at wasIdle
          cases wasIdle
    · exact step.held.ahead _ _ _ before holds recorded idle already
  · obtain ⟨second, result, call, sameKey, ready, _, _, succeeded⟩ := step.effect_now effect
    rcases place with ⟨rfl, rfl⟩ | ⟨different, rfl⟩
    · obtain rfl := (before.unique ⟨call, rfl⟩).1
      rw [← before.work, succeeded] at idle
      cases idle
    · have intent := ready.intent (step.shares.configured caller second call)
      obtain ⟨entry, present, bound, _⟩ := step.held.bound caller second _ ⟨call, rfl⟩ (by
        rw [intent]
        decide)
      obtain ⟨found, isFound, alsoBound, _⟩ := step.held.bound other commit work before (by
        rw [recorded]
        decide)
      rw [sameKey] at present
      obtain rfl : entry = found := Option.some.inj (present.symm.trans isFound)
      exact different (step.held.unique _ _ _ _ _ _ before ⟨call, rfl⟩ (alsoBound.symm.trans bound)
        holds ready.reserved)

/-- A step of any caller keeps the invariant. -/
theorem answer : KeyInvariant deployment grantsOf outboxOf
    (config.answer caller op resume reply world) where
  reserved := fun _ _ _ commits holds => step.reserved commits holds
  unique := fun _ _ _ _ _ _ commits others same holds otherHolds =>
    step.unique commits others same holds otherHolds
  begun := fun _ _ _ commits intended => step.begun commits intended
  bound := fun _ _ _ commits intended => step.bound commits intended
  settled := fun _ happened => step.settled happened
  ahead := fun _ _ _ commits holds recorded idle => step.ahead commits holds recorded idle
  once := by
    rw [Config.answer, List.pairwise_append]
    refine ⟨step.held.once, List.pairwise_singleton _ _, ?_⟩
    intro earlier listed later last key effect
    obtain rfl := List.mem_singleton.mp last
    by_contra invocation
    exact step.invocation_now (Bool.eq_true_of_not_eq_false invocation) ⟨earlier, listed, effect⟩

end KeyStep

/-- Scheduling a call neither does anything nor reports an effect. -/
theorem KeyInvariant.scheduled {after : Snapshot World Caller}
    (held : KeyInvariant deployment grantsOf outboxOf config)
    (progress : ∀ other, deployment.progress after other = deployment.progress config other)
    (same : after.world = config.world)
    {entry : Entry EngineOp EngineReply PyError CallResult Caller}
    (log : after.log = config.log ++ [entry]) (plain : ∀ key, invokesUnder key entry = false)
    (uneventful : ∀ key, takesEffectUnder key entry = false) :
    KeyInvariant deployment grantsOf outboxOf after := by
  have back : ∀ {other commit work}, Commits deployment after other commit work →
      Commits deployment config other commit work :=
    fun commits => ⟨commits.call, (progress _) ▸ commits.work⟩
  have happened : ∀ key, Happened after.log key ↔ Happened config.log key := by
    intro key
    rw [log, happened_append, uneventful key]
    simp
  constructor
  · rw [same]
    exact fun other commit work commits => held.reserved _ _ _ (back commits)
  · exact fun first second one other work otherWork commits others =>
      held.unique _ _ _ _ _ _ (back commits) (back others)
  · exact fun other commit work commits => held.begun _ _ _ (back commits)
  · rw [same]
    exact fun other commit work commits => held.bound _ _ _ (back commits)
  · rw [same]
    intro key effect
    rcases held.settled key ((happened key).mp effect) with final |
      ⟨other, commit, work, result, commits, rest⟩
    · exact Or.inl final
    · exact Or.inr ⟨other, commit, work, result, ⟨commits.call, (progress _).symm ▸ commits.work⟩,
        rest⟩
  · intro other commit work commits holds recorded idle
    rw [happened]
    exact held.ahead _ _ _ (back commits) holds recorded idle
  · rw [log, List.pairwise_append]
    refine ⟨held.once, List.pairwise_singleton _ _, ?_⟩
    intro earlier listed later last key _
    rw [List.mem_singleton.mp last]
    exact plain key

theorem key_invariant_start (initial : World) :
    KeyInvariant deployment grantsOf outboxOf (Pool.initial initial) := by
  have nothing : ∀ {other commit work},
      Commits deployment (Pool.initial initial) other commit work → work = {} :=
    fun commits => commits.work.symm
  constructor
  · intro other commit work commits holds
    rw [nothing commits] at holds
    cases holds
  · intro first second one other work otherWork commits others _ holds
    rw [nothing commits] at holds
    cases holds
  · intro other commit work commits intended
    exact absurd rfl (nothing commits ▸ intended)
  · intro other commit work commits intended
    exact absurd rfl (nothing commits ▸ intended)
  · rintro key ⟨entry, listed, _⟩
    cases listed
  · intro other commit work commits holds
    rw [nothing commits] at holds
    cases holds
  · exact List.Pairwise.nil

end Step

section Result

variable {deployment : Deployment World Caller} {grantsOf : World → GrantStore}
  {outboxOf : World → OutboxStore} {initial : World} {config : Snapshot World Caller}

/-- One effect for a key.  At every point of every interleaving of commits, recoveries,
revocations and compensations over one grant store and one outbox: once an adapter has reported an
effect under an idempotency key, no adapter is invoked under that key again, for any manifest and
any grant. -/
theorem one_effect_per_key (shares : SharesIntents deployment grantsOf outboxOf)
    (reached : deployment.Reachable initial config) :
    config.log.Pairwise (fun earlier later => ∀ key, takesEffectUnder key earlier = true →
      invokesUnder key later = false) := by
  have keeps : deployment.Keeps (KeyInvariant deployment grantsOf outboxOf) := by
    constructor
    · intro current caller held _ _ _
      exact held.scheduled (fun other => deployment.progress_start current caller other _) rfl rfl
        (fun _ => rfl) (fun _ => rfl)
    · intro current caller op resume reply world held _ _ admitted answered
      exact KeyStep.answer ⟨shares, held, admitted, answered⟩
    · intro current caller outcome held _ _
      exact held.scheduled (fun other => deployment.progress_finish current caller other outcome)
        rfl rfl (fun _ => rfl) (fun _ => rfl)
  exact (keeps.reachable (key_invariant_start initial) reached).1.once

end Result

/-! ### Two payments under one key -/

/-- Two engines with an outbox, and a payment of different accounts on each. -/
def guardedCommits : Service Nat Nat :=
  { Payment.service Payment.prompt id (fun caller => .commit
      (if caller = 0 then Payment.commitOf Payment.sealedTransfer Payment.transferGrant
        else Payment.commitOf Payment.sealedOtherTransfer Payment.otherGrant)) with
    context := fun _ => { Payment.context with hasOutboxStore := true } }

theorem guarded_shares_intents :
    SharesIntents guardedCommits.deployment Engine.World.grants Engine.World.outbox where
  grants := guardedCommits.shares_grants
  outbox := guardedCommits.shares_outbox
  configured := fun _ _ _ => rfl
  apart := by
    intro caller other commit compensation _ call
    cases call

/-- The second payment runs while the first one is at the adapter. -/
def guardedState : Snapshot (Engine.World Nat) Nat :=
  guardedCommits.replay Payment.prompt (Payment.authorizedWorld Nat)
    (List.replicate 14 0 ++ List.replicate 30 1 ++ List.replicate 20 0)

theorem guarded_state_is_reached :
    guardedCommits.deployment.Reachable (Payment.authorizedWorld Nat) guardedState :=
  Service.replay_reachable rfl (fun _ _ => trivial) (fun _ _ _ => trivial) _ _

theorem second_payment_is_not_made :
    guardedState.world.effects.map EffectManifest.manifestId = ["mf-1"] ∧
      guardedState.log.Pairwise (fun earlier later => ∀ key, takesEffectUnder key earlier = true →
        invokesUnder key later = false) :=
  ⟨by decide +kernel, one_effect_per_key guarded_shares_intents guarded_state_is_reached⟩

end KarmaSakshi.Guarantees
