import Mathlib.Data.List.Chain
import KarmaSakshi.Engine.Rollback
import KarmaSakshi.Engine.Scenario

/-!
Lifecycle safety across engines.

Every engine decides from its own, possibly stale, record; the shared
compare-and-set decides whether the write happens.  The durable states of a
manifest therefore walk the transition graph, whose rank makes every state a
one-way door, and a refused engine puts its record back.
-/

namespace KarmaSakshi.Guarantees

open EffectProgram KarmaSakshi.Domain KarmaSakshi.Stores KarmaSakshi.Engine

set_option autoImplicit false

variable {World Caller : Type}

/-! ### Durable writes in the log -/

/-- The state a log entry durably wrote for the manifest. -/
def durableWrite (manifestId : String) :
    Entry EngineOp EngineReply PyError CallResult Caller → Option LifecycleState
  | .performed _ (.lifecycle (.compareAndSet written _ newState)) (.ok true) =>
      if written = manifestId then some newState else none
  | _ => none

def durableStates (log : Log Caller) (manifestId : String) : List LifecycleState :=
  log.filterMap (durableWrite manifestId)

/-- A successful write that found the manifest AUTHORIZED. -/
def leavesAuthorized (manifestId : String) :
    Entry EngineOp EngineReply PyError CallResult Caller → Bool
  | .performed _ (.lifecycle (.compareAndSet written (some .authorized) _)) (.ok true) =>
      written == manifestId
  | _ => false

/-- An invocation of the adapter for the manifest, whatever it answers. -/
def isInvocation (manifestId : String) :
    Entry EngineOp EngineReply PyError CallResult Caller → Bool
  | .performed _ (.adapter _ (.commit manifest _)) _ => manifest.manifestId == manifestId
  | _ => false

def invocations (log : Log Caller) (manifestId : String) : Nat :=
  log.countP (isInvocation manifestId)

theorem invocations_append (log : Log Caller) (manifestId : String)
    (entry : Entry EngineOp EngineReply PyError CallResult Caller) :
    invocations (log ++ [entry]) manifestId =
      invocations log manifestId + if isInvocation manifestId entry then 1 else 0 := by
  simp [invocations, List.countP_append, List.countP_cons]

/-- The caller has itself moved the manifest from AUTHORIZED to COMMITTING. -/
def EnteredBy (log : Log Caller) (manifestId : String) (caller : Caller) : Prop :=
  .performed caller
    (.lifecycle (.compareAndSet manifestId (some .authorized) .committing)) (.ok true) ∈ log

theorem EnteredBy.later {manifestId : String} {log : Log Caller} {caller : Caller}
    (entered : EnteredBy log manifestId caller)
    (entry : Entry EngineOp EngineReply PyError CallResult Caller) :
    EnteredBy (log ++ [entry]) manifestId caller :=
  List.mem_append_left _ entered

/-- Where the durable state of a manifest stands; an absent one is PROPOSED. -/
def durableState (states : LifecycleMap) (manifestId : String) : LifecycleState :=
  (states manifestId).getD .proposed

/-! ### What one step may do -/

/-- Every call only ever writes along a legal transition. -/
theorem admitted_swap_is_legal {context : EngineContext} {call : EngineCall}
    {progress : Progress} {manifestId : String} {expected : Option LifecycleState}
    {newState : LifecycleState}
    (admitted : call.admits context progress
      (.lifecycle (.compareAndSet manifestId expected newState))) :
    LifecycleState.isLegalTransition (expected.getD .proposed) newState = true := by
  cases call with
  | commit inner => exact admitted.2.2.1
  | move subject target note =>
      obtain ⟨_, _, rfl, legal⟩ := admitted
      exact legal
  | recover inner =>
      obtain ⟨_, _, _, rfl, legal⟩ := admitted
      exact legal
  | revoke inner =>
      obtain ⟨_, _, rfl, legal⟩ := admitted
      exact legal
  | compensate inner => exact admitted.2.2

/-- Only a commit that is ready invokes the adapter, for its own manifest. -/
theorem admitted_invocation {context : EngineContext} {call : EngineCall} {progress : Progress}
    {identity : AdapterIdentity} {manifest : EffectManifest} {grant : ExecutionGrant}
    (admitted : call.admits context progress (.adapter identity (.commit manifest grant))) :
    ∃ inner, call = .commit inner ∧ manifest = inner.manifest ∧ grant = inner.grant ∧
      ReadyToExecute context inner progress := by
  cases call with
  | commit inner =>
      obtain ⟨_, isOwn, isGrant, ready⟩ := admitted
      exact ⟨inner, rfl, isOwn, isGrant, ready⟩
  | recover inner => exact admitted.2.elim
  | _ => exact admitted.elim

/-- What an answered operation does to the durable state of the manifest. -/
inductive DurableStep (caller : Caller) (manifestId : String) (before after : LifecycleState) :
    (op : EngineOp) → Except PyError (EngineReply op) → Prop where
  | kept {op : EngineOp} {reply : Except PyError (EngineReply op)} (same : after = before)
      (silent : durableWrite manifestId (.performed caller op reply) = none) :
      DurableStep caller manifestId before after op reply
  | moved {expected : Option LifecycleState} (found : expected.getD .proposed = before)
      (legal : LifecycleState.isLegalTransition before after = true) :
      DurableStep caller manifestId before after
        (.lifecycle (.compareAndSet manifestId expected after)) (.ok true)

/-! ### The durable history -/

theorem durable_states_append (log : Log Caller) (manifestId : String)
    (entry : Entry EngineOp EngineReply PyError CallResult Caller) :
    durableStates (log ++ [entry]) manifestId =
      durableStates log manifestId ++ (durableWrite manifestId entry).toList := by
  simp only [durableStates, List.filterMap_append, List.filterMap_cons, List.filterMap_nil]
  cases durableWrite manifestId entry <;> rfl

/-- The durable history of one manifest. -/
structure History (manifestId : String) (state : LifecycleState) (log : Log Caller) : Prop where
  path : List.IsChain (fun current target => LifecycleState.isLegalTransition current target = true)
    (.proposed :: durableStates log manifestId)
  last : (LifecycleState.proposed :: durableStates log manifestId).getLast? = some state
  left : log.countP (leavesAuthorized manifestId) ≤
    if LifecycleState.authorized.rank < state.rank then 1 else 0
  entered : ∀ caller, EnteredBy log manifestId caller → LifecycleState.committing.rank ≤ state.rank
  once : ∀ first second, EnteredBy log manifestId first → EnteredBy log manifestId second →
    first = second

theorem leaving_is_durable {manifestId : String}
    {entry : Entry EngineOp EngineReply PyError CallResult Caller}
    (leaves : leavesAuthorized manifestId entry = true) : durableWrite manifestId entry ≠ none := by
  unfold leavesAuthorized at leaves
  split at leaves
  · simpa [durableWrite] using leaves
  · exact absurd leaves (by simp)

theorem entering_is_durable (manifestId : String) (caller : Caller) :
    durableWrite manifestId (.performed caller
      (.lifecycle (.compareAndSet manifestId (some .authorized) .committing)) (.ok true)) =
      some .committing := by
  simp [durableWrite]

/-- Entries that write nothing for the manifest add nothing to its history. -/
theorem History.silent {manifestId : String} {state : LifecycleState} {log : Log Caller}
    (history : History manifestId state log)
    {entry : Entry EngineOp EngineReply PyError CallResult Caller}
    (silent : durableWrite manifestId entry = none) :
    History manifestId state (log ++ [entry]) := by
  have states : durableStates (log ++ [entry]) manifestId = durableStates log manifestId := by
    rw [durable_states_append, silent, Option.toList_none, List.append_nil]
  have entered : ∀ caller, EnteredBy (log ++ [entry]) manifestId caller →
      EnteredBy log manifestId caller := by
    intro caller written
    rcases List.mem_append.mp written with earlier | now
    · exact earlier
    · rw [← List.mem_singleton.mp now, entering_is_durable] at silent
      exact absurd silent (by simp)
  have stays : leavesAuthorized manifestId entry = false := by
    cases leaves : leavesAuthorized manifestId entry with
    | false => rfl
    | true => exact absurd silent (leaving_is_durable leaves)
  constructor
  · rw [states]
    exact history.path
  · rw [states]
    exact history.last
  · rw [List.countP_append, List.countP_singleton, stays]
    exact history.left
  · exact fun caller written => history.entered caller (entered caller written)
  · exact fun first second one two =>
      history.once first second (entered first one) (entered second two)

theorem History.moved {manifestId : String} {state target : LifecycleState} {log : Log Caller}
    (history : History manifestId state log) (caller : Caller)
    {expected : Option LifecycleState} (found : expected.getD .proposed = state)
    (legal : LifecycleState.isLegalTransition state target = true) :
    History manifestId target (log ++ [.performed caller
      (.lifecycle (.compareAndSet manifestId expected target)) (.ok true)]) := by
  have raised := LifecycleState.legal_raises_rank legal
  have states : durableStates (log ++ [.performed caller
      (.lifecycle (.compareAndSet manifestId expected target)) (.ok true)]) manifestId =
      durableStates log manifestId ++ [target] := by
    rw [durable_states_append]
    simp [durableWrite]
  have entered : ∀ other, EnteredBy (log ++ [.performed caller
      (.lifecycle (.compareAndSet manifestId expected target)) (.ok true)]) manifestId other →
      EnteredBy log manifestId other ∨
        (other = caller ∧ expected = some .authorized ∧ target = .committing) := by
    intro other written
    rcases List.mem_append.mp written with earlier | now
    · exact Or.inl earlier
    · right
      have same := List.mem_singleton.mp now
      simp only [Entry.performed.injEq, EngineOp.lifecycle.injEq, LifecycleOp.compareAndSet.injEq]
        at same
      exact ⟨same.1, same.2.1.2.1.symm, same.2.1.2.2.symm⟩
  constructor
  · rw [states, ← List.cons_append]
    apply List.IsChain.append history.path (List.isChain_singleton _)
    intro current isLast next isNext
    rw [history.last] at isLast
    obtain rfl := Option.some.inj isLast
    obtain rfl := Option.some.inj isNext
    exact legal
  · rw [states, ← List.cons_append, List.getLast?_concat]
  · rw [List.countP_append, List.countP_singleton]
    have left := history.left
    by_cases leaves : leavesAuthorized manifestId (.performed caller
        (.lifecycle (.compareAndSet manifestId expected target)) (.ok true)) = true
    · have wasAuthorized : expected = some .authorized := by
        unfold leavesAuthorized at leaves
        split at leaves
        · next equal =>
            simp only [Entry.performed.injEq, EngineOp.lifecycle.injEq,
              LifecycleOp.compareAndSet.injEq] at equal
            exact equal.2.1.2.1
        · exact absurd leaves (by simp)
      rw [wasAuthorized, Option.getD_some] at found
      subst found
      rw [if_neg (lt_irrefl _)] at left
      rw [if_pos leaves, if_pos raised]
      omega
    · rw [if_neg leaves]
      split at left
      · rw [if_pos (by omega)]
        exact left
      · split <;> omega
  · intro other written
    rcases entered other written with earlier | ⟨_, _, rfl⟩
    · exact le_of_lt (lt_of_le_of_lt (history.entered other earlier) raised)
    · exact le_refl _
  · intro first second one two
    have fresh : ∀ other, expected = some .authorized → ¬ EnteredBy log manifestId other := by
      intro other wasAuthorized earlier
      have late := history.entered other earlier
      rw [wasAuthorized, Option.getD_some] at found
      rw [← found] at late
      exact absurd late (by decide)
    rcases entered first one with earlyOne | ⟨rfl, wasAuthorized, _⟩
    · rcases entered second two with earlyTwo | ⟨rfl, wasAuthorized, _⟩
      · exact history.once first second earlyOne earlyTwo
      · exact absurd earlyOne (fresh first wasAuthorized)
    · rcases entered second two with earlyTwo | ⟨rfl, _, _⟩
      · exact absurd earlyTwo (fresh second wasAuthorized)
      · rfl

theorem History.answer {manifestId : String} {state after : LifecycleState} {log : Log Caller}
    (history : History manifestId state log) {caller : Caller} {op : EngineOp}
    {reply : Except PyError (EngineReply op)}
    (step : DurableStep caller manifestId state after op reply) :
    History manifestId after (log ++ [.performed caller op reply]) := by
  cases step with
  | kept same silent =>
      subst same
      exact history.silent silent
  | moved found legal => exact history.moved caller found legal

theorem history_start (manifestId : String) :
    History manifestId .proposed ([] : Log Caller) := by
  constructor
  · exact List.isChain_singleton _
  · rfl
  · exact Nat.zero_le _
  · exact fun _ written => by cases written
  · exact fun _ _ written => by cases written

/-- The call's own COMMITTING comes from the very compare-and-set that leaves
AUTHORIZED. -/
theorem own_entry {caller : Caller} {inner : CommitCall} {op : EngineOp}
    {reply : Except PyError (EngineReply op)} {progress : Progress} {context : EngineContext}
    {log : Log Caller} (admitted : commitAdmits context inner progress op)
    (earlier : progress.work.stored = some .committing → EnteredBy log inner.manifestId caller)
    (stored : (progress.work.observe inner.manifestId op reply).stored = some .committing) :
    EnteredBy (log ++ [.performed caller op reply]) inner.manifestId caller := by
  rcases progress.work.stored_by_swap _ stored with before | ⟨expected, equal⟩
  · exact (earlier before).later _
  · cases equal
    have legal : LifecycleState.isLegalTransition (expected.getD .proposed) .committing = true :=
      admitted.2.2.1
    have departed := LifecycleState.legal_into_committing legal
    cases expected with
    | none => exact absurd departed (by decide)
    | some state =>
        obtain rfl : state = .authorized := departed
        exact List.mem_append_right _ (List.mem_singleton.mpr rfl)

variable [DecidableEq Caller] {deployment : Deployment World Caller}
  {statesOf : World → LifecycleMap} {manifestId : String} {initial : World}

theorem durable_step (shared : SharesLifecycleStore deployment statesOf) (manifestId : String)
    {caller : Caller} {world after : World} {op : EngineOp}
    {reply : Except PyError (EngineReply op)} {progress : Progress}
    (admitted : (deployment.call caller).admits (deployment.context caller) progress op)
    (answered : deployment.answers caller world op reply after) :
    DurableStep caller manifestId (durableState (statesOf world) manifestId)
      (durableState (statesOf after) manifestId) op reply := by
  by_cases swap : ∃ written expected newState,
      op = .lifecycle (.compareAndSet written expected newState)
  · obtain ⟨written, expected, newState, rfl⟩ := swap
    have legal := admitted_swap_is_legal admitted
    rcases shared.swaps caller world written expected newState reply after answered with
      ⟨raised, same⟩ | ⟨replied, written_⟩
    · rw [same]
      refine .kept rfl ?_
      cases reply with
      | ok won => exact absurd raised (by simp [isError])
      | error error => rfl
    · subst replied
      unfold LifecycleMap.compareAndSet at *
      by_cases found : statesOf world written = expected
      · simp only [if_pos found] at written_ ⊢
        by_cases same : written = manifestId
        · subst same
          have moved : durableState (statesOf after) written = newState := by
            rw [written_, durableState, Function.update_self, Option.getD_some]
          have wasFound : durableState (statesOf world) written = expected.getD .proposed := by
            rw [durableState, found]
          rw [moved, wasFound]
          exact .moved rfl legal
        · refine .kept ?_ (if_neg same)
          rw [written_, durableState, Function.update_of_ne (fun equal => same equal.symm)]
          rfl
      · simp only [if_neg found] at written_ ⊢
        exact .kept (by rw [written_]) rfl
  · have same : statesOf after = statesOf world := by
      cases op with
      | lifecycle inner =>
          cases inner with
          | get asked => exact (shared.reads caller world asked reply after answered).1
          | compareAndSet written expected newState => exact absurd ⟨_, _, _, rfl⟩ swap
      | _ => exact shared.frames caller world _ reply after answered (fun _ same => by cases same)
    rw [same]
    refine .kept rfl ?_
    cases op with
    | lifecycle inner =>
        cases inner with
        | get asked => rfl
        | compareAndSet written expected newState => exact absurd ⟨_, _, _, rfl⟩ swap
    | _ => rfl

/-! ### The invariant of a deployment -/

theorem invocation_uses_adapter (work : Work) (subject : String) (identity : AdapterIdentity)
    (manifest : EffectManifest) (grant : ExecutionGrant)
    (reply : Except PyError CommitResult) :
    (work.observe subject (.adapter identity (.commit manifest grant)) reply).adapter ≠ .idle := by
  cases reply with
  | error error => simp [Work.observe, Work.observeAdapter]
  | ok result =>
      by_cases success : result.success = true <;>
        simp [Work.observe, Work.observeAdapter, success]

/-- Having called the adapter is never forgotten. -/
theorem use_of_adapter_stays (work : Work) (subject : String) {op : EngineOp}
    (reply : Except PyError (EngineReply op)) (used : work.adapter ≠ .idle) :
    (work.observe subject op reply).adapter ≠ .idle := by
  by_cases invokes : ∃ identity manifest grant, op = .adapter identity (.commit manifest grant)
  · obtain ⟨identity, manifest, grant, rfl⟩ := invokes
    exact invocation_uses_adapter work subject identity manifest grant reply
  · rw [work.adapter_is_kept subject reply
      (fun identity manifest grant same => invokes ⟨identity, manifest, grant, same⟩)]
    exact used

/-- A call that has seen its own COMMITTING stored wrote it itself, and the
adapter is invoked by no other call. -/
structure EntryInvariant (deployment : Deployment World Caller) (manifestId : String)
    (config : Snapshot World Caller) : Prop where
  own : ∀ caller inner, deployment.call caller = .commit inner → inner.manifestId = manifestId →
    (deployment.progress config caller).work.stored = some .committing →
      EnteredBy config.log manifestId caller
  invoked : invocations config.log manifestId = 0 ∨
    ∃ caller, EnteredBy config.log manifestId caller ∧
      (deployment.progress config caller).work.adapter ≠ .idle ∧
      invocations config.log manifestId = 1

variable {config : Snapshot World Caller}

theorem EntryInvariant.scheduled (held : EntryInvariant deployment manifestId config)
    {after : Snapshot World Caller} (entry : Entry EngineOp EngineReply PyError CallResult Caller)
    (log : after.log = config.log ++ [entry]) (silent : isInvocation manifestId entry = false)
    (progress : ∀ other, deployment.progress after other = deployment.progress config other) :
    EntryInvariant deployment manifestId after := by
  have same : invocations after.log manifestId = invocations config.log manifestId := by
    rw [log, invocations_append, silent]
    rfl
  constructor
  · intro caller inner isCommit subject stored
    rw [progress caller] at stored
    rw [log]
    exact (held.own caller inner isCommit subject stored).later entry
  · rw [same]
    rcases held.invoked with never | ⟨caller, entered, used, once⟩
    · exact Or.inl never
    · refine Or.inr ⟨caller, ?_, ?_, once⟩
      · rw [log]
        exact entered.later entry
      · rw [progress caller]
        exact used

theorem EntryInvariant.answer (held : EntryInvariant deployment manifestId config)
    (once : ∀ first second, EnteredBy config.log manifestId first →
      EnteredBy config.log manifestId second → first = second)
    (configured : ∀ caller, (deployment.context caller).hasLifecycleStore = true)
    {caller : Caller} {op : EngineOp} {reply : Except PyError (EngineReply op)} {world : World}
    {resume : Except PyError (EngineReply op) → Action CallResult}
    (admitted : (deployment.call caller).admits (deployment.context caller)
      (deployment.progress config caller) op) :
    EntryInvariant deployment manifestId (config.answer caller op resume reply world) := by
  constructor
  · intro other inner isCommit subject stored
    subst subject
    by_cases same : other = caller
    · subst same
      rw [Deployment.progress_answer_own] at stored
      rw [isCommit] at admitted stored
      exact own_entry admitted (held.own other inner isCommit rfl) stored
    · rw [Deployment.progress_answer_other _ _ _ _ _ same] at stored
      exact (held.own other inner isCommit rfl stored).later _
  · show invocations (config.log ++ [.performed caller op reply]) manifestId = 0 ∨ _
    have log : (config.answer caller op resume reply world).log =
      config.log ++ [.performed caller op reply] := rfl
    rw [log, invocations_append]
    by_cases invokes : isInvocation manifestId (.performed caller op reply :
        Entry EngineOp EngineReply PyError CallResult Caller) = true
    · right
      rw [if_pos invokes]
      unfold isInvocation at invokes
      split at invokes
      · next actor identity manifest grant answer equal =>
          have about : manifest.manifestId = manifestId := by simpa using invokes
          cases equal
          obtain ⟨inner, isCommit, rfl, rfl, ready⟩ := admitted_invocation admitted
          have entered := held.own caller inner isCommit about (ready.stored (configured caller))
          refine ⟨caller, entered.later _, ?_, ?_⟩
          · rw [Deployment.progress_answer_own]
            exact invocation_uses_adapter _ (deployment.call caller).subject identity
              inner.manifest inner.grant answer
          · rcases held.invoked with never | ⟨other, enteredOther, used, _⟩
            · omega
            · rw [once other caller enteredOther entered] at used
              exact absurd ready.first used
      · exact absurd invokes (by simp)
    · rw [if_neg invokes, Nat.add_zero]
      rcases held.invoked with never | ⟨other, entered, used, onlyOnce⟩
      · exact Or.inl never
      · refine Or.inr ⟨other, entered.later _, ?_, onlyOnce⟩
        by_cases same : other = caller
        · subst same
          rw [Deployment.progress_answer_own]
          exact use_of_adapter_stays _ _ _ used
        · rw [Deployment.progress_answer_other _ _ _ _ _ same]
          exact used

theorem lifecycle_invariant_reachable (shared : SharesLifecycleStore deployment statesOf)
    (configured : ∀ caller, (deployment.context caller).hasLifecycleStore = true)
    (start : durableState (statesOf initial) manifestId = .proposed)
    (reached : deployment.Reachable initial config) :
    History manifestId (durableState (statesOf config.world) manifestId) config.log ∧
      EntryInvariant deployment manifestId config := by
  have keeps : deployment.Keeps (fun current =>
      History manifestId (durableState (statesOf current.world) manifestId) current.log ∧
        EntryInvariant deployment manifestId current) := by
    constructor
    · rintro current caller ⟨history, held⟩ _ _ _
      exact ⟨history.silent rfl, held.scheduled (.started caller) rfl rfl
        (fun other => deployment.progress_start current caller other _)⟩
    · rintro current caller op resume reply world ⟨history, held⟩ _ _ admitted answered
      exact ⟨history.answer (durable_step shared manifestId admitted answered),
        held.answer history.once configured admitted⟩
    · rintro current caller outcome ⟨history, held⟩ _ _
      exact ⟨history.silent rfl, held.scheduled (.finished caller outcome) rfl rfl
        (fun other => deployment.progress_finish current caller other outcome)⟩
  have begin_ : History manifestId (durableState (statesOf initial) manifestId)
      (Pool.initial initial : Snapshot World Caller).log := by
    rw [start]
    exact history_start manifestId
  refine (keeps.reachable ⟨begin_, ?_⟩ reached).1
  constructor
  · intro caller inner _ _ stored
    exact absurd stored (by simp [Deployment.progress, Deployment.progressIn, Pool.initial])
  · exact Or.inl rfl

/-! ### Putting the record back -/

/-- The records of the manifest as a caller has handled them. -/
def recordView (manifestId : String) (log : Log Caller) (caller : Caller) : RecordView :=
  (recordSpec manifestId).seen {} caller log

variable {Host : Type} [DecidableEq Host] {engineOf : Caller → Host}
  {recordsOf : World → Host → String → Option LifecycleRecord}

/-- A running call finds in its engine's cache what it last put there. -/
structure CacheInvariant (engineOf : Caller → Host)
    (recordsOf : World → Host → String → Option LifecycleRecord) (manifestId : String)
    (config : Snapshot World Caller) : Prop where
  alone : ∀ first second rest other, config.status first = .running rest →
    config.status second = .running other → engineOf first = engineOf second → first = second
  current : ∀ caller rest record, config.status caller = .running rest →
    (recordView manifestId config.log caller).cached = some record →
      recordsOf config.world (engineOf caller) manifestId = some record

/-- What one operation makes of the view and of the cache entry behind it. -/
theorem cache_step (owns : OwnsRecords deployment engineOf recordsOf) {caller : Caller}
    {world after : World} {op : EngineOp} {reply : Except PyError (EngineReply op)}
    (steadily : steady op = true → isError reply = false)
    (answered : deployment.answers caller world op reply after) {view : RecordView}
    (current : ∀ record, view.cached = some record →
      recordsOf world (engineOf caller) manifestId = some record) (record : LifecycleRecord)
    (cached : (view.observe manifestId op reply).cached = some record) :
    recordsOf after (engineOf caller) manifestId = some record := by
  cases op with
  | «recall» asked =>
      obtain ⟨replied, kept⟩ := owns.recalls caller world asked reply after answered
      subst replied
      rw [kept]
      by_cases same : asked = manifestId
      · subst same
        simpa [RecordView.observe] using cached
      · simp only [RecordView.observe, if_neg same] at cached
        exact current record cached
  | remember written newRecord =>
      have stored := owns.remembers caller world written newRecord reply after answered
      rw [stored, Function.update_self]
      cases reply with
      | error error => exact absurd (steadily rfl) (by simp [isError])
      | ok _ =>
          by_cases same : written = manifestId
          · subst same
            rw [Function.update_self]
            simpa [RecordView.observe] using cached
          · rw [Function.update_of_ne (fun equal => same equal.symm)]
            simp only [RecordView.observe, if_neg same] at cached
            exact current record cached
  | lifecycle inner =>
      rw [owns.frames caller world _ reply after answered (fun _ _ same => by cases same)]
      apply current record
      cases inner with
      | get asked => exact cached
      | compareAndSet written expected newState =>
          by_cases same : written = manifestId
          · simpa [RecordView.observe, same] using cached
          · simpa [RecordView.observe, same] using cached
  | _ =>
      rw [owns.frames caller world _ reply after answered (fun _ _ same => by cases same)]
      exact current record cached

/-- An operation of one engine leaves the caches of the others alone. -/
theorem other_cache_kept (owns : OwnsRecords deployment engineOf recordsOf) {caller : Caller}
    {world after : World} {op : EngineOp} {reply : Except PyError (EngineReply op)}
    (answered : deployment.answers caller world op reply after) {host : Host}
    (other : host ≠ engineOf caller) : recordsOf after host = recordsOf world host := by
  by_cases writes : ∃ written record, op = .remember written record
  · obtain ⟨written, record, rfl⟩ := writes
    rw [owns.remembers caller world written record reply after answered,
      Function.update_of_ne other]
  · rw [owns.frames caller world op reply after answered
      (fun written record same => writes ⟨written, record, same⟩)]

theorem cache_invariant_keeps (owns : OwnsRecords deployment engineOf recordsOf)
    (oneCall : OneCallPerEngine deployment engineOf) (manifestId : String) :
    deployment.pool.Keeps (fun _ => recordSpec manifestId)
      (fun _ _ after => Restored manifestId after) (fun _ => {})
      (CacheInvariant engineOf recordsOf manifestId) := by
  constructor
  · intro config caller held waits permitted fresh
    have idle : ∀ other rest, engineOf other = engineOf caller →
        config.status other ≠ .running rest := oneCall config caller permitted
    constructor
    · intro first second rest other runsFirst runsSecond same
      by_cases firstIs : first = caller
      · by_cases secondIs : second = caller
        · rw [firstIs, secondIs]
        · simp only [Config.start, Function.update_of_ne secondIs] at runsSecond
          exact absurd runsSecond (idle second other (same ▸ firstIs ▸ rfl))
      · simp only [Config.start, Function.update_of_ne firstIs] at runsFirst
        by_cases secondIs : second = caller
        · exact absurd runsFirst (idle first rest (same.trans (secondIs ▸ rfl)))
        · simp only [Config.start, Function.update_of_ne secondIs] at runsSecond
          exact held.alone first second rest other runsFirst runsSecond same
    · intro other rest record runs cached
      rw [recordView, show (config.start caller (deployment.pool.program caller)).log =
        config.log ++ [.started caller] from rfl, seen_started] at cached
      by_cases same : other = caller
      · subst same
        rw [fresh] at cached
        exact absurd cached (by simp)
      · simp only [Config.start, Function.update_of_ne same] at runs
        exact held.current other rest record runs cached
  · intro config caller op resume reply world held runs permitted _ answered
    have steadily := deployment.steadily caller config.world op reply world answered
    refine ⟨steadily, ?_, ?_⟩
    · have runsBefore : ∀ other rest,
          (config.answer caller op resume reply world).status other = .running rest →
          ∃ earlier, config.status other = .running earlier := by
        intro other rest runsOther
        by_cases same : other = caller
        · exact ⟨_, same ▸ runs⟩
        · simp only [Config.answer, Function.update_of_ne same] at runsOther
          exact ⟨rest, runsOther⟩
      intro first second rest other runsFirst runsSecond same
      obtain ⟨_, one⟩ := runsBefore first rest runsFirst
      obtain ⟨_, two⟩ := runsBefore second other runsSecond
      exact held.alone first second _ _ one two same
    · intro other rest record runsOther cached
      rw [recordView, show (config.answer caller op resume reply world).log =
        config.log ++ [.performed caller op reply] from rfl] at cached
      by_cases same : other = caller
      · subst same
        rw [seen_own] at cached
        exact cache_step owns steadily answered
          (fun found => held.current other _ found runs) record cached
      · rw [seen_other _ _ _ _ _ _ _ (fun equal => same equal.symm)] at cached
        simp only [Config.answer, Function.update_of_ne same] at runsOther
        have apart : engineOf other ≠ engineOf caller :=
          fun equal => same (held.alone other caller _ _ runsOther runs equal)
        show recordsOf world (engineOf other) manifestId = some record
        rw [other_cache_kept owns answered apart]
        exact held.current other rest record runsOther cached
  · intro config caller outcome held runs _
    have stillRuns : ∀ other rest, (config.finish caller outcome).status other = .running rest →
        config.status other = .running rest := by
      intro other rest runsOther
      by_cases same : other = caller
      · subst same
        simp [Config.finish] at runsOther
      · simpa [Config.finish, Function.update_of_ne same] using runsOther
    constructor
    · intro first second rest other runsFirst runsSecond same
      exact held.alone first second rest other (stillRuns first rest runsFirst)
        (stillRuns second other runsSecond) same
    · intro other rest record runsOther cached
      rw [recordView, show (config.finish caller outcome).log =
        config.log ++ [.finished caller outcome] from rfl, seen_finished] at cached
      exact held.current other rest record (stillRuns other rest runsOther) cached

/-- A call that ends after a refused compare-and-set has put its record back. -/
theorem refused_call_restores (manifestId : String) (reached : deployment.Reachable initial config)
    {caller : Caller} {outcome : Except PyError CallResult}
    (ends : config.status caller = .running (.settle outcome)) :
    Restored manifestId (recordView manifestId config.log caller) := by
  have keeps : deployment.pool.Keeps (fun _ => recordSpec manifestId)
      (fun _ _ after => Restored manifestId after) (fun _ => {}) (fun _ => True) :=
    ⟨fun _ _ _ _ _ _ => trivial,
      fun config caller op _ reply world _ _ _ _ answered =>
        ⟨deployment.steadily caller config.world op reply world answered, trivial⟩,
      fun _ _ _ _ _ _ => trivial⟩
  have standing := (keeps.reachable
    (fun other => call_restores (deployment.context other) (deployment.call other) {}
      (fun refused => absurd refused (by simp))) trivial reached).2 caller
  rw [ends] at standing
  exact (conforms_settle _ _ _).mp standing

theorem cache_invariant_reachable (owns : OwnsRecords deployment engineOf recordsOf)
    (oneCall : OneCallPerEngine deployment engineOf) (manifestId : String)
    (reached : deployment.Reachable initial config) :
    CacheInvariant engineOf recordsOf manifestId config := by
  refine ((cache_invariant_keeps owns oneCall manifestId).reachable
    (fun other => call_restores (deployment.context other) (deployment.call other) {}
      (fun refused => absurd refused (by simp))) ?_ reached).1
  constructor
  · exact fun _ _ _ _ runs => by cases runs
  · exact fun _ _ _ runs => by cases runs

/-- Lifecycle safety across engines.  For every interleaving of calls whose
engines share one lifecycle store: the durable states of a manifest are a path of
the transition graph from PROPOSED; AUTHORIZED is left at most once; at most one
call enters COMMITTING; the adapter is invoked at most once for the manifest; and
a call that ends after a refused compare-and-set has put the record it started
from back, which its engine then holds if no other call ran on that engine. -/
theorem shared_lifecycle_is_safe (shared : SharesLifecycleStore deployment statesOf)
    (configured : ∀ caller, (deployment.context caller).hasLifecycleStore = true)
    (owns : OwnsRecords deployment engineOf recordsOf)
    (start : durableState (statesOf initial) manifestId = .proposed)
    (reached : deployment.Reachable initial config) :
    List.IsChain (fun current target => LifecycleState.isLegalTransition current target = true)
        (.proposed :: durableStates config.log manifestId) ∧
      config.log.countP (leavesAuthorized manifestId) ≤ 1 ∧
      (∀ first second, EnteredBy config.log manifestId first →
        EnteredBy config.log manifestId second → first = second) ∧
      invocations config.log manifestId ≤ 1 ∧
      ∀ caller outcome, config.status caller = .running (.settle outcome) →
        (recordView manifestId config.log caller).refused = true →
          ∃ record, (recordView manifestId config.log caller).held = some record ∧
            (recordView manifestId config.log caller).cached = some { record with manifestId } ∧
            (OneCallPerEngine deployment engineOf →
              recordsOf config.world (engineOf caller) manifestId =
                some { record with manifestId }) := by
  obtain ⟨history, entries⟩ := lifecycle_invariant_reachable shared configured start reached
  refine ⟨history.path, ?_, history.once, ?_, ?_⟩
  · have left := history.left
    split at left <;> omega
  · rcases entries.invoked with never | ⟨_, _, _, once⟩ <;> omega
  · intro caller outcome ends refused
    obtain ⟨record, held, cached⟩ := refused_call_restores manifestId reached ends refused
    refine ⟨record, held, cached, fun oneCall => ?_⟩
    exact (cache_invariant_reachable owns oneCall manifestId reached).current caller _ _ ends cached

/-! ### Two engines commit one manifest -/

/-- The manifest is moved to AUTHORIZED; then two engines commit it under two grants. -/
def rivalCalls : Nat → EngineCall
  | 0 => .move "mf-1" .prepared ⟨"manifest.prepared", none, none, none, []⟩
  | 1 => .move "mf-1" .sealed ⟨"manifest.sealed", none, none, none, []⟩
  | 2 => .move "mf-1" .authorized ⟨"manifest.authorized", none, none, none, []⟩
  | 3 => .commit (Payment.commitOf Payment.sealedTransfer Payment.transferGrant)
  | _ => .commit (Payment.commitOf Payment.sealedTransfer Payment.secondGrant)

def rivalEngines : Service Bool Nat :=
  Payment.service Payment.prompt (fun caller => caller == 4) rivalCalls

/-- Both engines have read AUTHORIZED when the first one enters COMMITTING. -/
def rivalState : Snapshot (Engine.World Bool) Nat :=
  rivalEngines.replay Payment.prompt (Payment.emptyWorld Bool)
    (List.replicate 10 0 ++ List.replicate 10 1 ++ List.replicate 10 2 ++ List.replicate 8 4 ++
      List.replicate 14 3 ++ List.replicate 7 4)

theorem rival_state_is_reached :
    rivalEngines.deployment.Reachable (Payment.emptyWorld Bool) rivalState :=
  Payment.service_reachable Payment.prompt (fun caller => caller == 4) _
    (Payment.emptyWorld Bool) _

theorem rival_commits_are_safe :
    (recordView "mf-1" rivalState.log 4).refused = true ∧
      invocations rivalState.log "mf-1" ≤ 1 := by
  have fresh : durableState (Payment.emptyWorld Bool).lifecycle.view "mf-1" = .proposed := rfl
  have safe := shared_lifecycle_is_safe rivalEngines.shares_states (fun _ => rfl)
    rivalEngines.owns_records fresh rival_state_is_reached
  exact ⟨by decide +kernel, safe.2.2.2.1⟩

end KarmaSakshi.Guarantees
