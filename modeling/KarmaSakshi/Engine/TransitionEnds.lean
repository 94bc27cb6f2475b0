import KarmaSakshi.Engine.Lifecycle

/-!
The ends of one transition.

A transition advances the cached record, writes the durable store through and audits
the decision, and each of the three may fail.  `TransitionEnd` lists how it may end and
what each end leaves behind; two of them report an error over a manifest that has moved.
-/

namespace KarmaSakshi.Engine

open EffectProgram KarmaSakshi.Domain KarmaSakshi.Stores

set_option autoImplicit false

variable {Host : Type} [DecidableEq Host]

/-- What `_get_record` answers. -/
def World.recordOf (world : World Host) (context : EngineContext) (host : Host)
    (manifestId : String) : LifecycleRecord :=
  (world.records host manifestId).getD (.fresh manifestId
    ((if context.hasLifecycleStore then world.lifecycle.view manifestId else none).getD .proposed))

/-- The manifest's lifecycle is the same in memory and in the durable store. -/
structure SameLifecycle (context : EngineContext) (host : Host) (manifestId : String)
    (before after : World Host) : Prop where
  state : (after.recordOf context host manifestId).state =
    (before.recordOf context host manifestId).state
  history : (after.recordOf context host manifestId).history =
    (before.recordOf context host manifestId).history
  durable : after.lifecycle.view manifestId = before.lifecycle.view manifestId

/-- Memory and the durable store hold the target. -/
structure HoldsState (context : EngineContext) (host : Host) (manifestId : String)
    (target : LifecycleState) (after : World Host) : Prop where
  memory : (after.recordOf context host manifestId).state = target
  durable : context.hasLifecycleStore = true → after.lifecycle.view manifestId = some target

/-- The write-through from that state goes through: the entry agrees with the memory, or
there is none for a manifest still PROPOSED. -/
def WritesThrough (context : EngineContext) (manifestId : String) (fromState : LifecycleState)
    (world : World Host) : Prop :=
  context.hasLifecycleStore = true →
    world.lifecycle.view manifestId = some fromState ∨
      world.lifecycle.view manifestId = none ∧ fromState = .proposed

/-- Only refusals were audited. -/
def OnlyBlocked (before after : World Host) : Prop :=
  ∃ blocked, after.audit = before.audit ++ blocked ∧
    ∀ record ∈ blocked, record.decision ≠ "allowed"

inductive TransitionEnd (context : EngineContext) (environment : Environment) (host : Host)
    (manifestId : String) (target : LifecycleState) (note : TransitionNote)
    (before : World Host) : Except PyError LifecycleRecord → World Host → Prop where
  | kept {error : PyError} {after : World Host}
      (same : SameLifecycle context host manifestId before after)
      (blocked : OnlyBlocked before after) :
      TransitionEnd context environment host manifestId target note before (.error error) after
  | moved {record : LifecycleRecord} {after : World Host}
      (legal : LifecycleState.isLegalTransition
        (before.recordOf context host manifestId).state target = true)
      (writes : WritesThrough context manifestId
        (before.recordOf context host manifestId).state before)
      (holds : HoldsState context host manifestId target after)
      (audited : after.audit = before.audit ++ [note.record "allowed" manifestId
        (before.recordOf context host manifestId).state target]) :
      TransitionEnd context environment host manifestId target note before (.ok record) after
  | unaudited {error : PyError} {after : World Host}
      (legal : LifecycleState.isLegalTransition
        (before.recordOf context host manifestId).state target = true)
      (writes : WritesThrough context manifestId
        (before.recordOf context host manifestId).state before)
      (raises : environment.mayRaise .audit error)
      (holds : HoldsState context host manifestId target after) :
      TransitionEnd context environment host manifestId target note before (.error error) after
  | ahead {error : PyError} {after : World Host}
      (legal : LifecycleState.isLegalTransition
        (before.recordOf context host manifestId).state target = true)
      (stored : context.hasLifecycleStore = true)
      (raises : environment.mayRaise .lifecycle error)
      (uncaught : ¬ error.isStoreUnavailable = true)
      (memory : (after.recordOf context host manifestId).state = target) :
      TransitionEnd context environment host manifestId target note before (.error error) after

section Ends

variable {context : EngineContext} {environment : Environment} {host : Host}
  {manifestId : String} {target fromState : LifecycleState} {note : TransitionNote}
  {world : World Host}

omit [DecidableEq Host] in
theorem SameLifecycle.refl : SameLifecycle context host manifestId world world := ⟨rfl, rfl, rfl⟩

omit [DecidableEq Host] in
theorem OnlyBlocked.none {after : World Host} (same : after.audit = world.audit) :
    OnlyBlocked world after :=
  ⟨[], by rw [same, List.append_nil], List.forall_mem_nil _⟩

omit [DecidableEq Host] in
theorem record_of_cached {record : LifecycleRecord}
    (cached : world.records host manifestId = some record) :
    world.recordOf context host manifestId = record := by
  rw [World.recordOf, cached]
  rfl

/-- What a cache lookup leaves: the record it answers, cached. -/
structure RecordFetched (context : EngineContext) (host : Host) (manifestId : String)
    (world between : World Host) (record : LifecycleRecord) : Prop where
  cached : between.records host manifestId = some record
  answer : record = world.recordOf context host manifestId
  lifecycle : between.lifecycle = world.lifecycle
  audit : between.audit = world.audit

/-- A failed lookup changed nothing. -/
def RecordFetchEnd (context : EngineContext) (host : Host) (manifestId : String) (world : World Host) :
    Except PyError LifecycleRecord → World Host → Prop
  | .ok record, between => RecordFetched context host manifestId world between record
  | .error _, between => between = world

theorem remember_fetches {state : LifecycleState}
    (absent : world.records host manifestId = none)
    (found : (if context.hasLifecycleStore then world.lifecycle.view manifestId
      else none).getD .proposed = state) :
    Ensures (environment.answers host) (rememberFresh manifestId state) world
      (RecordFetchEnd context host manifestId world) := by
  have cached : Ensures (environment.answers host)
      (perform (.remember manifestId (.fresh manifestId state))) world
      (fun outcome between => outcome = .ok () ∧
        between = world.putRecord host manifestId (.fresh manifestId state)) :=
    ensures_perform.mpr (fun reply between told => told)
  refine cached.bind ?_ ?_
  · rintro _ _ ⟨_, rfl⟩
    refine ensures_pure.mpr ⟨by simp [World.putRecord], ?_, rfl, rfl⟩
    rw [World.recordOf, absent, found]
    rfl
  · rintro _ _ ⟨impossible, _⟩
    cases impossible

theorem hydrate_fetches (absent : world.records host manifestId = none) :
    Ensures (environment.answers host) (hydrateRecord context manifestId) world
      (RecordFetchEnd context host manifestId world) := by
  unfold hydrateRecord
  by_cases stored : context.hasLifecycleStore = true
  · rw [if_pos stored]
    have read : Ensures (environment.answers host) (perform (.lifecycle (.get manifestId))) world
        (fun outcome between => between = world ∧
          ∀ found, outcome = .ok found → found = world.lifecycle.view manifestId) := by
      refine ensures_perform.mpr (fun reply between told => ?_)
      rcases told with ⟨error, _, rfl, rfl⟩ | ⟨rfl, rfl⟩
      · exact ⟨rfl, fun found impossible => by cases impossible⟩
      · exact ⟨rfl, fun found same => (Except.ok.inj same).symm⟩
    refine read.bind ?_ ?_
    · rintro found _ ⟨rfl, told⟩
      have current := told found rfl
      cases found with
      | none => exact remember_fetches absent (by rw [if_pos stored, ← current]; rfl)
      | some state => exact remember_fetches absent (by rw [if_pos stored, ← current]; rfl)
    · rintro error _ ⟨rfl, _⟩
      rfl
  · rw [if_neg stored]
    exact remember_fetches absent (by rw [if_neg stored]; rfl)

theorem get_record_fetches :
    Ensures (environment.answers host) (getRecord context manifestId) world
      (RecordFetchEnd context host manifestId world) := by
  have recalled : Ensures (environment.answers host) (perform (.recall manifestId)) world
      (fun outcome between => outcome = .ok (world.records host manifestId) ∧ between = world) :=
    ensures_perform.mpr (fun reply between told => told)
  refine recalled.bind ?_ ?_
  · rintro found current ⟨told, rfl⟩
    have cached := (Except.ok.inj told).symm
    cases found with
    | none => exact hydrate_fetches cached
    | some record =>
        exact ensures_pure.mpr ⟨cached, (record_of_cached cached).symm, rfl, rfl⟩
  · rintro _ _ ⟨impossible, _⟩
    cases impossible

/-! ### The write-through -/

/-- How the write-through may end: it writes, it is refused or fails with what the engine
catches, or the store raises something else. -/
inductive PersistEnd (context : EngineContext) (environment : Environment) (manifestId : String)
    (fromState target : LifecycleState) (world : World Host) :
    Except PyError Unit → World Host → Prop where
  | written {after : World Host} (writes : WritesThrough context manifestId fromState world)
      (only : after = { world with lifecycle := after.lifecycle })
      (durable : context.hasLifecycleStore = true →
        after.lifecycle.view manifestId = some target) :
      PersistEnd context environment manifestId fromState target world (.ok ()) after
  | failed {error : PyError} {after : World Host}
      (only : after = { world with lifecycle := after.lifecycle })
      (durable : after.lifecycle.view = world.lifecycle.view)
      (fault : error.isStoreUnavailable = true ∨
        context.hasLifecycleStore = true ∧ environment.mayRaise .lifecycle error) :
      PersistEnd context environment manifestId fromState target world (.error error) after

/-- One compare-and-set, which the expected entry decides. -/
theorem compare_and_set_ends {expected : Option LifecycleState} {refused : Action Unit}
    (stored : context.hasLifecycleStore = true)
    (writes : world.lifecycle.view manifestId = expected →
      WritesThrough context manifestId fromState world)
    (otherwise : world.lifecycle.view manifestId ≠ expected →
      ∀ between : World Host, between = { world with lifecycle := between.lifecycle } →
        between.lifecycle.view = world.lifecycle.view →
          Ensures (environment.answers host) refused between
            (PersistEnd context environment manifestId fromState target world)) :
    Ensures (environment.answers host) (compareAndSetOr manifestId expected target refused) world
      (PersistEnd context environment manifestId fromState target world) := by
  have view := world.lifecycle.compare_and_set_view manifestId expected target
  have answered : Ensures (environment.answers host)
      (perform (.lifecycle (.compareAndSet manifestId expected target))) world
      (fun outcome between =>
        (∃ error, environment.mayRaise .lifecycle error ∧ outcome = .error error ∧
          between = world) ∨
        outcome = .ok (world.lifecycle.compareAndSet manifestId expected target).1 ∧
          between = { world with
            lifecycle := (world.lifecycle.compareAndSet manifestId expected target).2 }) :=
    ensures_perform.mpr (fun reply between told => told)
  refine answered.bind ?_ ?_
  · rintro won between (⟨error, _, impossible, _⟩ | ⟨told, rfl⟩)
    · cases impossible
    · obtain rfl := Except.ok.inj told
      by_cases matching : world.lifecycle.view manifestId = expected
      · have wrote : (world.lifecycle.compareAndSet manifestId expected target).1 = true := by
          rw [view.1, LifecycleMap.compareAndSet, if_pos matching]
        rw [if_pos wrote]
        refine ensures_pure.mpr (.written (writes matching) rfl (fun _ => ?_))
        rw [view.2, LifecycleMap.compareAndSet, if_pos matching]
        exact Function.update_self ..
      · have lost : ¬ (world.lifecycle.compareAndSet manifestId expected target).1 = true := by
          rw [view.1, LifecycleMap.compareAndSet, if_neg matching]
          exact Bool.false_ne_true
        rw [if_neg lost]
        refine otherwise matching _ rfl ?_
        rw [view.2, LifecycleMap.compareAndSet, if_neg matching]
  · rintro error between (⟨_, raises, same, rfl⟩ | ⟨impossible, _⟩)
    · cases same
      exact .failed rfl rfl (Or.inr ⟨stored, raises⟩)
    · cases impossible

theorem persist_ends :
    Ensures (environment.answers host) (persistLifecycle context manifestId fromState target) world
      (PersistEnd context environment manifestId fromState target world) := by
  unfold persistLifecycle
  by_cases stored : context.hasLifecycleStore = true
  · rw [if_pos stored]
    have read : Ensures (environment.answers host) (perform (.lifecycle (.get manifestId))) world
        (fun outcome between => between = world ∧
          (outcome = .ok (world.lifecycle.view manifestId) ∨
            ∃ error, environment.mayRaise .lifecycle error ∧ outcome = .error error)) := by
      refine ensures_perform.mpr (fun reply between told => ?_)
      rcases told with ⟨error, raises, rfl, rfl⟩ | ⟨rfl, rfl⟩
      · exact ⟨rfl, Or.inr ⟨error, raises, rfl⟩⟩
      · exact ⟨rfl, Or.inl rfl⟩
    refine read.bind ?_ ?_
    · rintro found current ⟨rfl, told | ⟨_, _, impossible⟩⟩
      · obtain rfl := Except.ok.inj told
        by_cases first : current.lifecycle.view manifestId = none ∧ fromState = .proposed
        · rw [if_pos first]
          exact compare_and_set_ends stored (fun _ _ => Or.inr first)
            (fun present => absurd first.1 present)
        · rw [if_neg first]
          refine compare_and_set_ends stored (fun same _ => Or.inl same) ?_
          intro _ between only durable
          exact ensures_raised.mpr (.failed only durable (Or.inl rfl))
      · cases impossible
    · rintro error current ⟨rfl, impossible | ⟨_, raises, same⟩⟩
      · cases impossible
      · cases same
        exact .failed rfl rfl (Or.inr ⟨stored, raises⟩)
  · rw [if_neg stored]
    exact ensures_pure.mpr (.written (fun required => absurd required stored) rfl
      (fun required => absurd required stored))

/-! ### The whole transition -/

/-- Before and after one audit call. -/
def AuditEnd (environment : Environment) (record : AuditRecord) (world : World Host) :
    Except PyError Unit → World Host → Prop
  | .ok _, after => after = { world with audit := world.audit ++ [record] }
  | .error error, after => environment.mayRaise .audit error ∧ after = world

theorem audit_ends {record : AuditRecord} :
    Ensures (environment.answers host) (perform (.audit record)) world
      (AuditEnd environment record world) := by
  refine ensures_perform.mpr (fun reply between told => ?_)
  rcases told with ⟨error, raises, rfl, rfl⟩ | ⟨rfl, rfl⟩
  · exact ⟨raises, rfl⟩
  · rfl

/-- A refusal that is audited and reported. -/
theorem blocked_ends {record : AuditRecord} {error : PyError} {before : World Host}
    {Value : Type} {post : Except PyError Value → World Host → Prop}
    (denial : record.decision ≠ "allowed") (same : world.audit = before.audit)
    (ends : ∀ raised after, after = { world with audit := after.audit } →
      OnlyBlocked before after → post (.error raised) after) :
    Ensures (environment.answers host) (do
      perform (.audit record)
      .raised error) world post := by
  refine audit_ends.bind ?_ ?_
  · rintro _ after rfl
    refine ensures_raised.mpr (ends error _ rfl ⟨[record], by rw [same], ?_⟩)
    intro other member
    rw [List.mem_singleton.mp member]
    exact denial
  · rintro raised after ⟨_, rfl⟩
    exact ends raised after rfl (OnlyBlocked.none same)

omit [DecidableEq Host] in
theorem WritesThrough.elsewhere {other : World Host}
    (writes : WritesThrough context manifestId fromState world)
    (same : other.lifecycle = world.lifecycle) :
    WritesThrough context manifestId fromState other := by
  intro stored
  rw [same]
  exact writes stored

omit [DecidableEq Host] in
/-- A record that is cached back leaves the lifecycle as it was found. -/
theorem RecordFetched.restored {before between after : World Host} {record cached : LifecycleRecord}
    (fetched : RecordFetched context host manifestId before between record)
    (found : after.records host manifestId = some cached) (state : cached.state = record.state)
    (history : cached.history = record.history)
    (durable : after.lifecycle.view = before.lifecycle.view) :
    SameLifecycle context host manifestId before after := by
  have answer : after.recordOf context host manifestId = cached := record_of_cached found
  refine ⟨?_, ?_, congrFun durable manifestId⟩
  · rw [answer, state, fetched.answer]
  · rw [answer, history, fetched.answer]

/-- The error is the store's, and the engine reports it with what it has undone, if anything. -/
theorem roll_back_ends {before world : World Host} {record : LifecycleRecord} {error : PyError}
    (answer : record = before.recordOf context host manifestId)
    (lifecycle : world.lifecycle.view = before.lifecycle.view)
    (audit : world.audit = before.audit) :
    Ensures (environment.answers host) (rollBack manifestId record target note error) world
      (fun outcome after => ∃ raised, outcome = .error raised ∧
        SameLifecycle context host manifestId before after ∧ OnlyBlocked before after) := by
  have restored : Ensures (environment.answers host)
      (perform (.remember manifestId { record with manifestId })) world
      (fun outcome between => outcome = .ok () ∧
        between = world.putRecord host manifestId { record with manifestId }) :=
    ensures_perform.mpr (fun reply between told => told)
  refine restored.bind ?_ ?_
  · rintro _ _ ⟨_, rfl⟩
    refine blocked_ends (by simp [TransitionNote.record]) audit ?_
    intro raised after only blocked
    have cached : after.records host manifestId = some { record with manifestId } := by
      rw [only]
      simp [World.putRecord]
    refine ⟨raised, rfl, ⟨?_, ?_, ?_⟩, blocked⟩
    · rw [record_of_cached cached, ← answer]
    · rw [record_of_cached cached, ← answer]
    · rw [only]
      exact congrFun lifecycle manifestId
  · rintro _ _ ⟨impossible, _⟩
    cases impossible

/-- What is left to audit once the write-through is over. -/
def WriteEnd (context : EngineContext) (environment : Environment) (host : Host)
    (manifestId : String) (target : LifecycleState) (before : World Host) :
    Except PyError Unit → World Host → Prop
  | .ok _, between => HoldsState context host manifestId target between ∧
      WritesThrough context manifestId (before.recordOf context host manifestId).state before ∧
      between.audit = before.audit
  | .error error, between =>
      (SameLifecycle context host manifestId before between ∧ OnlyBlocked before between) ∨
      (context.hasLifecycleStore = true ∧ environment.mayRaise .lifecycle error ∧
        ¬ error.isStoreUnavailable = true ∧
        (between.recordOf context host manifestId).state = target)

theorem write_ends {before between : World Host} {record advanced : LifecycleRecord}
    (fetched : RecordFetched context host manifestId before between record)
    (advances : advanced.state = target) :
    Ensures (environment.answers host)
      ((persistLifecycle context manifestId record.state target).rescue
        PyError.isStoreUnavailable (rollBack manifestId record target note))
      (between.putRecord host manifestId advanced)
      (WriteEnd context environment host manifestId target before) := by
  have lifecycle : (between.putRecord host manifestId advanced).lifecycle = before.lifecycle :=
    fetched.lifecycle
  have holds : ∀ after : World Host,
      after = { between.putRecord host manifestId advanced with lifecycle := after.lifecycle } →
        (after.recordOf context host manifestId).state = target := by
    intro after only
    have cached : after.records host manifestId = some advanced := by
      rw [only]
      simp [World.putRecord]
    rw [record_of_cached cached, advances]
  apply Ensures.attempt
  refine persist_ends.mono ?_
  intro outcome after ended
  cases ended with
  | written writes only durable =>
      refine ensures_pure.mpr ⟨⟨holds after only, durable⟩, ?_, ?_⟩
      · rw [← fetched.answer]
        exact writes.elsewhere lifecycle.symm
      · rw [only]
        exact fetched.audit
  | @failed error _ only durable fault =>
      by_cases caught : error.isStoreUnavailable = true
      · simp only [caught, if_true]
        refine (roll_back_ends fetched.answer ?_ ?_).mono ?_
        · rw [durable, lifecycle]
        · rw [only]
          exact fetched.audit
        · rintro _ later ⟨raised, rfl, same, blocked⟩
          exact Or.inl ⟨same, blocked⟩
      · simp only [caught, if_false, Bool.false_eq_true]
        refine ensures_raised.mpr (Or.inr ?_)
        rcases fault with impossible | ⟨stored, raises⟩
        · exact absurd impossible caught
        · exact ⟨stored, raises, caught, holds after only⟩

theorem advance_ends {before between : World Host} {record advanced : LifecycleRecord}
    (fetched : RecordFetched context host manifestId before between record)
    (legal : LifecycleState.isLegalTransition record.state target = true)
    (advances : advanced.state = target) :
    Ensures (environment.answers host) (advance context manifestId record advanced target note)
      between (TransitionEnd context environment host manifestId target note before) := by
  have current := congrArg LifecycleRecord.state fetched.answer
  rw [current] at legal
  have cached : Ensures (environment.answers host) (perform (.remember manifestId advanced)) between
      (fun outcome later => outcome = .ok () ∧
        later = between.putRecord host manifestId advanced) :=
    ensures_perform.mpr (fun reply later told => told)
  refine cached.bind ?_ ?_
  · rintro _ _ ⟨_, rfl⟩
    refine (write_ends fetched advances).bind ?_ ?_
    · rintro _ later ⟨holds, writes, audit⟩
      refine audit_ends.bind ?_ ?_
      · rintro _ after rfl
        refine ensures_pure.mpr (.moved legal writes ⟨holds.memory, holds.durable⟩ ?_)
        rw [audit, current]
      · rintro error after ⟨raises, rfl⟩
        exact .unaudited legal writes raises holds
    · rintro error after (⟨same, blocked⟩ | ⟨stored, raises, uncaught, memory⟩)
      · exact .kept same blocked
      · exact .ahead legal stored raises uncaught memory
  · rintro _ _ ⟨impossible, _⟩
    cases impossible

theorem transition_ends :
    Ensures (environment.answers host) (transition context manifestId target note) world
      (TransitionEnd context environment host manifestId target note world) := by
  refine get_record_fetches.bind ?_ ?_
  · intro record between fetched
    have clock : Ensures (environment.answers host) (perform .now) between
        (fun outcome later => (∃ instant, outcome = .ok instant) ∧ later = between) :=
      ensures_perform.mpr (fun reply later told => told)
    refine clock.bind ?_ ?_
    · rintro instant _ ⟨_, rfl⟩
      cases moved : record.transition target instant with
      | error error =>
          refine blocked_ends (by simp [TransitionNote.record]) fetched.audit ?_
          intro raised after only blocked
          refine .kept (fetched.restored ?_ rfl rfl ?_) blocked
          · rw [only]
            exact fetched.cached
          · rw [only, ← fetched.lifecycle]
      | ok advanced =>
          obtain ⟨legal, rfl⟩ := LifecycleRecord.transition_ok_iff.mp moved
          exact advance_ends fetched legal rfl
    · rintro _ _ ⟨⟨_, impossible⟩, _⟩
      cases impossible
  · rintro error _ rfl
    exact .kept SameLifecycle.refl (OnlyBlocked.none rfl)

/-! ### Every end occurs -/

theorem fetch_yields : ∃ record between,
    (getRecord context manifestId).Yields (environment.answers host) world (.ok record) between ∧
      RecordFetched context host manifestId world between record := by
  have answered : ∃ record between, (getRecord context manifestId).Yields
      (environment.answers host) world (.ok record) between := by
    cases cached : world.records host manifestId with
    | some record =>
        exact ⟨record, world, .ok (some record), world, ⟨by rw [cached], rfl⟩, rfl, rfl⟩
    | none =>
        have remembered : ∀ state, (rememberFresh manifestId state).Yields
            (environment.answers host) world (.ok (.fresh manifestId state))
            (world.putRecord host manifestId (.fresh manifestId state)) :=
          fun state => ⟨.ok (), _, ⟨rfl, rfl⟩, rfl, rfl⟩
        have hydrated : ∃ record between, (hydrateRecord context manifestId).Yields
            (environment.answers host) world (.ok record) between := by
          unfold hydrateRecord
          by_cases stored : context.hasLifecycleStore = true
          · rw [if_pos stored]
            cases found : world.lifecycle.view manifestId with
            | some state =>
                exact ⟨_, _, .ok (some state), world, Or.inr ⟨by rw [← found]; rfl, rfl⟩,
                  remembered state⟩
            | none =>
                exact ⟨_, _, .ok none, world, Or.inr ⟨by rw [← found]; rfl, rfl⟩,
                  remembered .proposed⟩
          · rw [if_neg stored]
            exact ⟨_, _, remembered .proposed⟩
        obtain ⟨record, between, rest⟩ := hydrated
        exact ⟨record, between, .ok none, world, ⟨by rw [cached], rfl⟩, rest⟩
  obtain ⟨record, between, yields⟩ := answered
  exact ⟨record, between, yields, get_record_fetches _ _ yields⟩

/-- A legal transition gets as far as its write-through. -/
theorem transition_continues
    (legal : LifecycleState.isLegalTransition
      (world.recordOf context host manifestId).state target = true) :
    ∃ record advanced between, RecordFetched context host manifestId world between record ∧
      advanced.state = target ∧
      ∀ outcome after, (do
        (persistLifecycle context manifestId record.state target).rescue
          PyError.isStoreUnavailable (rollBack manifestId record target note)
        perform (.audit (note.record "allowed" manifestId record.state target))
        pure advanced : Action LifecycleRecord).Yields (environment.answers host)
          (between.putRecord host manifestId advanced) outcome after →
        (transition context manifestId target note).Yields (environment.answers host) world
          outcome after := by
  obtain ⟨record, between, fetches, fetched⟩ :=
    @fetch_yields _ _ context environment host manifestId world
  rw [← fetched.answer] at legal
  refine ⟨record, { record with
    state := target
    history := record.history ++ [(record.state, target, 0)] }, between, fetched, rfl, ?_⟩
  intro outcome after yields
  refine yields_bind.mpr (Or.inl ⟨record, between, fetches, ?_⟩)
  refine yields_bind.mpr (Or.inl ⟨0, between, yields_perform.mpr ⟨⟨0, rfl⟩, rfl⟩, ?_⟩)
  rw [LifecycleRecord.transition_ok_iff.mpr ⟨legal, rfl⟩]
  exact yields_bind.mpr (Or.inl ⟨(), _, yields_perform.mpr ⟨rfl, rfl⟩, yields⟩)

theorem persist_yields (writes : WritesThrough context manifestId fromState world) :
    ∃ after, (persistLifecycle context manifestId fromState target).Yields
      (environment.answers host) world (.ok ()) after := by
  have won : ∀ (expected : Option LifecycleState) (refused : Action Unit),
      world.lifecycle.view manifestId = expected → ∃ after,
        (compareAndSetOr manifestId expected target refused).Yields (environment.answers host)
          world (.ok ()) after := by
    intro expected refused matching
    have wrote : (world.serveLifecycle (.compareAndSet manifestId expected target)).1 = .ok true := by
      change Except.ok _ = _
      rw [(world.lifecycle.compare_and_set_view manifestId expected target).1,
        LifecycleMap.compareAndSet, if_pos matching]
    exact ⟨_, .ok true, _, Or.inr ⟨wrote.symm, rfl⟩, rfl, rfl⟩
  unfold persistLifecycle
  by_cases stored : context.hasLifecycleStore = true
  · rw [if_pos stored]
    have read : (perform (.lifecycle (.get manifestId))).Yields (environment.answers host) world
        (.ok (world.lifecycle.view manifestId)) world :=
      yields_perform.mpr (Or.inr ⟨rfl, rfl⟩)
    rcases writes stored with present | ⟨absent, first⟩
    · have later : ¬ (world.lifecycle.view manifestId = none ∧ fromState = .proposed) := by
        rintro ⟨absent, _⟩
        rw [absent] at present
        cases present
      obtain ⟨after, yields⟩ := won (some fromState) _ present
      refine ⟨after, yields_bind.mpr (Or.inl ⟨_, world, read, ?_⟩)⟩
      rw [if_neg later]
      exact yields
    · obtain ⟨after, yields⟩ := won none _ absent
      refine ⟨after, yields_bind.mpr (Or.inl ⟨_, world, read, ?_⟩)⟩
      rw [if_pos ⟨absent, first⟩]
      exact yields
  · rw [if_neg stored]
    exact ⟨world, rfl, rfl⟩

theorem transition_moves
    (legal : LifecycleState.isLegalTransition
      (world.recordOf context host manifestId).state target = true)
    (writes : WritesThrough context manifestId
      (world.recordOf context host manifestId).state world) :
    ∃ record after, (transition context manifestId target note).Yields (environment.answers host)
      world (.ok record) after ∧ HoldsState context host manifestId target after ∧
        ∀ error, environment.mayRaise .audit error → ∃ torn,
          (transition context manifestId target note).Yields (environment.answers host) world
            (.error error) torn ∧ HoldsState context host manifestId target torn := by
  obtain ⟨record, advanced, between, fetched, advances, continues⟩ :=
    @transition_continues _ _ context environment host manifestId target note world legal
  have lifecycle : (between.putRecord host manifestId advanced).lifecycle = world.lifecycle :=
    fetched.lifecycle
  rw [← fetched.answer] at writes
  obtain ⟨written, persisted⟩ := @persist_yields _ _ _ environment host _ target _ _
    (writes.elsewhere lifecycle)
  have rescued : ((persistLifecycle context manifestId record.state target).rescue
      PyError.isStoreUnavailable (rollBack manifestId record target note)).Yields
        (environment.answers host) (between.putRecord host manifestId advanced) (.ok ())
        written :=
    yields_attempt.mpr ⟨.ok (), written, persisted, rfl, rfl⟩
  have holds : HoldsState context host manifestId target written :=
    (write_ends fetched advances _ _ rescued).1
  refine ⟨advanced, { written with
    audit := written.audit ++ [note.record "allowed" manifestId record.state target] }, ?_,
    ⟨holds.memory, holds.durable⟩, ?_⟩
  · exact continues _ _ (yields_bind.mpr (Or.inl ⟨(), written, rescued,
      yields_bind.mpr (Or.inl ⟨(), _, yields_perform.mpr (Or.inr ⟨rfl, rfl⟩), rfl, rfl⟩)⟩))
  · intro error raises
    refine ⟨written, ?_, holds⟩
    exact continues _ _ (yields_bind.mpr (Or.inl ⟨(), written, rescued,
      yields_bind.mpr (Or.inr ⟨error,
        yields_perform.mpr (Or.inl ⟨error, raises, rfl, rfl⟩), rfl⟩)⟩))

/-- What the store raises and the engine does not catch leaves the memory advanced. -/
theorem transition_runs_ahead {error : PyError}
    (legal : LifecycleState.isLegalTransition
      (world.recordOf context host manifestId).state target = true)
    (stored : context.hasLifecycleStore = true) (raises : environment.mayRaise .lifecycle error)
    (uncaught : ¬ error.isStoreUnavailable = true) :
    ∃ after, (transition context manifestId target note).Yields (environment.answers host) world
      (.error error) after ∧ (after.recordOf context host manifestId).state = target := by
  obtain ⟨record, advanced, between, fetched, advances, continues⟩ :=
    @transition_continues _ _ context environment host manifestId target note world legal
  have fails : (persistLifecycle context manifestId record.state target).Yields
      (environment.answers host) (between.putRecord host manifestId advanced) (.error error)
      (between.putRecord host manifestId advanced) := by
    unfold persistLifecycle
    rw [if_pos stored]
    exact yields_bind.mpr (Or.inr ⟨error,
      yields_perform.mpr (Or.inl ⟨error, raises, rfl, rfl⟩), rfl⟩)
  refine ⟨between.putRecord host manifestId advanced, ?_, ?_⟩
  · refine continues _ _ (yields_bind.mpr (Or.inr ⟨error, yields_attempt.mpr
      ⟨.error error, _, fails, ?_⟩, rfl⟩))
    simp only [uncaught, if_false, Bool.false_eq_true]
    exact ⟨rfl, rfl⟩
  · have cached : (between.putRecord host manifestId advanced).records host manifestId =
        some advanced := by
      simp [World.putRecord]
    rw [record_of_cached cached, advances]

end Ends

end KarmaSakshi.Engine
