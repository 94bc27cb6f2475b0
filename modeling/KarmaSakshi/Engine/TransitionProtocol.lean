import KarmaSakshi.Engine.GateProtocol

/-!
What one lifecycle transition does to the progress of the call that makes it.

The lemmas hold of every specification that lets the transition's operations
through, so each kind of call uses them under its own protocol.
-/

namespace KarmaSakshi.Engine

open EffectProgram KarmaSakshi.Domain KarmaSakshi.Stores

set_option autoImplicit false

/-- The specification admits a transition of `subject` to `target` whenever the
call's work is in the phase for it. -/
structure Hosts (context : EngineContext)
    (spec : Spec EngineOp EngineReply PyError Progress) (subject : String)
    (target : LifecycleState) (phase : Work → Prop) : Prop where
  observes : spec.observe = Progress.observe subject
  steadily : ∀ progress op reply, spec.expects progress op reply →
    steady op = true → isError reply = false
  ticks : ∀ progress, spec.admits progress .now
  audits : ∀ progress record, spec.admits progress (.audit record)
  recalls : ∀ progress, spec.admits progress (.recall subject)
  remembers : ∀ progress record, spec.admits progress (.remember subject record)
  gets : ∀ progress, context.hasLifecycleStore = true →
    spec.admits progress (.lifecycle (.get subject))
  writes : ∀ progress expected, context.hasLifecycleStore = true → phase progress.work →
    LifecycleState.isLegalTransition (expected.getD .proposed) target = true →
      spec.admits progress (.lifecycle (.compareAndSet subject expected target))
  stable : ∀ work origin cached moved stored, phase work →
    phase { work with origin, cached, moved, stored }

/-- Only the lifecycle fields differ. -/
def LifecycleOnly (before after : Work) : Prop :=
  after = { before with
    origin := after.origin, cached := after.cached, moved := after.moved, stored := after.stored }

theorem LifecycleOnly.refl (work : Work) : LifecycleOnly work work := rfl

theorem LifecycleOnly.trans {first second third : Work} (one : LifecycleOnly first second)
    (two : LifecycleOnly second third) : LifecycleOnly first third := by
  unfold LifecycleOnly at *
  rw [one] at two
  exact two

theorem LifecycleOnly.settling_eq {before after : Work} (only : LifecycleOnly before after) :
    after.settling = before.settling := by
  rw [only]
  rfl

variable {context : EngineContext} {spec : Spec EngineOp EngineReply PyError Progress}
  {subject : String} {target : LifecycleState} {phase : Work → Prop}

theorem Hosts.phase_only {before after : Work} (hosts : Hosts context spec subject target phase)
    (only : LifecycleOnly before after) (held : phase before) : phase after := by
  rw [only]
  exact hosts.stable _ _ _ _ _ held

/-- Issue one hosted operation and reason about its reply. -/
theorem Hosts.step {op : EngineOp} {exit : Except PyError (EngineReply op) → Progress → Prop}
    {progress : Progress} (hosts : Hosts context spec subject target phase)
    (admitted : spec.admits progress op)
    (answers : ∀ reply, (steady op = true → isError reply = false) →
      exit reply (progress.observe subject op reply)) :
    Conforms spec exit (perform op) progress := by
  apply (conforms_perform op exit progress).mpr
  refine ⟨admitted, ?_⟩
  intro reply expected
  rw [hosts.observes]
  exact answers reply (hosts.steadily _ _ _ expected)

@[simp] theorem observe_remember_work (subject : String) (progress : Progress)
    (record : LifecycleRecord) :
    (progress.observe subject (.remember subject record) (.ok ())).work =
      progress.work.remembered record := by
  simp [Progress.observe, Work.observe, Work.remembered]

@[simp] theorem observe_remember_flags (subject manifestId : String) (progress : Progress)
    (record : LifecycleRecord) :
    (progress.observe subject (.remember manifestId record) (.ok ())).flags =
      progress.flags := by
  simp [Progress.observe, Flags.observe, faults, interferes, leaks, cleanupRaises, isError]

@[simp] theorem observe_now_work (subject : String) (progress : Progress) (instant : Instant) :
    (progress.observe subject .now (.ok instant)).work = progress.work := rfl

@[simp] theorem observe_now_flags (subject : String) (progress : Progress) (instant : Instant) :
    (progress.observe subject .now (.ok instant)).flags = progress.flags := by
  simp [Progress.observe, Flags.observe, faults, interferes, leaks, cleanupRaises, isError]

@[simp] theorem observe_audit_work (subject : String) (progress : Progress)
    (record : AuditRecord) (reply : Except PyError Unit) :
    (progress.observe subject (.audit record) reply).work = progress.work := rfl

@[simp] theorem observe_recall_found (subject : String) (progress : Progress)
    (record : LifecycleRecord) :
    (progress.observe subject (.recall subject) (.ok (some record))).work =
      progress.work.knowing record.state := by
  simp [Progress.observe, Work.observe]

@[simp] theorem observe_recall_missed (subject manifestId : String) (progress : Progress) :
    (progress.observe subject (.recall manifestId) (.ok none)).work = progress.work := rfl

@[simp] theorem observe_lifecycle_get_work (subject manifestId : String) (progress : Progress)
    (reply : Except PyError (Option LifecycleState)) :
    (progress.observe subject (.lifecycle (.get manifestId)) reply).work = progress.work := rfl

@[simp] theorem observe_cas_work_won (progress : Progress)
    (expected : Option LifecycleState) :
    (progress.observe subject (.lifecycle (.compareAndSet subject expected target))
      (.ok true)).work = { progress.work with stored := some target } := by
  simp [Progress.observe, Work.observe]

@[simp] theorem observe_cas_work_lost (progress : Progress)
    (expected : Option LifecycleState) :
    (progress.observe subject (.lifecycle (.compareAndSet subject expected target))
      (.ok false)).work = progress.work := rfl

@[simp] theorem observe_cas_work_error (progress : Progress)
    (expected : Option LifecycleState) (error : PyError) :
    (progress.observe subject (.lifecycle (.compareAndSet subject expected target))
      (.error error)).work = progress.work := rfl

theorem ok_of_steady {Value : Type} {reply : Except PyError Value}
    (answered : true = true → isError reply = false) : ∃ value, reply = .ok value := by
  cases reply with
  | ok value => exact ⟨value, rfl⟩
  | error error => exact absurd (answered rfl) (by simp [isError])

/-- A call that is settling was given a reply that spoils its final transition. -/
def Spoiled (progress : Progress) : Prop :=
  progress.flags.interfered = true ∨
    progress.flags.cleanupRaised = true ∧ progress.flags.faulted = true

theorem spoiled_stays {progress : Progress} (spoiled : Spoiled progress)
    (op : EngineOp) (reply : Except PyError (EngineReply op)) :
    Spoiled (progress.observe subject op reply) := by
  rcases spoiled with interfered | ⟨raised, faulted⟩
  · exact Or.inl (by simp [Progress.observe, Flags.observe, interfered])
  · exact Or.inr (by simp [Progress.observe, Flags.observe, raised, faulted])

/-- Once spoiled, spoiled at every exit. -/
theorem Hosts.stays_spoiled {Value : Type} {exit : Except PyError Value → Progress → Prop}
    {program : Action Value} {progress : Progress}
    (hosts : Hosts context spec subject target phase)
    (conforms : Conforms spec exit program progress) (spoiled : Spoiled progress) :
    Conforms spec (fun outcome after => exit outcome after ∧ Spoiled after) program progress := by
  apply conforms.keeping (Program.uses_anything program) _ spoiled
  intro current op reply held _
  rw [hosts.observes]
  exact spoiled_stays held op reply

/-! ### Fetching the record -/

/-- What is left of `before` when a record was fetched: it was cached, or it was
hydrated afresh. -/
def Fetched (before : Work) (state : LifecycleState) (after : Work) : Prop :=
  after = before.knowing state ∨
    after = { before.knowing state with cached := some state, moved := none }

theorem Fetched.only {before after : Work} {state : LifecycleState}
    (fetched : Fetched before state after) :
    LifecycleOnly before after ∧ after.stored = before.stored ∧
      after.origin = before.origin.or (some state) := by
  rcases fetched with rfl | rfl
  · exact ⟨rfl, rfl, rfl⟩
  · exact ⟨rfl, rfl, rfl⟩

/-- The exit of a program that fetches a record. -/
def FetchExit (before : Work) (outcome : Except PyError LifecycleRecord) (after : Progress) :
    Prop :=
  match outcome with
  | .ok record => Fetched before record.state after.work
  | .error _ => after.work = before

theorem FetchExit.only {before : Work} {outcome : Except PyError LifecycleRecord}
    {after : Progress} (exit : FetchExit before outcome after) :
    LifecycleOnly before after.work ∧ after.work.stored = before.stored := by
  cases outcome with
  | ok record => exact ⟨(Fetched.only exit).1, (Fetched.only exit).2.1⟩
  | error error =>
      rw [show after.work = before from exit]
      exact ⟨LifecycleOnly.refl _, rfl⟩

theorem remember_fresh_writes (hosts : Hosts context spec subject target phase)
    (state : LifecycleState) (progress : Progress) :
    Conforms spec (fun outcome after =>
        ∃ record, outcome = .ok record ∧ record.state = state ∧
          after.flags = progress.flags ∧
          after.work = { progress.work.knowing state with cached := some state, moved := none })
      (rememberFresh subject state) progress := by
  apply Conforms.andThen
    (fun outcome after => outcome = .ok () ∧ after.flags = progress.flags ∧
      after.work = { progress.work.knowing state with cached := some state, moved := none })
    (hosts.step (hosts.remembers progress _) (fun reply answered => ?_))
    (fun value after held => ?_) (fun error after held => ?_)
  · obtain ⟨value, rfl⟩ := ok_of_steady answered
    exact ⟨rfl, observe_remember_flags _ _ _ _, observe_remember_work _ _ _⟩
  · exact ⟨_, rfl, rfl, held.2.1, held.2.2⟩
  · exact absurd held.1 (by simp)

theorem hydrate_writes (hosts : Hosts context spec subject target phase)
    (progress : Progress) :
    Conforms spec (FetchExit progress.work) (hydrateRecord context subject) progress := by
  have fresh : ∀ state (current : Progress), current.work = progress.work →
      Conforms spec (FetchExit progress.work) (rememberFresh subject state) current := by
    intro state current unchanged
    apply (remember_fresh_writes hosts state current).mono
    rintro outcome final ⟨record, rfl, rfl, _, written⟩
    rw [unchanged] at written
    exact Or.inr written
  unfold hydrateRecord
  by_cases configured : context.hasLifecycleStore = true
  · simp only [configured, if_true]
    apply Conforms.andThen
      (fun _ later => later.work = progress.work)
      (hosts.step (hosts.gets progress configured) (fun reply _ => ?_))
      (fun stored later held => ?_) (fun error later held => held)
    · rfl
    · cases stored with
      | some state => exact fresh state later held
      | none => exact fresh .proposed later held
  · simp only [configured, Bool.false_eq_true, if_false]
    exact fresh .proposed progress rfl

/-- Nothing has been moved or written yet, and no flag is up. -/
structure Unmoved (progress : Progress) : Prop where
  unsettled : progress.work.settling = false
  moved : progress.work.moved = none
  stored : progress.work.stored = none
  leaked : progress.flags.leaked = false
  cleanup : progress.flags.cleanupRaised = false

theorem hydrate_enters (hosts : Hosts context spec subject target phase) {progress : Progress}
    (unmoved : Unmoved progress) :
    Conforms spec (fun _ after => Unmoved after) (hydrateRecord context subject) progress := by
  have fresh : ∀ state (current : Progress), Unmoved current →
      Conforms spec (fun _ after => Unmoved after) (rememberFresh subject state) current := by
    intro state current still
    apply (remember_fresh_writes hosts state current).mono
    rintro outcome final ⟨record, rfl, _, flags, written⟩
    constructor
    · rw [written]
      exact still.unsettled
    · rw [written]
    · rw [written]
      exact still.stored
    · rw [flags]
      exact still.leaked
    · rw [flags]
      exact still.cleanup
  unfold hydrateRecord
  by_cases configured : context.hasLifecycleStore = true
  · simp only [configured, if_true]
    apply Conforms.andThen
      (fun _ later => Unmoved later)
      (hosts.step (hosts.gets progress configured) (fun reply _ => ?_))
      (fun hydrated later held => ?_) (fun error later held => held)
    · refine ⟨unmoved.unsettled, unmoved.moved, unmoved.stored, ?_, ?_⟩
      · cases reply <;>
          simp [Progress.observe, Flags.observe, leaks, unmoved.moved, unmoved.leaked]
      · simp [Progress.observe, Flags.observe, cleanupRaises, unmoved.unsettled,
          unmoved.cleanup]
    · cases hydrated with
      | some state => exact fresh state later held
      | none => exact fresh .proposed later held
  · simp only [configured, Bool.false_eq_true, if_false]
    exact fresh .proposed progress unmoved

/-- Fetching a record either finds a cached one, or hydrates a fresh one. -/
theorem get_record_writes (hosts : Hosts context spec subject target phase)
    (progress : Progress) :
    Conforms spec (FetchExit progress.work) (getRecord context subject) progress := by
  apply Conforms.andThen
    (fun outcome after =>
      match outcome with
      | .ok (some record) => after.work = progress.work.knowing record.state
      | .ok none => after.work = progress.work
      | .error _ => False)
    (hosts.step (hosts.recalls progress) (fun reply answered => ?_))
    (fun found after held => ?_) (fun error after held => held.elim)
  · obtain ⟨found, rfl⟩ := ok_of_steady answered
    cases found with
    | some record => exact observe_recall_found subject progress record
    | none => rfl
  · cases found with
    | some record => exact Or.inl held
    | none =>
        have unchanged : after.work = progress.work := held
        rw [← unchanged]
        exact hydrate_writes hosts after

/-- Before anything was moved, fetching a record raises no flag. -/
theorem get_record_enters (hosts : Hosts context spec subject target phase)
    {progress : Progress} (unmoved : Unmoved progress) :
    Conforms spec (fun _ after => Unmoved after) (getRecord context subject) progress := by
  apply Conforms.andThen
    (fun _ after => Unmoved after)
    (hosts.step (hosts.recalls progress) (fun reply answered => ?_))
    (fun found after held => ?_) (fun error after held => held)
  · obtain ⟨found, rfl⟩ := ok_of_steady answered
    have flags : (progress.observe subject (.recall subject) (.ok found)).flags.leaked = false ∧
        (progress.observe subject (.recall subject) (.ok found)).flags.cleanupRaised = false := by
      simp [Progress.observe, Flags.observe, leaks, cleanupRaises, unmoved.leaked,
        unmoved.cleanup]
    cases found with
    | some record =>
        have known := observe_recall_found subject progress record
        exact ⟨known ▸ unmoved.unsettled, known ▸ unmoved.moved, known ▸ unmoved.stored,
          flags.1, flags.2⟩
    | none => exact ⟨unmoved.unsettled, unmoved.moved, unmoved.stored, flags.1, flags.2⟩
  · cases found with
    | some record => exact held
    | none => exact hydrate_enters hosts held

theorem hydrate_stays_spoiled (hosts : Hosts context spec subject target phase)
    {progress : Progress} (spoiled : Spoiled progress) :
    Conforms spec (fun _ after => Spoiled after) (hydrateRecord context subject) progress :=
  (hosts.stays_spoiled (hydrate_writes hosts progress) spoiled).mono
    (fun _ _ ending => ending.2)

/-- Once the call has cached a record of its own, finding another one spoils. -/
theorem get_record_own (hosts : Hosts context spec subject target phase)
    {progress : Progress} {state : LifecycleState}
    (own : progress.work.cached = some state) :
    Conforms spec (fun outcome after => Spoiled after ∨
        ∃ record, outcome = .ok record ∧ record.state = state)
      (getRecord context subject) progress := by
  apply Conforms.andThen
    (fun outcome after => Spoiled after ∨
      ∃ record, outcome = .ok (some record) ∧ record.state = state)
    (hosts.step (hosts.recalls progress) (fun reply answered => ?_))
    (fun found after held => ?_) (fun error after held => ?_)
  · obtain ⟨found, rfl⟩ := ok_of_steady answered
    cases found with
    | none =>
        left
        simp [Spoiled, Progress.observe, Flags.observe, interferes, own]
    | some record =>
        by_cases same : record.state = state
        · exact Or.inr ⟨record, rfl, same⟩
        · left
          have differs : (some state != some record.state) = true := by
            simpa using fun equal : state = record.state => same equal.symm
          simp [Spoiled, Progress.observe, Flags.observe, interferes, own, differs]
  · rcases held with spoiled | ⟨record, isFound, same⟩
    · cases found with
      | some record => exact Or.inl spoiled
      | none => exact (hydrate_stays_spoiled hosts spoiled).mono (fun _ _ ending => Or.inl ending)
    · cases isFound
      exact Or.inr ⟨record, rfl, same⟩
  · rcases held with spoiled | ⟨record, impossible, _⟩
    · exact Or.inl spoiled
    · cases impossible

/-! ### Writing through -/

/-- A refused compare-and-set is reported as an unavailable store. -/
theorem compare_and_set_failed_is_unavailable (manifestId suffix : String)
    (fromState state : LifecycleState) :
    (compareAndSetFailed manifestId fromState state suffix).isStoreUnavailable = true := rfl

/-- What a durable write of `target` leaves behind. -/
def Work.persisted (work : Work) (context : EngineContext) (target : LifecycleState) : Work :=
  { work with stored := if context.hasLifecycleStore then some target else work.stored }

/-- The exit of a program that made one durable write, or none. -/
def WroteThrough (context : EngineContext) (target : LifecycleState) (before : Work)
    (outcome : Except PyError Unit) (after : Progress) : Prop :=
  match outcome with
  | .ok _ => after.work = before.persisted context target
  | .error _ => after.work = before

/-- What a compare-and-set leaves behind, by its answer. -/
def Swapped (context : EngineContext) (target : LifecycleState) (before : Work) :
    Except PyError Bool → Progress → Prop
  | .ok true, after => after.work = before.persisted context target
  | .ok false, after => after.work = before
  | .error _, after => after.work = before

theorem compare_and_set_writes (hosts : Hosts context spec subject target phase)
    (expected : Option LifecycleState)
    (legal : LifecycleState.isLegalTransition (expected.getD .proposed) target = true)
    (configured : context.hasLifecycleStore = true) {before : Work} (inPhase : phase before)
    {refused : Action Unit}
    (otherwise : ∀ current, current.work = before →
      Conforms spec (WroteThrough context target before) refused current)
    (progress : Progress) (unchanged : progress.work = before) :
    Conforms spec (WroteThrough context target before)
      (compareAndSetOr subject expected target refused) progress := by
  subst unchanged
  apply Conforms.andThen (Swapped context target progress.work)
    (hosts.step (hosts.writes progress expected configured inPhase legal) (fun reply _ => ?_))
    (fun won after held => ?_) (fun error after held => ?_)
  · cases reply with
    | error error => rfl
    | ok won =>
        cases won with
        | false => rfl
        | true =>
            apply (observe_cas_work_won progress expected).trans
            rw [Work.persisted, if_pos configured]
  · cases won with
    | true => exact held
    | false => exact otherwise after held
  · exact held

theorem persist_writes (hosts : Hosts context spec subject target phase)
    {fromState : LifecycleState}
    (legal : LifecycleState.isLegalTransition fromState target = true) (progress : Progress)
    (inPhase : phase progress.work) :
    Conforms spec (WroteThrough context target progress.work)
      (persistLifecycle context subject fromState target) progress := by
  unfold persistLifecycle
  by_cases configured : context.hasLifecycleStore = true
  · simp only [configured, if_true]
    apply Conforms.andThen
      (fun _ after => after.work = progress.work)
      (hosts.step (hosts.gets progress configured) (fun reply _ => ?_))
      (fun stored after held => ?_) (fun error after held => held)
    · rfl
    · have next : ∀ suffix current, current.work = progress.work →
          Conforms spec (WroteThrough context target progress.work)
            (compareAndSetOr subject (some fromState) target
              (.raised (compareAndSetFailed subject fromState target suffix))) current :=
        fun suffix => compare_and_set_writes hosts (some fromState) legal configured inPhase
          (fun current unchanged => unchanged)
      by_cases first : stored = none ∧ fromState = .proposed
      · rw [if_pos first]
        obtain ⟨_, rfl⟩ := first
        exact compare_and_set_writes hosts none legal configured inPhase (next "") after held
      · rw [if_neg first]
        exact next _ after held
  · simp only [configured, Bool.false_eq_true, if_false]
    show progress.work = progress.work.persisted context target
    simp [Work.persisted, configured]

/-- While the call enters COMMITTING, its cached record is already there. -/
structure Entering (progress : Progress) : Prop where
  unsettled : progress.work.settling = false
  moved : progress.work.moved = some .committing
  leaked : progress.flags.leaked = false
  cleanup : progress.flags.cleanupRaised = false

/-- Writing through while entering leaks on any raise that is not reported as an
unavailable store, since only that one is rolled back. -/
def EnterExit (outcome : Except PyError Unit) (after : Progress) : Prop :=
  after.flags.cleanupRaised = false ∧ after.work.settling = false ∧
    match outcome with
    | .ok _ => after.flags.leaked = false
    | .error error => after.flags.leaked = !error.isStoreUnavailable

theorem entering_lifecycle_reply (subject : String) {progress : Progress}
    (entering : Entering progress) (op : LifecycleOp) (reply : Except PyError (LifecycleReply op)) :
    (progress.observe subject (.lifecycle op) reply).flags.cleanupRaised = false ∧
      (progress.observe subject (.lifecycle op) reply).work.settling = false ∧
      ((progress.observe subject (.lifecycle op) reply).work.moved = some .committing) ∧
      (progress.observe subject (.lifecycle op) reply).flags.leaked =
        match reply with
        | .ok _ => false
        | .error error => !error.isStoreUnavailable := by
  obtain ⟨unsettled, moved, leaked, cleanup⟩ := entering
  refine ⟨?_, ?_, ?_, ?_⟩
  · cases op <;>
      simp [Progress.observe, Flags.observe, cleanupRaises, unsettled, cleanup]
  · rw [← unsettled]
    cases op with
    | get manifestId => rfl
    | compareAndSet manifestId expected newState =>
        cases reply with
        | error error => rfl
        | ok won =>
            cases won with
            | false => rfl
            | true => simp only [Progress.observe, Work.observe]; split <;> rfl
  · rw [← moved]
    cases op with
    | get manifestId => rfl
    | compareAndSet manifestId expected newState =>
        cases reply with
        | error error => rfl
        | ok won =>
            cases won with
            | false => rfl
            | true => simp only [Progress.observe, Work.observe]; split <;> rfl
  · cases reply <;> simp [Progress.observe, Flags.observe, leaks, leaked, moved, unsettled]

theorem Entering.after_lifecycle {progress : Progress} (entering : Entering progress)
    (op : LifecycleOp) (value : LifecycleReply op) :
    Entering (progress.observe subject (.lifecycle op) (.ok value)) := by
  have replied := entering_lifecycle_reply subject entering op (.ok value)
  exact ⟨replied.2.1, replied.2.2.1, replied.2.2.2, replied.1⟩

theorem Entering.lifecycle_error {progress : Progress} (entering : Entering progress)
    (op : LifecycleOp) (error : PyError) :
    EnterExit (.error error) (progress.observe subject (.lifecycle op) (.error error)) := by
  have replied := entering_lifecycle_reply subject entering op (.error error)
  exact ⟨replied.1, replied.2.1, replied.2.2.2⟩

theorem compare_and_set_enters (hosts : Hosts context spec subject target phase)
    (expected : Option LifecycleState)
    (legal : LifecycleState.isLegalTransition (expected.getD .proposed) target = true)
    (configured : context.hasLifecycleStore = true) {refused : Action Unit}
    (otherwise : ∀ current, phase current.work → Entering current →
      Conforms spec EnterExit refused current)
    (progress : Progress) (inPhase : phase progress.work) (entering : Entering progress) :
    Conforms spec EnterExit (compareAndSetOr subject expected target refused) progress := by
  apply Conforms.andThen
    (fun outcome after =>
      match outcome with
      | .ok won => Entering after ∧ (won = false → after.work = progress.work)
      | .error error => EnterExit (.error error) after)
    (hosts.step (hosts.writes progress expected configured inPhase legal) (fun reply _ => ?_))
    (fun won after held => ?_) (fun error after held => ?_)
  · cases reply with
    | ok won =>
        refine ⟨entering.after_lifecycle (.compareAndSet subject expected target) won, ?_⟩
        intro lost
        cases lost
        rfl
    | error error =>
        exact entering.lifecycle_error (.compareAndSet subject expected target) error
  · obtain ⟨still, lost⟩ := held
    cases won with
    | true => exact ⟨still.cleanup, still.unsettled, still.leaked⟩
    | false =>
        apply otherwise after _ still
        rw [lost rfl]
        exact inPhase
  · exact held

theorem persist_enters (hosts : Hosts context spec subject target phase)
    {fromState : LifecycleState}
    (legal : LifecycleState.isLegalTransition fromState target = true) {progress : Progress}
    (inPhase : phase progress.work) (entering : Entering progress) :
    Conforms spec EnterExit (persistLifecycle context subject fromState target) progress := by
  unfold persistLifecycle
  by_cases configured : context.hasLifecycleStore = true
  · simp only [configured, if_true]
    apply Conforms.andThen
      (fun outcome after =>
        match outcome with
        | .ok _ => Entering after ∧ after.work = progress.work
        | .error error => EnterExit (.error error) after)
      (hosts.step (hosts.gets progress configured) (fun reply _ => ?_))
      (fun stored after held => ?_) (fun error after held => ?_)
    · cases reply with
      | ok stored => exact ⟨entering.after_lifecycle (.get subject) stored, rfl⟩
      | error error => exact entering.lifecycle_error (.get subject) error
    · obtain ⟨still, unchanged⟩ := held
      have inPhaseAfter : phase after.work := by
        rw [unchanged]
        exact inPhase
      have next : ∀ suffix current, phase current.work → Entering current →
          Conforms spec EnterExit
            (compareAndSetOr subject (some fromState) target
              (.raised (compareAndSetFailed subject fromState target suffix))) current :=
        fun suffix => compare_and_set_enters hosts (some fromState) legal configured
          (fun current _ held => ⟨held.cleanup, held.unsettled, held.leaked⟩)
      by_cases first : stored = none ∧ fromState = .proposed
      · rw [if_pos first]
        obtain ⟨_, rfl⟩ := first
        exact compare_and_set_enters hosts none legal configured (next "") after inPhaseAfter still
      · rw [if_neg first]
        exact next _ after inPhaseAfter still
    · exact held
  · simp only [configured, Bool.false_eq_true, if_false]
    exact ⟨entering.cleanup, entering.unsettled, entering.leaked⟩

/-! ### Settling -/

/-- A raise of the final transition spoils it. -/
def SettleExit {Value : Type} (outcome : Except PyError Value) (after : Progress) : Prop :=
  isError outcome = true → Spoiled after

theorem settling_lifecycle_error {progress : Progress}
    (settled : progress.work.settling = true) (op : LifecycleOp) (error : PyError) :
    Spoiled (progress.observe subject (.lifecycle op) (.error error)) := by
  cases op <;>
    simp [Spoiled, Progress.observe, Flags.observe, cleanupRaises, faults, interferes, isError, settled]

theorem settling_lost_own_write {progress : Progress} {fromState newState : LifecycleState}
    (settled : progress.work.settling = true) (own : progress.work.stored = some fromState) :
    Spoiled (progress.observe subject
      (.lifecycle (.compareAndSet subject (some fromState) newState)) (.ok false)) := by
  simp [Spoiled, Progress.observe, Flags.observe, cleanupRaises, faults, interferes, isError, settled, own]

theorem compare_and_set_settles (hosts : Hosts context spec subject target phase)
    (expected : Option LifecycleState) {before : Work} {fromState : LifecycleState}
    (legal : LifecycleState.isLegalTransition (expected.getD .proposed) target = true)
    (configured : context.hasLifecycleStore = true) (inPhase : phase before)
    (settled : before.settling = true) (own : before.stored = some fromState)
    {refused : Action Unit}
    (otherwise : ∀ current, current.work = before →
      (expected = some fromState → Spoiled current) → Conforms spec SettleExit refused current)
    (progress : Progress) (unchanged : progress.work = before) :
    Conforms spec SettleExit (compareAndSetOr subject expected target refused) progress := by
  subst unchanged
  apply Conforms.andThen
    (fun outcome after =>
      match outcome with
      | .ok true => True
      | .ok false => after.work = progress.work ∧ (expected = some fromState → Spoiled after)
      | .error _ => Spoiled after)
    (hosts.step (hosts.writes progress expected configured inPhase legal) (fun reply _ => ?_))
    (fun won after held => ?_) (fun error after held => ?_)
  · cases reply with
    | error error =>
        exact settling_lifecycle_error settled (.compareAndSet subject expected target) error
    | ok won =>
        cases won with
        | true => trivial
        | false =>
            refine ⟨rfl, ?_⟩
            intro same
            subst same
            exact settling_lost_own_write settled own
  · cases won with
    | true => exact fun impossible => by cases impossible
    | false => exact otherwise after held.1 held.2
  · exact fun _ => held

theorem persist_settles (hosts : Hosts context spec subject target phase)
    {fromState : LifecycleState}
    (legal : LifecycleState.isLegalTransition fromState target = true) {progress : Progress}
    (inPhase : phase progress.work) (settled : progress.work.settling = true)
    (own : context.hasLifecycleStore = true → progress.work.stored = some fromState) :
    Conforms spec SettleExit (persistLifecycle context subject fromState target) progress := by
  unfold persistLifecycle
  by_cases configured : context.hasLifecycleStore = true
  · simp only [configured, if_true]
    apply Conforms.andThen
      (fun outcome after =>
        match outcome with
        | .ok _ => after.work = progress.work
        | .error _ => Spoiled after)
      (hosts.step (hosts.gets progress configured) (fun reply _ => ?_))
      (fun stored after held => ?_) (fun error after held => fun _ => held)
    · cases reply with
      | ok stored => rfl
      | error error => exact settling_lifecycle_error settled (.get subject) error
    · have next : ∀ suffix current, current.work = progress.work →
          Conforms spec SettleExit
            (compareAndSetOr subject (some fromState) target
              (.raised (compareAndSetFailed subject fromState target suffix))) current :=
        fun suffix => compare_and_set_settles hosts (some fromState) legal configured inPhase
          settled (own configured) (fun current _ spoiled => fun _ => spoiled rfl)
      by_cases first : stored = none ∧ fromState = .proposed
      · rw [if_pos first]
        obtain ⟨_, rfl⟩ := first
        exact compare_and_set_settles hosts none legal configured inPhase settled
          (own configured) (fun current unchanged _ => next "" current unchanged) after held
      · rw [if_neg first]
        exact next _ after held
  · simp only [configured, Bool.false_eq_true, if_false]
    exact fun impossible => by cases impossible

/-! ### The whole transition -/

theorem advanced_record {record advanced : LifecycleRecord} {instant : Instant}
    (moved : record.transition target instant = .ok advanced) :
    LifecycleState.isLegalTransition record.state target = true ∧ advanced.state = target ∧
      advanced.history ≠ [] := by
  obtain ⟨legal, rfl⟩ := LifecycleRecord.transition_ok_iff.mp moved
  exact ⟨legal, rfl, by simp⟩

theorem refused_transition {record : LifecycleRecord} {instant : Instant} {error : PyError}
    (refused : record.transition target instant = .error error) :
    LifecycleState.isLegalTransition record.state target = false := by
  cases legal : LifecycleState.isLegalTransition record.state target with
  | false => rfl
  | true =>
      have moved : record.transition target instant = .ok _ :=
        LifecycleRecord.transition_ok_iff.mpr ⟨legal, rfl⟩
      rw [moved] at refused
      exact absurd refused (by simp)

/-- What a completed transition leaves behind. -/
def Work.advancedTo (work : Work) (context : EngineContext) (target : LifecycleState) : Work :=
  ({ work with cached := some target, moved := some target } : Work).persisted context target

/-- The exit of a transition from `fromState`: it wrote its target, or only
lifecycle fields. -/
def Advanced (context : EngineContext) (target : LifecycleState) (before : Work)
    (fromState : LifecycleState) (outcome : Except PyError LifecycleRecord) (after : Progress) :
    Prop :=
  match outcome with
  | .ok _ => LifecycleState.isLegalTransition fromState target = true ∧
      after.work = (before.knowing fromState).advancedTo context target
  | .error _ => LifecycleOnly before after.work

/-- The exit of a transition from whatever state it finds. -/
def Transitioned (context : EngineContext) (target : LifecycleState) (before : Work)
    (outcome : Except PyError LifecycleRecord) (after : Progress) : Prop :=
  match outcome with
  | .ok _ => ∃ fromState, LifecycleState.isLegalTransition fromState target = true ∧
      after.work = (before.knowing fromState).advancedTo context target
  | .error _ => LifecycleOnly before after.work

theorem Advanced.transitioned {before : Work} {fromState : LifecycleState}
    {outcome : Except PyError LifecycleRecord} {after : Progress}
    (advanced : Advanced context target before fromState outcome after) :
    Transitioned context target before outcome after := by
  cases outcome with
  | ok record => exact ⟨fromState, advanced⟩
  | error error => exact advanced

/-- Where a transition starts: the record in `fromState` has been fetched. -/
structure Departing (before : Work) (fromState : LifecycleState) (current : Work) : Prop where
  only : LifecycleOnly before current
  kept : current.stored = before.stored
  known : current.origin = before.origin.or (some fromState)

theorem Fetched.departing {before after : Work} {state : LifecycleState}
    (fetched : Fetched before state after) : Departing before state after :=
  ⟨fetched.only.1, fetched.only.2.1, fetched.only.2.2⟩

theorem Departing.remembered {before current : Work} {fromState : LifecycleState}
    {record : LifecycleRecord} (departing : Departing before fromState current)
    (moved : record.state = target) (history : record.history ≠ []) :
    current.remembered record =
      { before.knowing fromState with cached := some target, moved := some target } := by
  have origin : (current.origin.or (some target)) = before.origin.or (some fromState) := by
    rw [departing.known]
    cases before.origin <;> rfl
  unfold Work.remembered Work.knowing
  rw [moved, if_neg history, origin, departing.only]
  simp only [departing.kept]

/-- An audit event changes no work; it may only raise. -/
theorem Hosts.after_audit {Value : Type} {exit : Except PyError Value → Progress → Prop}
    (hosts : Hosts context spec subject target phase) (record : AuditRecord)
    {next : Unit → Action Value} {progress : Progress}
    (returns : ∀ after, after.work = progress.work → Conforms spec exit (next ()) after)
    (raises : ∀ error after, after.work = progress.work → exit (.error error) after) :
    Conforms spec exit (perform (.audit record) >>= next) progress :=
  Conforms.andThen (fun _ after => after.work = progress.work)
    (hosts.step (hosts.audits progress record) (fun _ _ => rfl))
    (fun _ after unchanged => returns after unchanged) raises

theorem roll_back_writes (hosts : Hosts context spec subject target phase)
    (record : LifecycleRecord) (note : TransitionNote) (error : PyError) {before : Work}
    (progress : Progress) (only : LifecycleOnly before progress.work) :
    Conforms spec (fun outcome after => isError outcome = true ∧ LifecycleOnly before after.work)
      (rollBack subject record target note error) progress := by
  apply Conforms.andThen
    (fun _ after => LifecycleOnly before after.work)
    (hosts.step (hosts.remembers progress _) (fun reply answered => ?_))
    (fun _ after held => ?_) (fun _ after held => ⟨rfl, held⟩)
  · obtain ⟨value, rfl⟩ := ok_of_steady answered
    apply only.trans
    rw [observe_remember_work]
    rfl
  · apply hosts.after_audit
    · intro final unchanged
      refine ⟨rfl, ?_⟩
      rw [unchanged]
      exact held
    · intro _ final unchanged
      refine ⟨rfl, ?_⟩
      rw [unchanged]
      exact held

theorem advance_writes (hosts : Hosts context spec subject target phase)
    {record advanced : LifecycleRecord} (note : TransitionNote)
    (legal : LifecycleState.isLegalTransition record.state target = true)
    (moved : advanced.state = target) (history : advanced.history ≠ []) {before : Work}
    (progress : Progress) (inPhase : phase before)
    (departing : Departing before record.state progress.work) :
    Conforms spec (Advanced context target before record.state)
      (advance context subject record advanced target note) progress := by
  apply Conforms.andThen
    (fun outcome after => isError outcome = false ∧ after.work =
      { before.knowing record.state with cached := some target, moved := some target })
    (hosts.step (hosts.remembers progress _) (fun reply answered => ?_))
    (fun _ after held => ?_) (fun _ after held => absurd held.1 (by simp [isError]))
  · obtain ⟨value, rfl⟩ := ok_of_steady answered
    exact ⟨rfl, (observe_remember_work _ _ _).trans (departing.remembered moved history)⟩
  · have inPhaseAfter : phase after.work := by
      rw [held.2]
      exact hosts.stable before _ _ _ before.stored inPhase
    have wrote : Conforms spec (fun outcome later =>
        match outcome with
        | .ok _ => later.work = (before.knowing record.state).advancedTo context target
        | .error _ => LifecycleOnly before later.work)
        ((persistLifecycle context subject record.state target).rescue
          PyError.isStoreUnavailable (rollBack subject record target note)) after := by
      apply (conforms_rescue _ _ _ _ _).mpr
      apply (persist_writes hosts legal after inPhaseAfter).mono
      intro outcome later written
      cases outcome with
      | ok _ =>
          show later.work = (before.knowing record.state).advancedTo context target
          rw [show later.work = after.work.persisted context target from written, held.2]
          rfl
      | error error =>
          have onlyLater : LifecycleOnly before later.work := by
            rw [show later.work = after.work from written, held.2]
            rfl
          by_cases unavailable : error.isStoreUnavailable = true
          · simp only [unavailable, if_true]
            apply (roll_back_writes hosts record note error later onlyLater).mono
            intro ending final rolled
            cases ending with
            | ok _ => exact absurd rolled.1 (by simp [isError])
            | error _ => exact rolled.2
          · simp only [unavailable, Bool.false_eq_true, if_false]
            exact onlyLater
    refine Conforms.andThen _ wrote (fun _ later written => ?_) (fun _ later written => written)
    apply hosts.after_audit
    · intro final unchanged
      exact ⟨legal, unchanged.trans written⟩
    · intro _ final unchanged
      show LifecycleOnly before final.work
      rw [unchanged.trans written]
      rfl

theorem move_record_writes (hosts : Hosts context spec subject target phase)
    (record : LifecycleRecord) (note : TransitionNote) {before : Work} (progress : Progress)
    (inPhase : phase before) (departing : Departing before record.state progress.work) :
    Conforms spec (Advanced context target before record.state)
      (moveRecord context subject record target note) progress := by
  apply Conforms.andThen
    (fun _ later => Departing before record.state later.work)
    (hosts.step (hosts.ticks progress) (fun reply answered => ?_))
    (fun instant later held => ?_) (fun _ later held => held.only)
  · obtain ⟨instant, rfl⟩ := ok_of_steady answered
    exact departing
  · cases moved : record.transition target instant with
    | error error =>
        apply hosts.after_audit
        · intro final unchanged
          show LifecycleOnly before final.work
          rw [unchanged]
          exact held.only
        · intro _ final unchanged
          show LifecycleOnly before final.work
          rw [unchanged]
          exact held.only
    | ok advanced =>
        obtain ⟨legal, state, history⟩ := advanced_record moved
        exact advance_writes hosts note legal state history later inPhase held

/-- A completed transition has written its target to the cache and, when one is
configured, to the durable store; a failed one has touched nothing else. -/
theorem transition_writes (hosts : Hosts context spec subject target phase)
    (note : TransitionNote) (progress : Progress) (inPhase : phase progress.work) :
    Conforms spec (Transitioned context target progress.work)
      (transition context subject target note) progress := by
  apply Conforms.andThen (FetchExit progress.work) (get_record_writes hosts progress)
    (fun record after held => ?_) (fun error after held => ?_)
  · exact (move_record_writes hosts record note after inPhase (Fetched.departing held)).mono
      (fun _ _ ending => ending.transitioned)
  · exact (FetchExit.only held).1

/-! ### Entering COMMITTING, with every flag -/

/-- How a transition to COMMITTING can end: it leaks exactly when it raises with
the record or the store already moved. -/
def Entered (outcome : Except PyError LifecycleRecord) (after : Progress) : Prop :=
  after.flags.cleanupRaised = false ∧
    match outcome with
    | .ok _ => after.flags.leaked = false
    | .error _ => after.flags.leaked = true ↔
        after.work.moved = some .committing ∨ after.work.stored = some .committing

theorem Unmoved.entered_error {progress : Progress} (unmoved : Unmoved progress)
    (error : PyError) : Entered (.error error) progress := by
  refine ⟨unmoved.cleanup, ?_⟩
  simp [unmoved.leaked, unmoved.moved, unmoved.stored]

theorem Unmoved.after_now {progress : Progress} (unmoved : Unmoved progress)
    (instant : Instant) : Unmoved (progress.observe subject .now (.ok instant)) := by
  obtain ⟨unsettled, moved, stored, leaked, cleanup⟩ := unmoved
  exact ⟨unsettled, moved, stored, (observe_now_flags subject progress instant) ▸ leaked,
    (observe_now_flags subject progress instant) ▸ cleanup⟩

theorem blocked_is_not_allowed (note : TransitionNote) (subject : String)
    (fromState target : LifecycleState) :
    (note.record "blocked_illegal_transition" subject fromState target).decision ≠ "allowed" := by
  simp [TransitionNote.record]

/-- An audit event that does not announce COMMITTING raises no flag before the
call settles. -/
theorem observe_blocked_audit (subject : String) {progress : Progress} (record : AuditRecord)
    (blocked : record.decision ≠ "allowed") (unsettled : progress.work.settling = false)
    (reply : Except PyError Unit) :
    (progress.observe subject (.audit record) reply).flags.leaked = progress.flags.leaked ∧
      (progress.observe subject (.audit record) reply).flags.cleanupRaised =
        progress.flags.cleanupRaised := by
  simp [Progress.observe, Flags.observe, leaks, cleanupRaises, blocked, unsettled]

theorem roll_back_enters (hosts : Hosts context spec subject target phase)
    {record : LifecycleRecord} (note : TransitionNote) (error : PyError) {progress : Progress}
    (elsewhere : record.state ≠ .committing) (unstored : progress.work.stored = none)
    (unsettled : progress.work.settling = false) (unleaked : progress.flags.leaked = false)
    (clean : progress.flags.cleanupRaised = false) :
    Conforms spec (fun outcome after => isError outcome = true ∧
        after.flags.cleanupRaised = false ∧ after.flags.leaked = false ∧
        after.work.moved ≠ some .committing ∧ after.work.stored = none)
      (rollBack subject record target note error) progress := by
  apply Conforms.andThen
    (fun outcome after => isError outcome = false ∧ after.flags.cleanupRaised = false ∧
      after.flags.leaked = false ∧ after.work.settling = false ∧
      after.work.moved ≠ some .committing ∧ after.work.stored = none)
    (hosts.step (hosts.remembers progress _) (fun reply answered => ?_))
    (fun _ after held => ?_) (fun _ after held => absurd held.1 (by simp [isError]))
  · obtain ⟨value, rfl⟩ := ok_of_steady answered
    refine ⟨rfl, ?_, ?_, ?_, ?_, ?_⟩
    · rw [observe_remember_flags]
      exact clean
    · rw [observe_remember_flags]
      exact unleaked
    · rw [observe_remember_work]
      exact unsettled
    · rw [observe_remember_work, Work.remembered]
      split
      · simp
      · simpa using elsewhere
    · rw [observe_remember_work]
      exact unstored
  · obtain ⟨_, cleanAfter, unleakedAfter, unsettledAfter, unmovedAfter, unstoredAfter⟩ := held
    apply Conforms.andThen
      (fun _ final => final.flags.cleanupRaised = false ∧ final.flags.leaked = false ∧
        final.work.moved ≠ some .committing ∧ final.work.stored = none)
      (hosts.step (hosts.audits after _) (fun reply _ => ?_))
      (fun _ final ending => ?_) (fun _ final ending => ⟨rfl, ending⟩)
    · have flags := observe_blocked_audit subject (note.record
        "blocked_lifecycle_store_unavailable" subject record.state target)
        (by simp [TransitionNote.record]) unsettledAfter reply
      exact ⟨flags.2.trans cleanAfter, flags.1.trans unleakedAfter, unmovedAfter, unstoredAfter⟩
    · exact ⟨rfl, ending⟩

theorem observe_announcement (subject : String) {progress : Progress} (note : TransitionNote)
    (fromState : LifecycleState) (unsettled : progress.work.settling = false)
    (reply : Except PyError Unit) :
    let after := progress.observe subject
      (.audit (note.record "allowed" subject fromState .committing)) reply
    after.flags.leaked = (progress.flags.leaked || isError reply) ∧
      after.flags.cleanupRaised = progress.flags.cleanupRaised := by
  simp [Progress.observe, Flags.observe, leaks, cleanupRaises, TransitionNote.record, unsettled]

theorem advance_enters (hosts : Hosts context spec subject .committing phase)
    {record advanced : LifecycleRecord} (note : TransitionNote)
    (legal : LifecycleState.isLegalTransition record.state .committing = true)
    (moved : advanced.state = .committing) (history : advanced.history ≠ [])
    {progress : Progress} (inPhase : phase progress.work) (unmoved : Unmoved progress) :
    Conforms spec Entered (advance context subject record advanced .committing note)
      progress := by
  have elsewhere : record.state ≠ .committing := by
    intro same
    rw [same] at legal
    exact absurd legal (by decide)
  apply Conforms.andThen
    (fun outcome after => isError outcome = false ∧ Entering after ∧ phase after.work ∧
      after.work.stored = none)
    (hosts.step (hosts.remembers progress _) (fun reply answered => ?_))
    (fun _ after held => ?_) (fun _ after held => absurd held.1 (by simp [isError]))
  · obtain ⟨value, rfl⟩ := ok_of_steady answered
    have written : (progress.observe subject (.remember subject advanced) (.ok value)).work =
        { progress.work.knowing advanced.state with
          cached := some .committing, moved := some .committing } := by
      refine (observe_remember_work subject progress advanced).trans ?_
      simp [Work.remembered, moved, history]
    refine ⟨rfl, ⟨?_, ?_, ?_, ?_⟩, ?_, ?_⟩
    · rw [written]
      exact unmoved.unsettled
    · rw [written]
    · rw [observe_remember_flags]
      exact unmoved.leaked
    · rw [observe_remember_flags]
      exact unmoved.cleanup
    · rw [written]
      exact hosts.stable progress.work _ _ _ _ inPhase
    · rw [written]
      exact unmoved.stored
  · obtain ⟨_, entering, inPhaseAfter, unstored⟩ := held
    have wrote : Conforms spec (fun outcome later =>
        later.flags.cleanupRaised = false ∧
          match outcome with
          | .ok _ => later.work.settling = false ∧ later.flags.leaked = false ∧
              later.work.moved = some .committing
          | .error _ => later.flags.leaked = true ↔
              later.work.moved = some .committing ∨ later.work.stored = some .committing)
        ((persistLifecycle context subject record.state .committing).rescue
          PyError.isStoreUnavailable (rollBack subject record .committing note)) after := by
      apply (conforms_rescue _ _ _ _ _).mpr
      apply ((persist_enters hosts legal inPhaseAfter entering).and
        (persist_writes hosts legal after inPhaseAfter)).mono
      rintro outcome later ⟨⟨clean, unsettled, leaked⟩, written⟩
      cases outcome with
      | ok _ =>
          refine ⟨clean, unsettled, leaked, ?_⟩
          rw [show later.work = after.work.persisted context .committing from written]
          exact entering.moved
      | error error =>
          have unchanged : later.work = after.work := written
          by_cases unavailable : error.isStoreUnavailable = true
          · simp only [unavailable, if_true]
            have unleaked : later.flags.leaked = false := by
              simpa [unavailable] using leaked
            apply (roll_back_enters hosts note error elsewhere (unchanged ▸ unstored) unsettled
              unleaked clean).mono
            rintro ending final ⟨raised, cleanFinal, unleakedFinal, unmovedFinal, unstoredFinal⟩
            refine ⟨cleanFinal, ?_⟩
            cases ending with
            | ok _ => exact absurd raised (by simp [isError])
            | error _ => simp [unleakedFinal, unmovedFinal, unstoredFinal]
          · simp only [unavailable, Bool.false_eq_true, if_false]
            refine ⟨clean, ?_⟩
            simp only [unchanged, entering.moved, true_or, iff_true]
            simpa [unavailable] using leaked
    refine Conforms.andThen _ wrote (fun _ later held => ?_) (fun _ later held => held)
    obtain ⟨clean, unsettled, unleaked, stillMoved⟩ := held
    apply Conforms.andThen
      (fun outcome final => final.flags.cleanupRaised = false ∧
        final.work.moved = some .committing ∧ final.flags.leaked = isError outcome)
      (hosts.step (hosts.audits later _) (fun reply _ => ?_))
      (fun _ final ending => ?_) (fun _ final ending => ?_)
    · have flags := observe_announcement subject note record.state unsettled reply
      refine ⟨flags.2.trans clean, stillMoved, ?_⟩
      rw [flags.1, unleaked, Bool.false_or]
    · exact ⟨ending.1, ending.2.2⟩
    · exact ⟨ending.1, by simp [ending.2.1, show final.flags.leaked = true from ending.2.2]⟩

/-- Entering COMMITTING before anything was moved. -/
theorem transition_enters (hosts : Hosts context spec subject .committing phase)
    (note : TransitionNote) {progress : Progress} (inPhase : phase progress.work)
    (unmoved : Unmoved progress) :
    Conforms spec Entered (transition context subject .committing note) progress := by
  apply Conforms.andThen
    (fun _ after => Unmoved after ∧ phase after.work)
    (((get_record_enters hosts unmoved).and (get_record_writes hosts progress)).mono
      (fun _ _ held => ⟨held.1, hosts.phase_only held.2.only.1 inPhase⟩))
    (fun record after held => ?_) (fun error after held => held.1.entered_error error)
  unfold moveRecord
  apply Conforms.andThen
    (fun outcome later => isError outcome = false ∧ Unmoved later ∧ phase later.work)
    (hosts.step (hosts.ticks after) (fun reply answered => ?_))
    (fun instant later still => ?_) (fun _ later still => absurd still.1 (by simp [isError]))
  · obtain ⟨instant, rfl⟩ := ok_of_steady answered
    exact ⟨rfl, held.1.after_now instant, held.2⟩
  · cases advances : record.transition .committing instant with
    | error error =>
        apply Conforms.andThen
          (fun _ final => Unmoved final)
          (hosts.step (hosts.audits later _) (fun reply _ => ?_))
          (fun _ final ending => ?_) (fun error final ending => ending.entered_error error)
        · have flags := observe_blocked_audit subject _
            (blocked_is_not_allowed note subject record.state .committing)
            still.2.1.unsettled reply
          exact ⟨still.2.1.unsettled, still.2.1.moved, still.2.1.stored,
            flags.1.trans still.2.1.leaked, flags.2.trans still.2.1.cleanup⟩
        · exact ending.entered_error error
    | ok advanced =>
        obtain ⟨legal, state, history⟩ := advanced_record advances
        exact advance_enters hosts note legal state history still.2.2 still.2.1

/-! ### The final transition -/

theorem roll_back_settles (hosts : Hosts context spec subject target phase)
    (record : LifecycleRecord) (note : TransitionNote) (error : PyError) {progress : Progress}
    (spoiled : Spoiled progress) :
    Conforms spec (fun _ after => Spoiled after) (rollBack subject record target note error)
      progress :=
  (hosts.stays_spoiled (roll_back_writes hosts record note error progress (LifecycleOnly.refl _))
    spoiled).mono (fun _ _ ending => ending.2)

/-- Advancing the call's own record while it settles raises only if spoiled. -/
theorem advance_settles (hosts : Hosts context spec subject target phase)
    {record advanced : LifecycleRecord} (note : TransitionNote)
    (legal : LifecycleState.isLegalTransition record.state target = true)
    (moved : advanced.state = target) (history : advanced.history ≠ [])
    {progress : Progress} (inPhase : phase progress.work)
    (settled : progress.work.settling = true)
    (own : context.hasLifecycleStore = true → progress.work.stored = some record.state) :
    Conforms spec SettleExit (advance context subject record advanced target note) progress := by
  apply Conforms.andThen
    (fun outcome after => isError outcome = false ∧ after.work =
      { progress.work.knowing advanced.state with
        cached := some target, moved := some target })
    (hosts.step (hosts.remembers progress _) (fun reply answered => ?_))
    (fun _ after held => ?_) (fun _ after held => absurd held.1 (by simp [isError]))
  · obtain ⟨value, rfl⟩ := ok_of_steady answered
    refine ⟨rfl, (observe_remember_work _ _ _).trans ?_⟩
    simp [Work.remembered, moved, history]
  · obtain ⟨_, written⟩ := held
    have inPhaseAfter : phase after.work := by
      rw [written]
      exact hosts.stable progress.work _ _ _ _ inPhase
    have settledAfter : after.work.settling = true := by
      rw [written]
      exact settled
    have ownAfter : context.hasLifecycleStore = true →
        after.work.stored = some record.state := by
      rw [written]
      exact own
    have wrote : Conforms spec (fun outcome later =>
        match outcome with
        | .ok _ => later.work.settling = true
        | .error _ => Spoiled later)
        ((persistLifecycle context subject record.state target).rescue
          PyError.isStoreUnavailable (rollBack subject record target note)) after := by
      apply (conforms_rescue _ _ _ _ _).mpr
      apply ((persist_settles hosts legal inPhaseAfter settledAfter ownAfter).and
        (persist_writes hosts legal after inPhaseAfter)).mono
      rintro outcome later ⟨settles, wrote⟩
      cases outcome with
      | ok _ =>
          show later.work.settling = true
          rw [show later.work = after.work.persisted context target from wrote]
          exact settledAfter
      | error error =>
          have spoiled : Spoiled later := settles rfl
          by_cases unavailable : error.isStoreUnavailable = true
          · simp only [unavailable, if_true]
            apply ((roll_back_settles hosts record note error spoiled).and
              (roll_back_writes hosts record note error later (LifecycleOnly.refl _))).mono
            rintro ending final ⟨stillSpoiled, raised, _⟩
            cases ending with
            | ok _ => exact absurd raised (by simp [isError])
            | error _ => exact stillSpoiled
          · simp only [unavailable, Bool.false_eq_true, if_false]
            exact spoiled
    refine Conforms.andThen _ wrote (fun _ later settling => ?_)
      (fun _ later spoiled => fun _ => spoiled)
    apply Conforms.andThen
      (fun outcome final => isError outcome = true → Spoiled final)
      (hosts.step (hosts.audits later _) (fun reply _ => ?_))
      (fun _ final _ => ?_) (fun _ final ending => ending)
    · intro raised
      right
      simp [Progress.observe, Flags.observe, cleanupRaises, faults, raised,
        show later.work.settling = true from settling, TransitionNote.record]
    · exact fun impossible => by cases impossible

/-- The final transition from the state the call itself wrote raises only if
another call interfered or a component failed it. -/
theorem transition_settles (hosts : Hosts context spec subject target phase)
    (note : TransitionNote) {fromState : LifecycleState}
    (legal : LifecycleState.isLegalTransition fromState target = true) {progress : Progress}
    (inPhase : phase progress.work) (settled : progress.work.settling = true)
    (cached : progress.work.cached = some fromState)
    (own : context.hasLifecycleStore = true → progress.work.stored = some fromState) :
    Conforms spec SettleExit (transition context subject target note) progress := by
  apply Conforms.andThen
    (fun outcome after => FetchExit progress.work outcome after ∧ (Spoiled after ∨
      ∃ record, outcome = .ok record ∧ record.state = fromState))
    ((get_record_writes hosts progress).and (get_record_own hosts cached))
    (fun record after held => ?_) (fun error after held => ?_)
  · obtain ⟨fetched, spoiled | ⟨found, same, isOwn⟩⟩ := held
    · apply (hosts.stays_spoiled
        (move_record_writes hosts record note after inPhase (Fetched.departing fetched))
        spoiled).mono
      exact fun _ _ ending _ => ending.2
    · cases same
      have only := FetchExit.only fetched
      apply Conforms.andThen
        (fun outcome later => isError outcome = false ∧ later.work = after.work)
        (hosts.step (hosts.ticks after) (fun reply answered => ?_))
        (fun instant later held => ?_) (fun _ later held => absurd held.1 (by simp [isError]))
      · exact ⟨answered rfl, rfl⟩
      · subst isOwn
        obtain ⟨advanced, advances⟩ : ∃ advanced,
            record.transition target instant = .ok advanced :=
          ⟨_, LifecycleRecord.transition_ok_iff.mpr ⟨legal, rfl⟩⟩
        obtain ⟨_, state, history⟩ := advanced_record advances
        simp only [advances]
        apply advance_settles hosts note legal state history
        · rw [held.2]
          exact hosts.phase_only only.1 inPhase
        · rw [held.2]
          exact only.1.settling_eq.trans settled
        · rw [held.2, only.2]
          exact own
  · rcases held.2 with spoiled | ⟨record, impossible, _⟩
    · exact fun _ => spoiled
    · cases impossible

end KarmaSakshi.Engine
