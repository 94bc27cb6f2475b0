import KarmaSakshi.Engine.Calls

/-!
What a refused compare-and-set leaves in the record cache.

A second, smaller watcher follows the records of one manifest through a call:
the record its current transition started from, the record the cache was last
given, and whether the last compare-and-set was refused.  Every call of an
engine keeps `Restored`: after a refusal the cache holds the starting record.
-/

namespace KarmaSakshi.Engine

open EffectProgram KarmaSakshi.Domain KarmaSakshi.Stores

set_option autoImplicit false

/-- `held` is the record the current transition started from. -/
structure RecordView where
  held : Option LifecycleRecord := none
  cached : Option LifecycleRecord := none
  refused : Bool := false

def isRefusal : Except PyError Bool → Bool
  | .ok won => !won
  | .error _ => false

/-- A lookup starts over; after a miss the first record written is the one held. -/
def RecordView.observe (manifestId : String) (view : RecordView) :
    (op : EngineOp) → Except PyError (EngineReply op) → RecordView
  | .recall asked, .ok found =>
      if asked = manifestId then { held := found, cached := found, refused := false } else view
  | .remember written record, .ok _ =>
      if written = manifestId then
        { view with held := view.held.or (some record), cached := some record }
      else view
  | .lifecycle (.compareAndSet written _ _), reply =>
      if written = manifestId then { view with refused := isRefusal reply } else view
  | _, _ => view

/-- After a refused compare-and-set the cache holds the starting record. -/
def Restored (manifestId : String) (view : RecordView) : Prop :=
  view.refused = true → ∃ record, view.held = some record ∧
    view.cached = some { record with manifestId }

def recordSpec (manifestId : String) : Spec EngineOp EngineReply PyError RecordView where
  admits := fun _ _ => True
  expects := fun _ op reply => steady op = true → isError reply = false
  observe := RecordView.observe manifestId

/-- The program leaves a restored cache restored, however it ends. -/
def Restoring {Value : Type} (manifestId : String) (program : Action Value) : Prop :=
  ∀ view, Restored manifestId view →
    Conforms (recordSpec manifestId) (fun _ after => Restored manifestId after) program view

variable {manifestId : String} {Value Result : Type}

theorem restoring_done (value : Value) : Restoring manifestId (.done value) :=
  fun _ restored => restored

theorem restoring_raised (error : PyError) :
    Restoring manifestId (.raised error : Action Value) :=
  fun _ restored => restored

theorem restoring_settle (outcome : Except PyError Value) :
    Restoring manifestId (.settle outcome) :=
  fun _ restored => (conforms_settle _ _ _).mpr restored

theorem Restoring.attempt {body : Action Value} {next : Except PyError Value → Action Result}
    (restores : Restoring manifestId body)
    (restoresNext : ∀ outcome, Restoring manifestId (next outcome)) :
    Restoring manifestId (body.attempt next) := by
  intro view restored
  rw [conforms_attempt]
  exact (restores view restored).mono (fun outcome after held => restoresNext outcome after held)

theorem Restoring.bind {body : Action Value} {next : Value → Action Result}
    (restores : Restoring manifestId body)
    (restoresNext : ∀ value, Restoring manifestId (next value)) :
    Restoring manifestId (body >>= next) := by
  apply restores.attempt
  intro outcome
  cases outcome with
  | ok value => exact restoresNext value
  | error error => exact restoring_raised error

/-- Operations that neither write a record nor compare-and-set. -/
def quietOp : EngineOp → Prop
  | .remember _ _ => False
  | .lifecycle (.compareAndSet _ _ _) => False
  | _ => True

theorem quiet_keeps_restored {op : EngineOp} (quiet : quietOp op) {view : RecordView}
    (restored : Restored manifestId view) (reply : Except PyError (EngineReply op)) :
    Restored manifestId (view.observe manifestId op reply) := by
  unfold RecordView.observe
  split
  · split
    · exact fun refused => absurd refused (by simp)
    · exact restored
  · exact quiet.elim
  · exact quiet.elim
  · exact restored

theorem restoring_perform (op : EngineOp) (quiet : quietOp op) :
    Restoring manifestId (perform op) :=
  fun _ restored => (conforms_perform _ _ _).mpr
    ⟨trivial, fun reply _ => quiet_keeps_restored quiet restored reply⟩

theorem restoring_after (op : EngineOp) (quiet : quietOp op) {next : EngineReply op → Action Result}
    (restoresNext : ∀ reply, Restoring manifestId (next reply)) :
    Restoring manifestId (perform op >>= next) :=
  (restoring_perform op quiet).bind restoresNext

/-! ### A transition -/

/-- The transition of the watched manifest has fetched its starting record. -/
structure Starting (record : LifecycleRecord) (view : RecordView) : Prop where
  held : view.held = some record
  cached : view.cached = some record
  unrefused : view.refused = false

/-- The record that was fetched, or nothing refused. -/
def StartExit (outcome : Except PyError LifecycleRecord) (after : RecordView) : Prop :=
  match outcome with
  | .ok record => Starting record after
  | .error _ => after.refused = false

/-- Writing a record while nothing is refused. -/
theorem remember_record {record : LifecycleRecord} {view : RecordView}
    (exit : Except PyError Unit → RecordView → Prop)
    (written : exit (.ok ()) (view.observe manifestId (.remember manifestId record) (.ok ()))) :
    Conforms (recordSpec manifestId) exit (perform (.remember manifestId record)) view := by
  refine (conforms_perform _ _ _).mpr ⟨trivial, fun reply steadily => ?_⟩
  cases reply with
  | error error => exact absurd (steadily rfl) (by simp [isError])
  | ok done => exact written

theorem remember_fresh_starts (state : LifecycleState) {view : RecordView}
    (missed : view.held = none) (unrefused : view.refused = false) :
    Conforms (recordSpec manifestId) StartExit (rememberFresh manifestId state) view := by
  refine Conforms.andThen (fun outcome after => isError outcome = false ∧
      Starting (.fresh manifestId state) after)
    (remember_record _ ⟨rfl, ?_⟩) (fun _ after held => held.2)
    (fun _ _ impossible => absurd impossible.1 (by simp [isError]))
  constructor <;> simp [RecordView.observe, missed, unrefused]

theorem hydrate_record_starts (context : EngineContext) {view : RecordView}
    (missed : view.held = none) (unrefused : view.refused = false) :
    Conforms (recordSpec manifestId) StartExit (hydrateRecord context manifestId) view := by
  unfold hydrateRecord
  by_cases configured : context.hasLifecycleStore = true
  · rw [if_pos configured]
    refine Conforms.andThen (fun _ after => after = view)
      ((conforms_perform _ _ _).mpr ⟨trivial, fun reply _ => rfl⟩)
      (fun stored after same => ?_) (fun _ after same => ?_)
    · subst same
      cases stored <;> exact remember_fresh_starts _ missed unrefused
    · subst same
      exact unrefused
  · rw [if_neg configured]
    exact remember_fresh_starts _ missed unrefused

theorem get_record_starts (context : EngineContext) (view : RecordView) :
    Conforms (recordSpec manifestId) StartExit (getRecord context manifestId) view := by
  refine Conforms.andThen
    (fun outcome after => isError outcome = false ∧ after.refused = false ∧
      ∀ found, outcome = .ok found → after.held = found ∧ after.cached = found)
    ((conforms_perform _ _ _).mpr ⟨trivial, fun reply steadily => ?_⟩)
    (fun found after held => ?_) (fun _ _ impossible => absurd impossible.1 (by simp [isError]))
  · cases reply with
    | error error => exact absurd (steadily rfl) (by simp [isError])
    | ok found =>
        refine ⟨rfl, by simp [recordSpec, RecordView.observe], ?_⟩
        intro value same
        cases same
        simp [recordSpec, RecordView.observe]
  · obtain ⟨_, unrefused, fetched⟩ := held
    obtain ⟨heldIs, cachedIs⟩ := fetched found rfl
    cases found with
    | some record => exact ⟨heldIs, cachedIs, unrefused⟩
    | none => exact hydrate_record_starts context heldIs unrefused

/-- The held record survives the durable write, and a refusal is reported as an
unavailable store. -/
def PersistExit (record : LifecycleRecord) (outcome : Except PyError Unit)
    (after : RecordView) : Prop :=
  after.held = some record ∧ match outcome with
    | .ok _ => after.refused = false
    | .error error => after.refused = true → error.isStoreUnavailable = true

theorem compare_and_set_reports {record : LifecycleRecord} (expected : Option LifecycleState)
    (target : LifecycleState) {refused : Action Unit} {view : RecordView}
    (held : view.held = some record)
    (refusal : ∀ current : RecordView, current.held = some record →
      Conforms (recordSpec manifestId) (PersistExit record) refused current) :
    Conforms (recordSpec manifestId) (PersistExit record)
      (compareAndSetOr manifestId expected target refused) view := by
  refine Conforms.andThen
    (fun outcome after => after.held = some record ∧ after.refused = isRefusal outcome)
    ((conforms_perform _ _ _).mpr ⟨trivial, fun reply _ => ?_⟩)
    (fun won after kept => ?_) (fun error after kept => ?_)
  · simp [recordSpec, RecordView.observe, held]
  · cases won with
    | true => exact kept
    | false => exact refusal after kept.1
  · exact ⟨kept.1, fun refused => absurd (kept.2.symm.trans refused) (by simp [isRefusal])⟩

theorem persist_reports (context : EngineContext) {record : LifecycleRecord}
    (fromState target : LifecycleState) {view : RecordView} (held : view.held = some record)
    (unrefused : view.refused = false) :
    Conforms (recordSpec manifestId) (PersistExit record)
      (persistLifecycle context manifestId fromState target) view := by
  have gives : ∀ (suffix : String) (current : RecordView), current.held = some record →
      Conforms (recordSpec manifestId) (PersistExit record)
        (.raised (compareAndSetFailed manifestId fromState target suffix)) current :=
    fun suffix _ kept =>
      ⟨kept, fun _ => compare_and_set_failed_is_unavailable manifestId suffix fromState target⟩
  unfold persistLifecycle
  by_cases configured : context.hasLifecycleStore = true
  · rw [if_pos configured]
    refine Conforms.andThen (fun _ after => after = view)
      ((conforms_perform _ _ _).mpr ⟨trivial, fun reply _ => rfl⟩)
      (fun stored after same => ?_) (fun error after same => ?_)
    · subst same
      by_cases first : stored = none ∧ fromState = .proposed
      · rw [if_pos first]
        exact compare_and_set_reports none target held (fun current kept =>
          compare_and_set_reports (some fromState) target kept (gives ""))
      · rw [if_neg first]
        exact compare_and_set_reports (some fromState) target held (gives _)
    · subst same
      exact ⟨held, fun refused => absurd (unrefused.symm.trans refused) (by simp)⟩
  · rw [if_neg configured]
    exact ⟨held, unrefused⟩

theorem roll_back_restores {record : LifecycleRecord} (target : LifecycleState)
    (note : TransitionNote) (error : PyError) {view : RecordView}
    (held : view.held = some record) :
    Conforms (recordSpec manifestId) (fun _ after => Restored manifestId after)
      (rollBack manifestId record target note error) view := by
  refine Conforms.andThen (fun _ after => Restored manifestId after)
    (remember_record _ (fun _ => ⟨record, ?_, ?_⟩))
    (fun _ after restored => ?_) (fun _ _ restored => restored)
  · simp [RecordView.observe, held]
  · simp [RecordView.observe]
  · exact restoring_after (.audit _) trivial (fun _ => restoring_raised error) after restored

theorem advance_restores (context : EngineContext) {record : LifecycleRecord}
    (advanced : LifecycleRecord) (target : LifecycleState) (note : TransitionNote)
    {view : RecordView} (starting : Starting record view) :
    Conforms (recordSpec manifestId) (fun _ after => Restored manifestId after)
      (advance context manifestId record advanced target note) view := by
  refine Conforms.andThen
    (fun outcome after => isError outcome = false ∧ after.held = some record ∧
      after.refused = false)
    (remember_record _ ⟨rfl, ?_, ?_⟩)
    (fun _ after kept => ?_) (fun _ _ impossible => absurd impossible.1 (by simp [isError]))
  · simp [RecordView.observe, starting.held]
  · simp [RecordView.observe, starting.unrefused]
  · refine Conforms.andThen (fun _ later => Restored manifestId later) ?_
      (fun _ later restored =>
        restoring_after (.audit _) trivial (fun _ => restoring_done advanced) later restored)
      (fun _ _ restored => restored)
    rw [conforms_rescue]
    apply (persist_reports context record.state target kept.2.1 kept.2.2).mono
    intro outcome later persisted
    cases outcome with
    | ok _ => exact fun refused => absurd (persisted.2.symm.trans refused) (by simp)
    | error error =>
        by_cases unavailable : error.isStoreUnavailable = true
        · simp only [unavailable, if_true]
          exact roll_back_restores target note error persisted.1
        · simp only [unavailable, Bool.false_eq_true, if_false]
          exact fun refused => absurd (persisted.2 refused) unavailable

theorem own_transition_restores (context : EngineContext) (target : LifecycleState)
    (note : TransitionNote) : Restoring manifestId (transition context manifestId target note) := by
  intro view _
  refine Conforms.andThen StartExit (get_record_starts context view)
    (fun record after starting => ?_) (fun _ after unrefused => ?_)
  · have fetched : Starting record after := starting
    refine Conforms.andThen (fun _ later => later = after)
      ((conforms_perform _ _ _).mpr ⟨trivial, fun reply _ => rfl⟩)
      (fun instant later same => ?_) (fun _ later same => ?_)
    · subst same
      cases record.transition target instant with
      | error error =>
          exact restoring_after (.audit _) trivial (fun _ => restoring_raised error) later
            (fun refused => absurd (fetched.unrefused.symm.trans refused) (by simp))
      | ok advanced => exact advance_restores context advanced target note fetched
    · subst same
      exact fun refused => absurd (fetched.unrefused.symm.trans refused) (by simp)
  · exact fun refused => absurd ((show after.refused = false from unrefused).symm.trans refused)
      (by simp)

/-- The records of another manifest are not touched. -/
theorem elsewhere_keeps_restored {context : EngineContext} {subject : String}
    {target : LifecycleState} (other : subject ≠ manifestId) {view : RecordView}
    (restored : Restored manifestId view) {op : EngineOp}
    (reply : Except PyError (EngineReply op)) (within : transitionOp context subject target op) :
    Restored manifestId (view.observe manifestId op reply) := by
  cases op with
  | remember written record =>
      obtain rfl : written = subject := within
      cases reply with
      | error error => exact restored
      | ok _ =>
          show Restored manifestId (if written = manifestId then _ else view)
          rw [if_neg other]
          exact restored
  | lifecycle inner =>
      cases inner with
      | get asked => exact restored
      | compareAndSet written expected newState =>
          obtain rfl : written = subject := within.2.1
          show Restored manifestId (if written = manifestId then _ else view)
          rw [if_neg other]
          exact restored
  | _ =>
      apply quiet_keeps_restored _ restored
      exact trivial

theorem elsewhere_restores {context : EngineContext} {subject : String} {target : LifecycleState}
    (other : subject ≠ manifestId) {program : Action Value}
    (uses : program.Uses (transitionOp context subject target)) :
    Restoring manifestId program :=
  fun _ restored => uses.conforms (fun _ _ _ _ => trivial)
    (fun _ _ reply kept within => elsewhere_keeps_restored other kept reply within) restored

theorem transition_restores (context : EngineContext) (subject : String) (target : LifecycleState)
    (note : TransitionNote) : Restoring manifestId (transition context subject target note) := by
  by_cases same : subject = manifestId
  · subst same
    exact own_transition_restores context target note
  · exact elsewhere_restores same (transition_uses context subject target note)

theorem get_record_restores (context : EngineContext) (subject : String) :
    Restoring manifestId (getRecord context subject) := by
  by_cases same : subject = manifestId
  · subst same
    intro view _
    apply (get_record_starts context view).mono
    intro outcome after started
    have unrefused : after.refused = false := by
      cases outcome with
      | ok record => exact Starting.unrefused started
      | error error => exact started
    exact fun refused => absurd (unrefused.symm.trans refused) (by simp)
  · exact elsewhere_restores same (get_record_uses context subject .proposed)

/-! ### The gates of a commit -/

section Gates

variable (context : EngineContext) (call : CommitCall)

theorem deny_restores (eventType decision : String) (error : PyError) :
    Restoring manifestId (deny call eventType decision error : Action Value) :=
  restoring_after (.audit _) trivial (fun _ => restoring_raised error)

theorem refusal_restores {condition : Prop} [Decidable condition] (eventType decision : String)
    (error : PyError) :
    Restoring manifestId
      (if condition then deny call eventType decision error else pure () : Action Unit) := by
  split
  · exact deny_restores call eventType decision error
  · exact restoring_done ()

theorem checked_restores (eventType : String) (check : Except PyError Unit) :
    Restoring manifestId (checked call eventType check) := by
  unfold checked
  split
  · exact restoring_done ()
  · split
    · exact deny_restores call _ _ _
    · exact restoring_raised _

theorem tenant_gate_restores (bundle : SealedPolicyBundle) :
    Restoring manifestId (tenantGate context call bundle) := by
  unfold tenantGate
  split
  · exact restoring_done ()
  · exact deny_restores call _ _ _

theorem policy_gate_restores : Restoring manifestId (policyGate context call) := by
  unfold policyGate
  split
  · exact deny_restores call _ _ _
  · refine restoring_after .now trivial (fun now => ?_)
    refine (checked_restores call _ _).bind (fun _ => ?_)
    split
    · exact deny_restores call _ _ _
    · exact tenant_gate_restores context call _
  · split
    · exact tenant_gate_restores context call _
    · exact restoring_done ()
  · exact restoring_done ()

theorem envelope_gate_restores : Restoring manifestId (envelopeGate context call) := by
  unfold envelopeGate
  split
  · exact restoring_done ()
  · exact deny_restores call _ _ _
  · refine restoring_after .now trivial (fun now => ?_)
    refine (checked_restores call _ _).bind (fun _ => ?_)
    split
    · exact deny_restores call _ _ _
    · exact checked_restores call _ _

theorem graph_gate_restores : Restoring manifestId (graphGate context call) := by
  unfold graphGate
  split
  · exact restoring_done ()
  · exact deny_restores call _ _ _
  · exact checked_restores call _ _

theorem registry_gate_restores : Restoring manifestId (registryGate context call) := by
  unfold registryGate
  split
  · refine restoring_after (.lookupAdapter _ _) trivial (fun entry => ?_)
    split
    · exact restoring_done ()
    · exact deny_restores call _ _ _
  · exact restoring_done ()

theorem revocation_gate_restores : Restoring manifestId (revocationGate call) :=
  restoring_after (.grants _) trivial (fun _ => refusal_restores call _ _ _)

theorem walk_restores (grantId : String) (maxDepth left : Nat) (current : String)
    (visited : List String) :
    Restoring manifestId (walkAncestors grantId maxDepth left current visited) := by
  induction left generalizing current visited with
  | zero => exact restoring_raised _
  | succ left ih =>
      unfold walkAncestors
      split
      · exact restoring_raised _
      · refine restoring_after (.grants _) trivial (fun revoked => ?_)
        split
        · exact restoring_raised _
        · have parents : Restoring manifestId (nextParent grantId current) := by
            refine restoring_after (.grants _) trivial (fun parent => ?_)
            split
            · exact restoring_done _
            · refine restoring_after (.grants _) trivial (fun known => ?_)
              split
              · exact restoring_done _
              · exact restoring_raised _
          refine parents.bind (fun parent => ?_)
          split
          · exact restoring_done _
          · exact ih _ _

theorem ancestor_gate_restores : Restoring manifestId (ancestorGate call) := by
  have walks : Restoring manifestId (assertNoRevokedAncestors call.grant maxDelegationDepth) := by
    unfold assertNoRevokedAncestors
    split
    · exact restoring_raised _
    · split
      · exact restoring_done _
      · exact walk_restores _ _ _ _ _
  refine walks.attempt (fun outcome => ?_)
  split
  · split
    · exact restoring_done ()
    · exact restoring_perform (.audit _) trivial
  · split
    · unfold ancestorRefused
      split <;> exact deny_restores call _ _ _
    · exact restoring_raised _

theorem gates_restore : Restoring manifestId (gates context call) := by
  refine (checked_restores call _ _).bind (fun _ => ?_)
  refine (restoring_after .now trivial (fun _ => checked_restores call _ _)).bind (fun _ => ?_)
  refine (refusal_restores call _ _ _).bind (fun _ => ?_)
  refine (policy_gate_restores context call).bind (fun _ => ?_)
  refine (envelope_gate_restores context call).bind (fun _ => ?_)
  refine (graph_gate_restores context call).bind (fun _ => ?_)
  refine (refusal_restores call _ _ _).bind (fun _ => ?_)
  refine (refusal_restores call _ _ _).bind (fun _ => ?_)
  refine (registry_gate_restores context call).bind (fun _ => ?_)
  refine (refusal_restores call _ _ _).bind (fun _ => ?_)
  refine (revocation_gate_restores call).bind (fun _ => ?_)
  exact ancestor_gate_restores call

end Gates

/-! ### The rest of a commit -/

section Commit

variable (context : EngineContext) (call : CommitCall) (hold : BudgetHold)

theorem reserve_budget_restores : Restoring manifestId (reserveBudget context call) := by
  unfold reserveBudget
  split
  · exact restoring_done _
  · have resolves : ∀ budgetId, Restoring manifestId (resolveAmount context call budgetId) := by
      intro budgetId
      have requires : Restoring manifestId (requireBudget context budgetId) := by
        unfold requireBudget
        split
        · exact restoring_perform (.budget _) trivial
        · exact restoring_raised _
      refine (requires.bind (fun _ => restoring_settle _)).attempt (fun outcome => ?_)
      split
      · exact restoring_done _
      · split
        · exact deny_restores call _ _ _
        · exact restoring_raised _
    refine (resolves _).bind (fun amount => ?_)
    refine restoring_after (.budget _) trivial (fun reserved => ?_)
    split
    · exact restoring_done _
    · exact restoring_after (.budget _) trivial (fun _ => deny_restores call _ _ _)

theorem release_budget_restores : Restoring manifestId (releaseBudget hold) := by
  unfold releaseBudget
  split
  · exact restoring_done ()
  · exact restoring_perform (.budget _) trivial

theorem reserve_grant_restores : Restoring manifestId (reserveGrant call hold) := by
  refine restoring_after (.grants _) trivial (fun reserved => ?_)
  split
  · exact restoring_done ()
  · exact (release_budget_restores hold).bind (fun _ => deny_restores call _ _ _)

theorem release_holds_restores : Restoring manifestId (releaseHolds call hold) :=
  restoring_after (.grants _) trivial (fun _ => release_budget_restores hold)

theorem enter_committing_restores : Restoring manifestId (enterCommitting context call hold) := by
  refine (transition_restores context _ _ _).attempt (fun outcome => ?_)
  split
  · exact restoring_done ()
  · exact (release_holds_restores call hold).bind (fun _ => restoring_raised _)

theorem record_outbox_restores : Restoring manifestId (recordOutbox context call hold) := by
  unfold recordOutbox
  split
  · refine restoring_after .now trivial (fun instant => ?_)
    refine (restoring_perform (.outbox _) trivial).attempt (fun outcome => ?_)
    split
    · exact restoring_done ()
    · split
      · exact (release_holds_restores call hold).bind (fun _ => deny_restores call _ _ _)
      · exact restoring_raised _
  · exact restoring_done ()

theorem abandon_outbox_restores : Restoring manifestId (abandonOutbox context call) := by
  unfold abandonOutbox
  split
  · exact restoring_perform (.outbox _) trivial
  · exact restoring_done ()

theorem confirm_outbox_restores (outcomeRef : String) :
    Restoring manifestId (confirmOutbox context call outcomeRef) := by
  unfold confirmOutbox
  split
  · refine restoring_after (.outbox _) trivial (fun existing => ?_)
    dsimp only
    split
    · exact restoring_perform (.outbox _) trivial
    · exact restoring_done ()
  · exact restoring_done ()

theorem fail_with_restores (eventType : String) (metadata : List (String × String)) :
    Restoring manifestId (failWith context call eventType metadata) :=
  (transition_restores context _ _ _).bind (fun _ => restoring_done ())

theorem replay_outcome_restores (existingOutcome : String) :
    Restoring manifestId (replayOutcome context call hold existingOutcome) := by
  refine (release_budget_restores hold).bind (fun _ => ?_)
  refine (confirm_outbox_restores context call _).bind (fun _ => ?_)
  refine restoring_after (.grants _) trivial (fun _ => ?_)
  exact (transition_restores context _ _ _).bind (fun _ => restoring_done _)

theorem check_preconditions_restores :
    Restoring manifestId (checkPreconditions context call hold) := by
  have cleans : ∀ (eventType : String) (metadata : List (String × String)) (error : PyError),
      Restoring manifestId (do
        releaseHolds call hold
        abandonOutbox context call
        failWith context call eventType metadata
        .raised error : Action Unit) := by
    intro eventType metadata error
    refine (release_holds_restores call hold).bind (fun _ => ?_)
    refine (abandon_outbox_restores context call).bind (fun _ => ?_)
    exact (fail_with_restores context call _ _).bind (fun _ => restoring_raised error)
  refine (restoring_perform (.adapter _ _) trivial).attempt (fun outcome => ?_)
  split
  · exact cleans _ _ _
  · split
    · exact restoring_done ()
    · exact cleans _ _ _

theorem settle_success_restores (result : CommitResult) :
    Restoring manifestId (settleSuccess context call hold result) := by
  have consumes : Restoring manifestId (consumeBudget hold) := by
    unfold consumeBudget
    split
    · exact restoring_done ()
    · exact restoring_perform (.budget _) trivial
  refine consumes.bind (fun _ => ?_)
  refine (confirm_outbox_restores context call _).bind (fun _ => ?_)
  refine restoring_after (.grants _) trivial (fun _ => ?_)
  exact (transition_restores context _ _ _).bind (fun _ => restoring_done result)

theorem invoke_adapter_restores : Restoring manifestId (invokeAdapter context call hold) := by
  refine (restoring_perform (.adapter _ _) trivial).attempt (fun outcome => ?_)
  split
  · refine (release_holds_restores call hold).bind (fun _ => ?_)
    exact (fail_with_restores context call _ _).bind (fun _ => restoring_raised _)
  · split
    · exact settle_success_restores context call hold _
    · refine (release_holds_restores call hold).bind (fun _ => ?_)
      refine (abandon_outbox_restores context call).bind (fun _ => ?_)
      exact (fail_with_restores context call _ _).bind (fun _ => restoring_done _)

theorem commit_restores : Restoring manifestId (commit context call) := by
  refine (gates_restore context call).bind (fun _ => ?_)
  refine (reserve_budget_restores context call).bind (fun hold => ?_)
  refine (reserve_grant_restores call hold).bind (fun _ => ?_)
  refine (enter_committing_restores context call hold).bind (fun _ => ?_)
  refine (record_outbox_restores context call hold).bind (fun _ => ?_)
  refine restoring_after (.grants _) trivial (fun known => ?_)
  split
  · exact replay_outcome_restores context call hold _
  · exact (check_preconditions_restores context call hold).bind
      (fun _ => invoke_adapter_restores context call hold)

end Commit

/-! ### The other calls -/

section Others

variable (context : EngineContext)

theorem recover_restores (call : RecoveryCall) :
    Restoring manifestId (recoverAmbiguousCommit context call) := by
  refine restoring_after (.adapter _ _) trivial (fun proof => ?_)
  refine restoring_after (.audit _) trivial (fun _ => ?_)
  split
  · refine restoring_after (.grants _) trivial (fun _ => ?_)
    have confirms : ∀ key outcomeRef, Restoring manifestId
        (confirmRecovered context key outcomeRef) := by
      intro key outcomeRef
      unfold confirmRecovered
      split
      · refine restoring_after (.outbox _) trivial (fun pending => ?_)
        split
        · exact restoring_perform (.outbox _) trivial
        · exact restoring_done ()
      · exact restoring_done ()
    refine (confirms _ _).bind (fun _ => ?_)
    refine Restoring.bind ?_ (fun _ => restoring_done proof)
    refine (get_record_restores context _).bind (fun record => ?_)
    split
    · exact (transition_restores context _ _ _).bind (fun _ => restoring_done ())
    · exact restoring_done ()
  · exact restoring_done proof

theorem revoke_restores (call : RevokeCall) :
    Restoring manifestId (Engine.revoke context call) := by
  refine restoring_after (.grants _) trivial (fun _ => ?_)
  refine (get_record_restores context _).bind (fun record => ?_)
  split
  · exact (transition_restores context _ _ _).bind (fun _ => restoring_done true)
  · exact restoring_after (.audit _) trivial (fun _ => restoring_done false)

variable (call : CompensationCall)

theorem compensation_gates_restore : Restoring manifestId (compensationGates context call) := by
  refine (restoring_settle _).bind (fun _ => ?_)
  refine Restoring.bind ?binding (fun _ => ?_)
  case binding =>
    unfold bindingGate
    split
    · exact restoring_done ()
    · split
      · exact deny_restores call.asCommit _ _ _
      · exact restoring_raised _
  refine Restoring.bind ?seals (fun _ => ?_)
  case seals =>
    unfold compensationSealGate
    split
    · exact restoring_after .now trivial (fun _ => checked_restores call.asCommit _ _)
    · exact checked_restores call.asCommit _ _
  refine (refusal_restores call.asCommit _ _ _).bind (fun _ => ?_)
  refine Restoring.bind ?policy (fun _ => ?_)
  case policy =>
    unfold compensationPolicyGate
    split
    · exact restoring_done ()
    · exact deny_restores call.asCommit _ _ _
    · refine restoring_after .now trivial (fun now => ?_)
      exact (checked_restores call.asCommit _ _).bind
        (fun _ => refusal_restores call.asCommit _ _ _)
  refine (refusal_restores call.asCommit _ _ _).bind (fun _ => ?_)
  refine (refusal_restores call.asCommit _ _ _).bind (fun _ => ?_)
  refine Restoring.bind ?registry (fun _ => ?_)
  case registry =>
    unfold compensationRegistryGate
    split
    · refine restoring_after (.lookupAdapter _ _) trivial (fun entry => ?_)
      split
      · exact restoring_done ()
      · exact deny_restores call.asCommit _ _ _
    · exact restoring_done ()
  refine (refusal_restores call.asCommit _ _ _).bind (fun _ => ?_)
  refine (revocation_gate_restores call.asCommit).bind (fun _ => ?_)
  refine restoring_after (.grants _) trivial (fun reserved => ?_)
  split
  · exact restoring_done ()
  · exact deny_restores call.asCommit _ _ _

theorem enter_compensating_restores (originalState : LifecycleState) :
    Restoring manifestId (enterCompensating context call originalState) := by
  unfold enterCompensating
  split
  · refine (transition_restores context _ _ _).attempt (fun outcome => ?_)
    split
    · exact restoring_done ()
    · exact restoring_after (.grants _) trivial (fun _ => restoring_raised _)
  · exact restoring_done ()

theorem settle_compensation_restores (originalState : LifecycleState)
    (result : CompensationResult) :
    Restoring manifestId (settleCompensation context call originalState result) := by
  refine (transition_restores context _ _ _).bind (fun _ => ?_)
  refine Restoring.bind ?_ (fun _ => restoring_done _)
  unfold settleOriginal
  split
  · exact (transition_restores context _ _ _).bind (fun _ => restoring_done ())
  · split
    · exact (transition_restores context _ _ _).bind (fun _ => restoring_done ())
    · exact restoring_done ()

theorem commit_compensation_restores :
    Restoring manifestId (commitCompensation context call) := by
  refine (compensation_gates_restore context call).bind (fun _ => ?_)
  refine (get_record_restores context _).bind (fun original => ?_)
  refine (enter_compensating_restores context call _).bind (fun _ => ?_)
  refine Restoring.attempt ?_ (fun outcome => ?_)
  · refine (transition_restores context _ _ _).bind (fun _ => ?_)
    refine restoring_after (.adapter _ _) trivial (fun result => ?_)
    exact restoring_after (.grants _) trivial (fun _ => restoring_done result)
  · split
    · exact settle_compensation_restores context call _ _
    · refine restoring_after (.grants _) trivial (fun _ => ?_)
      exact (transition_restores context _ _ _).bind (fun _ => restoring_raised _)

/-- Whatever call is made, a refused compare-and-set leaves the cache as the
transition found it. -/
theorem call_restores (anyCall : EngineCall) :
    Restoring manifestId (anyCall.program context) := by
  cases anyCall with
  | commit inner => exact (commit_restores context inner).bind (fun _ => restoring_done _)
  | move subject target note =>
      exact (transition_restores context subject target note).bind (fun _ => restoring_done _)
  | recover inner => exact (recover_restores context inner).bind (fun _ => restoring_done _)
  | revoke inner => exact (revoke_restores context inner).bind (fun _ => restoring_done _)
  | compensate inner =>
      exact (commit_compensation_restores context inner).bind (fun _ => restoring_done _)

end Others

end KarmaSakshi.Engine
