import KarmaSakshi.Domain.Saga

/-!
The shape of saga runs.

A run walks forward over its steps: verified before the cursor, pending after it.
A failure turns it around, and the compensation cursor walks back to the first
step.  `Moves` says once what the marking functions do to a run of that shape.
-/

namespace KarmaSakshi.Domain

set_option autoImplicit false

/-! ### Steps and their places -/

/-- What no transition changes about a step. -/
def SagaStepRecord.sameStep (step other : SagaStepRecord) : Prop :=
  other.manifestHash = step.manifestHash ∧ other.index = step.index

/-- The effect of the step is on record: committed, or verified as well. -/
def SagaStepRecord.isSettled (step : SagaStepRecord) : Prop :=
  step.status = .committed ∨ step.status = .verified

instance (step : SagaStepRecord) : Decidable step.isSettled :=
  inferInstanceAs (Decidable (_ ∨ _))

/-- The outcome of compensating the step is on record. -/
def SagaStepRecord.isRecorded (step : SagaStepRecord) : Prop :=
  step.compensationStatus.map SagaRun.compensatedStatus = some step.status

namespace SagaRun

/-- The steps are those of the plan, each at its own index. -/
structure FollowsPlan (run : SagaRun) : Prop where
  indexed : ∀ {index : Nat} {step : SagaStepRecord}, run.steps[index]? = some step →
    step.index = index
  hashes : run.steps.map SagaStepRecord.manifestHash = run.plan.stepManifestHashes

section Places

variable {run next : SagaRun} {index other : Nat} {step revised : SagaStepRecord}
  {manifestHash : String}

theorem FollowsPlan.unique (follows : run.FollowsPlan) {otherStep : SagaStepRecord}
    (here : run.steps[index]? = some step) (there : run.steps[other]? = some otherStep)
    (same : step.manifestHash = otherStep.manifestHash) : index = other := by
  have distinct : (run.steps.map SagaStepRecord.manifestHash).Nodup := by
    rw [follows.hashes]
    exact run.plan.stepsDistinct
  have inside : index < (run.steps.map SagaStepRecord.manifestHash).length := by
    rw [List.length_map]
    exact (List.getElem?_eq_some_iff.mp here).1
  apply (List.getElem?_inj inside distinct).mp
  rw [List.getElem?_map, List.getElem?_map, here, there]
  exact congrArg some same

theorem FollowsPlan.step_of (follows : run.FollowsPlan)
    (found : run.stepOf manifestHash = some step) :
    run.steps[step.index]? = some step ∧ step.manifestHash = manifestHash := by
  obtain ⟨index, here⟩ := List.mem_iff_getElem?.mp (List.mem_of_find?_eq_some found)
  have named := List.find?_some found
  rw [decide_eq_true_eq] at named
  rw [follows.indexed here]
  exact ⟨here, named⟩

/-- The step at an index is the one found by its hash. -/
theorem FollowsPlan.step_at (follows : run.FollowsPlan) (here : run.steps[index]? = some step) :
    run.stepOf step.manifestHash = some step := by
  cases found : run.stepOf step.manifestHash with
  | none =>
      have absent := List.find?_eq_none.mp found step (List.mem_of_getElem? here)
      simp at absent
  | some first =>
      obtain ⟨there, same⟩ := follows.step_of found
      rw [follows.unique there here same, here] at there
      exact there.symm

theorem replaced_step {steps : List SagaStepRecord} (here : steps[index]? = some step) :
    (steps.set index revised)[other]? =
      if index = other then some revised else steps[other]? := by
  rw [List.getElem?_set, if_pos (List.getElem?_eq_some_iff.mp here).1]

theorem FollowsPlan.replaced (follows : run.FollowsPlan) (here : run.steps[index]? = some step)
    (same : step.sameStep revised) (steps : next.steps = run.steps.set index revised)
    (plan : next.plan = run.plan) : next.FollowsPlan := by
  constructor
  · intro other found there
    rw [steps, replaced_step here] at there
    by_cases replaced : index = other
    · rw [if_pos replaced] at there
      rw [← Option.some.inj there, same.2, follows.indexed here, replaced]
    · rw [if_neg replaced] at there
      exact follows.indexed there
  · rw [steps, plan, ← follows.hashes]
    apply List.ext_getElem?
    intro other
    rw [List.getElem?_map, List.getElem?_map, replaced_step here]
    by_cases replaced : index = other
    · rw [if_pos replaced, ← replaced, here]
      exact congrArg some same.1
    · rw [if_neg replaced]

theorem FollowsPlan.committed_indices (follows : run.FollowsPlan) :
    index ∈ run.committedIndices ↔ ∃ step, run.steps[index]? = some step ∧ step.isSettled := by
  rw [committedIndices, List.mem_map]
  constructor
  · rintro ⟨step, member, rfl⟩
    obtain ⟨inside, settled⟩ := List.mem_filter.mp member
    obtain ⟨place, here⟩ := List.mem_iff_getElem?.mp inside
    rw [follows.indexed here]
    exact ⟨step, here, decide_eq_true_eq.mp settled⟩
  · rintro ⟨step, here, settled⟩
    refine ⟨step, List.mem_filter.mpr ⟨List.mem_of_getElem? here, ?_⟩, follows.indexed here⟩
    exact decide_eq_true_eq.mpr settled

end Places

/-! ### The phases of a run -/

/-- Steps before the cursor, the step at it, and pending steps after it. -/
structure Around (run : SagaRun) (before : Nat → SagaStepRecord → Prop)
    (here : SagaStepStatus → Prop) : Prop where
  before : ∀ {index : Nat} {step : SagaStepRecord}, run.steps[index]? = some step →
    index < run.cursor → before index step
  here : ∀ {step : SagaStepRecord}, run.steps[run.cursor]? = some step → here step.status
  pending : ∀ {index : Nat} {step : SagaStepRecord}, run.steps[index]? = some step →
    run.cursor < index → step.status = .pending

def verifiedBefore (_ : Nat) (step : SagaStepRecord) : Prop := step.status = .verified

/-- The walk back: verified up to the compensation cursor, recorded above it. -/
def walkedTo (top index : Nat) (step : SagaStepRecord) : Prop :=
  if index ≤ top then step.status = .verified else step.isRecorded

inductive Phase (run : SagaRun) : Prop where
  | running (status : run.status = .running) (cursor : run.cursor < run.steps.length)
      (around : run.Around verifiedBefore
        (fun here => here = .ready ∨ here = .authorized ∨ here = .committed))
  | awaiting (status : run.status = .awaitingRecovery) (cursor : run.cursor < run.steps.length)
      (around : run.Around verifiedBefore (fun here => here = .ambiguous))
  | completed (status : run.status = .completed) (cursor : run.cursor = run.steps.length)
      (around : run.Around verifiedBefore (fun _ => True))
  | aborted (status : run.status = .aborted) (cursor : run.cursor = 0)
      (around : run.Around verifiedBefore (fun here => here = .failed))
  | compensating (top : Nat) (status : run.status = .compensating) (below : top < run.cursor)
      (cursor : run.cursor < run.steps.length) (walk : run.compensationCursor = some top)
      (around : run.Around (walkedTo top) (fun here => here = .failed))
  | finished (status : run.status = .failedPartial) (walk : run.compensationCursor = none)
      (around : run.Around (fun _ step => step.isRecorded) (fun here => here = .failed))

structure Shape (run : SagaRun) : Prop where
  plan : run.FollowsPlan
  phase : run.Phase

end SagaRun

open SagaRun

/-- The run that is stored first has the shape. -/
theorem fresh_run_shape (plan : SagaPlan) (runId : String) :
    Shape { buildSagaRun plan runId with status := .running } := by
  have steps : ∀ {index : Nat} {step : SagaStepRecord},
      (plan.stepManifestHashes.mapIdx freshStep)[index]? = some step →
        ∃ manifestHash, step = freshStep index manifestHash := by
    intro index step here
    rw [List.getElem?_mapIdx] at here
    obtain ⟨manifestHash, _, same⟩ := Option.map_eq_some_iff.mp here
    exact ⟨manifestHash, same.symm⟩
  constructor
  · constructor
    · intro index step here
      obtain ⟨manifestHash, rfl⟩ := steps here
      rfl
    · apply List.ext_getElem?
      intro index
      show ((plan.stepManifestHashes.mapIdx freshStep).map SagaStepRecord.manifestHash)[index]? =
        plan.stepManifestHashes[index]?
      rw [List.getElem?_map, List.getElem?_mapIdx, Option.map_map]
      exact Option.map_id_apply
  · apply Phase.running rfl
    · show 0 < (plan.stepManifestHashes.mapIdx freshStep).length
      rw [List.length_mapIdx]
      exact List.length_pos_iff.mpr plan.stepsNonempty
    · constructor
      · intro index step here before
        exact absurd before (Nat.not_lt_zero index)
      · intro step here
        obtain ⟨manifestHash, rfl⟩ := steps here
        exact Or.inl rfl
      · intro index step here after
        obtain ⟨manifestHash, rfl⟩ := steps here
        exact if_neg (Nat.pos_iff_ne_zero.mp after)

/-! ### What the transitions do -/

/-- The transitions by name, with the manifest they are asked for and whether they
fail its step. -/
inductive Advances (run : SagaRun) (manifestHash : String) (next : SagaRun) :
    (fails : Bool) → Prop where
  | authorized (grantId : String) (marked : run.markStepAuthorized manifestHash grantId = .ok next) :
      Advances run manifestHash next false
  | reported (detail : Option String)
      (marked : run.markStepAmbiguous manifestHash detail = .ok next) :
      Advances run manifestHash next false
  | committed (reference detail : Option String)
      (marked : run.markStepCommitted manifestHash true reference detail = .ok next) :
      Advances run manifestHash next false
  | failed (detail : Option String) (index : Nat)
      (checked : run.assertCanCommitStep manifestHash = .ok index)
      (marked : run.markStepFailed manifestHash detail = .ok next) :
      Advances run manifestHash next true
  | recovered (reference detail : Option String) (index : Nat)
      (checked : run.assertCanRecoverStep manifestHash = .ok index)
      (marked : (run.retried manifestHash).markStepCommitted manifestHash true reference detail =
        .ok next) : Advances run manifestHash next false
  | unrecovered (detail : Option String) (index : Nat)
      (checked : run.assertCanRecoverStep manifestHash = .ok index)
      (marked : run.markStepFailed manifestHash detail = .ok next) :
      Advances run manifestHash next true
  | verified (marked : run.markStepVerified manifestHash = .ok next) :
      Advances run manifestHash next false
  | compensated (status : CompensationStatus) (detail : Option String)
      (marked : run.markCompensationResult manifestHash status detail = .ok next) :
      Advances run manifestHash next false

/-- The moves of the cursor step that keep the run going forward. -/
inductive Turn : SagaRunStatus → SagaStepStatus → SagaRunStatus → SagaStepStatus → Prop where
  | authorize : Turn .running .ready .running .authorized
  | commit : Turn .running .authorized .running .committed
  | doubt : Turn .running .authorized .awaitingRecovery .ambiguous
  | recover : Turn .awaitingRecovery .ambiguous .running .committed

/-- The steps that can fail. -/
inductive CanFail : SagaRunStatus → SagaStepStatus → Prop where
  | authorized : CanFail .running .authorized
  | ambiguous : CanFail .awaitingRecovery .ambiguous

/-- `count` steps are left to compensate. -/
def turnsBack (count : Nat) (ended : SagaRunStatus) (next : SagaRun) : Prop :=
  match count with
  | 0 => next.status = ended
  | top + 1 => next.status = .compensating ∧ next.compensationCursor = some top

/-- A step of the run is replaced by a revised form of itself. -/
structure Revises (run next : SagaRun) (index : Nat) (manifestHash : String)
    (step revised : SagaStepRecord) : Prop where
  here : run.steps[index]? = some step
  named : step.manifestHash = manifestHash
  same : step.sameStep revised
  plan : next.plan = run.plan

inductive Moves (run : SagaRun) (manifestHash : String) (next : SagaRun) :
    (fails : Bool) → Prop where
  | turned {step revised : SagaStepRecord}
      (revises : Revises run next run.cursor manifestHash step revised)
      (turn : Turn run.status step.status next.status revised.status)
      (steps : next.steps = run.steps.set run.cursor revised) (cursor : next.cursor = run.cursor) :
      Moves run manifestHash next false
  | verified {step revised : SagaStepRecord}
      (revises : Revises run next run.cursor manifestHash step revised)
      (running : run.status = .running) (committed : step.status = .committed)
      (done : revised.status = .verified) (cursor : next.cursor = run.cursor + 1)
      (onward : (next.status = .completed ∧ run.steps.length = run.cursor + 1 ∧
          next.steps = run.steps.set run.cursor revised) ∨
        ∃ following, run.steps[run.cursor + 1]? = some following ∧ next.status = .running ∧
          next.steps = (run.steps.set run.cursor revised).set (run.cursor + 1)
            { following with status := .ready }) : Moves run manifestHash next false
  | failed {step revised : SagaStepRecord}
      (revises : Revises run next run.cursor manifestHash step revised)
      (live : CanFail run.status step.status) (done : revised.status = .failed)
      (steps : next.steps = run.steps.set run.cursor revised) (cursor : next.cursor = run.cursor)
      (back : turnsBack run.cursor .aborted next) : Moves run manifestHash next true
  | compensated {top : Nat} {step revised : SagaStepRecord}
      (revises : Revises run next top manifestHash step revised)
      (compensating : run.status = .compensating) (walk : run.compensationCursor = some top)
      (recorded : revised.isRecorded) (steps : next.steps = run.steps.set top revised)
      (cursor : next.cursor = run.cursor)
      (back : turnsBack top .failedPartial next)
      (ended : top = 0 → next.compensationCursor = none) : Moves run manifestHash next false

section Moving

variable {run next : SagaRun} {step : SagaStepRecord} {manifestHash : String} {index : Nat}

theorem recorded_status (recorded : step.isRecorded) :
    step.status = .compensated ∨ step.status = .compensationRefused ∨
      step.status = .compensationFailed := by
  rw [SagaStepRecord.isRecorded] at recorded
  obtain ⟨status, _, same⟩ := Option.map_eq_some_iff.mp recorded
  rw [← same]
  cases status <;> simp [compensatedStatus]

/-- The cursor step of a run that can still move forward. -/
theorem SagaRun.Phase.here_status (phase : run.Phase)
    (here : run.steps[run.cursor]? = some step) :
    (run.status = .running ∧
        (step.status = .ready ∨ step.status = .authorized ∨ step.status = .committed)) ∨
      (run.status = .awaitingRecovery ∧ step.status = .ambiguous) ∨ step.status = .failed := by
  cases phase with
  | running status cursor around => exact Or.inl ⟨status, around.here here⟩
  | awaiting status cursor around => exact Or.inr (Or.inl ⟨status, around.here here⟩)
  | completed status cursor around =>
      have inside := (List.getElem?_eq_some_iff.mp here).1
      omega
  | aborted status cursor around => exact Or.inr (Or.inr (around.here here))
  | compensating top status below cursor walk around => exact Or.inr (Or.inr (around.here here))
  | finished status walk around => exact Or.inr (Or.inr (around.here here))

/-- Away from the cursor a step is verified, recorded or pending. -/
theorem SagaRun.Phase.away_status (phase : run.Phase) (there : run.steps[index]? = some step)
    (away : index ≠ run.cursor) :
    step.status = .verified ∨ step.isRecorded ∨ step.status = .pending := by
  have sides : index < run.cursor ∨ run.cursor < index := Nat.lt_or_gt_of_ne away
  cases phase with
  | running status cursor around =>
      exact sides.elim (fun before => Or.inl (around.before there before))
        (fun after => Or.inr (Or.inr (around.pending there after)))
  | awaiting status cursor around =>
      exact sides.elim (fun before => Or.inl (around.before there before))
        (fun after => Or.inr (Or.inr (around.pending there after)))
  | completed status cursor around =>
      exact sides.elim (fun before => Or.inl (around.before there before))
        (fun after => Or.inr (Or.inr (around.pending there after)))
  | aborted status cursor around =>
      exact sides.elim (fun before => Or.inl (around.before there before))
        (fun after => Or.inr (Or.inr (around.pending there after)))
  | compensating top status below cursor walk around =>
      rcases sides with before | after
      · have walked := around.before there before
        by_cases reached : index ≤ top
        · rw [walkedTo, if_pos reached] at walked
          exact Or.inl walked
        · rw [walkedTo, if_neg reached] at walked
          exact Or.inr (Or.inl walked)
      · exact Or.inr (Or.inr (around.pending there after))
  | finished status walk around =>
      exact sides.elim (fun before => Or.inr (Or.inl (around.before there before)))
        (fun after => Or.inr (Or.inr (around.pending there after)))

/-- A live step is the cursor step. -/
theorem SagaRun.Phase.live_is_here (phase : run.Phase) (there : run.steps[index]? = some step)
    (live : step.status = .committed ∨ step.status = .ambiguous) : index = run.cursor := by
  by_contra away
  rcases phase.away_status there away with verified | recorded | pending
  · rw [verified] at live
    simp at live
  · rcases recorded_status recorded with same | same | same <;> rw [same] at live <;> simp at live
  · rw [pending] at live
    simp at live

theorem can_commit (checked : run.assertCanCommitStep manifestHash = .ok index) :
    index = run.cursor ∧ ∃ step, run.steps[run.cursor]? = some step ∧
      step.manifestHash = manifestHash ∧ step.status = .authorized := by
  unfold assertCanCommitStep at checked
  cases here : run.steps[run.cursor]? with
  | none =>
      simp only [here] at checked
      cases checked
  | some step =>
      simp only [here] at checked
      by_cases named : step.manifestHash = manifestHash
      · rw [if_neg (not_not_intro named)] at checked
        by_cases doubtful : step.status = .ambiguous ∨ step.ambiguous = true
        · rw [if_pos doubtful] at checked
          cases checked
        · rw [if_neg doubtful] at checked
          by_cases refuses : run.refusesCommits
          · rw [if_pos refuses] at checked
            cases checked
          · rw [if_neg refuses] at checked
            by_cases ready : step.status = .authorized
            · rw [if_neg (not_not_intro ready)] at checked
              exact ⟨(Except.ok.inj checked).symm, step, rfl, named, ready⟩
            · rw [if_pos ready] at checked
              cases checked
      · rw [if_pos named] at checked
        cases checked

theorem can_recover (checked : run.assertCanRecoverStep manifestHash = .ok index) :
    run.status = .awaitingRecovery ∧ ∃ step, run.stepOf manifestHash = some step ∧
      step.status = .ambiguous := by
  unfold assertCanRecoverStep at checked
  by_cases awaiting : run.status = .awaitingRecovery
  · rw [if_neg (not_not_intro awaiting)] at checked
    cases found : run.stepOf manifestHash with
    | none =>
        simp only [found] at checked
        cases checked
    | some step =>
        simp only [found] at checked
        by_cases ambiguous : step.status = .ambiguous
        · exact ⟨awaiting, step, rfl, ambiguous⟩
        · rw [if_pos ambiguous] at checked
          cases checked
  · rw [if_pos awaiting] at checked
    cases checked

/-- The greatest of the numbers below a bound. -/
theorem max_below {numbers : List Nat} {bound : Nat}
    (members : ∀ number, number ∈ numbers ↔ number < bound) :
    numbers.max? = match bound with
      | 0 => none
      | top + 1 => some top := by
  cases bound with
  | zero =>
      rw [List.max?_eq_none_iff, List.eq_nil_iff_forall_not_mem]
      intro number member
      exact absurd ((members number).mp member) (Nat.not_lt_zero number)
  | succ top =>
      rw [List.max?_eq_some_iff]
      refine ⟨(members top).mpr (Nat.lt_succ_self top), ?_⟩
      intro number member
      exact Nat.le_of_lt_succ ((members number).mp member)

/-- Among steps settled exactly below a bound, the walk back starts just below it. -/
theorem committed_below {bound : Nat} (follows : run.FollowsPlan)
    (inside : bound ≤ run.steps.length)
    (settled : ∀ {index : Nat} {step : SagaStepRecord}, run.steps[index]? = some step →
      (step.isSettled ↔ index < bound)) : index ∈ run.committedIndices ↔ index < bound := by
  rw [follows.committed_indices]
  constructor
  · rintro ⟨step, here, isSettled⟩
    exact (settled here).mp isSettled
  · intro below
    have here := List.getElem?_eq_getElem (Nat.lt_of_lt_of_le below inside)
    exact ⟨_, here, (settled here).mpr below⟩

theorem start_turns_back {bound : Nat}
    (members : ∀ index, index ∈ run.committedIndices ↔ index < bound) :
    turnsBack bound .aborted run.startCompensation := by
  have top := max_below members
  cases bound with
  | zero =>
      rw [startCompensation, top]
      rfl
  | succ lower =>
      rw [startCompensation, top]
      exact ⟨rfl, rfl⟩

theorem lower_turns_back {bound : Nat} (compensating : run.status = .compensating)
    (members : ∀ index, index ∈ run.committedIndices.filter (fun other => other < bound) ↔
      index < bound) :
    turnsBack bound .failedPartial (run.lowerCursor bound) ∧
      (bound = 0 → (run.lowerCursor bound).compensationCursor = none) := by
  have top := max_below members
  cases bound with
  | zero =>
      rw [lowerCursor, top]
      exact ⟨rfl, fun _ => rfl⟩
  | succ lower =>
      rw [lowerCursor, top]
      exact ⟨⟨compensating, rfl⟩, fun impossible => by cases impossible⟩

theorem failed_step_turns_back {failed : SagaStepRecord} (follows : run.FollowsPlan)
    (around : run.Around verifiedBefore (fun _ => True))
    (here : run.steps[run.cursor]? = some step) (same : step.sameStep failed)
    (done : failed.status = .failed) :
    turnsBack run.cursor .aborted (run.replaceStep run.cursor failed).startCompensation := by
  have replaced : (run.replaceStep run.cursor failed).FollowsPlan :=
    follows.replaced here same rfl rfl
  have inside := (List.getElem?_eq_some_iff.mp here).1
  have members : ∀ index, index ∈ (run.replaceStep run.cursor failed).committedIndices ↔
      index < run.cursor := by
    intro index
    apply committed_below replaced
    · show run.cursor ≤ (run.steps.set run.cursor failed).length
      rw [List.length_set]
      exact Nat.le_of_lt inside
    · intro index other there
      replace there : (run.steps.set run.cursor failed)[index]? = some other := there
      rw [replaced_step here] at there
      rcases Nat.lt_trichotomy index run.cursor with before | isHere | after
      · rw [if_neg (Nat.ne_of_gt before)] at there
        exact iff_of_true (Or.inr (around.before there before)) before
      · rw [if_pos isHere.symm] at there
        rw [← Option.some.inj there, SagaStepRecord.isSettled, done]
        simp [isHere]
      · rw [if_neg (Nat.ne_of_lt after)] at there
        rw [SagaStepRecord.isSettled, around.pending there after]
        simp [Nat.not_lt_of_gt after]
  exact start_turns_back members

theorem recorded_step_lowers {top : Nat} {recorded : SagaStepRecord} (follows : run.FollowsPlan)
    (around : run.Around (walkedTo top) (fun here => here = .failed)) (below : top < run.cursor)
    (inside : run.cursor < run.steps.length) (compensating : run.status = .compensating)
    (here : run.steps[top]? = some step) (same : step.sameStep recorded) :
    turnsBack top .failedPartial ((run.replaceStep top recorded).lowerCursor top) ∧
      (top = 0 → ((run.replaceStep top recorded).lowerCursor top).compensationCursor = none) := by
  have replaced : (run.replaceStep top recorded).FollowsPlan :=
    follows.replaced here same rfl rfl
  have members : ∀ index, index ∈ (run.replaceStep top recorded).committedIndices.filter
      (fun other => other < top) ↔ index < top := by
    intro index
    rw [List.mem_filter, decide_eq_true_eq]
    constructor
    · exact And.right
    · intro lower
      refine ⟨replaced.committed_indices.mpr ?_, lower⟩
      have there := List.getElem?_eq_getElem (Nat.lt_trans (Nat.lt_trans lower below) inside)
      have walked := around.before there (Nat.lt_trans lower below)
      rw [walkedTo, if_pos (Nat.le_of_lt lower)] at walked
      refine ⟨_, ?_, Or.inr walked⟩
      show (run.steps.set top recorded)[index]? = _
      rw [replaced_step here, if_neg (Nat.ne_of_gt lower)]
      exact there
  exact lower_turns_back compensating members

theorem SagaRun.Around.weaken {before : Nat → SagaStepRecord → Prop}
    {here : SagaStepStatus → Prop} (around : run.Around before here) :
    run.Around before (fun _ => True) :=
  ⟨around.before, fun _ => trivial, around.pending⟩

/-- A live run has verified steps before its cursor. -/
theorem SagaRun.Phase.live_around (phase : run.Phase)
    (live : run.status = .running ∨ run.status = .awaitingRecovery) :
    run.Around verifiedBefore (fun _ => True) := by
  cases phase with
  | running status cursor around => exact around.weaken
  | awaiting status cursor around => exact around.weaken
  | completed status cursor around => exact around
  | aborted status cursor around => exact around.weaken
  | compensating top status below cursor walk around =>
      rw [status] at live
      simp at live
  | finished status walk around =>
      rw [status] at live
      simp at live

theorem SagaRun.Shape.authorized_is_running (shape : run.Shape)
    (here : run.steps[run.cursor]? = some step) (authorized : step.status = .authorized) :
    run.status = .running := by
  rcases shape.phase.here_status here with ⟨running, _⟩ | ⟨_, ambiguous⟩ | failed
  · exact running
  · rw [authorized] at ambiguous
    cases ambiguous
  · rw [authorized] at failed
    cases failed

theorem CanFail.alive {runStatus : SagaRunStatus} {stepStatus : SagaStepStatus}
    (live : CanFail runStatus stepStatus) :
    runStatus = .running ∨ runStatus = .awaitingRecovery := by
  cases live with
  | authorized => exact Or.inl rfl
  | ambiguous => exact Or.inr rfl

theorem Turn.alive {runStatus nextStatus : SagaRunStatus} {old new : SagaStepStatus}
    (turn : Turn runStatus old nextStatus new) :
    runStatus = .running ∨ runStatus = .awaitingRecovery := by
  cases turn <;> simp

/-- The states a turn leads to. -/
theorem Turn.advanced {runStatus nextStatus : SagaRunStatus} {old new : SagaStepStatus}
    (turn : Turn runStatus old nextStatus new) :
    (nextStatus = .running ∧ (new = .ready ∨ new = .authorized ∨ new = .committed)) ∨
      (nextStatus = .awaitingRecovery ∧ new = .ambiguous) := by
  cases turn <;> simp

theorem failed_moves (shape : run.Shape) {detail : Option String}
    (here : run.steps[run.cursor]? = some step) (named : step.manifestHash = manifestHash)
    (live : CanFail run.status step.status)
    (marked : run.markStepFailed manifestHash detail = .ok next) :
    Moves run manifestHash next true := by
  have found := shape.plan.step_at here
  rw [named] at found
  obtain ⟨failed, isFailed⟩ : ∃ failed : SagaStepRecord, failed = { step with
      status := .failed, commitSuccess := some false, detail } := ⟨_, rfl⟩
  have same : step.sameStep failed := by
    rw [isFailed]
    exact ⟨rfl, rfl⟩
  have done : failed.status = .failed := by rw [isFailed]
  simp only [markStepFailed, found] at marked
  rw [← isFailed, shape.plan.indexed here] at marked
  obtain rfl := Except.ok.inj marked
  have back := failed_step_turns_back shape.plan (shape.phase.live_around live.alive) here same done
  have kept : ∀ turned : SagaRun, turned.startCompensation.steps = turned.steps ∧
      turned.startCompensation.cursor = turned.cursor ∧
      turned.startCompensation.plan = turned.plan := by
    intro turned
    unfold startCompensation
    cases turned.committedIndices.max? <;> exact ⟨rfl, rfl, rfl⟩
  exact .failed ⟨here, named, same, (kept _).2.2⟩ live done (kept _).1 (kept _).2.1 back

theorem committed_moves {reference detail : Option String}
    (marked : run.markStepCommitted manifestHash true reference detail = .ok next) :
    ∃ step, run.steps[run.cursor]? = some step ∧ step.manifestHash = manifestHash ∧
      step.status = .authorized ∧ next = { run.replaceStep run.cursor { step with
        status := .committed
        commitSuccess := some true
        providerReference := reference
        detail := detail } with status := .running } := by
  unfold markStepCommitted at marked
  cases checked : run.assertCanCommitStep manifestHash with
  | error error =>
      rw [checked] at marked
      cases marked
  | ok index =>
      obtain ⟨rfl, step, here, named, authorized⟩ := can_commit checked
      rw [checked] at marked
      simp only [bind, Except.bind, if_true, here] at marked
      exact ⟨step, here, named, authorized, (Except.ok.inj marked).symm⟩

/-- Retrying turns the ambiguous step back into an authorized one. -/
theorem retried_step (plan : run.FollowsPlan) (here : run.steps[index]? = some step)
    (named : step.manifestHash = manifestHash) :
    (run.retried manifestHash).steps =
      run.steps.set index { step with status := .authorized, ambiguous := false } := by
  apply List.ext_getElem?
  intro other
  rw [replaced_step here]
  show (run.steps.map _)[other]? = _
  rw [List.getElem?_map]
  by_cases replaced : index = other
  · rw [if_pos replaced, ← replaced, here, Option.map_some, if_pos named]
  · rw [if_neg replaced]
    cases there : run.steps[other]? with
    | none => rfl
    | some otherStep =>
        rw [Option.map_some, if_neg]
        intro same
        exact replaced (plan.unique here there (named.trans same.symm))

theorem recovered_moves (shape : run.Shape) {reference detail : Option String}
    (awaiting : run.status = .awaitingRecovery) (here : run.steps[run.cursor]? = some step)
    (named : step.manifestHash = manifestHash) (ambiguous : step.status = .ambiguous)
    (marked : (run.retried manifestHash).markStepCommitted manifestHash true reference detail =
      .ok next) : Moves run manifestHash next false := by
  have steps := retried_step shape.plan here named
  obtain ⟨retriedStep, there, _, _, rfl⟩ := committed_moves marked
  replace there : (run.retried manifestHash).steps[run.cursor]? = some retriedStep := there
  rw [steps, replaced_step here, if_pos rfl] at there
  have same : step.sameStep { retriedStep with
      status := .committed
      commitSuccess := some true
      providerReference := reference
      detail := detail } := by
    rw [← Option.some.inj there]
    exact ⟨rfl, rfl⟩
  refine .turned ⟨here, named, same, rfl⟩ ?_ ?_ rfl
  · rw [awaiting, ambiguous]
    exact .recover
  · show ((run.retried manifestHash).steps.set run.cursor _) = _
    rw [steps, List.set_set]

theorem verified_moves (shape : run.Shape)
    (marked : run.markStepVerified manifestHash = .ok next) : Moves run manifestHash next false := by
  unfold markStepVerified at marked
  cases found : run.stepOf manifestHash with
  | none =>
      rw [found] at marked
      cases marked
  | some step =>
      simp only [found] at marked
      by_cases committed : step.status = .committed
      · obtain ⟨done, isDone⟩ : ∃ done : SagaStepRecord,
            done = { step with status := .verified } := ⟨_, rfl⟩
        have same : step.sameStep done := by
          rw [isDone]
          exact ⟨rfl, rfl⟩
        have verified : done.status = .verified := by rw [isDone]
        obtain ⟨here, named⟩ := shape.plan.step_of found
        have isHere := shape.phase.live_is_here here (Or.inl committed)
        rw [isHere] at here
        rw [if_neg (not_not_intro committed), ← isDone, isHere] at marked
        obtain rfl := Except.ok.inj marked
        have running : run.status = .running := by
          rcases shape.phase.here_status here with ⟨running, _⟩ | ⟨_, ambiguous⟩ | failed
          · exact running
          · rw [committed] at ambiguous
            cases ambiguous
          · rw [committed] at failed
            cases failed
        have next : (run.replaceStep run.cursor done).steps[run.cursor + 1]? =
            run.steps[run.cursor + 1]? := by
          show (run.steps.set run.cursor done)[run.cursor + 1]? = _
          rw [replaced_step here, if_neg (Nat.ne_of_lt (Nat.lt_succ_self _))]
        rw [advanceCursor, next]
        cases following : run.steps[run.cursor + 1]? with
        | none =>
            have last : run.steps.length = run.cursor + 1 := by
              have inside := (List.getElem?_eq_some_iff.mp here).1
              have outside := List.getElem?_eq_none_iff.mp following
              omega
            exact .verified ⟨here, named, same, rfl⟩ running committed verified rfl
              (Or.inl ⟨rfl, last, rfl⟩)
        | some later =>
            exact .verified ⟨here, named, same, rfl⟩ running committed verified rfl
              (Or.inr ⟨later, following, rfl, rfl⟩)
      · rw [if_pos committed] at marked
        cases marked

theorem compensated_moves (shape : run.Shape) {status : CompensationStatus}
    {detail : Option String}
    (marked : run.markCompensationResult manifestHash status detail = .ok next) :
    Moves run manifestHash next false := by
  unfold markCompensationResult at marked
  by_cases compensating : run.status = .compensating
  · rw [if_neg (not_not_intro compensating)] at marked
    cases found : run.stepOf manifestHash with
    | none =>
        simp only [found] at marked
        cases marked
    | some step =>
        simp only [found] at marked
        by_cases walk : run.compensationCursor = some step.index
        · rw [if_neg (not_not_intro walk)] at marked
          obtain rfl := Except.ok.inj marked
          obtain ⟨here, named⟩ := shape.plan.step_of found
          cases shape.phase with
          | compensating top isCompensating below inside isTop around =>
              obtain rfl : top = step.index := Option.some.inj (isTop.symm.trans walk)
              have same : step.sameStep { step with
                  status := compensatedStatus status
                  compensationStatus := some status
                  detail } := ⟨rfl, rfl⟩
              obtain ⟨back, ended⟩ := recorded_step_lowers shape.plan around below inside
                compensating here same
              have kept : ∀ (turned : SagaRun) (top : Nat),
                  (turned.lowerCursor top).steps = turned.steps ∧
                  (turned.lowerCursor top).cursor = turned.cursor ∧
                  (turned.lowerCursor top).plan = turned.plan := by
                intro turned top
                unfold lowerCursor
                cases (turned.committedIndices.filter (fun other => other < top)).max? <;>
                  exact ⟨rfl, rfl, rfl⟩
              exact .compensated ⟨here, named, same, (kept _ _).2.2⟩ compensating walk rfl
                (kept _ _).1 (kept _ _).2.1 back ended
          | running status => rw [status] at compensating; cases compensating
          | awaiting status => rw [status] at compensating; cases compensating
          | completed status => rw [status] at compensating; cases compensating
          | aborted status => rw [status] at compensating; cases compensating
          | finished status => rw [status] at compensating; cases compensating
        · rw [if_pos walk] at marked
          cases marked
  · rw [if_pos compensating] at marked
    cases marked

theorem authorized_moves (shape : run.Shape) {grantId : String}
    (marked : run.markStepAuthorized manifestHash grantId = .ok next) :
    Moves run manifestHash next false := by
  unfold markStepAuthorized at marked
  cases here : run.steps[run.cursor]? with
  | none =>
      simp only [here] at marked
      cases marked
  | some step =>
      simp only [here] at marked
      by_cases named : step.manifestHash = manifestHash
      · rw [if_neg (not_not_intro named)] at marked
        by_cases refused : step.status ≠ .ready ∧ step.status ≠ .pending
        · rw [if_pos refused] at marked
          cases marked
        · rw [if_neg refused] at marked
          obtain rfl := Except.ok.inj marked
          have turn : Turn run.status step.status .running .authorized := by
            rcases shape.phase.here_status here with ⟨running, ready | authorized | committed⟩ |
              ⟨_, ambiguous⟩ | failed
            · rw [running, ready]
              exact .authorize
            · simp [authorized] at refused
            · simp [committed] at refused
            · simp [ambiguous] at refused
            · simp [failed] at refused
          have same : step.sameStep { step with
              status := .authorized, grantId := some grantId } := ⟨rfl, rfl⟩
          refine .turned ⟨here, named, same, rfl⟩ turn ?_ rfl
          show run.steps.set step.index _ = _
          rw [shape.plan.indexed here]
      · rw [if_pos named] at marked
        cases marked

theorem reported_moves (shape : run.Shape) {detail : Option String}
    (marked : run.markStepAmbiguous manifestHash detail = .ok next) :
    Moves run manifestHash next false := by
  unfold markStepAmbiguous at marked
  cases checked : run.assertCanCommitStep manifestHash with
  | error error =>
      rw [checked] at marked
      cases marked
  | ok index =>
      obtain ⟨rfl, step, here, named, authorized⟩ := can_commit checked
      rw [checked] at marked
      simp only [bind, Except.bind, here] at marked
      obtain rfl := Except.ok.inj marked
      have turn : Turn run.status step.status .awaitingRecovery .ambiguous := by
        rw [shape.authorized_is_running here authorized, authorized]
        exact .doubt
      have same : step.sameStep { step with
          status := .ambiguous, ambiguous := true, detail } := ⟨rfl, rfl⟩
      exact .turned ⟨here, named, same, rfl⟩ turn rfl rfl

/-- Every transition of a run of the shape is one of the moves. -/
theorem Advances.moves (shape : run.Shape) {fails : Bool}
    (advances : Advances run manifestHash next fails) : Moves run manifestHash next fails := by
  cases advances with
  | authorized grantId marked => exact authorized_moves shape marked
  | reported detail marked => exact reported_moves shape marked
  | committed reference detail marked =>
      obtain ⟨step, here, named, authorized, rfl⟩ := committed_moves marked
      have turn : Turn run.status step.status .running .committed := by
        rw [shape.authorized_is_running here authorized, authorized]
        exact .commit
      have same : step.sameStep { step with
          status := .committed
          commitSuccess := some true
          providerReference := reference
          detail := detail } := ⟨rfl, rfl⟩
      exact .turned ⟨here, named, same, rfl⟩ turn rfl rfl
  | failed detail index checked marked =>
      obtain ⟨_, step, here, named, authorized⟩ := can_commit checked
      apply failed_moves shape here named _ marked
      rw [shape.authorized_is_running here authorized, authorized]
      exact .authorized
  | recovered reference detail index checked marked =>
      obtain ⟨awaiting, step, found, ambiguous⟩ := can_recover checked
      obtain ⟨here, named⟩ := shape.plan.step_of found
      rw [shape.phase.live_is_here here (Or.inr ambiguous)] at here
      exact recovered_moves shape awaiting here named ambiguous marked
  | unrecovered detail index checked marked =>
      obtain ⟨awaiting, step, found, ambiguous⟩ := can_recover checked
      obtain ⟨here, named⟩ := shape.plan.step_of found
      rw [shape.phase.live_is_here here (Or.inr ambiguous)] at here
      apply failed_moves shape here named _ marked
      rw [awaiting, ambiguous]
      exact .ambiguous
  | verified marked => exact verified_moves shape marked
  | compensated status detail marked => exact compensated_moves shape marked

/-! ### The moves keep the shape -/

/-- Revising the cursor step leaves the steps around it. -/
theorem SagaRun.Around.revised {before : Nat → SagaStepRecord → Prop}
    {here revisedHere : SagaStepStatus → Prop} (around : run.Around before here)
    {revised : SagaStepRecord} (there : run.steps[run.cursor]? = some step)
    (steps : next.steps = run.steps.set run.cursor revised) (cursor : next.cursor = run.cursor)
    (holds : revisedHere revised.status) : next.Around before revisedHere := by
  constructor
  · intro index other found earlier
    rw [cursor] at earlier
    rw [steps, replaced_step there, if_neg (Nat.ne_of_gt earlier)] at found
    exact around.before found earlier
  · intro other found
    rw [cursor, steps, replaced_step there, if_pos rfl] at found
    rw [← Option.some.inj found]
    exact holds
  · intro index other found later
    rw [cursor] at later
    rw [steps, replaced_step there, if_neg (Nat.ne_of_lt later)] at found
    exact around.pending found later

theorem revised_length {revised : SagaStepRecord}
    (steps : next.steps = run.steps.set index revised) :
    next.steps.length = run.steps.length := by
  rw [steps, List.length_set]

theorem Moves.keeps_plan (plan : run.FollowsPlan) {fails : Bool}
    (moves : Moves run manifestHash next fails) : next.FollowsPlan := by
  cases moves with
  | turned revises turn steps cursor =>
      exact plan.replaced revises.here revises.same steps revises.plan
  | failed revises live done steps cursor back =>
      exact plan.replaced revises.here revises.same steps revises.plan
  | compensated revises compensating walk recorded steps cursor back ended =>
      exact plan.replaced revises.here revises.same steps revises.plan
  | @verified step done revises running committed isDone cursor onward =>
      have verified : (run.replaceStep run.cursor done).FollowsPlan :=
        plan.replaced revises.here revises.same rfl rfl
      rcases onward with ⟨_, _, steps⟩ | ⟨following, there, _, steps⟩
      · exact plan.replaced revises.here revises.same steps revises.plan
      · have ahead : (run.replaceStep run.cursor done).steps[run.cursor + 1]? =
            some following := by
          show (run.steps.set run.cursor done)[run.cursor + 1]? = _
          rw [replaced_step revises.here, if_neg (Nat.ne_of_lt (Nat.lt_succ_self _))]
          exact there
        have same : following.sameStep { following with status := .ready } := ⟨rfl, rfl⟩
        exact verified.replaced ahead same steps revises.plan

theorem turned_phase {revised : SagaStepRecord} (phase : run.Phase)
    (there : run.steps[run.cursor]? = some step)
    (turn : Turn run.status step.status next.status revised.status)
    (steps : next.steps = run.steps.set run.cursor revised) (cursor : next.cursor = run.cursor) :
    next.Phase := by
  have inside : next.cursor < next.steps.length := by
    rw [revised_length steps, cursor]
    exact (List.getElem?_eq_some_iff.mp there).1
  have around := phase.live_around turn.alive
  rcases turn.advanced with ⟨running, status⟩ | ⟨awaiting, status⟩
  · exact .running running inside (around.revised there steps cursor status)
  · exact .awaiting awaiting inside (around.revised there steps cursor status)

theorem failed_phase {revised : SagaStepRecord} (phase : run.Phase)
    (there : run.steps[run.cursor]? = some step)
    (live : run.status = .running ∨ run.status = .awaitingRecovery)
    (failed : revised.status = .failed)
    (steps : next.steps = run.steps.set run.cursor revised) (cursor : next.cursor = run.cursor)
    (back : turnsBack run.cursor .aborted next) : next.Phase := by
  have around : next.Around verifiedBefore (fun here => here = .failed) :=
    (phase.live_around live).revised there steps cursor failed
  have inside : next.cursor < next.steps.length := by
    rw [revised_length steps, cursor]
    exact (List.getElem?_eq_some_iff.mp there).1
  cases place : run.cursor with
  | zero =>
      rw [place] at back cursor
      exact .aborted back cursor around
  | succ top =>
      rw [place] at back cursor
      refine .compensating top back.1 (by omega) inside back.2 ⟨?_, around.here, around.pending⟩
      intro index other found earlier
      rw [walkedTo, if_pos (by omega)]
      exact around.before found earlier

theorem verified_phase {done : SagaStepRecord} (around : run.Around verifiedBefore (fun _ => True))
    (there : run.steps[run.cursor]? = some step) (isDone : done.status = .verified)
    (cursor : next.cursor = run.cursor + 1)
    (onward : (next.status = .completed ∧ run.steps.length = run.cursor + 1 ∧
        next.steps = run.steps.set run.cursor done) ∨
      ∃ following, run.steps[run.cursor + 1]? = some following ∧ next.status = .running ∧
        next.steps = (run.steps.set run.cursor done).set (run.cursor + 1)
          { following with status := .ready }) : next.Phase := by
  rcases onward with ⟨completed, last, steps⟩ | ⟨following, ahead, running, steps⟩
  · have places : ∀ {index : Nat} {other : SagaStepRecord}, next.steps[index]? = some other →
        if run.cursor = index then other = done else run.steps[index]? = some other := by
      intro index other found
      rw [steps, replaced_step there] at found
      by_cases isHere : run.cursor = index
      · rw [if_pos isHere] at found ⊢
        exact (Option.some.inj found).symm
      · rw [if_neg isHere] at found ⊢
        exact found
    refine .completed completed ?_ ⟨?_, fun _ => trivial, ?_⟩
    · rw [revised_length steps, cursor, last]
    · intro index other found earlier
      have place := places found
      by_cases isHere : run.cursor = index
      · rw [if_pos isHere] at place
        rw [place]
        exact isDone
      · rw [if_neg isHere] at place
        exact around.before place (by omega)
    · intro index other found later
      have outside := (List.getElem?_eq_some_iff.mp found).1
      rw [revised_length steps] at outside
      omega
  · have inside := (List.getElem?_eq_some_iff.mp ahead).1
    have aheadOf : (run.steps.set run.cursor done)[run.cursor + 1]? = some following := by
      rw [replaced_step there, if_neg (Nat.ne_of_lt (Nat.lt_succ_self _))]
      exact ahead
    have places : ∀ index, next.steps[index]? =
        if run.cursor + 1 = index then some { following with status := .ready }
        else if run.cursor = index then some done else run.steps[index]? := by
      intro index
      rw [steps, replaced_step aheadOf, replaced_step there]
    refine .running running ?_ ⟨?_, ?_, ?_⟩
    · rw [steps, List.length_set, List.length_set, cursor]
      exact inside
    · intro index other found earlier
      rw [places, if_neg (by omega)] at found
      by_cases isHere : run.cursor = index
      · rw [if_pos isHere] at found
        rw [← Option.some.inj found]
        exact isDone
      · rw [if_neg isHere] at found
        exact around.before found (by omega)
    · intro other found
      rw [places, cursor, if_pos rfl] at found
      rw [← Option.some.inj found]
      exact Or.inl rfl
    · intro index other found later
      rw [places, if_neg (by omega), if_neg (by omega)] at found
      exact around.pending found (by omega)

theorem compensated_phase {top : Nat} {recorded : SagaStepRecord}
    (around : run.Around (walkedTo top) (fun here => here = .failed)) (below : top < run.cursor)
    (inside : run.cursor < run.steps.length) (there : run.steps[top]? = some step)
    (isRecorded : recorded.isRecorded) (steps : next.steps = run.steps.set top recorded)
    (cursor : next.cursor = run.cursor) (back : turnsBack top .failedPartial next)
    (ended : top = 0 → next.compensationCursor = none) : next.Phase := by
  have places : ∀ index, next.steps[index]? =
      if top = index then some recorded else run.steps[index]? := by
    intro index
    rw [steps, replaced_step there]
  have walked : ∀ {index : Nat} {other : SagaStepRecord}, next.steps[index]? = some other →
      index < next.cursor → if index < top then other.status = .verified
        else other.isRecorded := by
    intro index other found earlier
    rw [places] at found
    by_cases isHere : top = index
    · rw [if_pos isHere] at found
      rw [if_neg (by omega), ← Option.some.inj found]
      exact isRecorded
    · rw [if_neg isHere] at found
      have before := around.before found (by omega)
      by_cases lower : index < top
      · rw [walkedTo, if_pos (by omega)] at before
        rw [if_pos lower]
        exact before
      · rw [walkedTo, if_neg (by omega)] at before
        rw [if_neg lower]
        exact before
  have here : ∀ {other : SagaStepRecord}, next.steps[next.cursor]? = some other →
      other.status = .failed := by
    intro other found
    rw [places, cursor, if_neg (Nat.ne_of_lt below)] at found
    exact around.here found
  have pending : ∀ {index : Nat} {other : SagaStepRecord}, next.steps[index]? = some other →
      next.cursor < index → other.status = .pending := by
    intro index other found later
    rw [places, if_neg (by omega)] at found
    exact around.pending found (by omega)
  cases top with
  | zero =>
      refine .finished back (ended rfl) ⟨?_, here, pending⟩
      intro index other found earlier
      exact walked found earlier
  | succ lower =>
      refine .compensating lower back.1 (by omega) ?_ back.2 ⟨?_, here, pending⟩
      · rw [revised_length steps, cursor]
        exact inside
      · intro index other found earlier
        have place := walked found earlier
        by_cases reached : index ≤ lower
        · rw [if_pos (by omega)] at place
          rw [walkedTo, if_pos reached]
          exact place
        · rw [if_neg (by omega)] at place
          rw [walkedTo, if_neg reached]
          exact place

theorem Moves.keeps_shape (shape : run.Shape) {fails : Bool}
    (moves : Moves run manifestHash next fails) : next.Shape := by
  refine ⟨moves.keeps_plan shape.plan, ?_⟩
  cases moves with
  | turned revises turn steps cursor => exact turned_phase shape.phase revises.here turn steps cursor
  | verified revises running committed done cursor onward =>
      exact verified_phase (shape.phase.live_around (Or.inl running)) revises.here done cursor onward
  | failed revises live done steps cursor back =>
      exact failed_phase shape.phase revises.here live.alive done steps cursor back
  | compensated revises compensating walk recorded steps cursor back ended =>
      cases shape.phase with
      | compensating top status below inside isTop around =>
          obtain rfl := Option.some.inj (isTop.symm.trans walk)
          exact compensated_phase around below inside revises.here recorded steps cursor back ended
      | running status => rw [status] at compensating; cases compensating
      | awaiting status => rw [status] at compensating; cases compensating
      | completed status => rw [status] at compensating; cases compensating
      | aborted status => rw [status] at compensating; cases compensating
      | finished status => rw [status] at compensating; cases compensating

end Moving

end KarmaSakshi.Domain
