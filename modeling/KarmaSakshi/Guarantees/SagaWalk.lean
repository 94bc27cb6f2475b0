import KarmaSakshi.Engine.SagaWrites
import KarmaSakshi.Engine.SagaScenario

/-!
The runs a saga goes through.

Whatever operations are called in whatever order, every run that is stored has the
forward shape or is on its way back, and the way back visits the settled steps from
the last to the first.
-/

namespace KarmaSakshi.Guarantees

open EffectProgram KarmaSakshi.Domain KarmaSakshi.Stores KarmaSakshi.Engine

set_option autoImplicit false

/-! ### Executions and the lives of a run -/

section Statement

variable {Host : Type} [DecidableEq Host]

/-- One engine's saga operations in any order; in between, anything may happen
outside the saga runs. -/
inductive SagaExecution (environment : Environment) (host : Host) (context : EngineContext)
    (readers : SagaReaders) : SagaWorld Host → Prop where
  | start {saga : SagaWorld Host} (nothing : saga.assignments = []) :
      SagaExecution environment host context readers saga
  | call {saga after : SagaWorld Host} {outcome : Except PyError SagaResult}
      (earlier : SagaExecution environment host context readers saga) (call : SagaCall)
      (yields : (call.program context readers).Yields (environment.sagaAnswers host) saga outcome
        after) : SagaExecution environment host context readers after
  | meanwhile {saga after : SagaWorld Host}
      (earlier : SagaExecution environment host context readers saga)
      (same : after.assignments = saga.assignments) :
      SagaExecution environment host context readers after

end Statement

/-- Not compensating, and not done with it. -/
def isForward (run : SagaRun) : Prop :=
  run.status ≠ .compensating ∧ run.status ≠ .failedPartial

structure ForwardShape (run : SagaRun) : Prop where
  before : ∀ index step, run.steps[index]? = some step → index < run.cursor →
    step.status = .verified
  here : ∀ step, run.steps[run.cursor]? = some step →
    step.status ∈ [.ready, .authorized, .committed, .ambiguous, .failed]
  after : ∀ index step, run.steps[index]? = some step → run.cursor < index →
    step.status = .pending

/-- The indices of the committed and verified steps, the last one first. -/
def settledBackwards (run : SagaRun) : List Nat :=
  ((List.range run.steps.length).filter (fun index =>
    run.steps[index]?.any (fun step => decide step.isSettled))).reverse

/-- The compensation cursor visits the steps settled at the failure one after the
other, records an outcome for each it has left, and ends the run. -/
structure WalksBack (failure : SagaRun) (walk : List SagaRun) : Prop where
  decreasing : (settledBackwards failure).Pairwise (fun earlier later => later < earlier)
  visits : walk.map SagaRun.compensationCursor <+:
    (settledBackwards failure).map some ++ [none]
  statuses : ∀ run ∈ walk,
    if run.compensationCursor = none then run.status = .failedPartial
    else run.status = .compensating
  recorded : ∀ run ∈ walk, ∀ index ∈ settledBackwards failure,
    (∀ cursor ∈ run.compensationCursor, cursor < index) →
      ∃ step, run.steps[index]? = some step ∧ step.isRecorded

/-- What is stored under one key from a begin on. -/
structure SagaLife (runId : String) (life : List SagaRun) : Prop where
  begins : ∃ plan, life.head? = some (begunRun plan runId)
  plan : ∀ run ∈ life, run.FollowsPlan
  forward : ∀ run ∈ life, isForward run → ForwardShape run
  complete : ∀ run ∈ life, run.status = .completed → ∀ step ∈ run.steps, step.status = .verified
  walksBack : ∃ ahead walk, life = ahead ++ walk ∧ (∀ run ∈ ahead, isForward run) ∧
    ∀ failure, walk.head? = some failure → WalksBack failure walk

/-! ### One run -/

section OneRun

variable {run next : SagaRun} {manifestHash : String}

theorem forward_shape (shape : run.Shape) (forward : isForward run) : ForwardShape run := by
  cases shape.phase with
  | running status cursor around =>
      refine ⟨fun _ _ => around.before, ?_, fun _ _ => around.pending⟩
      intro step here
      rcases around.here here with ready | authorized | committed
      · simp [ready]
      · simp [authorized]
      · simp [committed]
  | awaiting status cursor around =>
      refine ⟨fun _ _ => around.before, ?_, fun _ _ => around.pending⟩
      intro step here
      simp [around.here here]
  | completed status cursor around =>
      refine ⟨fun _ _ => around.before, ?_, fun _ _ => around.pending⟩
      intro step here
      have inside := (List.getElem?_eq_some_iff.mp here).1
      omega
  | aborted status cursor around =>
      refine ⟨fun _ _ => around.before, ?_, fun _ _ => around.pending⟩
      intro step here
      simp [around.here here]
  | compensating top status below cursor walk around => exact absurd status forward.1
  | finished status walk around => exact absurd status forward.2

theorem completed_is_verified (shape : run.Shape) (completed : run.status = .completed) :
    ∀ step ∈ run.steps, step.status = .verified := by
  intro step member
  obtain ⟨index, here⟩ := List.mem_iff_getElem?.mp member
  cases shape.phase with
  | completed status cursor around =>
      apply around.before here
      rw [cursor]
      exact (List.getElem?_eq_some_iff.mp here).1
  | running status => rw [status] at completed; cases completed
  | awaiting status => rw [status] at completed; cases completed
  | aborted status => rw [status] at completed; cases completed
  | compensating top status => rw [status] at completed; cases completed
  | finished status => rw [status] at completed; cases completed

/-- The numbers below a bound, picked out of a longer range. -/
theorem range_below {length bound : Nat} {keeps : Nat → Bool} (inside : bound ≤ length)
    (below : ∀ index, index < length → (keeps index = true ↔ index < bound)) :
    (List.range length).filter keeps = List.range bound := by
  obtain ⟨rest, rfl⟩ := Nat.exists_eq_add_of_le inside
  rw [List.range_add, List.filter_append]
  have kept : (List.range bound).filter keeps = List.range bound := by
    apply List.filter_eq_self.mpr
    intro index member
    have small := List.mem_range.mp member
    exact (below index (by omega)).mpr small
  have dropped : ((List.range rest).map (fun offset => bound + offset)).filter keeps = [] := by
    apply List.filter_eq_nil_iff.mpr
    intro index member
    obtain ⟨offset, inRest, rfl⟩ := List.mem_map.mp member
    have small := List.mem_range.mp inRest
    intro holds
    have := (below (bound + offset) (by omega)).mp holds
    omega
  rw [kept, dropped, List.append_nil]

theorem settled_decreasing (run : SagaRun) :
    (settledBackwards run).Pairwise (fun earlier later => later < earlier) :=
  List.pairwise_reverse.mpr (List.pairwise_lt_range.filter _)

/-- Right after the failure the settled steps are those before the cursor. -/
theorem settled_at_failure {top : Nat} (around : run.Around (SagaRun.walkedTo top)
      (fun here => here = .failed)) (below : run.cursor = top + 1)
    (cursor : run.cursor < run.steps.length) :
    settledBackwards run = top :: (List.range top).reverse := by
  have settled : (List.range run.steps.length).filter (fun index =>
      run.steps[index]?.any (fun step => decide step.isSettled)) = List.range (top + 1) := by
    apply range_below (by omega)
    intro index inside
    have here := List.getElem?_eq_getElem inside
    rw [here, Option.any_some, decide_eq_true_eq]
    rcases Nat.lt_trichotomy index run.cursor with before | isHere | after
    · have walked := around.before here before
      rw [SagaRun.walkedTo, if_pos (by omega)] at walked
      exact iff_of_true (Or.inr walked) (by omega)
    · subst isHere
      rw [SagaStepRecord.isSettled, around.here here]
      simp [below]
    · rw [SagaStepRecord.isSettled, around.pending here after]
      simp
      omega
  rw [settledBackwards, settled, List.range_succ, List.reverse_append]
  rfl

/-- What the compensation cursor has yet to take. -/
def cursorsAhead (run : SagaRun) : List (Option Nat) :=
  match run.compensationCursor with
  | none => []
  | some top => (List.range top).reverse.map some ++ [none]

/-- A walk back with what is left of it. -/
structure Returning (failure : SagaRun) (walk : List SagaRun) (current : SagaRun) : Prop where
  walksBack : WalksBack failure walk
  ahead : walk.map SagaRun.compensationCursor ++ cursorsAhead current =
    (settledBackwards failure).map some ++ [none]
  inside : ∀ index ∈ settledBackwards failure, index < current.cursor
  bounded : current.cursor < current.steps.length
  backward : ¬ isForward current

theorem failure_returns {top : Nat} (shape : next.Shape) (compensating : next.status = .compensating)
    (walk : next.compensationCursor = some top) (cursor : next.cursor = top + 1) :
    Returning next [next] next := by
  cases shape.phase with
  | compensating start status below inside isTop around =>
      obtain rfl := Option.some.inj (walk.symm.trans isTop)
      have settled := settled_at_failure around cursor inside
      have members : ∀ index ∈ settledBackwards next, index < next.cursor := by
        intro index member
        rw [settled, List.mem_cons, List.mem_reverse, List.mem_range] at member
        omega
      have ahead : [next.compensationCursor] ++ cursorsAhead next =
          (settledBackwards next).map some ++ [none] := by
        rw [settled, cursorsAhead, walk]
        rfl
      refine ⟨⟨settled_decreasing next, ⟨_, ahead⟩, ?_, ?_⟩, ahead, members, inside, ?_⟩
      · intro run member
        rw [List.mem_singleton.mp member, walk, if_neg (by simp)]
        exact compensating
      · intro run member index settledIndex left
        rw [List.mem_singleton.mp member, walk] at left
        have passed := left top rfl
        have reached := members index settledIndex
        omega
      · intro forward
        exact forward.1 compensating
  | running status => rw [status] at compensating; cases compensating
  | awaiting status => rw [status] at compensating; cases compensating
  | completed status => rw [status] at compensating; cases compensating
  | aborted status => rw [status] at compensating; cases compensating
  | finished status => rw [status] at compensating; cases compensating

/-- The cursor steps down by one settled step. -/
theorem cursor_steps_down {top : Nat} (walk : run.compensationCursor = some top)
    (back : turnsBack top .failedPartial next) (ended : top = 0 → next.compensationCursor = none) :
    cursorsAhead run = next.compensationCursor :: cursorsAhead next := by
  rw [cursorsAhead, walk]
  cases top with
  | zero =>
      rw [cursorsAhead, ended rfl]
      rfl
  | succ lower =>
      rw [cursorsAhead, back.2]
      simp only [List.range_succ, List.reverse_append, List.reverse_singleton, List.map_cons,
        List.cons_append, List.nil_append]

theorem recorded_above (shape : next.Shape) (backward : ¬ isForward next) {index : Nat}
    (inside : index < next.cursor) (bounded : next.cursor < next.steps.length)
    (passed : ∀ cursor ∈ next.compensationCursor, cursor < index) :
    ∃ step, next.steps[index]? = some step ∧ step.isRecorded := by
  have here := List.getElem?_eq_getElem (Nat.lt_trans inside bounded)
  refine ⟨_, here, ?_⟩
  cases shape.phase with
  | compensating top status below cursor walk around =>
      have walked := around.before here inside
      rw [SagaRun.walkedTo, if_neg (by have := passed top walk; omega)] at walked
      exact walked
  | finished status walk around => exact around.before here inside
  | running status => exact absurd (by simp [isForward, status]) backward
  | awaiting status => exact absurd (by simp [isForward, status]) backward
  | completed status => exact absurd (by simp [isForward, status]) backward
  | aborted status => exact absurd (by simp [isForward, status]) backward

theorem back_status {top : Nat} (back : turnsBack top .failedPartial next)
    (ended : top = 0 → next.compensationCursor = none) :
    if next.compensationCursor = none then next.status = .failedPartial
    else next.status = .compensating := by
  cases top with
  | zero =>
      rw [ended rfl, if_pos rfl]
      exact back
  | succ lower =>
      rw [back.2, if_neg (by simp)]
      exact back.1

theorem Returning.step {failure : SagaRun} {walk : List SagaRun} {fails : Bool}
    (returning : Returning failure walk run) (shape : next.Shape)
    (moves : Moves run manifestHash next fails) : Returning failure (walk ++ [next]) next := by
  have notLive : ¬ (run.status = .running ∨ run.status = .awaitingRecovery) := by
    intro live
    apply returning.backward
    rcases live with status | status <;> simp [isForward, status]
  cases moves with
  | turned revises turn => exact absurd turn.alive notLive
  | verified revises running => exact absurd (Or.inl running) notLive
  | failed revises live => exact absurd live.alive notLive
  | compensated revises compensating isTop recorded steps cursor back ended =>
      have statuses := back_status back ended
      have backward : ¬ isForward next := by
        intro forward
        by_cases spent : next.compensationCursor = none
        · rw [if_pos spent] at statuses
          exact forward.2 statuses
        · rw [if_neg spent] at statuses
          exact forward.1 statuses
      have inside : ∀ index ∈ settledBackwards failure, index < next.cursor := by
        rw [cursor]
        exact returning.inside
      have bounded : next.cursor < next.steps.length := by
        rw [cursor, steps, List.length_set]
        exact returning.bounded
      have ahead : (walk ++ [next]).map SagaRun.compensationCursor ++ cursorsAhead next =
          (settledBackwards failure).map some ++ [none] := by
        rw [← returning.ahead, cursor_steps_down isTop back ended]
        simp
      refine ⟨⟨settled_decreasing failure, ⟨_, ahead⟩, ?_, ?_⟩, ahead, inside, bounded, backward⟩
      · intro other member
        rcases List.mem_append.mp member with earlier | isNext
        · exact returning.walksBack.statuses other earlier
        · rw [List.mem_singleton.mp isNext]
          exact statuses
      · intro other member index settled passed
        rcases List.mem_append.mp member with earlier | isNext
        · exact returning.walksBack.recorded other earlier index settled passed
        · rw [List.mem_singleton.mp isNext] at passed ⊢
          exact recorded_above shape backward (inside index settled) bounded passed

end OneRun

/-! ### Lives grow by moves -/

/-- A life up to its current run, still forward or on its way back. -/
structure Lived (runId : String) (life : List SagaRun) (current : SagaRun) : Prop where
  begins : ∃ plan, life.head? = some (begunRun plan runId)
  last : life.getLast? = some current
  shapes : ∀ run ∈ life, run.Shape
  direction : (∀ run ∈ life, isForward run) ∨ ∃ ahead failure walk, life = ahead ++ failure :: walk ∧
    (∀ run ∈ ahead, isForward run) ∧ Returning failure (failure :: walk) current

section Lives

variable {runId : String} {life : List SagaRun} {current next : SagaRun} {manifestHash : String}

theorem Lived.current_shape (lived : Lived runId life current) : current.Shape :=
  lived.shapes current (List.mem_of_getLast? lived.last)

theorem begun_lived (plan : SagaPlan) (runId : String) :
    Lived runId [begunRun plan runId] (begunRun plan runId) := by
  refine ⟨⟨plan, rfl⟩, rfl, ?_, Or.inl ?_⟩
  · intro run member
    rw [List.mem_singleton.mp member]
    exact fresh_run_shape plan runId
  · intro run member
    rw [List.mem_singleton.mp member]
    exact ⟨by simp [begunRun], by simp [begunRun]⟩

/-- A forward run moves forward, or fails and turns back. -/
theorem forward_moves {fails : Bool} (forward : isForward current)
    (moves : Moves current manifestHash next fails) :
    isForward next ∨ ∃ top, next.status = .compensating ∧ next.compensationCursor = some top ∧
      next.cursor = top + 1 := by
  cases moves with
  | turned revises turn =>
      left
      rcases turn.advanced with ⟨status, _⟩ | ⟨status, _⟩ <;> simp [isForward, status]
  | verified revises running committed done cursor onward =>
      left
      rcases onward with ⟨status, _⟩ | ⟨_, _, status, _⟩ <;> simp [isForward, status]
  | failed revises live done steps cursor back =>
      cases place : current.cursor with
      | zero =>
          rw [place] at back
          replace back : next.status = .aborted := back
          left
          simp [isForward, back]
      | succ top =>
          rw [place] at back cursor
          exact Or.inr ⟨top, back.1, back.2, cursor⟩
  | compensated revises compensating => exact absurd compensating forward.1

theorem Lived.grows {fails : Bool} (lived : Lived runId life current)
    (moves : Moves current manifestHash next fails) : Lived runId (life ++ [next]) next := by
  have shape := moves.keeps_shape lived.current_shape
  obtain ⟨plan, begins⟩ := lived.begins
  refine ⟨⟨plan, ?_⟩, List.getLast?_concat, ?_, ?_⟩
  · rw [List.head?_append, begins]
    rfl
  · intro run member
    rcases List.mem_append.mp member with earlier | isNext
    · exact lived.shapes run earlier
    · rw [List.mem_singleton.mp isNext]
      exact shape
  · rcases lived.direction with forward | ⟨ahead, failure, walk, split, forward, returning⟩
    · rcases forward_moves (forward current (List.mem_of_getLast? lived.last)) moves with
        stays | ⟨top, compensating, walk, cursor⟩
      · left
        intro run member
        rcases List.mem_append.mp member with earlier | isNext
        · exact forward run earlier
        · rw [List.mem_singleton.mp isNext]
          exact stays
      · exact Or.inr ⟨life, next, [], rfl, forward,
          failure_returns shape compensating walk cursor⟩
    · right
      refine ⟨ahead, failure, walk ++ [next], ?_, forward, returning.step shape moves⟩
      rw [split, List.append_assoc, List.cons_append]

theorem Lived.saga_life (lived : Lived runId life current) : SagaLife runId life := by
  refine ⟨lived.begins, fun run member => (lived.shapes run member).plan,
    fun run member forward => forward_shape (lived.shapes run member) forward,
    fun run member => completed_is_verified (lived.shapes run member), ?_⟩
  rcases lived.direction with forward | ⟨ahead, failure, walk, split, forward, returning⟩
  · exact ⟨life, [], (List.append_nil life).symm, forward, fun failure none => by cases none⟩
  · refine ⟨ahead, failure :: walk, split, forward, ?_⟩
    intro first isFirst
    rw [← Option.some.inj isFirst]
    exact returning.walksBack

end Lives

/-! ### Every execution -/

section Executions

variable {Host : Type} [DecidableEq Host] {environment : Environment} {host : Host}
  {context : EngineContext} {readers : SagaReaders} {saga after : SagaWorld Host}

/-- The history of a key: finished lives, and the one of the current run. -/
def LivedHistory (runId : String) (history : List SagaRun) : Prop :=
  history = [] ∨ ∃ (earlier : List (List SagaRun)) (life : List SagaRun) (current : SagaRun),
    history = earlier.flatten ++ life ∧ (∀ past ∈ earlier, SagaLife runId past) ∧
      Lived runId life current

theorem LivedHistory.begun {runId : String} {history : List SagaRun}
    (lived : LivedHistory runId history) (plan : SagaPlan) :
    LivedHistory runId (history ++ [begunRun plan runId]) := by
  right
  rcases lived with rfl | ⟨earlier, life, current, rfl, past, living⟩
  · exact ⟨[], [begunRun plan runId], begunRun plan runId, rfl, List.forall_mem_nil _,
      begun_lived plan runId⟩
  · refine ⟨earlier ++ [life], [begunRun plan runId], begunRun plan runId, ?_, ?_,
      begun_lived plan runId⟩
    · rw [List.flatten_append, List.flatten_singleton]
    · intro other member
      rcases List.mem_append.mp member with older | isLife
      · exact past other older
      · rw [List.mem_singleton.mp isLife]
        exact living.saga_life

omit [DecidableEq Host] in
/-- The looked-up run is the current one of its history. -/
theorem LivedHistory.current {runId : String} {run : SagaRun}
    (lived : LivedHistory runId (saga.history runId)) (current : saga.lookup runId = some run) :
    ∃ (earlier : List (List SagaRun)) (life : List SagaRun),
      saga.history runId = earlier.flatten ++ life ∧
      (∀ past ∈ earlier, SagaLife runId past) ∧ Lived runId life run := by
  rcases lived with empty | ⟨earlier, life, last, split, past, living⟩
  · rw [SagaWorld.lookup, empty] at current
    cases current
  · rw [SagaWorld.lookup, split, List.getLast?_append, living.last] at current
    obtain rfl := Option.some.inj current
    exact ⟨earlier, life, split, past, living⟩

omit [DecidableEq Host] in
theorem history_grows {runId : String} {run : SagaRun}
    (stored : after.assignments = saga.assignments ++ [(runId, run)]) (other : String) :
    after.history other =
      if runId = other then saga.history other ++ [run] else saga.history other := by
  rw [← saga.history_assign runId other run, SagaWorld.history, SagaWorld.history, stored,
    SagaWorld.assign]

omit [DecidableEq Host] in
theorem writes_keep_lives (writes : SagaWrites saga after)
    (lived : ∀ runId, LivedHistory runId (saga.history runId)) :
    ∀ runId, LivedHistory runId (after.history runId) := by
  intro key
  cases writes with
  | untouched same =>
      rw [show after.history key = saga.history key by
        rw [SagaWorld.history, SagaWorld.history, same]]
      exact lived key
  | begun plan runId stored =>
      rw [history_grows stored]
      by_cases isKey : runId = key
      · rw [if_pos isKey, ← isKey]
        exact (lived runId).begun plan
      · rw [if_neg isKey]
        exact lived key
  | @advanced runId manifestHash run next fails current advances stored =>
      rw [history_grows stored]
      by_cases isKey : runId = key
      · subst isKey
        rw [if_pos rfl]
        obtain ⟨earlier, life, split, past, living⟩ := (lived runId).current current
        have grown := living.grows (advances.moves living.current_shape)
        refine Or.inr ⟨earlier, life ++ [next], next, ?_, past, grown⟩
        rw [split, List.append_assoc]
      · rw [if_neg isKey]
        exact lived key

theorem execution_lives (execution : SagaExecution environment host context readers saga) :
    ∀ runId, LivedHistory runId (saga.history runId) := by
  induction execution with
  | start nothing =>
      intro runId
      left
      rw [SagaWorld.history, nothing]
      rfl
  | call earlier call yields ih =>
      exact writes_keep_lives
        (saga_call_writes (fun _ _ _ _ told => told) call _ _ yields) ih
  | meanwhile earlier same ih => exact writes_keep_lives (.untouched same) ih

/-- The runs stored under any key are lives of the stated shape, one after the other. -/
theorem saga_runs_keep_shape
    (execution : SagaExecution environment host context readers saga) (runId : String) :
    ∃ lives : List (List SagaRun), saga.history runId = lives.flatten ∧
      ∀ life ∈ lives, SagaLife runId life := by
  rcases execution_lives execution runId with empty | ⟨earlier, life, current, split, past, living⟩
  · exact ⟨[], empty, List.forall_mem_nil _⟩
  · refine ⟨earlier ++ [life], ?_, ?_⟩
    · rw [split, List.flatten_append, List.flatten_singleton]
    · intro other member
      rcases List.mem_append.mp member with older | isLife
      · exact past other older
      · rw [List.mem_singleton.mp isLife]
        exact living.saga_life

end Executions

/-- The saga of the one transfer, up to its commit. -/
theorem transfer_saga_keeps_shape : ∃ lives : List (List SagaRun),
    (TransferSaga.committed Payment.prompt).history "run-1" = lives.flatten ∧
      ∀ life ∈ lives, SagaLife "run-1" life := by
  have begun := TransferSaga.after_yields Payment.prompt TransferSaga.start
    (.begin TransferSaga.beginning)
  have authorized := TransferSaga.after_yields Payment.prompt
    (TransferSaga.after Payment.prompt TransferSaga.start (.begin TransferSaga.beginning)).2
    (.authorize TransferSaga.authorizing)
  have committed := TransferSaga.after_yields Payment.prompt
    (TransferSaga.authorized Payment.prompt) (.commit TransferSaga.committing)
  exact saga_runs_keep_shape
    (.call (.call (.call (.start rfl) _ begun) _ authorized) _ committed) "run-1"

end KarmaSakshi.Guarantees
