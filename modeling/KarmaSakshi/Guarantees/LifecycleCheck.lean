import KarmaSakshi.Stores.LifecycleCheck

/-!
What the bounded check of the lifecycle graph covers.

The graph has no cycle, so a bound covers all of it from some depth on.  The check passes at
every bound, and from nine on it has seen the whole history of every record.
-/

namespace KarmaSakshi.Guarantees

open KarmaSakshi.Domain KarmaSakshi.Library KarmaSakshi.Stores

set_option autoImplicit false

/-! ### Paths along legal transitions -/

inductive Travelled : LifecyclePath → Prop where
  | start : Travelled .start
  | step {path : LifecyclePath} {next : LifecycleState} (travelled : Travelled path)
      (legal : LifecycleState.isLegalTransition path.current next = true) :
      Travelled (path.extend next)

/-- How many transitions may lead to a state at most. -/
def distance : LifecycleState → Nat
  | .proposed => 0
  | .prepared => 1
  | .sealed => 2
  | .authorized => 3
  | .committing => 4
  | .committed => 5
  | .verified => 6
  | .compensating => 7
  | .failed => 8
  | .recoveredCommitted => 9
  | .revoked => 4
  | .expired => 4
  | .compensated => 8

theorem legal_is_farther {current target : LifecycleState}
    (legal : LifecycleState.isLegalTransition current target = true) :
    distance current < distance target := by
  cases current <;> cases target <;>
    first
      | exact absurd legal (by decide)
      | decide

namespace Travelled

variable {path : LifecyclePath} {next state : LifecycleState}

theorem within_distance (travelled : Travelled path) :
    path.length ≤ distance path.current + 1 := by
  induction travelled with
  | start => exact le_refl 1
  | step _ legal ih => exact Nat.succ_le_succ (ih.trans (legal_is_farther legal))

theorem visited_before (travelled : Travelled path) (visited : path.visits state = true) :
    state.rank ≤ path.current.rank := by
  induction travelled with
  | start =>
      obtain rfl := List.mem_singleton.mp (of_decide_eq_true visited)
      exact le_refl _
  | step _ legal ih =>
      rcases List.mem_cons.mp (of_decide_eq_true visited) with rfl | before
      · exact le_refl _
      · exact (ih (decide_eq_true before)).trans (LifecycleState.legal_raises_rank legal).le

theorem never_returns (travelled : Travelled path)
    (legal : LifecycleState.isLegalTransition path.current next = true) :
    path.visits next = false := by
  by_contra visited
  have before := travelled.visited_before (Bool.not_eq_false _ ▸ visited)
  exact absurd (LifecycleState.legal_raises_rank legal) (not_lt.mpr before)

end Travelled

theorem moving_is_not_terminal {current next : LifecycleState}
    (legal : LifecycleState.isLegalTransition current next = true) :
    ¬ current.isTerminal = true := by
  intro terminal
  have listed : next ∈ current.transitions := of_decide_eq_true legal
  have stuck : current.transitions = [] := by
    cases current <;> first | rfl | cases terminal
  rw [stuck] at listed
  cases listed

/-- What follows on a path along legal transitions. -/
theorem mem_next_paths_iff {depthBound : Nat} {path longer : LifecyclePath}
    (travelled : Travelled path) :
    longer ∈ path.nextPaths depthBound ↔ path.length ≤ depthBound ∧ ∃ next,
      LifecycleState.isLegalTransition path.current next = true ∧ longer = path.extend next := by
  unfold LifecyclePath.nextPaths
  by_cases stops : depthBound < path.length ∨ path.current.isTerminal = true
  · rw [if_pos stops]
    refine iff_of_false List.not_mem_nil ?_
    rintro ⟨short, next, legal, _⟩
    rcases stops with long | terminal
    · omega
    · exact moving_is_not_terminal legal terminal
  · rw [if_neg stops]
    have short : path.length ≤ depthBound := not_lt.mp (fun long => stops (Or.inl long))
    simp only [List.mem_map, List.mem_filter, List.mem_mergeSort, short, true_and]
    apply exists_congr
    intro next
    constructor
    · rintro ⟨⟨listed, _⟩, rfl⟩
      exact ⟨decide_eq_true listed, rfl⟩
    · rintro ⟨legal, rfl⟩
      exact ⟨⟨of_decide_eq_true legal, by simp [travelled.never_returns legal]⟩, rfl⟩

/-- The paths of the enumeration are those along legal transitions, up to the bound. -/
theorem mem_explored_iff {depthBound : Nat} {path : LifecyclePath} :
    path ∈ (explorePaths depthBound).1 ↔ Travelled path ∧ path.length ≤ depthBound + 1 := by
  rw [(explore_paths_visits depthBound).2.mem_iff,
    (LifecyclePath.exploration_ends depthBound).mem_tree_iff _ trivial]
  simp only [LifecyclePath.explore_succeeds, Except.ok.injEq, exists_eq_left']
  constructor
  · intro found
    induction found with
    | refl => exact ⟨.start, Nat.le_add_left 1 depthBound⟩
    | tail _ last ih =>
        obtain ⟨short, next, legal, rfl⟩ := (mem_next_paths_iff ih.1).mp last
        exact ⟨.step ih.1 legal, Nat.succ_le_succ short⟩
  · rintro ⟨travelled, short⟩
    induction travelled with
    | start => exact Relation.ReflTransGen.refl
    | step before legal ih =>
        have shorter := Nat.le_of_succ_le_succ short
        exact (ih (shorter.trans (Nat.le_succ _))).tail
          ((mem_next_paths_iff before).mpr ⟨shorter, _, legal, rfl⟩)

/-! ### Records -/

/-- The records that transitions make of a fresh one. -/
inductive Advanced (manifestId : String) : LifecycleRecord → Prop where
  | fresh : Advanced manifestId (.fresh manifestId .proposed)
  | moved {record advanced : LifecycleRecord} {target : LifecycleState} {instant : Instant}
      (before : Advanced manifestId record)
      (moves : record.transition target instant = .ok advanced) : Advanced manifestId advanced

/-- The states a record has been in. -/
def visitedStates (record : LifecycleRecord) : List LifecycleState :=
  .proposed :: record.history.map (fun step => step.2.1)

theorem extend_states (path : LifecyclePath) (next : LifecycleState) :
    (path.extend next).states = path.states ++ [next] :=
  List.reverse_cons

theorem states_length (path : LifecyclePath) : path.states.length = path.length :=
  List.length_reverse

/-- Every record has gone along a path. -/
theorem advanced_has_travelled {manifestId : String} {record : LifecycleRecord}
    (advanced : Advanced manifestId record) :
    ∃ path, Travelled path ∧ path.current = record.state ∧ path.states = visitedStates record := by
  induction advanced with
  | fresh => exact ⟨.start, .start, rfl, rfl⟩
  | @moved record advanced target instant _ moves ih =>
      obtain ⟨path, travelled, current, states⟩ := ih
      obtain ⟨legal, rfl⟩ := LifecycleRecord.transition_ok_iff.mp moves
      refine ⟨path.extend target, .step travelled (current ▸ legal), rfl, ?_⟩
      rw [extend_states, states]
      simp [visitedStates]

/-- Every path is that of a record. -/
theorem travelled_is_recorded (manifestId : String) {path : LifecyclePath}
    (travelled : Travelled path) :
    ∃ record, Advanced manifestId record ∧ record.state = path.current ∧
      visitedStates record = path.states := by
  induction travelled with
  | start => exact ⟨_, .fresh, rfl, rfl⟩
  | @step path next _ legal ih =>
      obtain ⟨record, advanced, current, states⟩ := ih
      refine ⟨_, .moved advanced (LifecycleRecord.transition_ok_iff.mpr
        ⟨current ▸ legal, rfl⟩ : record.transition next 0 = _), rfl, ?_⟩
      rw [extend_states, ← states]
      simp [visitedStates]

/-- The search of the graph finds the states that records get to. -/
theorem mem_reachable_iff (manifestId : String) {state : LifecycleState} :
    state ∈ reachableStates ↔ ∃ record, Advanced manifestId record ∧ record.state = state := by
  have all : Fintype.card LifecycleState ≤ 13 := le_refl 13
  unfold reachableStates
  rw [mem_search_iff all]
  constructor
  · intro reached
    induction reached with
    | refl => exact ⟨_, .fresh, rfl⟩
    | @tail current next _ follows ih =>
        obtain ⟨record, advanced, rfl⟩ := ih
        have legal : LifecycleState.isLegalTransition record.state next = true :=
          decide_eq_true follows
        exact ⟨_, .moved advanced (LifecycleRecord.transition_ok_iff.mpr
          ⟨legal, rfl⟩ : record.transition next 0 = _), rfl⟩
  · rintro ⟨record, advanced, rfl⟩
    induction advanced with
    | fresh => exact Relation.ReflTransGen.refl
    | moved _ moves ih =>
        obtain ⟨legal, rfl⟩ := LifecycleRecord.transition_ok_iff.mp moves
        exact ih.tail (of_decide_eq_true legal)

/-- A compensation that failed and was recovered. -/
def longestPath : LifecyclePath :=
  ((((((((LifecyclePath.start.extend .prepared).extend .sealed).extend .authorized).extend
    .committing).extend .committed).extend .verified).extend .compensating).extend .failed).extend
    .recoveredCommitted

theorem longest_is_travelled : Travelled longestPath := by
  have committed := (((((Travelled.start.step (by decide)).step (by decide)).step (by decide)).step
    (by decide)).step (by decide) : Travelled (((((LifecyclePath.start.extend .prepared).extend
      .sealed).extend .authorized).extend .committing).extend .committed))
  exact (((committed.step (by decide)).step (by decide)).step (by decide)).step (by decide)

/-- The check passes at every bound, reaches the states that records get to and sees histories of
records only, and it sees the history of every record exactly from the bound nine on. -/
theorem lifecycle_check_is_exhaustive_iff {depthBound : Int} (positive : 1 ≤ depthBound)
    (manifestId : String) :
    ∃ report, checkLifecycleModel depthBound = .ok report ∧ report.passed = true ∧
      report.pathsExplored = (explorePaths depthBound.toNat).1.length ∧
      (∀ state, state ∈ reachableStates ↔ ∃ record,
        Advanced manifestId record ∧ record.state = state) ∧
      (∀ path ∈ (explorePaths depthBound.toNat).1, ∃ record,
        Advanced manifestId record ∧ visitedStates record = path.states) ∧
      ((∀ record, Advanced manifestId record →
        ∃ path ∈ (explorePaths depthBound.toNat).1, path.states = visitedStates record) ↔
          9 ≤ depthBound) := by
  have none := (explore_paths_visits depthBound.toNat).1
  refine ⟨_, if_neg (not_lt.mpr positive), ?_, rfl, fun _ => mem_reachable_iff manifestId, ?_, ?_⟩
  · simp only [ModelCheckReport.passed, none]
    decide
  · intro path explored
    obtain ⟨record, advanced, _, states⟩ :=
      travelled_is_recorded manifestId (mem_explored_iff.mp explored).1
    exact ⟨record, advanced, states⟩
  · constructor
    · intro covered
      obtain ⟨record, advanced, _, states⟩ :=
        travelled_is_recorded manifestId longest_is_travelled
      obtain ⟨path, explored, same⟩ := covered record advanced
      have length : path.length = 10 := by
        rw [← states_length, same, states, states_length]
        rfl
      have short := (mem_explored_iff.mp explored).2
      omega
    · intro deep record advanced
      obtain ⟨path, travelled, _, states⟩ := advanced_has_travelled advanced
      have far : distance path.current ≤ 9 := by
        cases path.current <;> decide
      have length := travelled.within_distance
      exact ⟨path, mem_explored_iff.mpr ⟨travelled, by omega⟩, states⟩

theorem default_check_is_exhaustive :
    ∃ report, checkLifecycleModel 12 = .ok report ∧ report.passed = true ∧
      report.pathsExplored = (explorePaths 12).1.length ∧
      (∀ state, state ∈ reachableStates ↔ ∃ record,
        Advanced "mf-1" record ∧ record.state = state) ∧
      (∀ path ∈ (explorePaths 12).1, ∃ record,
        Advanced "mf-1" record ∧ visitedStates record = path.states) ∧
      ((∀ record, Advanced "mf-1" record →
        ∃ path ∈ (explorePaths 12).1, path.states = visitedStates record) ↔ (9 : Int) ≤ 12) :=
  lifecycle_check_is_exhaustive_iff (by decide) "mf-1"

end KarmaSakshi.Guarantees
