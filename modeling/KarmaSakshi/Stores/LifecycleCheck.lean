import KarmaSakshi.Library.Traversal
import KarmaSakshi.Stores.Lifecycle

/-!
The bounded check of the lifecycle graph: `check_lifecycle_model`.
-/

namespace KarmaSakshi.Stores

open KarmaSakshi.Domain KarmaSakshi.Library

set_option autoImplicit false

namespace LifecycleState

/-- The members in the order of the enumeration. -/
def members : List LifecycleState :=
  [proposed, prepared, sealed, authorized, committing, committed, verified, failed,
    recoveredCommitted, revoked, expired, compensating, compensated]

/-- The sources of the transition table, in its order. -/
def sources : List LifecycleState :=
  [proposed, prepared, sealed, authorized, committing, committed, verified, compensating, failed,
    recoveredCommitted, revoked, expired, compensated]

def terminalStates : List LifecycleState := [recoveredCommitted, revoked, expired, compensated]

def isTerminal (current : LifecycleState) : Bool := current ∈ terminalStates

instance : Fintype LifecycleState where
  elems := ⟨members, by decide⟩
  complete := by
    intro state
    cases state <;> decide

end LifecycleState

structure ModelCheckFinding where
  name : String
  passed : Bool
  detail : String

structure ModelCheckReport where
  findings : List ModelCheckFinding
  pathsExplored : Nat
  depthBound : Int

def ModelCheckReport.passed (report : ModelCheckReport) : Bool :=
  report.findings.all ModelCheckFinding.passed

/-! ### Paths -/

/-- A path through the graph, never empty: its last state and those before it, latest first. -/
structure LifecyclePath where
  current : LifecycleState
  earlier : List LifecycleState

namespace LifecyclePath

def start : LifecyclePath := ⟨.proposed, []⟩

def extend (path : LifecyclePath) (next : LifecycleState) : LifecyclePath :=
  ⟨next, path.current :: path.earlier⟩

def length (path : LifecyclePath) : Nat := path.earlier.length + 1

/-- The states in the order of the path. -/
def states (path : LifecyclePath) : List LifecycleState :=
  (path.current :: path.earlier).reverse

def visits (path : LifecyclePath) (state : LifecycleState) : Bool :=
  state ∈ path.current :: path.earlier

/-- The path by every one of the next states, without those that come back; an illegal step is
at fault. -/
def extendBy (path : LifecyclePath) :
    List LifecycleState → Except LifecyclePath (List LifecyclePath)
  | [] => .ok []
  | next :: rest =>
      if ¬ LifecycleState.isLegalTransition path.current next then .error (path.extend next)
      else if path.visits next ∧ ¬ next.isTerminal then path.extendBy rest
      else do
        let others ← path.extendBy rest
        .ok (path.extend next :: others)

/-- One round of the enumeration. -/
def explore (depthBound : Nat) (path : LifecyclePath) :
    Except LifecyclePath (List LifecyclePath) :=
  if depthBound < path.length then .ok []
  else if path.current.isTerminal then .ok []
  else if path.current.transitions = [] then .error path
  else path.extendBy (path.current.transitions.mergeSort (fun one other => one.value ≤ other.value))

end LifecyclePath

/-- More rounds than the enumeration has. -/
def explorationFuel (depthBound : Nat) : Nat := 5 ^ depthBound

/-- The paths that are taken from the queue, and an illegal one if there is any. -/
def explorePaths (depthBound : Nat) : List LifecyclePath × Option LifecyclePath :=
  visit (LifecyclePath.explore depthBound) (explorationFuel depthBound) [.start]

/-- `_reachable`. -/
def reachableStates : List LifecycleState :=
  search LifecycleState.transitions 13 [.proposed] [.proposed]

/-! ### Findings -/

namespace LifecycleState

def inconsistencies : List String :=
  sources.flatMap (fun source =>
    (members.filter (fun target =>
      isLegalTransition source target != decide (target ∈ source.transitions))).map
        (fun target => source.value ++ "->" ++ target.value))

def badTerminals : List String :=
  (terminalStates.filter (fun state => state.transitions ≠ [])).map value

def happyPath : List LifecycleState :=
  [proposed, prepared, sealed, authorized, committing, committed, verified]

/-- Every state is followed by one it may move to. -/
def happyPathLegal : Bool :=
  (happyPath.zip happyPath.tail).all (fun step => isLegalTransition step.1 step.2)

def orphans : List String :=
  (members.filter (fun state => state ∉ reachableStates ∧ state ≠ proposed)).map value

end LifecycleState

open LifecycleState in
/-- The findings, given the illegal path that the enumeration met. -/
def modelCheckFindings (illegalPath : Option LifecyclePath) : List ModelCheckFinding :=
  [{ name := "transition_table_consistent"
     passed := inconsistencies = []
     detail := if inconsistencies = [] then "ok"
       else String.intercalate "," (inconsistencies.take 20) },
   { name := "terminals_have_no_exits"
     passed := badTerminals = []
     detail := if badTerminals = [] then "ok" else String.intercalate "," badTerminals },
   { name := "happy_path_legal"
     passed := happyPathLegal
     detail := if happyPathLegal then "ok" else "happy path broken" },
   { name := "bounded_paths_legal"
     passed := illegalPath.isNone
     detail := match illegalPath with
       | none => "ok"
       | some path => String.intercalate "->" (path.states.map value) },
   { name := "no_orphan_states"
     passed := reachableStates.length = members.length
     detail := if reachableStates.length = members.length then
         "reachable=" ++ toString reachableStates.length ++ "/" ++ toString members.length
       else "orphans=" ++ pyReprList orphans },
   { name := "committing_not_revocable"
     passed := ¬ isRevocable committing
     detail := "ok" }]

def checkLifecycleModel (depthBound : Int) : Except PyError ModelCheckReport :=
  if depthBound < 1 then .error ⟨.other "ValueError", "depth_bound must be >= 1"⟩
  else
    let explored := explorePaths depthBound.toNat
    .ok {
      findings := modelCheckFindings explored.2
      pathsExplored := explored.1.length
      depthBound := depthBound }

/-! ### The enumeration -/

namespace LifecyclePath

theorem extend_by_legal (path : LifecyclePath) {nexts : List LifecycleState}
    (legal : ∀ next ∈ nexts, LifecycleState.isLegalTransition path.current next = true) :
    path.extendBy nexts = .ok ((nexts.filter (fun next =>
      ¬ (path.visits next ∧ ¬ next.isTerminal))).map path.extend) := by
  induction nexts with
  | nil => rfl
  | cons next rest ih =>
      have first := legal next List.mem_cons_self
      have others := ih (fun other member => legal other (List.mem_cons_of_mem _ member))
      rw [extendBy, if_neg (not_not.mpr first)]
      by_cases back : path.visits next = true ∧ ¬ next.isTerminal = true
      · rw [if_pos back, others, List.filter_cons_of_neg (by simp [back])]
      · rw [if_neg back, others, List.filter_cons, if_pos (decide_eq_true back)]
        rfl

theorem only_terminals_are_stuck {state : LifecycleState} (stuck : state.transitions = []) :
    state.isTerminal = true := by
  cases state <;> first | rfl | cases stuck

/-- The paths that follow on a path in the enumeration. -/
def nextPaths (depthBound : Nat) (path : LifecyclePath) : List LifecyclePath :=
  if depthBound < path.length ∨ path.current.isTerminal then []
  else ((path.current.transitions.mergeSort (fun one other => one.value ≤ other.value)).filter
    (fun next => ¬ (path.visits next ∧ ¬ next.isTerminal))).map path.extend

/-- No path is at fault: the table is what decides legality. -/
theorem explore_succeeds (depthBound : Nat) (path : LifecyclePath) :
    path.explore depthBound = .ok (path.nextPaths depthBound) := by
  unfold explore nextPaths
  by_cases long : depthBound < path.length
  · rw [if_pos long, if_pos (Or.inl long)]
  · rw [if_neg long]
    by_cases ended : path.current.isTerminal = true
    · rw [if_pos ended, if_pos (Or.inr ended)]
    · have moving : path.current.transitions ≠ [] :=
        fun stuck => ended (only_terminals_are_stuck stuck)
      have open_still : ¬ (depthBound < path.length ∨ path.current.isTerminal = true) := by
        rintro (far | stop)
        · exact long far
        · exact ended stop
      rw [if_neg ended, if_neg moving, if_neg open_still]
      apply extend_by_legal
      intro next member
      exact decide_eq_true ((List.mem_mergeSort).mp member)

/-- How many more states a path may get. -/
def room (depthBound : Nat) (path : LifecyclePath) : Nat := depthBound + 1 - path.length

theorem exploration_ends (depthBound : Nat) :
    Ends (explore depthBound) (fun _ => True) (room depthBound) where
  faultless := fun path _ => ⟨_, explore_succeeds depthBound path⟩
  keeps := by
    intro path children child _ explored member
    rw [explore_succeeds] at explored
    obtain rfl := Except.ok.inj explored
    refine ⟨trivial, ?_⟩
    unfold nextPaths at member
    by_cases stops : depthBound < path.length ∨ path.current.isTerminal = true
    · rw [if_pos stops] at member
      cases member
    · rw [if_neg stops] at member
      obtain ⟨next, _, rfl⟩ := List.mem_map.mp member
      have short : path.length ≤ depthBound := not_lt.mp (fun long => stops (Or.inl long))
      have longer : (path.extend next).length = path.length + 1 := rfl
      unfold room
      omega

theorem few_follow (depthBound : Nat) (path : LifecyclePath) :
    (path.nextPaths depthBound).length ≤ 4 := by
  have four : path.current.transitions.length ≤ 4 := by
    cases path.current <;> decide
  unfold nextPaths
  by_cases stops : depthBound < path.length ∨ path.current.isTerminal = true
  · rw [if_pos stops]
    exact Nat.zero_le 4
  · rw [if_neg stops, List.length_map]
    refine (List.length_filter_le _ _).trans ?_
    rw [List.length_mergeSort]
    exact four

end LifecyclePath

/-- The fuel lasts, and the paths taken are those of the tree, each once. -/
theorem explore_paths_visits (depthBound : Nat) :
    (explorePaths depthBound).2 = none ∧ (explorePaths depthBound).1.Perm
      (treeOf (LifecyclePath.explore depthBound) (LifecyclePath.room depthBound) .start) := by
  have ends := LifecyclePath.exploration_ends depthBound
  have narrow : ∀ path children, True → LifecyclePath.explore depthBound path = .ok children →
      children.length ≤ 4 := by
    intro path children _ explored
    rw [LifecyclePath.explore_succeeds] at explored
    obtain rfl := Except.ok.inj explored
    exact LifecyclePath.few_follow depthBound path
  have small := ends.tree_is_small narrow .start trivial
  have enough : ([LifecyclePath.start].flatMap (treeOf (LifecyclePath.explore depthBound)
      (LifecyclePath.room depthBound))).length ≤ explorationFuel depthBound := by
    rw [List.flatMap_singleton]
    exact small
  have visited := ends.visits (fun _ _ => trivial) enough
  rw [List.flatMap_singleton] at visited
  exact visited

end KarmaSakshi.Stores
