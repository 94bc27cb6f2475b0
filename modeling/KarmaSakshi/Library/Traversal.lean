import Mathlib.Algebra.Order.BigOperators.Group.List
import Mathlib.Data.Fintype.Card
import Mathlib.Data.List.Perm.Basic
import Mathlib.Logic.Relation
import Mathlib.Tactic.Ring

/-!
Breadth-first searches.

A search of a tree takes nodes from the front of a queue and puts their children at its end.
Where every branch ends it visits each node of the trees in the queue once.  A search of a
graph also remembers what it has seen; what it has seen in the end is what can be reached.
-/

namespace KarmaSakshi.Library

set_option autoImplicit false

/-! ### Trees -/

section Tree

variable {Node Fault : Type}

/-- The nodes visited, in order, until one of them is at fault. -/
def visit (branch : Node → Except Fault (List Node)) : Nat → List Node → List Node × Option Fault
  | 0, _ => ([], none)
  | _ + 1, [] => ([], none)
  | fuel + 1, node :: queue =>
      match branch node with
      | .error fault => ([node], some fault)
      | .ok children =>
          let rest := visit branch fuel (queue ++ children)
          (node :: rest.1, rest.2)

/-- A node with what is below it, down to a depth. -/
def below (branch : Node → Except Fault (List Node)) : Nat → Node → List Node
  | 0, node => [node]
  | depth + 1, node =>
      match branch node with
      | .error _ => [node]
      | .ok children => node :: children.flatMap (below branch depth)

/-- No node is at fault, and every branch ends. -/
structure Ends (branch : Node → Except Fault (List Node)) (sound : Node → Prop)
    (height : Node → Nat) : Prop where
  faultless : ∀ node, sound node → ∃ children, branch node = .ok children
  keeps : ∀ node children child, sound node → branch node = .ok children → child ∈ children →
    sound child ∧ height child < height node

variable {branch : Node → Except Fault (List Node)} {sound : Node → Prop} {height : Node → Nat}

theorem Ends.below_settles (ends : Ends branch sound height) (depth : Nat) :
    ∀ node, sound node → height node ≤ depth →
      below branch depth node = below branch (height node) node := by
  induction depth using Nat.strong_induction_on with
  | _ depth ih =>
    intro node holds low
    obtain ⟨children, branches⟩ := ends.faultless node holds
    rcases Nat.eq_zero_or_pos (height node) with flat | tall
    · have childless : children = [] := by
        rw [List.eq_nil_iff_forall_not_mem]
        intro child member
        have lower := (ends.keeps node children child holds branches member).2
        omega
      rw [flat]
      cases depth with
      | zero => rfl
      | succ depth => simp [below, branches, childless]
    · obtain ⟨rest, tallness⟩ := Nat.exists_eq_succ_of_ne_zero (Nat.pos_iff_ne_zero.mp tall)
      obtain ⟨more, depths⟩ := Nat.exists_eq_succ_of_ne_zero (by omega : depth ≠ 0)
      rw [tallness, depths]
      simp only [below, branches]
      congr 1
      apply List.flatMap_congr
      intro child member
      obtain ⟨held, lower⟩ := ends.keeps node children child holds branches member
      rw [ih more (by omega) child held (by omega), ih rest (by omega) child held (by omega)]

/-- The whole tree below a node. -/
def treeOf (branch : Node → Except Fault (List Node)) (height : Node → Nat) (node : Node) :
    List Node :=
  below branch (height node) node

theorem Ends.tree_unfolds (ends : Ends branch sound height) {node : Node} {children : List Node}
    (holds : sound node) (branches : branch node = .ok children) :
    treeOf branch height node = node :: children.flatMap (treeOf branch height) := by
  unfold treeOf
  rw [← ends.below_settles (height node + 1) node holds (Nat.le_succ _)]
  simp only [below, branches]
  congr 1
  apply List.flatMap_congr
  intro child member
  obtain ⟨held, lower⟩ := ends.keeps node children child holds branches member
  exact ends.below_settles (height node) child held lower.le

/-- With enough fuel a search visits the trees of its queue, each node once. -/
theorem Ends.visits (ends : Ends branch sound height) {fuel : Nat} {queue : List Node}
    (holds : ∀ node ∈ queue, sound node)
    (enough : (queue.flatMap (treeOf branch height)).length ≤ fuel) :
    (visit branch fuel queue).2 = none ∧
      (visit branch fuel queue).1.Perm (queue.flatMap (treeOf branch height)) := by
  induction fuel generalizing queue with
  | zero =>
      cases queue with
      | nil => exact ⟨rfl, List.Perm.refl _⟩
      | cons node queue =>
          obtain ⟨children, branches⟩ := ends.faultless node (holds node List.mem_cons_self)
          rw [List.flatMap_cons, ends.tree_unfolds (holds node List.mem_cons_self) branches]
            at enough
          simp at enough
  | succ fuel ih =>
      cases queue with
      | nil => exact ⟨rfl, List.Perm.refl _⟩
      | cons node queue =>
          have held := holds node List.mem_cons_self
          obtain ⟨children, branches⟩ := ends.faultless node held
          have next : ∀ other ∈ queue ++ children, sound other := by
            intro other member
            rcases List.mem_append.mp member with queued | child
            · exact holds other (List.mem_cons_of_mem _ queued)
            · exact (ends.keeps node children other held branches child).1
          rw [List.flatMap_cons, ends.tree_unfolds held branches] at enough ⊢
          have swapped : ((queue ++ children).flatMap (treeOf branch height)).Perm
              (children.flatMap (treeOf branch height) ++
                queue.flatMap (treeOf branch height)) := by
            rw [List.flatMap_append]
            exact List.perm_append_comm
          have shorter : ((queue ++ children).flatMap (treeOf branch height)).length ≤ fuel := by
            rw [swapped.length_eq]
            simp only [List.length_append, List.length_cons] at enough ⊢
            omega
          obtain ⟨none, visited⟩ := ih next shorter
          simp only [visit, branches]
          exact ⟨none, (visited.trans swapped).cons node⟩

/-- A tree with few branches at each node is small. -/
theorem Ends.tree_is_small (ends : Ends branch sound height) {width : Nat}
    (narrow : ∀ node children, sound node → branch node = .ok children → children.length ≤ width)
    (node : Node) (holds : sound node) :
    (treeOf branch height node).length ≤ (width + 1) ^ height node := by
  induction tall : height node using Nat.strong_induction_on generalizing node with
  | _ size ih =>
    obtain ⟨children, branches⟩ := ends.faultless node holds
    rw [ends.tree_unfolds holds branches, List.length_cons, List.length_flatMap]
    cases size with
    | zero =>
        have childless : children = [] := by
          rw [List.eq_nil_iff_forall_not_mem]
          intro child member
          have lower := (ends.keeps node children child holds branches member).2
          omega
        simp [childless]
    | succ size =>
        have each : ∀ count ∈ children.map (fun child => (treeOf branch height child).length),
            count ≤ (width + 1) ^ size := by
          intro count listed
          obtain ⟨child, member, rfl⟩ := List.mem_map.mp listed
          obtain ⟨held, lower⟩ := ends.keeps node children child holds branches member
          refine (ih (height child) (by omega) child held rfl).trans ?_
          exact Nat.pow_le_pow_right (Nat.succ_pos _) (by omega)
        have total := List.sum_le_card_nsmul _ _ each
        rw [List.length_map, Nat.nsmul_eq_mul] at total
        have few := Nat.mul_le_mul_right ((width + 1) ^ size) (narrow node children holds branches)
        have one := Nat.one_le_pow size (width + 1) (Nat.succ_pos _)
        calc (children.map (fun child => (treeOf branch height child).length)).sum + 1
            ≤ width * (width + 1) ^ size + (width + 1) ^ size := by omega
          _ = (width + 1) ^ (size + 1) := by ring

/-- A tree holds what follows on its root. -/
theorem Ends.mem_tree_iff (ends : Ends branch sound height) {node : Node} (root : Node)
    (holds : sound root) :
    node ∈ treeOf branch height root ↔ Relation.ReflTransGen
      (fun parent child => ∃ children, branch parent = .ok children ∧ child ∈ children) root node := by
  constructor
  · intro member
    induction tall : height root using Nat.strong_induction_on generalizing root with
    | _ size ih =>
      obtain ⟨children, branches⟩ := ends.faultless root holds
      rw [ends.tree_unfolds holds branches] at member
      rcases List.mem_cons.mp member with rfl | later
      · exact Relation.ReflTransGen.refl
      · obtain ⟨child, listed, inside⟩ := List.mem_flatMap.mp later
        obtain ⟨held, lower⟩ := ends.keeps root children child holds branches listed
        exact (ih (height child) (by omega) child held inside rfl).head ⟨children, branches, listed⟩
  · intro path
    induction path using Relation.ReflTransGen.head_induction_on with
    | refl =>
        obtain ⟨children, branches⟩ := ends.faultless node holds
        rw [ends.tree_unfolds holds branches]
        exact List.mem_cons_self
    | head first _ ih =>
        obtain ⟨children, branches, listed⟩ := first
        rw [ends.tree_unfolds holds branches]
        have held := (ends.keeps _ children _ holds branches listed).1
        exact List.mem_cons_of_mem _ (List.mem_flatMap.mpr ⟨_, listed, ih held⟩)

end Tree

/-! ### Graphs -/

section Graph

variable {Node : Type} [DecidableEq Node]

/-- Nodes that were not seen are queued and seen. -/
def enlist : List Node → List Node → List Node → List Node × List Node
  | queue, seen, [] => (queue, seen)
  | queue, seen, node :: rest =>
      if node ∈ seen then enlist queue seen rest
      else enlist (queue ++ [node]) (node :: seen) rest

/-- What has been seen when the queue is empty. -/
def search (next : Node → List Node) : Nat → List Node → List Node → List Node
  | 0, _, seen => seen
  | _ + 1, [], seen => seen
  | fuel + 1, node :: queue, seen =>
      let found := enlist queue seen (next node)
      search next fuel found.1 found.2

theorem enlist_adds (found queue seen : List Node) :
    ∃ added : List Node, enlist queue seen found = (queue ++ added, added.reverse ++ seen) ∧
      (seen.Nodup → (added.reverse ++ seen).Nodup) ∧ (∀ node ∈ added, node ∈ found) ∧
        ∀ node ∈ found, node ∈ added.reverse ++ seen := by
  induction found generalizing queue seen with
  | nil => exact ⟨[], by simp [enlist], by simp, by simp, by simp⟩
  | cons node found ih =>
      by_cases known : node ∈ seen
      · obtain ⟨added, result, distinct, listed, covered⟩ := ih queue seen
        refine ⟨added, by rw [enlist, if_pos known, result], distinct, ?_, ?_⟩
        · exact fun other member => List.mem_cons_of_mem _ (listed other member)
        · intro other member
          rcases List.mem_cons.mp member with rfl | later
          · exact List.mem_append_right _ known
          · exact covered other later
      · obtain ⟨added, result, distinct, listed, covered⟩ := ih (queue ++ [node]) (node :: seen)
        have arranged : (node :: added).reverse ++ seen = added.reverse ++ node :: seen := by simp
        refine ⟨node :: added, ?_, ?_, ?_, ?_⟩
        · rw [enlist, if_neg known, result, arranged, List.append_assoc]
          rfl
        · intro nodup
          rw [arranged]
          exact distinct (List.nodup_cons.mpr ⟨known, nodup⟩)
        · intro other member
          rcases List.mem_cons.mp member with rfl | later
          · exact List.mem_cons_self
          · exact List.mem_cons_of_mem _ (listed other later)
        · intro other member
          rw [arranged]
          rcases List.mem_cons.mp member with rfl | later
          · exact List.mem_append_right _ List.mem_cons_self
          · exact covered other later

/-- What a search has seen: it can all be reached, and what follows on a node that is not queued
has been seen too. -/
structure Searching (next : Node → List Node) (start : Node) (queue seen : List Node) : Prop where
  distinct : seen.Nodup
  begun : start ∈ seen
  queued : ∀ node ∈ queue, node ∈ seen
  reached : ∀ node ∈ seen, Relation.ReflTransGen (fun one other => other ∈ next one) start node
  closed : ∀ node ∈ seen, node ∉ queue → ∀ other ∈ next node, other ∈ seen

theorem Searching.step {next : Node → List Node} {start node : Node} {queue seen : List Node}
    (searching : Searching next start (node :: queue) seen) :
    Searching next start (enlist queue seen (next node)).1 (enlist queue seen (next node)).2 := by
  obtain ⟨added, result, distinct, listed, covered⟩ := enlist_adds (next node) queue seen
  rw [result]
  constructor
  case distinct => exact distinct searching.distinct
  case begun => exact List.mem_append_right _ searching.begun
  case queued =>
    intro other member
    rcases List.mem_append.mp member with earlier | new
    · exact List.mem_append_right _ (searching.queued other (List.mem_cons_of_mem _ earlier))
    · exact List.mem_append_left _ (List.mem_reverse.mpr new)
  case reached =>
    intro other member
    rcases List.mem_append.mp member with new | old
    · have reached := searching.reached node (searching.queued node List.mem_cons_self)
      exact reached.tail (listed other (List.mem_reverse.mp new))
    · exact searching.reached other old
  case closed =>
    intro other member unqueued following follows
    rcases List.mem_append.mp member with new | old
    · exact absurd (List.mem_append_right _ (List.mem_reverse.mp new)) unqueued
    · by_cases current : other = node
      · exact covered following (current ▸ follows)
      · refine List.mem_append_right _ (searching.closed other old ?_ following follows)
        intro waiting
        rcases List.mem_cons.mp waiting with same | later
        · exact current same
        · exact unqueued (List.mem_append_left _ later)

/-- A search of a finite graph sees exactly what can be reached. -/
theorem mem_search_iff [Fintype Node] {next : Node → List Node} {start node : Node} {fuel : Nat}
    (enough : Fintype.card Node ≤ fuel) :
    node ∈ search next fuel [start] [start] ↔
      Relation.ReflTransGen (fun one other => other ∈ next one) start node := by
  have exact_search : ∀ (fuel : Nat) (queue seen : List Node),
      Searching next start queue seen → Fintype.card Node + queue.length ≤ fuel + seen.length →
        (node ∈ search next fuel queue seen ↔
          Relation.ReflTransGen (fun one other => other ∈ next one) start node) := by
    have finished : ∀ seen : List Node, Searching next start [] seen →
        (node ∈ seen ↔ Relation.ReflTransGen (fun one other => other ∈ next one) start node) := by
      intro seen searching
      constructor
      · exact searching.reached node
      · intro path
        induction path with
        | refl => exact searching.begun
        | tail earlier last ih => exact searching.closed _ ih (by simp) _ last
    intro fuel
    induction fuel with
    | zero =>
        intro queue seen searching within
        have most := searching.distinct.length_le_card
        obtain rfl : queue = [] := List.eq_nil_of_length_eq_zero (by omega)
        exact finished seen searching
    | succ fuel ih =>
        intro queue seen searching within
        cases queue with
        | nil => exact finished seen searching
        | cons current queue =>
            obtain ⟨added, result, _⟩ := enlist_adds (next current) queue seen
            have stepped := searching.step
            simp only [search]
            refine ih _ _ stepped ?_
            rw [result]
            simp only [List.length_append, List.length_reverse, List.length_cons] at within ⊢
            omega
  refine exact_search fuel [start] [start] ?_ (by simpa using enough)
  constructor
  case distinct => exact List.nodup_singleton start
  case begun => exact List.mem_singleton_self start
  case queued => exact fun _ member => member
  case reached =>
    intro other member
    rw [List.mem_singleton.mp member]
  case closed =>
    intro other member unqueued
    exact absurd member unqueued

end Graph

end KarmaSakshi.Library
