import Mathlib

/-!
Directed multigraphs given by a list of links, and the invariant of Kahn's algorithm.

The algorithm is any loop that keeps an in-degree for each node, a list of nodes that wait
and the list of nodes that are done: it takes a waiting node, and relaxes its children one
after another.  What is proved here does not depend on which waiting node it takes.
-/

namespace KarmaSakshi.Library

set_option autoImplicit false

variable {Node State : Type}

/-- The last element of a list is where a later split can end. -/
theorem snoc_split {items earlier later : List Node} {last node : Node}
    (split : items ++ [last] = earlier ++ node :: later) :
    (earlier = items ∧ node = last) ∨ ∃ rest, items = earlier ++ node :: rest := by
  cases later using List.reverseRecOn with
  | nil =>
      have ends := List.append_inj' split rfl
      exact .inl ⟨ends.1.symm, (List.cons.inj ends.2).1.symm⟩
  | append_singleton rest final =>
      have whole : items ++ [last] = (earlier ++ node :: rest) ++ [final] := by simpa using split
      exact .inr ⟨rest, (List.append_inj' whole rfl).1⟩

namespace Precedence

variable {links : List (Node × Node)} {nodes done ready : List Node}

/-- A link from the parent to the child. -/
def Leads (links : List (Node × Node)) (parent child : Node) : Prop := (parent, child) ∈ links

def Acyclic (links : List (Node × Node)) : Prop :=
  ∀ node, ¬ Relation.TransGen (Leads links) node node

/-- Every link is between nodes. -/
def Closed (nodes : List Node) (links : List (Node × Node)) : Prop :=
  ∀ link ∈ links, link.1 ∈ nodes ∧ link.2 ∈ nodes

/-- Every parent of a listed node is listed before it. -/
def Respects (links : List (Node × Node)) (order : List Node) : Prop :=
  ∀ earlier node later, order = earlier ++ node :: later →
    ∀ parent, Leads links parent node → parent ∈ earlier

/-- A linear extension: the nodes in an order that the links respect. -/
structure Extends (nodes : List Node) (links : List (Node × Node)) (order : List Node) :
    Prop where
  complete : order.Perm nodes
  respects : Respects links order

/-! ### The length of the longest path -/

/-- A path, by its nodes. -/
def IsPath (links : List (Node × Node)) (path : List Node) : Prop := path.IsChain (Leads links)

/-- Each node has the length of a path that ends in it, and a child of a done node a longer
one; `deepest` is the longest of the done nodes. -/
structure Depths (links : List (Node × Node)) (done : List Node) (depth : Node → Nat)
    (deepest : Nat) : Prop where
  positive : ∀ node, 1 ≤ depth node
  grows : ∀ parent ∈ done, ∀ child, Leads links parent child → depth parent + 1 ≤ depth child
  reached : ∀ node, ∃ path, IsPath links (path ++ [node]) ∧ path.length + 1 = depth node
  above : ∀ node ∈ done, depth node ≤ deepest
  attained : ∃ path, IsPath links path ∧ path.length = deepest

theorem depths_start : Depths links [] (fun _ => 1) 0 where
  positive _ := le_refl 1
  grows _ member := by cases member
  reached node := ⟨[], List.isChain_singleton node, rfl⟩
  above _ member := by cases member
  attained := ⟨[], List.isChain_nil, rfl⟩

theorem Depths.advance {depth depth' : Node → Nat} {deepest : Nat} {node : Node}
    (depths : Depths links done depth deepest)
    (fresh : ∀ child, Leads links node child → child ∉ done ++ [node])
    (raised : ∀ other, (Leads links node other → depth' other = max (depth other) (depth node + 1)) ∧
      (¬ Leads links node other → depth' other = depth other)) :
    Depths links (done ++ [node]) depth' (max deepest (depth node)) := by
  have kept : ∀ other ∈ done ++ [node], depth' other = depth other := by
    intro other member
    apply (raised other).2
    intro leads
    exact fresh other leads member
  have higher : ∀ other, depth other ≤ depth' other := by
    intro other
    by_cases leads : Leads links node other
    · rw [(raised other).1 leads]
      exact le_max_left _ _
    · rw [(raised other).2 leads]
  constructor
  · intro other
    exact (depths.positive other).trans (higher other)
  · intro parent member child leads
    rw [kept parent member]
    cases List.mem_append.mp member with
    | inl finished => exact (depths.grows parent finished child leads).trans (higher child)
    | inr same =>
        rw [List.mem_singleton.mp same] at leads ⊢
        rw [(raised child).1 leads]
        exact le_max_right _ _
  · intro other
    by_cases longer : depth' other = depth other
    · rw [longer]
      exact depths.reached other
    · have leads : Leads links node other := by
        apply Classical.byContradiction
        intro none
        exact longer ((raised other).2 none)
      have rise := (raised other).1 leads
      obtain ⟨path, walked, length⟩ := depths.reached node
      refine ⟨path ++ [node], ?_, ?_⟩
      · apply List.isChain_append.mpr
        refine ⟨walked, List.isChain_singleton other, ?_⟩
        intro last ends first starts
        simp only [List.getLast?_append, List.getLast?_singleton, List.head?_cons,
          Option.mem_def, Option.some.injEq, Option.some_or] at ends starts
        subst ends
        subst starts
        exact leads
      · rw [List.length_append, List.length_singleton]
        omega
  · intro other member
    rw [kept other member]
    cases List.mem_append.mp member with
    | inl finished => exact (depths.above other finished).trans (le_max_left _ _)
    | inr same =>
        rw [List.mem_singleton.mp same]
        exact le_max_right _ _
  · by_cases deeper : deepest ≤ depth node
    · obtain ⟨path, walked, length⟩ := depths.reached node
      exact ⟨path ++ [node], walked, by rw [max_eq_right deeper]; simpa using length⟩
    · rw [max_eq_left (by omega)]
      exact depths.attained

/-- Along a path the depth grows by one for each link. -/
theorem Depths.along {depth : Node → Nat} {deepest : Nat}
    (depths : Depths links nodes depth deepest) (closed : Closed nodes links)
    {first : Node} {rest : List Node} (member : first ∈ nodes)
    (walked : IsPath links (first :: rest)) :
    ∃ last ∈ nodes, depth first + rest.length ≤ depth last := by
  induction rest generalizing first with
  | nil => exact ⟨first, member, le_refl _⟩
  | cons next rest longer =>
      obtain ⟨leads, later⟩ := List.isChain_cons_cons.mp walked
      have step := depths.grows first member next leads
      obtain ⟨last, inside, bound⟩ := longer (show next ∈ nodes from (closed _ leads).2) later
      refine ⟨last, inside, ?_⟩
      rw [List.length_cons]
      omega

/-- With every node done, `deepest` is the length of the longest path. -/
theorem Depths.longest {depth : Node → Nat} {deepest limit : Nat}
    (depths : Depths links nodes depth deepest) (closed : Closed nodes links)
    (positive : 1 ≤ limit) :
    deepest ≤ limit ↔ ∀ path, IsPath links path → path.length ≤ limit := by
  constructor
  · intro bounded path walked
    cases path with
    | nil => exact Nat.zero_le _
    | cons first rest =>
        by_cases member : first ∈ nodes
        · obtain ⟨last, inside, bound⟩ := depths.along closed member walked
          have least := depths.positive first
          have most := depths.above last inside
          rw [List.length_cons]
          omega
        · cases rest with
          | nil => exact positive
          | cons next rest =>
              exact absurd (closed _ (List.isChain_cons_cons.mp walked).1).1 member
  · intro bounded
    obtain ⟨path, walked, length⟩ := depths.attained
    exact length ▸ bounded path walked

theorem Depths.of_perm {order : List Node} {depth : Node → Nat} {deepest : Nat}
    (depths : Depths links done depth deepest) (permuted : done.Perm order) :
    Depths links order depth deepest where
  positive := depths.positive
  grows parent member := depths.grows parent (permuted.mem_iff.mpr member)
  reached := depths.reached
  above node member := depths.above node (permuted.mem_iff.mpr member)
  attained := depths.attained

/-! ### Pending links -/

section Kahn

variable [DecidableEq Node]

/-- The links into a node whose parent is not done. -/
def pending (links : List (Node × Node)) (done : List Node) (node : Node) : Nat :=
  links.countP (fun link => link.2 = node ∧ link.1 ∉ done)

/-- The children of a node, once for each link. -/
def children (links : List (Node × Node)) (node : Node) : List Node :=
  (links.filter (fun link => link.1 = node)).map Prod.snd

theorem mem_children {node child : Node} :
    child ∈ children links node ↔ Leads links node child := by
  simp [children, Leads]

/-- A node that gets done releases one pending link for each link to a child. -/
theorem pending_done (links : List (Node × Node)) {node : Node} (fresh : node ∉ done)
    (child : Node) :
    pending links (done ++ [node]) child + (children links node).count child =
      pending links done child := by
  induction links with
  | nil => rfl
  | cons link rest counted =>
      unfold pending children at counted ⊢
      by_cases target : link.2 = child <;> by_cases source : link.1 = node <;>
        by_cases earlier : link.1 ∈ done <;> simp_all <;> omega

theorem pending_zero {node : Node} :
    pending links done node = 0 ↔ ∀ parent, Leads links parent node → parent ∈ done := by
  unfold pending Leads
  rw [List.countP_eq_zero]
  constructor
  · intro none parent leads
    have held := none (parent, node) leads
    simpa using held
  · intro all link member
    have held : link.2 = node → link.1 ∈ done := by
      intro same
      exact all link.1 (same ▸ member)
    simpa using held

/-! ### Relaxing the children -/

/-- What relaxing a list of children does to the in-degrees and to the waiting nodes. -/
structure Relaxed (changed : List Node) (degree degree' : Node → Int) (ready ready' : List Node) :
    Prop where
  degrees : ∀ node, degree' node = degree node - changed.count node
  members : ∀ node, node ∈ ready' ↔
    node ∈ ready ∨ (node ∈ changed ∧ degree node = changed.count node)
  distinct : ready'.Nodup

section Relax

variable {relax : State → Node → State} {degreeOf : State → Node → Int}
  {readyOf : State → List Node}

/-- One child costs one link; at none left the child waits. -/
structure RelaxesOne (relax : State → Node → State) (degreeOf : State → Node → Int)
    (readyOf : State → List Node) : Prop where
  degrees : ∀ state child node, degreeOf (relax state child) node =
    if node = child then degreeOf state child - 1 else degreeOf state node
  waits : ∀ state child, degreeOf state child = 1 →
    (readyOf (relax state child)).Perm (child :: readyOf state)
  stays : ∀ state child, degreeOf state child ≠ 1 →
    (readyOf (relax state child)).Perm (readyOf state)

theorem RelaxesOne.relaxed (one : RelaxesOne relax degreeOf readyOf) {changed : List Node}
    {state : State} (distinct : (readyOf state).Nodup)
    (fresh : ∀ node ∈ changed, node ∉ readyOf state)
    (enough : ∀ node ∈ changed, (changed.count node : Int) ≤ degreeOf state node) :
    Relaxed changed (degreeOf state) (degreeOf (changed.foldl relax state)) (readyOf state)
      (readyOf (changed.foldl relax state)) := by
  induction changed generalizing state with
  | nil =>
      constructor
      · intro node
        simp
      · intro node
        simp
      · exact distinct
  | cons child rest relaxed =>
      have childEnough := enough child List.mem_cons_self
      rw [List.count_cons_self] at childEnough
      have childFresh := fresh child List.mem_cons_self
      have restCount : ∀ node, (rest.count node : Int) ≤ degreeOf (relax state child) node ∨
          node ∉ rest := by
        intro node
        by_cases member : node ∈ rest
        · have held := enough node (List.mem_cons_of_mem _ member)
          rw [one.degrees]
          by_cases same : node = child
          · subst same
            rw [List.count_cons_self] at held
            simp only [if_true]
            omega
          · rw [List.count_cons_of_ne (Ne.symm same)] at held
            rw [if_neg same]
            exact .inl held
        · exact .inr member
      have restEnough : ∀ node ∈ rest,
          (rest.count node : Int) ≤ degreeOf (relax state child) node := by
        intro node member
        exact (restCount node).resolve_right (fun absent => absent member)
      have members : ∀ node, node ∈ readyOf (relax state child) ↔
          node ∈ readyOf state ∨ (node = child ∧ degreeOf state child = 1) := by
        intro node
        by_cases last : degreeOf state child = 1
        · rw [(one.waits state child last).mem_iff, List.mem_cons]
          simp [last, or_comm]
        · rw [(one.stays state child last).mem_iff]
          simp [last]
      have distinctNext : (readyOf (relax state child)).Nodup := by
        by_cases last : degreeOf state child = 1
        · rw [(one.waits state child last).nodup_iff, List.nodup_cons]
          exact ⟨childFresh, distinct⟩
        · rw [(one.stays state child last).nodup_iff]
          exact distinct
      have freshNext : ∀ node ∈ rest, node ∉ readyOf (relax state child) := by
        intro node member waiting
        cases (members node).mp waiting with
        | inl before => exact fresh node (List.mem_cons_of_mem _ member) before
        | inr last =>
            have more : 0 < rest.count child := List.count_pos_iff.mpr (last.1 ▸ member)
            omega
      have next := relaxed distinctNext freshNext restEnough
      rw [List.foldl_cons]
      constructor
      · intro node
        rw [next.degrees, one.degrees]
        by_cases same : node = child
        · subst same
          rw [List.count_cons_self, if_pos rfl]
          push_cast
          omega
        · rw [List.count_cons_of_ne (Ne.symm same), if_neg same]
      · intro node
        rw [next.members, members, one.degrees]
        by_cases same : node = child
        · subst same
          rw [List.count_cons_self, if_pos rfl]
          by_cases again : node ∈ rest
          · have more : 0 < rest.count node := List.count_pos_iff.mpr again
            simp [again, childFresh]
            omega
          · have none : rest.count node = 0 := List.count_eq_zero_of_not_mem again
            simp [again, childFresh, none]
        · rw [List.count_cons_of_ne (Ne.symm same), if_neg same]
          simp [same]
      · exact next.distinct

end Relax

/-! ### The invariant -/

/-- The in-degrees count the links whose parent is not done, the nodes without any wait or
are done, and the done nodes are in an order that the links respect. -/
structure Front (nodes : List Node) (links : List (Node × Node)) (done ready : List Node)
    (degree : Node → Int) : Prop where
  distinct : (done ++ ready).Nodup
  inside : ∀ node ∈ done ++ ready, node ∈ nodes
  degrees : ∀ node, degree node = pending links done node
  free : ∀ node ∈ nodes, node ∉ done → (node ∈ ready ↔ pending links done node = 0)
  respects : Respects links done

theorem front_start {degree : Node → Int} (distinct : ready.Nodup)
    (degrees : ∀ node, degree node = pending links [] node)
    (waiting : ∀ node, node ∈ ready ↔ node ∈ nodes ∧ degree node = 0) :
    Front nodes links [] ready degree where
  distinct := distinct
  inside node member := ((waiting node).mp member).1
  degrees := degrees
  free node member _ := by
    rw [waiting, degrees]
    simp [member]
  respects earlier node later split := by
    cases earlier <;> cases split

theorem Front.parents_done {degree : Node → Int} {node : Node}
    (front : Front nodes links done ready degree) (waiting : node ∈ ready) :
    ∀ parent, Leads links parent node → parent ∈ done := by
  have apart : node ∉ done := by
    intro finished
    exact (List.disjoint_of_nodup_append front.distinct) finished waiting
  have member := front.inside node (List.mem_append_right _ waiting)
  exact pending_zero.mp ((front.free node member apart).mp waiting)

/-- A child of a node that still waits is neither done nor that node. -/
theorem Front.children_fresh {degree : Node → Int} {node : Node} {rest : List Node}
    (front : Front nodes links done (node :: rest) degree) :
    ∀ child, Leads links node child → child ∉ done ++ [node] := by
  have fresh : node ∉ done := by
    intro finished
    exact (List.disjoint_of_nodup_append front.distinct) finished List.mem_cons_self
  intro child leads present
  cases List.mem_append.mp present with
  | inl finished =>
      obtain ⟨earlier, later, split⟩ := List.append_of_mem finished
      have before := front.respects earlier child later split node leads
      exact fresh (by rw [split]; exact List.mem_append_left _ before)
  | inr same =>
      rw [List.mem_singleton.mp same] at leads
      exact fresh (front.parents_done List.mem_cons_self node leads)

/-- Taking a waiting node and relaxing its children keeps the invariant. -/
theorem Front.advance {degree degree' : Node → Int} {node : Node} {rest ready' : List Node}
    {changed : List Node} (closed : Closed nodes links)
    (front : Front nodes links done (node :: rest) degree)
    (permuted : changed.Perm (children links node))
    (relaxed : Relaxed changed degree degree' rest ready') :
    Front nodes links (done ++ [node]) ready' degree' := by
  have fresh : node ∉ done := by
    intro finished
    exact (List.disjoint_of_nodup_append front.distinct) finished List.mem_cons_self
  have parents := front.parents_done List.mem_cons_self
  have apart := List.nodup_append.mp front.distinct
  have restFresh : ∀ other ∈ rest, other ∉ done ++ [node] := by
    intro other member present
    cases List.mem_append.mp present with
    | inl finished =>
        exact (List.disjoint_of_nodup_append front.distinct) finished
          (List.mem_cons_of_mem _ member)
    | inr same =>
        rw [List.mem_singleton.mp same] at member
        exact (List.nodup_cons.mp apart.2.1).1 member
  have counts : ∀ other, (changed.count other : Int) =
      pending links done other - pending links (done ++ [node]) other := by
    intro other
    have released := pending_done links fresh other
    rw [permuted.count_eq]
    omega
  have changedInside : ∀ other ∈ changed, other ∈ nodes ∧ other ∉ done ++ [node] := by
    intro other member
    have leads := mem_children.mp (permuted.mem_iff.mp member)
    exact ⟨(closed _ leads).2, front.children_fresh other leads⟩
  have waits : ∀ other, other ∈ ready' → other ∈ nodes ∧ other ∉ done ++ [node] := by
    intro other member
    cases (relaxed.members other).mp member with
    | inl before =>
        exact ⟨front.inside other (List.mem_append_right _ (List.mem_cons_of_mem _ before)),
          restFresh other before⟩
    | inr changedNow => exact changedInside other changedNow.1
  constructor
  · rw [List.nodup_append]
    refine ⟨?_, relaxed.distinct, ?_⟩
    · rw [List.nodup_append]
      refine ⟨apart.1, List.nodup_singleton node, ?_⟩
      intro left member right same equal
      rw [List.mem_singleton.mp same] at equal
      exact fresh (equal ▸ member)
    · intro left member right waiting equal
      exact (waits right waiting).2 (equal ▸ member)
  · intro other member
    cases List.mem_append.mp member with
    | inl finished =>
        cases List.mem_append.mp finished with
        | inl before => exact front.inside other (List.mem_append_left _ before)
        | inr same =>
            rw [List.mem_singleton.mp same]
            exact front.inside node (List.mem_append_right _ List.mem_cons_self)
    | inr waiting => exact (waits other waiting).1
  · intro other
    rw [relaxed.degrees, front.degrees, counts]
    omega
  · intro other member unfinished
    have outside : other ∉ done ∧ other ≠ node := by simpa using unfinished
    have freeNow := front.free other member outside.1
    rw [List.mem_cons] at freeNow
    rw [relaxed.members, front.degrees, counts]
    have released := counts other
    constructor
    · intro waiting
      cases waiting with
      | inl before =>
          have zero := freeNow.mp (.inr before)
          have bound : pending links (done ++ [node]) other ≤ pending links done other := by
            have released := pending_done links fresh other
            omega
          omega
      | inr changedNow => omega
    · intro zero
      by_cases child : other ∈ changed
      · exact .inr ⟨child, by omega⟩
      · have none : changed.count other = 0 := List.count_eq_zero_of_not_mem child
        have same : pending links done other = 0 := by omega
        exact .inl ((freeNow.mpr same).resolve_left outside.2)
  · intro earlier last later split parent linked
    cases snoc_split split with
    | inl final =>
        rw [final.2] at linked
        exact final.1 ▸ parents parent linked
    | inr before =>
        obtain ⟨left, before⟩ := before
        exact front.respects earlier last left before parent linked

/-- One round of a loop whose state relaxes one child at a time. -/
theorem Front.round {relax : State → Node → State} {degreeOf : State → Node → Int}
    {readyOf : State → List Node} {state : State} {node : Node} {changed : List Node}
    (one : RelaxesOne relax degreeOf readyOf) (closed : Closed nodes links)
    (front : Front nodes links done (node :: readyOf state) (degreeOf state))
    (permuted : changed.Perm (children links node)) :
    Front nodes links (done ++ [node]) (readyOf (changed.foldl relax state))
      (degreeOf (changed.foldl relax state)) := by
  have unfinished : node ∉ done := by
    intro finished
    exact (List.disjoint_of_nodup_append front.distinct) finished List.mem_cons_self
  apply front.advance closed permuted
  apply one.relaxed
  · exact (List.nodup_cons.mp (List.nodup_append.mp front.distinct).2.1).2
  · intro child member waiting
    have leads := mem_children.mp (permuted.mem_iff.mp member)
    exact unfinished (front.parents_done (List.mem_cons_of_mem _ waiting) node leads)
  · intro child member
    have released := pending_done links unfinished child
    rw [permuted.count_eq, front.degrees]
    omega

/-- Done and waiting nodes together are no more than the nodes. -/
theorem Front.bounded {degree : Node → Int} (front : Front nodes links done ready degree) :
    done.length + ready.length ≤ nodes.length := by
  have inside : done ++ ready ⊆ nodes := front.inside
  have bound := (List.subperm_of_subset front.distinct inside).length_le
  rwa [List.length_append] at bound

/-! ### When no node waits any more -/

/-- Over a graph without cycles every node is done. -/
theorem Front.complete {degree : Node → Int} (front : Front nodes links done [] degree)
    (distinct : nodes.Nodup) (closed : Closed nodes links) (acyclic : Acyclic links) :
    done.Perm nodes := by
  have doneDistinct : done.Nodup := by simpa using front.distinct
  rw [List.perm_ext_iff_of_nodup doneDistinct distinct]
  intro node
  constructor
  · intro finished
    exact front.inside node (List.mem_append_left _ finished)
  · intro member
    apply Classical.byContradiction
    intro unfinished
    let before : {node // node ∈ nodes} → {node // node ∈ nodes} → Prop :=
      fun first second => Relation.TransGen (Leads links) first.1 second.1
    have transitive : IsTrans _ before := ⟨fun _ _ _ first second => first.trans second⟩
    have irreflexive : Std.Irrefl before := ⟨fun first cycle => acyclic first.1 cycle⟩
    have founded : WellFounded before := Finite.wellFounded_of_trans_of_irrefl before
    let left : Set {node // node ∈ nodes} := {node | node.1 ∉ done}
    have some_left : left.Nonempty := ⟨⟨node, member⟩, unfinished⟩
    -- The first unfinished node has no unfinished parent, so it would wait.
    have first := founded.min_mem left some_left
    have waits : ∃ parent, Leads links parent (founded.min left some_left).1 ∧ parent ∉ done := by
      apply Classical.byContradiction
      intro none
      have zero : pending links done (founded.min left some_left).1 = 0 := by
        apply pending_zero.mpr
        intro parent leads
        apply Classical.byContradiction
        intro absent
        exact none ⟨parent, leads, absent⟩
      have waiting := (front.free _ (founded.min left some_left).2 first).mpr zero
      cases waiting
    obtain ⟨parent, leads, absent⟩ := waits
    have earlier : before ⟨parent, (closed _ leads).1⟩ (founded.min left some_left) :=
      Relation.TransGen.single leads
    exact founded.not_lt_min left (show (⟨parent, _⟩ : {node // node ∈ nodes}) ∈ left from absent)
      earlier

theorem Respects.index_lt {order : List Node} {parent child : Node}
    (respects : Respects links order) (distinct : order.Nodup) (member : child ∈ order)
    (leads : Leads links parent child) : order.idxOf parent < order.idxOf child := by
  obtain ⟨earlier, later, split⟩ := List.append_of_mem member
  have before := respects earlier child later split parent leads
  rw [split] at distinct ⊢
  have absent : child ∉ earlier := by
    intro present
    exact (List.disjoint_of_nodup_append distinct) present List.mem_cons_self
  rw [List.idxOf_append_of_mem before, List.idxOf_append_of_notMem absent, List.idxOf_cons_self,
    Nat.add_zero]
  exact List.idxOf_lt_length_of_mem before

/-- A graph with a linear extension has no cycle. -/
theorem Extends.acyclic {order : List Node} (extension : Extends nodes links order)
    (distinct : nodes.Nodup) (closed : Closed nodes links) : Acyclic links := by
  have orderDistinct : order.Nodup := extension.complete.nodup_iff.mpr distinct
  have forward : ∀ first second, Relation.TransGen (Leads links) first second →
      order.idxOf first < order.idxOf second := by
    intro first second walk
    induction walk with
    | single leads =>
        exact extension.respects.index_lt orderDistinct
          (extension.complete.mem_iff.mpr (closed _ leads).2) leads
    | tail _ leads earlier =>
        exact earlier.trans (extension.respects.index_lt orderDistinct
          (extension.complete.mem_iff.mpr (closed _ leads).2) leads)
  intro node cycle
  exact lt_irrefl _ (forward node node cycle)

end Kahn

/-! ### The least linear extension -/

section Least

variable {Key : Type} [LinearOrder Key] {keys : List Key} {arcs : List (Key × Key)}

/-- Each listed key is the least of those whose parents are all listed before it. -/
def Greedy (keys : List Key) (arcs : List (Key × Key)) (order : List Key) : Prop :=
  ∀ earlier key later, order = earlier ++ key :: later →
    ∀ other ∈ keys, other ∉ earlier →
      (∀ parent, Leads arcs parent other → parent ∈ earlier) → key ≤ other

theorem Greedy.advance {finished rest : List Key} {degree : Key → Int} {key : Key}
    (greedy : Greedy keys arcs finished)
    (front : Front keys arcs finished (key :: rest) degree)
    (ascending : (key :: rest).Pairwise (· ≤ ·)) : Greedy keys arcs (finished ++ [key]) := by
  intro earlier last later split other member unlisted parents
  cases snoc_split split with
  | inl final =>
      rw [final.1] at unlisted parents
      rw [final.2]
      have waits := (front.free other member unlisted).mpr (pending_zero.mpr parents)
      cases List.mem_cons.mp waits with
      | inl same => exact le_of_eq same.symm
      | inr behind => exact (List.pairwise_cons.mp ascending).1 other behind
  | inr before =>
      obtain ⟨left, before⟩ := before
      exact greedy earlier last left before other member unlisted parents

/-- A greedy linear extension is lexicographically the least one. -/
theorem Greedy.least {order other : List Key} (distinct : keys.Nodup)
    (greedy : Greedy keys arcs order) (extension : Extends keys arcs order)
    (another : Extends keys arcs other) : order = other ∨ List.Lex (· < ·) order other := by
  have compare : ∀ common rest rest', order = common ++ rest → other = common ++ rest' →
      rest = rest' ∨ List.Lex (· < ·) rest rest' := by
    intro common rest
    induction rest generalizing common with
    | nil =>
        intro rest' split split'
        have lengths : order.length = other.length :=
          (extension.complete.trans another.complete.symm).length_eq
        rw [split, split', List.length_append, List.length_append, List.length_nil] at lengths
        exact .inl (List.length_eq_zero_iff.mp (by omega)).symm
    | cons key rest compared =>
        intro rest' split split'
        cases rest' with
        | nil =>
            have lengths : order.length = other.length :=
              (extension.complete.trans another.complete.symm).length_eq
            rw [split, split', List.length_append, List.length_append, List.length_cons,
              List.length_nil] at lengths
            omega
        | cons key' rest' =>
            have member : key' ∈ keys := another.complete.mem_iff.mp (by simp [split'])
            have otherDistinct : other.Nodup := another.complete.nodup_iff.mpr distinct
            have unlisted : key' ∉ common := by
              intro present
              rw [split'] at otherDistinct
              exact (List.disjoint_of_nodup_append otherDistinct) present List.mem_cons_self
            have smaller := greedy common key rest split key' member unlisted
              (another.respects common key' rest' split')
            cases lt_or_eq_of_le smaller with
            | inl less => exact .inr (.rel less)
            | inr same =>
                subst same
                have later := compared (common ++ [key]) rest' (by simpa using split)
                  (by simpa using split')
                cases later with
                | inl equal => exact .inl (by rw [equal])
                | inr lower => exact .inr (.cons lower)
  exact compare [] order other rfl rfl

/-- There is one greedy linear extension, and it depends on the nodes and on which of them are
linked, not on how often or in which order they are given. -/
theorem Greedy.unique {keys' : List Key} {arcs' : List (Key × Key)} {order order' : List Key}
    (distinct : keys.Nodup) (sameKeys : keys.Perm keys')
    (sameArcs : ∀ parent child, Leads arcs parent child ↔ Leads arcs' parent child)
    (greedy : Greedy keys arcs order) (extension : Extends keys arcs order)
    (greedy' : Greedy keys' arcs' order') (extension' : Extends keys' arcs' order') :
    order = order' := by
  have extends' : Extends keys arcs order' := by
    constructor
    · exact extension'.complete.trans sameKeys.symm
    · intro earlier key later split parent leads
      exact extension'.respects earlier key later split parent ((sameArcs parent key).mp leads)
  have again : Greedy keys arcs order' := by
    intro earlier key later split other member unlisted parents
    apply greedy' earlier key later split other (sameKeys.mem_iff.mp member) unlisted
    intro parent leads
    exact parents parent ((sameArcs parent other).mpr leads)
  cases greedy.least distinct extension extends' with
  | inl same => exact same
  | inr lower =>
      cases again.least distinct extends' extension with
      | inl same => exact same.symm
      | inr higher => exact absurd higher (asymm_of (List.Lex (· < ·)) lower)

end Least

end Precedence

end KarmaSakshi.Library
