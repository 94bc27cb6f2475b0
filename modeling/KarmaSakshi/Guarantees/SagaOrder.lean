import KarmaSakshi.Domain.Saga
import KarmaSakshi.Guarantees.CausalGraphs

/-!
The saga order of an accepted causal graph is its lexicographically least linear extension.
-/

namespace KarmaSakshi.Domain

open KarmaSakshi.Library KarmaSakshi.Library.Precedence

set_option autoImplicit false

namespace TopoState

variable {graph : CausalEffectGraph} {state : TopoState}

theorem children_of_perm (graph : CausalEffectGraph) (node : String) :
    (childrenOf graph node).Perm (children (GraphWalk.arcs graph.links) node) := by
  rw [← GraphWalk.adjacency_children]
  exact py_sorted_perm _

theorem relax_one : RelaxesOne relax TopoState.indegree TopoState.ready where
  degrees state child node := by
    simp only [relax, Function.update_apply]
  waits state child last := by
    have zero : state.indegree child - 1 = 0 := by omega
    simp only [relax, zero, if_true]
    exact (py_sorted_perm _).trans (List.perm_append_singleton child state.ready)
  stays state child more := by
    have left : ¬ state.indegree child - 1 = 0 := by omega
    simp only [relax, left, if_false]
    exact List.Perm.refl _

theorem relaxed_fields (changed : List String) (state : TopoState)
    (ascending : state.ready.Pairwise (· ≤ ·)) :
    (changed.foldl relax state).ordered = state.ordered ∧
      (changed.foldl relax state).ready.Pairwise (· ≤ ·) := by
  induction changed generalizing state with
  | nil => exact ⟨rfl, ascending⟩
  | cons child rest relaxed =>
      rw [List.foldl_cons]
      apply relaxed (relax state child)
      simp only [relax]
      split_ifs
      · exact py_sorted_ascending _
      · exact ascending

/-- What holds of the loop's variables: the ready nodes are sorted, and each ordered node was
the least that could come at its place. -/
structure Ordering (graph : CausalEffectGraph) (state : TopoState) : Prop where
  front : Front graph.nodeManifestHashes (GraphWalk.arcs graph.links) state.ordered state.ready
    state.indegree
  ascending : state.ready.Pairwise (· ≤ ·)
  greedy : Greedy graph.nodeManifestHashes (GraphWalk.arcs graph.links) state.ordered

theorem start_ordering (distinct : graph.nodeManifestHashes.Nodup) :
    Ordering graph (start graph) where
  front := by
    apply front_start
    · exact (py_sorted_perm _).nodup_iff.mpr (distinct.filter _)
    · intro node
      exact congrArg Nat.cast (GraphWalk.links_into graph.links node)
    · intro node
      simp [start, (py_sorted_perm _).mem_iff]
  ascending := py_sorted_ascending _
  greedy earlier node later split := by
    cases earlier <;> cases split

theorem arcs_closed (graph : CausalEffectGraph) :
    Closed graph.nodeManifestHashes (GraphWalk.arcs graph.links) := by
  intro arc member
  obtain ⟨link, inside, same⟩ := List.mem_map.mp member
  rw [← same]
  exact graph.endpointsPresent link inside

/-- One round of the loop. -/
theorem round_ordering {node : String} {rest : List String} (ordering : Ordering graph state)
    (next : state.ready = node :: rest) :
    Ordering graph ((childrenOf graph node).foldl relax
      { state with ready := rest, ordered := state.ordered ++ [node] }) ∧
    ((childrenOf graph node).foldl relax
      { state with ready := rest, ordered := state.ordered ++ [node] }).ordered =
        state.ordered ++ [node] := by
  have front := ordering.front
  have ascending := ordering.ascending
  rw [next] at front ascending
  have permuted := children_of_perm graph node
  obtain ⟨ordered, sorted⟩ := relaxed_fields (childrenOf graph node)
    { state with ready := rest, ordered := state.ordered ++ [node] }
    (List.pairwise_cons.mp ascending).2
  refine ⟨⟨?_, sorted, ?_⟩, ordered⟩
  · have taken : Front graph.nodeManifestHashes (GraphWalk.arcs graph.links) state.ordered
        (node :: TopoState.ready { state with ready := rest, ordered := state.ordered ++ [node] })
        (TopoState.indegree { state with ready := rest, ordered := state.ordered ++ [node] }) :=
      front
    rw [ordered]
    exact taken.round relax_one (arcs_closed graph) permuted
  · rw [ordered]
    exact ordering.greedy.advance front ascending

theorem drain_ordering (rounds : Nat) (ordering : Ordering graph state) :
    Ordering graph (drain graph rounds state) ∧
      ((drain graph rounds state).ready = [] ∨
        (drain graph rounds state).ordered.length = state.ordered.length + rounds) := by
  induction rounds generalizing state with
  | zero => exact ⟨ordering, .inr rfl⟩
  | succ rounds drained =>
      rw [drain]
      cases next : state.ready with
      | nil => exact ⟨ordering, .inl next⟩
      | cons node rest =>
          obtain ⟨kept, ordered⟩ := round_ordering ordering next
          obtain ⟨final, ended⟩ := drained kept
          refine ⟨final, ended.imp id ?_⟩
          intro length
          rw [length, ordered, List.length_append, List.length_singleton]
          omega

/-- The loop stops with no ready node. -/
theorem drained (distinct : graph.nodeManifestHashes.Nodup) :
    Ordering graph (drain graph graph.nodeManifestHashes.length (start graph)) ∧
      (drain graph graph.nodeManifestHashes.length (start graph)).ready = [] := by
  obtain ⟨ordering, ended⟩ :=
    drain_ordering graph.nodeManifestHashes.length (start_ordering distinct)
  refine ⟨ordering, ?_⟩
  cases ended with
  | inl empty => exact empty
  | inr length =>
      have bound := ordering.front.bounded
      have none : (start graph).ordered.length = 0 := rfl
      exact List.length_eq_zero_iff.mp (by omega)

end TopoState

/-- A list without repetitions has the length of its set. -/
theorem length_erase_dups {texts : List String} (distinct : texts.Nodup) :
    texts.eraseDups.length = texts.length := by
  apply List.Perm.length_eq
  rw [List.perm_ext_iff_of_nodup (Selection.nodup_erase_dups texts) distinct]
  intro text
  exact List.mem_eraseDups

/-- The order of an acyclic graph: a greedy linear extension. -/
theorem topo_of_acyclic {graph : CausalEffectGraph}
    (distinct : graph.nodeManifestHashes.Nodup)
    (bounded : graph.nodeManifestHashes.length ≤ maxSagaSteps)
    (acyclic : Acyclic (GraphWalk.arcs graph.links)) :
    ∃ order, topoManifestHashes graph = .ok order ∧
      Extends graph.nodeManifestHashes (GraphWalk.arcs graph.links) order ∧
        Greedy graph.nodeManifestHashes (GraphWalk.arcs graph.links) order := by
  obtain ⟨ordering, stopped⟩ := TopoState.drained distinct
  have front := ordering.front
  rw [stopped] at front
  have complete := front.complete distinct (TopoState.arcs_closed graph) acyclic
  have length := length_erase_dups distinct
  refine ⟨_, ?_, ⟨complete, front.respects⟩, ordering.greedy⟩
  unfold topoManifestHashes
  simp only [length, complete.length_eq, not_lt.mpr bounded, ne_eq, not_true_eq_false, if_false]

end KarmaSakshi.Domain

namespace KarmaSakshi.Guarantees

open KarmaSakshi.Domain

/-- A permutation of the nodes in which each link's parent precedes its child. -/
structure LinearExtension (nodes : List String) (links : List CausalLink) (order : List String) :
    Prop where
  complete : order.Perm nodes
  precedes : ∀ link ∈ links, ∃ before between after,
    order = before ++ link.parentManifestHash :: between ++ link.childManifestHash :: after

theorem linear_extension_iff {nodes order : List String} {links : List CausalLink}
    (distinct : nodes.Nodup) (inside : ∀ link ∈ links, link.childManifestHash ∈ nodes) :
    LinearExtension nodes links order ↔
      Library.Precedence.Extends nodes (GraphWalk.arcs links) order := by
  constructor
  · intro extension
    refine ⟨extension.complete, ?_⟩
    intro earlier node later split parent leads
    rw [leads_arcs] at leads
    obtain ⟨link, member, rfl, rfl⟩ := leads
    obtain ⟨before, between, after, placed⟩ := extension.precedes link member
    have orderDistinct : order.Nodup := extension.complete.nodup_iff.mpr distinct
    rw [placed] at orderDistinct split
    have unlisted : link.childManifestHash ∉ earlier ∧ link.childManifestHash ∉ later := by
      rw [split] at orderDistinct
      have apart := List.nodup_append.mp orderDistinct
      refine ⟨?_, (List.nodup_cons.mp apart.2.1).1⟩
      intro present
      exact (List.disjoint_of_nodup_append orderDistinct) present List.mem_cons_self
    have same := (List.append_cons_inj_of_notMem unlisted.1 unlisted.2).mp split.symm
    rw [same.1]
    simp
  · intro extension
    refine ⟨extension.complete, ?_⟩
    intro link member
    have listed : link.childManifestHash ∈ order :=
      extension.complete.mem_iff.mpr (inside link member)
    obtain ⟨earlier, later, split⟩ := List.append_of_mem listed
    have leads : Library.Precedence.Leads (GraphWalk.arcs links) link.parentManifestHash
        link.childManifestHash := List.mem_map.mpr ⟨link, member, rfl⟩
    obtain ⟨before, between, placed⟩ :=
      List.append_of_mem (extension.respects earlier _ later split _ leads)
    exact ⟨before, between, later, by rw [split, placed]⟩

theorem accepted_graph {setOrder : SetOrder} {graphId : String} {nodes : List String}
    {links : List CausalLink} {graph : CausalEffectGraph}
    (accepted : CausalEffectGraph.build setOrder graphId nodes links = .ok graph) :
    graph.nodeManifestHashes.Perm nodes ∧ CausallyLinked graph.links = CausallyLinked links := by
  obtain ⟨nodesChecked, linksChecked, _⟩ := CausalEffectGraph.build_ok accepted
  constructor
  · rw [(check_nodes_ok.mp nodesChecked).2]
    exact py_sorted_perm nodes
  · rw [(check_links_ok.mp linksChecked).2]
    exact causally_linked_of_perm (List.mergeSort_perm _ _)

/-- Linear extensions see the nodes as a set and the links as a relation. -/
theorem extends_congr {nodes nodes' order : List String} {links links' : List CausalLink}
    (sameNodes : nodes.Perm nodes') (sameLinks : CausallyLinked links = CausallyLinked links')
    (extension : Library.Precedence.Extends nodes (GraphWalk.arcs links) order) :
    Library.Precedence.Extends nodes' (GraphWalk.arcs links') order where
  complete := extension.complete.trans sameNodes
  respects earlier node later split parent leads := by
    apply extension.respects earlier node later split parent
    rw [leads_arcs, sameLinks, ← leads_arcs]
    exact leads

/-- The order that an accepted graph's saga takes. -/
theorem accepted_order {setOrder : SetOrder} {graphId : String} {nodes : List String}
    {links : List CausalLink} {graph : CausalEffectGraph}
    (accepted : CausalEffectGraph.build setOrder graphId nodes links = .ok graph) :
    ∃ order, topoManifestHashes graph = .ok order ∧
      Library.Precedence.Extends nodes (GraphWalk.arcs links) order ∧
        Library.Precedence.Greedy nodes (GraphWalk.arcs links) order := by
  have valid := (valid_graph_iff setOrder graphId nodes links).mp ⟨graph, accepted⟩
  obtain ⟨sameNodes, sameLinks⟩ := accepted_graph accepted
  have acyclic : Library.Precedence.Acyclic (GraphWalk.arcs graph.links) := by
    unfold Library.Precedence.Acyclic
    rw [leads_arcs, sameLinks]
    exact valid.acyclic
  obtain ⟨order, returned, extension, greedy⟩ := topo_of_acyclic
    (sameNodes.nodup_iff.mpr valid.distinct)
    (sameNodes.length_eq.trans_le valid.counted.2) acyclic
  refine ⟨order, returned, extends_congr sameNodes sameLinks extension, ?_⟩
  intro earlier node later split other member unlisted parents
  apply greedy earlier node later split other (sameNodes.mem_iff.mpr member) unlisted
  intro parent leads
  apply parents parent
  rw [leads_arcs, ← sameLinks, ← leads_arcs]
  exact leads

/-- Over every accepted graph the saga order is a permutation of the nodes in which parents
precede their children, it is the lexicographically least one, and every accepted graph with
the same nodes and the same linked pairs, in whatever order and however often they are given,
has the same one.  The loop ends with no ready node. -/
theorem saga_order_is_canonical (setOrder : SetOrder) (graphId : String) (nodes : List String)
    (links : List CausalLink) (graph : CausalEffectGraph)
    (accepted : CausalEffectGraph.build setOrder graphId nodes links = .ok graph) :
    (TopoState.drain graph graph.nodeManifestHashes.length (TopoState.start graph)).ready = [] ∧
    ∃ order, topoManifestHashes graph = .ok order ∧ LinearExtension nodes links order ∧
      (∀ other, LinearExtension nodes links other →
        order = other ∨ List.Lex (· < ·) order other) ∧
      ∀ setOrder' graphId' nodes' links' graph', nodes.Perm nodes' →
        (∀ parent child, CausallyLinked links parent child ↔ CausallyLinked links' parent child) →
        CausalEffectGraph.build setOrder' graphId' nodes' links' = .ok graph' →
        topoManifestHashes graph' = .ok order := by
  have valid := (valid_graph_iff setOrder graphId nodes links).mp ⟨graph, accepted⟩
  have sameNodes := (accepted_graph accepted).1
  have inside : ∀ link ∈ links, link.childManifestHash ∈ nodes :=
    fun link member => (valid.endpoints link member).2
  obtain ⟨order, returned, extension, greedy⟩ := accepted_order accepted
  refine ⟨(TopoState.drained (sameNodes.nodup_iff.mpr valid.distinct)).2, order, returned,
    (linear_extension_iff valid.distinct inside).mpr extension, ?_, ?_⟩
  · intro other another
    exact greedy.least valid.distinct extension
      ((linear_extension_iff valid.distinct inside).mp another)
  · intro setOrder' graphId' nodes' links' graph' permuted alike accepted'
    obtain ⟨order', returned', extension', greedy'⟩ := accepted_order accepted'
    have same : order = order' := by
      apply greedy.unique valid.distinct permuted _ extension greedy' extension'
      intro parent child
      rw [leads_arcs, leads_arcs]
      exact alike parent child
    rw [same]
    exact returned'

/-- The notice comes after the payment, whichever is given first. -/
theorem notice_follows_payment :
    ∃ graph, CausalEffectGraph.build Notice.asGiven "graph-1" [Notice.notice, Notice.payment]
        Notice.links = .ok graph ∧
      topoManifestHashes graph = .ok [Notice.payment, Notice.notice] := by
  obtain ⟨graph, accepted⟩ := (valid_graph_iff Notice.asGiven "graph-1"
    [Notice.notice, Notice.payment] Notice.links).mpr Notice.valid
  obtain ⟨_, order, returned, extension, _⟩ :=
    saga_order_is_canonical Notice.asGiven "graph-1" _ _ graph accepted
  refine ⟨graph, accepted, ?_⟩
  obtain ⟨before, between, after, placed⟩ :=
    extension.precedes (Notice.link "link-2" .causes) (by simp [Notice.links])
  have length : order.length = 2 := extension.complete.length_eq
  rw [placed] at length
  simp only [List.length_append, List.length_cons] at length
  have first : before = [] := List.length_eq_zero_iff.mp (by omega)
  have second : between = [] := List.length_eq_zero_iff.mp (by omega)
  have third : after = [] := List.length_eq_zero_iff.mp (by omega)
  subst first
  subst second
  subst third
  rw [returned, placed]
  rfl

end KarmaSakshi.Guarantees
