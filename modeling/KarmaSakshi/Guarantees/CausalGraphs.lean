import KarmaSakshi.Domain.CausalGraph

/-!
The validators of a causal effect graph accept exactly the acyclic graphs within the bounds,
and the ancestors of a node are exactly the nodes with a path to it.
-/

namespace KarmaSakshi.Domain

open KarmaSakshi.Library KarmaSakshi.Library.Precedence

set_option autoImplicit false

/-- Some link leads from the parent to the child. -/
def CausallyLinked (links : List CausalLink) (parent child : String) : Prop :=
  ∃ link ∈ links, link.parentManifestHash = parent ∧ link.childManifestHash = child

theorem leads_arcs (links : List CausalLink) :
    Leads (GraphWalk.arcs links) = CausallyLinked links := by
  funext parent child
  simp [Leads, GraphWalk.arcs, CausallyLinked]

theorem causally_linked_of_perm {links other : List CausalLink} (permuted : links.Perm other) :
    CausallyLinked links = CausallyLinked other := by
  funext parent child
  simp [CausallyLinked, permuted.mem_iff]

namespace GraphWalk

variable {links : List CausalLink} {nodes done : List String} {walk : GraphWalk}

theorem adjacency_children (links : List CausalLink) (node : String) :
    adjacency links node = children (arcs links) node := by
  simp [adjacency, children, arcs, List.filter_map, Function.comp_def]

theorem links_into (links : List CausalLink) (node : String) :
    (links.filter (fun link => link.childManifestHash = node)).length =
      pending (arcs links) [] node := by
  simp [pending, arcs, List.countP_eq_length_filter, List.filter_map, Function.comp_def]

theorem relax_one (depth : Nat) :
    RelaxesOne (relax depth) GraphWalk.indegree GraphWalk.queue where
  degrees walk child node := by
    simp only [relax, Function.update_apply]
  waits walk child last := by
    have zero : walk.indegree child - 1 = 0 := by omega
    simp only [relax, zero, if_true]
    exact List.perm_append_singleton child walk.queue
  stays walk child more := by
    have left : ¬ walk.indegree child - 1 = 0 := by omega
    simp only [relax, left, if_false]
    exact List.Perm.refl _

/-- Relaxing raises the depth of the children and leaves the counters. -/
theorem relaxed_depths (depth : Nat) (changed : List String) (walk : GraphWalk) :
    (changed.foldl (relax depth) walk).visited = walk.visited ∧
      (changed.foldl (relax depth) walk).maxDepth = walk.maxDepth ∧
        ∀ node, (changed.foldl (relax depth) walk).depths node =
          if node ∈ changed then max (walk.depths node) (depth + 1) else walk.depths node := by
  induction changed generalizing walk with
  | nil => exact ⟨rfl, rfl, fun node => by simp⟩
  | cons child rest relaxed =>
      obtain ⟨visited, maxDepth, depths⟩ := relaxed (relax depth walk child)
      rw [List.foldl_cons]
      refine ⟨visited, maxDepth, ?_⟩
      intro node
      rw [depths]
      by_cases same : node = child
      · subst same
        simp [relax]
      · simp [relax, same]

/-- What holds of the loop's variables with these nodes done. -/
structure Walked (nodes : List String) (links : List CausalLink) (done : List String)
    (walk : GraphWalk) : Prop where
  counted : walk.visited = done.length
  front : Front nodes (arcs links) done walk.queue walk.indegree
  depths : Depths (arcs links) done walk.depths walk.maxDepth

theorem start_walked (order : SetOrder) :
    Walked nodes links [] (start links order nodes) where
  counted := rfl
  front := by
    have iterated := order.permutes nodes
    apply front_start
    · apply List.Nodup.filter
      rw [iterated.nodup_iff]
      exact Selection.nodup_erase_dups nodes
    · intro node
      exact congrArg Nat.cast (links_into links node)
    · intro node
      simp [start, iterated.mem_iff, List.mem_eraseDups]
  depths := depths_start

theorem visit_walked {node : String} {rest : List String} (closed : Closed nodes (arcs links))
    (walked : Walked nodes links done walk) (next : walk.queue = node :: rest) :
    Walked nodes links (done ++ [node]) (walk.visit links node rest) := by
  have front := walked.front
  rw [next] at front
  have fresh := front.children_fresh
  obtain ⟨visited, maxDepth, depths⟩ :=
    relaxed_depths (walk.depths node) (adjacency links node) (walk.take node rest)
  have permuted : (adjacency links node).Perm (children (arcs links) node) := by
    rw [adjacency_children]
  constructor
  · rw [visit, visited, take, walked.counted, List.length_append, List.length_singleton]
  · have taken : Front nodes (arcs links) done (node :: (walk.take node rest).queue)
        (walk.take node rest).indegree := front
    exact taken.round (relax_one (walk.depths node)) closed permuted
  · have deepest : (walk.visit links node rest).maxDepth =
        max walk.maxDepth (walk.depths node) := maxDepth
    rw [deepest]
    apply walked.depths.advance fresh
    intro other
    have depth : (walk.visit links node rest).depths other =
        if other ∈ adjacency links node then max (walk.depths other) (walk.depths node + 1)
        else walk.depths other := depths other
    rw [depth, adjacency_children]
    constructor
    · intro leads
      rw [if_pos (mem_children.mpr leads)]
    · intro none
      rw [if_neg (fun member => none (mem_children.mp member))]

theorem drain_walked (rounds : Nat) (closed : Closed nodes (arcs links))
    (walked : Walked nodes links done walk) :
    ∃ done', Walked nodes links done' (drain links rounds walk) ∧
      ((drain links rounds walk).queue = [] ∨ done'.length = done.length + rounds) := by
  induction rounds generalizing walk done with
  | zero => exact ⟨done, walked, .inr rfl⟩
  | succ rounds drained =>
      rw [drain]
      cases next : walk.queue with
      | nil => exact ⟨done, walked, .inl next⟩
      | cons node rest =>
          obtain ⟨done', walkedOn, ended⟩ := drained (visit_walked closed walked next)
          refine ⟨done', walkedOn, ended.imp id ?_⟩
          intro length
          rw [length, List.length_append, List.length_singleton]
          omega

/-- The loop stops with an empty queue. -/
theorem final_walked (order : SetOrder) (closed : Closed nodes (arcs links)) :
    ∃ done, Walked nodes links done (final links order nodes) ∧
      (final links order nodes).queue = [] := by
  obtain ⟨done, walked, ended⟩ :=
    drain_walked nodes.length closed (start_walked order)
  refine ⟨done, walked, ?_⟩
  cases ended with
  | inl empty => exact empty
  | inr length =>
      have bound : done.length + (final links order nodes).queue.length ≤ nodes.length :=
        walked.front.bounded
      rw [List.length_nil] at length
      exact List.length_eq_zero_iff.mp (by omega)

/-- Every node is visited just if the links have no cycle. -/
theorem visited_iff_acyclic (order : SetOrder) (distinct : nodes.Nodup)
    (closed : Closed nodes (arcs links)) :
    (final links order nodes).visited = nodes.length ↔ Acyclic (arcs links) := by
  obtain ⟨done, walked, stopped⟩ := final_walked order closed
  have front := walked.front
  rw [stopped] at front
  rw [walked.counted]
  constructor
  · intro all
    have doneDistinct : done.Nodup := by simpa using front.distinct
    have inside : done ⊆ nodes := fun node member => front.inside node (by simpa using member)
    have complete : done.Perm nodes :=
      (List.subperm_of_subset doneDistinct inside).perm_of_length_le all.ge
    have extension : Extends nodes (arcs links) done := ⟨complete, front.respects⟩
    exact extension.acyclic distinct closed
  · intro acyclic
    exact (front.complete distinct closed acyclic).length_eq

/-- Over an acyclic graph `max_depth` is the length of the longest path. -/
theorem depth_is_longest (order : SetOrder) (distinct : nodes.Nodup)
    (closed : Closed nodes (arcs links)) (acyclic : Acyclic (arcs links)) {limit : Nat}
    (positive : 1 ≤ limit) :
    (final links order nodes).maxDepth ≤ limit ↔
      ∀ path, IsPath (arcs links) path → path.length ≤ limit := by
  obtain ⟨done, walked, stopped⟩ := final_walked order closed
  have front := walked.front
  rw [stopped] at front
  have complete := front.complete distinct closed acyclic
  exact (walked.depths.of_perm complete).longest closed positive

end GraphWalk

/-- The graph check in terms of the paths along the links. -/
theorem validate_dag_ok {order : SetOrder} {nodes : List String} {links : List CausalLink}
    (distinct : nodes.Nodup) :
    validateDag order nodes links = .ok () ↔
      (∀ link ∈ links, link.parentManifestHash ∈ nodes ∧ link.childManifestHash ∈ nodes) ∧
        (∀ node, ¬ Relation.TransGen (CausallyLinked links) node node) ∧
          ∀ path : List String, path.IsChain (CausallyLinked links) → path.length ≤ maxGraphDepth := by
  have cycles : Acyclic (GraphWalk.arcs links) ↔
      ∀ node, ¬ Relation.TransGen (CausallyLinked links) node node := by
    unfold Acyclic
    rw [leads_arcs]
  have paths : (∀ path, IsPath (GraphWalk.arcs links) path → path.length ≤ maxGraphDepth) ↔
      ∀ path : List String, path.IsChain (CausallyLinked links) → path.length ≤ maxGraphDepth := by
    unfold IsPath
    rw [leads_arcs]
  have positive : 1 ≤ maxGraphDepth := by decide
  constructor
  · intro valid
    have endpoints := dag_endpoints valid
    have checked := check_all_ok.mpr (dag_links_ok valid)
    have closed : Closed nodes (GraphWalk.arcs links) := by
      simpa [Closed, GraphWalk.arcs] using endpoints
    unfold validateDag at valid
    rw [checked] at valid
    simp only [bind, Except.bind] at valid
    split_ifs at valid with missed deep
    have acyclic := (GraphWalk.visited_iff_acyclic order distinct closed).mp (not_not.mp missed)
    exact ⟨endpoints, cycles.mp acyclic, paths.mp
      ((GraphWalk.depth_is_longest order distinct closed acyclic positive).mp (not_lt.mp deep))⟩
  · intro valid
    obtain ⟨endpoints, noCycle, short⟩ := valid
    have closed : Closed nodes (GraphWalk.arcs links) := by
      simpa [Closed, GraphWalk.arcs] using endpoints
    have acyclic := cycles.mpr noCycle
    have checked : links.forM (checkLink nodes) = .ok () := by
      apply check_all_ok.mpr
      intro link member
      apply check_link_ok.mpr
      refine ⟨endpoints link member, ?_⟩
      intro itself
      exact noCycle _ (.single ⟨link, member, rfl, itself.symm⟩)
    have visited := (GraphWalk.visited_iff_acyclic order distinct closed).mpr acyclic
    have depth :=
      (GraphWalk.depth_is_longest order distinct closed acyclic positive).mpr (paths.mpr short)
    unfold validateDag
    rw [checked]
    simp [bind, Except.bind, visited, Nat.not_lt.mpr depth]

/-! ### The ancestors -/

namespace CausalEffectGraph

variable {graph : CausalEffectGraph} {target : String} {seen queue : List String}

theorem mem_parents {node parent : String} :
    parent ∈ (graph.linksInto node).map CausalLink.parentManifestHash ↔
      CausallyLinked graph.links parent node := by
  simp only [linksInto, List.mem_map, List.mem_filter, decide_eq_true_eq, CausallyLinked]
  constructor
  · intro found
    obtain ⟨link, ⟨member, child⟩, parent⟩ := found
    exact ⟨link, member, parent, child⟩
  · intro found
    obtain ⟨link, member, parent, child⟩ := found
    exact ⟨link, ⟨member, child⟩, parent⟩

/-- The invariant of the walk: what is seen or queued is an ancestor, and the parents of the
target and of what is seen are seen or queued. -/
structure Climbing (graph : CausalEffectGraph) (target : String) (seen queue : List String) :
    Prop where
  distinct : seen.Nodup
  sound : ∀ node, node ∈ seen ∨ node ∈ queue →
    Relation.TransGen (CausallyLinked graph.links) node target
  parents : ∀ node, node = target ∨ node ∈ seen → ∀ parent, CausallyLinked graph.links parent node →
    parent ∈ seen ∨ parent ∈ queue

theorem Climbing.start :
    Climbing graph target [] ((graph.linksInto target).map CausalLink.parentManifestHash) where
  distinct := List.nodup_nil
  sound node present := by
    cases present with
    | inl seen => cases seen
    | inr queued => exact .single (mem_parents.mp queued)
  parents node known parent linked := by
    cases known with
    | inl same => exact .inr (mem_parents.mpr (same ▸ linked))
    | inr seen => cases seen

theorem Climbing.skip {node : String} (climbing : Climbing graph target seen (node :: queue))
    (before : node ∈ seen) : Climbing graph target seen queue where
  distinct := climbing.distinct
  sound other present := climbing.sound other (present.imp id (List.mem_cons_of_mem node))
  parents other known parent linked := by
    cases climbing.parents other known parent linked with
    | inl found => exact .inl found
    | inr queued =>
        cases List.mem_cons.mp queued with
        | inl same => exact .inl (same ▸ before)
        | inr later => exact .inr later

theorem Climbing.add {node : String} (climbing : Climbing graph target seen (node :: queue))
    (fresh : node ∉ seen) :
    Climbing graph target (node :: seen)
      (queue ++ (graph.linksInto node).map CausalLink.parentManifestHash) where
  distinct := List.nodup_cons.mpr ⟨fresh, climbing.distinct⟩
  sound other present := by
    have here := climbing.sound node (.inr List.mem_cons_self)
    rw [List.mem_cons, List.mem_append, mem_parents] at present
    rcases present with (same | found) | (queued | linked)
    · exact same ▸ here
    · exact climbing.sound other (.inl found)
    · exact climbing.sound other (.inr (List.mem_cons_of_mem _ queued))
    · exact .head linked here
  parents other known parent linked := by
    rw [List.mem_cons, List.mem_append, mem_parents]
    by_cases same : other = node
    · exact .inr (.inr (same ▸ linked))
    · have before : other = target ∨ other ∈ seen :=
        known.imp id (fun member => (List.mem_cons.mp member).resolve_left same)
      cases climbing.parents other before parent linked with
      | inl found => exact .inl (.inr found)
      | inr queued =>
          cases List.mem_cons.mp queued with
          | inl first => exact .inl (.inl first)
          | inr later => exact .inr (.inl later)

/-- The walk keeps the invariant until its queue is empty. -/
theorem Climbing.ends (climbing : Climbing graph target seen queue) :
    Climbing graph target (graph.ancestorsFrom seen queue) [] := by
  induction seen, queue using ancestorsFrom.induct graph with
  | case1 seen =>
      rw [ancestorsFrom]
      exact climbing
  | case2 seen node queue before climbs =>
      rw [ancestorsFrom, if_pos before]
      exact climbs (climbing.skip before)
  | case3 seen node queue fresh climbs =>
      rw [ancestorsFrom, if_neg fresh]
      exact climbs (climbing.add fresh)

theorem Climbing.exact (climbing : Climbing graph target seen []) (node : String) :
    node ∈ seen ↔ Relation.TransGen (CausallyLinked graph.links) node target := by
  constructor
  · intro member
    exact climbing.sound node (.inl member)
  · intro walk
    induction walk using Relation.TransGen.head_induction_on with
    | single linked => exact (climbing.parents target (.inl rfl) _ linked).resolve_right (by simp)
    | head linked _ found => exact (climbing.parents _ (.inr found) _ linked).resolve_right (by simp)

theorem ancestors_exact (member : target ∈ graph.nodeManifestHashes) :
    ∃ ancestors, graph.ancestorsOf target = .ok ancestors ∧ ancestors.Nodup ∧
      ∀ node, node ∈ ancestors ↔ Relation.TransGen (CausallyLinked graph.links) node target := by
  have climbing := (@Climbing.start graph target).ends
  have sorted := py_sorted_perm (graph.ancestorsFrom []
    ((graph.linksInto target).map CausalLink.parentManifestHash))
  have returned : graph.ancestorsOf target = .ok (pySorted (graph.ancestorsFrom []
      ((graph.linksInto target).map CausalLink.parentManifestHash))) := by
    rw [ancestorsOf, if_neg (not_not.mpr member)]
  refine ⟨_, returned, sorted.nodup_iff.mpr climbing.distinct, ?_⟩
  intro node
  rw [sorted.mem_iff]
  exact climbing.exact node

theorem build_ok {order : SetOrder} {graphId : String} {nodes : List String}
    {links : List CausalLink} (built : build order graphId nodes links = .ok graph) :
    checkNodes nodes = .ok graph.nodeManifestHashes ∧ checkLinks links = .ok graph.links ∧
      validateDag order graph.nodeManifestHashes graph.links = .ok () := by
  unfold build at built
  split at built
  · split at built
    · injection built with same
      subst same
      exact ⟨‹_›, ‹_›, ‹_›⟩
    · cases built
  · cases built

theorem build_of_checks {order : SetOrder} {graphId : String} {nodes sorted : List String}
    {links ordered : List CausalLink} (nodesChecked : checkNodes nodes = .ok sorted)
    (linksChecked : checkLinks links = .ok ordered)
    (valid : validateDag order sorted ordered = .ok ()) :
    ∃ graph, build order graphId nodes links = .ok graph := by
  unfold build
  split
  · rename_i sorted' ordered' first second
    rw [nodesChecked] at first
    rw [linksChecked] at second
    cases first
    cases second
    split
    · exact ⟨_, rfl⟩
    · rename_i message refused
      rw [valid] at refused
      cases refused
  · rename_i none
    exact absurd linksChecked (none sorted ordered nodesChecked)

end CausalEffectGraph

end KarmaSakshi.Domain

namespace KarmaSakshi.Guarantees

open KarmaSakshi.Domain

/-- The nodes and links that make a causal graph. -/
structure ValidGraph (nodes : List String) (links : List CausalLink) : Prop where
  counted : 1 ≤ nodes.length ∧ nodes.length ≤ 256
  distinct : nodes.Nodup
  linkIds : (links.map CausalLink.linkId).Nodup
  endpoints : ∀ link ∈ links, link.parentManifestHash ∈ nodes ∧ link.childManifestHash ∈ nodes
  acyclic : ∀ node, ¬ Relation.TransGen (CausallyLinked links) node node
  shallow : ∀ path : List String, path.IsChain (CausallyLinked links) → path.length ≤ 32

theorem valid_graph_iff (order : SetOrder) (graphId : String) (nodes : List String)
    (links : List CausalLink) :
    (∃ graph, CausalEffectGraph.build order graphId nodes links = .ok graph) ↔
      ValidGraph nodes links := by
  have nodesSorted := py_sorted_perm nodes
  have linksSorted := List.mergeSort_perm links (fun left right => left.linkId ≤ right.linkId)
  have sameLinks := causally_linked_of_perm linksSorted
  constructor
  · intro accepted
    obtain ⟨graph, built⟩ := accepted
    obtain ⟨nodesChecked, linksChecked, valid⟩ := CausalEffectGraph.build_ok built
    obtain ⟨⟨nonempty, bounded, distinct⟩, sorted⟩ := check_nodes_ok.mp nodesChecked
    obtain ⟨linkIds, ordered⟩ := check_links_ok.mp linksChecked
    rw [sorted, ordered, validate_dag_ok (nodesSorted.nodup_iff.mpr distinct), sameLinks] at valid
    refine ⟨⟨List.length_pos_of_ne_nil nonempty, bounded⟩, distinct, linkIds, ?_, valid.2.1,
      valid.2.2⟩
    intro link member
    have inside := valid.1 link (linksSorted.mem_iff.mpr member)
    rwa [nodesSorted.mem_iff, nodesSorted.mem_iff] at inside
  · intro valid
    apply CausalEffectGraph.build_of_checks
      (check_nodes_ok.mpr ⟨⟨List.ne_nil_of_length_pos valid.counted.1, valid.counted.2,
        valid.distinct⟩, rfl⟩)
      (check_links_ok.mpr ⟨valid.linkIds, rfl⟩)
    rw [validate_dag_ok (nodesSorted.nodup_iff.mpr valid.distinct), sameLinks]
    refine ⟨?_, valid.acyclic, valid.shallow⟩
    intro link member
    rw [nodesSorted.mem_iff, nodesSorted.mem_iff]
    exact valid.endpoints link (linksSorted.mem_iff.mp member)

/-- The validators accept exactly the graphs of 1 to 256 distinct nodes and distinct link ids
whose links are between nodes, without a cycle and without a path of more than 32 nodes; over
an accepted graph the ancestors of a node are the nodes with a path to it.  The depth loop
ends with an empty queue. -/
theorem causal_validation_is_exact (order : SetOrder) (graphId : String) (nodes : List String)
    (links : List CausalLink) :
    ((∃ graph, CausalEffectGraph.build order graphId nodes links = .ok graph) ↔
      ValidGraph nodes links) ∧
    (nodes.Nodup → (∀ link ∈ links, checkLink nodes link = .ok ()) →
      (GraphWalk.final links order nodes).queue = []) ∧
    ∀ graph, CausalEffectGraph.build order graphId nodes links = .ok graph →
      ∀ target ∈ nodes, ∃ ancestors, graph.ancestorsOf target = .ok ancestors ∧
        ancestors.Nodup ∧
          ∀ node, node ∈ ancestors ↔ Relation.TransGen (CausallyLinked links) node target := by
  refine ⟨valid_graph_iff order graphId nodes links, ?_, ?_⟩
  · intro distinct checked
    have closed : Library.Precedence.Closed nodes (GraphWalk.arcs links) := by
      intro arc member
      obtain ⟨link, inside, same⟩ := List.mem_map.mp member
      rw [← same]
      exact (check_link_ok.mp (checked link inside)).1
    obtain ⟨_, _, stopped⟩ := GraphWalk.final_walked order closed
    exact stopped
  · intro graph built target member
    obtain ⟨nodesChecked, linksChecked, _⟩ := CausalEffectGraph.build_ok built
    have sorted := (check_nodes_ok.mp nodesChecked).2
    have ordered := (check_links_ok.mp linksChecked).2
    have inside : target ∈ graph.nodeManifestHashes := by
      rw [sorted, (py_sorted_perm nodes).mem_iff]
      exact member
    have sameLinks : CausallyLinked graph.links = CausallyLinked links := by
      rw [ordered]
      exact causally_linked_of_perm (List.mergeSort_perm _ _)
    have found := CausalEffectGraph.ancestors_exact inside
    rwa [sameLinks] at found

/-! ### A payment and its notice -/

namespace Notice

def payment : String :=
  "sha256:1111111111111111111111111111111111111111111111111111111111111111"

def notice : String :=
  "sha256:2222222222222222222222222222222222222222222222222222222222222222"

theorem payment_is_digest : isDigest payment := by decide

theorem notice_is_digest : isDigest notice := by decide

def link (linkId : String) (relation : CausalRelation) : CausalLink where
  linkId
  parentManifestHash := payment
  childManifestHash := notice
  relation
  createdAt := 1767225600000000
  keyId := "issuer-key"
  signature := "signed"
  parentShape := payment_is_digest
  childShape := notice_is_digest

/-- The notice is caused by the payment and depends on it. -/
def links : List CausalLink := [link "link-2" .causes, link "link-1" .dependsOn]

def asGiven : SetOrder where
  iterate texts := texts.eraseDups
  permutes _ := List.Perm.refl _

theorem linked_iff {parent child : String} :
    CausallyLinked links parent child ↔ parent = payment ∧ child = notice := by
  simp [CausallyLinked, links, link, eq_comm]

theorem distinct_hashes : payment ≠ notice := by decide

theorem walk_iff {node target : String} :
    Relation.TransGen (CausallyLinked links) node target ↔ node = payment ∧ target = notice := by
  constructor
  · intro walk
    induction walk with
    | single linked => exact linked_iff.mp linked
    | tail _ linked earlier =>
        exact absurd (earlier.2.symm.trans (linked_iff.mp linked).1) distinct_hashes.symm
  · intro ends
    exact .single (linked_iff.mpr ends)

theorem valid : ValidGraph [notice, payment] links where
  counted := by decide
  distinct := by simp [distinct_hashes.symm]
  linkIds := by decide
  endpoints link member := by
    simp only [links, List.mem_cons, List.not_mem_nil, or_false] at member
    cases member with
    | inl first => simp [first, Notice.link]
    | inr second => simp [second, Notice.link]
  acyclic node cycle := by
    have ends := walk_iff.mp cycle
    exact distinct_hashes (ends.1.symm.trans ends.2)
  shallow path walked := by
    cases path with
    | nil => decide
    | cons first rest =>
        cases rest with
        | nil => simp
        | cons second rest =>
            cases rest with
            | nil => simp
            | cons third rest =>
                have steps := List.isChain_cons_cons.mp walked
                have next := linked_iff.mp (List.isChain_cons_cons.mp steps.2).1
                exact absurd (next.1.symm.trans (linked_iff.mp steps.1).2) distinct_hashes

end Notice

/-- The graph of the payment and the notice is accepted, and the payment is the notice's only
ancestor. -/
theorem notice_graph_is_accepted :
    (GraphWalk.final Notice.links Notice.asGiven [Notice.notice, Notice.payment]).queue = [] ∧
    ∃ graph, CausalEffectGraph.build Notice.asGiven "graph-1" [Notice.notice, Notice.payment]
        Notice.links = .ok graph ∧
      ∃ ancestors, graph.ancestorsOf Notice.notice = .ok ancestors ∧
        ∀ node, node ∈ ancestors ↔ node = Notice.payment := by
  obtain ⟨accepts, stops, ancestry⟩ := causal_validation_is_exact Notice.asGiven "graph-1"
    [Notice.notice, Notice.payment] Notice.links
  constructor
  · apply stops Notice.valid.distinct
    intro link member
    apply check_link_ok.mpr
    refine ⟨Notice.valid.endpoints link member, ?_⟩
    intro itself
    exact Notice.valid.acyclic _ (.single ⟨link, member, rfl, itself.symm⟩)
  · obtain ⟨graph, built⟩ := accepts.mpr Notice.valid
    obtain ⟨ancestors, returned, _, found⟩ := ancestry graph built Notice.notice (by simp)
    refine ⟨graph, built, ancestors, returned, ?_⟩
    intro node
    rw [found, Notice.walk_iff]
    simp

end KarmaSakshi.Guarantees
