import KarmaSakshi.Domain.Plan
import KarmaSakshi.Domain.Quorum
import KarmaSakshi.Library.Precedence
import KarmaSakshi.Library.Selection

/-!
The validators of a causal effect graph and its walk over the ancestors of a node.

The dictionaries of the depth loop are functions, and the order in which Python iterates a
set of nodes is a parameter: nothing below depends on it.
-/

namespace KarmaSakshi.Domain

open KarmaSakshi.Library KarmaSakshi.Library.Precedence

set_option autoImplicit false

def maxGraphNodes : Nat := 256

def maxGraphDepth : Nat := 32

/-- An order in which a set made of some texts is iterated. -/
structure SetOrder where
  iterate : List String → List String
  permutes : ∀ texts, (iterate texts).Perm texts.eraseDups

def checkNodes (nodes : List String) : Except String (List String) :=
  if nodes = [] then .error "causal graph requires at least one node"
  else if maxGraphNodes < nodes.length then
    .error ("causal graph exceeds " ++ toString maxGraphNodes ++ " nodes")
  else if ¬ nodes.Nodup then .error "causal graph node hashes must be unique"
  else .ok (pySorted nodes)

def checkLinks (links : List CausalLink) : Except String (List CausalLink) :=
  if ¬ (links.map CausalLink.linkId).Nodup then
    .error "causal graph link IDs must be unique"
  else .ok (links.mergeSort (fun left right => left.linkId ≤ right.linkId))

/-! ### The depth loop -/

/-- The variables of the loop. -/
structure GraphWalk where
  indegree : String → Int
  depths : String → Nat
  queue : List String
  visited : Nat
  maxDepth : Nat

namespace GraphWalk

variable (links : List CausalLink)

/-- The parents and children of the links. -/
def arcs : List (String × String) :=
  links.map (fun link => (link.parentManifestHash, link.childManifestHash))

/-- The `adjacency` of a node. -/
def adjacency (node : String) : List String :=
  (links.filter (fun link => link.parentManifestHash = node)).map CausalLink.childManifestHash

def start (order : SetOrder) (nodes : List String) : GraphWalk :=
  let indegree := fun node =>
    ((links.filter (fun link => link.childManifestHash = node)).length : Int)
  { indegree
    depths := fun _ => 1
    queue := (order.iterate nodes).filter (fun node => indegree node = 0)
    visited := 0
    maxDepth := 0 }

/-- One link less into `child`, which lies below a node of this depth. -/
def relax (depth : Nat) (walk : GraphWalk) (child : String) : GraphWalk :=
  { walk with
    depths := Function.update walk.depths child (max (walk.depths child) (depth + 1))
    indegree := Function.update walk.indegree child (walk.indegree child - 1)
    queue := if walk.indegree child - 1 = 0 then walk.queue ++ [child] else walk.queue }

/-- The head of the queue taken off and counted. -/
def take (walk : GraphWalk) (node : String) (rest : List String) : GraphWalk :=
  { walk with
    queue := rest
    visited := walk.visited + 1
    maxDepth := max walk.maxDepth (walk.depths node) }

def visit (walk : GraphWalk) (node : String) (rest : List String) : GraphWalk :=
  (adjacency links node).foldl (relax (walk.depths node)) (walk.take node rest)

/-- The loop over the queue.  A node is queued once, so it takes no more rounds than there
are nodes. -/
def drain : (rounds : Nat) → GraphWalk → GraphWalk
  | 0, walk => walk
  | rounds + 1, walk =>
      match walk.queue with
      | [] => walk
      | node :: rest => drain rounds (walk.visit links node rest)

/-- The variables after the loop. -/
def final (order : SetOrder) (nodes : List String) : GraphWalk :=
  drain links nodes.length (start links order nodes)

end GraphWalk

def checkLink (nodes : List String) (link : CausalLink) : Except String Unit :=
  if link.parentManifestHash ∉ nodes ∨ link.childManifestHash ∉ nodes then
    .error "every causal link endpoint must exist in graph nodes"
  else if link.parentManifestHash = link.childManifestHash then
    .error "a manifest cannot causally depend on itself"
  else .ok ()

def validateDag (order : SetOrder) (nodes : List String) (links : List CausalLink) :
    Except String Unit := do
  links.forM (checkLink nodes)
  let final := GraphWalk.final links order nodes
  if final.visited ≠ nodes.length then .error "causal graph must be acyclic"
  else if maxGraphDepth < final.maxDepth then
    .error ("causal graph exceeds maximum depth " ++ toString maxGraphDepth)
  else .ok ()

theorem check_nodes_ok {nodes sorted : List String} :
    checkNodes nodes = .ok sorted ↔
      (nodes ≠ [] ∧ nodes.length ≤ maxGraphNodes ∧ nodes.Nodup) ∧ sorted = pySorted nodes := by
  unfold checkNodes
  split_ifs with empty large repeated
  · simp [empty]
  · simp [large]
  · simp [empty, repeated, Nat.le_of_not_lt large, eq_comm]
  · simp [repeated]

theorem check_links_ok {links sorted : List CausalLink} :
    checkLinks links = .ok sorted ↔ (links.map CausalLink.linkId).Nodup ∧
      sorted = links.mergeSort (fun left right => left.linkId ≤ right.linkId) := by
  unfold checkLinks
  split_ifs with repeated
  · simp [repeated, eq_comm]
  · simp [repeated]

theorem check_link_ok {nodes : List String} {link : CausalLink} :
    checkLink nodes link = .ok () ↔ (link.parentManifestHash ∈ nodes ∧
      link.childManifestHash ∈ nodes) ∧ link.parentManifestHash ≠ link.childManifestHash := by
  unfold checkLink
  split_ifs with outside itself
  · constructor
    · intro impossible
      cases impossible
    · intro inside
      exact absurd outside (by simp [inside.1])
  · simp [itself]
  · have inside : link.parentManifestHash ∈ nodes ∧ link.childManifestHash ∈ nodes := by
      simpa [not_or] using outside
    simp [inside, itself]

theorem check_all_ok {nodes : List String} {links : List CausalLink} :
    links.forM (checkLink nodes) = .ok () ↔ ∀ link ∈ links, checkLink nodes link = .ok () := by
  induction links with
  | nil =>
      constructor
      · intro _ link member
        cases member
      · intro _
        rfl
  | cons link rest checked =>
      change (checkLink nodes link >>= fun _ => rest.forM (checkLink nodes)) = .ok () ↔ _
      rw [List.forall_mem_cons, ← checked]
      cases first : checkLink nodes link with
      | error message => simp [bind, Except.bind]
      | ok _ => simp [bind, Except.bind]

theorem dag_links_ok {order : SetOrder} {nodes : List String} {links : List CausalLink}
    (valid : validateDag order nodes links = .ok ()) :
    ∀ link ∈ links, checkLink nodes link = .ok () := by
  apply check_all_ok.mp
  unfold validateDag at valid
  cases checked : links.forM (checkLink nodes) with
  | error message =>
      rw [checked] at valid
      cases valid
  | ok _ => rfl

theorem checked_nodes_nonempty {nodes sorted : List String}
    (checked : checkNodes nodes = .ok sorted) : sorted ≠ [] := by
  obtain ⟨⟨nonempty, _⟩, rfl⟩ := check_nodes_ok.mp checked
  intro empty
  apply nonempty
  apply List.length_eq_zero_iff.mp
  rw [← (py_sorted_perm nodes).length_eq, empty, List.length_nil]

theorem dag_endpoints {order : SetOrder} {nodes : List String} {links : List CausalLink}
    (valid : validateDag order nodes links = .ok ()) :
    ∀ link ∈ links, link.parentManifestHash ∈ nodes ∧ link.childManifestHash ∈ nodes :=
  fun link member => (check_link_ok.mp (dag_links_ok valid link member)).1

namespace CausalEffectGraph

def errorsOf {Value : Type} : Except String Value → List String
  | .error message => [message]
  | .ok _ => []

/-- The constructor: both fields are checked, then the graph. -/
def build (order : SetOrder) (graphId : String) (nodes : List String)
    (links : List CausalLink) : Except PyError CausalEffectGraph :=
  match checked : checkNodes nodes, checkLinks links with
  | .ok sorted, .ok ordered =>
      match valid : validateDag order sorted ordered with
      | .ok _ => .ok {
          graphId
          nodeManifestHashes := sorted
          links := ordered
          nodesNonempty := checked_nodes_nonempty checked
          endpointsPresent := dag_endpoints valid }
      | .error message => .error ⟨.validationError, message⟩
  | nodesChecked, linksChecked => .error ⟨.validationError,
      String.intercalate "\n" (errorsOf nodesChecked ++ errorsOf linksChecked)⟩

/-! ### Ancestors in a causal graph -/

section Ancestors

variable (graph : CausalEffectGraph)

/-- The links that end in a node. -/
def linksInto (node : String) : List CausalLink :=
  graph.links.filter (fun link => link.childManifestHash = node)

/-- The links that the walk has not followed so far. -/
def linksLeft (seen : List String) : List CausalLink :=
  graph.links.filter (fun link => link.childManifestHash ∉ seen)

theorem links_left_split {seen : List String} {node : String} (fresh : node ∉ seen) :
    (graph.linksLeft seen).length =
      (graph.linksLeft (node :: seen)).length + (graph.linksInto node).length := by
  rw [linksLeft, linksLeft, linksInto]
  induction graph.links with
  | nil => rfl
  | cons link rest ih =>
      simp only [List.filter_cons, List.mem_cons, not_or] at ih ⊢
      by_cases into : link.childManifestHash = node
      · have unseen : link.childManifestHash ∉ seen := into ▸ fresh
        simp only [into, fresh, not_true_eq_false, not_false_eq_true, false_and, decide_true,
          decide_false, if_true, Bool.false_eq_true, if_false, List.length_cons]
        omega
      · by_cases known : link.childManifestHash ∈ seen
        · simp only [into, known, not_true_eq_false, and_false, decide_false, Bool.false_eq_true,
            if_false]
          exact ih
        · simp only [into, known, not_false_eq_true, and_self, decide_true, decide_false,
            Bool.false_eq_true, if_true, if_false, List.length_cons]
          omega

/-- The loop of `ancestors_of`: every link is followed at most once. -/
def ancestorsFrom (seen : List String) : List String → List String
  | [] => seen
  | node :: queue =>
      if node ∈ seen then ancestorsFrom seen queue
      else ancestorsFrom (node :: seen)
        (queue ++ (graph.linksInto node).map CausalLink.parentManifestHash)
termination_by queue => (graph.linksLeft seen).length + queue.length
decreasing_by
  · simp
  · rename_i fresh
    have split := graph.links_left_split fresh
    simp
    omega

def ancestorsOf (manifestHash : String) : Except PyError (List String) :=
  if manifestHash ∉ graph.nodeManifestHashes then
    .error ⟨.causalGraph, "manifest hash is not a node in this causal graph"⟩
  else .ok (pySorted (graph.ancestorsFrom []
    ((graph.linksInto manifestHash).map CausalLink.parentManifestHash)))

end Ancestors

end CausalEffectGraph

end KarmaSakshi.Domain
