import KarmaSakshi.Engine.AncestorWalk
import KarmaSakshi.Guarantees.Attenuation

/-!
Delegation trees and the ancestor walk over them.

A tree grows from one authorized root by delegations on one grant store, with
anything in between that leaves the delegated rows alone.  Delegation records the
row of each child; no authorization path records the row of a root, so whether the
walk can end depends on who else did.
-/

namespace KarmaSakshi.Guarantees

open EffectProgram KarmaSakshi.Domain KarmaSakshi.Stores KarmaSakshi.Engine

set_option autoImplicit false

variable {Host : Type} [DecidableEq Host]

/-! ### Trees of grants -/

/-- The four authorization paths, asked for a grant without a parent. -/
inductive RootIssuer : Action ExecutionGrant → Prop where
  | authorize (context : EngineContext) (readers : PayloadReaders) (call : AuthorizeCall)
      (root : call.parentGrantId = none) : RootIssuer (authorize context readers call)
  | authorizeWithEnvelope (context : EngineContext) (readers : PayloadReaders)
      (call : AuthorizeCall) (envelope : DecisionEnvelope) (root : call.parentGrantId = none) :
      RootIssuer (authorizeWithEnvelope context readers call envelope)
  | authorizePlan (context : EngineContext) (readers : PayloadReaders) (call : AuthorizeCall)
      (graph : CausalEffectGraph) (root : call.parentGrantId = none) :
      RootIssuer (authorizePlan context readers call graph)
  | authorizeWithQuorum (context : EngineContext) (readers : PayloadReaders)
      (call : AuthorizeCall) (primitives : ApprovalPrimitives) (asked : QuorumCall)
      (root : call.parentGrantId = none) :
      RootIssuer (authorizeWithQuorum context readers call primitives asked)

/-- A grant with the identifiers of its ancestors, nearest first. -/
structure Node where
  grant : ExecutionGrant
  ancestors : List String

def Node.grantId (node : Node) : String := node.grant.grantId

/-- The node with everything above it. -/
def Node.chain (node : Node) : List String := node.grantId :: node.ancestors

/-- The trees that can have been issued by the time the world is as it is. -/
inductive Grown (environment : Environment) : List Node → World Host → Prop where
  | root {issuing : Action ExecutionGrant} {host : Host} {world after : World Host}
      {grant : ExecutionGrant} (issuer : RootIssuer issuing)
      (returned : issuing.Yields (environment.answers host) world (.ok grant) after) :
      Grown environment [⟨grant, []⟩] after
  | branch {nodes : List Node} {context : EngineContext} {delegation : DelegateCall} {host : Host}
      {world after : World Host} {parent : Node} {child : ExecutionGrant}
      (grown : Grown environment nodes world) (member : parent ∈ nodes)
      (ofParent : delegation.parent = parent.grant)
      (shallow : parent.ancestors.length < maxDelegationDepth)
      (fresh : child.grantId ∉ nodes.map Node.grantId)
      (returned : (delegate context delegation).Yields (environment.answers host) world
        (.ok child) after) : Grown environment (⟨child, parent.chain⟩ :: nodes) after
  | meanwhile {nodes : List Node} {world after : World Host}
      (grown : Grown environment nodes world)
      (kept : ∀ node ∈ nodes, node.ancestors ≠ [] →
        after.grants.view.lineage node.grantId = world.grants.view.lineage node.grantId) :
      Grown environment nodes after

/-- The walk returns every node's ancestors in order, and once any of them is
revoked it refuses the node for that reason. -/
structure LineageComplete (nodes : List Node) (world : World Host) : Prop where
  returns : ∀ node ∈ nodes, walkOn world.grants node.grant = .ok node.ancestors
  refuses : ∀ store : GrantStore, store.view.lineage = world.grants.view.lineage →
    ∀ node ∈ nodes, (∃ ancestor ∈ node.ancestors, store.view.isRevoked ancestor = true) →
      ∃ message, walkOn store node.grant = .error ⟨.grantRevoked, message⟩

/-! ### The recorded shape of a tree -/

structure TreeShape (lineage : String → Option (Option String)) (rootId : String)
    (nodes : List Node) : Prop where
  rooted : ∃ node ∈ nodes, node.grantId = rootId ∧ node.ancestors = []
  onlyRoot : ∀ node ∈ nodes, node.ancestors = [] → node.grantId = rootId
  parent : ∀ node ∈ nodes, node.grant.parentGrantId = node.ancestors.head?
  linked : ∀ node ∈ nodes, Linked lineage node.chain
  ends : ∀ node ∈ nodes, node.chain.getLast? = some rootId
  distinct : ∀ node ∈ nodes, node.chain.Nodup
  listed : ∀ node ∈ nodes, ∀ ancestor ∈ node.ancestors, ∃ other ∈ nodes,
    other.grantId = ancestor
  depth : ∀ node ∈ nodes, node.ancestors.length ≤ maxDelegationDepth

section Shape

variable {lineage : String → Option (Option String)} {rootId : String} {nodes : List Node}

/-- Everyone in a chain is a node of the tree. -/
theorem TreeShape.member_is_node (shape : TreeShape lineage rootId nodes) {node : Node}
    (inTree : node ∈ nodes) {member : String} (inside : member ∈ node.chain) :
    ∃ other ∈ nodes, other.grantId = member := by
  rcases List.mem_cons.mp inside with rfl | above
  · exact ⟨node, inTree, rfl⟩
  · exact shape.listed node inTree member above

/-- Only the last member of a chain is the root. -/
theorem inner_member_differs {chain : List String} {last member : String}
    (distinct : chain.Nodup) (ends : chain.getLast? = some last)
    (inner : member ∈ chain.dropLast) : member ≠ last := by
  have split : chain.dropLast ++ [last] = chain :=
    List.dropLast_append_getLast? last (Option.mem_def.mpr ends)
  rw [← split] at distinct
  rintro rfl
  exact (List.nodup_append.mp distinct).2.2 member inner member List.mem_cons_self rfl

/-- Rows that stay for the delegated nodes keep every chain linked. -/
theorem TreeShape.kept (shape : TreeShape lineage rootId nodes)
    {other : String → Option (Option String)}
    (kept : ∀ node ∈ nodes, node.ancestors ≠ [] → other node.grantId = lineage node.grantId) :
    TreeShape other rootId nodes := by
  refine { shape with linked := ?_ }
  intro node inTree
  apply (shape.linked node inTree).congr
  intro member inner
  obtain ⟨owner, ownerInTree, same⟩ :=
    shape.member_is_node inTree (List.dropLast_subset _ inner)
  subst same
  apply kept owner ownerInTree
  intro isRoot
  exact inner_member_differs (shape.distinct node inTree) (shape.ends node inTree) inner
    (shape.onlyRoot owner ownerInTree isRoot)

theorem root_shape {grant : ExecutionGrant} (orphan : grant.parentGrantId = none) :
    TreeShape lineage grant.grantId [⟨grant, []⟩] := by
  constructor
  case rooted => exact ⟨⟨grant, []⟩, List.mem_cons_self, rfl, rfl⟩
  case onlyRoot =>
    intro node inTree _
    rw [List.mem_singleton.mp inTree]
    rfl
  case parent =>
    intro node inTree
    rw [List.mem_singleton.mp inTree]
    exact orphan
  case linked =>
    intro node inTree
    rw [List.mem_singleton.mp inTree]
    trivial
  case ends =>
    intro node inTree
    rw [List.mem_singleton.mp inTree]
    rfl
  case distinct =>
    intro node inTree
    rw [List.mem_singleton.mp inTree]
    exact List.nodup_singleton _
  case listed =>
    intro node inTree ancestor above
    rw [List.mem_singleton.mp inTree] at above
    cases above
  case depth =>
    intro node inTree
    rw [List.mem_singleton.mp inTree]
    exact Nat.zero_le _

/-- A delegation adds one row under a fresh identifier. -/
theorem TreeShape.branch (shape : TreeShape lineage rootId nodes) {parent : Node}
    (inTree : parent ∈ nodes) {child : ExecutionGrant}
    (descends : child.parentGrantId = some parent.grantId)
    (fresh : child.grantId ∉ nodes.map Node.grantId)
    (shallow : parent.ancestors.length < maxDelegationDepth) :
    TreeShape (Function.update lineage child.grantId (some (some parent.grantId))) rootId
      (⟨child, parent.chain⟩ :: nodes) := by
  have newcomer : ∀ node ∈ nodes, node.grantId ≠ child.grantId := by
    intro node member same
    exact fresh (List.mem_map.mpr ⟨node, member, same⟩)
  have outside : child.grantId ∉ parent.chain := by
    intro inside
    obtain ⟨other, member, same⟩ := shape.member_is_node inTree inside
    exact newcomer other member same
  have older : TreeShape (Function.update lineage child.grantId (some (some parent.grantId)))
      rootId nodes :=
    shape.kept (fun node member _ => Function.update_of_ne (newcomer node member) _ _)
  constructor
  case rooted =>
    obtain ⟨node, member, isRoot⟩ := shape.rooted
    exact ⟨node, List.mem_cons_of_mem _ member, isRoot⟩
  case onlyRoot =>
    intro node member orphan
    rcases List.mem_cons.mp member with rfl | old
    · cases orphan
    · exact shape.onlyRoot node old orphan
  case parent =>
    intro node member
    rcases List.mem_cons.mp member with rfl | old
    · exact descends
    · exact shape.parent node old
  case linked =>
    intro node member
    rcases List.mem_cons.mp member with rfl | old
    · exact ⟨Function.update_self _ _ _, older.linked parent inTree⟩
    · exact older.linked node old
  case ends =>
    intro node member
    rcases List.mem_cons.mp member with rfl | old
    · exact (List.getLast?_cons_cons).trans (shape.ends parent inTree)
    · exact shape.ends node old
  case distinct =>
    intro node member
    rcases List.mem_cons.mp member with rfl | old
    · exact List.nodup_cons.mpr ⟨outside, shape.distinct parent inTree⟩
    · exact shape.distinct node old
  case listed =>
    intro node member ancestor above
    rcases List.mem_cons.mp member with rfl | old
    · obtain ⟨other, known, same⟩ := shape.member_is_node inTree above
      exact ⟨other, List.mem_cons_of_mem _ known, same⟩
    · obtain ⟨other, known, same⟩ := shape.listed node old ancestor above
      exact ⟨other, List.mem_cons_of_mem _ known, same⟩
  case depth =>
    intro node member
    rcases List.mem_cons.mp member with rfl | old
    · exact shallow
    · exact shape.depth node old

end Shape

/-! ### Issued trees -/

section Issued

variable {environment : Environment} {host : Host} {world after : World Host}
  {nodes : List Node}

theorem minted_parent {context : EngineContext} {request : GrantRequest} {key : SigningKey}
    {grant : ExecutionGrant} (minted : Minted context.crypto request key grant) :
    grant.parentGrantId = request.parentGrantId := by
  obtain ⟨wellFormed, issuedAt, rfl⟩ := minted
  rfl

theorem root_issuer_returns {issuing : Action ExecutionGrant} {grant : ExecutionGrant}
    (issuer : RootIssuer issuing)
    (returned : issuing.Yields (environment.answers host) world (.ok grant) after) :
    grant.parentGrantId = none := by
  cases issuer with
  | authorize context readers call root =>
      exact (minted_parent (authorize_returns returned)).trans root
  | authorizeWithEnvelope context readers call envelope root =>
      exact (minted_parent (authorize_with_envelope_returns returned)).trans root
  | authorizePlan context readers call graph root =>
      exact (minted_parent (authorize_plan_returns returned)).trans root
  | authorizeWithQuorum context readers call primitives asked root =>
      obtain ⟨quorum, minted⟩ := authorize_with_quorum_returns returned
      exact (minted_parent minted).trans root

/-- Minting reads the clock and writes nothing. -/
theorem issue_grant_keeps_world {context : EngineContext} {request : GrantRequest}
    {key : SigningKey} {grant : ExecutionGrant}
    (returned : (issueGrant context request key).Yields (environment.answers host) world
      (.ok grant) after) : after = world := by
  unfold issueGrant at returned
  by_cases agent : request.issuer.principalType = .agent
  · rw [if_pos agent] at returned
    cases returned.1
  · rw [if_neg agent] at returned
    obtain ⟨issuedAt, read, told, rest⟩ := yields_bind_ok.mp returned
    obtain ⟨unsigned, built, settled, final⟩ := yields_bind_ok.mp rest
    rw [final.2, (yields_settle.mp settled).2]
    exact (yields_perform.mp told).2

theorem recorded_lineage {grantId : String} {parent : Option String}
    (told : environment.answers host world (.grants (.recordLineage grantId parent)) (.ok ())
      after) :
    after.grants.view.lineage = Function.update world.grants.view.lineage grantId (some parent) := by
  rcases told with ⟨error, _, impossible, _⟩ | ⟨_, stored⟩
  · cases impossible
  · subst stored
    exact congrArg InMemoryGrantStore.lineage
      (world.grants.serve_view (.recordLineage grantId parent)).2

theorem audit_keeps_grants {record : AuditRecord} {done : Unit}
    (told : environment.answers host world (.audit record) (.ok done) after) :
    after.grants = world.grants := by
  rcases told with ⟨error, _, impossible, _⟩ | ⟨_, stored⟩
  · cases impossible
  · rw [stored]

/-- A delegation records its child's row and no other. -/
theorem delegate_records {context : EngineContext} {delegation : DelegateCall}
    {child : ExecutionGrant}
    (returned : (delegate context delegation).Yields (environment.answers host) world
      (.ok child) after) :
    child.parentGrantId = some delegation.parent.grantId ∧
      after.grants.view.lineage = Function.update world.grants.view.lineage child.grantId
        (some (some delegation.parent.grantId)) := by
  have descends := minted_parent (delegate_returns returned).1
  refine ⟨descends, ?_⟩
  obtain ⟨minted, issued, minting, rest⟩ := yields_bind_ok.mp returned
  have sameWorld := issue_grant_keeps_world minting
  cases narrower : assertGrantNarrowerOrEqual minted delegation.parent with
  | error error =>
      simp only [narrower] at rest
      obtain ⟨_, _, _, impossible⟩ := yields_bind_ok.mp rest
      cases impossible.1
  | ok done =>
      simp only [narrower] at rest
      obtain ⟨_, audited, told, recording⟩ := yields_bind_ok.mp rest
      obtain ⟨recorded, between, record, final⟩ := yields_bind_ok.mp recording
      obtain rfl := Except.ok.inj final.1
      obtain rfl := final.2
      rw [recordGrantLineage, show child.parentGrantId = some delegation.parent.grantId from
        descends] at record
      rw [recorded_lineage (yields_perform.mp record),
        audit_keeps_grants (yields_perform.mp told), sameWorld]

theorem grown_shape (grown : Grown environment nodes world) :
    ∃ rootId, TreeShape world.grants.view.lineage rootId nodes := by
  induction grown with
  | root issuer returned => exact ⟨_, root_shape (root_issuer_returns issuer returned)⟩
  | branch grown member ofParent shallow fresh returned ih =>
      obtain ⟨rootId, shape⟩ := ih
      obtain ⟨descends, recorded⟩ := delegate_records returned
      rw [ofParent] at descends recorded
      refine ⟨rootId, ?_⟩
      rw [recorded]
      exact shape.branch member descends fresh shallow
  | meanwhile grown kept ih =>
      obtain ⟨rootId, shape⟩ := ih
      exact ⟨rootId, shape.kept kept⟩

/-! ### What the walk finds -/

variable {rootId : String} {store : GrantStore}

theorem TreeShape.ahead (shape : TreeShape store.view.lineage rootId nodes) {node : Node}
    (inTree : node ∈ nodes) :
    Ahead store.view node.grantId maxDelegationDepth node.ancestors [] := by
  have distinct := List.nodup_cons.mp (shape.distinct node inTree)
  exact {
    linked := (shape.linked node inTree).tail
    distinct := distinct.2
    unmet := fun _ _ met => absurd met List.not_mem_nil
    foreign := distinct.1
    short := shape.depth node inTree }

/-- Every ancestor unrevoked and the root recorded: the walk returns the ancestors. -/
theorem TreeShape.walk_returns (shape : TreeShape store.view.lineage rootId nodes) {node : Node}
    (inTree : node ∈ nodes)
    (unrevoked : ∀ ancestor ∈ node.ancestors, store.view.isRevoked ancestor = false)
    (recorded : node.ancestors ≠ [] → store.view.lineage rootId = some none) :
    walkOn store node.grant = .ok node.ancestors := by
  have ahead := shape.ahead inTree
  rw [walk_on_rows, shape.parent node inTree]
  cases chain : node.ancestors with
  | nil => rfl
  | cons nearest above =>
      rw [chain] at ahead unrevoked
      simp only [List.head?_cons]
      rw [show node.grant.grantId = node.grantId from rfl]
      apply walk_returns_chain ahead unrevoked
      intro root last
      have ends := shape.ends node inTree
      rw [Node.chain, chain, List.getLast?_cons_cons, last] at ends
      rw [Option.some.inj ends]
      exact recorded (by simp [chain])

theorem TreeShape.walk_refuses (shape : TreeShape store.view.lineage rootId nodes) {node : Node}
    (inTree : node ∈ nodes)
    (revoked : ∃ ancestor ∈ node.ancestors, store.view.isRevoked ancestor = true) :
    ∃ message, walkOn store node.grant = .error ⟨.grantRevoked, message⟩ := by
  obtain ⟨nearest, message, isHead, stops⟩ :=
    walk_meets_revoked (shape.ahead inTree) revoked
  refine ⟨message, ?_⟩
  rw [walk_on_rows, shape.parent node inTree, isHead]
  exact stops

/-- A returned walk of a delegated node has found the root's row. -/
theorem TreeShape.root_recorded (shape : TreeShape store.view.lineage rootId nodes) {node : Node}
    (inTree : node ∈ nodes) (delegated : node.ancestors ≠ [])
    (returned : walkOn store node.grant = .ok node.ancestors) :
    store.view.lineage rootId = some none := by
  rw [walk_on_rows, shape.parent node inTree] at returned
  have ends := shape.ends node inTree
  cases chain : node.ancestors with
  | nil => exact absurd chain delegated
  | cons nearest above =>
      rw [chain] at returned
      obtain ⟨root, last, recorded⟩ := returned_walk_is_rooted returned
      rw [Node.chain, chain, List.getLast?_cons_cons, last] at ends
      rw [← Option.some.inj ends]
      exact recorded

/-- With nothing revoked, a tree's lineage is complete exactly when the tree has no
delegated node, or its root's row was recorded by somebody else. -/
theorem lineage_complete_iff (grown : Grown environment nodes world)
    (unrevoked : ∀ node ∈ nodes, world.grants.view.isRevoked node.grantId = false) :
    LineageComplete nodes world ↔
      (∀ node ∈ nodes, node.ancestors = []) ∨
        ∃ root ∈ nodes, root.ancestors = [] ∧
          world.grants.view.lineage root.grantId = some none := by
  obtain ⟨rootId, shape⟩ := grown_shape grown
  constructor
  · intro complete
    by_cases alone : ∀ node ∈ nodes, node.ancestors = []
    · exact Or.inl alone
    · right
      push Not at alone
      obtain ⟨node, inTree, delegated⟩ := alone
      obtain ⟨root, member, same, orphan⟩ := shape.rooted
      subst same
      exact ⟨root, member, orphan,
        shape.root_recorded inTree delegated (complete.returns node inTree)⟩
  · intro covered
    constructor
    · intro node inTree
      apply shape.walk_returns inTree
      · intro ancestor above
        obtain ⟨other, member, same⟩ := shape.listed node inTree ancestor above
        rw [← same]
        exact unrevoked other member
      · intro delegated
        rcases covered with alone | ⟨root, member, orphan, recorded⟩
        · exact absurd (alone node inTree) delegated
        · rw [← shape.onlyRoot root member orphan]
          exact recorded
    · intro store sameLineage node inTree revoked
      rw [← sameLineage] at shape
      exact shape.walk_refuses inTree revoked

end Issued

/-! ### A root and its child -/

namespace Delegating

def rootCall : AuthorizeCall where
  «sealed» := Payment.sealedTransfer
  issuer := Payment.treasury
  subject := Payment.agent
  audience := ["payments"]
  allowedEffectTypes := ["payment.transfer"]
  scope := Payment.anyScope
  notBefore := Payment.opening
  expiresAt := Payment.closing
  signingKey := issuerSigning
  grantId := some "grant-1"
  nonce := some "nonce-grant-1"
  generatedId := "0d1f7b5e-52c7-4d0a-8a63-5d6a1c1f0b11"
  generatedNonce := "5f0c2c0e8d9b4f0a9a1f7a7e3c1d2b34"
  maxUses := 1
  parentGrantId := none
  authorityBudgetId := none
  policyBundle := none
  separationPolicyBundle := none
  roleAssignment := none

/-- No policy payload is read here. -/
def readers : PayloadReaders where
  approvalPolicy := fun _ => .error ⟨.validationError, ""⟩
  separationPolicy := fun _ => .error ⟨.validationError, ""⟩

/-- The transfer is sealed, and the root is issued at the opening. -/
def sealedWorld : World Unit :=
  { Payment.emptyWorld Unit with lifecycle := .memory ⟨fun _ => some .sealed⟩ }

def atOpening : Script := { Payment.prompt with instant := Payment.opening }

def rooted : Except PyError ExecutionGrant × World Unit :=
  (authorize context readers rootCall).run (atOpening.serve ()) sealedWorld

def branched : Except PyError ExecutionGrant × World Unit :=
  (delegate context (delegationOf Payment.transferGrant "grant-5")).run (Payment.prompt.serve ())
    rooted.2

def child : ExecutionGrant := branched.1.toOption.getD Payment.transferGrant

def tree : List Node := [⟨child, ["grant-1"]⟩, ⟨Payment.transferGrant, []⟩]

theorem scripted_issue {script : Script} {issuing : Action ExecutionGrant} {world : World Unit}
    {grant : ExecutionGrant} (returns : (issuing.run (script.serve ()) world).1 = .ok grant) :
    issuing.Yields (script.environment.answers ()) world (.ok grant)
      (issuing.run (script.serve ()) world).2 := by
  rw [← returns]
  exact Program.run_yields (script.serves ()) issuing world

theorem root_issued : (authorize context readers rootCall).Yields handler sealedWorld
    (.ok Payment.transferGrant) rooted.2 :=
  scripted_issue (show rooted.1 = .ok Payment.transferGrant by decide +kernel)

theorem child_issued :
    (delegate context (delegationOf Payment.transferGrant "grant-5")).Yields handler rooted.2
      (.ok child) branched.2 :=
  scripted_issue (show branched.1 = .ok child by decide +kernel)

theorem tree_grown : Grown Payment.prompt.environment tree branched.2 :=
  .branch (.root (.authorize context readers rootCall rfl) root_issued) List.mem_cons_self rfl
    (by decide) (by decide +kernel) child_issued

end Delegating

/-- No issuer records the root's row, so the walk from the child refuses. -/
theorem unrecorded_root_ends_no_walk : ∃ nodes world,
    Grown Payment.prompt.environment nodes (world : World Unit) ∧
    (∀ node ∈ nodes, world.grants.view.isRevoked node.grantId = false) ∧
    ¬ LineageComplete nodes world := by
  refine ⟨Delegating.tree, Delegating.branched.2, Delegating.tree_grown, by decide +kernel, ?_⟩
  intro complete
  have refused : isError (walkOn Delegating.branched.2.grants Delegating.child) = true := by
    decide +kernel
  rw [complete.returns ⟨Delegating.child, ["grant-1"]⟩ List.mem_cons_self] at refused
  cases refused

/-- Once somebody records the root's row, the same tree is complete. -/
theorem recorded_root_ends_every_walk : LineageComplete Delegating.tree
    { Delegating.branched.2 with
      grants := (Delegating.branched.2.grants.serve (.recordLineage "grant-1" none)).2 } := by
  refine (lineage_complete_iff (Delegating.tree_grown.meanwhile ?_) (by decide +kernel)).mpr ?_
  · intro node inTree delegated
    rcases List.mem_cons.mp inTree with rfl | isRoot
    · decide +kernel
    · rw [List.mem_singleton.mp isRoot] at delegated
      exact absurd rfl delegated
  · exact Or.inr ⟨⟨Payment.transferGrant, []⟩, List.mem_cons_of_mem _ List.mem_cons_self, rfl,
      by decide +kernel⟩

end KarmaSakshi.Guarantees
