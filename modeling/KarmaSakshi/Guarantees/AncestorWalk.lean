import Mathlib.Data.List.Induction
import KarmaSakshi.Library.Reachability
import KarmaSakshi.Engine.AncestorWalk
import KarmaSakshi.Engine.Scenario

/-!
What the ancestor walk decides, for any content of the grant store.

The recorded parent links may loop, break off or go on for ever.  Each hop of the walk
examines one ancestor, and a hop that shows a violation ends the walk with the error of
that violation.
-/

namespace KarmaSakshi.Guarantees

open EffectProgram KarmaSakshi.Domain KarmaSakshi.Stores KarmaSakshi.Engine

set_option autoImplicit false

/-! ### Hops and violations -/

/-- What `assert_no_revoked_ancestors` makes of a grant on a store, and the store after it. -/
def walkUpTo (store : GrantStore) (grant : ExecutionGrant) (maxDepth : Nat) :
    Except PyError (List String) × GrantStore :=
  (assertNoRevokedAncestors grant maxDepth).run storeServer store

/-- What a hop may find wrong, in the order in which it looks. -/
inductive Violation where
  | depth
  | cycle
  | revoked
  | missing
  deriving DecidableEq

namespace Violation

def rank : Violation → Nat
  | depth => 0
  | cycle => 1
  | revoked => 2
  | missing => 3

def kind : Violation → ErrorClass
  | revoked => .grantRevoked
  | depth | cycle | missing => .delegationLineage

/-- The hop to `current`, after those to `passed`, shows the violation. -/
def At (rows : InMemoryGrantStore) (grantId : String) (maxDepth : Nat) (passed : List String)
    (current : String) : Violation → Prop
  | depth => maxDepth ≤ passed.length
  | cycle => current = grantId ∨ current ∈ passed
  | revoked => rows.isRevoked current = true
  | missing => rows.lineage current = none

end Violation

/-- The parent chain of the grant starts with these ancestors. -/
structure Ascends (rows : InMemoryGrantStore) (grant : ExecutionGrant)
    (ancestors : List String) : Prop where
  start : ancestors.head? = grant.parentGrantId
  linked : Linked rows.lineage ancestors

/-- The parent chain reaches a recorded root within the bound, without repetition and
without a revoked grant. -/
structure ReachesRoot (rows : InMemoryGrantStore) (grant : ExecutionGrant) (maxDepth : Nat)
    (ancestors : List String) : Prop extends Ascends rows grant ancestors where
  rooted : ∀ root, ancestors.getLast? = some root → rows.lineage root = some none
  short : ancestors.length ≤ maxDepth
  distinct : ancestors.Nodup
  foreign : grant.grantId ∉ ancestors
  unrevoked : ∀ ancestor ∈ ancestors, rows.isRevoked ancestor = false

/-- No hop along the chain shows a violation. -/
def Clear (rows : InMemoryGrantStore) (grantId : String) (maxDepth : Nat)
    (chain : List String) : Prop :=
  ∀ before ancestor after, chain = before ++ ancestor :: after →
    ∀ violation : Violation, ¬ violation.At rows grantId maxDepth before ancestor

/-- The first violation along the parent chain: none at an earlier hop, and none that the
same hop would have found before it. -/
structure FirstViolation (rows : InMemoryGrantStore) (grant : ExecutionGrant) (maxDepth : Nat)
    (passed : List String) (current : String) (violation : Violation) : Prop
    extends Ascends rows grant (passed ++ [current]) where
  clear : Clear rows grant.grantId maxDepth passed
  shown : violation.At rows grant.grantId maxDepth passed current
  first : ∀ other : Violation, other.rank < violation.rank →
    ¬ other.At rows grant.grantId maxDepth passed current

/-! ### One hop -/

section Hops

variable {rows : InMemoryGrantStore} {grantId : String} {maxDepth left : Nat}
variable {checked : List String} {current : String}

/-- The error of a violation, as the walk words it. -/
def Violation.error (grantId : String) (maxDepth : Nat) (passed : List String)
    (current : String) : Violation → PyError
  | depth => depthExceeded grantId maxDepth
  | cycle => lineageCycle grantId current
  | revoked => ancestorRevoked grantId current (passed.length + 1)
  | missing => lineageUnknown grantId current

theorem violation_error_kind (violation : Violation) :
    (violation.error grantId maxDepth checked current).kind = violation.kind := by
  cases violation <;> rfl

/-- A hop without a violation goes on to the recorded parent, or ends the walk at a root. -/
theorem clear_hop (hops : checked.length + left = maxDepth)
    (clear : ∀ violation : Violation, ¬ violation.At rows grantId maxDepth checked current) :
    ∃ fewer parent, left = fewer + 1 ∧ rows.lineage current = some parent ∧
      walkRows rows grantId maxDepth left current checked =
        match parent with
        | some next => walkRows rows grantId maxDepth fewer next (checked ++ [current])
        | none => .ok (checked ++ [current]) := by
  have within : ¬ maxDepth ≤ checked.length := clear .depth
  have fresh : ¬ (current = grantId ∨ current ∈ checked) := clear .cycle
  have unrevoked : ¬ rows.isRevoked current = true := clear .revoked
  have recorded : ¬ rows.lineage current = none := clear .missing
  obtain ⟨fewer, counted⟩ : ∃ fewer, left = fewer + 1 := Nat.exists_eq_succ_of_ne_zero (by omega)
  obtain ⟨parent, row⟩ := Option.ne_none_iff_exists'.mp recorded
  refine ⟨fewer, parent, counted, row, ?_⟩
  rw [counted, walkRows, if_neg fresh, if_neg unrevoked, parent_of_row row]
  cases parent with
  | some next => rfl
  | none => simp [InMemoryGrantStore.hasLineage, row]

/-- A hop with a violation ends the walk with the error of the first one. -/
theorem violating_hop (hops : checked.length + left = maxDepth) {violation : Violation}
    (shown : violation.At rows grantId maxDepth checked current)
    (first : ∀ other : Violation, other.rank < violation.rank →
      ¬ other.At rows grantId maxDepth checked current) :
    walkRows rows grantId maxDepth left current checked =
      .error (violation.error grantId maxDepth checked current) := by
  cases left with
  | zero =>
      have reached : Violation.depth.At rows grantId maxDepth checked current :=
        Nat.le_of_eq hops.symm
      cases violation with
      | depth => rfl
      | cycle | revoked | missing => exact absurd reached (first .depth (by decide))
  | succ fewer =>
      rw [walkRows]
      cases violation with
      | depth =>
          have reached : maxDepth ≤ checked.length := shown
          omega
      | cycle => exact if_pos shown
      | revoked =>
          have fresh : ¬ (current = grantId ∨ current ∈ checked) := first .cycle (by decide)
          have marked : rows.isRevoked current = true := shown
          have depth : maxDepth - fewer = checked.length + 1 := by omega
          rw [if_neg fresh, if_pos marked, depth]
          rfl
      | missing =>
          have fresh : ¬ (current = grantId ∨ current ∈ checked) := first .cycle (by decide)
          have unrevoked : ¬ rows.isRevoked current = true := first .revoked (by decide)
          have unrecorded : rows.lineage current = none := shown
          rw [if_neg fresh, if_neg unrevoked, InMemoryGrantStore.getParentGrantId, unrecorded]
          simp [InMemoryGrantStore.hasLineage, unrecorded, Violation.error]

/-- Every hop is clear or shows a first violation. -/
theorem clear_or_first (rows : InMemoryGrantStore) (grantId : String) (maxDepth : Nat)
    (checked : List String) (current : String) :
    (∀ violation : Violation, ¬ violation.At rows grantId maxDepth checked current) ∨
      ∃ violation : Violation, violation.At rows grantId maxDepth checked current ∧
        ∀ other : Violation, other.rank < violation.rank →
          ¬ other.At rows grantId maxDepth checked current := by
  by_cases depth : Violation.depth.At rows grantId maxDepth checked current
  · refine Or.inr ⟨.depth, depth, ?_⟩
    intro other lower
    exact absurd lower (Nat.not_lt_zero _)
  by_cases cycle : Violation.cycle.At rows grantId maxDepth checked current
  · refine Or.inr ⟨.cycle, cycle, ?_⟩
    intro other lower
    cases other with
    | depth => exact depth
    | cycle | revoked | missing => exact absurd lower (by decide)
  by_cases revoked : Violation.revoked.At rows grantId maxDepth checked current
  · refine Or.inr ⟨.revoked, revoked, ?_⟩
    intro other lower
    cases other with
    | depth => exact depth
    | cycle => exact cycle
    | revoked | missing => exact absurd lower (by decide)
  by_cases missing : Violation.missing.At rows grantId maxDepth checked current
  · refine Or.inr ⟨.missing, missing, ?_⟩
    intro other lower
    cases other with
    | depth => exact depth
    | cycle => exact cycle
    | revoked => exact revoked
    | missing => exact absurd lower (by decide)
  · apply Or.inl
    intro violation
    cases violation with
    | depth => exact depth
    | cycle => exact cycle
    | revoked => exact revoked
    | missing => exact missing

end Hops

/-! ### Chains of clear hops -/

theorem linked_append_one {lineage : String → Option (Option String)} {before : List String}
    {child parent : String} :
    Linked lineage (before ++ [child] ++ [parent]) ↔
      Linked lineage (before ++ [child]) ∧ lineage child = some (some parent) := by
  induction before with
  | nil => simp [Linked]
  | cons first rest ih =>
      cases rest with
      | nil => simp [Linked]
      | cons second rest =>
          simp only [List.cons_append, Linked, List.nil_append, List.append_assoc] at ih ⊢
          rw [ih, and_assoc]

section Chains

variable {rows : InMemoryGrantStore} {grantId : String} {maxDepth : Nat} {chain : List String}

theorem clear_nil : Clear rows grantId maxDepth [] := by
  intro before ancestor after split
  exact absurd split (by simp)

theorem clear_append_one {ancestor : String} :
    Clear rows grantId maxDepth (chain ++ [ancestor]) ↔ Clear rows grantId maxDepth chain ∧
      ∀ violation : Violation, ¬ violation.At rows grantId maxDepth chain ancestor := by
  constructor
  · intro clear
    constructor
    · intro before earlier after split
      apply clear before earlier (after ++ [ancestor])
      rw [split, List.append_assoc, List.cons_append]
    · exact clear chain ancestor [] rfl
  · intro clear before earlier after split
    rcases List.eq_nil_or_concat after with empty | ⟨init, last, ends⟩
    · rw [empty] at split
      have same := List.append_inj' split rfl
      have last : ancestor = earlier := List.head_eq_of_cons_eq same.2
      rw [← same.1, ← last]
      exact clear.2
    · rw [ends, List.concat_eq_append, ← List.cons_append, ← List.append_assoc] at split
      exact clear.1 before earlier init (List.append_inj' split rfl).1

/-- A chain of clear hops repeats nothing, stays within the bound and is unrevoked. -/
theorem Clear.facts (clear : Clear rows grantId maxDepth chain) :
    chain.length ≤ maxDepth ∧ chain.Nodup ∧ grantId ∉ chain ∧
      ∀ ancestor ∈ chain, rows.isRevoked ancestor = false := by
  induction chain using List.reverseRecOn with
  | nil => simp
  | append_singleton chain ancestor ih =>
      obtain ⟨earlier, here⟩ := clear_append_one.mp clear
      obtain ⟨short, distinct, foreign, unrevoked⟩ := ih earlier
      have within : ¬ maxDepth ≤ chain.length := here .depth
      have fresh : ¬ (ancestor = grantId ∨ ancestor ∈ chain) := here .cycle
      have unmarked : ¬ rows.isRevoked ancestor = true := here .revoked
      push Not at fresh
      refine ⟨?_, ?_, ?_, ?_⟩
      · rw [List.length_append, List.length_singleton]
        omega
      · rw [List.nodup_append_comm, List.singleton_append, List.nodup_cons]
        exact ⟨fresh.2, distinct⟩
      · simp [foreign, Ne.symm fresh.1]
      · intro member inside
        rcases List.mem_append.mp inside with before | last
        · exact unrevoked member before
        · rw [List.mem_singleton.mp last]
          exact Bool.eq_false_iff.mpr unmarked

/-- The walk passes over a chain of clear hops. -/
theorem walk_passes {start current : String} (ascends : (chain ++ [current]).head? = some start)
    (linked : Linked rows.lineage (chain ++ [current])) (clear : Clear rows grantId maxDepth chain) :
    ∃ left, chain.length + left = maxDepth ∧
      walkRows rows grantId maxDepth maxDepth start [] =
        walkRows rows grantId maxDepth left current chain := by
  induction chain using List.reverseRecOn generalizing current with
  | nil =>
      have first : current = start := Option.some.inj ascends
      exact ⟨maxDepth, by simp, by rw [first]⟩
  | append_singleton chain ancestor ih =>
      obtain ⟨below, row⟩ := linked_append_one.mp linked
      obtain ⟨earlier, here⟩ := clear_append_one.mp clear
      have started : (chain ++ [ancestor]).head? = some start := by
        rwa [List.head?_append_of_ne_nil _ (List.concat_ne_nil ancestor chain)] at ascends
      obtain ⟨left, hops, passes⟩ := ih started below earlier
      obtain ⟨fewer, parent, counted, recorded, steps⟩ := clear_hop hops here
      have next : parent = some current := Option.some.inj (recorded.symm.trans row)
      refine ⟨fewer, ?_, ?_⟩
      · rw [List.length_append, List.length_singleton]
        omega
      · rw [passes, steps, next]

end Chains

/-! ### The whole walk -/

section Walk

variable {rows : InMemoryGrantStore} {grant : ExecutionGrant} {maxDepth : Nat}

/-- From any hop the walk has come to, it ends at a root or at a first violation. -/
theorem walk_ends {left : Nat} {current : String} {checked : List String}
    (hops : checked.length + left = maxDepth) (ascends : Ascends rows grant (checked ++ [current]))
    (clear : Clear rows grant.grantId maxDepth checked) :
    (∃ ancestors, walkRows rows grant.grantId maxDepth left current checked = .ok ancestors ∧
        ReachesRoot rows grant maxDepth ancestors) ∨
      ∃ violation passed stopped, FirstViolation rows grant maxDepth passed stopped violation ∧
        walkRows rows grant.grantId maxDepth left current checked =
          .error (violation.error grant.grantId maxDepth passed stopped) := by
  induction left generalizing current checked with
  | zero =>
      have reached : Violation.depth.At rows grant.grantId maxDepth checked current :=
        Nat.le_of_eq hops.symm
      have first : ∀ other : Violation, other.rank < Violation.depth.rank →
          ¬ other.At rows grant.grantId maxDepth checked current :=
        fun other lower => absurd lower (Nat.not_lt_zero _)
      exact Or.inr ⟨.depth, checked, current, ⟨ascends, clear, reached, first⟩, rfl⟩
  | succ left ih =>
      rcases clear_or_first rows grant.grantId maxDepth checked current with here | violates
      · obtain ⟨fewer, parent, counted, row, steps⟩ := clear_hop hops here
        have longer : Clear rows grant.grantId maxDepth (checked ++ [current]) :=
          clear_append_one.mpr ⟨clear, here⟩
        have fewerIsLeft : left = fewer := Nat.succ.inj counted
        rw [steps, ← fewerIsLeft]
        cases parent with
        | none =>
            obtain ⟨short, distinct, foreign, unrevoked⟩ := longer.facts
            have rooted : ∀ root, (checked ++ [current]).getLast? = some root →
                rows.lineage root = some none := by
              intro root last
              rw [List.getLast?_concat] at last
              rw [← Option.some.inj last, row]
            exact Or.inl ⟨_, rfl, ascends, rooted, short, distinct, foreign, unrevoked⟩
        | some next =>
            apply ih
            · rw [List.length_append, List.length_singleton]
              omega
            · constructor
              · rw [List.head?_append_of_ne_nil _ (by simp)]
                exact ascends.start
              · exact linked_append_one.mpr ⟨ascends.linked, row⟩
            · exact longer
      · obtain ⟨violation, shown, first⟩ := violates
        exact Or.inr ⟨violation, checked, current, ⟨ascends, clear, shown, first⟩,
          violating_hop hops shown first⟩

end Walk

theorem walk_up_to_rows (store : GrantStore) (grant : ExecutionGrant) {maxDepth : Nat}
    (positive : 1 ≤ maxDepth) (bounded : maxDepth ≤ maxDelegationDepth) :
    (walkUpTo store grant maxDepth).1 =
      match grant.parentGrantId with
      | none => .ok []
      | some parent => walkRows store.view grant.grantId maxDepth maxDepth parent [] := by
  have allowed : ¬ (maxDepth < 1 ∨ maxDelegationDepth < maxDepth) := by omega
  rw [walkUpTo, assertNoRevokedAncestors, if_neg allowed]
  cases grant.parentGrantId with
  | none => rfl
  | some parent => simp only [walk_ancestors_run]

theorem next_parent_asks (grantId current : String) : (nextParent grantId current).AsksAtMost 2 := by
  have asksParent : (perform (.grants (.getParentGrantId current)) :
      Action (Option String)).AsksAtMost 1 := asks_at_most_perform Nat.one_pos
  have asksLineage : (perform (.grants (.hasLineage current)) : Action Bool).AsksAtMost 1 :=
    asks_at_most_perform Nat.one_pos
  have budget : 2 = 1 + (1 + 0) := rfl
  rw [nextParent, budget]
  apply asksParent.bind
  intro parent
  cases parent with
  | some above => trivial
  | none =>
      apply asksLineage.bind
      intro recorded
      cases recorded <;> trivial

/-- Three reads a hop, whatever the store answers. -/
theorem walk_ancestors_asks (grantId : String) (maxDepth left : Nat) (current : String)
    (checked : List String) :
    (walkAncestors grantId maxDepth left current checked).AsksAtMost (3 * left) := by
  induction left generalizing current checked with
  | zero => trivial
  | succ left ih =>
      have budget : 3 * (left + 1) = 1 + (2 + 3 * left) := by omega
      have asksRevoked : (perform (.grants (.isRevoked current)) : Action Bool).AsksAtMost 1 :=
        asks_at_most_perform Nat.one_pos
      rw [walkAncestors, budget]
      by_cases cycle : current = grantId ∨ current ∈ checked
      · rw [if_pos cycle]
        trivial
      · rw [if_neg cycle]
        apply asksRevoked.bind
        intro revoked
        cases revoked with
        | true => trivial
        | false =>
            apply (next_parent_asks grantId current).bind
            intro parent
            cases parent with
            | none => trivial
            | some above => exact ih above (checked ++ [current])

theorem assert_asks (grant : ExecutionGrant) (maxDepth : Nat) :
    (assertNoRevokedAncestors grant maxDepth).AsksAtMost (3 * maxDepth) := by
  unfold assertNoRevokedAncestors
  by_cases refused : maxDepth < 1 ∨ maxDelegationDepth < maxDepth
  · rw [if_pos refused]
    trivial
  · rw [if_neg refused]
    cases grant.parentGrantId with
    | none => trivial
    | some parent => exact walk_ancestors_asks grant.grantId maxDepth maxDepth parent []

section Decided

variable {store : GrantStore} {grant : ExecutionGrant} {maxDepth : Nat}

theorem rooted_walk_returns (positive : 1 ≤ maxDepth) (bounded : maxDepth ≤ maxDelegationDepth)
    {ancestors : List String} (reaches : ReachesRoot store.view grant maxDepth ancestors) :
    (walkUpTo store grant maxDepth).1 = .ok ancestors := by
  rw [walk_up_to_rows store grant positive bounded, ← reaches.start]
  cases ancestors with
  | nil => rfl
  | cons parent rest =>
      have ahead : Ahead store.view grant.grantId maxDepth (parent :: rest) [] :=
        ⟨reaches.linked, reaches.distinct, by simp, reaches.foreign, reaches.short⟩
      exact walk_returns_chain ahead reaches.unrevoked reaches.rooted

theorem violated_walk_raises (positive : 1 ≤ maxDepth) (bounded : maxDepth ≤ maxDelegationDepth)
    {passed : List String} {current : String} {violation : Violation}
    (violates : FirstViolation store.view grant maxDepth passed current violation) :
    (walkUpTo store grant maxDepth).1 =
      .error (violation.error grant.grantId maxDepth passed current) := by
  have started := violates.start
  rw [walk_up_to_rows store grant positive bounded]
  cases parent : grant.parentGrantId with
  | none =>
      rw [parent, List.head?_eq_none_iff] at started
      exact absurd started (List.concat_ne_nil current passed)
  | some start =>
      obtain ⟨left, hops, passes⟩ :=
        walk_passes (started.trans parent) violates.linked violates.clear
      exact passes.trans (violating_hop hops violates.shown violates.first)

theorem walk_is_decided (positive : 1 ≤ maxDepth) (bounded : maxDepth ≤ maxDelegationDepth) :
    (∃ ancestors, (walkUpTo store grant maxDepth).1 = .ok ancestors ∧
        ReachesRoot store.view grant maxDepth ancestors) ∨
      ∃ violation passed current,
        FirstViolation store.view grant maxDepth passed current violation ∧
        (walkUpTo store grant maxDepth).1 =
          .error (violation.error grant.grantId maxDepth passed current) := by
  rw [walk_up_to_rows store grant positive bounded]
  cases parent : grant.parentGrantId with
  | none =>
      refine Or.inl ⟨[], rfl, ⟨parent.symm, trivial⟩, ?_, by simp, by simp, by simp, by simp⟩
      intro root last
      cases last
  | some start =>
      have ascends : Ascends store.view grant ([] ++ [start]) := ⟨parent.symm, trivial⟩
      exact walk_ends (Nat.zero_add maxDepth) ascends clear_nil

end Decided

/-- The walk reads the store a bounded number of times.  It returns the ancestors exactly
when they lead to a recorded root, and otherwise raises the error of the first violation. -/
theorem ancestor_walk_characterized (store : GrantStore) (grant : ExecutionGrant)
    (maxDepth : Nat) (positive : 1 ≤ maxDepth) (bounded : maxDepth ≤ maxDelegationDepth) :
    (assertNoRevokedAncestors grant maxDepth).AsksAtMost (3 * maxDepth) ∧
      (∀ ancestors, (walkUpTo store grant maxDepth).1 = .ok ancestors ↔
        ReachesRoot store.view grant maxDepth ancestors) ∧
      ∀ kind, (∃ message, (walkUpTo store grant maxDepth).1 = .error ⟨kind, message⟩) ↔
        ∃ violation passed current,
          FirstViolation store.view grant maxDepth passed current violation ∧
            violation.kind = kind := by
  refine ⟨assert_asks grant maxDepth, ?_, ?_⟩
  · intro ancestors
    constructor
    · intro returned
      rcases walk_is_decided positive bounded with ⟨found, returns, reaches⟩ | violated
      · have same : found = ancestors := Except.ok.inj (returns.symm.trans returned)
        exact same ▸ reaches
      · obtain ⟨violation, passed, current, _, raises⟩ := violated
        exact absurd (raises.symm.trans returned) (by simp)
    · exact rooted_walk_returns positive bounded
  · intro kind
    constructor
    · intro ⟨message, raised⟩
      rcases walk_is_decided positive bounded with ⟨found, returns, _⟩ | violated
      · exact absurd (returns.symm.trans raised) (by simp)
      · obtain ⟨violation, passed, current, violates, raises⟩ := violated
        have same := Except.error.inj (raises.symm.trans raised)
        refine ⟨violation, passed, current, violates, ?_⟩
        rw [← violation_error_kind violation, same]
    · intro ⟨violation, passed, current, violates, sort⟩
      have raises := violated_walk_raises positive bounded violates
      refine ⟨(violation.error grant.grantId maxDepth passed current).message, ?_⟩
      rw [raises, ← sort, ← violation_error_kind violation]

/-! ### A lineage that loops -/

namespace Looping

/-- The parent of the grant is its own parent. -/
def store : GrantStore :=
  .memory { InMemoryGrantStore.empty with
    lineage := fun grantId => if grantId = "grant-0" then some (some "grant-0") else none }

def grant : ExecutionGrant :=
  { Payment.transferGrant with parentGrantId := some "grant-0" }

theorem second_hop_is_a_cycle : FirstViolation store.view grant 16 ["grant-0"] "grant-0" .cycle := by
  have linked : Linked store.view.lineage ["grant-0", "grant-0"] := ⟨rfl, trivial⟩
  refine ⟨⟨rfl, linked⟩, ?_, Or.inr List.mem_cons_self, ?_⟩
  · have single : Clear store.view "grant-1" 16 ([] ++ ["grant-0"]) := by
      refine clear_append_one.mpr ⟨clear_nil, ?_⟩
      intro violation
      cases violation with
      | depth => exact Nat.not_le.mpr (by decide)
      | cycle => exact fun same => same.elim (by decide) (by simp)
      | revoked => exact Bool.false_ne_true
      | missing => exact Option.some_ne_none (some "grant-0")
    exact single
  · intro other lower
    cases other with
    | depth => exact Nat.not_le.mpr (by decide)
    | cycle | revoked | missing => exact absurd lower (by decide)

end Looping

theorem looping_lineage_is_refused :
    ∃ message, (walkUpTo Looping.store Looping.grant 16).1 = .error ⟨.delegationLineage, message⟩ :=
  ((ancestor_walk_characterized Looping.store Looping.grant 16 (by decide) (by decide)).2.2
    .delegationLineage).mpr ⟨.cycle, _, _, Looping.second_hop_is_a_cycle, rfl⟩

end KarmaSakshi.Guarantees
