import Mathlib.Data.List.Nodup
import KarmaSakshi.Library.Replay
import KarmaSakshi.Engine.Gates

/-!
The ancestor walk as a function of the grant store's content.

The walk asks the store for one grant at a time.  Over a store that answers, its
outcome is a recursion over the recorded lineage, and along a linked chain of rows
the recursion visits exactly the chain.
-/

namespace KarmaSakshi.Engine

open EffectProgram KarmaSakshi.Domain KarmaSakshi.Stores

set_option autoImplicit false

/-! ### The walk over one store -/

/-- The grant store answers and nothing else does. -/
def storeServer : Server EngineOp EngineReply PyError GrantStore :=
  fun store op =>
    match op with
    | .grants inner => store.serve inner
    | _ => (.error ⟨.runtimeError, ""⟩, store)

/-- What `assert_no_revoked_ancestors` makes of a grant on a store. -/
def walkOn (store : GrantStore) (grant : ExecutionGrant) : Except PyError (List String) :=
  ((assertNoRevokedAncestors grant maxDelegationDepth).run storeServer store).1

/-- The walk as a recursion over what the store says. -/
def walkRows (rows : InMemoryGrantStore) (grantId : String) (maxDepth : Nat) :
    (left : Nat) → (current : String) → (checked : List String) → Except PyError (List String)
  | 0, _, _ => .error (depthExceeded grantId maxDepth)
  | left + 1, current, checked =>
      if current = grantId ∨ current ∈ checked then .error (lineageCycle grantId current)
      else if rows.isRevoked current then
        .error (ancestorRevoked grantId current (maxDepth - left))
      else
        match rows.getParentGrantId current with
        | some parent => walkRows rows grantId maxDepth left parent (checked ++ [current])
        | none =>
            if rows.hasLineage current then .ok (checked ++ [current])
            else .error (lineageUnknown grantId current)

section Reading

variable (store : GrantStore) (grantId : String)

theorem store_is_revoked :
    (perform (.grants (.isRevoked grantId))).run storeServer store =
      (.ok (store.view.isRevoked grantId), store) := by
  rw [perform, run_perform]
  cases store with
  | memory inner => rfl
  | sqlite inner =>
      show (Except.ok (inner.isRevoked grantId), _) = _
      rw [inner.is_revoked_view]
      rfl

theorem store_parent :
    (perform (.grants (.getParentGrantId grantId))).run storeServer store =
      (.ok (store.view.getParentGrantId grantId), store) := by
  rw [perform, run_perform]
  cases store <;> rfl

theorem store_has_lineage :
    (perform (.grants (.hasLineage grantId))).run storeServer store =
      (.ok (store.view.hasLineage grantId), store) := by
  rw [perform, run_perform]
  cases store <;> rfl

end Reading

theorem walk_ancestors_run (store : GrantStore) (grantId : String) (maxDepth left : Nat)
    (current : String) (checked : List String) :
    (walkAncestors grantId maxDepth left current checked).run storeServer store =
      (walkRows store.view grantId maxDepth left current checked, store) := by
  induction left generalizing current checked with
  | zero => rfl
  | succ left ih =>
      unfold walkAncestors walkRows
      by_cases cycle : current = grantId ∨ current ∈ checked
      · rw [if_pos cycle, if_pos cycle, run_raised]
      · rw [if_neg cycle, if_neg cycle, run_bind_ok (store_is_revoked store current)]
        cases revoked : store.view.isRevoked current with
        | true => rfl
        | false =>
            simp only [Bool.false_eq_true, if_false]
            cases parent : store.view.getParentGrantId current with
            | some above =>
                have asked : (nextParent grantId current).run storeServer store =
                    (.ok (some above), store) := by
                  rw [nextParent, run_bind_ok (store_parent store current), parent]
                  rfl
                rw [run_bind_ok asked]
                exact ih above (checked ++ [current])
            | none =>
                cases recorded : store.view.hasLineage current with
                | true =>
                    have asked : (nextParent grantId current).run storeServer store =
                        (.ok none, store) := by
                      rw [nextParent, run_bind_ok (store_parent store current), parent]
                      simp only
                      rw [run_bind_ok (store_has_lineage store current), recorded]
                      rfl
                    rw [run_bind_ok asked]
                    rfl
                | false =>
                    have asked : (nextParent grantId current).run storeServer store =
                        (.error (lineageUnknown grantId current), store) := by
                      rw [nextParent, run_bind_ok (store_parent store current), parent]
                      simp only
                      rw [run_bind_ok (store_has_lineage store current), recorded]
                      rfl
                    rw [run_bind_error asked]
                    simp

/-- A root grant has no ancestors; any other starts the walk at its parent. -/
theorem walk_on_rows (store : GrantStore) (grant : ExecutionGrant) :
    walkOn store grant =
      match grant.parentGrantId with
      | none => .ok []
      | some parent => walkRows store.view grant.grantId maxDelegationDepth maxDelegationDepth
          parent [] := by
  unfold walkOn assertNoRevokedAncestors
  rw [if_neg (by decide)]
  cases grant.parentGrantId with
  | none => rfl
  | some parent => simp only [walk_ancestors_run]

/-! ### Linked chains -/

/-- Each member's recorded parent is the next one. -/
def Linked (lineage : String → Option (Option String)) : List String → Prop
  | [] => True
  | [_] => True
  | child :: parent :: rest => lineage child = some (some parent) ∧ Linked lineage (parent :: rest)

theorem Linked.tail {lineage : String → Option (Option String)} {child : String}
    {rest : List String} (linked : Linked lineage (child :: rest)) : Linked lineage rest := by
  cases rest with
  | nil => trivial
  | cons parent rest => exact linked.2

/-- A chain depends on the rows of all its members but the last. -/
theorem Linked.congr {lineage other : String → Option (Option String)} {chain : List String}
    (linked : Linked lineage chain)
    (same : ∀ member ∈ chain.dropLast, other member = lineage member) : Linked other chain := by
  induction chain with
  | nil => trivial
  | cons child rest ih =>
      cases rest with
      | nil => trivial
      | cons parent rest =>
          have first : other child = lineage child := same child List.mem_cons_self
          refine ⟨first.trans linked.1, ih linked.2 ?_⟩
          intro member inside
          exact same member (List.mem_cons_of_mem _ inside)

section Chains

variable {rows : InMemoryGrantStore} {grantId : String} {maxDepth : Nat}

/-- What a walk has still ahead of it: a linked chain it has not met yet. -/
structure Ahead (rows : InMemoryGrantStore) (grantId : String) (left : Nat)
    (chain checked : List String) : Prop where
  linked : Linked rows.lineage chain
  distinct : chain.Nodup
  unmet : ∀ member ∈ chain, member ∉ checked
  foreign : grantId ∉ chain
  short : chain.length ≤ left

theorem Ahead.step {left : Nat} {child : String} {rest checked : List String}
    (ahead : Ahead rows grantId (left + 1) (child :: rest) checked) :
    Ahead rows grantId left rest (checked ++ [child]) := by
  have distinct := List.nodup_cons.mp ahead.distinct
  constructor
  · exact ahead.linked.tail
  · exact distinct.2
  · intro member inside
    rw [List.mem_append, List.mem_singleton]
    rintro (met | rfl)
    · exact ahead.unmet member (List.mem_cons_of_mem _ inside) met
    · exact distinct.1 inside
  · exact fun inside => ahead.foreign (List.mem_cons_of_mem _ inside)
  · have short := ahead.short
    rw [List.length_cons] at short
    omega

theorem Ahead.fresh {left : Nat} {child : String} {rest checked : List String}
    (ahead : Ahead rows grantId left (child :: rest) checked) :
    ¬ (child = grantId ∨ child ∈ checked) := by
  rintro (rfl | met)
  · exact ahead.foreign List.mem_cons_self
  · exact ahead.unmet child List.mem_cons_self met

theorem parent_of_row {child : String} {parent : Option String}
    (row : rows.lineage child = some parent) : rows.getParentGrantId child = parent := by
  rw [InMemoryGrantStore.getParentGrantId, row, Option.getD_some]

/-- An unrevoked chain that ends at a recorded root is returned whole. -/
theorem walk_returns_chain {left : Nat} {child : String} {rest checked : List String}
    (ahead : Ahead rows grantId left (child :: rest) checked)
    (unrevoked : ∀ member ∈ child :: rest, rows.isRevoked member = false)
    (rooted : ∀ root, (child :: rest).getLast? = some root → rows.lineage root = some none) :
    walkRows rows grantId maxDepth left child checked = .ok (checked ++ child :: rest) := by
  induction rest generalizing left child checked with
  | nil =>
      cases left with
      | zero => exact absurd ahead.short (by simp)
      | succ left =>
          have row : rows.lineage child = some none := rooted child rfl
          rw [walkRows, if_neg ahead.fresh, unrevoked child List.mem_cons_self,
            parent_of_row row]
          simp [InMemoryGrantStore.hasLineage, row]
  | cons parent rest ih =>
      cases left with
      | zero => exact absurd ahead.short (by simp)
      | succ left =>
          have row : rows.lineage child = some (some parent) := ahead.linked.1
          rw [walkRows, if_neg ahead.fresh, unrevoked child List.mem_cons_self,
            parent_of_row row]
          simp only [Bool.false_eq_true, if_false]
          rw [ih ahead.step (fun member inside => unrevoked member (List.mem_cons_of_mem _ inside))
            (fun root last => rooted root (by rwa [List.getLast?_cons_cons])), List.append_assoc]
          rfl

/-- A revoked member stops the walk with its own error. -/
theorem walk_meets_revoked {left : Nat} {chain checked : List String}
    (ahead : Ahead rows grantId left chain checked)
    (revoked : ∃ member ∈ chain, rows.isRevoked member = true) :
    ∃ child message, chain.head? = some child ∧
      walkRows rows grantId maxDepth left child checked = .error ⟨.grantRevoked, message⟩ := by
  induction chain generalizing left checked with
  | nil =>
      obtain ⟨member, inside, _⟩ := revoked
      cases inside
  | cons child rest ih =>
      cases left with
      | zero => exact absurd ahead.short (by simp)
      | succ left =>
          cases marked : rows.isRevoked child with
          | true =>
              refine ⟨child, (ancestorRevoked grantId child (maxDepth - left)).message, rfl, ?_⟩
              rw [walkRows, if_neg ahead.fresh, marked]
              rfl
          | false =>
              obtain ⟨member, inside, revokedMember⟩ := revoked
              rcases List.mem_cons.mp inside with rfl | later
              · exact absurd (marked.symm.trans revokedMember) (by simp)
              · cases rest with
                | nil => cases later
                | cons parent rest =>
                    obtain ⟨next, message, isHead, stops⟩ :=
                      ih ahead.step ⟨member, later, revokedMember⟩
                    obtain rfl : parent = next := Option.some.inj isHead
                    have row : rows.lineage child = some (some parent) := ahead.linked.1
                    refine ⟨child, message, rfl, ?_⟩
                    rw [walkRows, if_neg ahead.fresh, marked, parent_of_row row]
                    simpa using stops

/-- A walk that returns has reached a grant that was recorded as a root. -/
theorem returned_walk_is_rooted {left : Nat} {current : String} {checked found : List String}
    (returned : walkRows rows grantId maxDepth left current checked = .ok found) :
    ∃ root, found.getLast? = some root ∧ rows.lineage root = some none := by
  induction left generalizing current checked with
  | zero => cases returned
  | succ left ih =>
      rw [walkRows] at returned
      by_cases cycle : current = grantId ∨ current ∈ checked
      · rw [if_pos cycle] at returned
        cases returned
      · rw [if_neg cycle] at returned
        cases revoked : rows.isRevoked current with
        | true => simp [revoked] at returned
        | false =>
            simp only [revoked, Bool.false_eq_true, if_false] at returned
            cases parent : rows.getParentGrantId current with
            | some above =>
                simp only [parent] at returned
                exact ih returned
            | none =>
                simp only [parent] at returned
                cases row : rows.lineage current with
                | none => simp [InMemoryGrantStore.hasLineage, row] at returned
                | some recorded =>
                    simp only [InMemoryGrantStore.hasLineage, row, Option.isSome_some, if_true,
                      Except.ok.injEq] at returned
                    subst returned
                    have root : recorded = none := (parent_of_row row).symm.trans parent
                    exact ⟨current, by simp, row.trans (congrArg some root)⟩

end Chains

end KarmaSakshi.Engine
