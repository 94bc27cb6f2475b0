import KarmaSakshi.Engine.DelegationChain
import KarmaSakshi.Guarantees.Lineage

/-!
An accepted delegation chain narrows from its root to its leaf.
-/

namespace KarmaSakshi.Guarantees

open EffectProgram KarmaSakshi.Domain KarmaSakshi.Stores KarmaSakshi.Engine

set_option autoImplicit false

/-- What `verify_delegation_chain` makes of a chain over the content of a store. -/
def verifyChainOn (check : ChainCheck) (store : GrantStore) (chain : List ExecutionGrant) :
    Except PyError Unit :=
  ((verifyDelegationChain check chain).run storeServer store).1

/-- In a chain whose links narrow, every grant is within the one it starts from. -/
theorem chain_within_root {root : ExecutionGrant} {rest : List ExecutionGrant}
    (links : (root :: rest).IsChain (fun parent child => GrantWithin child parent)) :
    ∀ grant ∈ root :: rest, GrantWithin grant root := by
  induction rest generalizing root with
  | nil =>
      intro grant inside
      rw [List.mem_singleton.mp inside]
      exact GrantWithin.refl root
  | cons child rest ih =>
      obtain ⟨narrows, others⟩ := List.isChain_cons_cons.mp links
      intro grant inside
      rcases List.mem_cons.mp inside with same | later
      · exact same ▸ GrantWithin.refl root
      · exact (ih others grant later).trans narrows

/-- Attenuation is a preorder, and an accepted chain of any length narrows from its root to
its leaf, all its grants being signed, in their windows and unrevoked. -/
theorem delegation_chain_narrows :
    IsPreorder ExecutionGrant NarrowerOrEqual ∧
      ∀ (check : ChainCheck) (store : GrantStore) (chain : List ExecutionGrant),
        verifyChainOn check store chain = .ok () →
          (∃ root leaf, chain.head? = some root ∧ chain.getLast? = some leaf ∧
            NarrowerOrEqual leaf root ∧ GrantWithin leaf root) ∧
          ∀ grant ∈ chain, SoundMember check store grant := by
  refine ⟨inferInstance, ?_⟩
  intro check store chain accepted
  obtain ⟨⟨root, rest, split, _⟩, sound, linked⟩ := chain_accepted accepted
  refine ⟨?_, sound⟩
  subst split
  have inside : (root :: rest).getLast (List.cons_ne_nil root rest) ∈ root :: rest :=
    List.getLast_mem _
  have within := chain_within_root (links_accepted linked) _ inside
  exact ⟨root, _, rfl, List.getLast?_eq_some_getLast _, grant_narrower.mpr within, within⟩

namespace Delegating

def chainCheck : ChainCheck := ⟨context.crypto, context.keyring, Payment.noon, 0⟩

end Delegating

/-- A root and the child it was delegated to. -/
theorem delegated_child_is_narrower :
    NarrowerOrEqual Delegating.child Payment.transferGrant ∧
      SoundMember Delegating.chainCheck (.memory .empty) Delegating.child := by
  have accepted : verifyChainOn Delegating.chainCheck (.memory .empty)
      [Payment.transferGrant, Delegating.child] = .ok () := by decide +kernel
  obtain ⟨⟨root, leaf, isFirst, isLast, narrower, _⟩, sound⟩ :=
    delegation_chain_narrows.2 Delegating.chainCheck (.memory .empty) _ accepted
  obtain rfl := Option.some.inj isFirst
  obtain rfl := Option.some.inj isLast
  exact ⟨narrower, sound Delegating.child (by simp)⟩

end KarmaSakshi.Guarantees
