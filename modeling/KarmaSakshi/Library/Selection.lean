import Mathlib.Data.List.MinMax
import Mathlib.Data.List.Nodup

/-!
Choosing one item per owner: the greatest by rank, the first of several greatest.

The chosen items depend on the list only through its members, up to the choice among
the greatest items of one owner.  Moving one of these to the front makes it the chosen
one and leaves the items of all other owners as they are.
-/

namespace Selection

set_option autoImplicit false

variable {Item Key Rank : Type} [DecidableEq Key] [LinearOrder Rank]

/-- One owner's items, in their order. -/
def itemsOf (owner : Item → Key) (items : List Item) (key : Key) : List Item :=
  items.filter (fun item => owner item = key)

def chosenOf (owner : Item → Key) (rank : Item → Rank) (items : List Item) (key : Key) :
    Option Item :=
  (itemsOf owner items key).argmax rank

/-- Per owner, in the order of their first items. -/
def chosen (owner : Item → Key) (rank : Item → Rank) (items : List Item) : List Item :=
  (items.map owner).eraseDups.filterMap (chosenOf owner rank items)

/-- An item that no other of its owner outranks. -/
structure Greatest (owner : Item → Key) (rank : Item → Rank) (items : List Item)
    (item : Item) : Prop where
  member : item ∈ items
  highest : ∀ other ∈ items, owner other = owner item → rank other ≤ rank item

variable {owner : Item → Key} {rank : Item → Rank} {items others : List Item} {item other : Item}
  {key : Key}

theorem mem_items_of : item ∈ itemsOf owner items key ↔ item ∈ items ∧ owner item = key := by
  rw [itemsOf, List.mem_filter, decide_eq_true_eq]

omit [DecidableEq Key] in
theorem Greatest.of_members (greatest : Greatest owner rank items item)
    (members : ∀ item, item ∈ items ↔ item ∈ others) : Greatest owner rank others item :=
  ⟨(members item).mp greatest.member,
    fun other member => greatest.highest other ((members other).mpr member)⟩

omit [DecidableEq Key] in
theorem Greatest.same_rank (greatest : Greatest owner rank items item)
    (otherGreatest : Greatest owner rank items other) (same : owner item = owner other) :
    rank item = rank other :=
  le_antisymm (otherGreatest.highest item greatest.member same)
    (greatest.highest other otherGreatest.member same.symm)

/-! ### What is chosen -/

theorem chosen_of_greatest (choice : chosenOf owner rank items key = some item) :
    owner item = key ∧ Greatest owner rank items item := by
  have inside := mem_items_of.mp (List.argmax_mem choice)
  refine ⟨inside.2, inside.1, ?_⟩
  intro other member same
  exact List.le_of_mem_argmax (mem_items_of.mpr ⟨member, same.trans inside.2⟩) choice

theorem chosen_of_some (present : key ∈ items.map owner) :
    ∃ item, chosenOf owner rank items key = some item := by
  obtain ⟨item, member, rfl⟩ := List.mem_map.mp present
  cases choice : chosenOf owner rank items (owner item) with
  | some best => exact ⟨best, rfl⟩
  | none =>
      have empty := List.argmax_eq_none.mp choice
      have inside : item ∈ itemsOf owner items (owner item) := mem_items_of.mpr ⟨member, rfl⟩
      rw [empty] at inside
      cases inside

theorem mem_chosen :
    item ∈ chosen owner rank items ↔ chosenOf owner rank items (owner item) = some item := by
  rw [chosen, List.mem_filterMap]
  constructor
  · rintro ⟨key, _, choice⟩
    rw [(chosen_of_greatest choice).1]
    exact choice
  · intro choice
    refine ⟨owner item, ?_, choice⟩
    rw [List.mem_eraseDups]
    exact List.mem_map_of_mem (chosen_of_greatest choice).2.member

theorem chosen_greatest (member : item ∈ chosen owner rank items) :
    Greatest owner rank items item :=
  (chosen_of_greatest (mem_chosen.mp member)).2

/-- Every greatest item has a chosen one beside it, of its owner and its rank. -/
theorem Greatest.chosen_beside (greatest : Greatest owner rank items item) :
    ∃ best ∈ chosen owner rank items, owner best = owner item ∧ rank best = rank item := by
  have present : owner item ∈ items.map owner := List.mem_map_of_mem greatest.member
  obtain ⟨best, choice⟩ : ∃ best, chosenOf owner rank items (owner item) = some best :=
    chosen_of_some present
  obtain ⟨same, highest⟩ := chosen_of_greatest choice
  refine ⟨best, mem_chosen.mpr (same.symm ▸ choice), same, ?_⟩
  exact highest.same_rank greatest same

theorem chosen_singleton : chosen owner rank [item] = [item] := by
  have own : itemsOf owner [item] (owner item) = [item] := by
    simp [itemsOf]
  have choice : chosenOf owner rank [item] (owner item) = some item := by
    rw [chosenOf, own]
    exact List.argmax_singleton
  rw [chosen, List.map_singleton, List.eraseDups_cons, List.filter_nil, List.eraseDups_nil,
    List.filterMap_cons_some choice, List.filterMap_nil]

/-! ### The owners of the chosen items -/

theorem nodup_erase_dups (keys : List Key) : keys.eraseDups.Nodup := by
  induction length : keys.length using Nat.strong_induction_on generalizing keys with
  | _ size ih =>
      cases keys with
      | nil => exact List.nodup_nil
      | cons key rest =>
          rw [List.eraseDups_cons, List.nodup_cons]
          constructor
          · rw [List.mem_eraseDups, List.mem_filter]
            rintro ⟨_, differs⟩
            simp at differs
          · refine ih _ ?_ _ rfl
            rw [← length, List.length_cons]
            exact Nat.lt_succ_of_le (List.length_filter_le _ _)

theorem chosen_owners : (chosen owner rank items).map owner = (items.map owner).eraseDups := by
  have onto : ∀ keys : List Key, (∀ key ∈ keys, key ∈ items.map owner) →
      (keys.filterMap (chosenOf owner rank items)).map owner = keys := by
    intro keys
    induction keys with
    | nil => exact fun _ => rfl
    | cons key rest ih =>
        intro present
        obtain ⟨best, choice⟩ : ∃ best, chosenOf owner rank items key = some best :=
          chosen_of_some (present key List.mem_cons_self)
        rw [List.filterMap_cons_some choice, List.map_cons, (chosen_of_greatest choice).1,
          ih (fun key member => present key (List.mem_cons_of_mem _ member))]
  apply onto
  intro key member
  exact List.mem_eraseDups.mp member

theorem chosen_owners_nodup : ((chosen owner rank items).map owner).Nodup := by
  rw [chosen_owners]
  exact nodup_erase_dups _

/-! ### A greatest item at the front -/

theorem chosen_of_other (differs : owner item ≠ key) :
    chosenOf owner rank (item :: items) key = chosenOf owner rank items key := by
  have passed : itemsOf owner (item :: items) key = itemsOf owner items key :=
    List.filter_cons_of_neg (by rw [decide_eq_true_eq]; exact differs)
  rw [chosenOf, passed, chosenOf]

theorem first_is_chosen
    (highest : ∀ other ∈ items, owner other = owner item → rank other ≤ rank item) :
    chosenOf owner rank (item :: items) (owner item) = some item := by
  have kept : itemsOf owner (item :: items) (owner item) =
      item :: itemsOf owner items (owner item) := List.filter_cons_of_pos (by simp)
  rw [chosenOf, kept, List.argmax_cons]
  cases rest : (itemsOf owner items (owner item)).argmax rank with
  | none => rfl
  | some best =>
      have inside := mem_items_of.mp (List.argmax_mem rest)
      exact if_neg (not_lt.mpr (highest best inside.1 inside.2))

/-- The chosen items of a list that begins with a greatest one. -/
theorem chosen_cons
    (highest : ∀ other ∈ items, owner other = owner item → rank other ≤ rank item) :
    chosen owner rank (item :: items) =
      item :: chosen owner rank (items.filter (fun other => owner other ≠ owner item)) := by
  have others : (items.map owner).filter (fun key => !key == owner item) =
      (items.filter (fun other => owner other ≠ owner item)).map owner := by
    rw [List.filter_map]
    congr 1
    apply List.filter_congr
    intro other _
    rw [Bool.eq_iff_iff]
    simp
  rw [chosen, List.map_cons, List.eraseDups_cons, others,
    List.filterMap_cons_some (first_is_chosen highest), chosen]
  congr 1
  apply List.filterMap_congr
  intro key member
  obtain ⟨other, inside, rfl⟩ := List.mem_map.mp (List.mem_eraseDups.mp member)
  have differs : owner other ≠ owner item := by
    simpa using (List.mem_filter.mp inside).2
  rw [chosen_of_other differs.symm, chosenOf, chosenOf]
  congr 1
  rw [itemsOf, itemsOf, List.filter_filter]
  apply List.filter_congr
  intro third _
  by_cases same : owner third = owner other
  · simp [same, differs]
  · simp [same]

/-! ### Choosing along a list -/

/-- The choice for an owner after one more item at the front. -/
theorem chosen_of_cons : chosenOf owner rank (item :: items) key =
    if owner item = key then
      match chosenOf owner rank items key with
      | none => some item
      | some best => if rank item < rank best then some best else some item
    else chosenOf owner rank items key := by
  by_cases same : owner item = key
  · have kept : itemsOf owner (item :: items) key = item :: itemsOf owner items key :=
      List.filter_cons_of_pos (by rw [decide_eq_true_eq]; exact same)
    rw [if_pos same, chosenOf, kept, List.argmax_cons, chosenOf]
    cases (itemsOf owner items key).argmax rank with
    | none => rfl
    | some best => rfl
  · rw [if_neg same]
    exact chosen_of_other same

/-- Where a greatest item is in the front part, the chosen one is. -/
theorem chosen_in_front {front back : List Item} {best : Item}
    (greatest : Greatest owner rank (front ++ back) best) (inFront : best ∈ front)
    (choice : chosenOf owner rank (front ++ back) (owner best) = some item) : item ∈ front := by
  induction front with
  | nil => cases inFront
  | cons first rest ih =>
      rw [List.cons_append, chosen_of_cons] at choice
      have restGreatest : best ∈ rest → Greatest owner rank (rest ++ back) best := by
        intro later
        refine ⟨List.mem_append_left back later, ?_⟩
        intro other member
        exact greatest.highest other (List.mem_cons_of_mem first member)
      by_cases own : owner first = owner best
      · rw [if_pos own] at choice
        cases further : chosenOf owner rank (rest ++ back) (owner best) with
        | none =>
            rw [further] at choice
            rw [← Option.some.inj choice]
            exact List.mem_cons_self
        | some later =>
            simp only [further] at choice
            by_cases outranked : rank first < rank later
            · rw [if_pos outranked] at choice
              have same : later = item := Option.some.inj choice
              have inRest : best ∈ rest := by
                rcases List.mem_cons.mp inFront with isFirst | inRest
                · have laterGreatest := (chosen_of_greatest further)
                  have bounded := greatest.highest later
                    (List.mem_cons_of_mem first laterGreatest.2.member) laterGreatest.1
                  rw [isFirst] at bounded
                  exact absurd outranked (not_lt.mpr bounded)
                · exact inRest
              exact List.mem_cons_of_mem first
                (ih (restGreatest inRest) inRest (further.trans (congrArg some same)))
            · rw [if_neg outranked] at choice
              rw [← Option.some.inj choice]
              exact List.mem_cons_self
      · rw [if_neg own] at choice
        have inRest : best ∈ rest := by
          rcases List.mem_cons.mp inFront with isFirst | inRest
          · exact absurd (congrArg owner isFirst.symm) own
          · exact inRest
        exact List.mem_cons_of_mem first (ih (restGreatest inRest) inRest choice)

omit [DecidableEq Key] in
/-- Two lists of the same owners whose items agree owner by owner. -/
theorem map_of_same_owners {Value : Type} {value : Item → Value} {left right : List Item}
    (owners : left.map owner = right.map owner)
    (agree : ∀ item ∈ left, ∀ other ∈ right, owner item = owner other → value item = value other) :
    left.map value = right.map value := by
  induction left generalizing right with
  | nil =>
      cases right with
      | nil => rfl
      | cons other others => cases owners
  | cons item items ih =>
      cases right with
      | nil => cases owners
      | cons other others =>
          obtain ⟨same, rest⟩ := List.cons.inj owners
          rw [List.map_cons, List.map_cons,
            agree item List.mem_cons_self other List.mem_cons_self same,
            ih rest (fun item member other otherMember =>
              agree item (List.mem_cons_of_mem _ member) other (List.mem_cons_of_mem _ otherMember))]

/-! ### Sorting by a key -/

omit [DecidableEq Key] in
theorem merge_sorted {precedes : Item → Item → Bool} {sortKey : Item → Rank}
    (reads : ∀ left right, precedes left right = true ↔ sortKey left ≤ sortKey right)
    (items : List Item) :
    (items.mergeSort precedes).Pairwise (fun left right => sortKey left ≤ sortKey right) := by
  refine (List.pairwise_mergeSort ?_ ?_ items).imp ?_
  · intro first second third
    rw [reads, reads, reads]
    exact le_trans
  · intro first second
    rw [Bool.or_eq_true, reads, reads]
    exact le_total _ _
  · intro first second sorted
    exact (reads first second).mp sorted

end Selection
