import KarmaSakshi.Domain.Canonical

/-!
The written form of a canonical value, read member by member.

Equal bytes come from equal written trees.  A sequence is written item by item; a
mapping whose keys keep apart is written member by member, in some order.
-/

namespace KarmaSakshi.Domain

open Json (Text Document CodeUnit units)

set_option autoImplicit false

/-! ### Dictionaries and sorted members -/

section Members

/-- Items with distinct keys make a dictionary in their own order. -/
theorem dict_of_distinct {items : List (Text × Document Text)} (distinct : (items.map Prod.fst).Nodup) :
    dictOf items = items := by
  have grows : ∀ (rest dict : List (Text × Document Text)),
      ((dict ++ rest).map Prod.fst).Nodup →
        rest.foldl (fun dict item => dictPut dict item.1 item.2) dict = dict ++ rest := by
    intro rest
    induction rest with
    | nil => exact fun dict _ => (List.append_nil dict).symm
    | cons item rest ih =>
        intro dict distinct
        have absent : item.1 ∉ dict.map Prod.fst := by
          intro present
          rw [List.map_append, List.map_cons] at distinct
          exact (List.nodup_append.mp distinct).2.2 _ present _ List.mem_cons_self rfl
        rw [List.foldl_cons, dictPut, if_neg absent, ih]
        · rw [List.append_assoc]
          rfl
        · rw [List.append_assoc]
          exact distinct
  exact grows items [] distinct

theorem mem_sort_members {members : List (Text × Document Text)} {key : Text} {value : Document Text} :
    (key, value) ∈ sortMembers members ↔
      ∃ plain, (key, plain) ∈ members ∧ sortKeys plain = value := by
  induction members with
  | nil => simp [sortMembers]
  | cons member rest ih =>
      obtain ⟨first, plain⟩ := member
      rw [sortMembers, List.mem_cons, ih]
      constructor
      · rintro (same | ⟨plain, member, sorted⟩)
        · obtain ⟨rfl, rfl⟩ := Prod.mk.inj same
          exact ⟨plain, List.mem_cons_self, rfl⟩
        · exact ⟨plain, List.mem_cons_of_mem _ member, sorted⟩
      · rintro ⟨other, member, rfl⟩
        rcases List.mem_cons.mp member with same | inside
        · obtain ⟨rfl, rfl⟩ := Prod.mk.inj same
          exact Or.inl rfl
        · exact Or.inr ⟨other, inside, rfl⟩

theorem mem_map_members {members : List (Text × Document Text)} {key : List CodeUnit}
    {value : Document (List CodeUnit)} :
    (key, value) ∈ Document.mapMembers units members ↔
      ∃ text plain, (text, plain) ∈ members ∧ units text = key ∧ plain.mapText units = value := by
  induction members with
  | nil => simp [Document.mapMembers]
  | cons member rest ih =>
      obtain ⟨first, plain⟩ := member
      rw [Document.mapMembers, List.mem_cons, ih]
      constructor
      · rintro (same | ⟨text, plain, member, keys, values⟩)
        · obtain ⟨rfl, rfl⟩ := Prod.mk.inj same
          exact ⟨first, plain, List.mem_cons_self, rfl, rfl⟩
        · exact ⟨text, plain, List.mem_cons_of_mem _ member, keys, values⟩
      · rintro ⟨text, other, member, rfl, rfl⟩
        rcases List.mem_cons.mp member with same | inside
        · obtain ⟨rfl, rfl⟩ := Prod.mk.inj same
          exact Or.inl rfl
        · exact Or.inr ⟨text, other, inside, rfl, rfl⟩

/-- The members of a written object are those of the dictionary, written. -/
theorem written_object (members : List (Text × Document Text)) :
    ∃ listed, written (.object members) = .object listed ∧ ∀ key value,
      (key, value) ∈ listed ↔
        ∃ text plain, (text, plain) ∈ members ∧ units text = key ∧ written plain = value := by
  refine ⟨_, by rw [written, sortKeys, Document.mapText], ?_⟩
  intro key value
  rw [mem_map_members]
  constructor
  · rintro ⟨text, sorted, member, keys, values⟩
    obtain ⟨plain, inside, rfl⟩ := mem_sort_members.mp ((List.mem_insertionSort byKey).mp member)
    exact ⟨text, plain, inside, keys, values⟩
  · rintro ⟨text, plain, member, keys, values⟩
    exact ⟨text, sortKeys plain, (List.mem_insertionSort byKey).mpr
      (mem_sort_members.mpr ⟨plain, member, rfl⟩), keys, values⟩

end Members

/-! ### What is read off the written tree -/

section Reading

variable {Other : Type} {str : Other → Text}

/-- The value is accepted and written as that tree. -/
def Writes (str : Other → Text) (value : PyValue Other) (tree : Document (List CodeUnit)) : Prop :=
  ∃ plain, value.toPlain str = .ok plain ∧ written plain = tree

theorem same_bytes_same_tree {value other : PyValue Other} {bytes : ByteArray}
    (first : canonicalJsonBytes str value = .ok bytes)
    (second : canonicalJsonBytes str other = .ok bytes) :
    ∃ tree, Writes str value tree ∧ Writes str other tree := by
  unfold canonicalJsonBytes at first second
  cases plain : value.toPlain str with
  | error error =>
      rw [plain] at first
      cases first
  | ok plainValue =>
      cases otherPlain : other.toPlain str with
      | error error =>
          rw [otherPlain] at second
          cases second
      | ok otherValue =>
          rw [plain] at first
          rw [otherPlain] at second
          have texts : dumps plainValue = dumps otherValue :=
            String.ofList_injective (String.toByteArray_inj.mp
              ((Except.ok.inj first).trans (Except.ok.inj second).symm))
          exact ⟨written plainValue, ⟨plainValue, plain, rfl⟩,
            otherValue, otherPlain, (Document.print_injective texts).symm⟩

theorem items_to_plain {items : List (PyValue Other)} {plain : List (Document Text)}
    (converted : PyValue.itemsToPlain str items = .ok plain) :
    List.Forall₂ (fun value tree => Writes str value tree) items
      (Document.mapItems units (sortItems plain)) := by
  induction items generalizing plain with
  | nil =>
      obtain rfl : plain = [] := (Except.ok.inj converted).symm
      exact List.Forall₂.nil
  | cons item rest ih =>
      rw [PyValue.itemsToPlain] at converted
      cases first : item.toPlain str with
      | error error =>
          rw [first] at converted
          cases converted
      | ok head =>
          cases others : PyValue.itemsToPlain str rest with
          | error error =>
              rw [first, others] at converted
              cases converted
          | ok tail =>
              rw [first, others] at converted
              obtain rfl := Except.ok.inj converted
              exact List.Forall₂.cons ⟨head, first, rfl⟩ (ih others)

theorem members_to_plain {items : List (PyKey Other × PyValue Other)}
    {plain : List (Text × Document Text)} (converted : PyValue.membersToPlain str items = .ok plain) :
    plain.map Prod.fst = items.map (fun item => item.1.printed str) ∧
      (∀ item ∈ items, ∃ tree, item.2.toPlain str = .ok tree) ∧
      ∀ text tree, (text, tree) ∈ plain ↔ ∃ key value, (key, value) ∈ items ∧
        key.printed str = text ∧ value.toPlain str = .ok tree := by
  induction items generalizing plain with
  | nil =>
      obtain rfl : plain = [] := (Except.ok.inj converted).symm
      simp
  | cons item rest ih =>
      obtain ⟨key, value⟩ := item
      rw [PyValue.membersToPlain] at converted
      cases first : value.toPlain str with
      | error error =>
          rw [first] at converted
          cases converted
      | ok head =>
          cases others : PyValue.membersToPlain str rest with
          | error error =>
              rw [first, others] at converted
              cases converted
          | ok tail =>
              rw [first, others] at converted
              obtain rfl := Except.ok.inj converted
              obtain ⟨keys, converts, members⟩ := ih others
              refine ⟨by rw [List.map_cons, List.map_cons, keys], ?_, ?_⟩
              · intro item member
                rcases List.mem_cons.mp member with rfl | inside
                · exact ⟨head, first⟩
                · exact converts item inside
              intro text tree
              rw [List.mem_cons, members]
              constructor
              · rintro (same | ⟨other, inner, member, printed, plainInner⟩)
                · obtain ⟨rfl, rfl⟩ := Prod.mk.inj same
                  exact ⟨key, value, List.mem_cons_self, rfl, first⟩
                · exact ⟨other, inner, List.mem_cons_of_mem _ member, printed, plainInner⟩
              · rintro ⟨other, inner, member, printed, plainInner⟩
                rcases List.mem_cons.mp member with same | inside
                · obtain ⟨rfl, rfl⟩ := Prod.mk.inj same
                  rw [first] at plainInner
                  rw [← printed, ← Except.ok.inj plainInner]
                  exact Or.inl rfl
                · exact Or.inr ⟨other, inner, inside, printed, plainInner⟩

theorem forall₂_at {Left Right : Type} {related : Left → Right → Prop} {lefts : List Left}
    {rights : List Right} (all : List.Forall₂ related lefts rights) {index : Nat} {left : Left}
    (here : lefts[index]? = some left) :
    ∃ right, rights[index]? = some right ∧ related left right := by
  induction all generalizing index with
  | nil => cases here
  | cons head tail ih =>
      cases index with
      | zero =>
          obtain rfl := Option.some.inj here
          exact ⟨_, rfl, head⟩
      | succ index => exact ih here

/-- What a value other than a model is written as. -/
inductive Shows (str : Other → Text) : PyValue Other → Document (List CodeUnit) → Prop where
  | none : Shows str .none .null
  | bool (value : Bool) : Shows str (.bool value) (.bool value)
  | int (value : Int) : Shows str (.int value) (.int value)
  | text (value : Text) : Shows str (.text value) (.text (units value))
  | sequence {items : List (PyValue Other)} {trees : List (Document (List CodeUnit))}
      (each : List.Forall₂ (fun value tree => Writes str value tree) items trees) :
      Shows str (.sequence items) (.array trees)
  | mapping {items : List (PyKey Other × PyValue Other)}
      {listed : List (List CodeUnit × Document (List CodeUnit))}
      (accepted : ∀ item ∈ items, ∃ tree, Writes str item.2 tree)
      (members : ∀ key tree, (key, tree) ∈ listed ↔ ∃ name value, (name, value) ∈ items ∧
        units (name.printed str) = key ∧ Writes str value tree) :
      Shows str (.mapping items) (.object listed)

variable {keys : Set (PyKey Other)}

/-- A mapping whose keys keep apart is written member by member. -/
theorem mapping_shows (keysApart : Set.InjOn (fun key => units (key.printed str)) keys)
    {items : List (PyKey Other × PyValue Other)} {tree : Document (List CodeUnit)}
    (distinct : (items.map Prod.fst).Nodup) (members : ∀ item ∈ items, item.1 ∈ keys)
    (writes : Writes str (.mapping items) tree) : Shows str (.mapping items) tree := by
  obtain ⟨plain, converted, rfl⟩ := writes
  rw [PyValue.toPlain] at converted
  cases inner : PyValue.membersToPlain str items with
  | error error =>
      rw [inner] at converted
      cases converted
  | ok pairs =>
      rw [inner] at converted
      obtain rfl := Except.ok.inj converted
      obtain ⟨printed, converts, each⟩ := members_to_plain inner
      have apart : (pairs.map Prod.fst).Nodup := by
        have names : items.map (fun item => item.1.printed str) =
            (items.map Prod.fst).map (PyKey.printed str) := by rw [List.map_map]; rfl
        rw [printed, names]
        apply List.Nodup.map_on _ distinct
        intro key inside other otherInside same
        obtain ⟨item, member, rfl⟩ := List.mem_map.mp inside
        obtain ⟨otherItem, otherMember, rfl⟩ := List.mem_map.mp otherInside
        exact keysApart (members item member) (members otherItem otherMember)
          (congrArg units same)
      rw [dict_of_distinct apart]
      obtain ⟨listed, same, shown⟩ := written_object pairs
      rw [same]
      refine .mapping ?_ ?_
      · intro item member
        obtain ⟨plain, toPlain⟩ := converts item member
        exact ⟨written plain, plain, toPlain, rfl⟩
      intro key tree
      rw [shown]
      constructor
      · rintro ⟨text, plain, member, rfl, rfl⟩
        obtain ⟨name, value, inside, rfl, toPlain⟩ := (each text plain).mp member
        exact ⟨name, value, inside, rfl, plain, toPlain, rfl⟩
      · rintro ⟨name, value, inside, rfl, plain, toPlain, rfl⟩
        exact ⟨name.printed str, plain, (each _ _).mpr ⟨name, value, inside, rfl, toPlain⟩, rfl, rfl⟩

theorem sequence_shows {items : List (PyValue Other)} {tree : Document (List CodeUnit)}
    (writes : Writes str (.sequence items) tree) : Shows str (.sequence items) tree := by
  obtain ⟨plain, converted, rfl⟩ := writes
  rw [PyValue.toPlain] at converted
  cases inner : PyValue.itemsToPlain str items with
  | error error =>
      rw [inner] at converted
      cases converted
  | ok trees =>
      rw [inner] at converted
      obtain rfl := Except.ok.inj converted
      exact .sequence (items_to_plain inner)

/-- Two mappings written alike share every member under a common key. -/
theorem members_share_trees (keysApart : Set.InjOn (fun key => units (key.printed str)) keys)
    {items others : List (PyKey Other × PyValue Other)} {tree : Document (List CodeUnit)}
    (distinct : (items.map Prod.fst).Nodup) (members : ∀ item ∈ items, item.1 ∈ keys)
    (otherDistinct : (others.map Prod.fst).Nodup) (otherMembers : ∀ item ∈ others, item.1 ∈ keys)
    (writes : Writes str (.mapping items) tree) (otherWrites : Writes str (.mapping others) tree)
    {key : PyKey Other} {value other : PyValue Other} (member : (key, value) ∈ items)
    (otherMember : (key, other) ∈ others) :
    ∃ inner, Writes str value inner ∧ Writes str other inner := by
  have shown := mapping_shows keysApart distinct members writes
  have otherShown := mapping_shows keysApart otherDistinct otherMembers otherWrites
  cases shown with
  | mapping accepted listing =>
      cases otherShown with
      | mapping otherAccepted otherListing =>
          obtain ⟨inner, written⟩ := accepted _ member
          obtain ⟨name, twin, twinMember, same, twinWritten⟩ :=
            (otherListing _ inner).mp ((listing _ inner).mpr ⟨key, value, member, rfl, written⟩)
          obtain rfl : name = key :=
            keysApart (otherMembers _ twinMember) (members _ member) same
          have isOther := List.inj_on_of_nodup_map otherDistinct twinMember otherMember rfl
          obtain rfl := (Prod.mk.inj isOther).2
          exact ⟨inner, written, twinWritten⟩

theorem same_tree_same_bytes {value other : PyValue Other} {tree : Document (List CodeUnit)}
    (writes : Writes str value tree) (otherWrites : Writes str other tree) :
    canonicalJsonBytes str value = canonicalJsonBytes str other := by
  obtain ⟨plain, converted, rfl⟩ := writes
  obtain ⟨otherPlain, otherConverted, same⟩ := otherWrites
  unfold canonicalJsonBytes
  rw [converted, otherConverted]
  show Except.ok (String.ofList (written plain).print).toUTF8 =
    Except.ok (String.ofList (written otherPlain).print).toUTF8
  rw [same]

end Reading

end KarmaSakshi.Domain
