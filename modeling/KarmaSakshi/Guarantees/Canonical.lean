import KarmaSakshi.Domain.CanonicalForm

/-!
How far canonical bytes determine the value.

The text determines the written tree.  What is left between the tree and the value is
the `str()` of a mapping's keys and the UTF-16 form of its strings, so the encoding is
injective on a class of values exactly when these two are.
-/

namespace KarmaSakshi.Guarantees

open Json (Text Document CodeUnit units)
open KarmaSakshi.Domain

set_option autoImplicit false

/-! ### Equal values, and classes of values -/

section Statement

variable {Other : Type}

/-- Equal Python values: sequences item by item, mappings by their keys, a model as
its dump. -/
inductive SameValue : PyValue Other → PyValue Other → Prop where
  | none : SameValue .none .none
  | bool (value : Bool) : SameValue (.bool value) (.bool value)
  | int (value : Int) : SameValue (.int value) (.int value)
  | text (value : Text) : SameValue (.text value) (.text value)
  | sequence {items others : List (PyValue Other)} (lengths : items.length = others.length)
      (each : ∀ (index : Nat) item other, items[index]? = some item → others[index]? = some other →
        SameValue item other) : SameValue (.sequence items) (.sequence others)
  | mapping {items others : List (PyKey Other × PyValue Other)}
      (keys : ∀ key, key ∈ items.map Prod.fst ↔ key ∈ others.map Prod.fst)
      (values : ∀ key value other, (key, value) ∈ items → (key, other) ∈ others →
        SameValue value other) : SameValue (.mapping items) (.mapping others)
  | model {dump other : PyValue Other} (same : SameValue dump other) :
      SameValue (.model dump) other
  | ofModel {value dump : PyValue Other} (same : SameValue value dump) :
      SameValue value (.model dump)

/-- Values whose strings and mapping keys are drawn from two sets; no mapping has a
key twice. -/
inductive DrawnFrom (strings : Set Text) (keys : Set (PyKey Other)) : PyValue Other → Prop where
  | none : DrawnFrom strings keys .none
  | bool (value : Bool) : DrawnFrom strings keys (.bool value)
  | int (value : Int) : DrawnFrom strings keys (.int value)
  | text {value : Text} (member : value ∈ strings) : DrawnFrom strings keys (.text value)
  | sequence {items : List (PyValue Other)}
      (each : ∀ item ∈ items, DrawnFrom strings keys item) :
      DrawnFrom strings keys (.sequence items)
  | mapping {items : List (PyKey Other × PyValue Other)} (distinct : (items.map Prod.fst).Nodup)
      (members : ∀ item ∈ items, item.1 ∈ keys)
      (each : ∀ item ∈ items, DrawnFrom strings keys item.2) :
      DrawnFrom strings keys (.mapping items)
  | model {dump : PyValue Other} (drawn : DrawnFrom strings keys dump) :
      DrawnFrom strings keys (.model dump)
  | float : DrawnFrom strings keys .float
  | unsupported (typeName : String) : DrawnFrom strings keys (.unsupported typeName)

/-- Equal bytes imply equal values, for the values of a class. -/
def DeterminesValue (str : Other → Text) (strings : Set Text) (keys : Set (PyKey Other)) : Prop :=
  ∀ value other, DrawnFrom strings keys value → DrawnFrom strings keys other →
    ∀ bytes, canonicalJsonBytes str value = .ok bytes → canonicalJsonBytes str other = .ok bytes →
      SameValue value other

end Statement


/-! ### Values read off the written tree -/

section Reading

variable {Other : Type} {str : Other → Text}

section Class

variable {strings : Set Text} {keys : Set (PyKey Other)}

/-- Under its models a value is one that shows the tree. -/
theorem drawn_shows (keysApart : Set.InjOn (fun key => units (key.printed str)) keys)
    {value : PyValue Other} {tree : Document (List CodeUnit)} (drawn : DrawnFrom strings keys value)
    (writes : Writes str value tree) :
    ∃ core, Shows str core tree ∧ DrawnFrom strings keys core ∧
      ∀ other, SameValue other core → SameValue other value := by
  induction drawn with
  | none =>
      obtain ⟨plain, converted, rfl⟩ := writes
      obtain rfl := Except.ok.inj converted
      exact ⟨.none, .none, .none, fun _ same => same⟩
  | bool value =>
      obtain ⟨plain, converted, rfl⟩ := writes
      obtain rfl := Except.ok.inj converted
      exact ⟨.bool value, .bool value, .bool value, fun _ same => same⟩
  | int value =>
      obtain ⟨plain, converted, rfl⟩ := writes
      obtain rfl := Except.ok.inj converted
      exact ⟨.int value, .int value, .int value, fun _ same => same⟩
  | @text value member =>
      obtain ⟨plain, converted, rfl⟩ := writes
      obtain rfl := Except.ok.inj converted
      exact ⟨.text value, .text value, .text member, fun _ same => same⟩
  | @sequence items each ih =>
      exact ⟨.sequence items, sequence_shows writes, .sequence each, fun _ same => same⟩
  | @mapping items distinct members each ih =>
      exact ⟨.mapping items, mapping_shows keysApart distinct members writes,
        .mapping distinct members each, fun _ same => same⟩
  | model drawn ih =>
      obtain ⟨core, shows', drawnCore, onward⟩ := ih writes
      exact ⟨core, shows', drawnCore, fun other same => .ofModel (onward other same)⟩
  | float =>
      obtain ⟨plain, converted, _⟩ := writes
      cases converted
  | unsupported typeName =>
      obtain ⟨plain, converted, _⟩ := writes
      cases converted

/-- Written as one tree, two values of the class are equal. -/
theorem same_tree_same_value (stringsApart : Set.InjOn units strings)
    (keysApart : Set.InjOn (fun key => units (key.printed str)) keys) {value other : PyValue Other}
    {tree : Document (List CodeUnit)} (drawn : DrawnFrom strings keys value)
    (drawnToo : DrawnFrom strings keys other) (writes : Writes str value tree)
    (writesToo : Writes str other tree) : SameValue value other := by
  induction drawn generalizing other tree with
  | model drawn ih => exact .model (ih drawnToo writes writesToo)
  | float =>
      obtain ⟨plain, converted, _⟩ := writes
      cases converted
  | unsupported typeName =>
      obtain ⟨plain, converted, _⟩ := writes
      cases converted
  | none =>
      obtain ⟨plain, converted, rfl⟩ := writes
      obtain rfl := Except.ok.inj converted
      obtain ⟨core, shown, drawnCore, onward⟩ := drawn_shows keysApart drawnToo writesToo
      apply onward
      cases shown
      exact .none
  | bool value =>
      obtain ⟨plain, converted, rfl⟩ := writes
      obtain rfl := Except.ok.inj converted
      obtain ⟨core, shown, drawnCore, onward⟩ := drawn_shows keysApart drawnToo writesToo
      apply onward
      cases shown
      exact .bool value
  | int value =>
      obtain ⟨plain, converted, rfl⟩ := writes
      obtain rfl := Except.ok.inj converted
      obtain ⟨core, shown, drawnCore, onward⟩ := drawn_shows keysApart drawnToo writesToo
      apply onward
      cases shown
      exact .int value
  | @text value member =>
      obtain ⟨plain, converted, rfl⟩ := writes
      obtain rfl := Except.ok.inj converted
      obtain ⟨core, shown, drawnCore, onward⟩ := drawn_shows keysApart drawnToo writesToo
      apply onward
      generalize shape : written (Document.text value) = tree at shown
      cases shown with
      | text otherValue =>
          cases drawnCore with
          | text otherMember =>
              rw [stringsApart member otherMember (Document.text.inj shape)]
              exact .text otherValue
      | _ => cases shape
  | @sequence items each ih =>
      obtain ⟨core, shown, drawnCore, onward⟩ := drawn_shows keysApart drawnToo writesToo
      apply onward
      have own := sequence_shows writes
      cases own with
      | sequence writesEach =>
          cases shown with
          | sequence writesOthers =>
              cases drawnCore with
              | sequence eachOther =>
                  refine .sequence (writesEach.length_eq.trans writesOthers.length_eq.symm) ?_
                  intro index item other here there
                  obtain ⟨tree, at', itemWrites⟩ := forall₂_at writesEach here
                  obtain ⟨otherTree, atToo, otherWrites⟩ := forall₂_at writesOthers there
                  obtain rfl := Option.some.inj (at'.symm.trans atToo)
                  exact ih item (List.mem_of_getElem? here) (eachOther other
                    (List.mem_of_getElem? there)) itemWrites otherWrites
  | @mapping items distinct members each ih =>
      obtain ⟨core, shown, drawnCore, onward⟩ := drawn_shows keysApart drawnToo writesToo
      apply onward
      have own := mapping_shows keysApart distinct members writes
      cases own with
      | @mapping _ listed accepted listing =>
          cases shown with
          | @mapping others _ otherAccepted otherListing =>
              cases drawnCore with
              | mapping otherDistinct otherMembers otherEach =>
                  -- a member of one mapping is listed, so it is one of the other as well
                  have across : ∀ {left right : List (PyKey Other × PyValue Other)},
                      (∀ item ∈ left, item.1 ∈ keys) → (∀ item ∈ right, item.1 ∈ keys) →
                      (∀ key tree, (key, tree) ∈ listed ↔ ∃ name value, (name, value) ∈ left ∧
                        units (name.printed str) = key ∧ Writes str value tree) →
                      (∀ key tree, (key, tree) ∈ listed ↔ ∃ name value, (name, value) ∈ right ∧
                        units (name.printed str) = key ∧ Writes str value tree) →
                      ∀ key value tree, (key, value) ∈ left → Writes str value tree →
                        ∃ other, (key, other) ∈ right ∧ Writes str other tree := by
                    intro left right inLeft inRight listsLeft listsRight key value tree member writes
                    have present := (listsLeft _ tree).mpr ⟨key, value, member, rfl, writes⟩
                    obtain ⟨name, other, otherMember, same, otherWrites⟩ :=
                      (listsRight _ tree).mp present
                    obtain rfl : name = key :=
                      keysApart (inRight _ otherMember) (inLeft _ member) same
                    exact ⟨other, otherMember, otherWrites⟩
                  refine .mapping ?_ ?_
                  · intro key
                    rw [List.mem_map, List.mem_map]
                    constructor
                    · rintro ⟨⟨_, value⟩, member, rfl⟩
                      obtain ⟨tree, valueWrites⟩ := accepted _ member
                      obtain ⟨other, otherMember, _⟩ := across members otherMembers listing
                        otherListing _ _ _ member valueWrites
                      exact ⟨_, otherMember, rfl⟩
                    · rintro ⟨⟨_, value⟩, member, rfl⟩
                      obtain ⟨tree, valueWrites⟩ := otherAccepted _ member
                      obtain ⟨other, otherMember, _⟩ := across otherMembers members otherListing
                        listing _ _ _ member valueWrites
                      exact ⟨_, otherMember, rfl⟩
                  · intro key value other member otherMember
                    obtain ⟨tree, valueWrites⟩ := accepted _ member
                    obtain ⟨twin, twinMember, twinWrites⟩ := across members otherMembers listing
                      otherListing _ _ _ member valueWrites
                    have isOther := List.inj_on_of_nodup_map otherDistinct twinMember otherMember rfl
                    obtain rfl := (Prod.mk.inj isOther).2
                    exact ih _ member (otherEach _ otherMember) valueWrites twinWrites

end Class

/-- The encoding is injective on a class of values exactly when no two of its strings
share their UTF-16 form and no two of its keys that of their `str()`. -/
theorem canonical_bytes_determine_iff (str : Other → Text) (strings : Set Text)
    (keys : Set (PyKey Other)) : DeterminesValue str strings keys ↔
      Set.InjOn units strings ∧ Set.InjOn (fun key => units (key.printed str)) keys := by
  constructor
  · intro determines
    constructor
    · intro text member other otherMember same
      have bytes : canonicalJsonBytes str (.text other) =
          .ok (String.ofList (Document.print (.text (units text)))).toUTF8 := by
        rw [show units text = units other from same]
        rfl
      cases determines (.text text) (.text other) (.text member) (.text otherMember) _ rfl bytes
      rfl
    · intro key member other otherMember same
      have drawn : ∀ key ∈ keys, DrawnFrom strings keys (.mapping [(key, .none)]) := by
        intro key member
        refine .mapping (List.nodup_singleton key) ?_ ?_
        · intro item inside
          rw [List.mem_singleton.mp inside]
          exact member
        · intro item inside
          rw [List.mem_singleton.mp inside]
          exact .none
      have bytes : canonicalJsonBytes str (.mapping [(other, .none)]) =
          .ok (String.ofList (Document.print (.object [(units (key.printed str), .null)]))).toUTF8 := by
        rw [show units (key.printed str) = units (other.printed str) from same]
        rfl
      cases determines _ _ (drawn key member) (drawn other otherMember) _ rfl bytes with
      | mapping keys values =>
          have present := (keys key).mp List.mem_cons_self
          exact List.mem_singleton.mp present
  · rintro ⟨stringsApart, keysApart⟩ value other drawn drawnToo bytes first second
    obtain ⟨tree, writes, writesToo⟩ := same_bytes_same_tree first second
    exact same_tree_same_value stringsApart keysApart drawn drawnToo writes writesToo

end Reading

/-! ### Integer keys -/

/-- `str` of an integer. -/
def intStr (key : Int) : Text :=
  (Json.decimal key).map Json.ofChar

def mergedItems : List (PyKey Int × PyValue Int) :=
  [(.other 1, .none), (.text [Json.ofChar '1'], .bool false)]

def keptItems : List (PyKey Int × PyValue Int) := 
  [(.text [Json.ofChar '1'], .bool false)]

/-- The mapping `{1: None, "1": False}` loses its first key and shares its bytes with
`{"1": False}`; a character beyond the first plane shares its bytes with the string of
its two surrogates. -/
theorem merged_keys_share_bytes : ¬ DeterminesValue intStr Set.univ Set.univ ∧
    canonicalJsonBytes intStr (.text [0x1F600]) =
      canonicalJsonBytes intStr (.text [0xD83D, 0xDE00]) := by
  refine ⟨?_, rfl⟩
  intro determines
  have mergedDrawn : DrawnFrom Set.univ Set.univ (.mapping mergedItems) := by
    refine .mapping (by decide) (fun _ _ => trivial) ?_
    intro item member
    rcases List.mem_cons.mp member with rfl | inside
    · exact .none
    · rw [List.mem_singleton.mp inside]
      exact .bool false
  have keptDrawn : DrawnFrom Set.univ Set.univ (.mapping keptItems) := by
    refine .mapping (List.nodup_singleton _) (fun _ _ => trivial) ?_
    intro item inside
    rw [List.mem_singleton.mp inside]
    exact .bool false
  have same := determines _ _ mergedDrawn keptDrawn _ rfl rfl
  cases same with
  | mapping keys values =>
      have present := (keys (.other 1)).mp List.mem_cons_self
      cases List.mem_singleton.mp present

end KarmaSakshi.Guarantees
