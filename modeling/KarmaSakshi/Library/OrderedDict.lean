import Mathlib.Data.List.Nodup

/-!
Dictionaries in the order of insertion.

An assignment to a key that is there leaves the key where it is.
-/

namespace KarmaSakshi.Library

set_option autoImplicit false

variable {Key Value : Type} [DecidableEq Key]

structure OrderedDict (Key Value : Type) where
  items : List (Key × Value)
  distinct : (items.map Prod.fst).Nodup

namespace OrderedDict

def empty : OrderedDict Key Value := ⟨[], List.nodup_nil⟩

variable (dict : OrderedDict Key Value) (key other : Key) (value : Value)

def get : Option Value := (dict.items.find? (fun item => item.1 = key)).map Prod.snd

def values : List Value := dict.items.map Prod.snd

/-- The items with `value` under `key`, if the key is there. -/
def replaced : List (Key × Value) :=
  dict.items.map (fun item => if item.1 = key then (key, value) else item)

theorem keys_replaced : (dict.replaced key value).map Prod.fst = dict.items.map Prod.fst := by
  simp only [replaced, List.map_map]
  apply List.map_congr_left
  intro item _
  simp only [Function.comp_apply]
  split_ifs with same
  · exact same.symm
  · rfl

def set : OrderedDict Key Value :=
  if present : key ∈ dict.items.map Prod.fst then
    ⟨dict.replaced key value, by rw [keys_replaced]; exact dict.distinct⟩
  else
    ⟨dict.items ++ [(key, value)], by
      rw [List.map_append, List.nodup_append]
      refine ⟨dict.distinct, by simp, ?_⟩
      intro listed member last added same
      have again : listed = key := same.trans (List.mem_singleton.mp added)
      exact present (again ▸ member)⟩

@[simp] theorem get_empty : (empty : OrderedDict Key Value).get key = none := rfl

theorem get_eq_some_iff : dict.get key = some value ↔ (key, value) ∈ dict.items := by
  constructor
  · intro found
    obtain ⟨item, first, rfl⟩ := Option.map_eq_some_iff.mp found
    have same : item.1 = key := by simpa using List.find?_some first
    exact same ▸ List.mem_of_find?_eq_some first
  · intro listed
    cases found : dict.items.find? (fun item => item.1 = key) with
    | none => simpa using List.find?_eq_none.mp found _ listed
    | some item =>
        have same : item.1 = key := by simpa using List.find?_some found
        have only := List.inj_on_of_nodup_map dict.distinct (List.mem_of_find?_eq_some found)
          listed same
        rw [get, found, only]
        rfl

theorem mem_values_iff : value ∈ dict.values ↔ ∃ key, dict.get key = some value := by
  simp only [values, List.mem_map, get_eq_some_iff]
  constructor
  · rintro ⟨item, listed, rfl⟩
    exact ⟨item.1, listed⟩
  · rintro ⟨key, listed⟩
    exact ⟨(key, value), listed, rfl⟩

theorem mem_set_iff {item : Key × Value} :
    item ∈ (dict.set key value).items ↔
      item = (key, value) ∨ item.1 ≠ key ∧ item ∈ dict.items := by
  unfold set
  split_ifs with present
  · simp only [replaced, List.mem_map]
    constructor
    · rintro ⟨old, listed, rfl⟩
      split_ifs with same
      · exact .inl rfl
      · exact .inr ⟨same, listed⟩
    · rintro (rfl | ⟨elsewhere, listed⟩)
      · obtain ⟨old, listed, same⟩ := List.mem_map.mp present
        exact ⟨old, listed, if_pos same⟩
      · exact ⟨item, listed, if_neg elsewhere⟩
  · simp only [List.mem_append, List.mem_singleton]
    constructor
    · rintro (listed | rfl)
      · refine .inr ⟨?_, listed⟩
        rintro rfl
        exact present (List.mem_map_of_mem listed)
      · exact .inl rfl
    · rintro (rfl | ⟨_, listed⟩)
      · exact .inr rfl
      · exact .inl listed

@[simp] theorem get_set_same : (dict.set key value).get key = some value := by
  rw [get_eq_some_iff, mem_set_iff]
  exact .inl rfl

theorem get_set_other (different : other ≠ key) :
    (dict.set key value).get other = dict.get other := by
  apply Option.ext
  intro found
  rw [get_eq_some_iff, get_eq_some_iff, mem_set_iff]
  simp [different]

theorem get_set :
    (dict.set key value).get other = if other = key then some value else dict.get other := by
  split_ifs with same
  · rw [same, get_set_same]
  · exact dict.get_set_other key other value same

end OrderedDict

end KarmaSakshi.Library
