import Mathlib.Logic.Function.Basic

/-!
A cache that is written through to a store.

Between a change of the cache and its write a key is owed.  A ledger keeps what is owed; once
nothing is owed, the store holds what the cache holds.
-/

namespace KarmaSakshi.Library

set_option autoImplicit false

variable {Key Stored : Type} {Item : Key → Type}

/-- What is owed of one key: nothing, whatever the cache holds there, or this item. -/
inductive Debt (Item : Type) : Type where
  | settled
  | touched
  | written (item : Item)

abbrev Ledger (Key : Type) (Item : Key → Type) := (key : Key) → Debt (Item key)

/-- The store and the cache agree where nothing is owed, and the cache holds what is owed. -/
def Tallies (holds : (key : Key) → Option (Item key) → Option Stored → Prop)
    (cache : (key : Key) → Option (Item key)) (store : Key → Option Stored)
    (ledger : Ledger Key Item) : Prop :=
  ∀ key, match ledger key with
    | .settled => holds key (cache key) (store key)
    | .touched => (cache key).isSome
    | .written item => cache key = some item

namespace Ledger

variable (ledger : Ledger Key Item)

def Settled : Prop := ∀ key, ledger key = .settled

def clear : Ledger Key Item := fun _ => .settled

theorem clear_settled : (clear : Ledger Key Item).Settled := fun _ => rfl

theorem Settled.eq_clear {ledger : Ledger Key Item} (settled : ledger.Settled) :
    ledger = clear := funext settled

variable [DecidableEq Key] (key : Key)

def write (item : Item key) : Ledger Key Item := Function.update ledger key (.written item)

def touch : Ledger Key Item := Function.update ledger key .touched

def settle : Ledger Key Item := Function.update ledger key .settled

/-- What is read under a key that is owed is what is owed. -/
def read (item : Item key) : Ledger Key Item :=
  match ledger key with
  | .settled => ledger
  | _ => ledger.write key item

section Settling

variable {ledger} {key} {other : Key} {item : Item key}

@[simp] theorem write_same : ledger.write key item key = .written item := Function.update_self ..

@[simp] theorem write_other (different : other ≠ key) :
    ledger.write key item other = ledger other := Function.update_of_ne different ..

@[simp] theorem touch_same : ledger.touch key key = .touched := Function.update_self ..

@[simp] theorem touch_other (different : other ≠ key) : ledger.touch key other = ledger other :=
  Function.update_of_ne different ..

@[simp] theorem settle_other (different : other ≠ key) : ledger.settle key other = ledger other :=
  Function.update_of_ne different ..

@[simp] theorem settled_settle :
    ledger.settle key other = .settled ↔ other = key ∨ ledger other = .settled := by
  by_cases same : other = key
  · subst same
    simp [settle]
  · simp [same]

@[simp] theorem settled_write :
    ledger.write key item other = .settled ↔ other ≠ key ∧ ledger other = .settled := by
  by_cases same : other = key
  · subst same
    simp
  · simp [same]

@[simp] theorem settled_touch :
    ledger.touch key other = .settled ↔ other ≠ key ∧ ledger other = .settled := by
  by_cases same : other = key
  · subst same
    simp
  · simp [same]

omit [DecidableEq Key] in
@[simp] theorem settled_clear : (clear : Ledger Key Item) other = .settled := rfl

end Settling

end Ledger

section Tallying

variable {holds : (key : Key) → Option (Item key) → Option Stored → Prop}
  {cache after : (key : Key) → Option (Item key)} {store later : Key → Option Stored}
  {ledger : Ledger Key Item}

theorem Tallies.agree (tallies : Tallies holds cache store ledger) (settled : ledger.Settled)
    (key : Key) : holds key (cache key) (store key) := by
  have here := tallies key
  rw [settled key] at here
  exact here

theorem tallies_clear_iff :
    Tallies holds cache store Ledger.clear ↔ ∀ key, holds key (cache key) (store key) := Iff.rfl

variable {key : Key} {item : Item key}

/-- Whatever is owed of a key is there. -/
theorem Tallies.present (tallies : Tallies holds cache store ledger)
    (owed : ledger key ≠ .settled) : (cache key).isSome := by
  have here := tallies key
  cases debt : ledger key with
  | settled => exact absurd debt owed
  | touched =>
      rw [debt] at here
      exact here
  | written item =>
      rw [debt] at here
      rw [show cache key = some item from here]
      rfl

variable [DecidableEq Key]

/-- A change under one key is owed. -/
theorem Tallies.change {debt : Debt (Item key)} (tallies : Tallies holds cache store ledger)
    (elsewhere : ∀ other, other ≠ key → after other = cache other)
    (here : match debt with
      | .settled => holds key (after key) (store key)
      | .touched => (after key).isSome
      | .written item => after key = some item) :
    Tallies holds after store (Function.update ledger key debt) := by
  intro other
  by_cases same : other = key
  · subst same
    rw [Function.update_self]
    exact here
  · rw [Function.update_of_ne same, elsewhere other same]
    exact tallies other

theorem Tallies.write (tallies : Tallies holds cache store ledger)
    (elsewhere : ∀ other, other ≠ key → after other = cache other)
    (here : after key = some item) : Tallies holds after store (ledger.write key item) :=
  tallies.change elsewhere here

theorem Tallies.touch (tallies : Tallies holds cache store ledger)
    (elsewhere : ∀ other, other ≠ key → after other = cache other)
    (here : (after key).isSome) : Tallies holds after store (ledger.touch key) :=
  tallies.change elsewhere here

theorem Tallies.read (tallies : Tallies holds cache store ledger) (here : cache key = some item) :
    Tallies holds cache store (ledger.read key item) := by
  unfold Ledger.read
  split
  · exact tallies
  · exact tallies.write (fun _ _ => rfl) here

/-- Writing the owed item to the store settles its key. -/
theorem Tallies.settle (tallies : Tallies holds cache store ledger)
    (owed : ledger key = .written item) {stored : Stored}
    (elsewhere : ∀ other, other ≠ key → later other = store other)
    (here : later key = some stored) (faithful : holds key (some item) (some stored)) :
    Tallies holds cache later (ledger.settle key) := by
  intro other
  by_cases same : other = key
  · subst same
    have cached := tallies other
    rw [owed] at cached
    rw [Ledger.settle, Function.update_self, here]
    rw [show cache other = some item from cached]
    exact faithful
  · rw [Ledger.settle, Function.update_of_ne same, elsewhere other same]
    exact tallies other

end Tallying

end KarmaSakshi.Library
