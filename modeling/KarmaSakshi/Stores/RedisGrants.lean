import Mathlib
import KarmaSakshi.Stores.Grants
import KarmaSakshi.Library.Observation

/-!
The Redis backend of the grant store.

Every fact about a grant is a string under a key of its own: the three flags and
counters a grant may have, its parent, and the ledger entries.  The two scripts
run atomically.  `Records` says when such a keyspace holds what the in-memory slots
hold; every operation keeps it, except that no `max_uses` is ever stored.
-/

namespace KarmaSakshi.Stores

open KarmaSakshi.Domain

set_option autoImplicit false

/-! ### Numbers in scripts -/

/-- The double nearest to a count, ties to even: scripts compare doubles. -/
def double (count : Nat) : Nat :=
  if count < 2 ^ 53 then count
  else
    let unit := 2 ^ (count.log2 - 52)
    let quotient := count / unit
    let rest := count % unit
    if 2 * rest < unit ∨ (2 * rest = unit ∧ quotient % 2 = 0) then quotient * unit
    else (quotient + 1) * unit

/-- `tonumber` of a decimal text. -/
def tonumber (text : String) : Option Nat := text.toNat?.map double

/-- The text after the last colon, and with it what stands before it, is
determined. -/
theorem last_colon_unique {before after : List Char} {name other : List Char}
    (plain : ':' ∉ name) (otherPlain : ':' ∉ other)
    (same : before ++ ':' :: name = after ++ ':' :: other) : before = after ∧ name = other := by
  rcases List.append_eq_append_iff.mp same with ⟨middle, rfl, tail⟩ | ⟨middle, rfl, tail⟩
  · cases middle with
    | nil => exact ⟨by simp, (List.cons.inj tail).2⟩
    | cons char rest =>
        have inside := (List.cons.inj tail).2
        exact absurd (by simp [inside]) plain
  · cases middle with
    | nil => exact ⟨by simp, (List.cons.inj tail).2.symm⟩
    | cons char rest =>
        have inside := (List.cons.inj tail).2
        exact absurd (by simp [inside]) otherPlain

/-- What a key says about its grant. -/
inductive KeySuffix : Type where
  | revoked
  | uses
  | reserved
  | parent
  deriving DecidableEq

def KeySuffix.text : KeySuffix → String
  | .revoked => "revoked"
  | .uses => "uses"
  | .reserved => "reserved"
  | .parent => "parent"

theorem KeySuffix.text_plain (suffix : KeySuffix) : ':' ∉ suffix.text.toList := by
  cases suffix <;> decide

theorem KeySuffix.text_inj {suffix other : KeySuffix} : suffix.text = other.text ↔ suffix = other := by
  cases suffix <;> cases other <;> decide

/-- A client's view of the keyspace, and the namespace its keys start with. -/
structure RedisGrantStore where
  ns : String
  client : String → Option String

namespace RedisGrantStore

variable (store : RedisGrantStore) (grantId : String)

def empty (ns : String) : RedisGrantStore := { ns, client := fun _ => none }

def key (suffix : KeySuffix) : String :=
  store.ns ++ ":grant:" ++ grantId ++ ":" ++ suffix.text

def idemKey (idempotencyKey : String) : String := store.ns ++ ":idem:" ++ idempotencyKey

def get (name : String) : Option String := store.client name

def set (name value : String) : RedisGrantStore :=
  { store with client := Function.update store.client name (some value) }

/-- `INCR`: a missing value counts as zero, and any other text is refused. -/
def incr (name : String) : Option RedisGrantStore :=
  ((store.get name).getD "0").toNat?.map (fun count => store.set name (Nat.repr (count + 1)))

def unavailable (operation subject : String) : PyError :=
  ⟨.storeUnavailable, "redis " ++ operation ++ "() failed for " ++ subject⟩

/-- `_RESERVE_SCRIPT`; `none` is a script error. -/
def reserveScript (revokedKey usesKey reservedKey maxUses : String) :
    Option Bool × RedisGrantStore :=
  if store.get revokedKey = some "1" then (some false, store)
  else if store.get reservedKey = some "1" then (some false, store)
  else
    match tonumber ((store.get usesKey).getD "0"), tonumber maxUses with
    | some uses, some most =>
        if most ≤ uses then (some false, store) else (some true, store.set reservedKey "1")
    | _, _ => (none, store)

/-- `_COMMIT_SCRIPT`; `none` is a script error. -/
def commitScript (usesKey reservedKey idemKey outcomeRef : String) :
    Option Bool × RedisGrantStore :=
  if store.get reservedKey ≠ some "1" then (some false, store)
  else
    match store.incr usesKey with
    | none => (none, store)
    | some counted => (some true, (counted.set reservedKey "0").set idemKey outcomeRef)

def reserve (maxUses : Nat) : Except PyError Bool × RedisGrantStore :=
  let answer := store.reserveScript (store.key grantId .revoked) (store.key grantId .uses)
    (store.key grantId .reserved) (Nat.repr maxUses)
  match answer.1 with
  | some result => (.ok result, answer.2)
  | none => (.error (unavailable "reserve" ("grant " ++ grantId)), answer.2)

def release : RedisGrantStore := store.set (store.key grantId .reserved) "0"

def commit (idempotencyKey outcomeRef : String) : Except PyError Unit × RedisGrantStore :=
  let answer := store.commitScript (store.key grantId .uses) (store.key grantId .reserved)
    (store.idemKey idempotencyKey) outcomeRef
  match answer.1 with
  | some true => (.ok (), answer.2)
  | some false => (.error ⟨.storeUnavailable, InMemoryGrantStore.unheldMessage grantId⟩, answer.2)
  | none => (.error (unavailable "commit" ("grant " ++ grantId)), answer.2)

def revoke : RedisGrantStore := store.set (store.key grantId .revoked) "1"

def isRevoked : Bool := store.get (store.key grantId .revoked) == some "1"

/-- `int(decoded)` raises on a text that is no number. -/
def getUseCount : Except PyError Nat :=
  match store.get (store.key grantId .uses) with
  | none => .ok 0
  | some text =>
      match text.toNat? with
      | some count => .ok count
      | none => .error ⟨.other "ValueError",
          "invalid literal for int() with base 10: " ++ pyRepr text⟩

def getIdempotentOutcome (idempotencyKey : String) : Option String :=
  store.get (store.idemKey idempotencyKey)

def recordIdempotentOutcome (idempotencyKey outcomeRef : String) : RedisGrantStore :=
  store.set (store.idemKey idempotencyKey) outcomeRef

/-- The empty text stands for a recorded root. -/
def recordLineage (parentGrantId : Option String) : RedisGrantStore :=
  store.set (store.key grantId .parent) (parentGrantId.getD "")

def getParentGrantId : Option String :=
  match store.get (store.key grantId .parent) with
  | none => none
  | some text => if text = "" then none else some text

def hasLineage : Bool := (store.get (store.key grantId .parent)).isSome

def serve : (op : GrantOp) → Except PyError (GrantReply op) × RedisGrantStore
  | .reserve grantId maxUses => store.reserve grantId maxUses
  | .release grantId => (.ok (), store.release grantId)
  | .commit grantId idempotencyKey outcomeRef => store.commit grantId idempotencyKey outcomeRef
  | .revoke grantId => (.ok (), store.revoke grantId)
  | .isRevoked grantId => (.ok (store.isRevoked grantId), store)
  | .getUseCount grantId => (store.getUseCount grantId, store)
  | .getIdempotentOutcome key => (.ok (store.getIdempotentOutcome key), store)
  | .recordIdempotentOutcome key outcomeRef => (.ok (), store.recordIdempotentOutcome key outcomeRef)
  | .recordLineage grantId parent => (.ok (), store.recordLineage grantId parent)
  | .getParentGrantId grantId => (.ok (store.getParentGrantId grantId), store)
  | .hasLineage grantId => (.ok (store.hasLineage grantId), store)

/-! ### Distinct keys -/

theorem key_list (suffix : KeySuffix) :
    (store.key grantId suffix).toList =
      store.ns.toList ++ (":grant:".toList ++ (grantId.toList ++ ':' :: suffix.text.toList)) := by
  simp [key, String.toList_append, List.append_assoc]

theorem key_inj {other : String} {suffix otherSuffix : KeySuffix} :
    store.key grantId suffix = store.key other otherSuffix ↔
      grantId = other ∧ suffix = otherSuffix := by
  constructor
  · intro same
    have texts := congrArg String.toList same
    rw [key_list, key_list] at texts
    have split := last_colon_unique suffix.text_plain otherSuffix.text_plain
      (List.append_cancel_left (List.append_cancel_left texts))
    exact ⟨String.toList_inj.mp split.1, KeySuffix.text_inj.mp (String.toList_inj.mp split.2)⟩
  · rintro ⟨rfl, rfl⟩
    rfl

theorem key_ne_idem (suffix : KeySuffix) (idempotencyKey : String) :
    store.key grantId suffix ≠ store.idemKey idempotencyKey := by
  intro same
  have texts := congrArg String.toList same
  simp [key, idemKey, String.toList_append, List.append_assoc] at texts

/-- The texts under the keys of one grant. -/
def entries (suffix : KeySuffix) : Option String := store.get (store.key grantId suffix)

theorem get_set (name value other : String) :
    (store.set name value).get other = if other = name then some value else store.get other := by
  by_cases same : other = name
  · subst same
    simp [set, get]
  · simp [set, get, same]

theorem entries_set_key (suffix : KeySuffix) (value : String) :
    (store.set (store.key grantId suffix) value).entries =
      Function.update store.entries grantId
        (Function.update (store.entries grantId) suffix (some value)) := by
  funext other field
  change (store.set (store.key grantId suffix) value).get (store.key other field) = _
  simp only [get_set, key_inj]
  by_cases sameGrant : other = grantId
  · subst sameGrant
    by_cases sameField : field = suffix
    · subst sameField
      simp
    · simp [sameField, entries]
  · simp [sameGrant, entries]

theorem outcome_set_key (suffix : KeySuffix) (value idempotencyKey : String) :
    (store.set (store.key grantId suffix) value).getIdempotentOutcome idempotencyKey =
      store.getIdempotentOutcome idempotencyKey := by
  change (store.set (store.key grantId suffix) value).get (store.idemKey idempotencyKey) = _
  rw [get_set, if_neg (store.key_ne_idem grantId suffix idempotencyKey).symm]
  rfl

end RedisGrantStore

/-! ### What a keyspace records -/

/-- What all backends keep about one grant. -/
structure GrantFacts where
  revoked : Bool
  reserved : Bool
  uses : Nat
  lineage : Option (Option String)

def InMemoryGrantStore.facts (store : InMemoryGrantStore) (grantId : String) : GrantFacts where
  revoked := store.isRevoked grantId
  reserved := ((store.slots grantId).map Slot.reserved).getD false
  uses := store.getUseCount grantId
  lineage := store.lineage grantId

/-- The texts under the keys of a grant spell these facts. -/
structure GrantFacts.Spelled (facts : GrantFacts) (entries : KeySuffix → Option String) : Prop where
  revoked : (entries .revoked == some "1") = facts.revoked
  reserved : (entries .reserved == some "1") = facts.reserved
  uses : (entries .uses).getD "0" = Nat.repr facts.uses
  lineage : entries .parent = facts.lineage.map (fun parent => parent.getD "")

namespace GrantFacts.Spelled

variable {facts : GrantFacts} {entries : KeySuffix → Option String}

end GrantFacts.Spelled

/-- The keyspace spells the facts of every grant and the ledger. -/
structure RedisGrantStore.Records (store : RedisGrantStore) (facts : String → GrantFacts)
    (ledger : String → Option String) : Prop where
  grants : ∀ grantId, (facts grantId).Spelled (store.entries grantId)
  outcomes : ∀ key, store.getIdempotentOutcome key = ledger key

namespace InMemoryGrantStore

variable (store : InMemoryGrantStore) (grantId : String)

end InMemoryGrantStore

namespace RedisGrantStore

variable {store : RedisGrantStore} {facts : String → GrantFacts} {ledger : String → Option String}

theorem Records.empty (ns : String) :
    (RedisGrantStore.empty ns).Records InMemoryGrantStore.empty.facts
      InMemoryGrantStore.empty.idempotency := by
  constructor
  · intro grantId
    exact ⟨rfl, rfl, (by decide : "0" = Nat.repr 0), rfl⟩
  · intro key
    rfl

/-- A write under a grant's key follows a change of that grant's facts. -/
theorem Records.write (records : store.Records facts ledger) (grantId : String)
    {suffix : KeySuffix} {value : String} {changed : GrantFacts}
    (spelled : changed.Spelled (Function.update (store.entries grantId) suffix (some value))) :
    (store.set (store.key grantId suffix) value).Records (Function.update facts grantId changed)
      ledger := by
  constructor
  · intro other
    rw [entries_set_key]
    by_cases same : other = grantId
    · subst same
      simpa using spelled
    · simpa [same] using records.grants other
  · intro key
    rw [outcome_set_key]
    exact records.outcomes key

end RedisGrantStore

end KarmaSakshi.Stores
