import KarmaSakshi.Domain.Values

/-!
Grant consumption stores: reservations, use counts, revocations, the
idempotency ledger and the recorded lineage.

`InMemoryGrantStore` keeps slots, `SQLiteGrantStore` keeps rows with 0/1 flag
columns.  A row is viewed as the slot it stands for, and every store operation
commutes with that view, so facts about the slots hold of both backends.
-/

namespace KarmaSakshi.Stores

open KarmaSakshi.Domain

set_option autoImplicit false

/-- The operations of the grant store contract. -/
inductive GrantOp : Type where
  | reserve (grantId : String) (maxUses : Nat)
  | release (grantId : String)
  | commit (grantId idempotencyKey outcomeRef : String)
  | revoke (grantId : String)
  | isRevoked (grantId : String)
  | getUseCount (grantId : String)
  | getIdempotentOutcome (idempotencyKey : String)
  | recordIdempotentOutcome (idempotencyKey outcomeRef : String)
  | recordLineage (grantId : String) (parentGrantId : Option String)
  | getParentGrantId (grantId : String)
  | hasLineage (grantId : String)

abbrev GrantReply : GrantOp → Type
  | .reserve _ _ => Bool
  | .release _ => Unit
  | .commit _ _ _ => Unit
  | .revoke _ => Unit
  | .isRevoked _ => Bool
  | .getUseCount _ => Nat
  | .getIdempotentOutcome _ => Option String
  | .recordIdempotentOutcome _ _ => Unit
  | .recordLineage _ _ => Unit
  | .getParentGrantId _ => Option String
  | .hasLineage _ => Bool

/-! ### In-memory slots -/

structure Slot where
  maxUses : Nat
  uses : Nat
  revoked : Bool
  reserved : Bool
  deriving DecidableEq

/-- `_Slot(max_uses=…)`. -/
def Slot.fresh (maxUses : Nat) : Slot := { maxUses, uses := 0, revoked := false, reserved := false }

structure InMemoryGrantStore where
  slots : String → Option Slot
  idempotency : String → Option String
  lineage : String → Option (Option String)

namespace InMemoryGrantStore

variable (store : InMemoryGrantStore) (grantId : String)

def empty : InMemoryGrantStore where
  slots := fun _ => none
  idempotency := fun _ => none
  lineage := fun _ => none

def putSlot (slot : Slot) : InMemoryGrantStore :=
  { store with slots := Function.update store.slots grantId (some slot) }

def reserve (maxUses : Nat) : Bool × InMemoryGrantStore :=
  let slot := (store.slots grantId).getD (Slot.fresh maxUses)
  if slot.revoked || slot.reserved || slot.maxUses ≤ slot.uses then
    (false, store.putSlot grantId slot)
  else (true, store.putSlot grantId { slot with reserved := true })

def release : InMemoryGrantStore :=
  match store.slots grantId with
  | none => store
  | some slot => store.putSlot grantId { slot with reserved := false }

def unheldMessage : String :=
  "commit() called for grant " ++ pyRepr grantId ++ " without a held reservation"

def commit (idempotencyKey outcomeRef : String) : Except PyError Unit × InMemoryGrantStore :=
  match store.slots grantId with
  | none => (.error ⟨.runtimeError, unheldMessage grantId⟩, store)
  | some slot =>
      if !slot.reserved then (.error ⟨.runtimeError, unheldMessage grantId⟩, store)
      else (.ok (), { store.putSlot grantId { slot with uses := slot.uses + 1, reserved := false } with
        idempotency := Function.update store.idempotency idempotencyKey (some outcomeRef) })

def revoke : InMemoryGrantStore :=
  let slot := (store.slots grantId).getD (Slot.fresh 0)
  store.putSlot grantId { slot with revoked := true }

def isRevoked : Bool := ((store.slots grantId).map Slot.revoked).getD false

def getUseCount : Nat := ((store.slots grantId).map Slot.uses).getD 0

def getIdempotentOutcome (idempotencyKey : String) : Option String :=
  store.idempotency idempotencyKey

def recordIdempotentOutcome (idempotencyKey outcomeRef : String) : InMemoryGrantStore :=
  { store with idempotency := Function.update store.idempotency idempotencyKey (some outcomeRef) }

def recordLineage (parentGrantId : Option String) : InMemoryGrantStore :=
  { store with lineage := Function.update store.lineage grantId (some parentGrantId) }

def getParentGrantId : Option String := (store.lineage grantId).getD none

def hasLineage : Bool := (store.lineage grantId).isSome

def serve : (op : GrantOp) → Except PyError (GrantReply op) × InMemoryGrantStore
  | .reserve grantId maxUses =>
      let answer := store.reserve grantId maxUses
      (.ok answer.1, answer.2)
  | .release grantId => (.ok (), store.release grantId)
  | .commit grantId idempotencyKey outcomeRef => store.commit grantId idempotencyKey outcomeRef
  | .revoke grantId => (.ok (), store.revoke grantId)
  | .isRevoked grantId => (.ok (store.isRevoked grantId), store)
  | .getUseCount grantId => (.ok (store.getUseCount grantId), store)
  | .getIdempotentOutcome key => (.ok (store.getIdempotentOutcome key), store)
  | .recordIdempotentOutcome key outcomeRef => (.ok (), store.recordIdempotentOutcome key outcomeRef)
  | .recordLineage grantId parent => (.ok (), store.recordLineage grantId parent)
  | .getParentGrantId grantId => (.ok (store.getParentGrantId grantId), store)
  | .hasLineage grantId => (.ok (store.hasLineage grantId), store)

end InMemoryGrantStore

/-! ### SQLite rows -/

/-- A row of `grant_slots`; the flag columns only ever hold 0 or 1. -/
structure GrantRow where
  maxUses : Nat
  uses : Nat
  revoked : Fin 2
  reserved : Fin 2

def GrantRow.inserted (maxUses : Nat) : GrantRow := { maxUses, uses := 0, revoked := 0, reserved := 0 }

def GrantRow.slot (row : GrantRow) : Slot :=
  { maxUses := row.maxUses, uses := row.uses, revoked := row.revoked == 1,
    reserved := row.reserved == 1 }

structure SQLiteGrantStore where
  rows : String → Option GrantRow
  idempotency : String → Option String
  lineage : String → Option (Option String)

namespace SQLiteGrantStore

variable (store : SQLiteGrantStore) (grantId : String)

def empty : SQLiteGrantStore where
  rows := fun _ => none
  idempotency := fun _ => none
  lineage := fun _ => none

def putRow (row : GrantRow) : SQLiteGrantStore :=
  { store with rows := Function.update store.rows grantId (some row) }

/-- `INSERT OR IGNORE INTO grant_slots(grant_id, max_uses)`. -/
def insertOrIgnore (maxUses : Nat) : SQLiteGrantStore :=
  match store.rows grantId with
  | some _ => store
  | none => store.putRow grantId (GrantRow.inserted maxUses)

/-- The insert and the guarded update share one transaction; the answer is the
update's row count. -/
def reserve (maxUses : Nat) : Bool × SQLiteGrantStore :=
  let inserted := store.insertOrIgnore grantId maxUses
  match inserted.rows grantId with
  | none => (false, inserted)
  | some row =>
      if row.revoked = 0 ∧ row.reserved = 0 ∧ row.uses < row.maxUses then
        (true, inserted.putRow grantId { row with reserved := 1 })
      else (false, inserted)

def release : SQLiteGrantStore :=
  match store.rows grantId with
  | none => store
  | some row => store.putRow grantId { row with reserved := 0 }

/-- A row count other than one rolls the transaction back. -/
def commit (idempotencyKey outcomeRef : String) : Except PyError Unit × SQLiteGrantStore :=
  let unheld : PyError := ⟨.storeUnavailable, InMemoryGrantStore.unheldMessage grantId⟩
  match store.rows grantId with
  | none => (.error unheld, store)
  | some row =>
      if row.reserved = 1 then
        (.ok (), { store.putRow grantId { row with uses := row.uses + 1, reserved := 0 } with
          idempotency := Function.update store.idempotency idempotencyKey (some outcomeRef) })
      else (.error unheld, store)

def revoke : SQLiteGrantStore :=
  let inserted := store.insertOrIgnore grantId 0
  match inserted.rows grantId with
  | none => inserted
  | some row => inserted.putRow grantId { row with revoked := 1 }

def isRevoked : Bool := ((store.rows grantId).map (fun row => row.revoked != 0)).getD false

def getUseCount : Nat := ((store.rows grantId).map GrantRow.uses).getD 0

def getParentGrantId : Option String := (store.lineage grantId).getD none

def serve : (op : GrantOp) → Except PyError (GrantReply op) × SQLiteGrantStore
  | .reserve grantId maxUses =>
      let answer := store.reserve grantId maxUses
      (.ok answer.1, answer.2)
  | .release grantId => (.ok (), store.release grantId)
  | .commit grantId idempotencyKey outcomeRef => store.commit grantId idempotencyKey outcomeRef
  | .revoke grantId => (.ok (), store.revoke grantId)
  | .isRevoked grantId => (.ok (store.isRevoked grantId), store)
  | .getUseCount grantId => (.ok (store.getUseCount grantId), store)
  | .getIdempotentOutcome key => (.ok (store.idempotency key), store)
  | .recordIdempotentOutcome key outcomeRef =>
      (.ok (), { store with
        idempotency := Function.update store.idempotency key (some outcomeRef) })
  | .recordLineage grantId parent =>
      (.ok (), { store with lineage := Function.update store.lineage grantId (some parent) })
  | .getParentGrantId grantId => (.ok (store.getParentGrantId grantId), store)
  | .hasLineage grantId => (.ok (store.lineage grantId).isSome, store)

def view : InMemoryGrantStore where
  slots := fun grantId => (store.rows grantId).map GrantRow.slot
  idempotency := store.idempotency
  lineage := store.lineage

private theorem flag_cases (flag : Fin 2) : flag = 0 ∨ flag = 1 := by
  revert flag
  decide

private theorem view_put_row (row : GrantRow) :
    (store.putRow grantId row).view = store.view.putSlot grantId row.slot := by
  unfold view putRow InMemoryGrantStore.putSlot
  congr 1
  funext other
  by_cases same : other = grantId
  · subst same
    simp
  · simp [same]

private theorem put_slot_same {slot : Slot} (present : store.view.slots grantId = some slot) :
    store.view.putSlot grantId slot = store.view := by
  unfold InMemoryGrantStore.putSlot
  rw [← present, Function.update_eq_self]

private theorem insert_or_ignore_row (maxUses : Nat) :
    (store.insertOrIgnore grantId maxUses).rows grantId =
      some ((store.rows grantId).getD (GrantRow.inserted maxUses)) := by
  unfold insertOrIgnore
  cases present : store.rows grantId with
  | some row => simp [present]
  | none => simp [putRow]

private theorem insert_or_ignore_view (maxUses : Nat) :
    (store.insertOrIgnore grantId maxUses).view = store.view.putSlot grantId
      ((store.view.slots grantId).getD (Slot.fresh maxUses)) := by
  unfold insertOrIgnore
  cases present : store.rows grantId with
  | some row =>
      have viewed : store.view.slots grantId = some row.slot := by simp [view, present]
      rw [viewed, Option.getD_some, put_slot_same store grantId viewed]
  | none =>
      have viewed : store.view.slots grantId = none := by simp [view, present]
      simp only [view_put_row, viewed, Option.getD_none]
      rfl

private theorem slot_of_inserted (maxUses : Nat) :
    ((store.rows grantId).getD (GrantRow.inserted maxUses)).slot =
      (store.view.slots grantId).getD (Slot.fresh maxUses) := by
  cases present : store.rows grantId with
  | none =>
      simp only [view, present, Option.map_none, Option.getD_none]
      rfl
  | some row => simp only [view, present, Option.map_some, Option.getD_some]

private theorem put_slot_put_slot (first second : Slot) (inner : InMemoryGrantStore) :
    (inner.putSlot grantId first).putSlot grantId second = inner.putSlot grantId second := by
  simp [InMemoryGrantStore.putSlot]

theorem reserve_view (maxUses : Nat) :
    (store.reserve grantId maxUses).1 = (store.view.reserve grantId maxUses).1 ∧
      (store.reserve grantId maxUses).2.view = (store.view.reserve grantId maxUses).2 := by
  have row := insert_or_ignore_row store grantId maxUses
  have viewed := insert_or_ignore_view store grantId maxUses
  have slotted := slot_of_inserted store grantId maxUses
  unfold reserve InMemoryGrantStore.reserve
  simp only [row]
  rw [← slotted]
  rw [← slotted] at viewed
  generalize (store.rows grantId).getD (GrantRow.inserted maxUses) = found at *
  rcases found with ⟨most, uses, revoked, reserved⟩
  rcases flag_cases revoked with rfl | rfl <;> rcases flag_cases reserved with rfl | rfl
  case inl.inl =>
    by_cases available : uses < most
    · have open_ : ¬ most ≤ uses := by omega
      simp [GrantRow.slot, available, open_, view_put_row, viewed, put_slot_put_slot]
    · have exhausted : most ≤ uses := by omega
      simpa [GrantRow.slot, available, exhausted] using viewed
  all_goals simpa [GrantRow.slot] using viewed

theorem release_view : (store.release grantId).view = store.view.release grantId := by
  unfold release InMemoryGrantStore.release
  cases present : store.rows grantId with
  | none => simp [view, present]
  | some row =>
      have viewed : store.view.slots grantId = some row.slot := by simp [view, present]
      simp only [viewed, view_put_row]
      rfl

/-- The two backends refuse an unheld commit with different error classes, so
replies are compared up to the error. -/
theorem commit_view (idempotencyKey outcomeRef : String) :
    (store.commit grantId idempotencyKey outcomeRef).1.toOption =
        (store.view.commit grantId idempotencyKey outcomeRef).1.toOption ∧
      (store.commit grantId idempotencyKey outcomeRef).2.view =
        (store.view.commit grantId idempotencyKey outcomeRef).2 := by
  unfold commit InMemoryGrantStore.commit
  cases present : store.rows grantId with
  | none => simp [view, present, Except.toOption]
  | some row =>
      have viewed : store.view.slots grantId = some row.slot := by simp [view, present]
      simp only [viewed]
      rcases flag_cases row.reserved with free | held
      · simp [GrantRow.slot, free, Except.toOption]
      · have put := view_put_row store grantId { row with uses := row.uses + 1, reserved := 0 }
        simp only [GrantRow.slot, held, beq_self_eq_true, Bool.not_true, Bool.false_eq_true,
          if_true, if_false, true_and]
        simp only [view, InMemoryGrantStore.putSlot, GrantRow.slot,
          InMemoryGrantStore.mk.injEq] at put ⊢
        exact ⟨put.1, trivial, rfl⟩

theorem revoke_view : (store.revoke grantId).view = store.view.revoke grantId := by
  have row := insert_or_ignore_row store grantId 0
  have viewed := insert_or_ignore_view store grantId 0
  have slotted := slot_of_inserted store grantId 0
  unfold revoke InMemoryGrantStore.revoke
  simp only [row, view_put_row, viewed, put_slot_put_slot]
  rw [← slotted]
  rfl

theorem is_revoked_view : store.isRevoked grantId = store.view.isRevoked grantId := by
  unfold isRevoked InMemoryGrantStore.isRevoked
  simp only [view]
  cases store.rows grantId with
  | none => rfl
  | some row =>
      simp only [Option.map_some, Option.getD_some, GrantRow.slot]
      rcases flag_cases row.revoked with flag | flag <;> rw [flag] <;> rfl

theorem get_use_count_view : store.getUseCount grantId = store.view.getUseCount grantId := by
  unfold getUseCount InMemoryGrantStore.getUseCount
  simp only [view]
  cases store.rows grantId <;> rfl

end SQLiteGrantStore

/-! ### What one operation does to one slot -/

/-- The grant whose slot an operation may write. -/
def GrantOp.writes : GrantOp → Option String
  | .reserve grantId _ => some grantId
  | .release grantId => some grantId
  | .commit grantId _ _ => some grantId
  | .revoke grantId => some grantId
  | _ => none

namespace InMemoryGrantStore

variable (store : InMemoryGrantStore) (grantId : String)

@[simp] theorem put_slot_self (slot : Slot) :
    (store.putSlot grantId slot).slots grantId = some slot := by
  simp [putSlot]

theorem put_slot_other {other : String} (slot : Slot) (differs : other ≠ grantId) :
    (store.putSlot grantId slot).slots other = store.slots other := by
  simp [putSlot, differs]

/-- Slots change only under the grant an operation names. -/
theorem serve_slot_other (op : GrantOp) (elsewhere : op.writes ≠ some grantId) :
    (store.serve op).2.slots grantId = store.slots grantId := by
  cases op with
  | reserve other maxUses =>
      have differs : grantId ≠ other := fun same => elsewhere (congrArg some same.symm)
      unfold serve reserve
      dsimp only
      split <;> exact put_slot_other _ _ _ differs
  | release other =>
      have differs : grantId ≠ other := fun same => elsewhere (congrArg some same.symm)
      unfold serve release
      dsimp only
      split
      · rfl
      · exact put_slot_other _ _ _ differs
  | commit other key outcomeRef =>
      have differs : grantId ≠ other := fun same => elsewhere (congrArg some same.symm)
      unfold serve commit
      dsimp only
      split
      · rfl
      · split
        · rfl
        · exact put_slot_other _ _ _ differs
  | revoke other =>
      have differs : grantId ≠ other := fun same => elsewhere (congrArg some same.symm)
      exact put_slot_other _ _ _ differs
  | _ => rfl

/-- The slot a reservation looks at. -/
def slotFor (maxUses : Nat) : Slot := (store.slots grantId).getD (Slot.fresh maxUses)

theorem reserve_won {maxUses : Nat} (won : (store.reserve grantId maxUses).1 = true) :
    (store.slotFor grantId maxUses).reserved = false ∧
      (store.slotFor grantId maxUses).revoked = false ∧
      (store.slotFor grantId maxUses).uses < (store.slotFor grantId maxUses).maxUses ∧
      (store.reserve grantId maxUses).2.slots grantId =
        some { store.slotFor grantId maxUses with reserved := true } := by
  unfold reserve at *
  change (if (store.slotFor grantId maxUses).revoked || (store.slotFor grantId maxUses).reserved ||
    decide ((store.slotFor grantId maxUses).maxUses ≤ (store.slotFor grantId maxUses).uses) then
      (false, store.putSlot grantId (store.slotFor grantId maxUses)) else _).1 = true at won
  change _ ∧ _ ∧ _ ∧ (if (store.slotFor grantId maxUses).revoked ||
    (store.slotFor grantId maxUses).reserved ||
    decide ((store.slotFor grantId maxUses).maxUses ≤ (store.slotFor grantId maxUses).uses) then
      (false, store.putSlot grantId (store.slotFor grantId maxUses)) else _).2.slots grantId = _
  split at won
  · exact absurd won (by simp)
  · next open_ =>
      rw [if_neg open_]
      simp only [Bool.or_eq_true, decide_eq_true_eq, not_or, Bool.not_eq_true, not_le] at open_
      exact ⟨open_.1.2, open_.1.1, open_.2, put_slot_self _ _ _⟩

theorem reserve_lost {maxUses : Nat} (lost : (store.reserve grantId maxUses).1 = false) :
    (store.reserve grantId maxUses).2.slots grantId =
      some (store.slotFor grantId maxUses) := by
  unfold reserve at *
  dsimp only at *
  split at lost
  · next closed =>
      rw [if_pos closed]
      exact put_slot_self _ _ _
  · exact absurd lost (by simp)

theorem release_slot :
    (store.release grantId).slots grantId =
      (store.slots grantId).map (fun slot => { slot with reserved := false }) := by
  unfold release
  cases present : store.slots grantId with
  | none => simp [present]
  | some slot => simp

/-- A completed commit was covered by a held reservation. -/
theorem commit_ok {key outcomeRef : String} {done : Unit}
    (completed : (store.commit grantId key outcomeRef).1 = .ok done) :
    ∃ slot, store.slots grantId = some slot ∧ slot.reserved = true ∧
      (store.commit grantId key outcomeRef).2.slots grantId =
        some { slot with uses := slot.uses + 1, reserved := false } := by
  unfold commit at *
  cases present : store.slots grantId with
  | none => simp [present] at completed
  | some slot =>
      simp only [present] at completed ⊢
      cases reserved : slot.reserved with
      | false => simp [reserved] at completed
      | true => exact ⟨slot, rfl, reserved, by simp [putSlot]⟩

/-- Only an unheld commit raises, and it writes nothing. -/
theorem serve_error {op : GrantOp} {error : PyError}
    (raised : (store.serve op).1 = .error error) : (store.serve op).2 = store := by
  cases op with
  | commit other key outcomeRef =>
      unfold serve commit at *
      dsimp only at *
      split
      · rfl
      · next slot present =>
          cases reserved : slot.reserved with
          | false => simp
          | true => simp [present, reserved] at raised
  | _ => exact absurd raised (by simp [serve])

/-- A revocation is never undone. -/
theorem serve_keeps_revoked (op : GrantOp) (marked : store.isRevoked grantId = true) :
    (store.serve op).2.isRevoked grantId = true := by
  unfold isRevoked at *
  cases present : store.slots grantId with
  | none => simp [present] at marked
  | some slot =>
      have revoked : slot.revoked = true := by simpa [present] using marked
      by_cases named : op.writes = some grantId
      · cases op with
        | reserve other maxUses =>
            obtain rfl : other = grantId := Option.some.inj named
            simp [serve, reserve, present, revoked]
        | release other =>
            obtain rfl : other = grantId := Option.some.inj named
            simp [serve, release, present, revoked]
        | commit other key outcomeRef =>
            obtain rfl : other = grantId := Option.some.inj named
            cases held : slot.reserved <;> simp [serve, commit, present, held, revoked, putSlot]
        | revoke other =>
            obtain rfl : other = grantId := Option.some.inj named
            simp [serve, revoke]
        | _ => exact absurd named (by simp [GrantOp.writes])
      · rw [store.serve_slot_other grantId op named, present]
        simp [revoked]

theorem revoke_marks : (store.revoke grantId).isRevoked grantId = true := by
  simp [revoke, isRevoked]

/-- A revoked grant is never reserved. -/
theorem revoked_reserve_fails {maxUses : Nat} (marked : store.isRevoked grantId = true) :
    (store.reserve grantId maxUses).1 = false := by
  cases answer : (store.reserve grantId maxUses).1 with
  | false => rfl
  | true =>
      have unrevoked := (store.reserve_won grantId answer).2.1
      unfold isRevoked at marked
      unfold slotFor at unrevoked
      cases present : store.slots grantId with
      | none => simp [present] at marked
      | some slot =>
          simp only [present, Option.map_some, Option.getD_some] at marked unrevoked
          exact absurd (unrevoked.symm.trans marked) (by simp)

/-- Only recording a lineage row changes the lineage. -/
theorem serve_keeps_lineage {op : GrantOp} (other : ∀ child parent, op ≠ .recordLineage child parent) :
    (store.serve op).2.lineage = store.lineage := by
  cases op with
  | reserve grantId maxUses =>
      unfold serve reserve
      dsimp only
      split <;> rfl
  | release grantId =>
      unfold serve release
      dsimp only
      split <;> rfl
  | commit grantId key outcomeRef =>
      unfold serve commit
      dsimp only
      split
      · rfl
      · split <;> rfl
  | recordLineage child parent => exact absurd rfl (other child parent)
  | _ => rfl

end InMemoryGrantStore

/-- The grant store an engine is configured with. -/
inductive GrantStore : Type where
  | memory (store : InMemoryGrantStore)
  | sqlite (store : SQLiteGrantStore)

namespace GrantStore

def view : GrantStore → InMemoryGrantStore
  | memory store => store
  | sqlite store => store.view

def serve (store : GrantStore) (op : GrantOp) : Except PyError (GrantReply op) × GrantStore :=
  match store with
  | memory inner => ((inner.serve op).1, .memory (inner.serve op).2)
  | sqlite inner => ((inner.serve op).1, .sqlite (inner.serve op).2)

/-- Every operation of either backend is the slot operation on the view, up to
which error an unheld commit raises. -/
theorem serve_view (store : GrantStore) (op : GrantOp) :
    (store.serve op).1.toOption = (store.view.serve op).1.toOption ∧
      (store.serve op).2.view = (store.view.serve op).2 := by
  cases store with
  | memory inner => exact ⟨rfl, rfl⟩
  | sqlite inner =>
      cases op with
      | reserve grantId maxUses =>
          have reserved := inner.reserve_view grantId maxUses
          exact ⟨congrArg some reserved.1, reserved.2⟩
      | release grantId => exact ⟨rfl, inner.release_view grantId⟩
      | commit grantId key outcomeRef => exact inner.commit_view grantId key outcomeRef
      | revoke grantId => exact ⟨rfl, inner.revoke_view grantId⟩
      | isRevoked grantId => exact ⟨congrArg some (inner.is_revoked_view grantId), rfl⟩
      | getUseCount grantId => exact ⟨congrArg some (inner.get_use_count_view grantId), rfl⟩
      | getIdempotentOutcome key => exact ⟨rfl, rfl⟩
      | recordIdempotentOutcome key outcomeRef => exact ⟨rfl, rfl⟩
      | recordLineage grantId parent => exact ⟨rfl, rfl⟩
      | getParentGrantId grantId => exact ⟨rfl, rfl⟩
      | hasLineage grantId => exact ⟨rfl, rfl⟩

theorem serve_ok {store : GrantStore} {op : GrantOp} {value : GrantReply op}
    (answered : (store.serve op).1 = .ok value) : (store.view.serve op).1 = .ok value := by
  have viewed := (store.serve_view op).1
  rw [answered] at viewed
  cases inner : (store.view.serve op).1 with
  | ok other =>
      rw [inner] at viewed
      exact congrArg Except.ok (Option.some.inj viewed).symm
  | error error =>
      rw [inner] at viewed
      exact absurd viewed (by simp [Except.toOption])

theorem serve_raised {store : GrantStore} {op : GrantOp} {error : PyError}
    (raised : (store.serve op).1 = .error error) :
    (store.view.serve op).2 = store.view := by
  have viewed := (store.serve_view op).1
  rw [raised] at viewed
  cases inner : (store.view.serve op).1 with
  | error other => exact store.view.serve_error inner
  | ok value =>
      rw [inner] at viewed
      exact absurd viewed (by simp [Except.toOption])

end GrantStore

end KarmaSakshi.Stores
