import KarmaSakshi.Gateway.Refunds
import KarmaSakshi.Library.WriteThrough

/-!
Runs of the refund journey: requests one after another, and restarts.

The sessions, the clocks and the engine may answer anything.  A write of the journey may fail
too, and what the engine is asked for between a change and its write, unless a request is said to
be served without such failures.
-/

namespace KarmaSakshi.Gateway

open EffectProgram KarmaSakshi.Domain KarmaSakshi.Library

set_option autoImplicit false

/-! ### Places -/

namespace RefundMap

theorem bucket_injective : Function.Injective bucket := by
  intro map other same
  cases map <;> cases other <;> first | rfl | exact absurd same (by decide)

theorem bucket_apart (map : RefundMap) : map.bucket ≠ activePolicyBucket := by
  cases map <;> decide

end RefundMap

/-- What the journey keeps: the items of its dictionaries, and the active policy bundle. -/
inductive RefundKey : Type where
  | item (map : RefundMap) (key : String)
  | activePolicy
  deriving DecidableEq

namespace RefundKey

abbrev Item : RefundKey → Type
  | item map _ => map.Item
  | activePolicy => String

def bucket : RefundKey → String
  | item map _ => map.bucket
  | activePolicy => activePolicyBucket

def itemKey : RefundKey → String
  | item _ key => key
  | activePolicy => activePolicyKey

theorem place_injective {key other : RefundKey} (buckets : key.bucket = other.bucket)
    (keys : key.itemKey = other.itemKey) : key = other := by
  cases key with
  | item map name =>
      cases other with
      | item another otherName =>
          obtain rfl := RefundMap.bucket_injective buckets
          obtain rfl : name = otherName := keys
          rfl
      | activePolicy => exact absurd buckets map.bucket_apart
  | activePolicy =>
      cases other with
      | item another otherName => exact absurd buckets.symm another.bucket_apart
      | activePolicy => rfl

end RefundKey

def RefundMaps.look (maps : RefundMaps) : (key : RefundKey) → Option key.Item
  | .item map key => maps.get map key
  | .activePolicy => maps.activePolicyBundleId

section Codec

variable {Payload : Type} (codec : GatewayStore.StoreCodec Payload) (items : RefundCodec Payload)

/-- The text of an item's row. -/
def spelled : (key : RefundKey) → key.Item → Except PyError String
  | .item map _, item => (items.dump map item).bind codec.dumps
  | .activePolicy, bundleId => codec.dumps (items.dumpId (some bundleId))

/-- The row of an item holds it: it is restored from the text. -/
def Reads : (key : RefundKey) → key.Item → String → Prop
  | .item map _, item, text =>
      (codec.loads text).bind (fun payload => items.load map payload) = .ok item
  | .activePolicy, bundleId, text =>
      (codec.loads text).bind (fun payload => items.loadId payload) = .ok (some bundleId)

/-- Dumping and parsing an item gives it back. -/
def RoundTrips : Prop := ∀ key item text, spelled codec items key item = .ok text →
  Reads codec items key item text

/-- No item is refused when it is dumped. -/
def DumpsAll : Prop := ∀ key item, ∃ text, spelled codec items key item = .ok text

end Codec

/-! ### The process -/

/-- The database, and the runtimes of the organizations. -/
structure GatewayProcess where
  tables : GatewayTables
  states : String → RefundMaps

def GatewayTables.stored (tables : GatewayTables) (orgId : String) (key : RefundKey) :
    Option String :=
  (tables.refundState.find? (fun row =>
    row.orgId = orgId ∧ row.bucket = key.bucket ∧ row.itemKey = key.itemKey)).map
      RefundStateRow.payloadJson

/-- The rows of `gateway_refund_state` obey its primary key. -/
def GatewayTables.RefundKeyed (tables : GatewayTables) : Prop :=
  (tables.refundState.map (fun row => (row.orgId, row.bucket, row.itemKey))).Nodup

/-- The row that is stored under a key. -/
def RefundStateRow.At (orgId : String) (key : RefundKey) (row : RefundStateRow) : Prop :=
  row.orgId = orgId ∧ row.bucket = key.bucket ∧ row.itemKey = key.itemKey

instance (orgId : String) (key : RefundKey) (row : RefundStateRow) :
    Decidable (row.At orgId key) :=
  inferInstanceAs (Decidable (_ ∧ _ ∧ _))

/-- The calls that a request makes while something is still to be written. -/
def JourneyCall.midway : JourneyCall → Bool
  | .now | .sealApprovalPolicy _ _ _ _ => true
  | _ => false

def StoreOp.writesRefund : StoreOp → Bool
  | .upsertRefundState _ => true
  | _ => false

/-- What one runtime answers. -/
def runtimeAnswers (failing : Bool) (maps : RefundMaps) : (op : RuntimeOp) →
    Except PyError (RuntimeReply op) → RefundMaps → Prop
  | .get map key, reply, after => reply = .ok (maps.get map key) ∧ after = maps
  | .values map, reply, after => reply = .ok (maps.dict map).values ∧ after = maps
  | .set map key item, reply, after => reply = .ok () ∧ after = maps.set map key item
  | .setDefault map key item, reply, after =>
      reply = .ok () ∧ after = maps.setDefault map key item
  | .appendGrantId manifestId grantId, reply, after =>
      reply = .ok () ∧ after = maps.appendGrantId manifestId grantId
  | .appendStatement manifestId statement, reply, after =>
      reply = .ok () ∧ after = maps.appendStatement manifestId statement
  | .activePolicyBundleId, reply, after => reply = .ok maps.activePolicyBundleId ∧ after = maps
  | .setActivePolicyBundleId bundleId, reply, after =>
      reply = .ok () ∧ after = { maps with activePolicyBundleId := bundleId }
  | .engine call, reply, after => after = maps ∧
      (failing = false → call.midway = true → ∃ answer, reply = .ok answer)

/-- What the database answers: any statement may fail, a write of the journey only if its writes
are failing.  A reading of the clock does not. -/
def storeAnswers (failing : Bool) (tables : GatewayTables) (op : StoreOp)
    (reply : Except PyError (StoreReply op)) (after : GatewayTables) : Prop :=
  (∃ now salt, (reply, after) = answerStore now salt tables op) ∨
    (∃ error, reply = .error error) ∧ after = tables ∧ op ≠ .now ∧
      (op.writesRefund = true → failing = true)

def gatewayEnvironment (failing : Bool) :
    Handler GatewayOp GatewayReply PyError GatewayProcess :=
  fun process op reply after =>
    match op, reply with
    | .session _, _ | .getState _, _ | .wallClock, _ => after = process
    | .store op, reply =>
        storeAnswers failing process.tables op reply after.tables ∧ after.states = process.states
    | .runtime orgId op, reply => after.tables = process.tables ∧
        ∃ maps, runtimeAnswers failing (process.states orgId) op reply maps ∧
          after.states = Function.update process.states orgId maps

/-! ### What a request owes the store -/

/-- An item that a dictionary of lists has before anything is listed. -/
def RefundMap.blank : (map : RefundMap) → map.Item → Bool
  | .approvalStatements, statements => statements.isEmpty
  | _, _ => false

section Owing

variable {Payload : Type} (codec : GatewayStore.StoreCodec Payload) (items : RefundCodec Payload)

/-- A row holds the item that the runtime has, or neither has one. -/
def Kept : (key : RefundKey) → Option key.Item → Option String → Prop
  | key, some item, some text => Reads codec items key item text
  | _, none, none => True
  | .item map _, some item, none => map.blank item = true
  | _, _, _ => False

/-- Every row is the only one of its key, and an item is restored from it. -/
structure GatewayTables.Restorable (tables : GatewayTables) : Prop where
  keyed : tables.RefundKeyed
  reads : ∀ row ∈ tables.refundState, ∃ key item, row.At row.orgId key ∧
    Reads codec items key item row.payloadJson

/-- The runtime of every organization and its rows agree. -/
structure GatewayProcess.Agrees (process : GatewayProcess) : Prop where
  rows : process.tables.Restorable codec items
  kept : ∀ orgId key, Kept codec items key ((process.states orgId).look key)
    (process.tables.stored orgId key)

abbrev RefundLedger := Ledger RefundKey RefundKey.Item

/-- Which steps a request takes that owes this. -/
def owingAdmits (orgId : String) (ledger : RefundLedger) : GatewayOp → Prop
  | .runtime other op => other = orgId ∧ op ≠ .setActivePolicyBundleId none
  | .store (.upsertRefundState row) => ∃ key item, ledger key = .written item ∧
      row.orgId = orgId ∧ row.bucket = key.bucket ∧ row.itemKey = key.itemKey ∧
        spelled codec items key item = .ok row.payloadJson
  | _ => True

/-- Runtimes do not fail, keys that are owed are there, and writes fail only if they may. -/
def owingExpects (failing : Bool) (ledger : RefundLedger) :
    (op : GatewayOp) → Except PyError (GatewayReply op) → Prop
  | .runtime _ (.get map key), reply => ∃ found, reply = .ok found ∧
      (ledger (.item map key) ≠ .settled → found.isSome)
  | .runtime _ (.engine call), reply =>
      failing = false → call.midway = true → ∃ answer, reply = .ok answer
  | .runtime _ _, reply => ∃ answer, reply = .ok answer
  | .store op, reply =>
      op = .now ∨ op.writesRefund = true ∧ failing = false → ∃ answer, reply = .ok answer
  | _, _ => True

/-- What is owed after a step of the runtime. -/
def runtimeOwes (ledger : RefundLedger) :
    (op : RuntimeOp) → Except PyError (RuntimeReply op) → RefundLedger
  | .set map key item, _ => ledger.write (.item map key) item
  | .setDefault map key item, _ =>
      if map.blank item then ledger else ledger.touch (.item map key)
  | .appendGrantId manifestId _, _ => ledger.touch (.item .grantsByManifest manifestId)
  | .appendStatement manifestId _, _ => ledger.touch (.item .approvalStatements manifestId)
  | .setActivePolicyBundleId (some bundleId), _ => ledger.write .activePolicy bundleId
  | .get map key, .ok (some item) => ledger.read (.item map key) item
  | _, _ => ledger

/-- A row that is written settles its key. -/
def owes (ledger : RefundLedger) :
    (op : GatewayOp) → Except PyError (GatewayReply op) → RefundLedger
  | .runtime _ op, reply => runtimeOwes ledger op reply
  | .store (.upsertRefundState row), .ok () => fun key =>
      if row.bucket = key.bucket ∧ row.itemKey = key.itemKey then .settled else ledger key
  | _, _ => ledger

def owing (failing : Bool) (orgId : String) :
    Spec GatewayOp GatewayReply PyError RefundLedger where
  admits := owingAdmits codec items orgId
  expects := owingExpects failing
  observe := owes

end Owing

/-! ### One step -/

section Rows

variable (tables : GatewayTables) (row : RefundStateRow) (orgId : String) (key : RefundKey)

theorem stored_upsert_same (here : row.At orgId key) :
    (tables.upsertRefundState row).stored orgId key = some row.payloadJson := by
  obtain ⟨rfl, bucket, itemKey⟩ := here
  simp only [GatewayTables.stored, GatewayTables.upsertRefundState, List.find?_append]
  have gone : (tables.refundState.filter (fun held => ¬ (held.orgId = row.orgId ∧
      held.bucket = row.bucket ∧ held.itemKey = row.itemKey))).find? (fun held =>
        held.orgId = row.orgId ∧ held.bucket = key.bucket ∧ held.itemKey = key.itemKey) =
          none := by
    rw [List.find?_eq_none]
    intro held listed
    have apart := (List.mem_filter.mp listed).2
    rw [← bucket, ← itemKey]
    simp only [decide_eq_true_eq] at apart ⊢
    exact apart
  rw [gone]
  simp [bucket, itemKey]

theorem stored_upsert_other (apart : ¬ row.At orgId key) :
    (tables.upsertRefundState row).stored orgId key = tables.stored orgId key := by
  simp only [GatewayTables.stored, GatewayTables.upsertRefundState, List.find?_append]
  have last : [row].find? (fun held => held.orgId = orgId ∧ held.bucket = key.bucket ∧
      held.itemKey = key.itemKey) = none := by
    rw [List.find?_eq_none]
    intro held listed
    rw [List.mem_singleton.mp listed]
    simpa [RefundStateRow.At] using apart
  rw [last, Option.or_none, List.find?_filter]
  congr 2
  funext held
  simp only [decide_eq_true_eq, decide_eq_decide]
  apply and_iff_right_of_imp
  rintro ⟨rfl, bucket, itemKey⟩ ⟨org, sameBucket, sameKey⟩
  exact apart ⟨org.symm, sameBucket.symm.trans bucket, sameKey.symm.trans itemKey⟩

theorem refund_keyed_upsert (keyed : tables.RefundKeyed) :
    (tables.upsertRefundState row).RefundKeyed := by
  simp only [GatewayTables.RefundKeyed, GatewayTables.upsertRefundState, List.map_append,
    List.map_singleton, List.nodup_append]
  refine ⟨keyed.sublist (List.filter_sublist.map _), by simp, ?_⟩
  intro place listed last member same
  obtain ⟨held, inside, rfl⟩ := List.mem_map.mp listed
  have apart := (List.mem_filter.mp inside).2
  have equal := same.trans (List.mem_singleton.mp member)
  simp only [Prod.mk.injEq] at equal
  simp [equal] at apart

theorem GatewayTables.Restorable.upsert {Payload : Type} {codec : GatewayStore.StoreCodec Payload}
    {items : RefundCodec Payload} {tables : GatewayTables} {row : RefundStateRow}
    (restorable : tables.Restorable codec items)
    (reads : ∃ key item, row.At row.orgId key ∧ Reads codec items key item row.payloadJson) :
    (tables.upsertRefundState row).Restorable codec items where
  keyed := refund_keyed_upsert tables row restorable.keyed
  reads := by
    intro held listed
    rcases List.mem_append.mp listed with earlier | new
    · exact restorable.reads held (List.mem_filter.mp earlier).1
    · rw [List.mem_singleton.mp new]
      exact reads

theorem answer_keeps_rows {now : Instant} {salt : String} {op : StoreOp}
    (reads : op.writesRefund = false) :
    (answerStore now salt tables op).2.refundState = tables.refundState := by
  cases op with
  | insert inserted =>
      simp only [answerStore]
      split_ifs
      · rfl
      · cases inserted <;> rfl
  | upsertRefundState row => cases reads
  | _ => rfl

end Rows

section Steps

variable {Payload : Type} {codec : GatewayStore.StoreCodec Payload} {items : RefundCodec Payload}
  {orgId : String} {process after : GatewayProcess} {ledger : RefundLedger} {failing : Bool}

/-- The rows agree with the runtimes, but for what is owed for one organization. -/
structure Tallied (codec : GatewayStore.StoreCodec Payload) (items : RefundCodec Payload)
    (orgId : String) (process : GatewayProcess) (ledger : RefundLedger) : Prop where
  rows : process.tables.Restorable codec items
  own : Tallies (Kept codec items) (process.states orgId).look (process.tables.stored orgId) ledger
  others : ∀ other, other ≠ orgId → ∀ key,
    Kept codec items key ((process.states other).look key) (process.tables.stored other key)

theorem GatewayProcess.Agrees.tallied (agrees : process.Agrees codec items) (orgId : String) :
    Tallied codec items orgId process Ledger.clear where
  rows := agrees.rows
  own := tallies_clear_iff.mpr (agrees.kept orgId)
  others := fun other _ => agrees.kept other

theorem Tallied.agrees (tallied : Tallied codec items orgId process ledger)
    (settled : ledger.Settled) : process.Agrees codec items := by
  refine ⟨tallied.rows, ?_⟩
  intro other key
  by_cases same : other = orgId
  · subst same
    exact tallied.own.agree settled key
  · exact tallied.others other same key

/-- What a change of the own runtime leaves. -/
theorem Tallied.runtime (tallied : Tallied codec items orgId process ledger) {maps : RefundMaps}
    {debts : RefundLedger} (tables : after.tables = process.tables)
    (states : after.states = Function.update process.states orgId maps)
    (own : Tallies (Kept codec items) maps.look (process.tables.stored orgId) debts) :
    Tallied codec items orgId after debts where
  rows := by
    rw [tables]
    exact tallied.rows
  own := by
    rw [tables, states, Function.update_self]
    exact own
  others := by
    intro other different key
    rw [tables, states, Function.update_of_ne different]
    exact tallied.others other different key

theorem look_set (maps : RefundMaps) (map : RefundMap) (key : String) (item : map.Item)
    (other : RefundKey) (different : other ≠ .item map key) :
    (maps.set map key item).look other = maps.look other := by
  cases other with
  | activePolicy => rfl
  | item another name =>
      simp only [RefundMaps.look, RefundMaps.get, RefundMaps.set]
      by_cases same : another = map
      · subst same
        rw [Function.update_self]
        apply OrderedDict.get_set_other
        rintro rfl
        exact different rfl
      · rw [Function.update_of_ne same]

theorem look_set_same (maps : RefundMaps) (map : RefundMap) (key : String) (item : map.Item) :
    (maps.set map key item).look (.item map key) = some item := by
  simp [RefundMaps.look, RefundMaps.get, RefundMaps.set]

theorem set_default_step {maps : RefundMaps} {map : RefundMap} {key : String} {item : map.Item}
    {store : RefundKey → Option String}
    (tallies : Tallies (Kept codec items) maps.look store ledger) :
    Tallies (Kept codec items) (maps.setDefault map key item).look store
      (if map.blank item then ledger else ledger.touch (.item map key)) := by
  unfold RefundMaps.setDefault
  cases present : maps.get map key with
  | some found =>
      simp only [Option.isSome_some, if_true]
      split_ifs
      · exact tallies
      · exact tallies.touch (fun _ _ => rfl) (Option.isSome_of_mem present)
  | none =>
      simp only [Option.isSome_none, Bool.false_eq_true, if_false]
      split_ifs with blank
      · -- nothing can be owed of a key that is not there
        have settled : ledger (.item map key) = .settled := by
          by_contra owed
          have there : (maps.get map key).isSome := tallies.present owed
          simp [present] at there
        rw [← Function.update_eq_self (RefundKey.item map key) ledger, settled]
        refine tallies.change (look_set maps map key item) ?_
        have before := tallies (.item map key)
        simp only [settled] at before
        rw [show maps.look (.item map key) = none from present] at before
        rw [look_set_same]
        cases stored : store (.item map key) with
        | none => exact blank
        | some text =>
            rw [stored] at before
            exact before.elim
      · exact tallies.touch (look_set maps map key item)
          (Option.isSome_of_mem (look_set_same maps map key item))

/-- A step of the own runtime keeps the tally. -/
theorem runtime_step (orgId : String) {maps : RefundMaps} {op : RuntimeOp}
    {reply : Except PyError (RuntimeReply op)} {store : RefundKey → Option String}
    (tallies : Tallies (Kept codec items) maps.look store ledger)
    (admitted : op ≠ .setActivePolicyBundleId none) {changed : RefundMaps}
    (answered : runtimeAnswers failing maps op reply changed) :
    owingExpects failing ledger (.runtime orgId op) reply ∧
      Tallies (Kept codec items) changed.look store (runtimeOwes ledger op reply) := by
  cases op with
  | get map key =>
      obtain ⟨rfl, rfl⟩ := answered
      refine ⟨⟨_, rfl, fun owed => tallies.present owed⟩, ?_⟩
      cases found : changed.get map key with
      | none => exact tallies
      | some item => exact tallies.read found
  | values map =>
      obtain ⟨rfl, rfl⟩ := answered
      exact ⟨⟨_, rfl⟩, tallies⟩
  | set map key item =>
      obtain ⟨rfl, rfl⟩ := answered
      refine ⟨⟨_, rfl⟩, tallies.write (look_set maps map key item) ?_⟩
      exact look_set_same maps map key item
  | setDefault map key item =>
      obtain ⟨rfl, rfl⟩ := answered
      exact ⟨⟨_, rfl⟩, set_default_step tallies⟩
  | appendGrantId manifestId grantId =>
      obtain ⟨rfl, rfl⟩ := answered
      refine ⟨⟨_, rfl⟩, tallies.touch (look_set maps _ _ _) ?_⟩
      exact Option.isSome_of_mem (look_set_same maps _ _ _)
  | appendStatement manifestId statement =>
      obtain ⟨rfl, rfl⟩ := answered
      refine ⟨⟨_, rfl⟩, tallies.touch (look_set maps _ _ _) ?_⟩
      exact Option.isSome_of_mem (look_set_same maps _ _ _)
  | activePolicyBundleId =>
      obtain ⟨rfl, rfl⟩ := answered
      exact ⟨⟨_, rfl⟩, tallies⟩
  | setActivePolicyBundleId bundleId =>
      obtain ⟨rfl, rfl⟩ := answered
      refine ⟨⟨_, rfl⟩, ?_⟩
      cases bundleId with
      | none => exact absurd rfl admitted
      | some bundleId =>
          refine tallies.write ?_ rfl
          intro other different
          cases other with
          | item map key => rfl
          | activePolicy => exact absurd rfl different
  | engine call =>
      obtain ⟨rfl, succeeds⟩ := answered
      exact ⟨succeeds, tallies⟩

/-- A step that leaves the rows of the journey and the runtimes alone. -/
theorem Tallied.unchanged (tallied : Tallied codec items orgId process ledger)
    (rows : after.tables.refundState = process.tables.refundState)
    (states : after.states = process.states) : Tallied codec items orgId after ledger where
  rows := by
    constructor
    · rw [GatewayTables.RefundKeyed, rows]
      exact tallied.rows.keyed
    · rw [rows]
      exact tallied.rows.reads
  own := by
    have stored : after.tables.stored orgId = process.tables.stored orgId := by
      funext key
      rw [GatewayTables.stored, rows]
      rfl
    rw [states, stored]
    exact tallied.own
  others := by
    intro other different key
    rw [states, GatewayTables.stored, rows]
    exact tallied.others other different key

theorem owes_written {row : RefundStateRow} {key : RefundKey} (bucket : row.bucket = key.bucket)
    (itemKey : row.itemKey = key.itemKey) :
    owes ledger (.store (.upsertRefundState row)) (.ok ()) = ledger.settle key := by
  funext other
  by_cases same : other = key
  · subst same
    rw [Ledger.settle, Function.update_self]
    exact if_pos ⟨bucket, itemKey⟩
  · rw [Ledger.settle, Function.update_of_ne same]
    apply if_neg
    rintro ⟨otherBucket, otherKey⟩
    exact same (RefundKey.place_injective (otherBucket.symm.trans bucket)
      (otherKey.symm.trans itemKey))

/-- Writing what is owed settles it. -/
theorem written_step {row : RefundStateRow} (roundTrips : RoundTrips codec items)
    (tallied : Tallied codec items orgId process ledger)
    (admitted : owingAdmits codec items orgId ledger (.store (.upsertRefundState row)))
    (tables : after.tables = process.tables.upsertRefundState row)
    (states : after.states = process.states) :
    Tallied codec items orgId after (owes ledger (.store (.upsertRefundState row)) (.ok ())) := by
  obtain ⟨key, item, owed, rfl, bucket, itemKey, spelling⟩ := admitted
  rw [owes_written bucket itemKey]
  constructor
  case rows =>
    rw [tables]
    exact tallied.rows.upsert ⟨key, item, ⟨rfl, bucket, itemKey⟩, roundTrips key item _ spelling⟩
  case own =>
    rw [states, tables]
    refine tallied.own.settle owed ?_
      (stored_upsert_same _ row row.orgId key ⟨rfl, bucket, itemKey⟩)
      (roundTrips key item row.payloadJson spelling)
    intro other different
    apply stored_upsert_other
    rintro ⟨_, otherBucket, otherKey⟩
    exact different (RefundKey.place_injective (otherBucket.symm.trans bucket)
      (otherKey.symm.trans itemKey))
  case others =>
    intro other different otherKey
    rw [states, tables, stored_upsert_other _ _ _ _ (fun at_ => different at_.1.symm)]
    exact tallied.others other different otherKey

theorem owes_reading {op : StoreOp} (reads : op.writesRefund = false)
    (reply : Except PyError (StoreReply op)) : owes ledger (.store op) reply = ledger := by
  cases op <;> first | rfl | cases reads

/-- A statement of the store keeps the tally. -/
theorem store_step {op : StoreOp} {reply : Except PyError (StoreReply op)}
    (roundTrips : RoundTrips codec items)
    (tallied : Tallied codec items orgId process ledger)
    (admitted : owingAdmits codec items orgId ledger (.store op))
    (answered : storeAnswers failing process.tables op reply after.tables)
    (states : after.states = process.states) :
    owingExpects failing ledger (.store op) reply ∧
      Tallied codec items orgId after (owes ledger (.store op) reply) := by
  rcases answered with ⟨now, salt, executed⟩ | ⟨⟨error, rfl⟩, tables, timeless, mayFail⟩
  · cases reads : op.writesRefund with
    | true =>
        cases op with
        | upsertRefundState row =>
            obtain ⟨rfl, tables⟩ := Prod.mk.inj executed
            exact ⟨fun _ => ⟨(), rfl⟩, written_step roundTrips tallied admitted tables states⟩
        | _ => cases reads
    | false =>
        refine ⟨?_, ?_⟩
        · rintro (rfl | ⟨writes, _⟩)
          · exact ⟨now, (Prod.mk.inj executed).1⟩
          · exact absurd (writes.symm.trans reads) (by decide)
        · rw [owes_reading reads]
          apply tallied.unchanged _ states
          rw [(Prod.mk.inj executed).2]
          exact answer_keeps_rows _ reads
  · refine ⟨?_, ?_⟩
    · rintro (now | ⟨writes, succeeds⟩)
      · exact absurd now timeless
      · exact absurd ((mayFail writes).symm.trans succeeds) (by decide)
    have kept : owes ledger (.store op) (.error error) = ledger := by
      cases op <;> rfl
    rw [kept]
    exact tallied.unchanged (congrArg GatewayTables.refundState tables) states

/-- Whatever a step answers, the tally is kept. -/
theorem Tallied.step {op : GatewayOp} {reply : Except PyError (GatewayReply op)}
    (roundTrips : RoundTrips codec items)
    (tallied : Tallied codec items orgId process ledger)
    (admitted : owingAdmits codec items orgId ledger op)
    (answered : gatewayEnvironment failing process op reply after) :
    owingExpects failing ledger op reply ∧
      Tallied codec items orgId after (owes ledger op reply) := by
  cases op with
  | session token =>
      obtain rfl : after = process := answered
      exact ⟨trivial, tallied⟩
  | getState tenantId =>
      obtain rfl : after = process := answered
      exact ⟨trivial, tallied⟩
  | wallClock =>
      obtain rfl : after = process := answered
      exact ⟨trivial, tallied⟩
  | store op => exact store_step roundTrips tallied admitted answered.1 answered.2
  | runtime other op =>
      obtain ⟨tables, maps, told, states⟩ := answered
      obtain ⟨rfl, admitted⟩ := admitted
      have step := runtime_step other tallied.own admitted told
      exact ⟨step.1, tallied.runtime tables states step.2⟩

end Steps

end KarmaSakshi.Gateway
