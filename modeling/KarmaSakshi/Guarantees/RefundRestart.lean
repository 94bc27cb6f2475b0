import KarmaSakshi.Engine.ApprovalScenario
import KarmaSakshi.Gateway.RefundPayloads
import KarmaSakshi.Gateway.RefundWrites
import KarmaSakshi.Library.Replay

/-!
A restart of the gateway shows what was there.

Rows that can be restored make up the runtimes of the new process, and between requests they
hold what the runtimes of the old one hold.
-/

namespace KarmaSakshi.Gateway

open EffectProgram KarmaSakshi.Domain KarmaSakshi.Library

set_option autoImplicit false

/-! ### A restart -/

/-- Dictionary steps of a runtime; its engine is not asked when it is restored. -/
def serveRuntime (maps : RefundMaps) :
    (op : RuntimeOp) → Except PyError (RuntimeReply op) × RefundMaps
  | .get map key => (.ok (maps.get map key), maps)
  | .values map => (.ok (maps.dict map).values, maps)
  | .set map key item => (.ok (), maps.set map key item)
  | .setDefault map key item => (.ok (), maps.setDefault map key item)
  | .appendGrantId manifestId grantId => (.ok (), maps.appendGrantId manifestId grantId)
  | .appendStatement manifestId statement => (.ok (), maps.appendStatement manifestId statement)
  | .activePolicyBundleId => (.ok maps.activePolicyBundleId, maps)
  | .setActivePolicyBundleId bundleId => (.ok (), { maps with activePolicyBundleId := bundleId })
  | .engine _ => (.error ⟨.other "RuntimeError", "not asked"⟩, maps)

/-- A process in which nothing fails. -/
def gatewayServer (now : Instant) (salt : String) :
    Server GatewayOp GatewayReply PyError GatewayProcess
  | process, .session _ => (.ok none, process)
  | process, .getState _ => (.ok (), process)
  | process, .wallClock => (.ok now, process)
  | process, .store op => ((answerStore now salt process.tables op).1,
      { process with tables := (answerStore now salt process.tables op).2 })
  | process, .runtime orgId op => ((serveRuntime (process.states orgId) op).1,
      { process with states :=
          Function.update process.states orgId (serveRuntime (process.states orgId) op).2 })

section Restoring

variable {Payload : Type} (codec : GatewayStore.StoreCodec Payload) (items : RefundCodec Payload)
  (now : Instant) (salt : String)

/-- The runtime of an organization in a new process. -/
def restored (tables : GatewayTables) (orgId : String) : Except PyError RefundMaps :=
  let run := (rehydrateRefundState codec items orgId).run (gatewayServer now salt)
    ⟨tables, fun _ => .empty⟩
  run.1.map (fun _ => run.2.states orgId)

/-- The process ends, and a new one restores its runtimes. -/
structure Restarts (process after : GatewayProcess) : Prop where
  tables : after.tables = process.tables
  states : ∀ orgId, restored codec items now salt process.tables orgId = .ok (after.states orgId)

/-- What is found under a key is the item of its row. -/
def Restores (key : RefundKey) (found : Option key.Item) (stored : Option String) : Prop :=
  match stored with
  | some text => ∃ item, found = some item ∧ Reads codec items key item text
  | none => found = none

/-- An item is made from a payload. -/
def Parses : (key : RefundKey) → key.Item → Payload → Prop
  | .item map _, item, payload => items.load map payload = .ok item
  | .activePolicy, bundleId, payload => items.loadId payload = .ok (some bundleId)

end Restoring

section Loading

variable {Payload : Type} {codec : GatewayStore.StoreCodec Payload} {items : RefundCodec Payload}
  (now : Instant) (salt orgId : String)

theorem reads_iff {key : RefundKey} {item : key.Item} {text : String} :
    Reads codec items key item text ↔
      ∃ payload, codec.loads text = .ok payload ∧ Parses items key item payload := by
  cases key <;>
  · simp only [Reads, Parses]
    cases codec.loads text <;> simp [Except.bind]

/-- What a row is loaded as. -/
def LoadsAs (codec : GatewayStore.StoreCodec Payload) (row : RefundStateRow)
    (loaded : String × String × Payload) : Prop :=
  loaded.1 = row.bucket ∧ loaded.2.1 = row.itemKey ∧ codec.loads row.payloadJson = .ok loaded.2.2

theorem rows_loaded {rows : List RefundStateRow}
    (reads : ∀ row ∈ rows, ∃ payload, codec.loads row.payloadJson = .ok payload) :
    ∃ loaded, rows.mapM (fun row => do
        let payload ← codec.loads row.payloadJson
        pure (row.bucket, row.itemKey, payload) : RefundStateRow → Except PyError _) = .ok loaded ∧
      List.Forall₂ (LoadsAs codec) rows loaded := by
  induction rows with
  | nil => exact ⟨[], rfl, .nil⟩
  | cons row rest ih =>
      obtain ⟨payload, loads⟩ := reads row List.mem_cons_self
      obtain ⟨loaded, others, each⟩ :=
        ih (fun row listed => reads row (List.mem_cons_of_mem _ listed))
      refine ⟨(row.bucket, row.itemKey, payload) :: loaded, ?_, .cons ⟨rfl, rfl, loads⟩ each⟩
      rw [List.mapM_cons, loads, others]
      rfl

theorem load_run (process : GatewayProcess) :
    (inStore (GatewayStore.loadRefundState codec orgId)).run (gatewayServer now salt) process =
      ((process.tables.refundState.filter (fun row => row.orgId = orgId)).mapM (fun row => do
        let payload ← codec.loads row.payloadJson
        pure (row.bucket, row.itemKey, payload)), process) := by
  change (inStore (Program.settle _)).run (gatewayServer now salt) process = _
  cases (process.tables.refundState.filter (fun row => row.orgId = orgId)).mapM (fun row => do
        let payload ← codec.loads row.payloadJson
        pure (row.bucket, row.itemKey, payload) : RefundStateRow → Except PyError _) <;> rfl

/-- The loaded row of a key. -/
def foundAt (loaded : List (String × String × Payload)) (key : RefundKey) :
    Option (String × String × Payload) :=
  loaded.find? (fun row => row.1 = key.bucket ∧ row.2.1 = key.itemKey)

/-- Every loaded row makes an item of its key. -/
def Sound (items : RefundCodec Payload) (loaded : List (String × String × Payload)) : Prop :=
  ∀ row ∈ loaded, ∃ key item, row.1 = key.bucket ∧ row.2.1 = key.itemKey ∧
    Parses items key item row.2.2

/-- What is found under a key is the item of its row, or else what was there. -/
def ShowsRow (items : RefundCodec Payload) (loaded : List (String × String × Payload))
    (key : RefundKey) (before found : Option key.Item) : Prop :=
  match foundAt loaded key with
  | some row => ∃ item, found = some item ∧ Parses items key item row.2.2
  | none => found = before

theorem foundAt_cons (row : String × String × Payload) (rest : List (String × String × Payload))
    (key : RefundKey) : foundAt (row :: rest) key =
      if row.1 = key.bucket ∧ row.2.1 = key.itemKey then some row else foundAt rest key := by
  simp only [foundAt, List.find?_cons]
  split_ifs with here <;> simp [here]

theorem foundAt_none {loaded : List (String × String × Payload)} {key : RefundKey}
    (absent : (key.bucket, key.itemKey) ∉ loaded.map (fun row => (row.1, row.2.1))) :
    foundAt loaded key = none := by
  apply List.find?_eq_none.mpr
  intro row listed same
  simp only [decide_eq_true_eq] at same
  apply absent
  rw [← same.1, ← same.2]
  exact List.mem_map_of_mem listed

theorem set_run (tables : GatewayTables) (states : String → RefundMaps) (map : RefundMap)
    (key : String) (item : map.Item) :
    (onRuntime orgId (.set map key item)).run (gatewayServer now salt) ⟨tables, states⟩ =
      (.ok (), ⟨tables, Function.update states orgId ((states orgId).set map key item)⟩) := rfl

/-- One dictionary is filled from its rows. -/
theorem restore_run (tables : GatewayTables) (map : RefundMap)
    {loaded : List (String × String × Payload)} (sound : Sound items loaded)
    (distinct : (loaded.map (fun row => (row.1, row.2.1))).Nodup) (states : String → RefundMaps) :
    ∃ maps, (restore items orgId map loaded).run (gatewayServer now salt) ⟨tables, states⟩ =
        (.ok (), ⟨tables, Function.update states orgId maps⟩) ∧
      (∀ key, key.bucket ≠ map.bucket → maps.look key = (states orgId).look key) ∧
      ∀ key, ShowsRow items loaded (.item map key) ((states orgId).look (.item map key))
        (maps.look (.item map key)) := by
  induction loaded generalizing states with
  | nil =>
      refine ⟨states orgId, ?_, fun _ _ => rfl, fun _ => rfl⟩
      rw [Function.update_eq_self]
      rfl
  | cons row rest ih =>
      obtain ⟨bucket, name, payload⟩ := row
      have soundRest : Sound items rest :=
        fun row listed => sound row (List.mem_cons_of_mem _ listed)
      rw [List.map_cons, List.nodup_cons] at distinct
      unfold restore
      by_cases own : bucket = map.bucket
      · subst own
        rw [if_pos rfl]
        obtain ⟨place, item, sameBucket, sameKey, parses⟩ := sound _ List.mem_cons_self
        cases place with
        | activePolicy => exact absurd sameBucket map.bucket_apart
        | item other otherName =>
            obtain rfl := RefundMap.bucket_injective sameBucket
            obtain rfl : name = otherName := sameKey
            obtain ⟨maps, runs, elsewhere, shows⟩ :=
              ih soundRest distinct.2 (Function.update states orgId
                ((states orgId).set map name item))
            rw [Function.update_idem, Function.update_self] at *
            refine ⟨maps, ?_, ?_, ?_⟩
            · rw [run_bind_ok (run_settle_ok parses _), run_bind_ok (set_run now salt orgId tables states _ _ _)]
              exact runs
            · intro key apart
              rw [elsewhere key apart, look_set]
              rintro rfl
              exact apart rfl
            · intro key
              have later := shows key
              unfold ShowsRow at later ⊢
              rw [foundAt_cons]
              by_cases same : key = name
              · subst same
                rw [foundAt_none distinct.1] at later
                rw [if_pos ⟨rfl, rfl⟩]
                refine ⟨item, later.trans (look_set_same _ _ _ _), parses⟩
              · rw [if_neg (fun both => same both.2.symm)]
                rw [look_set _ _ _ _ _ (by simp [same])] at later
                exact later
      · rw [if_neg own]
        obtain ⟨maps, runs, elsewhere, shows⟩ := ih soundRest distinct.2 states
        refine ⟨maps, runs, elsewhere, ?_⟩
        intro key
        have later := shows key
        unfold ShowsRow at later ⊢
        rw [foundAt_cons, if_neg (fun both => own both.1)]
        exact later

theorem restore_all_run (tables : GatewayTables) {loaded : List (String × String × Payload)}
    (sound : Sound items loaded) (distinct : (loaded.map (fun row => (row.1, row.2.1))).Nodup)
    {dicts : List RefundMap} (once : dicts.Nodup) (states : String → RefundMaps) :
    ∃ maps, (restoreAll items orgId loaded dicts).run (gatewayServer now salt) ⟨tables, states⟩ =
        (.ok (), ⟨tables, Function.update states orgId maps⟩) ∧
      (∀ key, (∀ map ∈ dicts, key.bucket ≠ map.bucket) →
        maps.look key = (states orgId).look key) ∧
      ∀ map ∈ dicts, ∀ key, ShowsRow items loaded (.item map key)
        ((states orgId).look (.item map key)) (maps.look (.item map key)) := by
  induction dicts generalizing states with
  | nil =>
      refine ⟨states orgId, ?_, fun _ _ => rfl, by simp⟩
      rw [Function.update_eq_self]
      rfl
  | cons first others ih =>
      rw [List.nodup_cons] at once
      obtain ⟨filled, fills, kept, showsFirst⟩ :=
        restore_run now salt orgId tables first sound distinct states
      obtain ⟨maps, runs, elsewhere, shows⟩ := ih once.2 (Function.update states orgId filled)
      rw [Function.update_idem, Function.update_self] at *
      refine ⟨maps, (run_bind_ok fills).trans runs, ?_, ?_⟩
      · intro key apart
        rw [elsewhere key (fun map listed => apart map (List.mem_cons_of_mem _ listed))]
        exact kept key (apart first List.mem_cons_self)
      · intro map listed key
        rcases List.mem_cons.mp listed with rfl | later
        · rw [elsewhere]
          · exact showsFirst key
          · intro other member same
            obtain rfl := RefundMap.bucket_injective same
            exact once.1 member
        · have shown := shows map later key
          rwa [kept] at shown
          intro same
          obtain rfl := RefundMap.bucket_injective same
          exact once.1 later

theorem stored_loaded {rows : List RefundStateRow} {loaded : List (String × String × Payload)}
    (each : List.Forall₂ (LoadsAs codec) rows loaded) (key : RefundKey) :
    match rows.find? (fun row => row.bucket = key.bucket ∧ row.itemKey = key.itemKey) with
    | some row => ∃ found, foundAt loaded key = some found ∧ LoadsAs codec row found
    | none => foundAt loaded key = none := by
  induction each with
  | nil => rfl
  | @cons row first rows rest loads others ih =>
      rw [foundAt_cons, List.find?_cons, loads.1, loads.2.1]
      split_ifs with here
      · simp only [here, and_self, decide_true]
        exact ⟨first, rfl, loads⟩
      · simp only [here, decide_false]
        exact ih

theorem loaded_places {rows : List RefundStateRow} {loaded : List (String × String × Payload)}
    (each : List.Forall₂ (LoadsAs codec) rows loaded) :
    loaded.map (fun row => (row.1, row.2.1)) = rows.map (fun row => (row.bucket, row.itemKey)) := by
  induction each with
  | nil => rfl
  | cons loads others ih =>
      rw [List.map_cons, List.map_cons, ih, loads.1, loads.2.1]

theorem loaded_sound {rows : List RefundStateRow} {loaded : List (String × String × Payload)}
    (each : List.Forall₂ (LoadsAs codec) rows loaded)
    (reads : ∀ row ∈ rows, ∃ key item, row.At row.orgId key ∧
      Reads codec items key item row.payloadJson) : Sound items loaded := by
  induction each with
  | nil => exact fun row listed => absurd listed List.not_mem_nil
  | @cons row first rows rest loads others ih =>
      intro found listed
      rcases List.mem_cons.mp listed with rfl | later
      · obtain ⟨key, item, ⟨_, bucket, itemKey⟩, read⟩ := reads row List.mem_cons_self
        obtain ⟨payload, loaded, parses⟩ := reads_iff.mp read
        obtain rfl := Except.ok.inj (loaded.symm.trans loads.2.2)
        exact ⟨key, item, loads.1.trans bucket, loads.2.1.trans itemKey, parses⟩
      · exact ih (fun row listed => reads row (List.mem_cons_of_mem _ listed)) found later

theorem own_places_distinct {tables : GatewayTables} (keyed : tables.RefundKeyed) :
    ((tables.refundState.filter (fun row => row.orgId = orgId)).map
      (fun row => (row.bucket, row.itemKey))).Nodup := by
  have own : ((tables.refundState.filter (fun row => row.orgId = orgId)).map
      (fun row => (row.orgId, row.bucket, row.itemKey))).Nodup :=
    List.Nodup.sublist (List.filter_sublist.map _) keyed
  apply List.Nodup.of_map (fun place => (orgId, place))
  rw [List.map_map]
  convert own using 1
  apply List.map_congr_left
  intro row listed
  simp only [Function.comp_apply]
  rw [of_decide_eq_true (List.mem_filter.mp listed).2]

theorem stored_own (tables : GatewayTables) (orgId : String) (key : RefundKey) :
    tables.stored orgId key =
      ((tables.refundState.filter (fun row => row.orgId = orgId)).find? (fun row =>
        row.bucket = key.bucket ∧ row.itemKey = key.itemKey)).map RefundStateRow.payloadJson := by
  rw [GatewayTables.stored, List.find?_filter]
  congr 2
  funext row
  simp

/-- The active policy bundle is restored last. -/
theorem active_run (tables : GatewayTables) {loaded : List (String × String × Payload)}
    (sound : Sound items loaded) (states : String → RefundMaps) :
    ∃ maps, (match loaded.find? (fun row =>
          row.1 = activePolicyBucket ∧ row.2.1 = activePolicyKey) with
        | none => pure ()
        | some (_, _, payload) => do
            let bundleId ← .settle (items.loadId payload)
            onRuntime orgId (.setActivePolicyBundleId bundleId) : GatewayProgram Unit).run
        (gatewayServer now salt) ⟨tables, states⟩ =
          (.ok (), ⟨tables, Function.update states orgId maps⟩) ∧
      (∀ map key, maps.look (.item map key) = (states orgId).look (.item map key)) ∧
      ShowsRow items loaded .activePolicy ((states orgId).look .activePolicy)
        (maps.look .activePolicy) := by
  unfold ShowsRow
  change ∃ maps, (match foundAt loaded .activePolicy with
    | none => pure ()
    | some (_, _, payload) => _ : GatewayProgram Unit).run _ _ = _ ∧ _ ∧ _
  cases found : foundAt loaded .activePolicy with
  | none =>
      refine ⟨states orgId, ?_, fun _ _ => rfl, rfl⟩
      rw [Function.update_eq_self]
      rfl
  | some row =>
      obtain ⟨bucket, name, payload⟩ := row
      obtain ⟨key, item, sameBucket, sameKey, parses⟩ :=
        sound _ (List.mem_of_find?_eq_some found)
      have place := List.find?_some found
      simp only [decide_eq_true_eq] at place
      obtain rfl := RefundKey.place_injective (sameBucket.symm.trans place.1)
        (sameKey.symm.trans place.2)
      refine ⟨{ states orgId with activePolicyBundleId := some item }, ?_, fun _ _ => rfl,
        item, rfl, parses⟩
      exact run_bind_ok (run_settle_ok parses _)

/-- Rows that can be restored are restored. -/
theorem rehydrates {tables : GatewayTables} (restorable : tables.Restorable codec items) :
    ∃ maps, restored codec items now salt tables orgId = .ok maps ∧
      ∀ key, Restores codec items key (maps.look key) (tables.stored orgId key) := by
  have own : ∀ row ∈ tables.refundState.filter (fun row => row.orgId = orgId),
      ∃ key item, row.At row.orgId key ∧ Reads codec items key item row.payloadJson :=
    fun row listed => restorable.reads row (List.mem_filter.mp listed).1
  obtain ⟨loaded, loads, each⟩ := rows_loaded (fun row listed => by
    obtain ⟨key, item, _, reads⟩ := own row listed
    obtain ⟨payload, loads, _⟩ := reads_iff.mp reads
    exact ⟨payload, loads⟩)
  have sound := loaded_sound each own
  have distinct : (loaded.map (fun row => (row.1, row.2.1))).Nodup := by
    rw [loaded_places each]
    exact own_places_distinct orgId restorable.keyed
  obtain ⟨filled, fills, kept, shows⟩ := restore_all_run now salt orgId tables sound
    distinct (by decide : RefundMap.all.Nodup) (fun _ => .empty)
  obtain ⟨maps, ends, same, active⟩ := active_run now salt orgId tables sound (Function.update (fun _ => RefundMaps.empty) orgId filled)
  rw [Function.update_idem, Function.update_self] at *
  have run : (rehydrateRefundState codec items orgId).run (gatewayServer now salt)
      ⟨tables, fun _ => .empty⟩ =
        (.ok (), ⟨tables, Function.update (fun _ => .empty) orgId maps⟩) := by
    rw [rehydrateRefundState, run_bind_ok ((load_run now salt orgId _).trans (by rw [loads])), run_bind_ok fills]
    exact ends
  refine ⟨maps, ?_, ?_⟩
  · rw [restored, run]
    change Except.ok (Function.update (fun _ => RefundMaps.empty) orgId maps orgId) = _
    rw [Function.update_self]
  · intro key
    have shown : ShowsRow items loaded key none (maps.look key) := by
      cases key with
      | item map name =>
          rw [same]
          exact shows map (by cases map <;> decide) name
      | activePolicy =>
          rw [kept .activePolicy (fun map _ => map.bucket_apart.symm)] at active
          exact active
    have held := stored_loaded each key
    rw [stored_own]
    unfold ShowsRow at shown
    cases listed : (tables.refundState.filter (fun row => row.orgId = orgId)).find? (fun row =>
        row.bucket = key.bucket ∧ row.itemKey = key.itemKey) with
    | none =>
        rw [listed] at held
        rw [show foundAt loaded key = none from held] at shown
        exact shown
    | some row =>
        rw [listed] at held
        obtain ⟨found, isFound, _, _, payload⟩ := held
        rw [isFound] at shown
        obtain ⟨item, present, parses⟩ := shown
        exact ⟨item, present, reads_iff.mpr ⟨_, payload, parses⟩⟩

end Loading

/-! ### Runs -/

section Runs

variable {Payload : Type} (nfkc : String → String) (codec : GatewayStore.StoreCodec Payload)
  (items : RefundCodec Payload) (now : Instant) (salt : String)

/-- Requests one after another, of any users and organizations, and restarts. -/
inductive RefundRun : GatewayProcess → Prop where
  | start {process : GatewayProcess} (rows : process.tables.refundState = [])
      (states : process.states = fun _ => .empty) : RefundRun process
  /-- Organizations, users, agents and adapters come and go. -/
  | registered {process after : GatewayProcess} (earlier : RefundRun process)
      (rows : after.tables.refundState = process.tables.refundState)
      (states : after.states = process.states) : RefundRun after
  /-- Whatever failed in between, the request returned. -/
  | returned {process after : GatewayProcess} (earlier : RefundRun process)
      {request : RefundRequest} {orgId : String} {authorization : Option String}
      {reply : RefundReply}
      (yields : (request.serve nfkc codec items orgId authorization).Yields
        (gatewayEnvironment true) process (.ok reply) after) : RefundRun after
  /-- The request raised, but no write of it failed. -/
  | refused {process after : GatewayProcess} (earlier : RefundRun process)
      {request : RefundRequest} {orgId : String} {authorization : Option String}
      {error : PyError} (total : DumpsAll codec items)
      (yields : (request.serve nfkc codec items orgId authorization).Yields
        (gatewayEnvironment false) process (.error error) after) : RefundRun after
  /-- The process ends anywhere in a request, and is started again. -/
  | restarted {process stopped after : GatewayProcess} (earlier : RefundRun process)
      {request : RefundRequest} {orgId : String} {authorization : Option String}
      {rest : GatewayProgram RefundReply} {events : List (Event GatewayOp GatewayReply PyError)}
      (stops : Steps (gatewayEnvironment true) (request.serve nfkc codec items orgId authorization)
        process events rest stopped)
      (restarts : Restarts codec items now salt stopped after) : RefundRun after

variable {nfkc codec items now salt} {process after : GatewayProcess}

theorem blank_agrees (rows : process.tables.refundState = [])
    (states : process.states = fun _ => .empty) : process.Agrees codec items := by
  refine ⟨⟨?_, ?_⟩, ?_⟩
  · rw [GatewayTables.RefundKeyed, rows]
    exact List.nodup_nil
  · rw [rows]
    exact fun row listed => absurd listed List.not_mem_nil
  · intro orgId key
    rw [states, GatewayTables.stored, rows]
    cases key <;> trivial

theorem GatewayProcess.Agrees.registered (agrees : process.Agrees codec items)
    (rows : after.tables.refundState = process.tables.refundState)
    (states : after.states = process.states) : after.Agrees codec items := by
  refine ⟨⟨?_, ?_⟩, ?_⟩
  · rw [GatewayTables.RefundKeyed, rows]
    exact agrees.rows.keyed
  · rw [rows]
    exact agrees.rows.reads
  · intro orgId key
    rw [states, GatewayTables.stored, rows]
    exact agrees.kept orgId key

/-- A new process agrees with the rows it was restored from. -/
theorem Restarts.agrees (restorable : process.tables.Restorable codec items)
    (restarts : Restarts codec items now salt process after) : after.Agrees codec items := by
  refine ⟨restarts.tables ▸ restorable, ?_⟩
  intro orgId key
  obtain ⟨maps, isRestored, shows⟩ := rehydrates now salt orgId restorable
  obtain rfl := Except.ok.inj ((restarts.states orgId).symm.trans isRestored)
  have shown := shows key
  rw [restarts.tables]
  cases stored : process.tables.stored orgId key with
  | none =>
      rw [stored] at shown
      rw [shown]
      trivial
  | some text =>
      rw [stored] at shown
      obtain ⟨item, present, reads⟩ := shown
      rw [present]
      exact reads

/-- Between requests, rows and runtimes agree. -/
theorem RefundRun.agrees (roundTrips : RoundTrips codec items)
    (run : RefundRun nfkc codec items now salt process) : process.Agrees codec items := by
  induction run with
  | start rows states => exact blank_agrees rows states
  | registered earlier rows states ih => exact ih.registered rows states
  | returned earlier yields ih =>
      exact served_agrees roundTrips Bool.noConfusion ih (fun _ => ⟨_, rfl⟩) yields
  | refused earlier total yields ih =>
      exact served_agrees roundTrips (fun _ => total) ih Bool.noConfusion yields
  | restarted earlier stops restarts ih =>
      exact restarts.agrees (stopped_restorable roundTrips ih stops)

end Runs

section Losses

variable {Payload : Type} {codec : GatewayStore.StoreCodec Payload} {items : RefundCodec Payload}

end Losses

end KarmaSakshi.Gateway

namespace KarmaSakshi.Guarantees

open EffectProgram KarmaSakshi.Domain KarmaSakshi.Gateway

namespace ActivatedPolicy

deriving instance DecidableEq for PolicyBundle

instance : DecidableEq PolicyBundleSeal := fun one other =>
  decidable_of_iff (one.keyId = other.keyId ∧ one.bundleHash = other.bundleHash ∧
    one.signature = other.signature ∧ one.sealedAt = other.sealedAt) (by
      cases one
      cases other
      simp)

deriving instance DecidableEq for SealedPolicyBundle

def owner : GatewayUser where
  userId := "asha"
  orgId := "acme"
  email := "asha@acme.example"
  displayName := "Asha"
  role := .owner
  createdAt := 1767225600000000
  userIdShape := by decide
  orgIdShape := by decide
  displayNameShape := by decide
  emailPlausible := by decide

def acme : Organization where
  orgId := "acme"
  name := "Acme"
  status := .active
  createdAt := 1767225600000000
  orgIdShape := by decide
  nameShape := by decide

def bundle : SealedPolicyBundle := Engine.Approvals.approvalBundle (some "acme")

def bundleDocument : Json.Document String := .text "two-officers of acme"

/-- Only the bundle is ever dumped. -/
def refusing {Item : Type} : Model Item :=
  ⟨fun _ => .error typeError, fun _ => .error typeError⟩

def models : RefundModels where
  sealedManifest := refusing
  assessment := refusing
  grant := refusing
  policyBundle :=
    ⟨fun item => if item = bundle then .ok bundleDocument else .error typeError,
      fun _ => .ok bundle⟩
  approvalStatement := refusing
  isoformat := Int.repr
  fromisoformat := fun text => match text.toInt? with
    | some instant => .ok instant
    | none => .error typeError

/-- Two texts are written and read. -/
def codec : GatewayStore.StoreCodec (Json.Document String) where
  hashPassword := fun password salt => password ++ salt
  dumps := fun payload => match payload with
    | .text text => if text = "two-officers of acme" ∨ text = "two-officers" then .ok text
        else .error typeError
    | _ => .error typeError
  loads := fun text => .ok (.text text)

def tables : GatewayTables where
  organizations := [acme]
  users := [⟨owner, "secret", "salt"⟩]
  agents := []
  adapters := []
  refundState := []

def now : Instant := 1767225600000000

def session : GatewaySession where
  token := "token"
  userId := "asha"
  orgId := "acme"
  issuedAt := now
  expiresAt := now + 3600000000

/-- The session is found, and a policy is sealed as the bundle. -/
def serve : Server GatewayOp GatewayReply PyError GatewayProcess
  | process, .session _ => (.ok (some session), process)
  | process, .runtime orgId (.engine (.sealPolicy _ _ _ _)) => (.ok bundle,
      { process with states := Function.update process.states orgId (process.states orgId) })
  | process, op => gatewayServer now "salt" process op

def body : PolicyActivateIn := { bundleId := "two-officers" }

/-- The process after the request. -/
def activated : Except PyError RefundReply × GatewayProcess :=
  ((RefundRequest.activatePolicy body).serve id codec models.payloads "acme"
    (some "Bearer token")).run serve ⟨tables, fun _ => .empty⟩

end ActivatedPolicy

end KarmaSakshi.Guarantees
