import KarmaSakshi.Gateway.RefundRuns

/-!
Every request of the refund journey is written through.

A request that returns owes the store nothing, and one that raises owes nothing unless one of
its writes failed.  So between requests the rows hold what the runtimes hold, but for lists of
approvals in which nothing is listed yet.
-/

namespace KarmaSakshi.Gateway

open EffectProgram KarmaSakshi.Domain KarmaSakshi.Library
open KarmaSakshi.Adapters (PaymentRequest)
open KarmaSakshi.Engine (CommitResult)
open KarmaSakshi.Intelligence (EffectAssessment)
open KarmaSakshi.Stores (LifecycleState)

set_option autoImplicit false

variable {Payload Value Result : Type} {codec : GatewayStore.StoreCodec Payload}
  {items : RefundCodec Payload} {failing : Bool} {orgId : String}

/-! ### Steps of a request -/

/-- A step that changes nothing that would have to be written. -/
def quiet (orgId : String) : GatewayOp → Prop
  | .runtime other op => other = orgId ∧ match op with
    | .get _ _ | .values _ | .activePolicyBundleId | .engine _ => True
    | .setDefault map _ item => map.blank item = true
    | _ => False
  | .store op => op.writesRefund = false
  | _ => True

/-- Nothing is owed at the end, unless a write failed. -/
def PaidUp (failing : Bool) (outcome : Except PyError Value) (ledger : RefundLedger) : Prop :=
  (failing = true → ∃ value, outcome = .ok value) → ledger.Settled

/-- The program pays what it owes. -/
def Pays (codec : GatewayStore.StoreCodec Payload) (items : RefundCodec Payload) (failing : Bool)
    (orgId : String) (program : GatewayProgram Value) (ledger : RefundLedger) : Prop :=
  Conforms (owing codec items failing orgId) (PaidUp failing) program ledger

theorem quiet_conforms {program : GatewayProgram Value} (uses : program.Uses (quiet orgId)) :
    Conforms (owing codec items failing orgId) (fun _ ledger => ledger = Ledger.clear) program
      Ledger.clear := by
  apply uses.conforms
  · intro ledger op held calm
    cases op with
    | store op =>
        cases op with
        | upsertRefundState row => cases calm
        | _ => trivial
    | runtime other op =>
        refine ⟨calm.1, ?_⟩
        rintro rfl
        exact calm.2
    | _ => trivial
  · intro ledger op reply held calm
    subst held
    cases op with
    | store op => exact owes_reading calm reply
    | runtime other op =>
        cases op with
        | get map key =>
            cases reply with
            | error error => rfl
            | ok found => cases found <;> rfl
        | setDefault map key item => exact if_pos calm.2
        | set map key item => exact calm.2.elim
        | appendGrantId manifestId grantId => exact calm.2.elim
        | appendStatement manifestId statement => exact calm.2.elim
        | setActivePolicyBundleId bundleId => exact calm.2.elim
        | _ => rfl
    | _ => rfl
  · rfl

theorem paid_up_clear {outcome : Except PyError Value} : PaidUp failing outcome Ledger.clear :=
  fun _ => Ledger.clear_settled

theorem pays_of_quiet {program : GatewayProgram Value} (uses : program.Uses (quiet orgId)) :
    Pays codec items failing orgId program Ledger.clear := by
  apply (quiet_conforms uses).mono
  rintro outcome _ rfl
  exact paid_up_clear

/-- What comes before the first change. -/
theorem Pays.after {body : GatewayProgram Result} {next : Result → GatewayProgram Value}
    (uses : body.Uses (quiet orgId))
    (rest : ∀ result, Pays codec items failing orgId (next result) Ledger.clear) :
    Pays codec items failing orgId (body >>= next) Ledger.clear := by
  rw [Pays, conforms_bind]
  apply (quiet_conforms uses).mono
  rintro outcome _ rfl
  cases outcome with
  | ok result => exact rest result
  | error error => exact paid_up_clear

section Changes

variable {ledger : RefundLedger} {next : Unit → GatewayProgram Value}

theorem pays_runtime {op : RuntimeOp} {next : RuntimeReply op → GatewayProgram Value}
    (admitted : op ≠ .setActivePolicyBundleId none)
    (fails : ∀ error, owingExpects failing ledger (.runtime orgId op) (.error error) →
      PaidUp failing (.error error : Except PyError Value) (runtimeOwes ledger op (.error error)))
    (rest : ∀ answer, owingExpects failing ledger (.runtime orgId op) (.ok answer) →
      Pays codec items failing orgId (next answer) (runtimeOwes ledger op (.ok answer))) :
    Pays codec items failing orgId (onRuntime orgId op >>= next) ledger := by
  refine ⟨⟨rfl, admitted⟩, ?_⟩
  intro reply expected
  cases reply with
  | ok answer => exact rest answer expected
  | error error => exact fails error expected

/-- A change of the runtime, which does not fail. -/
theorem pays_change {op : RuntimeOp} {next : RuntimeReply op → GatewayProgram Value}
    (admitted : op ≠ .setActivePolicyBundleId none)
    (succeeds : ∀ reply, owingExpects failing ledger (.runtime orgId op) reply →
      ∃ answer, reply = .ok answer)
    (rest : ∀ answer,
      Pays codec items failing orgId (next answer) (runtimeOwes ledger op (.ok answer))) :
    Pays codec items failing orgId (onRuntime orgId op >>= next) ledger := by
  apply pays_runtime admitted
  · intro error expected
    obtain ⟨answer, impossible⟩ := succeeds _ expected
    cases impossible
  · exact fun answer _ => rest answer

variable {next : Unit → GatewayProgram Value}

theorem pays_set {map : RefundMap} {key : String} {item : map.Item}
    (rest : Pays codec items failing orgId (next ()) (ledger.write (.item map key) item)) :
    Pays codec items failing orgId (onRuntime orgId (.set map key item) >>= next) ledger :=
  pays_change RuntimeOp.noConfusion (fun _ expected => expected) (fun _ => rest)

theorem pays_append_grant_id {manifestId grantId : String}
    (rest : Pays codec items failing orgId (next ())
      (ledger.touch (.item .grantsByManifest manifestId))) :
    Pays codec items failing orgId (onRuntime orgId (.appendGrantId manifestId grantId) >>= next)
      ledger :=
  pays_change RuntimeOp.noConfusion (fun _ expected => expected) (fun _ => rest)

theorem pays_append_statement {manifestId : String} {statement : ApprovalStatement}
    (rest : Pays codec items failing orgId (next ())
      (ledger.touch (.item .approvalStatements manifestId))) :
    Pays codec items failing orgId
      (onRuntime orgId (.appendStatement manifestId statement) >>= next) ledger :=
  pays_change RuntimeOp.noConfusion (fun _ expected => expected) (fun _ => rest)

theorem pays_list_grants {manifestId : String}
    (rest : Pays codec items failing orgId (next ())
      (ledger.touch (.item .grantsByManifest manifestId))) :
    Pays codec items failing orgId
      (onRuntime orgId (.setDefault .grantsByManifest manifestId []) >>= next) ledger :=
  pays_change RuntimeOp.noConfusion (fun _ expected => expected) (fun _ => rest)

theorem pays_set_active {bundleId : String}
    (rest : Pays codec items failing orgId (next ()) (ledger.write .activePolicy bundleId)) :
    Pays codec items failing orgId
      (onRuntime orgId (.setActivePolicyBundleId (some bundleId)) >>= next) ledger :=
  pays_change (by simp) (fun _ expected => expected) (fun _ => rest)

/-- A key that is owed is read. -/
theorem pays_get {map : RefundMap} {key : String}
    {next : Option map.Item → GatewayProgram Value} (owed : ledger (.item map key) ≠ .settled)
    (rest : ∀ item, Pays codec items failing orgId (next (some item))
      (ledger.write (.item map key) item)) :
    Pays codec items failing orgId (onRuntime orgId (.get map key) >>= next) ledger := by
  apply pays_runtime RuntimeOp.noConfusion
  · rintro error ⟨found, impossible, _⟩
    cases impossible
  · rintro answer ⟨found, same, there⟩
    obtain ⟨item, rfl⟩ := Option.isSome_iff_exists.mp (there owed)
    obtain rfl := Except.ok.inj same
    have read : runtimeOwes ledger (.get map key) (.ok (some item)) =
        ledger.write (.item map key) item := by
      change ledger.read (.item map key) item = _
      unfold Ledger.read
      split
      · contradiction
      · rfl
    rw [read]
    exact rest item

/-- A call of the engine between a change and its write. -/
theorem pays_midway {call : JourneyCall} {next : JourneyAnswer call → GatewayProgram Value}
    (midway : call.midway = true)
    (rest : ∀ answer, Pays codec items failing orgId (next answer) ledger) :
    Pays codec items failing orgId (engine orgId call >>= next) ledger := by
  apply pays_runtime RuntimeOp.noConfusion
  · intro error succeeds returned
    cases failing with
    | true =>
        obtain ⟨value, impossible⟩ := returned rfl
        cases impossible
    | false =>
        obtain ⟨answer, impossible⟩ := succeeds rfl midway
        cases impossible
  · exact fun answer _ => rest answer

/-- A failing request owes nothing where it raises. -/
theorem paid_up_failing {error : PyError} (fails : failing = true) :
    PaidUp failing (.error error : Except PyError Value) ledger := by
  intro returned
  obtain ⟨value, impossible⟩ := returned fails
  cases impossible

/-- Writing what is owed settles it, or fails where writes may. -/
theorem put_conforms {key : RefundKey} {item : key.Item} {payload : Payload}
    (total : failing = false → DumpsAll codec items)
    (spelling : spelled codec items key item = codec.dumps payload)
    (owed : ledger key = .written item) :
    Conforms (owing codec items failing orgId)
      (fun outcome after => match outcome with
        | .ok _ => after = ledger.settle key
        | .error _ => failing = true)
      (inStore (GatewayStore.putRefundState codec orgId key.bucket key.itemKey payload))
      ledger := by
  refine ⟨trivial, ?_⟩
  intro reply expected
  obtain ⟨now, rfl⟩ := expected (.inl rfl)
  change Conforms (owing codec items failing orgId) _ (inStore (guarded _ _)) ledger
  simp only [guarded, Program.rescue]
  cases dumped : codec.dumps payload with
  | error error =>
      have fails : failing = true := by
        by_contra succeeds
        obtain ⟨text, spelt⟩ := total (Bool.not_eq_true _ ▸ succeeds) key item
        rw [spelling, dumped] at spelt
        cases spelt
      simp only [Program.settle, Program.bind_is_attempt, Program.attempt_raised]
      split_ifs
      · exact fails
      · exact fails
  | ok text =>
      simp only [Program.settle, Program.bind_is_attempt, Program.attempt_done]
      refine ⟨⟨key, item, owed, rfl, rfl, rfl, spelling.trans dumped⟩, ?_⟩
      intro reply expected
      cases reply with
      | ok written => exact owes_written rfl rfl
      | error error =>
          have fails : failing = true := by
            by_contra succeeds
            obtain ⟨answer, impossible⟩ := expected (.inr ⟨rfl, Bool.not_eq_true _ ▸ succeeds⟩)
            cases impossible
          change Conforms _ _ (inStore (if isSqliteError error then _ else _)) ledger
          split_ifs
          · exact fails
          · exact fails

theorem pays_put (key : RefundKey) (item : key.Item) {payload : Payload}
    (total : failing = false → DumpsAll codec items)
    (spelling : spelled codec items key item = codec.dumps payload)
    (owed : ledger key = .written item)
    (rest : Pays codec items failing orgId (next ()) (ledger.settle key)) :
    Pays codec items failing orgId
      (inStore (GatewayStore.putRefundState codec orgId key.bucket key.itemKey payload) >>= next)
      ledger := by
  apply (put_conforms total spelling owed).andThen
  · rintro written after rfl
    exact rest
  · exact fun error after fails => paid_up_failing fails

/-- What is owed is written. -/
theorem pays_persist {map : RefundMap} {key : String} {item : map.Item}
    (total : failing = false → DumpsAll codec items)
    (owed : ledger (.item map key) = .written item)
    (rest : Pays codec items failing orgId (next ()) (ledger.settle (.item map key))) :
    Pays codec items failing orgId (persist codec items orgId map key item >>= next) ledger := by
  have spelling : spelled codec items (.item map key) item =
      (items.dump map item).bind codec.dumps := rfl
  unfold persist
  cases dumped : items.dump map item with
  | error error =>
      apply paid_up_failing
      by_contra succeeds
      obtain ⟨text, spelt⟩ := total (Bool.not_eq_true _ ▸ succeeds) (.item map key) item
      rw [spelling, dumped] at spelt
      cases spelt
  | ok payload =>
      rw [dumped] at spelling
      exact pays_put (.item map key) item total spelling owed rest

end Changes

/-! ### Calm parts of the handlers -/

theorem in_store_quiet {body : StoreProgram Value}
    (reads : body.Uses (fun op => op.writesRefund = false)) :
    (inStore body).Uses (quiet orgId) :=
  reads.translate (fun _ reads => reads)

theorem on_runtime_quiet {op : RuntimeOp} (calm : quiet orgId (.runtime orgId op)) :
    (onRuntime orgId op).Uses (quiet orgId) :=
  (Program.uses_perform _ _).mpr calm

theorem engine_quiet (call : JourneyCall) : (engine orgId call).Uses (quiet orgId) :=
  on_runtime_quiet ⟨rfl, trivial⟩

theorem get_quiet (map : RefundMap) (key : String) :
    (onRuntime orgId (.get map key)).Uses (quiet orgId) :=
  on_runtime_quiet ⟨rfl, trivial⟩

theorem or_http_quiet {status : Nat} {body : GatewayProgram Value}
    (uses : body.Uses (quiet orgId)) : (orHttp status body).Uses (quiet orgId) :=
  uses.rescue (fun _ => trivial)

theorem required_quiet {status : Nat} {detail : String} (item : Option Value) :
    (required status detail item).Uses (quiet orgId) := by
  cases item <;> trivial

theorem principal_quiet {principalType : PrincipalType} {principalId : String} :
    (principalOf principalType principalId).Uses (quiet orgId) :=
  (Program.uses_settle _ _).bind (fun _ => trivial)

theorem get_organization_reads :
    (GatewayStore.getOrganization orgId).Uses (fun op => op.writesRefund = false) := by
  apply Program.Uses.bind
  · apply Program.Uses.rescue
    · exact (Program.uses_perform _ _).mpr rfl
    · exact fun _ => trivial
  · intro row
    cases row <;> trivial

theorem require_active_reads :
    (GatewayStore.requireActiveOrganization orgId).Uses (fun op => op.writesRefund = false) := by
  apply get_organization_reads.bind
  intro organization
  split_ifs <;> trivial

theorem get_registered_reads {Row : Type} {call : String} {row : StoreProgram (Option Row)}
    {missing : PyError} (reads : row.Uses (fun op => op.writesRefund = false)) :
    (do
      let _ ← GatewayStore.requireActiveOrganization orgId
      let row ← guarded call row
      found row missing : StoreProgram Row).Uses (fun op => op.writesRefund = false) := by
  apply require_active_reads.bind
  intro organization
  apply Program.Uses.bind
  · exact reads.rescue (fun _ => trivial)
  · intro row
    cases row <;> trivial

theorem get_user_reads {userId : String} :
    (GatewayStore.getUserById orgId userId).Uses (fun op => op.writesRefund = false) := by
  apply Program.Uses.bind
  · apply Program.Uses.rescue
    · exact (Program.uses_perform _ _).mpr rfl
    · exact fun _ => trivial
  · intro row
    cases row <;> trivial

theorem assert_org_scope_quiet {nfkc : String → String} {user : GatewayUser} :
    (assertOrgScope nfkc user orgId).Uses (quiet orgId) := by
  unfold assertOrgScope
  split
  · trivial
  · split_ifs
    · trivial
    · apply Program.Uses.attempt
      · exact (in_store_quiet require_active_reads).bind (fun _ => trivial)
      · intro outcome
        cases outcome with
        | ok value => trivial
        | error error =>
            dsimp only
            split_ifs <;> trivial

theorem resolve_quiet {nfkc : String → String} {user : GatewayUser} :
    (resolveOrgRuntime nfkc user orgId).Uses (quiet orgId) := by
  apply assert_org_scope_quiet.bind
  intro inScope
  apply Program.Uses.rescue
  · exact (Program.uses_perform _ _).mpr trivial
  · exact fun _ => trivial

theorem require_resources_quiet {nfkc : String → String} {user : GatewayUser}
    {agentId : String} :
    (requireRegisteredRefundResources nfkc user orgId agentId).Uses (quiet orgId) := by
  apply resolve_quiet.bind
  intro resolved
  apply Program.Uses.bind
  · apply Program.Uses.rescue
    · exact in_store_quiet (get_registered_reads ((Program.uses_perform _ _).mpr rfl))
    · exact fun _ => trivial
  · intro agent
    apply Program.Uses.bind
    · apply Program.Uses.rescue
      · exact in_store_quiet (get_registered_reads ((Program.uses_perform _ _).mpr rfl))
      · exact fun _ => trivial
    · intro registration
      split_ifs <;> trivial

theorem active_bundle_quiet : (activePolicyBundle orgId).Uses (quiet orgId) := by
  apply (on_runtime_quiet ⟨rfl, trivial⟩).bind
  intro active
  cases active with
  | none => trivial
  | some bundleId =>
      apply (get_quiet .policyBundles bundleId).bind
      intro bundle
      apply (required_quiet bundle).bind
      intro bundle
      apply Program.Uses.bind
      · exact (engine_quiet _).rescue (fun _ => trivial)
      · exact fun _ => trivial

theorem by_hash_quiet {bundleHash : String} :
    (policyBundleByHash orgId bundleHash).Uses (quiet orgId) :=
  (on_runtime_quiet ⟨rfl, trivial⟩).bind (fun _ => trivial)

theorem denial_quiet {manifestId : String} : (denialEvent orgId manifestId).Uses (quiet orgId) :=
  (engine_quiet _).bind (fun _ => trivial)

theorem has_grants_quiet {manifestId : String} :
    (hasGrants orgId manifestId).Uses (quiet orgId) :=
  (get_quiet _ _).bind (fun _ => trivial)

theorem statements_quiet {manifestId : String} :
    (statementsOn orgId manifestId).Uses (quiet orgId) :=
  (get_quiet _ _).bind (fun _ => trivial)

theorem bundle_for_approval_quiet {manifestId : String} {body : RefundApproveIn} :
    (bundleForApproval orgId manifestId body).Uses (quiet orgId) := by
  unfold bundleForApproval
  split
  · apply (get_quiet _ _).bind
    intro bundle
    exact (required_quiet bundle).bind (fun _ => trivial)
  · exact get_quiet _ _

theorem policy_of_quiet {activeBundle : Option SealedPolicyBundle} :
    (policyOf orgId activeBundle).Uses (quiet orgId) := by
  cases activeBundle with
  | none => trivial
  | some bundle => exact engine_quiet _

theorem assessed_refund_quiet {request : PaymentRequest}
    {activeBundle : Option SealedPolicyBundle} :
    (assessedRefund orgId request activeBundle).Uses (quiet orgId) := by
  apply (engine_quiet _).bind
  intro manifest
  apply (engine_quiet _).bind
  intro signed
  exact (engine_quiet _).bind (fun _ => trivial)

theorem past_denial_quiet {manifestId : String} {state : LifecycleState} :
    (pastDenial orgId manifestId state).Uses (quiet orgId) := by
  unfold pastDenial
  split_ifs
  · trivial
  · exact has_grants_quiet

theorem bound_bundle_quiet {grant : ExecutionGrant} :
    (boundPolicyBundle orgId grant).Uses (quiet orgId) := by
  unfold boundPolicyBundle
  split
  · trivial
  · apply by_hash_quiet.bind
    intro bundle
    exact (required_quiet bundle).bind (fun _ => trivial)

theorem compensated_quiet {user : GatewayUser} {original : SealedManifest}
    {originalCommit : CommitResult} {ttlSeconds : Int} {now : Instant} :
    (compensated user orgId original originalCommit ttlSeconds now).Uses (quiet orgId) := by
  apply (engine_quiet _).bind
  intro unsigned
  apply (engine_quiet _).bind
  intro prepared
  apply (engine_quiet _).bind
  intro signed
  apply principal_quiet.bind
  intro issuer
  apply (engine_quiet _).bind
  intro grant
  apply (engine_quiet _).bind
  exact fun _ => trivial

/-! ### Handlers -/

section Handlers

variable {nfkc : String → String} {user : GatewayUser}

theorem pays_settled {program : GatewayProgram Value} {ledger : RefundLedger}
    (settled : ledger.Settled) (rest : Pays codec items failing orgId program Ledger.clear) :
    Pays codec items failing orgId program ledger := by
  rw [settled.eq_clear]
  exact rest

/-- A handler that is done owes nothing. -/
theorem pays_done {value : Value} {ledger : RefundLedger} (settled : ledger.Settled) :
    Pays codec items failing orgId (pure value) ledger :=
  fun _ => settled

theorem clock_quiet :
    (Program.perform GatewayOp.wallClock : GatewayProgram Instant).Uses (quiet orgId) :=
  (Program.uses_perform _ _).mpr trivial

theorem activate_policy_pays (total : failing = false → DumpsAll codec items)
    (body : PolicyActivateIn) :
    Pays codec items failing orgId (activatePolicy nfkc codec items user orgId body)
      Ledger.clear := by
  apply Pays.after resolve_quiet
  intro resolved
  split_ifs
  · exact paid_up_clear
  · apply Pays.after clock_quiet
    intro now
    apply Pays.after
    case uses => exact or_http_quiet (principal_quiet.bind (fun issuer => engine_quiet _))
    intro bundle
    apply pays_set
    apply pays_set_active
    apply pays_persist total (by simp)
    apply pays_put .activePolicy body.bundleId total rfl (by simp)
    apply pays_done
    intro key
    simp
    tauto

theorem file_proposal_pays (total : failing = false → DumpsAll codec items)
    {«sealed» : SealedManifest} {assessment : EffectAssessment}
    {activeBundle : Option SealedPolicyBundle} {next : Unit → GatewayProgram Value}
    (rest : Pays codec items failing orgId (next ()) Ledger.clear) :
    Pays codec items failing orgId
      (fileProposal codec items orgId «sealed» assessment activeBundle >>= next) Ledger.clear := by
  unfold fileProposal
  cases activeBundle with
  | none =>
      simp only [Program.bind_bind]
      apply pays_set
      apply pays_set
      apply pays_midway rfl
      intro now
      apply pays_midway rfl
      intro approvalPolicyBundle
      apply pays_set
      apply pays_persist total (by simp)
      apply pays_persist total (by simp)
      apply pays_persist total (by simp)
      apply pays_settled _ rest
      intro key
      simp
      tauto
  | some bundle =>
      simp only [Program.bind_bind]
      apply pays_set
      apply pays_set
      apply pays_set
      apply pays_midway rfl
      intro now
      apply pays_midway rfl
      intro approvalPolicyBundle
      apply pays_set
      apply pays_persist total (by simp)
      apply pays_persist total (by simp)
      apply pays_persist total (by simp)
      apply pays_persist total (by simp)
      apply pays_settled _ rest
      intro key
      simp
      tauto

theorem propose_refund_pays (total : failing = false → DumpsAll codec items)
    (body : RefundProposeIn) :
    Pays codec items failing orgId (proposeRefund nfkc codec items user orgId body)
      Ledger.clear := by
  apply Pays.after require_resources_quiet
  intro registered
  apply Pays.after principal_quiet
  intro actor
  apply Pays.after principal_quiet
  intro principal
  apply Pays.after active_bundle_quiet
  intro activeBundle
  apply Pays.after policy_of_quiet
  intro checked
  apply Pays.after (or_http_quiet assessed_refund_quiet)
  intro prepared
  exact file_proposal_pays total (pays_done Ledger.clear_settled)

theorem file_grant_pays (total : failing = false → DumpsAll codec items) {manifestId : String}
    {grant : ExecutionGrant} {next : Unit → GatewayProgram Value}
    (rest : Pays codec items failing orgId (next ()) Ledger.clear) :
    Pays codec items failing orgId (fileGrant codec items orgId manifestId grant >>= next)
      Ledger.clear := by
  simp only [fileGrant, registerGrant, persistGrantAndIndex, Program.bind_bind]
  apply pays_set
  apply pays_list_grants
  apply pays_append_grant_id
  apply pays_get (by simp)
  intro grantIds
  apply pays_persist total (by simp)
  apply pays_persist total (by simp)
  apply pays_settled _ rest
  intro key
  simp
  tauto

theorem approve_refund_pays (total : failing = false → DumpsAll codec items)
    (manifestId : String) (body : RefundApproveIn) :
    Pays codec items failing orgId (approveRefund nfkc codec items user orgId manifestId body)
      Ledger.clear := by
  apply Pays.after resolve_quiet
  intro resolved
  apply Pays.after (get_quiet _ _)
  intro «sealed»
  apply Pays.after (required_quiet «sealed»)
  intro «sealed»
  apply Pays.after denial_quiet
  intro denial
  split_ifs
  · exact paid_up_clear
  apply Pays.after has_grants_quiet
  intro granted
  split_ifs
  · exact paid_up_clear
  apply Pays.after (get_quiet _ _)
  intro assessment
  apply Pays.after (get_quiet _ _)
  intro approvalPolicyBundle
  apply Pays.after (required_quiet assessment)
  intro assessment
  apply Pays.after (required_quiet approvalPolicyBundle)
  intro approvalPolicyBundle
  apply Pays.after (on_runtime_quiet ⟨rfl, rfl⟩)
  intro listed
  apply Pays.after statements_quiet
  intro statements
  split_ifs
  · exact paid_up_clear
  apply Pays.after bundle_for_approval_quiet
  intro policyBundle
  apply Pays.after clock_quiet
  intro now
  apply Pays.after
  case uses => exact or_http_quiet (principal_quiet.bind (fun approver => engine_quiet _))
  intro statement
  apply pays_append_statement
  simp only [statementsOn, Program.bind_bind]
  apply pays_get (by simp)
  intro statements
  apply pays_persist total (by simp)
  apply pays_settled
  · intro key
    simp
    tauto
  apply Pays.after (get_quiet _ _)
  intro statements
  apply Pays.after (engine_quiet _)
  intro recorded
  apply Pays.after (get_quiet _ _)
  intro statements
  change Pays _ _ _ _ (if _ then _ else _) _
  split_ifs
  · exact paid_up_clear
  · apply Pays.after (or_http_quiet (engine_quiet _))
    intro grant
    exact file_grant_pays total (pays_done Ledger.clear_settled)

theorem deny_refund_pays (manifestId reason : String) :
    Pays codec items failing orgId (denyRefund nfkc user orgId manifestId reason)
      Ledger.clear := by
  apply Pays.after resolve_quiet
  intro resolved
  apply Pays.after (get_quiet _ _)
  intro «sealed»
  apply Pays.after (required_quiet «sealed»)
  intro «sealed»
  apply Pays.after denial_quiet
  intro denial
  split_ifs
  · exact paid_up_clear
  apply Pays.after (engine_quiet _)
  intro state
  apply Pays.after past_denial_quiet
  intro settled
  split_ifs
  · exact paid_up_clear
  apply Pays.after (engine_quiet _)
  exact fun recorded => paid_up_clear

theorem filed_pays (total : failing = false → DumpsAll codec items) {map : RefundMap}
    {key : String} {item : map.Item} {value : Value} :
    Pays codec items failing orgId (do
      let _ ← onRuntime orgId (.set map key item)
      let _ ← persist codec items orgId map key item
      pure value) Ledger.clear := by
  apply pays_set
  apply pays_persist total (by simp)
  apply pays_done
  intro key
  simp
  tauto

theorem execute_refund_pays (total : failing = false → DumpsAll codec items)
    (manifestId grantId : String) :
    Pays codec items failing orgId (executeRefund nfkc codec items user orgId manifestId grantId)
      Ledger.clear := by
  apply Pays.after resolve_quiet
  intro resolved
  apply Pays.after (get_quiet _ _)
  intro «sealed»
  apply Pays.after (get_quiet _ _)
  intro grant
  apply Pays.after (required_quiet «sealed»)
  intro «sealed»
  apply Pays.after (required_quiet grant)
  intro grant
  apply Pays.after bound_bundle_quiet
  intro policyBundle
  apply Pays.after (or_http_quiet (engine_quiet _))
  exact fun result => filed_pays total

theorem verify_refund_pays (total : failing = false → DumpsAll codec items)
    (manifestId : String) :
    Pays codec items failing orgId (verifyRefund nfkc codec items user orgId manifestId)
      Ledger.clear := by
  apply Pays.after resolve_quiet
  intro resolved
  apply Pays.after (get_quiet _ _)
  intro «sealed»
  apply Pays.after (get_quiet _ _)
  intro result
  apply Pays.after (required_quiet «sealed»)
  intro «sealed»
  apply Pays.after (required_quiet result)
  intro result
  apply Pays.after (engine_quiet _)
  exact fun proof => filed_pays total

theorem recover_refund_pays (total : failing = false → DumpsAll codec items)
    (manifestId : String) :
    Pays codec items failing orgId (recoverRefund nfkc codec items user orgId manifestId)
      Ledger.clear := by
  apply Pays.after resolve_quiet
  intro resolved
  apply Pays.after (get_quiet _ _)
  intro «sealed»
  apply Pays.after (required_quiet «sealed»)
  intro «sealed»
  apply Pays.after (or_http_quiet (engine_quiet _))
  exact fun proof => filed_pays total

theorem compensate_refund_pays (total : failing = false → DumpsAll codec items)
    (manifestId : String) (ttlSeconds : Int) :
    Pays codec items failing orgId
      (compensateRefund nfkc codec items user orgId manifestId ttlSeconds) Ledger.clear := by
  apply Pays.after resolve_quiet
  intro resolved
  apply Pays.after (get_quiet _ _)
  intro original
  apply Pays.after (get_quiet _ _)
  intro originalCommit
  apply Pays.after (required_quiet original)
  intro original
  apply Pays.after (required_quiet originalCommit)
  intro originalCommit
  apply Pays.after statements_quiet
  intro statements
  split_ifs
  · exact paid_up_clear
  apply Pays.after clock_quiet
  intro now
  apply Pays.after (or_http_quiet compensated_quiet)
  rintro ⟨compensation, grant, result⟩
  simp only [registerGrant, persistGrantAndIndex, Program.bind_bind]
  apply pays_set
  apply pays_set
  apply pays_list_grants
  apply pays_append_grant_id
  apply pays_set
  apply pays_persist total (by simp)
  apply pays_get (by simp)
  intro grantIds
  apply pays_persist total (by simp)
  apply pays_persist total (by simp)
  apply pays_persist total (by simp)
  apply pays_done
  intro key
  simp
  tauto

theorem require_session_quiet {authorization : Option String} :
    (requireGatewaySession authorization).Uses (quiet orgId) := by
  unfold requireGatewaySession
  cases bearerToken authorization with
  | none => trivial
  | some token =>
      apply Program.Uses.bind
      · exact (Program.uses_perform _ _).mpr trivial
      · intro session
        cases session with
        | none => trivial
        | some session =>
            apply Program.Uses.rescue
            · exact in_store_quiet get_user_reads
            · exact fun _ => trivial

theorem serve_pays (total : failing = false → DumpsAll codec items) (request : RefundRequest)
    (authorization : Option String) :
    Pays codec items failing orgId (request.serve nfkc codec items orgId authorization)
      Ledger.clear := by
  apply Pays.after require_session_quiet
  intro user
  cases request with
  | activatePolicy body => exact activate_policy_pays total body
  | propose body => exact propose_refund_pays total body
  | approve manifestId body => exact approve_refund_pays total manifestId body
  | deny manifestId reason => exact deny_refund_pays manifestId reason
  | execute manifestId grantId => exact execute_refund_pays total manifestId grantId
  | verify manifestId => exact verify_refund_pays total manifestId
  | recover manifestId => exact recover_refund_pays total manifestId
  | compensate manifestId ttlSeconds => exact compensate_refund_pays total manifestId ttlSeconds

end Handlers

/-! ### Whole requests -/

section Requests

variable {nfkc : String → String} {request : RefundRequest} {authorization : Option String}
  {process after : GatewayProcess}

/-- A request that is through leaves rows and runtimes in agreement, unless a write failed. -/
theorem served_agrees (roundTrips : RoundTrips codec items)
    (total : failing = false → DumpsAll codec items) (agrees : process.Agrees codec items)
    {outcome : Except PyError RefundReply} (settles : failing = true → ∃ reply, outcome = .ok reply)
    (yields : (request.serve nfkc codec items orgId authorization).Yields
      (gatewayEnvironment failing) process outcome after) : after.Agrees codec items := by
  have pays : Pays codec items failing orgId
      (request.serve nfkc codec items orgId authorization) Ledger.clear :=
    serve_pays total request authorization
  obtain ⟨ledger, paid, tallied⟩ := pays.ensures (Tallied codec items orgId)
    (agrees.tallied orgId) (fun _ _ _ _ _ tallied admitted told =>
      tallied.step roundTrips admitted told) outcome after yields
  exact tallied.agrees (paid settles)

/-- Wherever a request stops, the rows can be restored. -/
theorem stopped_restorable (roundTrips : RoundTrips codec items)
    (agrees : process.Agrees codec items) {rest : GatewayProgram RefundReply}
    {events : List (Event GatewayOp GatewayReply PyError)}
    (run : Steps (gatewayEnvironment true) (request.serve nfkc codec items orgId authorization)
      process events rest after) : after.tables.Restorable codec items := by
  have pays : Pays codec items true orgId (request.serve nfkc codec items orgId authorization)
      Ledger.clear := by
    apply serve_pays
    intro impossible
    cases impossible
  have stopped := run.monitored
    (fun current events => Tallied codec items orgId current
      ((owing codec items true orgId).watched Ledger.clear events))
    pays (agrees.tallied orgId) (by
      intro current earlier op reply answered tallied admitted told
      rw [watched_append_one]
      exact tallied.step roundTrips admitted told)
  exact stopped.2.rows

end Requests

end KarmaSakshi.Gateway
