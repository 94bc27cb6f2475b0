import KarmaSakshi.Guarantees.LifecycleSafety

/-!
Revocation safety.

A revocation that reports success has durably moved the manifest to REVOKED,
which no path through COMMITTING reaches.  A revocation mark in the grant store
is permanent: from then on nobody reserves the grant, nobody reads it as clear,
and so only a call that already held it can still invoke the adapter under it.
-/

namespace KarmaSakshi.Guarantees

open EffectProgram KarmaSakshi.Domain KarmaSakshi.Stores KarmaSakshi.Engine

set_option autoImplicit false

variable {World Caller : Type}

/-! ### The two sides of the transition graph -/

/-- The states a manifest can be in once it has entered COMMITTING. -/
def pastSafepoint (state : LifecycleState) : Prop :=
  state ∈ [.committing, .committed, .verified, .compensating, .compensated, .failed,
    .recoveredCommitted]

theorem past_safepoint_stays {current target : LifecycleState}
    (legal : LifecycleState.isLegalTransition current target = true)
    (past : pastSafepoint current) : pastSafepoint target := by
  unfold pastSafepoint at *
  cases current <;> cases target <;>
    first
      | exact absurd legal (by decide)
      | exact absurd past (by decide)
      | decide

theorem revoked_is_final {target : LifecycleState} :
    LifecycleState.isLegalTransition .revoked target = false := by
  cases target <;> rfl

/-- What a legal step keeps, the last durable state has if any earlier one had it. -/
theorem History.reaches_last {manifestId : String} {state : LifecycleState} {log : Log Caller}
    (history : History manifestId state log) (kept : LifecycleState → Prop)
    (keeps : ∀ current target, LifecycleState.isLegalTransition current target = true →
      kept current → kept target)
    {earlier : LifecycleState} (written : earlier ∈ durableStates log manifestId)
    (held : kept earlier) : kept state := by
  by_contra lost
  have backwards := history.path.backwards_induction (fun current => ¬ kept current) _
    (fun _ _ legal lostTarget heldCurrent => lostTarget (keeps _ _ legal heldCurrent))
    (fun nonempty => by
      have last := history.last
      rw [List.getLast?_eq_some_getLast nonempty] at last
      rw [Option.some.inj last]
      exact lost)
  exact backwards earlier (List.mem_cons_of_mem _ written) held

/-- No durable history contains both COMMITTING and REVOKED. -/
theorem History.excludes {manifestId : String} {state : LifecycleState} {log : Log Caller}
    (history : History manifestId state log)
    (entered : LifecycleState.committing ∈ durableStates log manifestId) :
    LifecycleState.revoked ∉ durableStates log manifestId := by
  intro written
  have past : pastSafepoint state :=
    history.reaches_last pastSafepoint (fun _ _ legal => past_safepoint_stays legal) entered
      (by unfold pastSafepoint; decide)
  have revoked : state = .revoked :=
    history.reaches_last (fun current => current = .revoked)
      (fun current target legal isRevoked => by
        rw [isRevoked, revoked_is_final] at legal
        exact absurd legal (by simp)) written rfl
  rw [revoked] at past
  exact absurd past (by unfold pastSafepoint; decide)

theorem written_is_durable {log : Log Caller} {caller : Caller} {manifestId : String}
    {expected : Option LifecycleState} {state : LifecycleState}
    (written : .performed caller (.lifecycle (.compareAndSet manifestId expected state))
      (.ok true) ∈ log) : state ∈ durableStates log manifestId := by
  rw [durableStates, List.mem_filterMap]
  exact ⟨_, written, by simp [durableWrite]⟩

variable [DecidableEq Caller] {deployment : Deployment World Caller}
  {grantsOf : World → GrantStore} {statesOf : World → LifecycleMap} {initial : World}
  {config middle : Snapshot World Caller} {grantId : String}

/-! ### A successful revocation -/

/-- What a caller believes it has stored is in the log. -/
theorem stored_is_written (deployment : Deployment World Caller) (log : Log Caller)
    (caller : Caller) {state : LifecycleState}
    (stored : (deployment.progressIn log caller).work.stored = some state) :
    ∃ expected, .performed caller
      (.lifecycle (.compareAndSet (deployment.call caller).subject expected state)) (.ok true)
        ∈ log := by
  induction log using List.reverseRecOn with
  | nil => exact absurd stored (by simp [Deployment.progressIn])
  | append_singleton log entry ih =>
      have earlier : (deployment.progressIn log caller).work.stored = some state → _ := fun held =>
        (ih held).imp (fun _ member => List.mem_append_left [entry] member)
      cases entry with
      | started actor =>
          rw [Deployment.progressIn, seen_started] at stored
          exact earlier stored
      | finished actor outcome =>
          rw [Deployment.progressIn, seen_finished] at stored
          exact earlier stored
      | performed actor op reply =>
          by_cases same : actor = caller
          · subst same
            rw [Deployment.progressIn, seen_own] at stored
            rcases Work.stored_by_swap _ _ stored with before | ⟨expected, equal⟩
            · exact earlier before
            · cases equal
              exact ⟨expected, List.mem_append_right _ (List.mem_singleton.mpr rfl)⟩
          · rw [Deployment.progressIn, seen_other _ _ _ _ _ _ _ same] at stored
            exact earlier stored

/-- A revocation that returned True excludes every adapter call for its manifest. -/
theorem revoked_manifest_is_never_invoked (shared : SharesLifecycleStore deployment statesOf)
    (configured : ∀ caller, (deployment.context caller).hasLifecycleStore = true)
    (start : ∀ manifestId, durableState (statesOf initial) manifestId = .proposed)
    (reached : deployment.Reachable initial config) {caller : Caller} {call : RevokeCall}
    (isRevoke : deployment.call caller = .revoke call)
    (succeeded : config.status caller = .ended (.ok (.revoked true))) :
    invocations config.log call.manifestId = 0 := by
  obtain ⟨history, entries⟩ :=
    lifecycle_invariant_reachable shared configured (start call.manifestId) reached
  have stands := Deployment.reachable_stands reached caller
  rw [Deployment.Stands, succeeded, isRevoke] at stands
  have stored := (show _ → _ from stands) rfl (configured caller)
  obtain ⟨expected, written⟩ := stored_is_written deployment config.log caller stored
  rw [isRevoke] at written
  rcases entries.invoked with never | ⟨other, entered, _, _⟩
  · exact never
  · exact absurd (written_is_durable written) (history.excludes (written_is_durable entered))

/-! ### The mark in the grant store -/

/-- The grants, from a state in which one of them is marked. -/
structure MarkInvariant (deployment : Deployment World Caller) (grantsOf : World → GrantStore)
    (grantId : String) (middle config : Snapshot World Caller) : Prop where
  marked : (grantsOf config.world).view.isRevoked grantId = true
  holders : ∀ caller inner, deployment.call caller = .commit inner → inner.grantId = grantId →
    (deployment.progress config caller).work.grant = .held →
      (deployment.progress middle caller).work.grant = .held
  uncleared : ∀ caller, middle.status caller = .waiting →
    grantId ∉ (deployment.progress config caller).reads.cleared

theorem MarkInvariant.scheduled (held : MarkInvariant deployment grantsOf grantId middle config)
    {after : Snapshot World Caller} (world : after.world = config.world)
    (progress : ∀ other, deployment.progress after other = deployment.progress config other) :
    MarkInvariant deployment grantsOf grantId middle after := by
  constructor
  · rw [world]
    exact held.marked
  · intro caller inner isCommit own
    rw [progress caller]
    exact held.holders caller inner isCommit own
  · intro caller waited
    rw [progress caller]
    exact held.uncleared caller waited

/-- The mark survives every answered operation. -/
theorem mark_step (shared : SharesGrantStore deployment grantsOf) {caller : Caller}
    {world after : World} {op : EngineOp} {reply : Except PyError (EngineReply op)}
    (answered : deployment.answers caller world op reply after)
    (marked : (grantsOf world).view.isRevoked grantId = true) :
    (grantsOf after).view.isRevoked grantId = true := by
  by_cases grantsOp : ∃ inner, op = .grants inner
  · obtain ⟨inner, rfl⟩ := grantsOp
    rcases shared.answer answered with ⟨_, _, same⟩ | ⟨value, _, _, served⟩
    · rw [same]
      exact marked
    · rw [served]
      exact InMemoryGrantStore.serve_keeps_revoked _ _ inner marked
  · rw [shared.frames caller world op reply after answered
      (fun inner equal => grantsOp ⟨inner, equal⟩)]
    exact marked

theorem marked_is_never_reserved (shared : SharesGrantStore deployment grantsOf) {caller : Caller}
    {world after : World} {maxUses : Nat}
    (marked : (grantsOf world).view.isRevoked grantId = true) :
    ¬ deployment.answers caller world (.grants (.reserve grantId maxUses)) (.ok true) after := by
  intro answered
  rcases shared.answer answered with ⟨_, impossible, _⟩ | ⟨value, replied, served, _⟩
  · cases impossible
  · have lost : ((grantsOf world).view.reserve grantId maxUses).1 = false :=
      (grantsOf world).view.revoked_reserve_fails grantId marked
    have won : ((grantsOf world).view.reserve grantId maxUses).1 = value := Except.ok.inj served
    rw [lost, ← Except.ok.inj replied] at won
    exact absurd won (by simp)

theorem marked_is_never_cleared (shared : SharesGrantStore deployment grantsOf) {caller : Caller}
    {world after : World} (marked : (grantsOf world).view.isRevoked grantId = true) :
    ¬ deployment.answers caller world (.grants (.isRevoked grantId)) (.ok false) after := by
  intro answered
  rcases shared.answer answered with ⟨_, impossible, _⟩ | ⟨value, replied, served, _⟩
  · cases impossible
  · have told : (grantsOf world).view.isRevoked grantId = value := Except.ok.inj served
    rw [marked, ← Except.ok.inj replied] at told
    exact absurd told (by simp)

theorem MarkInvariant.answer (shared : SharesGrantStore deployment grantsOf)
    (held : MarkInvariant deployment grantsOf grantId middle config) {caller : Caller}
    {op : EngineOp} {reply : Except PyError (EngineReply op)} {world : World}
    {resume : Except PyError (EngineReply op) → Action CallResult}
    (admitted : (deployment.call caller).admits (deployment.context caller)
      (deployment.progress config caller) op)
    (answered : deployment.answers caller config.world op reply world) :
    MarkInvariant deployment grantsOf grantId middle
      (config.answer caller op resume reply world) := by
  constructor
  · exact mark_step shared answered held.marked
  · intro other inner isCommit own holds
    by_cases same : other = caller
    · subst same
      rw [Deployment.progress_answer_own] at holds
      rcases Work.held_by_reserve _ _ holds with before | ⟨reserved, maxUses, equal⟩
      · exact held.holders other inner isCommit own before
      · cases equal
        rw [isCommit] at admitted
        obtain rfl : reserved = grantId := (show reserved = inner.grantId from admitted.1).trans own
        exact absurd answered (marked_is_never_reserved shared held.marked)
    · rw [Deployment.progress_answer_other _ _ _ _ _ same] at holds
      exact held.holders other inner isCommit own holds
  · intro other waited member
    by_cases same : other = caller
    · subst same
      rw [Deployment.progress_answer_own] at member
      rcases Reads.cleared_by_answer _ member with before | equal
      · exact held.uncleared other waited before
      · cases equal
        exact marked_is_never_cleared shared held.marked answered
    · rw [Deployment.progress_answer_other _ _ _ _ _ same] at member
      exact held.uncleared other waited member

theorem mark_invariant_onward (shared : SharesGrantStore deployment grantsOf)
    (reached : deployment.Reachable initial middle) (leads : deployment.Leads middle config)
    (marked : (grantsOf middle.world).view.isRevoked grantId = true) :
    MarkInvariant deployment grantsOf grantId middle config := by
  have keeps : deployment.Keeps (MarkInvariant deployment grantsOf grantId middle) := by
    constructor
    · intro current caller held _ _ _
      exact held.scheduled rfl (fun other => deployment.progress_start current caller other _)
    · intro current caller op resume reply world held _ _ admitted answered
      exact held.answer shared admitted answered
    · intro current caller outcome held _ _
      exact held.scheduled rfl (fun other => deployment.progress_finish current caller other outcome)
  have fresh : ∀ caller, middle.status caller = .waiting → deployment.progress middle caller = {} := by
    intro caller waits
    have stands := Deployment.reachable_stands reached caller
    rw [Deployment.Stands, waits] at stands
    exact stands
  refine keeps.onward reached ⟨marked, fun _ _ _ _ holds => holds, ?_⟩ leads
  intro caller waits
  rw [fresh caller waits]
  exact fun member => absurd member (by simp)

/-- `grant_store.revoke` of the grant has completed. -/
def RevokeTookEffect (log : Log Caller) (grantId : String) : Prop :=
  ∃ actor, .performed actor (.grants (.revoke grantId)) (.ok ()) ∈ log

theorem completed_revoke_marks (shared : SharesGrantStore deployment grantsOf)
    (reached : deployment.Reachable initial middle) (completed : RevokeTookEffect middle.log grantId) :
    (grantsOf middle.world).view.isRevoked grantId = true := by
  have keeps : deployment.Keeps (fun current => RevokeTookEffect current.log grantId →
      (grantsOf current.world).view.isRevoked grantId = true) := by
    constructor
    · rintro current caller held _ _ _ ⟨actor, member⟩
      rcases List.mem_append.mp member with earlier | now
      · exact held ⟨actor, earlier⟩
      · exact absurd (List.mem_singleton.mp now) (by simp)
    · rintro current caller op resume reply world held _ _ admitted answered ⟨actor, member⟩
      rcases List.mem_append.mp member with earlier | now
      · exact mark_step shared answered (held ⟨actor, earlier⟩)
      · cases List.mem_singleton.mp now
        rcases shared.answer answered with ⟨_, impossible, _⟩ | ⟨_, _, _, served⟩
        · cases impossible
        · show (grantsOf world).view.isRevoked grantId = true
          rw [served]
          exact InMemoryGrantStore.revoke_marks _ _
    · rintro current caller outcome held _ _ ⟨actor, member⟩
      rcases List.mem_append.mp member with earlier | now
      · exact held ⟨actor, earlier⟩
      · exact absurd (List.mem_singleton.mp now) (by simp)
  exact (keeps.reachable (fun ⟨_, member⟩ => by cases member) reached).1 completed

/-- Revocation safety.  In every interleaving of calls over one grant store and
one lifecycle store: a manifest whose revocation returned True is never handed to
the adapter; and once the store has completed the revocation of a grant, only a
commit that already held it invokes the adapter under it, and a commit that
starts later does so neither under it nor under any of its descendants. -/
theorem revocation_is_safe (sharedGrants : SharesGrantStore deployment grantsOf)
    (sharedStates : SharesLifecycleStore deployment statesOf)
    (configured : ∀ caller, (deployment.context caller).hasLifecycleStore = true)
    (start : ∀ manifestId, durableState (statesOf initial) manifestId = .proposed)
    (reached : deployment.Reachable initial middle) (leads : deployment.Leads middle config) :
    (∀ caller call, deployment.call caller = .revoke call →
      config.status caller = .ended (.ok (.revoked true)) →
        invocations config.log call.manifestId = 0) ∧
    ∀ grantId, RevokeTookEffect middle.log grantId →
      ∀ caller identity manifest grant resume,
        config.status caller = .running (.call (.adapter identity (.commit manifest grant)) resume) →
          (grant.grantId = grantId → (deployment.progress middle caller).work.grant = .held) ∧
          (middle.status caller = .waiting → grant.grantId ≠ grantId ∧
            ¬ Ancestor (grantsOf middle.world).view.lineage grant.parentGrantId grantId) := by
  have reachedLater : deployment.Reachable initial config := Pool.Reachable.onward reached leads
  refine ⟨fun caller call isRevoke succeeded =>
    revoked_manifest_is_never_invoked sharedStates configured start reachedLater isRevoke succeeded,
    ?_⟩
  intro grantId completed caller identity manifest grant resume invokes
  have marked := completed_revoke_marks sharedGrants reached completed
  have invariant := mark_invariant_onward sharedGrants reached leads marked
  have stands := Deployment.reachable_stands reachedLater caller
  rw [Deployment.Stands, invokes] at stands
  obtain ⟨inner, isCommit, _, rfl, ready⟩ := admitted_invocation stands.1
  have held : inner.grant.grantId = grantId →
      (deployment.progress middle caller).work.grant = .held :=
    fun own => invariant.holders caller inner isCommit own ready.reserved
  refine ⟨held, fun waits => ⟨fun own => ?_, fun ancestor => ?_⟩⟩
  · have fresh := Deployment.reachable_stands reached caller
    rw [Deployment.Stands, waits] at fresh
    have idle := held own
    rw [show deployment.progress middle caller = {} from fresh] at idle
    exact absurd idle (by simp)
  · obtain ⟨chain, walked⟩ := ready.gates.ancestorsClear
    rw [sharedGrants.lineage_constant reached] at ancestor
    have visited := ancestor_is_walked
      (fun _ _ read => sharedGrants.parents_are_recorded reachedLater read) ancestor walked
    exact invariant.uncleared caller waits (walked_is_cleared walked grantId visited)

/-! ### A revocation and a later commit -/

def paymentRevocation : RevokeCall := ⟨Payment.transferGrant, "mf-1", Payment.owner⟩

def revocationCalls : Nat → EngineCall
  | 0 => .revoke paymentRevocation
  | _ => .commit (Payment.commitOf Payment.sealedTransfer Payment.transferGrant)

def revokingService : Service Unit Nat :=
  Payment.service Payment.prompt (fun _ => ()) revocationCalls

/-- The revocation has ended. -/
def afterRevocation : Snapshot (Engine.World Unit) Nat :=
  revokingService.replay Payment.prompt (Payment.emptyWorld Unit) (List.replicate 12 0)

/-- The commit has run as well. -/
def afterRefusal : Snapshot (Engine.World Unit) Nat :=
  (List.replicate 12 1).foldl
    (revokingService.deployment.pool.advance (fun _ => Payment.prompt.serve ())) afterRevocation

theorem after_revocation_is_reached :
    revokingService.deployment.Reachable (Payment.emptyWorld Unit) afterRevocation :=
  Payment.service_reachable Payment.prompt (fun _ => ()) _ (Payment.emptyWorld Unit) _

theorem refusal_follows_revocation :
    revokingService.deployment.Leads afterRevocation afterRefusal :=
  Pool.replay_leads (fun _ => Payment.prompt.serves ()) _
    (Pool.permitted_of_free _ (fun _ _ => trivial) (fun _ _ _ => trivial) _ _)

/-- The revocation answered True. -/
def answeredTrue : Status EngineOp EngineReply PyError CallResult → Bool
  | .ended (.ok (.revoked unaffected)) => unaffected
  | _ => false

theorem answered_true_ends {status : Status EngineOp EngineReply PyError CallResult}
    (answered : answeredTrue status = true) : status = .ended (.ok (.revoked true)) := by
  unfold answeredTrue at answered
  split at answered
  · rw [answered]
  · exact absurd answered (by simp)

theorem revoked_payment_is_refused :
    answeredTrue (afterRefusal.status 0) = true ∧
      invocations afterRefusal.log paymentRevocation.manifestId = 0 := by
  have succeeded : answeredTrue (afterRefusal.status 0) = true := by decide +kernel
  have safe := revocation_is_safe revokingService.shares_grants revokingService.shares_states
    (fun _ => rfl) (fun _ => rfl) after_revocation_is_reached refusal_follows_revocation
  have isRevoke : revokingService.deployment.call 0 = .revoke paymentRevocation := rfl
  have never := safe.1 0 paymentRevocation isRevoke (answered_true_ends succeeded)
  exact ⟨succeeded, never⟩

end KarmaSakshi.Guarantees
