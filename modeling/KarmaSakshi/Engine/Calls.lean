import KarmaSakshi.Engine.CommitRun

/-!
The calls an engine serves, as one type, each with its protocol.

A pool of callers mixes them freely.  Whatever the stores answer, every call
keeps to its protocol and ends as its exit says.
-/

namespace KarmaSakshi.Engine

open EffectProgram KarmaSakshi.Domain KarmaSakshi.Stores

set_option autoImplicit false

/-- One public operation with its arguments.  `move` stands for the operations
that only move a manifest along its lifecycle. -/
inductive EngineCall : Type where
  | commit (call : CommitCall)
  | move (manifestId : String) (target : LifecycleState) (note : TransitionNote)
  | recover (call : RecoveryCall)
  | revoke (call : RevokeCall)
  | compensate (call : CompensationCall)

inductive CallResult : Type where
  | committed (result : CommitResult)
  | moved (record : LifecycleRecord)
  | recovered (proof : OutcomeProof)
  | revoked (unaffected : Bool)
  | compensated (result : CommitResult)

namespace EngineCall

variable (context : EngineContext)

def program : EngineCall → Action CallResult
  | commit call => do
      let result ← Engine.commit context call
      pure (.committed result)
  | move manifestId target note => do
      let record ← transition context manifestId target note
      pure (.moved record)
  | recover call => do
      let proof ← recoverAmbiguousCommit context call
      pure (.recovered proof)
  | revoke call => do
      let unaffected ← Engine.revoke context call
      pure (.revoked unaffected)
  | compensate call => do
      let result ← commitCompensation context call
      pure (.compensated result)

/-- The manifest the call is about. -/
def subject : EngineCall → String
  | commit call => call.manifestId
  | move manifestId _ _ => manifestId
  | recover call => call.manifest.manifestId
  | revoke call => call.manifestId
  | compensate call => call.compensationId

/-- Evidence first; nothing is recorded without it. -/
def recoverAdmits (call : RecoveryCall) (work : Work) : EngineOp → Prop
  | .adapter identity (.verify manifest _) => identity = call.adapter ∧ manifest = call.manifest
  | .audit _ => True
  | op => work.evidence = true ∧ recordingOp context call.manifest op

def revokeAdmits (call : RevokeCall) : EngineOp → Prop
  | .grants (.revoke grantId) => grantId = call.grant.grantId
  | .audit _ => True
  | op => transitionOp context call.manifestId .revoked op

def admits : EngineCall → Progress → EngineOp → Prop
  | commit call, progress, op => commitAdmits context call progress op
  | move manifestId target _, _, op => transitionOp context manifestId target op
  | recover call, progress, op => recoverAdmits context call progress.work op
  | revoke call, _, op => revokeAdmits context call op
  | compensate call, _, op => compensationOp context call op

def spec (call : EngineCall) : Spec EngineOp EngineReply PyError Progress where
  admits := call.admits context
  expects := fun _ op reply => steady op = true → isError reply = false
  observe := Progress.observe call.subject

/-- What a call guarantees when it ends. -/
def exit : EngineCall → Except PyError CallResult → Progress → Prop
  | commit call, outcome, after => ∃ result : Except PyError CommitResult,
      outcome = result.map .committed ∧ CommitExit call result after
  | revoke _, outcome, after => outcome = .ok (.revoked true) →
      context.hasLifecycleStore = true → after.work.stored = some .revoked
  | _, _, _ => True

end EngineCall

variable {context : EngineContext}

/-! ### Recovery -/

theorem audit_is_recording_free (call : RecoveryCall) (work : Work) (record : AuditRecord) :
    EngineCall.recoverAdmits context call work (.audit record) := trivial

theorem recording_is_admitted {call : RecoveryCall} {work : Work} (found : work.evidence = true)
    {op : EngineOp} (within : recordingOp context call.manifest op) :
    EngineCall.recoverAdmits context call work op := by
  cases op with
  | audit record => trivial
  | adapter identity inner => exact within.elim
  | _ => exact ⟨found, within⟩

/-- Only another probe of the adapter could change the evidence. -/
theorem recording_keeps_evidence {manifest : EffectManifest} {subject : String} {work : Work}
    {op : EngineOp} (within : recordingOp context manifest op)
    (reply : Except PyError (EngineReply op)) :
    (work.observe subject op reply).evidence = work.evidence := by
  have only := work.observe_only subject op reply
  cases op with
  | grants inner =>
      obtain ⟨_, _, same⟩ := only
      rw [same]
  | outbox inner =>
      obtain ⟨_, same⟩ := only
      rw [same]
  | now => rw [show work.observe subject .now reply = work from only]
  | audit record => rw [show work.observe subject (.audit record) reply = work from only]
  | «recall» manifestId =>
      obtain ⟨_, _, _, _, same⟩ := only
      rw [same]
  | remember manifestId record =>
      obtain ⟨_, _, _, _, same⟩ := only
      rw [same]
  | lifecycle inner =>
      obtain ⟨_, _, _, _, same⟩ := only
      rw [same]
  | _ => exact within.elim

theorem record_recovered_conforms (call : RecoveryCall) (proof : OutcomeProof)
    {progress : Progress} (found : progress.work.evidence = true) :
    Conforms (EngineCall.spec context (.recover call))
      (fun _ after => after.work.evidence = true)
      (recordRecovered context call.manifest proof) progress := by
  apply (record_recovered_uses context call.manifest proof).conforms
  · exact fun current op held within => recording_is_admitted held within
  · intro current op reply held within
    exact (recording_keeps_evidence within reply).trans held
  · exact found

theorem recover_conforms (call : RecoveryCall) :
    Conforms (EngineCall.spec context (.recover call)) (fun _ _ => True)
      (recoverAmbiguousCommit context call) {} := by
  refine Conforms.andThen
    (fun outcome after => ∀ proof, outcome = .ok proof →
      after.work.evidence = proof.matchedExpected)
    ((conforms_perform _ _ _).mpr ⟨⟨rfl, rfl⟩, fun reply _ => ?_⟩)
    (fun proof after held => ?_) (fun _ _ _ => trivial)
  · intro proof same
    subst same
    rfl
  · refine Conforms.andThen
      (fun _ later => later.work.evidence = proof.matchedExpected)
      ((conforms_perform _ _ _).mpr ⟨trivial, fun reply _ => held proof rfl⟩)
      (fun _ later evidence => ?_) (fun _ _ _ => trivial)
    by_cases matched : proof.matchedExpected = true
    · rw [if_pos matched]
      exact (record_recovered_conforms call proof (evidence.trans matched)).mono
        (fun _ _ _ => trivial)
    · rw [if_neg matched]
      trivial

/-! ### Revocation -/

theorem revoke_hosts (call : RevokeCall) :
    Hosts context (EngineCall.spec context (.revoke call)) call.manifestId .revoked
      (fun _ => True) where
  observes := rfl
  steadily := fun _ _ _ expected => expected
  ticks := fun _ => trivial
  audits := fun _ _ => trivial
  recalls := fun _ => rfl
  remembers := fun _ _ => rfl
  gets := fun _ configured => ⟨configured, rfl⟩
  writes := fun _ _ configured _ legal => ⟨configured, rfl, rfl, legal⟩
  stable := fun _ _ _ _ _ held => held

/-- A revocation that reports success has written REVOKED. -/
theorem revoke_conforms (call : RevokeCall) :
    Conforms (EngineCall.spec context (.revoke call))
      (fun outcome after => outcome = .ok true → context.hasLifecycleStore = true →
        after.work.stored = some .revoked)
      (Engine.revoke context call) {} := by
  refine Conforms.andThen (fun _ _ => True)
    ((conforms_perform _ _ _).mpr ⟨rfl, fun _ _ => trivial⟩)
    (fun _ marked _ => ?_) (fun _ _ _ impossible => by cases impossible)
  refine Conforms.andThen (fun _ _ => True)
    ((get_record_writes (revoke_hosts call) marked).mono (fun _ _ _ => trivial))
    (fun record fetched _ => ?_) (fun _ _ _ impossible => by cases impossible)
  by_cases revocable : LifecycleState.isRevocable record.state = true
  · rw [if_pos revocable]
    refine Conforms.andThen _ (transition_writes (revoke_hosts call) _ fetched trivial)
      (fun _ after moved => ?_) (fun _ _ _ impossible => by cases impossible)
    intro _ configured
    obtain ⟨fromState, _, work⟩ := moved
    rw [work]
    exact if_pos configured
  · rw [if_neg revocable]
    refine Conforms.andThen (fun _ _ => True)
      ((conforms_perform _ _ _).mpr ⟨trivial, fun _ _ => trivial⟩)
      (fun _ _ _ impossible => by cases impossible) (fun _ _ _ impossible => by cases impossible)

/-! ### All calls -/

/-- A call that only reports its result conforms as its body does. -/
theorem conforms_report {Value : Type} {spec : Spec EngineOp EngineReply PyError Progress}
    {bodyExit : Except PyError Value → Progress → Prop} {body : Action Value}
    (report : Value → CallResult) {progress : Progress}
    (conforms : Conforms spec bodyExit body progress) :
    Conforms spec (fun outcome after => ∃ result : Except PyError Value,
        outcome = result.map report ∧ bodyExit result after)
      (body >>= fun value => pure (report value)) progress := by
  refine Conforms.andThen bodyExit conforms (fun value after held => ?_)
    (fun error after held => ?_)
  · exact ⟨.ok value, rfl, held⟩
  · exact ⟨.error error, rfl, held⟩

theorem footprint_conforms {allowed : EngineOp → Prop} {Value : Type} {body : Action Value}
    {spec : Spec EngineOp EngineReply PyError Progress} (uses : body.Uses allowed)
    (admits : ∀ progress op, allowed op → spec.admits progress op) (progress : Progress) :
    Conforms spec (fun _ _ => True) body progress :=
  uses.conforms (fun current op _ within => admits current op within)
    (fun _ _ _ _ _ => trivial) trivial

/-- Every call keeps to its protocol whatever it is answered. -/
theorem call_conforms (context : EngineContext) (call : EngineCall) :
    Conforms (call.spec context) (call.exit context) (call.program context) {} := by
  cases call with
  | commit call => exact conforms_report .committed (commit_conforms context call)
  | move manifestId target note =>
      exact (conforms_report .moved (footprint_conforms
        (transition_uses context manifestId target note)
        (fun _ _ within => within) {})).mono (fun _ _ _ => trivial)
  | recover call =>
      exact (conforms_report .recovered (recover_conforms call)).mono (fun _ _ _ => trivial)
  | revoke call =>
      apply (conforms_report .revoked (revoke_conforms call)).mono
      rintro outcome after ⟨result, reported, exits⟩ unaffected configured
      apply exits _ configured
      cases result with
      | ok value =>
          rw [reported] at unaffected
          cases value with
          | true => rfl
          | false => exact absurd unaffected (by simp [Except.map])
      | error error =>
          rw [reported] at unaffected
          exact absurd unaffected (by simp [Except.map])
  | compensate call =>
      exact (conforms_report .compensated (footprint_conforms
        (commit_compensation_uses context call) (fun _ _ within => within) {})).mono
        (fun _ _ _ => trivial)

end KarmaSakshi.Engine
