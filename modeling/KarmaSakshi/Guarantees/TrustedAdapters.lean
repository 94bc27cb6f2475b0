import KarmaSakshi.Engine.AdapterOperations
import KarmaSakshi.Engine.SagaScenario

/-!
Which operations ask the registry before they call an adapter.

All that are handed an adapter do, but the recovery of an ambiguous commit and the
recovery of a saga step, which hands its adapter on to it.
-/

namespace KarmaSakshi.Guarantees

open EffectProgram KarmaSakshi.Domain KarmaSakshi.Stores KarmaSakshi.Engine

set_option autoImplicit false

/-- A write that may carry what an adapter answered: to the ledger, a lifecycle, the outbox
or a saga run. -/
def Records : HostOp → Prop
  | .saga (.engine (.grants (.recordIdempotentOutcome _ _))) => True
  | .saga (.engine (.grants (.commit _ _ _))) => True
  | .saga (.engine (.remember _ _)) => True
  | .saga (.engine (.lifecycle (.compareAndSet _ _ _))) => True
  | .saga (.engine (.outbox (.markConfirmed _ _))) => True
  | .saga (.engine (.outbox (.markAbandoned _))) => True
  | .saga (.storeRun _ _) => True
  | _ => False

/-- The registry confirms the adapter before any of its methods is called, hence before
anything is recorded of what it answered. -/
structure RegistryGated (adapter : AdapterIdentity)
    (events : List (Event HostOp HostReply PyError)) : Prop where
  confirmed : Mediated (HostCalls adapter) (HostConfirms adapter) events
  recorded : ∀ earlier event later, events = earlier ++ event :: later → Records event.op →
    (∃ answer ∈ earlier, HostCalls adapter answer.op) →
      ∃ confirmation ∈ earlier, HostConfirms adapter confirmation

/-- The operation calls the adapter without the registry: a recovery does, and that of a
saga step does so past its guard. -/
def ProbesUnchecked {Host : Type} (saga : SagaWorld Host) : AdapterOperation → Prop
  | .recoverAmbiguousCommit _ => True
  | .recoverSagaStep step => ∃ run, saga.lookup step.runId = some run ∧
      ∃ index, run.assertCanRecoverStep step.manifestHash = .ok index
  | _ => False

section Proof

variable {context : EngineContext} {adapter : AdapterIdentity} {Value : Type}

theorem mediated_is_gated {events : List (Event HostOp HostReply PyError)}
    (mediated : Mediated (HostCalls adapter) (HostConfirms adapter) events) :
    RegistryGated adapter events := by
  refine ⟨mediated, ?_⟩
  intro earlier event later splits _ answered
  obtain ⟨answer, member, calls⟩ := answered
  obtain ⟨before, after, rfl⟩ := List.append_of_mem member
  obtain ⟨confirmation, inside, confirms⟩ := mediated before answer (after ++ event :: later)
    (by rw [splits, List.append_assoc, List.cons_append]) calls
  exact ⟨confirmation, List.mem_append_left _ inside, confirms⟩

/-! ### Sagas -/

theorem apart_read (runId : String) :
    (getSaga runId).Uses (fun op => ¬ SagaCalls adapter op) := by
  refine Program.Uses.after not_false (fun found => ?_)
  cases found <;> trivial

theorem apart_report {runId : String} {run : SagaRun} {record : AuditRecord}
    {rest : SagaAction Value} (apart : rest.Uses (fun op => ¬ SagaCalls adapter op)) :
    (storeSaga runId run >>= fun _ => tell (.audit record) >>= fun _ => rest).Uses
      (fun op => ¬ SagaCalls adapter op) := by
  refine Program.Uses.after not_false (fun _ => ⟨not_false, fun reply => ?_⟩)
  cases reply with
  | ok _ => exact apart
  | error _ => trivial

theorem commit_careful (configured : context.hasAdapterRegistry = true) (call : CommitCall) :
    Careful (Calls call.adapter) (Confirms call.adapter) (commit context call) :=
  (gates_check configured call).before.careful

theorem verify_careful (configured : context.hasAdapterRegistry = true) (call : VerifyCall) :
    Careful (Calls call.adapter) (Confirms call.adapter) (verify context call) :=
  (trusted_adapter_checks configured _).before.careful

theorem commit_step_careful (configured : context.hasAdapterRegistry = true) (step : CommitStep) :
    Careful (SagaCalls step.adapter) (SagaConfirms step.adapter) (commitSagaStep context step) := by
  refine Careful.bind (careful_of_uses (apart_read _)) (fun run => ?_)
  by_cases mismatch : step.causalGraph.canonicalHash context.crypto ≠ run.plan.causalGraphHash
  · rw [if_pos mismatch]
    exact careful_of_uses trivial
  · rw [if_neg mismatch]
    refine Careful.bind (careful_of_uses (Program.uses_settle _ _)) (fun _ => ?_)
    by_cases foreign : step.manifestHash ∉ run.plan.stepManifestHashes
    · rw [if_pos foreign]
      exact careful_of_uses trivial
    · rw [if_neg foreign]
      by_cases ambiguous : step.ambiguous = true
      · rw [if_pos ambiguous]
        exact careful_of_uses (Program.Uses.bind (Program.uses_settle _ _)
          (fun updated => apart_report trivial))
      · rw [if_neg ambiguous]
        refine Careful.attempt (careful_within (commit_careful configured step.call))
          (fun outcome => ?_)
        cases outcome with
        | ok result =>
            exact careful_of_uses (Program.Uses.bind (Program.uses_settle _ _)
              (fun updated => apart_report trivial))
        | error error =>
            refine careful_of_uses ?_
            show (step.settleRaised run error).Uses _
            unfold CommitStep.settleRaised
            by_cases fails : failsStep error = true
            · rw [if_pos fails]
              exact Program.Uses.bind (Program.uses_settle _ _) (fun updated => apart_report trivial)
            · rw [if_neg fails]
              trivial

theorem verify_step_careful (configured : context.hasAdapterRegistry = true) (step : VerifyStep) :
    Careful (SagaCalls step.call.adapter) (SagaConfirms step.call.adapter)
      (verifySagaStep context step) := by
  refine Careful.bind (careful_of_uses (apart_read _)) (fun run => ?_)
  refine Careful.bind (careful_within (verify_careful configured step.call)) (fun proof => ?_)
  refine careful_of_uses ?_
  by_cases matched : proof.matchedExpected = true
  · rw [if_pos matched]
    exact Program.Uses.bind (Program.uses_settle _ _) (fun updated => apart_report trivial)
  · rw [if_neg matched]
    trivial

theorem prepare_careful (configured : context.hasAdapterRegistry = true)
    (adapter : AdapterIdentity) :
    Careful (HostCalls adapter) (HostConfirms adapter) (prepare context adapter) :=
  (checks_in_engine (known_adapter_checks configured)).before.careful

/-- The result is left out. -/
theorem careful_ends {program : HostAction Value}
    (careful : Careful (HostCalls adapter) (HostConfirms adapter) program) :
    Careful (HostCalls adapter) (HostConfirms adapter) (do let _ ← program; pure ()) :=
  careful.bind (fun _ => careful_of_uses trivial)

/-! ### The recoveries -/

/-- A recovery of a saga step that its guard refuses calls nothing. -/
theorem refused_recovery_is_mediated {Host : Type} [DecidableEq Host]
    {environment : HostEnvironment} {host : Host} {step : RecoverStep}
    {saga after : SagaWorld Host} {events : List (Event HostOp HostReply PyError)}
    {rest : HostAction Unit} (refused : ¬ ProbesUnchecked saga (.recoverSagaStep step))
    (run : Steps (environment.answers host)
      ((AdapterOperation.recoverSagaStep step).program context) saga events rest after) :
    Mediated (HostCalls step.adapter) (HostConfirms step.adapter) events := by
  have stopped : ∀ error : PyError, Careful (HostCalls step.adapter) (HostConfirms step.adapter)
      (.raised error : HostAction Unit) := fun _ => careful_of_uses trivial
  rcases Steps.first run with rfl | ⟨reply, current, later, rfl, told, remaining⟩
  · exact mediated_nil
  · obtain ⟨rfl, rfl⟩ := told
    apply Mediated.cons _ not_false
    cases found : current.lookup step.runId with
    | none =>
        rw [found] at remaining
        exact (stopped _).mediated remaining
    | some sagaRun =>
        rw [found] at remaining
        cases guarded : sagaRun.assertCanRecoverStep step.manifestHash with
        | ok index => exact absurd ⟨sagaRun, found, index, guarded⟩ refused
        | error error =>
            change Steps _ (inSaga (Program.settle (sagaRun.assertCanRecoverStep step.manifestHash)
              >>= _) >>= _) _ _ _ _ at remaining
            rw [guarded] at remaining
            exact (stopped error).mediated remaining

/-- The recoveries call their adapter first thing. -/
theorem unchecked_probe {Host : Type} [DecidableEq Host] (host : Host) {saga : SagaWorld Host}
    {operation : AdapterOperation} (probes : ProbesUnchecked saga operation) :
    ∃ (environment : HostEnvironment) (events : List (Event HostOp HostReply PyError))
      (rest : HostAction Unit) (after : SagaWorld Host),
      Steps (environment.answers host) (operation.program context) saga events rest after ∧
        ¬ RegistryGated operation.adapter events := by
  let environment : HostEnvironment :=
    { components := Payment.prompt.environment, prepares := fun _ _ _ => False }
  have answers : ∀ adapter manifest result, ∃ reply, environment.answers host saga
      (.saga (.engine (.adapter adapter (.verify manifest result)))) reply saga :=
    fun _ _ _ => ⟨_, ⟨⟨rfl, rfl⟩, rfl⟩⟩
  cases operation with
  | recoverAmbiguousCommit call =>
      obtain ⟨reply, told⟩ := answers call.adapter call.manifest (recoveryProbe call.manifest)
      refine ⟨environment, _, _, _, Steps.one told, ?_⟩
      intro gated
      obtain ⟨_, impossible, _⟩ := gated.confirmed [] _ [] rfl rfl
      cases impossible
  | recoverSagaStep step =>
      obtain ⟨run, found, index, guarded⟩ := probes
      obtain ⟨reply, told⟩ := answers step.adapter step.sealed.manifest
        (recoveryProbe step.sealed.manifest)
      have read : environment.answers host saga (.saga (.readRun step.runId)) (.ok (some run))
          saga := ⟨by rw [found], rfl⟩
      have probed : ∃ rest, Steps (environment.answers host)
          ((AdapterOperation.recoverSagaStep step).program context) saga
          ([⟨.saga (.readRun step.runId), .ok (some run)⟩] ++
            [⟨.saga (.engine (.adapter step.adapter (.verify step.sealed.manifest
              (recoveryProbe step.sealed.manifest)))), reply⟩]) rest saga := by
        apply Exists.intro
        apply (Steps.one read).trans
        change Steps _ (inSaga (Program.settle (run.assertCanRecoverStep step.manifestHash)
          >>= _) >>= _) _ _ _ _
        rw [guarded]
        exact Steps.one told
      obtain ⟨rest, probed⟩ := probed
      refine ⟨environment, _, rest, saga, probed, ?_⟩
      intro gated
      obtain ⟨permit, member, confirms⟩ := gated.confirmed
        [⟨.saga (.readRun step.runId), .ok (some run)⟩] _ [] rfl rfl
      obtain rfl := List.mem_singleton.mp member
      exact confirms.elim
  | _ => exact probes.elim

theorem checked_operation_is_mediated (configured : context.hasAdapterRegistry = true)
    {Host : Type} [DecidableEq Host] {environment : HostEnvironment} {host : Host}
    {saga after : SagaWorld Host} {operation : AdapterOperation}
    {events : List (Event HostOp HostReply PyError)} {rest : HostAction Unit}
    (checked : ¬ ProbesUnchecked saga operation)
    (run : Steps (environment.answers host) (operation.program context) saga events rest after) :
    Mediated (HostCalls operation.adapter) (HostConfirms operation.adapter) events := by
  cases operation with
  | prepare adapter => exact (careful_ends (prepare_careful configured adapter)).mediated run
  | commit call =>
      exact (careful_ends (careful_in_engine (commit_careful configured call))).mediated run
  | verify call =>
      exact (careful_ends (careful_in_engine (verify_careful configured call))).mediated run
  | compensate call =>
      exact (careful_ends (careful_in_engine
        (trusted_adapter_checks configured _).before.careful)).mediated run
  | commitCompensation call =>
      exact (careful_ends (careful_in_engine
        (compensation_gates_check configured call).before.careful)).mediated run
  | recoverAmbiguousCommit call => exact absurd trivial checked
  | commitSagaStep step =>
      exact (careful_ends (careful_in_saga (commit_step_careful configured step))).mediated run
  | verifySagaStep step =>
      exact (careful_ends (careful_in_saga (verify_step_careful configured step))).mediated run
  | recoverSagaStep step => exact refused_recovery_is_mediated checked run

end Proof

/-- An operation is gated by the registry in every run, finished or not, if and only if it
is no recovery, or one of a saga step that its guard refuses. -/
theorem registry_gates_iff {context : EngineContext} (configured : context.hasAdapterRegistry = true)
    {Host : Type} [DecidableEq Host] (host : Host) (saga : SagaWorld Host)
    (operation : AdapterOperation) :
    (∀ (environment : HostEnvironment) events rest after,
      Steps (environment.answers host) (operation.program context) saga events rest after →
        RegistryGated operation.adapter events) ↔ ¬ ProbesUnchecked saga operation := by
  constructor
  · intro gated probes
    obtain ⟨environment, events, rest, after, run, ungated⟩ := unchecked_probe host probes
    exact ungated (gated environment events rest after run)
  · intro checked environment events rest after run
    exact mediated_is_gated (checked_operation_is_mediated configured checked run)

/-! ### A revoked adapter -/

namespace RevokedAdapter

def context : EngineContext := { Payment.context with hasAdapterRegistry := true }

def entry : RegistryEntry where
  capability := ⟨"payments", "1.0.0", ["payment.transfer"]⟩
  revoked := true
  revokeReason := some "compromised"

/-- A transfer that failed, and a registry in which its adapter is revoked. -/
def world : World Unit :=
  { Payment.emptyWorld Unit with
    lifecycle := .memory ⟨fun _ => some .failed⟩
    registry := ⟨fun _ _ => some entry⟩
    effects := [Payment.transfer] }

def recovery : RecoveryCall := ⟨Payment.transfer, Payment.adapter⟩

def saga : SagaWorld Unit := ⟨world, []⟩

theorem configured : context.hasAdapterRegistry = true := rfl

/-- What the recovery makes of the answer of the revoked adapter. -/
def recovered : Except PyError OutcomeProof × World Unit :=
  (recoverAmbiguousCommit context recovery).run (Payment.prompt.serve ()) world

end RevokedAdapter

/-- A recovery believes a revoked adapter: its evidence enters the ledger and makes the
manifest RECOVERED_COMMITTED. -/
theorem revoked_adapter_is_believed :
    (∃ (environment : HostEnvironment) (events : List (Event HostOp HostReply PyError))
      (rest : HostAction Unit) (after : SagaWorld Unit),
      Steps (environment.answers ()) ((AdapterOperation.recoverAmbiguousCommit
        RevokedAdapter.recovery).program RevokedAdapter.context) RevokedAdapter.saga events rest
          after ∧ ¬ RegistryGated Payment.adapter events) ∧
    (recoverAmbiguousCommit RevokedAdapter.context RevokedAdapter.recovery).Yields
      (Payment.prompt.environment.answers ()) RevokedAdapter.world RevokedAdapter.recovered.1
      RevokedAdapter.recovered.2 ∧
    (RevokedAdapter.recovered.2.grants.serve (.getIdempotentOutcome "pay-key")).1 =
      .ok (some "recovered-externally") ∧
    (RevokedAdapter.recovered.2.records () "mf-1").map LifecycleRecord.state =
      some .recoveredCommitted := by
  have probes : ProbesUnchecked RevokedAdapter.saga
      (.recoverAmbiguousCommit RevokedAdapter.recovery) := trivial
  refine ⟨unchecked_probe () probes, Program.run_yields (Payment.prompt.serves ()) _ _, ?_, ?_⟩
  · rfl
  · rfl

/-- A commit through the same revoked adapter never reaches it. -/
theorem commit_of_revoked_adapter_is_gated :
    RevokedAdapter.context.hasAdapterRegistry = true ∧
    ∀ (environment : HostEnvironment) events rest after,
      Steps (environment.answers ()) ((AdapterOperation.commit (Payment.commitOf
        Payment.sealedTransfer Payment.transferGrant)).program RevokedAdapter.context)
        RevokedAdapter.saga events rest after →
          RegistryGated Payment.adapter events :=
  ⟨RevokedAdapter.configured, (registry_gates_iff RevokedAdapter.configured () RevokedAdapter.saga
    (.commit (Payment.commitOf Payment.sealedTransfer Payment.transferGrant))).mpr
      (fun probes => probes)⟩

end KarmaSakshi.Guarantees
