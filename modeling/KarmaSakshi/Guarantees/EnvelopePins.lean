import KarmaSakshi.Domain.EnvelopeAttenuation
import KarmaSakshi.Engine.OpenGates
import KarmaSakshi.Engine.SagaScenario

/-!
Envelopes that pin a plan.

An envelope may name a causal graph, and a grant issued under it carries the hash
of the envelope alone.  `commit` looks at the plan only where the grant itself
names one, so such a grant is committed without the graph: the pin holds of a call
only if the caller presents the graph unasked, or the call is refused anyway.
-/

namespace KarmaSakshi.Guarantees

open EffectProgram KarmaSakshi.Domain KarmaSakshi.Engine

set_option autoImplicit false

/-- The call presents a verified graph with the hash that the envelope pins, and the
manifest is in it. -/
def PlanPresented (context : EngineContext) (call : CommitCall) (envelope : DecisionEnvelope) :
    Prop :=
  ∀ pinned, envelope.causalGraphHash = some pinned → ∃ graph, call.causalGraph = some graph ∧
    graph.canonicalHash context.crypto = pinned ∧
    graph.verify context.crypto context.keyring = .ok () ∧
    call.manifestHash ∈ graph.nodeManifestHashes

/-- Whatever the components answer, a run of the commit that invokes the adapter
had the plan of the envelope presented. -/
def PinHeld (context : EngineContext) (call : CommitCall) (envelope : DecisionEnvelope) : Prop :=
  ∀ (World : Type) (handler : Handler EngineOp EngineReply PyError World) (before after : World)
    (events : List EngineEvent) (rest : Action CommitResult),
    Steps handler (commit context call) before events rest after →
      (∃ event ∈ events, Invokes call.adapter event.op) → PlanPresented context call envelope

theorem pin_held_of_reach {context : EngineContext} {call : CommitCall}
    {envelope : DecisionEnvelope} :
    PinHeld context call envelope ↔
      ((commit context call).MayIssue (Invokes call.adapter) →
        PlanPresented context call envelope) :=
  every_run_iff ⟨.runtimeError, ""⟩

section Issued

variable {context : EngineContext} {readers : PayloadReaders} {asked : AuthorizeCall}
  {envelope : DecisionEnvelope} {World : Type}
  {handler : Handler EngineOp EngineReply PyError World} {world after : World}
  {grant : ExecutionGrant}

/-- A grant issued under an envelope names no plan of its own. -/
theorem envelope_grant_is_planless
    (issued : (authorizeWithEnvelope context readers asked envelope).Yields handler world
      (.ok grant) after) : grant.causalGraphHash = none := by
  obtain ⟨_, _, rfl⟩ := authorize_with_envelope_returns issued
  rfl

/-- The pin of an envelope holds of a commit under its grant exactly when the caller
presents the graph of its own accord, or the arguments let no commit through. -/
theorem envelope_pin_held_iff {call : CommitCall}
    (issued : (authorizeWithEnvelope context readers asked envelope).Yields handler world
      (.ok grant) after)
    (under : call.grant = grant) :
    PinHeld context call envelope ↔
      PlanPresented context call envelope ∨ ¬ OpenCall context call := by
  have planless : GraphPasses context call := by
    intro hash binds
    rw [under, envelope_grant_is_planless issued] at binds
    cases binds
  rw [pin_held_of_reach, commit_may_invoke, and_iff_left planless]
  exact imp_iff_or_not

end Issued

/-! ### A transfer under an envelope that pins a plan -/

namespace Pinned

def envelopeHash : String :=
  "sha256:e8d411aad24d11fb6c5e4cbd250d5cce7dbf672b9911d36c72a8204241fd7f32"

def envelopeSignature : String :=
  "jzZIOSArquwUuEZDqvCRf7XuKI+CZiNn5tBkZB99T59+FffDj6HQ9F6GTdONuOtgqwvfLdA3fb/xjhoUoLLMBg=="

def grantHash : String :=
  "sha256:424dfbc6f6959c4cc8f198fac8236f10171fb2d3aac9e894f20916da062cc631"

def grantSignature : String :=
  "glsgnPCJDrRXsBql8PuSnZSWIBc7P8N4N/YWi1FgrB+LjvE76G3UTkwuY0UW8x01diCgi8AvtRQAfwDbRFcuBg=="

/-- Transfers to one account, as part of one plan. -/
def envelope : DecisionEnvelope where
  schemaVersion := "1.0"
  envelopeId := "envelope-1"
  effectType := "payment.transfer"
  adapter := Payment.adapter
  targetResources := ["acct/100"]
  parameterConstraints := .empty
  forbidUnknownParameters := true
  requireAllConstrainedParameters := true
  maxEstimatedCost := none
  causalGraphHash := some TransferSaga.graphHash
  issuer := Payment.treasury
  createdAt := Payment.opening
  notBefore := Payment.opening
  expiresAt := Payment.closing
  nonce := "nonce-envelope-1"
  keyId := "issuer-key"
  signature := some envelopeSignature
  targetResourcesNonempty := Payment.payee_listed
  windowOpen := Payment.transfer.windowOpen

/-- SHA-256 and Ed25519 on the values of this scenario. -/
def crypto : CryptoPrimitives :=
  { TransferSaga.crypto with
    grantDigest := fun _ => grantHash
    decisionEnvelopeDigest := fun _ => envelopeHash
    ed25519Verify := fun publicKey data signature =>
      publicKey == Payment.issuerKey.publicKey &&
        [(Payment.transferHash, Payment.sealedTransfer.seal.signature),
          (envelopeHash, envelopeSignature), (grantHash, grantSignature)].contains
          (data, signature) }

def context : EngineContext := { Payment.context with crypto }

def asked : AuthorizeCall :=
  { TransferSaga.authorizing.call with
    signingKey := ⟨"issuer-key", fun _ => grantSignature⟩
    grantId := some "grant-9"
    nonce := some "nonce-grant-9" }

/-- The commit presents the envelope, and a graph or none. -/
def commitWith (grant : ExecutionGrant) (graph : Option CausalEffectGraph) : CommitCall :=
  { Payment.commitOf Payment.sealedTransfer grant with
    decisionEnvelope := some envelope
    causalGraph := graph }

def handler : Handler EngineOp EngineReply PyError (World Unit) :=
  Payment.prompt.environment.answers ()

def request : GrantRequest :=
  { asked.request with decisionEnvelopeHash := some envelopeHash }

theorem seal_verifies : verifySeal crypto Payment.sealedTransfer context.keyring = .ok () :=
  rfl

theorem envelope_verifies :
    verifyDecisionEnvelope crypto envelope context.keyring Payment.noon = .ok () :=
  rfl

theorem transfer_fits : assertManifestFitsEnvelope Payment.transfer envelope = .ok () := by
  refine fits_iff.mpr ⟨rfl, rfl, rfl, List.mem_cons_self, ?_, ?_, ?_, ?_⟩
  · exact fun _ => List.Subset.refl _
  · exact fun _ => List.Subset.refl _
  · intro entry member
    cases member
  · intro cap held
    cases held

theorem request_builds : isError (request.build "issuer-key" Payment.noon) = false := by
  decide +kernel

theorem roles_combine :
    isError (combinedRoles asked Payment.transfer.actor.principalId ["treasury"]) = false := by
  decide +kernel

theorem mint_returns (world : World Unit) : ∃ grant, Program.run (Payment.prompt.serve ())
    (mintGrant context asked request) world = (.ok grant, world) := by
  cases built : request.build "issuer-key" Payment.noon with
  | error error =>
      have builds := request_builds
      rw [built] at builds
      cases builds
  | ok unsigned =>
      refine ⟨signedGrant crypto asked.signingKey unsigned, ?_⟩
      have human : request.issuer.principalType ≠ .agent := by decide
      have issued : Program.run (Payment.prompt.serve ())
          (issueGrant context request asked.signingKey) world =
          (.ok (signedGrant crypto asked.signingKey unsigned), world) := by
        rw [issueGrant, if_neg human]
        refine (run_bind_ok (run_perform _ _ _)).trans ?_
        refine (run_bind_ok (run_settle_ok built _)).trans ?_
        rfl
      rw [mintGrant, run_attempt, issued]
      rfl

theorem envelope_issues : ∃ grant after, (authorizeWithEnvelope context
    TransferSaga.readers.payload asked envelope).Yields handler TransferSaga.start.world
    (.ok grant) after := by
  cases combined : combinedRoles asked Payment.transfer.actor.principalId ["treasury"] with
  | error error =>
      have combines := roles_combine
      rw [combined] at combines
      cases combines
  | ok roles =>
      obtain ⟨grant, minted⟩ := mint_returns TransferSaga.start.world
      obtain ⟨after, moved⟩ : ∃ after, Program.run (Payment.prompt.serve ())
          (moveToAuthorized context asked grant ([("decision_envelope_hash", envelopeHash),
            ("envelope_id", envelope.envelopeId)] ++ asked.policyMetadata ++
              roles.participationMetadata)) TransferSaga.start.world = (.ok (), after) :=
        ⟨_, rfl⟩
      have checked : auditedCheck asked "decision_envelope.authorization_failed" "blocked"
          [("envelope_id", envelope.envelopeId)] (do
            verifyDecisionEnvelope crypto envelope context.keyring Payment.noon
            assertManifestFitsEnvelope Payment.transfer envelope) = pure () := by
        rw [check_then_ok.mpr ⟨envelope_verifies, transfer_fits⟩]
        rfl
      have run : Program.run (Payment.prompt.serve ()) (authorizeWithEnvelope context
          TransferSaga.readers.payload asked envelope) TransferSaga.start.world =
          (.ok grant, after) := by
        refine (run_bind_ok (run_settle_ok seal_verifies _)).trans ?_
        refine (run_bind_ok (run_done _ () _)).trans ?_
        refine (run_bind_ok (run_perform _ _ _)).trans ?_
        refine (run_bind_ok ((congrArg (fun program => Program.run _ program _)
          checked).trans (run_done _ () _))).trans ?_
        refine (run_bind_ok (run_done _ () _)).trans ?_
        refine (run_bind_ok (run_settle_ok combined _)).trans ?_
        refine (run_bind_ok (run_done _ () _)).trans ?_
        refine (run_bind_ok minted).trans ?_
        refine (run_bind_ok moved).trans ?_
        rfl
      have yields := Program.run_yields (Payment.prompt.serves ()) (authorizeWithEnvelope context
        TransferSaga.readers.payload asked envelope) TransferSaga.start.world
      rw [run] at yields
      exact ⟨grant, after, yields⟩

/-- Nothing stands in the way of a commit that presents the envelope alone. -/
theorem commit_is_open {grant : ExecutionGrant} (graph : Option CausalEffectGraph)
    (minted : Minted crypto request asked.signingKey grant) :
    OpenCall context (commitWith grant graph) := by
  obtain ⟨wellFormed, issuedAt, rfl⟩ := minted
  constructor
  case sealHeld => exact seal_verifies
  case grantHeld =>
    have window : Payment.opening ≤ Payment.noon ∧ Payment.noon ≤ Payment.closing := by decide
    have leeway : context.clockSkew.leeway = 0 := rfl
    have supported : assertSupportedSchemaVersion "1.0" = .ok () := rfl
    refine ⟨Payment.noon, check_then_ok.mpr ⟨check_then_ok.mpr ⟨supported, rfl⟩, ?_⟩⟩
    apply grant_window_passes
    · rw [leeway, Int.sub_zero]
      exact window.1
    · rw [leeway, Int.add_zero]
      exact window.2
  case manifestBound => rfl
  case policyHeld =>
    refine ⟨Payment.noon, ?_, ?_⟩
    · intro hash binds
      cases binds
    · intro bundle presented
      cases presented
  case envelopeHeld =>
    refine ⟨Payment.noon, ?_⟩
    intro hash binds
    exact ⟨envelope, rfl, envelope_verifies, Option.some.inj binds, transfer_fits⟩
  case inAudience => exact mem_dedupe_sorted.mpr List.mem_cons_self
  case sameAdapter => rfl
  case registryHeld => exact ⟨⟨fun _ _ => none⟩, fun configured => by cases configured⟩
  case effectAllowed => exact mem_dedupe_sorted.mpr List.mem_cons_self
  case foreignParent => exact fun own => by cases own
  case budgetOpen => exact fun bound => by cases bound

theorem plan_is_presented (grant : ExecutionGrant) :
    PlanPresented context (commitWith grant (some TransferSaga.graph)) envelope := by
  intro pinned pins
  exact ⟨TransferSaga.graph, rfl, Option.some.inj pins, rfl, List.mem_cons_self⟩

end Pinned

/-- With the graph presented unasked, the pin holds. -/
theorem presented_plan_is_held : ∃ grant, PinHeld Pinned.context
    (Pinned.commitWith grant (some TransferSaga.graph)) Pinned.envelope := by
  obtain ⟨grant, after, issued⟩ := Pinned.envelope_issues
  exact ⟨grant, (envelope_pin_held_iff issued rfl).mpr (Or.inl (Pinned.plan_is_presented grant))⟩

/-- A grant issued under an envelope that pins a plan is committed without any plan. -/
theorem pinned_envelope_commits_planless : ∃ grant after,
    (authorizeWithEnvelope Pinned.context TransferSaga.readers.payload Pinned.asked
      Pinned.envelope).Yields Pinned.handler TransferSaga.start.world (.ok grant) after ∧
    Pinned.envelope.causalGraphHash = some TransferSaga.graphHash ∧
    ¬ PinHeld Pinned.context (Pinned.commitWith grant none) Pinned.envelope := by
  obtain ⟨grant, after, issued⟩ := Pinned.envelope_issues
  refine ⟨grant, after, issued, rfl, ?_⟩
  have planless : GraphPasses Pinned.context (Pinned.commitWith grant none) := by
    intro hash binds
    have unbound : grant.causalGraphHash = none := envelope_grant_is_planless issued
    cases unbound.symm.trans binds
  have reaches := commit_may_invoke.mpr
    ⟨Pinned.commit_is_open none (authorize_with_envelope_returns issued), planless⟩
  intro held
  obtain ⟨graph, impossible, _⟩ := pin_held_of_reach.mp held reaches _ rfl
  cases impossible

end KarmaSakshi.Guarantees
