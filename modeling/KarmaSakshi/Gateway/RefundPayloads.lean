import KarmaSakshi.Gateway.RefundRuns
import KarmaSakshi.Library.Json

/-!
What is written of the items of the refund journey.

Five models are written and read by pydantic; commit results, outcome proofs and lists are
written and read field by field here.
-/

namespace KarmaSakshi.Gateway

open Json KarmaSakshi.Domain KarmaSakshi.Library
open KarmaSakshi.Engine (CommitResult OutcomeProof)
open KarmaSakshi.Intelligence (EffectAssessment)

set_option autoImplicit false

/-- `model_dump(mode="json")` and `model_validate` of a pydantic model. -/
structure Model (Item : Type) where
  modelDump : Item → Except PyError (Document String)
  modelValidate : Document String → Except PyError Item

/-- The models, and `isoformat` and `fromisoformat` of aware datetimes. -/
structure RefundModels where
  sealedManifest : Model SealedManifest
  assessment : Model EffectAssessment
  grant : Model ExecutionGrant
  policyBundle : Model SealedPolicyBundle
  approvalStatement : Model ApprovalStatement
  isoformat : Instant → String
  fromisoformat : String → Except PyError Instant

def typeError : PyError := ⟨.other "TypeError", "unexpected payload"⟩

/-- The values under these names, if there are no others. -/
def membersNamed (names : List String) : Document String → Except PyError (List (Document String))
  | .object members =>
      if members.length = names.length then
        names.mapM fun name => match members.find? (fun entry => entry.1 = name) with
          | some entry => .ok entry.2
          | none => .error typeError
      else .error typeError
  | _ => .error typeError

def optionPayload : Option String → Document String
  | some text => .text text
  | none => .null

def optionOf : Document String → Except PyError (Option String)
  | .text text => .ok (some text)
  | .null => .ok none
  | _ => .error typeError

def textOf : Document String → Except PyError String
  | .text text => .ok text
  | _ => .error typeError

/-- `_dump_commit_result`. -/
def dumpCommitResult (result : CommitResult) : Document String :=
  .object [("success", .bool result.success), ("idempotency_key", .text result.idempotencyKey),
    ("provider_reference", optionPayload result.providerReference),
    ("detail", optionPayload result.detail),
    ("after_state_digest", optionPayload result.afterStateDigest)]

/-- `_load_commit_result`. -/
def loadCommitResult (payload : Document String) : Except PyError CommitResult := do
  match ← membersNamed ["success", "idempotency_key", "provider_reference", "detail",
      "after_state_digest"] payload with
  | [.bool success, .text idempotencyKey, providerReference, detail, afterStateDigest] =>
      let providerReference ← optionOf providerReference
      let detail ← optionOf detail
      let afterStateDigest ← optionOf afterStateDigest
      pure { success, idempotencyKey, providerReference, detail, afterStateDigest }
  | _ => .error typeError

/-- `_dump_outcome_proof`. -/
def dumpOutcomeProof (isoformat : Instant → String) (proof : OutcomeProof) : Document String :=
  .object [("matched_expected", .bool proof.matchedExpected),
    ("observed_at", .text (isoformat proof.observedAt)),
    ("observed_after_state_digest", optionPayload proof.observedAfterStateDigest),
    ("detail", optionPayload proof.detail)]

/-- `_load_outcome_proof`. -/
def loadOutcomeProof (fromisoformat : String → Except PyError Instant)
    (payload : Document String) : Except PyError OutcomeProof := do
  match ← membersNamed ["matched_expected", "observed_at", "observed_after_state_digest",
      "detail"] payload with
  | [.bool matchedExpected, .text observedAt, observedAfterStateDigest, detail] =>
      let observedAt ← fromisoformat observedAt
      let observedAfterStateDigest ← optionOf observedAfterStateDigest
      let detail ← optionOf detail
      pure { matchedExpected, observedAt, observedAfterStateDigest, detail }
  | _ => .error typeError

def arrayOf {Item : Type} (load : Document String → Except PyError Item) :
    Document String → Except PyError (List Item)
  | .array documents => documents.mapM load
  | _ => .error typeError

namespace RefundModels

variable (models : RefundModels)

/-- What each `persist_*` function passes on. -/
def dumpItem : (map : RefundMap) → map.Item → Except PyError (Document String)
  | .sealedManifests, «sealed» => models.sealedManifest.modelDump «sealed»
  | .assessments, assessment => models.assessment.modelDump assessment
  | .grants, grant => models.grant.modelDump grant
  | .grantsByManifest, grantIds => .ok (.array (grantIds.map .text))
  | .commitResults, result => .ok (dumpCommitResult result)
  | .outcomeProofs, proof => .ok (dumpOutcomeProof models.isoformat proof)
  | .policyBundles, bundle | .approvalPolicyBundles, bundle | .assessmentPolicyBundles, bundle =>
      models.policyBundle.modelDump bundle
  | .approvalStatements, statements => do
      let documents ← statements.mapM models.approvalStatement.modelDump
      pure (.array documents)

/-- What `rehydrate_refund_state` makes of each payload. -/
def loadItem : (map : RefundMap) → Document String → Except PyError map.Item
  | .sealedManifests, payload => models.sealedManifest.modelValidate payload
  | .assessments, payload => models.assessment.modelValidate payload
  | .grants, payload => models.grant.modelValidate payload
  | .grantsByManifest, payload => arrayOf textOf payload
  | .commitResults, payload => loadCommitResult payload
  | .outcomeProofs, payload => loadOutcomeProof models.fromisoformat payload
  | .policyBundles, payload | .approvalPolicyBundles, payload
  | .assessmentPolicyBundles, payload => models.policyBundle.modelValidate payload
  | .approvalStatements, payload => arrayOf models.approvalStatement.modelValidate payload

def payloads : RefundCodec (Document String) where
  dump := models.dumpItem
  load := models.loadItem
  dumpId := optionPayload
  loadId := optionOf

variable {models}

end RefundModels

end KarmaSakshi.Gateway
