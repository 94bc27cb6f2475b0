import KarmaSakshi.Domain.ManifestDraft
import KarmaSakshi.Engine.Operations

/-!
The email sandbox and its adapter.

The outbox is the external system of record.  The digest function, the clock and the fresh
identifiers are inputs.
-/

namespace KarmaSakshi.Adapters

open KarmaSakshi.Domain KarmaSakshi.Engine

set_option autoImplicit false

structure EmailRequest where
  actor : Principal
  principal : Principal
  recipients : List String
  subject : String
  body : String
  attachments : List ByteArray
  idempotencyKey : String
  ttlSeconds : Int

structure SentMessage where
  messageId : String
  recipients : List String
  subject : String
  bodyDigest : String
  attachmentDigests : List String
  sentAt : Instant
  deriving DecidableEq

abbrev SandboxOutbox := String → Option SentMessage

/-- The first delivery under a key is kept. -/
def SandboxOutbox.deliver (outbox : SandboxOutbox) (key : String) (message : SentMessage) :
    SentMessage × SandboxOutbox :=
  match outbox key with
  | some existing => (existing, outbox)
  | none => (message, Function.update outbox key (some message))

/-- `text.split(",")`. -/
def splitCommas (text : String) : List String := (text.toList.splitOn ',').map String.ofList

/-- `",".join(items)`. -/
def joinCommas (items : List String) : String := String.intercalate "," items

/-- `sorted` of any strings, by code point. -/
def sortedTexts (items : List String) : List String :=
  items.mergeSort (fun left right => left ≤ right)

namespace EmailSandboxAdapter

def identity : AdapterIdentity := ⟨"email.sandbox", "1.0.0"⟩

/-- What `prepare` takes from its surroundings. -/
structure EmailInputs where
  now : Instant
  manifestId : String
  nonce : String

variable (digestBytes : ByteArray → String)

def preparedParameters (request : EmailRequest) : Dict ParameterValue :=
  let named := Dict.ofItems [
    ("recipients", .text (joinCommas (sortedTexts request.recipients))),
    ("recipient_count", .int request.recipients.length),
    ("subject", .text request.subject),
    ("body_digest", .text (digestBytes request.body.toUTF8)),
    ("attachment_count", .int request.attachments.length)]
  if request.attachments = [] then named
  else named.put "attachment_digests" (.text (joinCommas (request.attachments.map digestBytes)))

def draft (request : EmailRequest) (inputs : EmailInputs) : ManifestDraft where
  manifestId := inputs.manifestId
  effectType := "email.send"
  actor := request.actor
  principal := request.principal
  adapter := identity
  targetResource := "email:" ++ joinCommas (sortedTexts request.recipients)
  parameters := preparedParameters digestBytes request
  beforeStateDigest := none
  stateFingerprint := none
  risk := .medium
  reversibility := .irreversible
  blastRadius := if request.recipients.length ≤ 1 then .singleResource else .boundedSet
  estimatedCost := none
  idempotencyKey := textOr request.idempotencyKey ("email-" ++ digestBytes request.body.toUTF8)
  createdAt := inputs.now
  expiresAt := inputs.now + request.ttlSeconds * microsPerSecond
  nonce := inputs.nonce
  metadata := Dict.empty.put "attachments" (toString request.attachments.length)

/-- The recipients outside the allow-list, each once. -/
def disallowed (allowed : Option (List String)) (request : EmailRequest) : List String :=
  match allowed with
  | none => []
  | some permitted => pySorted (request.recipients.eraseDups.filter (· ∉ permitted))

def prepare (allowed : Option (List String)) (request : EmailRequest) (inputs : EmailInputs) :
    Except PyError EffectManifest :=
  if disallowed allowed request ≠ [] then
    .error ⟨.recipientNotAllowed,
      "recipients not on allow-list: " ++ pyReprList (disallowed allowed request)⟩
  else (draft digestBytes request inputs).build

def validatePreconditions (_ : EffectManifest) : PreconditionResult := ⟨true, none, none⟩

/-- Python's truth of an optional parameter. -/
def truthy : Option ParameterValue → Bool
  | none => false
  | some (.text value) => value ≠ ""
  | some (.int value) => value ≠ 0
  | some (.bool value) => value
  | some .none => false

/-- The attachment digests a manifest names. -/
def attachmentDigests (manifest : EffectManifest) : List String :=
  match manifest.parameters.get "attachment_digests" with
  | some value => if truthy (some value) then splitCommas value.pyStr else []
  | none => []

def messageOf (manifest : EffectManifest) (messageId : String) (now : Instant) :
    Except PyError SentMessage := do
  return { messageId
           recipients := splitCommas (← manifest.textParameter "recipients")
           subject := ← manifest.textParameter "subject"
           bodyDigest := ← manifest.textParameter "body_digest"
           attachmentDigests := attachmentDigests manifest
           sentAt := now }

def commit (outbox : SandboxOutbox) (manifest : EffectManifest) (messageId : String)
    (now : Instant) : Except PyError CommitResult × SandboxOutbox :=
  match outbox manifest.idempotencyKey with
  | some existing =>
      (.ok ⟨true, manifest.idempotencyKey, some existing.messageId,
        some "idempotent delivery: message already in outbox", some existing.bodyDigest⟩, outbox)
  | none =>
      match messageOf manifest messageId now with
      | .error error => (.error error, outbox)
      | .ok message =>
          let (delivered, after) := outbox.deliver manifest.idempotencyKey message
          (.ok ⟨true, manifest.idempotencyKey, some delivered.messageId, none,
            some delivered.bodyDigest⟩, after)

/-- The comparison of `verify`, cut short like Python's `and`. -/
def matchesMessage (manifest : EffectManifest) (message : SentMessage) : Except PyError Bool := do
  let expected := splitCommas (← manifest.textParameter "recipients")
  if message.recipients ≠ expected then return false
  if message.subject ≠ (← manifest.textParameter "subject") then return false
  return message.bodyDigest == (← manifest.textParameter "body_digest")

def verify (outbox : SandboxOutbox) (manifest : EffectManifest) (now : Instant) :
    Except PyError OutcomeProof :=
  match outbox manifest.idempotencyKey with
  | none => .ok ⟨false, now, none, some "no message found in sandbox outbox"⟩
  | some message => do
      let matched ← matchesMessage manifest message
      return ⟨matched, now, some message.bodyDigest, none⟩

def compensate (_ : EffectManifest) : CompensationResult :=
  ⟨false, false, some "email is irreversible once sent; the sandbox does not support recall", none⟩

/-! ### What a prepared manifest says -/

section Prepared

variable {digestBytes : ByteArray → String} {allowed : Option (List String)}
  {request : EmailRequest} {inputs : EmailInputs} {manifest : EffectManifest}

end Prepared

end EmailSandboxAdapter

end KarmaSakshi.Adapters
