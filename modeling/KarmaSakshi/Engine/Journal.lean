import KarmaSakshi.Engine.Operations
import KarmaSakshi.Stores.Audit

/-!
`AuditJournal.record`: read the tail, build the next event, append it.

The tail may be stale by the time of the append, so the event it yields may come too
late.  The watcher below follows one call through its three steps.
-/

namespace KarmaSakshi.Engine

open EffectProgram KarmaSakshi.Domain KarmaSakshi.Stores

set_option autoImplicit false

/-! ### The call -/

/-- The first entry of the metadata that is too long. -/
def oversizedEntry (metadata : Dict String) : String :=
  ((metadata.entries.find? (fun entry => 64 < entry.1.length || 1024 < entry.2.length)).map
    Prod.fst).getD ""

/-- The constructor of `AuditEvent`, before the event's hash is known. -/
def newEvent (sequence : Int) (eventId : String) (previousHash : Option String)
    (timestamp : Instant) (request : AuditRecord) : Except PyError AuditEvent :=
  let metadata := Dict.ofItems request.metadata
  let bounds : PyError := ⟨.validationError, "must be 1-256 chars"⟩
  if sequencePositive : 1 ≤ sequence then
    if eventIdBounded : boundedText 256 eventId then
      if eventTypeBounded : boundedText 256 request.eventType then
        if decisionBounded : boundedText 256 request.decision then
          if metadataBounded : metadata.entries.length ≤ 32 then
            if entriesBounded : ∀ entry ∈ metadata.entries,
                entry.1.length ≤ 64 ∧ entry.2.length ≤ 1024 then
              .ok { sequence, eventId, previousHash, eventHash := "", timestamp
                    manifestId := request.manifestId, manifestHash := request.manifestHash
                    grantId := request.grantId, actorId := request.actorId
                    eventType := request.eventType, fromState := request.fromState
                    toState := request.toState, decision := request.decision, metadata
                    sequencePositive, eventIdBounded, eventTypeBounded, decisionBounded
                    metadataBounded, entriesBounded }
            else .error ⟨.validationError, "audit event metadata entry " ++
              pyRepr (oversizedEntry metadata) ++ " exceeds size limits"⟩
          else .error ⟨.validationError, "audit event metadata: at most 32 keys permitted"⟩
        else .error bounds
      else .error bounds
    else .error bounds
  else .error ⟨.validationError, "sequence must be >= 1"⟩

/-- `(previous.sequence + 1) if previous else 1`. -/
def nextSequence : Option AuditEvent → Int
  | none => 1
  | some previous => previous.sequence + 1

variable (primitives : AuditPrimitives) (codec : EventCodec) (backend : AuditBackend)

namespace AuditJournal

def record (request : AuditRecord) : AuditAction codec AuditEvent := do
  let previous ← backend.lastEvent codec
  let eventId ← ask .newEventId
  let timestamp ← ask .now
  let event ← Program.settle (newEvent (nextSequence previous) eventId
    (previous.map AuditEvent.eventHash) timestamp request)
  let eventHash ← Program.settle (computeEventHash primitives event)
  let sealed' := { event with eventHash }
  (backend.append codec sealed').attempt (fun
    | .ok _ => .done sealed'
    | .error error =>
        if error.kind = .auditWrite then .raised error
        else .raised ⟨.auditWrite, "failed to durably write audit event " ++ sealed'.eventId⟩)

end AuditJournal

/-! ### Its watcher -/

/-- How far a call has come: the tail it read, and what became of its append. -/
inductive RecordStage : Type where
  | fresh
  | unread
  | told (last : Option codec.Payload)
  | wrote (payload : codec.Payload)
  | refused

/-- The event comes right after the tail that was read. -/
def Continues (last : Option codec.Payload) (event : AuditEvent) : Prop :=
  ∃ previous, readBack codec last = .ok previous ∧
    Follows primitives (previous.map AuditEvent.eventHash) (nextSequence previous) event

def journalAdmits (stage : RecordStage codec) (op : AuditOp codec) : Prop :=
  match op with
  | .newEventId => True
  | .now => True
  | .rollback => True
  | .selectLast => stage = .fresh ∧ backend = .sqlite
  | .indexLast => stage = .fresh ∧ backend = .redis
  | .insertRow sequence payload => backend = .sqlite ∧ ∃ last event, stage = .told last ∧
      sequence = event.sequence ∧ payload = codec.dump event ∧ Continues primitives codec last event
  | .runAppend payload expectedSequence => backend = .redis ∧ ∃ last event, stage = .told last ∧
      expectedSequence = event.sequence ∧ payload = codec.dump event ∧
        Continues primitives codec last event

def journalObserves (stage : RecordStage codec) :
    (op : AuditOp codec) → Except PyError (AuditReply codec op) → RecordStage codec
  | .newEventId, _ => stage
  | .now, _ => stage
  | .rollback, _ => stage
  | .selectLast, .ok last => .told last
  | .selectLast, .error _ => .unread
  | .indexLast, .ok last => .told last
  | .indexLast, .error _ => .unread
  | .insertRow _ payload, .ok _ => .wrote payload
  | .insertRow _ _, .error _ => .refused
  | .runAppend payload _, .ok done => if done = 1 then .wrote payload else .refused
  | .runAppend _ _, .error _ => .refused

def journalSpec : Spec (AuditOp codec) (AuditReply codec) PyError (RecordStage codec) where
  admits := journalAdmits primitives codec backend
  expects := fun _ _ _ => True
  observe := journalObserves codec

section Conformance

variable {primitives codec backend}

end Conformance

end KarmaSakshi.Engine
