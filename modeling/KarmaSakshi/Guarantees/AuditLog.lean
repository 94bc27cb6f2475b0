import KarmaSakshi.Engine.Journal
import KarmaSakshi.Library.Replay

/-!
The audit log under concurrent writers.

Every call knows a prefix of the log, the one that ended with the tail it read.  The
backends let it append only while that prefix is still the whole log, so the log stays
a chain and a call that comes too late stores nothing.
-/

namespace KarmaSakshi.Guarantees

open EffectProgram KarmaSakshi.Domain KarmaSakshi.Stores KarmaSakshi.Engine

set_option autoImplicit false

variable {Caller : Type} (primitives : AuditPrimitives) (codec : EventCodec)
  (backend : AuditBackend) (requests : Caller → AuditRecord)

variable {primitives codec backend requests}

/-! ### What one append does -/

section Append

variable {store after : AuditStore codec Caller} {events : List AuditEvent} {event : AuditEvent}
  {caller : Caller} {known : Nat} {last : Option codec.Payload}

end Append

/-! ### The invariant -/

section Invariant

/-- What is known of a caller at each stage of its call. -/
def StageHolds (store : AuditStore codec Caller) (events : List AuditEvent) (caller : Caller) :
    RecordStage codec → Prop
  | .fresh => caller ∉ store.writers ∧ caller ∉ store.outrun
  | .unread => caller ∉ store.writers ∧ caller ∉ store.outrun
  | .told last => (caller ∉ store.writers ∧ caller ∉ store.outrun) ∧ ∃ known ≤ events.length,
      last = (events.take known).getLast?.map codec.dump
  | .wrote payload => caller ∉ store.outrun ∧ ∃ (index : Nat) (event : AuditEvent),
      payload = codec.dump event ∧
      events[index]? = some event ∧ store.writers[index]? = some caller
  | .refused => caller ∈ store.outrun → caller ∉ store.writers

/-- The states of a pool of `record` calls. -/
abbrev AuditConfig (codec : EventCodec) (Caller : Type) :=
  Config (AuditOp codec) (AuditReply codec) PyError AuditEvent (AuditStore codec Caller) Caller

/-- The log is a chain, and every caller is where its stage says. -/
structure SoundLog [DecidableEq Caller] (primitives : AuditPrimitives) (codec : EventCodec)
    (backend : AuditBackend) (config : AuditConfig codec Caller) (events : List AuditEvent) :
    Prop where
  holds : Holds backend config.world events
  chained : Chained primitives none 1 events
  paired : config.world.writers.length = events.length
  stages : ∀ caller, StageHolds config.world events caller
    ((journalSpec primitives codec backend).seen .fresh caller config.log)

variable {store : AuditStore codec Caller} {events : List AuditEvent} {event : AuditEvent}
  {caller actor : Caller} {stage : RecordStage codec}

/-- Another caller's event changes nothing for a caller. -/
theorem StageHolds.appended (held : StageHolds store events caller stage) (other : caller ≠ actor)
    {after : AuditStore codec Caller} (writers : after.writers = store.writers ++ [actor])
    (outrun : after.outrun = store.outrun) :
    StageHolds after (events ++ [event]) caller stage := by
  have absent : caller ∉ store.writers → caller ∉ after.writers := by
    intro unwritten
    rw [writers, List.mem_append, List.mem_singleton]
    rintro (inside | same)
    · exact unwritten inside
    · exact other same
  cases stage with
  | fresh => exact ⟨absent held.1, outrun ▸ held.2⟩
  | unread => exact ⟨absent held.1, outrun ▸ held.2⟩
  | told last =>
      obtain ⟨⟨unwritten, inTime⟩, known, within, same⟩ := held
      refine ⟨⟨absent unwritten, outrun ▸ inTime⟩, known, ?_, ?_⟩
      · rw [List.length_append]
        exact within.trans (Nat.le_add_right _ _)
      · rw [same, List.take_append_of_le_length within]
  | wrote payload =>
      obtain ⟨inTime, index, own, dumped, here, writer⟩ := held
      refine ⟨outrun ▸ inTime, index, own, dumped, ?_, ?_⟩
      · rw [List.getElem?_append_left (List.getElem?_eq_some_iff.mp here).1]
        exact here
      · rw [writers, List.getElem?_append_left (List.getElem?_eq_some_iff.mp writer).1]
        exact writer
  | refused => exact fun late => absent (held (outrun ▸ late))

/-- Another caller's late append changes nothing for a caller. -/
theorem StageHolds.outrun (held : StageHolds store events caller stage) (other : caller ≠ actor) :
    StageHolds (store.late actor) events caller stage := by
  have inTime : caller ∉ store.outrun → caller ∉ (store.late actor).outrun := by
    intro absent
    show caller ∉ store.outrun ++ [actor]
    rw [List.mem_append, List.mem_singleton]
    rintro (inside | same)
    · exact absent inside
    · exact other same
  cases stage with
  | fresh => exact ⟨held.1, inTime held.2⟩
  | unread => exact ⟨held.1, inTime held.2⟩
  | told last => exact ⟨⟨held.1.1, inTime held.1.2⟩, held.2⟩
  | wrote payload => exact ⟨inTime held.1, held.2⟩
  | refused =>
      intro late
      by_cases before : caller ∈ store.outrun
      · exact held before
      · exact absurd late (inTime before)

variable [DecidableEq Caller] {config : AuditConfig codec Caller}

/-- After a step the log is sound if it is for the caller that took it and for all others. -/
theorem SoundLog.answered {op : AuditOp codec}
    {resume : Except PyError (AuditReply codec op) →
      Program (AuditOp codec) (AuditReply codec) PyError AuditEvent}
    {reply : Except PyError (AuditReply codec op)} {after : AuditStore codec Caller}
    {extended : List AuditEvent} (holds : Holds backend after extended)
    (chained : Chained primitives none 1 extended)
    (paired : after.writers.length = extended.length)
    (own : StageHolds after extended actor (journalObserves codec
      ((journalSpec primitives codec backend).seen .fresh actor config.log) op reply))
    (others : ∀ caller, caller ≠ actor → StageHolds after extended caller
      ((journalSpec primitives codec backend).seen .fresh caller config.log)) :
    SoundLog primitives codec backend (config.answer actor op resume reply after) extended := by
  refine ⟨holds, chained, paired, ?_⟩
  intro caller
  simp only [Config.answer]
  by_cases same : actor = caller
  · subst same
    rw [seen_own]
    exact own
  · rw [seen_other _ _ _ _ _ _ _ same]
    exact others caller (Ne.symm same)

end Invariant

/-! ### The log -/

namespace AuditRace

/-- A backend that is never cut off. -/
def serve (codec : EventCodec) {Caller : Type} (caller : Caller)
    (store : AuditStore codec Caller) :
    (op : AuditOp codec) → Except PyError (AuditReply codec op) × AuditStore codec Caller
  | .newEventId => (.ok "6f1c2c1e-0d5b-4f0e-9a53-0d8f4b1f6a01", store)
  | .now => (.ok (1767225600000000 : Int), store)
  | .rollback => (.ok (), store)
  | .selectLast => (.ok (store.rows.getLast?.map Prod.snd), store)
  | .indexLast => (.ok store.items.getLast?, store)
  | .insertRow sequence payload =>
      if sequence ∈ store.rows.map Prod.fst then
        (.error ⟨.other "IntegrityError", "UNIQUE constraint failed: audit_events.sequence"⟩,
          store.late caller)
      else (.ok (), store.inserted caller sequence payload)
  | .runAppend payload expectedSequence =>
      if (store.items.length : Int) + 1 ≠ expectedSequence then (.ok (0 : Int), store.late caller)
      else (.ok (1 : Int), store.pushed caller payload)

theorem serves (codec : EventCodec) {Caller : Type} (caller : Caller) :
    Server.Serves (serve codec caller) (auditAnswers codec caller) := by
  intro store op
  cases op with
  | newEventId => rfl
  | now => rfl
  | rollback => rfl
  | selectLast => exact ⟨Or.inl rfl, rfl⟩
  | indexLast => exact ⟨Or.inl rfl, rfl⟩
  | insertRow sequence payload =>
      simp only [auditAnswers, serve]
      by_cases taken : sequence ∈ store.rows.map Prod.fst
      · rw [if_pos taken, if_pos taken]
        exact ⟨⟨_, rfl⟩, rfl⟩
      · rw [if_neg taken, if_neg taken]
        exact Or.inl ⟨rfl, rfl⟩
  | runAppend payload expectedSequence =>
      simp only [auditAnswers, serve]
      by_cases stale : (store.items.length : Int) + 1 ≠ expectedSequence
      · rw [if_pos stale, if_pos stale]
        exact ⟨Or.inl rfl, rfl⟩
      · rw [if_neg stale, if_neg stale]
        exact Or.inl ⟨rfl, rfl⟩

/-- Payloads that are the events themselves. -/
def plain : EventCodec := ⟨AuditEvent, id, .ok, fun _ => rfl⟩

def digest : AuditPrimitives where
  sha256Hex := fun bytes => toString bytes.size
  dateText := Instant.isoformat

def request (caller : Nat) : AuditRecord where
  eventType := "manifest.prepared"
  decision := "allowed"
  manifestId := some (toString caller)
  manifestHash := none
  grantId := none
  actorId := none
  fromState := none
  toState := none
  metadata := []

end AuditRace

end KarmaSakshi.Guarantees
