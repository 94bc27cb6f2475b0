import KarmaSakshi.Domain.CanonicalForm

/-!
Audit events, their hashes, and the verification of a chain of them.

An event's hash covers every other field of it, the hash of the event before
included.  SHA-256 and the JSON text of a date come from libraries, so both are
parameters.
-/

namespace KarmaSakshi.Domain

open Json (Text Document CodeUnit units ofString)

set_option autoImplicit false

namespace Dict

variable {Value : Type}

/-- `dict[key] = value`, in key order. -/
def putEntry (key : String) (value : Value) : List (String × Value) → List (String × Value)
  | [] => [(key, value)]
  | (first, held) :: rest =>
      if key < first then (key, value) :: (first, held) :: rest
      else if key = first then (key, value) :: rest
      else (first, held) :: putEntry key value rest

theorem put_entry_keys {key other : String} {value : Value} {entries : List (String × Value)}
    (member : other ∈ (putEntry key value entries).map Prod.fst) :
    other = key ∨ other ∈ entries.map Prod.fst := by
  induction entries with
  | nil => exact Or.inl (List.mem_singleton.mp member)
  | cons entry rest ih =>
      obtain ⟨first, held⟩ := entry
      rw [putEntry] at member
      split_ifs at member with before same
      · exact List.mem_cons.mp member
      · rcases List.mem_cons.mp member with isKey | inside
        · exact Or.inl isKey
        · exact Or.inr (List.mem_cons_of_mem _ inside)
      · rcases List.mem_cons.mp member with isFirst | inside
        · exact Or.inr (isFirst ▸ List.mem_cons_self)
        · exact (ih inside).imp_right (List.mem_cons_of_mem _)

theorem put_entry_ordered {key : String} {value : Value} {entries : List (String × Value)}
    (ordered : (entries.map Prod.fst).Pairwise (· < ·)) :
    ((putEntry key value entries).map Prod.fst).Pairwise (· < ·) := by
  induction entries with
  | nil => exact List.pairwise_singleton _ _
  | cons entry rest ih =>
      obtain ⟨first, held⟩ := entry
      obtain ⟨least, restOrdered⟩ := List.pairwise_cons.mp ordered
      rw [putEntry]
      split_ifs with before same
      · refine List.pairwise_cons.mpr ⟨?_, ordered⟩
        intro other member
        rcases List.mem_cons.mp member with rfl | inside
        · exact before
        · exact before.trans (least other inside)
      · rw [same]
        exact ordered
      · refine List.pairwise_cons.mpr ⟨?_, ih restOrdered⟩
        intro other member
        rcases put_entry_keys member with rfl | inside
        · exact lt_of_le_of_ne (not_lt.mp before) (Ne.symm same)
        · exact least other inside

def put (dict : Dict Value) (key : String) (value : Value) : Dict Value :=
  ⟨putEntry key value dict.entries, put_entry_ordered dict.ordered⟩

/-- The dictionary of these items, the last one of each key. -/
def ofItems (items : List (String × Value)) : Dict Value :=
  items.foldl (fun dict item => dict.put item.1 item.2) empty

end Dict

/-- One event of the journal, with what the validators of `AuditEvent` demand.  A
validated string holds characters only, no lone surrogate. -/
structure AuditEvent where
  sequence : Int
  eventId : String
  previousHash : Option String
  eventHash : String
  timestamp : Instant
  manifestId : Option String
  manifestHash : Option String
  grantId : Option String
  actorId : Option String
  eventType : String
  fromState : Option String
  toState : Option String
  decision : String
  metadata : Dict String
  sequencePositive : 1 ≤ sequence
  eventIdBounded : boundedText 256 eventId
  eventTypeBounded : boundedText 256 eventType
  decisionBounded : boundedText 256 decision
  metadataBounded : metadata.entries.length ≤ 32
  entriesBounded : ∀ entry ∈ metadata.entries, entry.1.length ≤ 64 ∧ entry.2.length ≤ 1024

/-- The library functions behind the hashes of events. -/
structure AuditPrimitives where
  sha256Hex : ByteArray → String
  dateText : Instant → String

/-- A dump has string keys only. -/
def stringKeysOnly : Empty → Text := fun key => key.elim

def textValue (text : String) : PyValue Empty := .text (ofString text)

def optionValue : Option String → PyValue Empty
  | none => .none
  | some text => textValue text

def dictValue (dict : Dict String) : PyValue Empty :=
  .mapping (dict.entries.map (fun entry => (.text (ofString entry.1), textValue entry.2)))

variable (primitives : AuditPrimitives)

namespace AuditEvent

/-- `model_dump(mode="json")`, field by field. -/
def modelDump (event : AuditEvent) : List (String × PyValue Empty) :=
  [("sequence", .int event.sequence), ("event_id", textValue event.eventId),
    ("previous_hash", optionValue event.previousHash), ("event_hash", textValue event.eventHash),
    ("timestamp", textValue (primitives.dateText event.timestamp)),
    ("manifest_id", optionValue event.manifestId),
    ("manifest_hash", optionValue event.manifestHash), ("grant_id", optionValue event.grantId),
    ("actor_id", optionValue event.actorId), ("event_type", textValue event.eventType),
    ("from_state", optionValue event.fromState), ("to_state", optionValue event.toState),
    ("decision", textValue event.decision), ("metadata", dictValue event.metadata)]

/-- The fields of a dump as a mapping. -/
def asMapping (fields : List (String × PyValue Empty)) : PyValue Empty :=
  .mapping (fields.map (fun field => (.text (ofString field.1), field.2)))

def hashedFields (event : AuditEvent) : List (String × PyValue Empty) :=
  (event.modelDump primitives).filter (fun field => field.1 ≠ "event_hash")

/-- Each field with its canonical JSON. -/
def jsonForm (event : AuditEvent) : List (String × Except PyError ByteArray) :=
  (event.modelDump primitives).map (fun field =>
    (field.1, canonicalJsonBytes stringKeysOnly field.2))

end AuditEvent

def canonicalHash (value : PyValue Empty) : Except PyError String := do
  let bytes ← canonicalJsonBytes stringKeysOnly value
  .ok ("sha256:" ++ primitives.sha256Hex bytes)

def computeEventHash (event : AuditEvent) : Except PyError String :=
  canonicalHash primitives (AuditEvent.asMapping (event.hashedFields primitives))

/-- The loop of `verify_event_chain`, from what the next event is expected to carry. -/
def verifyEventsFrom (expectedPreviousHash : Option String) (expectedSequence : Int) :
    List AuditEvent → Except PyError Unit
  | [] => .ok ()
  | event :: rest =>
      if event.sequence ≠ expectedSequence then
        .error ⟨.auditTampered, "audit chain sequence gap: expected " ++
          toString expectedSequence ++ ", got " ++ toString event.sequence⟩
      else if event.previousHash ≠ expectedPreviousHash then
        .error ⟨.auditTampered, "audit chain broken at sequence " ++ toString event.sequence ++
          ": previous_hash mismatch"⟩
      else do
        let recomputed ← computeEventHash primitives event
        if recomputed ≠ event.eventHash then
          .error ⟨.auditTampered, "audit event " ++ event.eventId ++ " (sequence " ++
            toString event.sequence ++
            ") was tampered with: recomputed hash does not match stored hash"⟩
        else verifyEventsFrom (some event.eventHash) (expectedSequence + 1) rest

def verifyEventChain (events : List AuditEvent) : Except PyError Unit :=
  verifyEventsFrom primitives none 1 events

/-! ### Accepted chains -/

/-- The event carries the expected sequence and previous hash, and its own hash. -/
structure Follows (previousHash : Option String) (sequence : Int) (event : AuditEvent) : Prop where
  sequence : event.sequence = sequence
  previousHash : event.previousHash = previousHash
  hashed : computeEventHash primitives event = .ok event.eventHash

def Chained (previousHash : Option String) (sequence : Int) : List AuditEvent → Prop
  | [] => True
  | event :: rest => Follows primitives previousHash sequence event ∧
      Chained (some event.eventHash) (sequence + 1) rest

/-- The hash the next event has to name. -/
def headHash (previousHash : Option String) (events : List AuditEvent) : Option String :=
  (events.getLast?.map AuditEvent.eventHash).or previousHash

variable {primitives} {previousHash : Option String} {sequence : Int} {events : List AuditEvent}
  {event : AuditEvent}

theorem verify_iff_chained : verifyEventsFrom primitives previousHash sequence events = .ok () ↔
    Chained primitives previousHash sequence events := by
  induction events generalizing previousHash sequence with
  | nil => exact iff_of_true rfl trivial
  | cons event rest ih =>
      rw [verifyEventsFrom, Chained, ← ih]
      by_cases numbered : event.sequence = sequence
      · by_cases linked : event.previousHash = previousHash
        · rw [if_neg (not_not.mpr numbered), if_neg (not_not.mpr linked)]
          cases computed : computeEventHash primitives event with
          | error error =>
              refine iff_of_false (fun impossible => by cases impossible) (fun both => ?_)
              cases computed.symm.trans both.1.hashed
          | ok recomputed =>
              show (if recomputed ≠ event.eventHash then _ else _) = Except.ok () ↔ _
              by_cases same : recomputed = event.eventHash
              · rw [if_neg (not_not.mpr same)]
                exact ⟨fun accepted => ⟨⟨numbered, linked, by rw [computed, same]⟩, accepted⟩,
                  fun both => both.2⟩
              · rw [if_pos same]
                refine iff_of_false (fun impossible => by cases impossible) (fun both => ?_)
                exact same (Except.ok.inj (computed.symm.trans both.1.hashed))
        · rw [if_neg (not_not.mpr numbered), if_pos linked]
          exact iff_of_false (fun impossible => by cases impossible)
            (fun both => linked both.1.previousHash)
      · rw [if_pos numbered]
        exact iff_of_false (fun impossible => by cases impossible)
          (fun both => numbered both.1.sequence)

theorem head_hash_cons : headHash previousHash (event :: events) =
    headHash (some event.eventHash) events := by
  cases events with
  | nil => rfl
  | cons next rest => rw [headHash, headHash, List.getLast?_cons_cons, List.getLast?_cons]; rfl

theorem chained_append_one : Chained primitives previousHash sequence (events ++ [event]) ↔
    Chained primitives previousHash sequence events ∧
      Follows primitives (headHash previousHash events) (sequence + events.length) event := by
  induction events generalizing previousHash sequence with
  | nil =>
      rw [List.nil_append, Chained, Chained, Chained, headHash, List.getLast?_nil, List.length_nil]
      simp
  | cons first rest ih =>
      rw [List.cons_append, Chained, Chained, ih, head_hash_cons, and_assoc, List.length_cons]
      have counted : sequence + 1 + (rest.length : Int) = sequence + ((rest.length + 1 : Nat) : Int) := by
        omega
      rw [counted]

/-- The sequence numbers of a chain count its events. -/
theorem Chained.numbered (chained : Chained primitives previousHash sequence events) {index : Nat}
    (here : events[index]? = some event) : event.sequence = sequence + index := by
  induction events generalizing previousHash sequence index with
  | nil => cases here
  | cons first rest ih =>
      cases index with
      | zero =>
          obtain rfl := Option.some.inj here
          rw [chained.1.sequence]
          simp
      | succ index =>
          rw [ih chained.2 here]
          omega

end KarmaSakshi.Domain
