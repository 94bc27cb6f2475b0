import KarmaSakshi.Domain.AuditEvents
import KarmaSakshi.Library.Selection

/-!
What the hash of the last event of a chain binds.

The hash of an event determines the JSON of every hashed field, the previous hash and
the sequence number among them, so the head hash determines the chain from its end.
-/

namespace KarmaSakshi.Guarantees

open KarmaSakshi.Domain
open Json (Document CodeUnit units ofString)

set_option autoImplicit false

variable {primitives : AuditPrimitives}

/-- Every field has the same JSON. -/
def SameJson (primitives : AuditPrimitives) (first second : AuditEvent) : Prop :=
  first.jsonForm primitives = second.jsonForm primitives

/-! ### What a hash determines -/

/-- The keys of dumps. -/
def fieldKeys : Set (PyKey Empty) := Set.range (fun name => .text (ofString name))

theorem field_keys_apart : Set.InjOn (fun key => units (key.printed stringKeysOnly)) fieldKeys := by
  rintro _ ⟨name, rfl⟩ _ ⟨other, rfl⟩ same
  rw [Json.units_of_string_injective same]

theorem hash_determines_bytes (injective : Function.Injective primitives.sha256Hex)
    {value other : PyValue Empty} {hash : String}
    (hashed : canonicalHash primitives value = .ok hash)
    (otherHashed : canonicalHash primitives other = .ok hash) :
    ∃ tree, Writes stringKeysOnly value tree ∧ Writes stringKeysOnly other tree := by
  unfold canonicalHash at hashed otherHashed
  cases bytes : canonicalJsonBytes stringKeysOnly value with
  | error error =>
      rw [bytes] at hashed
      cases hashed
  | ok text =>
      cases otherBytes : canonicalJsonBytes stringKeysOnly other with
      | error error =>
          rw [otherBytes] at otherHashed
          cases otherHashed
      | ok otherText =>
          rw [bytes] at hashed
          rw [otherBytes] at otherHashed
          have hashes := (Except.ok.inj hashed).trans (Except.ok.inj otherHashed).symm
          have digests : primitives.sha256Hex text = primitives.sha256Hex otherText := by
            have letters := congrArg String.toList hashes
            rw [String.toList_append, String.toList_append] at letters
            exact String.toList_injective (List.append_cancel_left letters)
          rw [injective digests] at bytes
          exact same_bytes_same_tree bytes otherBytes

theorem hashed_names (event : AuditEvent) : (event.hashedFields primitives).map Prod.fst =
    ["sequence", "event_id", "previous_hash", "timestamp", "manifest_id", "manifest_hash",
      "grant_id", "actor_id", "event_type", "from_state", "to_state", "decision", "metadata"] := by
  simp [AuditEvent.hashedFields, AuditEvent.modelDump]

theorem hashed_keys_distinct (event : AuditEvent) :
    (((event.hashedFields primitives).map (fun field =>
      ((PyKey.text (ofString field.1) : PyKey Empty), field.2))).map Prod.fst).Nodup := by
  have keys : ((event.hashedFields primitives).map (fun field =>
      ((PyKey.text (ofString field.1) : PyKey Empty), field.2))).map Prod.fst =
      ((event.hashedFields primitives).map Prod.fst).map
        (fun name => (PyKey.text (ofString name) : PyKey Empty)) := by
    rw [List.map_map, List.map_map]
    rfl
  rw [keys, hashed_names]
  apply List.Nodup.map
  · intro name other same
    exact Json.units_of_string_injective (congrArg units (PyKey.text.inj same))
  · decide

/-- Events of one hash share the JSON of every hashed field. -/
theorem hashed_fields_shared (injective : Function.Injective primitives.sha256Hex)
    {first second : AuditEvent} {hash : String}
    (hashed : computeEventHash primitives first = .ok hash)
    (otherHashed : computeEventHash primitives second = .ok hash) {name : String}
    {value other : PyValue Empty} (member : (name, value) ∈ first.hashedFields primitives)
    (otherMember : (name, other) ∈ second.hashedFields primitives) :
    ∃ tree, Writes stringKeysOnly value tree ∧ Writes stringKeysOnly other tree := by
  obtain ⟨tree, written, otherWritten⟩ := hash_determines_bytes injective hashed otherHashed
  have keyed : ∀ event : AuditEvent, ∀ item ∈ (event.hashedFields primitives).map
      (fun field => ((PyKey.text (ofString field.1) : PyKey Empty), field.2)),
      item.1 ∈ fieldKeys := by
    intro event item inside
    obtain ⟨field, _, rfl⟩ := List.mem_map.mp inside
    exact ⟨field.1, rfl⟩
  exact members_share_trees field_keys_apart (hashed_keys_distinct first) (keyed first)
    (hashed_keys_distinct second) (keyed second) written otherWritten
    (List.mem_map.mpr ⟨_, member, rfl⟩) (List.mem_map.mpr ⟨_, otherMember, rfl⟩)

theorem option_shared {value other : Option String} {tree : Document (List CodeUnit)}
    (written : Writes stringKeysOnly (optionValue value) tree)
    (otherWritten : Writes stringKeysOnly (optionValue other) tree) : value = other := by
  obtain ⟨plain, converted, rfl⟩ := written
  obtain ⟨otherPlain, otherConverted, same⟩ := otherWritten
  cases value with
  | none =>
      obtain rfl := Except.ok.inj converted
      cases other with
      | none => rfl
      | some text =>
          obtain rfl := Except.ok.inj otherConverted
          cases same
  | some text =>
      obtain rfl := Except.ok.inj converted
      cases other with
      | none =>
          obtain rfl := Except.ok.inj otherConverted
          cases same
      | some otherText =>
          obtain rfl := Except.ok.inj otherConverted
          rw [Json.units_of_string_injective (Document.text.inj same)]

theorem event_hash_field {event : AuditEvent} {field : String × PyValue Empty}
    (member : field ∈ event.modelDump primitives) :
    field.1 = "event_hash" ∧ field.2 = textValue event.eventHash ∨
      field ∈ event.hashedFields primitives := by
  by_cases isHash : field.1 = "event_hash"
  · refine Or.inl ⟨isHash, ?_⟩
    have kept : field ∈
        (event.modelDump primitives).filter (fun field => field.1 = "event_hash") :=
      List.mem_filter.mpr ⟨member, decide_eq_true isHash⟩
    have only : (event.modelDump primitives).filter (fun field => field.1 = "event_hash") =
        [("event_hash", textValue event.eventHash)] := by
      simp [AuditEvent.modelDump]
    rw [only] at kept
    rw [List.mem_singleton.mp kept]
  · exact Or.inr (List.mem_filter.mpr ⟨member, decide_eq_true isHash⟩)

theorem same_hash_same_json (injective : Function.Injective primitives.sha256Hex)
    {first second : AuditEvent} (hashed : computeEventHash primitives first = .ok first.eventHash)
    (otherHashed : computeEventHash primitives second = .ok second.eventHash)
    (same : first.eventHash = second.eventHash) :
    first.previousHash = second.previousHash ∧ SameJson primitives first second := by
  have named : computeEventHash primitives second = .ok first.eventHash := by
    rw [same]
    exact otherHashed
  have shared : ∀ {name : String} {value other : PyValue Empty},
      (name, value) ∈ first.hashedFields primitives →
      (name, other) ∈ second.hashedFields primitives →
        ∃ tree, Writes stringKeysOnly value tree ∧ Writes stringKeysOnly other tree :=
    fun member otherMember => hashed_fields_shared injective hashed named member otherMember
  have previous : ∀ event : AuditEvent,
      ("previous_hash", optionValue event.previousHash) ∈ event.hashedFields primitives := by
    intro event
    simp [AuditEvent.hashedFields, AuditEvent.modelDump]
  constructor
  · obtain ⟨tree, written, otherWritten⟩ := shared (previous first) (previous second)
    exact option_shared written otherWritten
  · have names : (first.modelDump primitives).map Prod.fst =
        (second.modelDump primitives).map Prod.fst := rfl
    refine Selection.map_of_same_owners names ?_
    rintro ⟨name, value⟩ member ⟨otherName, other⟩ otherMember rfl
    refine Prod.ext rfl ?_
    rcases event_hash_field member with ⟨rfl, rfl⟩ | inside
    · rcases event_hash_field otherMember with ⟨_, rfl⟩ | otherInside
      · rw [same]
      · exact absurd rfl (of_decide_eq_true (List.mem_filter.mp otherInside).2)
    · rcases event_hash_field otherMember with ⟨isHash, _⟩ | otherInside
      · exact absurd isHash (of_decide_eq_true (List.mem_filter.mp inside).2)
      · obtain ⟨tree, written, otherWritten⟩ := shared inside otherInside
        exact same_tree_same_bytes written otherWritten

/-! ### From the head to the whole chain -/

theorem same_head_same_chain (injective : Function.Injective primitives.sha256Hex)
    {first second : List AuditEvent} (chained : Chained primitives none 1 first)
    (otherChained : Chained primitives none 1 second)
    (same : headHash none first = headHash none second) :
    List.Forall₂ (SameJson primitives) first second := by
  induction first using List.reverseRecOn generalizing second with
  | nil =>
      induction second using List.reverseRecOn with
      | nil => exact .nil
      | append_singleton front last _ => simp [headHash] at same
  | append_singleton front last ih =>
      induction second using List.reverseRecOn with
      | nil => simp [headHash] at same
      | append_singleton otherFront otherLast _ =>
          have hashes : last.eventHash = otherLast.eventHash := by simpa [headHash] using same
          obtain ⟨frontChained, follows⟩ := chained_append_one.mp chained
          obtain ⟨otherFrontChained, otherFollows⟩ := chained_append_one.mp otherChained
          obtain ⟨links, json⟩ :=
            same_hash_same_json injective follows.hashed otherFollows.hashed hashes
          have heads : headHash none front = headHash none otherFront := by
            rw [← follows.previousHash, links, otherFollows.previousHash]
          exact List.rel_append (ih frontChained otherFrontChained heads)
            (.cons json .nil)

/-- Two accepted logs with one head hash are the same, event by event, in the JSON of
every field. -/
theorem head_hash_binds_chain (injective : Function.Injective primitives.sha256Hex)
    {first second : List AuditEvent} {last otherLast : AuditEvent}
    (accepted : verifyEventChain primitives first = .ok ())
    (otherAccepted : verifyEventChain primitives second = .ok ())
    (ends : first.getLast? = some last) (otherEnds : second.getLast? = some otherLast)
    (sameHead : last.eventHash = otherLast.eventHash) :
    List.Forall₂ (SameJson primitives) first second := by
  refine same_head_same_chain injective (verify_iff_chained.mp accepted)
    (verify_iff_chained.mp otherAccepted) ?_
  rw [headHash, headHash, ends, otherEnds, Option.map_some, Option.map_some, sameHead]

/-! ### A log of one event -/

namespace Ledger

def genesis : AuditEvent where
  sequence := 1
  eventId := "6f1c2c1e-0d5b-4f0e-9a53-0d8f4b1f6a01"
  previousHash := none
  eventHash := "sha256:41cf897da4cb6ba557d4bb25f8070381741bca3cb92cb0426d03d281232cd3dd"
  timestamp := 1767225600000000
  manifestId := some "mf-1"
  manifestHash := some "sha256:dde313528cbac6d583f419db06e1f709f4186db725f4ba469e9a007121c3d6b8"
  grantId := none
  actorId := some "agent-1"
  eventType := "manifest.prepared"
  fromState := none
  toState := none
  decision := "allowed"
  metadata := .empty
  sequencePositive := by decide
  eventIdBounded := by decide
  eventTypeBounded := by decide
  decisionBounded := by decide
  metadataBounded := by decide
  entriesBounded := by simp [Dict.empty]

def dateText (instant : Instant) : String :=
  if instant = 1767225600000000 then "2026-01-01T00:00:00Z" else toString instant

/-- The canonical JSON that the event is hashed as. -/
def genesisBytes : ByteArray :=
  ((canonicalJsonBytes stringKeysOnly (AuditEvent.asMapping
    (genesis.hashedFields ⟨fun _ => "", dateText⟩))).toOption).getD .empty

/-- The bytes as a JSON list. -/
def listed (bytes : ByteArray) : Document (List CodeUnit) :=
  .array (bytes.data.toList.map (fun byte => .int byte.toNat))

/-- SHA-256 on that JSON; elsewhere a digest without collisions. -/
def library : AuditPrimitives where
  sha256Hex := fun bytes =>
    if bytes = genesisBytes then "41cf897da4cb6ba557d4bb25f8070381741bca3cb92cb0426d03d281232cd3dd"
    else String.ofList (listed bytes).print
  dateText := dateText

theorem listed_injective : Function.Injective listed := by
  intro bytes other same
  have apart : Function.Injective (fun byte : UInt8 =>
      (.int byte.toNat : Document (List CodeUnit))) := by
    intro byte another sameInt
    exact UInt8.toNat_inj.mp (Int.ofNat.inj (Document.int.inj sameInt))
  have lists := List.map_injective_iff.mpr apart (Document.array.inj same)
  exact ByteArray.ext (Array.toList_inj.mp lists)

theorem digest_injective : Function.Injective library.sha256Hex := by
  have opens : ∀ bytes : ByteArray, String.ofList (listed bytes).print ≠
      "41cf897da4cb6ba557d4bb25f8070381741bca3cb92cb0426d03d281232cd3dd" := by
    intro bytes same
    have heads := congrArg (fun text => text.toList.head?) same
    unfold listed at heads
    cases items : bytes.data.toList with
    | nil =>
        rw [items] at heads
        simp [Document.print] at heads
    | cons first rest =>
        rw [items] at heads
        simp [Document.print] at heads
  intro bytes other same
  simp only [library] at same
  by_cases first : bytes = genesisBytes
  · by_cases second : other = genesisBytes
    · rw [first, second]
    · rw [if_pos first, if_neg second] at same
      exact absurd same.symm (opens other)
  · by_cases second : other = genesisBytes
    · rw [if_neg first, if_pos second] at same
      exact absurd same (opens bytes)
    · rw [if_neg first, if_neg second] at same
      exact listed_injective (Document.print_injective (String.ofList_injective same))

theorem genesis_hashed : canonicalJsonBytes stringKeysOnly
    (AuditEvent.asMapping (genesis.hashedFields library)) = .ok genesisBytes := by
  have plain : ∃ tree, (AuditEvent.asMapping (genesis.hashedFields library)).toPlain
      stringKeysOnly = .ok tree := ⟨_, rfl⟩
  have sameFields : genesis.hashedFields ⟨fun _ => "", dateText⟩ =
      genesis.hashedFields library := rfl
  obtain ⟨tree, converted⟩ := plain
  rw [genesisBytes, sameFields, canonicalJsonBytes, converted]
  rfl

theorem genesis_accepted : verifyEventChain library [genesis] = .ok () := by
  have digest : ∀ bytes, bytes = genesisBytes → library.sha256Hex bytes =
      "41cf897da4cb6ba557d4bb25f8070381741bca3cb92cb0426d03d281232cd3dd" :=
    fun _ same => if_pos same
  rw [verifyEventChain, verify_iff_chained]
  refine ⟨⟨rfl, rfl, ?_⟩, trivial⟩
  rw [computeEventHash, canonicalHash, genesis_hashed]
  show Except.ok ("sha256:" ++ library.sha256Hex genesisBytes) = _
  rw [digest genesisBytes rfl]
  rfl

end Ledger

/-- The log is bound by its own head. -/
theorem genesis_binds_itself :
    List.Forall₂ (SameJson Ledger.library) [Ledger.genesis] [Ledger.genesis] :=
  head_hash_binds_chain Ledger.digest_injective Ledger.genesis_accepted Ledger.genesis_accepted
    rfl rfl rfl

end KarmaSakshi.Guarantees
