import KarmaSakshi.Domain.Quorum

/-!
Evidence records and the evaluation of their quality.

A record survives when nothing turns it down.  Of the survivors with one id the latest
counts, of several latest ones the last in the list; the strongest kind among those that
count decides.
-/

namespace KarmaSakshi.Evidence

open KarmaSakshi.Domain Selection

set_option autoImplicit false

/-- The quality ladder. -/
inductive EvidenceKind : Type where
  | unattributed
  | providerClaim
  | adapterReobserve
  | independentLedger
  | witnessAttestation
  deriving DecidableEq

namespace EvidenceKind

def value : EvidenceKind → String
  | unattributed => "unattributed"
  | providerClaim => "provider_claim"
  | adapterReobserve => "adapter_reobserve"
  | independentLedger => "independent_ledger"
  | witnessAttestation => "witness_attestation"

def rank : EvidenceKind → Nat
  | unattributed => 0
  | providerClaim => 1
  | adapterReobserve => 2
  | independentLedger => 3
  | witnessAttestation => 4

theorem rank_injective : Function.Injective rank := by
  intro kind other same
  cases kind <;> cases other <;> first | rfl | cases same

end EvidenceKind

structure EvidenceRecord where
  schemaVersion : String
  evidenceId : String
  manifestHash : String
  kind : EvidenceKind
  sourceSystem : String
  observationMethod : String
  observedAt : Instant
  collectedAt : Instant
  afterStateDigest : Option String
  matchedExpected : Option Bool
  sourcePrincipalId : Option String
  detail : Option String
  evidenceIdBounded : boundedText 256 evidenceId
  sourceSystemBounded : boundedText 256 sourceSystem
  observationMethodBounded : boundedText 256 observationMethod
  manifestHashShape : isDigest manifestHash
  collectedAfterObserved : observedAt ≤ collectedAt

structure EvidencePolicy where
  policyId : String
  policyVersion : String
  maxAgeSeconds : Int
  minKind : EvidenceKind
  requireSourceSystem : Bool
  requireDigest : Bool
  rejectUnattributed : Bool
  maxRecordsConsidered : Nat
  policyIdBounded : boundedText 128 policyId
  policyVersionDotted : '.' ∈ policyVersion.toList
  maxAgeBounded : 1 ≤ maxAgeSeconds ∧ maxAgeSeconds ≤ 86400
  recordsBounded : 1 ≤ maxRecordsConsidered ∧ maxRecordsConsidered ≤ 128

structure EvidenceAssessment where
  acceptable : Bool
  evidencePolicyHash : String
  evidenceSetHash : Option String
  acceptedEvidenceIds : List String
  strongestKind : Option EvidenceKind
  rejectionReasons : List String

/-- What the hash of an accepted evidence set covers. -/
structure EvidenceSet where
  manifestHash : String
  evidencePolicyHash : String
  digest : Option String
  evidenceIds : List String
  strongestKind : Option EvidenceKind

/-- The canonical hashes of policies and evidence sets, and `int(age.total_seconds())` of a
number of microseconds. -/
structure EvidencePrimitives where
  policyDigest : EvidencePolicy → String
  setDigest : EvidenceSet → String
  wholeSeconds : Int → Int

structure EvidenceQuestion where
  manifestHash : String
  expectedAfterStateDigest : Option String
  now : Instant

/-- The characters that `str.strip` removes. -/
def isPySpace (char : Char) : Bool :=
  let code := char.toNat
  (9 ≤ code && code ≤ 13) || (28 ≤ code && code ≤ 32) || code == 0x85 || code == 0xa0 ||
    code == 0x1680 || (0x2000 ≤ code && code ≤ 0x200a) || code == 0x2028 || code == 0x2029 ||
    code == 0x202f || code == 0x205f || code == 0x3000

variable (primitives : EvidencePrimitives) (policy : EvidencePolicy) (question : EvidenceQuestion)

/-- The digest a policy may require of a record. -/
def digestReason (record : EvidenceRecord) : Option String :=
  if policy.requireDigest = false then none
  else
    match record.afterStateDigest with
    | none => some "after_state_digest required"
    | some digest =>
        if digest = "" then some "after_state_digest required"
        else if question.expectedAfterStateDigest ≠ none ∧
            question.expectedAfterStateDigest ≠ some digest then
          some "after_state_digest mismatch"
        else none

/-- `_reject_reason`. -/
def evidenceRejectReason (record : EvidenceRecord) : Option String :=
  if record.manifestHash ≠ question.manifestHash then some "manifest_hash mismatch"
  else if policy.rejectUnattributed ∧ record.kind = .unattributed then
    some "unattributed evidence rejected"
  else if policy.requireSourceSystem ∧ record.sourceSystem.toList.all isPySpace then
    some "source_system required"
  else
    match digestReason policy question record with
    | some reason => some reason
    | none =>
        let age := question.now - record.observedAt
        if policy.maxAgeSeconds * microsPerSecond < age then
          some ("stale evidence age=" ++ toString (primitives.wholeSeconds age) ++ "s")
        else if age < 0 then some "observed_at in the future"
        else if record.kind.rank < policy.minKind.rank then
          some ("kind " ++ record.kind.value ++ " below min_kind=" ++ policy.minKind.value)
        else none

def evidenceSurvivors (records : List EvidenceRecord) : List EvidenceRecord :=
  records.filter (fun record => evidenceRejectReason primitives policy question record = none)

def evidenceRejections (records : List EvidenceRecord) : List String :=
  records.filterMap (fun record =>
    (evidenceRejectReason primitives policy question record).map
      (fun reason => record.evidenceId ++ ":" ++ reason))

/-- `by_id.get(evidence_id)`. -/
def recordOf (byId : List EvidenceRecord) (evidenceId : String) : Option EvidenceRecord :=
  byId.find? (fun kept => kept.evidenceId = evidenceId)

/-- One pass of the loop over the survivors; a key keeps its place in the dictionary. -/
def keepLatest (byId : List EvidenceRecord) (record : EvidenceRecord) : List EvidenceRecord :=
  match recordOf byId record.evidenceId with
  | none => byId ++ [record]
  | some previous =>
      if previous.collectedAt ≤ record.collectedAt then
        byId.map (fun kept => if kept.evidenceId = record.evidenceId then record else kept)
      else byId

def latestById (survivors : List EvidenceRecord) : List EvidenceRecord :=
  survivors.foldl keepLatest []

/-- The key `(kind.value, evidence_id)`. -/
def EvidenceRecord.sortKey (record : EvidenceRecord) : String ×ₗ String :=
  toLex (record.kind.value, record.evidenceId)

def EvidenceRecord.kindRank (record : EvidenceRecord) : Nat := record.kind.rank

def acceptedRecords (survivors : List EvidenceRecord) : List EvidenceRecord :=
  (latestById survivors).mergeSort (fun left right => left.sortKey ≤ right.sortKey)

def strongestKind (accepted : List EvidenceRecord) : Option EvidenceKind :=
  (accepted.argmax EvidenceRecord.kindRank).map EvidenceRecord.kind

/-- The assessment of the records that count and of the reasons for the others. -/
def assessEvidence (accepted : List EvidenceRecord) (rejections : List String) :
    EvidenceAssessment :=
  let strongest := strongestKind accepted
  let acceptable :=
    match strongest with
    | none => false
    | some kind => decide (policy.minKind.rank ≤ kind.rank)
  let nothing := if accepted = [] ∧ rejections = [] then ["no evidence records provided"] else []
  let below :=
    match strongest with
    | none => []
    | some kind =>
        if acceptable then []
        else ["strongest_kind=" ++ kind.value ++ " below min_kind=" ++ policy.minKind.value]
  let acceptedIds := accepted.map EvidenceRecord.evidenceId
  { acceptable
    evidencePolicyHash := primitives.policyDigest policy
    evidenceSetHash := if acceptable then
      some (primitives.setDigest
        { manifestHash := question.manifestHash
          evidencePolicyHash := primitives.policyDigest policy
          digest := question.expectedAfterStateDigest
          evidenceIds := acceptedIds
          strongestKind := strongest })
      else none
    acceptedEvidenceIds := acceptedIds
    strongestKind := strongest
    rejectionReasons := pySorted (rejections ++ nothing ++ below) }

def evaluateEvidenceQuality (records : List EvidenceRecord) : Except PyError EvidenceAssessment :=
  if policy.maxRecordsConsidered < records.length then
    .error ⟨.evidenceBatchTooLarge, "received " ++ toString records.length ++
      " evidence records; max_records_considered=" ++ toString policy.maxRecordsConsidered⟩
  else
    .ok (assessEvidence primitives policy question
      (acceptedRecords (evidenceSurvivors primitives policy question records))
      (evidenceRejections primitives policy question records))

/-! ### The latest record of an id -/

section Latest

variable {record latest : EvidenceRecord} {byId survivors : List EvidenceRecord} {evidenceId : String}

theorem record_of_mem (distinct : (byId.map EvidenceRecord.evidenceId).Nodup) :
    recordOf byId record.evidenceId = some record ↔ record ∈ byId := by
  induction byId with
  | nil => simp [recordOf]
  | cons first rest ih =>
      rw [List.map_cons, List.nodup_cons] at distinct
      rw [recordOf, List.find?_cons]
      by_cases same : first.evidenceId = record.evidenceId
      · have absent : record ∉ rest := fun inside =>
          distinct.1 (same ▸ List.mem_map_of_mem inside)
        simp [same, absent, eq_comm]
      · have differs : record ≠ first := fun equal => same (equal ▸ rfl)
        rw [recordOf] at ih
        simpa [same, differs] using ih distinct.2

theorem keep_latest_new (unknown : recordOf byId record.evidenceId = none) :
    keepLatest byId record = byId ++ [record] := by
  rw [keepLatest, unknown]

theorem keep_latest_known (known : recordOf byId record.evidenceId = some latest) :
    keepLatest byId record =
      if latest.collectedAt ≤ record.collectedAt then
        byId.map (fun kept => if kept.evidenceId = record.evidenceId then record else kept)
      else byId := by
  rw [keepLatest, known]

theorem keep_latest_ids :
    ((keepLatest byId record).map EvidenceRecord.evidenceId) =
      if record.evidenceId ∈ byId.map EvidenceRecord.evidenceId then
        byId.map EvidenceRecord.evidenceId
      else byId.map EvidenceRecord.evidenceId ++ [record.evidenceId] := by
  cases found : recordOf byId record.evidenceId with
  | none =>
      have absent : record.evidenceId ∉ byId.map EvidenceRecord.evidenceId := by
        intro inside
        obtain ⟨kept, member, same⟩ := List.mem_map.mp inside
        exact List.find?_eq_none.mp found kept member (decide_eq_true same)
      rw [keep_latest_new found, if_neg absent, List.map_append, List.map_singleton]
  | some previous =>
      have own : previous.evidenceId = record.evidenceId := by
        have holds := List.find?_some found
        exact of_decide_eq_true holds
      have present : record.evidenceId ∈ byId.map EvidenceRecord.evidenceId :=
        List.mem_map.mpr ⟨previous, List.mem_of_find?_eq_some found, own⟩
      rw [if_pos present, keep_latest_known found]
      split_ifs with later
      · rw [List.map_map]
        apply List.map_congr_left
        intro kept _
        by_cases same : kept.evidenceId = record.evidenceId
        · simp [same]
        · simp [same]
      · rfl

theorem latest_ids_distinct : ((latestById survivors).map EvidenceRecord.evidenceId).Nodup := by
  induction survivors using List.reverseRecOn with
  | nil => exact List.nodup_nil
  | append_singleton front record ih =>
      rw [latestById, List.foldl_append]
      show ((keepLatest (latestById front) record).map EvidenceRecord.evidenceId).Nodup
      rw [keep_latest_ids]
      split_ifs with present
      · exact ih
      · exact List.nodup_append_comm.mp (List.nodup_cons.mpr ⟨present, ih⟩)

theorem record_of_replaced :
    recordOf (byId.map (fun kept =>
        if kept.evidenceId = record.evidenceId then record else kept)) evidenceId =
      if record.evidenceId = evidenceId then (recordOf byId evidenceId).map (fun _ => record)
      else recordOf byId evidenceId := by
  induction byId with
  | nil => simp [recordOf]
  | cons first rest ih =>
      rw [recordOf] at ih
      rw [recordOf, recordOf, List.map_cons, List.find?_cons, List.find?_cons, ih]
      by_cases replaced : first.evidenceId = record.evidenceId
      · by_cases own : record.evidenceId = evidenceId
        · simp [replaced, own]
        · simp [replaced, own, recordOf]
      · by_cases own : record.evidenceId = evidenceId
        · have other : first.evidenceId ≠ evidenceId := own ▸ replaced
          simp [own, other, recordOf]
        · simp [replaced, own, recordOf]

theorem record_of_keep_latest :
    recordOf (keepLatest byId record) evidenceId =
      if record.evidenceId = evidenceId then
        match recordOf byId evidenceId with
        | none => some record
        | some previous =>
            if record.collectedAt < previous.collectedAt then some previous else some record
      else recordOf byId evidenceId := by
  cases found : recordOf byId record.evidenceId with
  | none =>
      rw [keep_latest_new found]
      by_cases own : record.evidenceId = evidenceId
      · rw [own] at found
        rw [if_pos own, found]
        rw [recordOf] at found
        simp [recordOf, own, found]
      · simp [recordOf, own]
  | some previous =>
      rw [keep_latest_known found]
      by_cases own : record.evidenceId = evidenceId
      · rw [own] at found
        rw [if_pos own, found]
        by_cases later : previous.collectedAt ≤ record.collectedAt
        · rw [if_pos later, record_of_replaced, if_pos own, found]
          simp [later]
        · rw [if_neg later, found]
          simp [not_le.mp later]
      · rw [if_neg own]
        split_ifs
        · rw [record_of_replaced, if_neg own]
        · rfl

theorem latest_is_chosen :
    recordOf (latestById survivors) evidenceId =
      chosenOf EvidenceRecord.evidenceId EvidenceRecord.collectedAt survivors.reverse
        evidenceId := by
  induction survivors using List.reverseRecOn with
  | nil => rfl
  | append_singleton front record ih =>
      rw [latestById, List.foldl_append, List.reverse_append, List.reverse_singleton,
        List.singleton_append, chosen_of_cons, ← ih]
      show recordOf (keepLatest (latestById front) record) evidenceId = _
      rw [record_of_keep_latest]
      cases recordOf (latestById front) evidenceId with
      | none => rfl
      | some previous => rfl

/-- What is kept is the chosen record of its id, of the survivors read from the end. -/
theorem mem_latest_by_id : record ∈ latestById survivors ↔
    record ∈ chosen EvidenceRecord.evidenceId EvidenceRecord.collectedAt survivors.reverse := by
  rw [← record_of_mem latest_ids_distinct, latest_is_chosen, mem_chosen]

end Latest

end KarmaSakshi.Evidence
