import KarmaSakshi.Engine.Scenario
import KarmaSakshi.Evidence.EvidencePack

/-!
Whether a verified evidence pack is about one action.

The verifier compares the hashes of the manifest and the manifests that events name.  It
never compares the manifest id of the pack with the sealed manifest or the passport, takes
events that name no manifest, and never compares the grant with the one in the passport.
-/

namespace KarmaSakshi.Guarantees

open KarmaSakshi.Domain KarmaSakshi.Engine KarmaSakshi.Evidence

set_option autoImplicit false

section Statement

variable (primitives : PackPrimitives) (pack : EvidencePack)

/-- The verifier reports that everything is verified. -/
def AllVerified : Prop :=
  ∃ result, verifyEvidencePack primitives pack = .ok result ∧ result.allVerified = true

/-- Every part of the pack belongs to the same manifest and grant. -/
structure OneAction : Prop where
  sealedId : pack.manifestId = pack.sealedManifest.manifest.manifestId
  passportId : pack.manifestId = pack.passport.manifestId
  eventIds : ∀ event ∈ pack.auditEvents, event.manifestId = some pack.manifestId
  passportHash : pack.passport.manifestHash = pack.sealedManifest.seal.manifestHash
  grantHash : ∀ grant ∈ pack.grant, ∀ hash ∈ grant.manifestHash,
    hash = pack.sealedManifest.seal.manifestHash
  grantId : ∀ grant ∈ pack.grant, pack.passport.grantId = some grant.grantId

/-- Each part passes its own check under the embedded keys. -/
structure Authentic : Prop where
  packHash : pack.computePackHash primitives = pack.packHash
  passportHash : pack.passport.verifyPassportHash primitives.toPassportPrimitives = .ok ()
  signed : ∃ keyring, embeddedKeyring primitives pack = .ok keyring ∧
    verifySeal primitives.crypto pack.sealedManifest keyring = .ok () ∧
    ∀ grant ∈ pack.grant, verifyGrantSignature primitives.crypto grant keyring = .ok ()
  events : verifyEventSelfConsistency primitives.audit pack.auditEvents = .ok ()

/-- The links between the parts that the verifier compares. -/
structure ComparedLinks : Prop where
  eventIds : ∀ event ∈ pack.auditEvents, ∀ manifestId ∈ event.manifestId,
    manifestId = pack.manifestId
  passportHash : pack.passport.manifestHash = pack.sealedManifest.seal.manifestHash
  grantHash : ∀ grant ∈ pack.grant, ∀ hash ∈ grant.manifestHash,
    hash = pack.sealedManifest.seal.manifestHash

/-- The links that it leaves out. -/
structure OmittedLinks : Prop where
  sealedId : pack.manifestId = pack.sealedManifest.manifest.manifestId
  passportId : pack.manifestId = pack.passport.manifestId
  eventsNamed : ∀ event ∈ pack.auditEvents, event.manifestId ≠ none
  grantId : ∀ grant ∈ pack.grant, pack.passport.grantId = some grant.grantId

end Statement

section Proof

variable {primitives : PackPrimitives} {pack : EvidencePack}

/-! ### What the verdict says -/

theorem reported_flag {label : String} {check : Except PyError Unit} {report : Bool × List String}
    (checked : reported label check = .ok report) : report.1 = true ↔ check = .ok () := by
  cases check with
  | ok done =>
      obtain rfl := Except.ok.inj checked
      simp
  | error error =>
      rw [reported] at checked
      by_cases caught : error.isKarmaSakshi = true
      · rw [if_pos caught] at checked
        obtain rfl := Except.ok.inj checked
        simp
      · rw [if_neg caught] at checked
        cases checked

theorem parsed_keyring {parsed : Option Keyring × List String}
    (parses : parsedKeyring primitives pack = .ok parsed) (keyring : Keyring) :
    parsed.1 = some keyring ↔ embeddedKeyring primitives pack = .ok keyring := by
  rw [parsedKeyring] at parses
  cases embedded : embeddedKeyring primitives pack with
  | ok held =>
      rw [embedded] at parses
      obtain rfl := Except.ok.inj parses
      simp
  | error error =>
      simp only [embedded] at parses
      by_cases caught : error.isKarmaSakshi ∨ error.kind = .other "ValueError"
      · rw [if_pos caught] at parses
        obtain rfl := Except.ok.inj parses
        simp
      · rw [if_neg caught] at parses
        cases parses

theorem reported_seal {keyring : Option Keyring} {report : Bool × List String}
    (checked : reportedSeal primitives pack keyring = .ok report) :
    report.1 = true ↔ ∃ held, keyring = some held ∧
      verifySeal primitives.crypto pack.sealedManifest held = .ok () := by
  cases keyring with
  | none =>
      obtain rfl := Except.ok.inj checked
      simp
  | some held => simpa using reported_flag checked

theorem reported_grant {keyring : Keyring} {report : Bool × List String}
    (checked : reportedGrant primitives pack (some keyring) = .ok report) :
    report.1 = true ↔
      ∀ grant ∈ pack.grant, verifyGrantSignature primitives.crypto grant keyring = .ok () := by
  unfold reportedGrant at checked
  split at checked
  · rename_i absent
    obtain rfl := Except.ok.inj checked
    simp [absent]
  · rename_i grant held presented same
    obtain rfl := Option.some.inj same
    simpa [presented] using reported_flag checked
  · rename_i absurdity
    cases absurdity

theorem compared_links : (pack.auditEventsMatchManifest = true ∧
    pack.manifestHashConsistent = true) ↔ ComparedLinks pack := by
  have events : pack.auditEventsMatchManifest = true ↔ ∀ event ∈ pack.auditEvents,
      ∀ manifestId ∈ event.manifestId, manifestId = pack.manifestId := by
    simp only [EvidencePack.auditEventsMatchManifest, List.all_eq_true, List.mem_filterMap,
      decide_eq_true_eq, Option.mem_def]
    constructor
    · intro all event member manifestId named
      exact all manifestId ⟨event, member, named⟩
    · intro all manifestId found
      obtain ⟨event, member, named⟩ := found
      exact all event member manifestId named
  have hashes : pack.manifestHashConsistent = true ↔
      pack.passport.manifestHash = pack.sealedManifest.seal.manifestHash ∧
        ∀ grant ∈ pack.grant, ∀ hash ∈ grant.manifestHash,
          hash = pack.sealedManifest.seal.manifestHash := by
    rw [EvidencePack.manifestHashConsistent, Bool.and_eq_true, decide_eq_true_eq, eq_comm]
    cases pack.grant with
    | none => simp
    | some grant => cases bound : grant.manifestHash <;> simp [bound]
  rw [events, hashes]
  constructor
  · intro both
    exact ⟨both.1, both.2.1, both.2.2⟩
  · intro links
    exact ⟨links.eventIds, links.passportHash, links.grantHash⟩

theorem verified_parts (verified : AllVerified primitives pack) :
    Authentic primitives pack ∧ ComparedLinks pack := by
  obtain ⟨result, returned, all⟩ := verified
  obtain ⟨_, passportChecked, returned⟩ := except_bind_ok returned
  obtain ⟨parsed, parses, returned⟩ := except_bind_ok returned
  obtain ⟨_, sealChecked, returned⟩ := except_bind_ok returned
  obtain ⟨_, grantChecked, returned⟩ := except_bind_ok returned
  obtain ⟨_, eventsChecked, returned⟩ := except_bind_ok returned
  obtain rfl := Except.ok.inj returned
  simp only [compared, Bool.and_eq_true, decide_eq_true_eq] at all
  obtain ⟨⟨⟨⟨⟨⟨packHash, passportFlag⟩, sealFlag⟩, grantFlag⟩, eventsFlag⟩, matching⟩, hashes⟩ := all
  obtain ⟨keyring, held, sealHolds⟩ := (reported_seal sealChecked).mp sealFlag
  rw [held] at grantChecked
  exact ⟨⟨packHash, (reported_flag passportChecked).mp passportFlag,
    ⟨keyring, (parsed_keyring parses keyring).mp held, sealHolds,
      (reported_grant grantChecked).mp grantFlag⟩,
    (reported_flag eventsChecked).mp eventsFlag⟩, compared_links.mp ⟨matching, hashes⟩⟩

theorem reported_passes {label : String} {check : Except PyError Unit} (passes : check = .ok ()) :
    reported label check = .ok (true, []) := by
  rw [passes, reported]

theorem parts_verified (authentic : Authentic primitives pack) (links : ComparedLinks pack) :
    AllVerified primitives pack := by
  obtain ⟨keyring, embedded, sealHolds, grantHolds⟩ := authentic.signed
  have parses : parsedKeyring primitives pack = .ok (some keyring, []) := by
    rw [parsedKeyring, embedded]
  have grants : reportedGrant primitives pack (some keyring) = .ok (true, []) := by
    unfold reportedGrant
    split
    · rfl
    · rename_i grant held presented same
      obtain rfl := Option.some.inj same
      exact reported_passes (grantHolds grant presented)
    · rename_i absurdity
      cases absurdity
  obtain ⟨matching, hashes⟩ := compared_links.mpr links
  refine ⟨_, except_bind_of_ok (reported_passes authentic.passportHash)
    (except_bind_of_ok parses (except_bind_of_ok (reported_passes sealHolds)
      (except_bind_of_ok grants (except_bind_of_ok (reported_passes authentic.events) rfl)))), ?_⟩
  simp [compared, authentic.packHash, matching, hashes]

/-- The verifier accepts exactly the packs of authentic parts whose compared links hold. -/
theorem all_verified_iff :
    AllVerified primitives pack ↔ Authentic primitives pack ∧ ComparedLinks pack :=
  ⟨verified_parts, fun both => parts_verified both.1 both.2⟩

theorem one_action_iff : OneAction pack ↔ ComparedLinks pack ∧ OmittedLinks pack := by
  constructor
  · intro one
    refine ⟨⟨?_, one.passportHash, one.grantHash⟩, one.sealedId, one.passportId, ?_, one.grantId⟩
    · intro event member manifestId named
      exact Option.some.inj (named.symm.trans (one.eventIds event member))
    · intro event member unnamed
      cases unnamed.symm.trans (one.eventIds event member)
  · intro both
    refine ⟨both.2.sealedId, both.2.passportId, ?_, both.1.passportHash, both.1.grantHash,
      both.2.grantId⟩
    intro event member
    obtain ⟨manifestId, named⟩ := Option.ne_none_iff_exists'.mp (both.2.eventsNamed event member)
    rw [named, both.1.eventIds event member manifestId named]

/-- A verified pack is about one action exactly when the links that the verifier leaves out
hold as well. -/
theorem pack_sound_iff (primitives : PackPrimitives) (pack : EvidencePack) :
    (AllVerified primitives pack → OneAction pack) ↔
      (¬ Authentic primitives pack ∨ ¬ ComparedLinks pack ∨ OmittedLinks pack) := by
  rw [all_verified_iff, one_action_iff]
  constructor
  · intro sound
    by_cases authentic : Authentic primitives pack
    · by_cases links : ComparedLinks pack
      · exact Or.inr (Or.inr (sound ⟨authentic, links⟩).2)
      · exact Or.inr (Or.inl links)
    · exact Or.inl authentic
  · intro apart both
    refine ⟨both.2, ?_⟩
    rcases apart with unauthentic | unlinked | omitted
    · exact absurd both.1 unauthentic
    · exact absurd both.2 unlinked
    · exact omitted

/-! ### Packs of the builder -/

/-- What the builder puts together: the ids agree, and every event names the manifest. -/
theorem built_pack {request : PackRequest} (built : buildEvidencePack primitives request = .ok pack) :
    pack.manifestId = pack.sealedManifest.manifest.manifestId ∧
      pack.manifestId = pack.passport.manifestId ∧
      (∀ event ∈ pack.auditEvents, event.manifestId = some pack.manifestId) ∧
      pack.passport = request.passport ∧ pack.grant = request.grant := by
  simp only [buildEvidencePack] at built
  split_ifs at built with relabelled rebound manyEvents manyKeys
  obtain ⟨_, _, final⟩ := except_bind_ok built
  obtain rfl := Except.ok.inj final
  refine ⟨rfl, (not_not.mp relabelled).symm, ?_, rfl, rfl⟩
  intro event member
  exact of_decide_eq_true (List.mem_filter.mp member).2

/-- Of the builder's own packs, only one with a grant that its passport does not name is
accepted wrongly. -/
theorem built_pack_sound {request : PackRequest}
    (built : buildEvidencePack primitives request = .ok pack)
    (named : ∀ grant ∈ request.grant, request.passport.grantId = some grant.grantId) :
    AllVerified primitives pack → OneAction pack := by
  obtain ⟨sealedId, passportId, eventIds, samePassport, sameGrant⟩ := built_pack built
  refine (pack_sound_iff primitives pack).mpr (Or.inr (Or.inr ⟨sealedId, passportId, ?_, ?_⟩))
  · intro event member unnamed
    cases unnamed.symm.trans (eventIds event member)
  · rw [samePassport, sameGrant]
    exact named

end Proof

/-! ### A relabelled pack -/

namespace Relabelled

def passportHash : String :=
  "sha256:98b3dc5739d0343bb013cf17d451c17c85a981d9204b62d8f00863ea411f7e17"

def packHash : String :=
  "sha256:2e39c3cab679259b1a69ec27d66118ebffed33903e3945963e64d8995c7bd3f7"

/-- SHA-256, base64 and Ed25519 on the values of this pack. -/
def primitives : PackPrimitives where
  crypto := Payment.crypto
  audit := ⟨fun _ => "", fun _ => ""⟩
  passportDigest := fun _ => passportHash
  packDigest := fun _ => packHash
  decodeBase64 := some
  encodeBase64 := id
  isRawPublicKey := fun _ => true

/-- The passport of the transfer after its sealing. -/
def passport : ActionPassportV2 where
  generatedAt := Payment.noon
  passportHash := passportHash
  manifestId := "mf-1"
  manifestHash := Payment.transferHash
  effectType := "payment.transfer"
  actor := Payment.agent
  principal := Payment.owner
  targetResource := "acct/100"
  proposedParameters := .empty
  risk := .low
  reversibility := .compensatable
  grantId := none
  authorizedBy := none
  authorizationValidFrom := none
  authorizationValidUntil := none
  authorizationPolicyBundleHash := none
  authorizationApprovalSetHash := none
  authorizationDecisionEnvelopeHash := none
  authorizationCausalGraphHash := none
  wasRevoked := false
  roleParticipation := none
  causalGraphId := none
  causalGraphHash := none
  causalAncestorManifestHashes := []
  causalGraphVerified := none
  commitAttempted := false
  commitSuccess := none
  providerReference := none
  commitDetail := none
  observedMatchedExpected := none
  observedAfterStateDigest := none
  observationDetail := none
  witnessSetHash := none
  witnessPolicyHash := none
  witnessQuorumSatisfied := none
  acceptedWitnessIds := []
  evidenceSetHash := none
  evidencePolicyHash := none
  evidenceAcceptable := none
  evidenceStrongestKind := none
  compensationAttempted := none
  compensationSucceeded := none
  compensationReason := none
  compensationManifestHash := none
  compensationPassportStatus := none
  assessmentId := none
  assessmentScore := none
  assessmentRiskLevel := none
  assessmentRecommendation := none
  assessmentPolicyId := none
  assessmentPolicyHash := none
  assessmentRequiredHumanApprovals := none
  assessmentExplanation := none
  lifecycleState := "sealed"
  verification := ⟨true, true, true, none⟩
  outcomeStatus := .unknown
  tenantId := none

theorem issuer_key_given : Payment.issuerKey.publicKey ≠ "" := by decide

/-- The pack of the first transfer under the id of the other one. -/
def pack : EvidencePack where
  generatedAt := Payment.noon
  packHash := packHash
  manifestId := "mf-2"
  passport := passport
  sealedManifest := Payment.sealedTransfer
  grant := none
  auditEvents := []
  verificationKeys :=
    [⟨"issuer-key", Payment.issuerKey.publicKey, Payment.transferGrant.keyIdBounded,
      issuer_key_given⟩]
  manifestIdBounded := manifest_id_fits Payment.otherTransfer

end Relabelled

/-- The pack under a foreign manifest id is verified in all its parts. -/
theorem relabelled_pack_is_verified : ∃ result,
    verifyEvidencePack Relabelled.primitives Relabelled.pack = .ok result ∧
      result.allVerified = true ∧ result.reasons = [] ∧
      Relabelled.pack.manifestId ≠ Relabelled.pack.sealedManifest.manifest.manifestId :=
  ⟨_, rfl, rfl, rfl, by decide⟩

end KarmaSakshi.Guarantees
