import KarmaSakshi.Engine.Scenario
import KarmaSakshi.Evidence.Passports

/-!
What a passport says about the seal of its manifest.

Every builder recomputes the hash of the sealed manifest and leaves its signature alone.
-/

namespace KarmaSakshi.Guarantees

open KarmaSakshi.Domain KarmaSakshi.Engine KarmaSakshi.Evidence

set_option autoImplicit false

section Statement

/-- A call of one of the three builders. -/
inductive PassportCall : Type where
  | action (run : PassportRun)
  | actionV2 (run : PassportRun) (tenantId : Option String)
  | compensation (run : CompensationPassportRun)

inductive BuiltPassport : Type where
  | action (passport : ActionPassport)
  | actionV2 (passport : ActionPassportV2)
  | compensation (passport : CompensationPassport)

/-- The flag that the passport's readers see. -/
def BuiltPassport.sealVerified : BuiltPassport → Bool
  | action passport => passport.verification.sealVerified
  | actionV2 passport => passport.verification.sealVerified
  | compensation passport => passport.sealVerified

namespace PassportCall

/-- The manifest whose seal the passport reports on. -/
def sealedManifest : PassportCall → SealedManifest
  | action run => run.sealed
  | actionV2 run _ => run.sealed
  | compensation run => run.compensationSealed

def keyring : PassportCall → Keyring
  | action run => run.keyring
  | actionV2 run _ => run.keyring
  | compensation run => run.keyring

def build (primitives : PassportPrimitives) : PassportCall → Except PyError BuiltPassport
  | action run => (buildPassport primitives run).map .action
  | actionV2 run tenantId => (buildPassportV2 primitives run tenantId).map .actionV2
  | compensation run => (buildCompensationPassport primitives run).map .compensation

variable (crypto : CryptoPrimitives) (call : PassportCall)

def HashIntact : Prop := call.sealedManifest.verifyIntegrity crypto = .ok ()

/-- The keyring knows the key of the seal, and the signature verifies under it. -/
def SignatureKnown : Prop :=
  call.keyring.verify crypto call.sealedManifest.seal.keyId call.sealedManifest.seal.manifestHash
    call.sealedManifest.seal.signature = .ok ()

end PassportCall

end Statement

section Proof

variable {primitives : PassportPrimitives}

/-- A flag tells whether its check has passed. -/
theorem rechecked_flag {check : Except PyError Unit} {detail : Option String}
    {report : Bool × Option String} (checked : rechecked check detail = .ok report) :
    report.1 = true ↔ check = .ok () := by
  cases check with
  | ok done =>
      obtain rfl := Except.ok.inj checked
      simp
  | error error =>
      rw [rechecked] at checked
      by_cases caught : error.isKarmaSakshi = true
      · rw [if_pos caught] at checked
        obtain rfl := Except.ok.inj checked
        simp
      · rw [if_neg caught] at checked
        cases checked

theorem passport_seal_flag {run : PassportRun} {passport : ActionPassport}
    (built : buildPassport primitives run = .ok passport) :
    passport.verification.sealVerified = true ↔
      run.sealed.verifyIntegrity primitives.crypto = .ok () := by
  obtain ⟨_, sealChecked, grantStage⟩ := except_bind_ok built
  obtain ⟨_, _, auditStage⟩ := except_bind_ok grantStage
  obtain ⟨_, _, causalStage⟩ := except_bind_ok auditStage
  obtain ⟨_, _, final⟩ := except_bind_ok causalStage
  obtain rfl := Except.ok.inj final
  exact rechecked_flag sealChecked

/-- The upgrade copies the verification as it is. -/
theorem passport_v2_seal_flag {run : PassportRun} {tenantId : Option String}
    {passport : ActionPassportV2} (built : buildPassportV2 primitives run tenantId = .ok passport) :
    passport.verification.sealVerified = true ↔
      run.sealed.verifyIntegrity primitives.crypto = .ok () := by
  obtain ⟨first, firstBuilt, upgraded⟩ := except_bind_ok built
  obtain rfl := Except.ok.inj upgraded
  exact passport_seal_flag firstBuilt

theorem compensation_seal_flag {run : CompensationPassportRun} {passport : CompensationPassport}
    (built : buildCompensationPassport primitives run = .ok passport) :
    passport.sealVerified = true ↔
      run.compensationSealed.verifyIntegrity primitives.crypto = .ok () := by
  obtain ⟨_, _, hashStage⟩ := except_bind_ok built
  obtain ⟨_, _, sealStage⟩ := except_bind_ok hashStage
  obtain ⟨_, sealChecked, grantStage⟩ := except_bind_ok sealStage
  obtain ⟨_, _, auditStage⟩ := except_bind_ok grantStage
  obtain ⟨_, _, final⟩ := except_bind_ok auditStage
  obtain rfl := Except.ok.inj final
  exact rechecked_flag sealChecked

theorem built_seal_flag {call : PassportCall} {passport : BuiltPassport}
    (built : call.build primitives = .ok passport) :
    passport.sealVerified = true ↔ call.HashIntact primitives.crypto := by
  cases call with
  | action run =>
      obtain ⟨_, first, rfl⟩ := except_map_ok built
      exact passport_seal_flag first
  | actionV2 run tenantId =>
      obtain ⟨_, first, rfl⟩ := except_map_ok built
      exact passport_v2_seal_flag first
  | compensation run =>
      obtain ⟨_, first, rfl⟩ := except_map_ok built
      exact compensation_seal_flag first

/-- A passport is honest about the seal exactly when the hash is broken anyway or the
signature, which no builder looks at, would have verified. -/
theorem seal_flag_honest_iff {call : PassportCall} {passport : BuiltPassport}
    (built : call.build primitives = .ok passport) :
    (passport.sealVerified = true ↔
        verifySeal primitives.crypto call.sealedManifest call.keyring = .ok ()) ↔
      (¬ call.HashIntact primitives.crypto ∨ call.SignatureKnown primitives.crypto) := by
  have verified : verifySeal primitives.crypto call.sealedManifest call.keyring = .ok () ↔
      call.HashIntact primitives.crypto ∧ call.SignatureKnown primitives.crypto := check_then_ok
  rw [built_seal_flag built, verified]
  by_cases intact : call.HashIntact primitives.crypto
  · simp [intact]
  · simp [intact]

end Proof

/-! ### A forged seal -/

namespace ForgedSeal

def primitives : PassportPrimitives where
  crypto := Payment.crypto
  audit := ⟨fun _ => "", fun _ => ""⟩
  passportDigest := fun _ => ""

/-- The transfer under the signature of another manifest. -/
def forgedTransfer : SealedManifest :=
  { Payment.sealedTransfer with
    «seal» :=
      { Payment.sealedTransfer.seal with signature := Payment.sealedOtherTransfer.seal.signature } }

/-- A run that has come no further than its seal. -/
def runOf (signed : SealedManifest) : PassportRun where
  «sealed» := signed
  keyring := Payment.context.keyring
  audit := []
  lifecycleState := "sealed"
  grant := none
  grantStore := none
  commitResult := none
  outcomeProof := none
  compensationResult := none
  assessment := none
  roleAssignment := none
  causalGraph := none
  compensationManifestHash := none
  compensationPassportStatus := none
  witnessSetHash := none
  witnessPolicyHash := none
  witnessQuorumSatisfied := none
  acceptedWitnessIds := []
  evidenceSetHash := none
  evidencePolicyHash := none
  evidenceAcceptable := none
  evidenceStrongestKind := none
  now := Payment.noon

end ForgedSeal

/-- The passport of a forged manifest says that its seal is verified. -/
theorem forged_seal_is_reported : ∃ passport,
    (PassportCall.action (ForgedSeal.runOf ForgedSeal.forgedTransfer)).build
      ForgedSeal.primitives = .ok passport ∧ passport.sealVerified = true ∧
    verifySeal ForgedSeal.primitives.crypto ForgedSeal.forgedTransfer Payment.context.keyring ≠
      .ok () := by
  refine ⟨_, rfl, rfl, ?_⟩
  intro verified
  have signed := (check_then_ok.mp verified).2
  cases signed

/-- The genuine transfer is reported as what it is. -/
theorem genuine_seal_is_reported : ∃ passport,
    (PassportCall.action (ForgedSeal.runOf Payment.sealedTransfer)).build
      ForgedSeal.primitives = .ok passport ∧
    (passport.sealVerified = true ↔
      verifySeal ForgedSeal.primitives.crypto Payment.sealedTransfer Payment.context.keyring =
        .ok ()) := by
  refine ⟨_, rfl, ?_⟩
  have built : (PassportCall.action (ForgedSeal.runOf Payment.sealedTransfer)).build
    ForgedSeal.primitives = .ok _ := rfl
  exact (seal_flag_honest_iff built).mpr (Or.inr rfl)

end KarmaSakshi.Guarantees
