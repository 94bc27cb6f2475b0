import KarmaSakshi.Engine.Scenario

/-!
A compensation of the scenario's transfer, with a grant of its own and one delegated from it.
-/

namespace KarmaSakshi.Engine.Reversal

open KarmaSakshi.Domain KarmaSakshi.Stores

set_option autoImplicit false

def compensationHash : String :=
  "sha256:dce6522e1f2d3fa61a473d231a5eda65cf26350be121ba30f3b87f1ba0eddd90"

def compensationSignature : String :=
  "Cjbc7n4RjjpW4l22Dql+6inNB1/UVgxr34OtSjfP/+ekvXCgUJR7AGaLjWR+n1HqAdYZQ8AkQy/H+6VhoJS3Aw=="

def rootGrantHash : String :=
  "sha256:944b41e885eb88a14a667c7542d089e7304b4a490765db8c1442cce8f9a7fc7e"

def rootGrantSignature : String :=
  "dzeqUQVDQ9JgEVsXXFRSZVGU8bPK0+NLHO1Aob+oTW6BcAXgq0FZ8+dn46xi8VUxfL9ZGoRBNunO9VpLD5xIDw=="

def childGrantHash : String :=
  "sha256:e0c233343ef024de1211254462805c44e10ab06c0416b1694efaa5522a138e89"

def childGrantSignature : String :=
  "GusStmNNq/bmuDgmRvZJEp5m05hgKz2afLYzo2GUQSbrd+9ofgzAloEsIuMZuN7UOEndQvYkUZmVRHvNNNENBQ=="

/-- The hash of the transfer is bound in the parameters. -/
def compensation : EffectManifest :=
  { Payment.transfer with
    manifestId := "mf-3"
    effectType := "payment.transfer.compensate"
    parameters := ⟨[(originalHashParam, .text Payment.transferHash)], List.pairwise_singleton _ _⟩
    idempotencyKey := "refund-key"
    nonce := "nonce-mf-3"
    parentManifestId := some "mf-1"
    manifestIdBounded := by decide
    idempotencyKeyBounded := by decide
    nonceBounded := by decide
    effectTypeBounded := by decide }

def sealedCompensation : SealedManifest where
  manifest := compensation
  «seal» :=
    { keyId := "issuer-key"
      manifestHash := compensationHash
      signature := compensationSignature
      sealedAt := Payment.opening
      keyIdBounded := Payment.sealedTransfer.«seal».keyIdBounded
      manifestHashShape := by decide }

def rootGrant : ExecutionGrant :=
  { Payment.transferGrant with
    grantId := "grant-11"
    manifestHash := some compensationHash
    allowedEffectTypes := ["payment.transfer.compensate"]
    nonce := "nonce-grant-11"
    signature := some rootGrantSignature
    grantIdBounded := by decide
    nonceBounded := by decide
    manifestHashShape := by decide
    allowedEffectTypesNonempty := List.cons_ne_nil _ _ }

/-- Delegated from `rootGrant`. -/
def childGrant : ExecutionGrant :=
  { rootGrant with
    grantId := "grant-12"
    nonce := "nonce-grant-12"
    parentGrantId := some "grant-11"
    signature := some childGrantSignature
    grantIdBounded := by decide
    nonceBounded := by decide }

/-- The signed hashes with the issuer's signatures. -/
def signatures : List (String × String) :=
  [(Payment.transferHash, Payment.sealedTransfer.seal.signature),
    (compensationHash, compensationSignature), (rootGrantHash, rootGrantSignature),
    (childGrantHash, childGrantSignature)]

/-- SHA-256 and Ed25519 on the values of this scenario. -/
def crypto : CryptoPrimitives :=
  { Payment.crypto with
    manifestDigest := fun manifest =>
      if manifest.manifestId = "mf-1" then Payment.transferHash else compensationHash
    grantDigest := fun grant =>
      if grant.grantId = "grant-11" then rootGrantHash else childGrantHash
    ed25519Verify := fun publicKey data signature =>
      publicKey == Payment.issuerKey.publicKey && signatures.contains (data, signature) }

def context : EngineContext := { Payment.context with crypto }

def callUnder (grant : ExecutionGrant) : CompensationCall where
  original := Payment.sealedTransfer
  compensation := sealedCompensation
  grant := grant
  adapter := Payment.adapter
  originalCommit := Payment.succeeded
  policyBundle := none

end KarmaSakshi.Engine.Reversal
