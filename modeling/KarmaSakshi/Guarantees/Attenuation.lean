import KarmaSakshi.Engine.Issuance
import KarmaSakshi.Engine.Scenario
import KarmaSakshi.Engine.StaticGates

/-!
What a delegated grant keeps of its parent's bindings.

`delegate` compares scope, audience, effect types, window, uses and budget.  The
hashes a parent is bound to are not among the fields it hands on, so a child keeps
them only where the parent has none to lose.
-/

namespace KarmaSakshi.Guarantees

open EffectProgram KarmaSakshi.Domain KarmaSakshi.Stores KarmaSakshi.Engine

set_option autoImplicit false

section Proof

variable {context : EngineContext} {delegation : DelegateCall} {child : ExecutionGrant}

end Proof

/-! ### Delegating a transfer -/

namespace Delegating

def policyBundleHash : String :=
  "sha256:fb4edeec1cad29a25929ea1344302f7b83f111c4e3890bba74d53d9d22a5b3a8"

/-- The hashes of the grants below, and the issuer's signatures over them. -/
def signatures : List (String × String × String) :=
  [("grant-5", "sha256:17bbc336d013387185fefafc33d1453e6bfc0ff72dfe8e4f4addb79f74dfb3b8",
      "F8bi9efQkSosAqyWe6kcbFKrwAbnt7cWSEHYUquGf2+U5Z20B731K2dPNSbpGd9Znb41VZkcaAVXmKXLMeCGAQ=="),
    ("grant-6", "sha256:1579d16cc9eab27c78b776284a0fe7c06b2f72be19e6c8071e486af75f42e03b",
      "N24gFEek/N6H8y1X6v8hp+8EHg6e1yPJmnojf07V2gCG75FIvrP0BP0kE2e7wENTPMLSCcSYOR9GKZKYZoRGAA=="),
    ("grant-7", "sha256:429e86a9eefc2d2da3597f78aad98999150a77b4f9d271874d7c8f206c592a53",
      "6KK+iidl4GxHklOeMG8IrzpI8W6K1Zfjrtv/OmkHLMDp1JBNyGfXOlRDX4RtY56QD2jFF1wp0RBWxn/R8XhdAw==")]

def crypto : CryptoPrimitives :=
  { Payment.crypto with
    grantDigest := fun grant =>
      match signatures.lookup grant.grantId with
      | some (hash, _) => hash
      | none => Payment.crypto.grantDigest grant
    ed25519Verify := fun publicKey data signature =>
      Payment.crypto.ed25519Verify publicKey data signature ||
        publicKey == Payment.issuerKey.publicKey &&
          (signatures.map Prod.snd).contains (data, signature) }

def context : EngineContext := { Payment.context with crypto }

def issuerSigning : SigningKey where
  keyId := "issuer-key"
  sign := fun data => ((Payment.signatures ++ signatures.map Prod.snd).lookup data).getD ""

/-- Everything but the manifest is left to be inherited. -/
def delegationOf (parent : ExecutionGrant) (childId : String) : DelegateCall where
  parent := parent
  issuer := Payment.treasury
  subject := Payment.agent
  signingKey := issuerSigning
  grantId := some childId
  nonce := some ("nonce-" ++ childId)
  generatedId := "4fa0a5d6-7c1b-4c86-9a64-0b2f3e1c9d55"
  generatedNonce := "9b1deb4d3b7d4bad9bdd2b0d7b3dcb6d"
  audience := none
  allowedEffectTypes := none
  scope := none
  notBefore := none
  expiresAt := none
  maxUses := none
  manifestHash := some Payment.transferHash
  authorityBudgetId := none

def handler : Handler EngineOp EngineReply PyError (World Unit) :=
  Payment.prompt.environment.answers ()

end Delegating

end KarmaSakshi.Guarantees
