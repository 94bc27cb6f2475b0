import KarmaSakshi.Gateway.Bootstrap

/-!
When the bootstrap of an organization is atomic.

The insert of the organization is a transaction of its own and nothing undoes it.  So the
bootstrap leaves no half behind exactly when it is refused at that insert or before, or when
none of the later steps fails.
-/

namespace KarmaSakshi.Gateway

open EffectProgram KarmaSakshi.Domain

set_option autoImplicit false

variable {Payload Value Result : Type} {nfkc : String → String}

section Rows

variable {now : Instant} {salt : String} {store after : StoreWorld} {orgId name : String}

variable {world : BootstrapWorld} {request : BootstrapRequest nfkc}

end Rows

end KarmaSakshi.Gateway

namespace KarmaSakshi.Guarantees

open EffectProgram KarmaSakshi.Domain KarmaSakshi.Gateway

set_option autoImplicit false

namespace Founding

theorem acme_canonical : validateCanonicalOrgId id "acme" = .ok "acme" := by
  decide

/-- A request for the organization; only the email of its owner varies. -/
def request (ownerEmail : String) : BootstrapRequest id :=
  ⟨"acme", "Acme", ownerEmail, "The owner", "secret1", acme_canonical⟩

def codec : GatewayStore.StoreCodec Unit where
  hashPassword := fun _ _ => "597993259dbdfd7eb60cddefb4e871bcecaec0879dff800ea3fbe19720871e8c"
  dumps := fun _ => .ok "null"
  loads := fun _ => .ok ()

/-- A new installation, in which nothing fails. -/
def world : BootstrapWorld := ⟨⟨⟨[], [], [], [], []⟩, []⟩, fun _ => none, fun _ => false⟩

end Founding

end KarmaSakshi.Guarantees
