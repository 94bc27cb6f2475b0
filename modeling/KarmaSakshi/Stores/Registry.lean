import KarmaSakshi.Domain.Values

/-!
The trusted adapter registry: an allow-list of exact adapter versions with the
effect types each may perform.
-/

namespace KarmaSakshi.Stores

open KarmaSakshi.Domain

set_option autoImplicit false

/-- The declared capability of one exact adapter version. -/
structure AdapterCapability where
  adapterId : String
  adapterVersion : String
  supportedEffectTypes : List String

structure RegistryEntry where
  capability : AdapterCapability
  revoked : Bool
  revokeReason : Option String

structure TrustedAdapterRegistry where
  entries : String → String → Option RegistryEntry

/-- `require`, on the entry that was looked up. -/
def requireTrusted (adapterId adapterVersion : String) (entry : Option RegistryEntry) :
    Except PyError AdapterCapability :=
  match entry with
  | none => .error ⟨.untrustedAdapter, "adapter " ++ adapterId ++ "@" ++ adapterVersion ++
      " is not on the trusted adapter registry allow-list (fail closed)"⟩
  | some found =>
      if found.revoked then
        .error ⟨.untrustedAdapter, "adapter " ++ adapterId ++ "@" ++ adapterVersion ++
          " is revoked (" ++ orElse found.revokeReason "revoked" ++
          "); refuse to use (fail closed)"⟩
      else .ok found.capability

/-- `require_effect`, on the entry that was looked up. -/
def requireEffect (adapterId adapterVersion effectType : String) (entry : Option RegistryEntry) :
    Except PyError AdapterCapability :=
  match requireTrusted adapterId adapterVersion entry with
  | .error error => .error error
  | .ok capability =>
      if effectType ∉ capability.supportedEffectTypes then
        .error ⟨.untrustedAdapter, "effect_type " ++ pyRepr effectType ++
          " is not declared in trusted capability for " ++ adapterId ++ "@" ++ adapterVersion ++
          " (allowed=" ++ pyReprList capability.supportedEffectTypes ++ "); fail closed"⟩
      else .ok capability

/-- Only a registered, unrevoked adapter that declares the effect type passes. -/
theorem require_effect_ok {adapterId adapterVersion effectType : String}
    {entry : Option RegistryEntry} {capability : AdapterCapability}
    (trusted : requireEffect adapterId adapterVersion effectType entry = .ok capability) :
    ∃ found, entry = some found ∧ found.revoked = false ∧
      effectType ∈ found.capability.supportedEffectTypes := by
  unfold requireEffect requireTrusted at trusted
  cases entry with
  | none => simp at trusted
  | some found =>
      cases revoked : found.revoked with
      | true => simp [revoked] at trusted
      | false =>
          refine ⟨found, rfl, revoked, ?_⟩
          by_contra undeclared
          simp [revoked, undeclared] at trusted

end KarmaSakshi.Stores
