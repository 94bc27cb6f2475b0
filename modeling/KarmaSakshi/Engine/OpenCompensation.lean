import KarmaSakshi.Engine.OpenGates

/-!
Which compensation calls can reach their adapter at all.

The gates of `commit_compensation` were copied from those of `commit`, by hand.  What
passes them is said here for any components, and then for components that answer anything.
-/

namespace KarmaSakshi.Engine

open EffectProgram KarmaSakshi.Domain KarmaSakshi.Stores

set_option autoImplicit false

/-- The adapter's compensation. -/
def Compensates (adapter : AdapterIdentity) (op : EngineOp) : Prop :=
  ∃ manifest commitResult, op = .adapter adapter (.compensate manifest commitResult)

/-! ### What the gates check -/

section Checks

variable (context : EngineContext) (call : CompensationCall)

/-- A bound policy bundle is presented, in force and the bound one; its tenant is not
looked at. -/
def CompensationPolicyPasses (now : Instant) : Prop :=
  ∀ hash, call.grant.policyBundleHash = some hash → ∃ bundle, call.policyBundle = some bundle ∧
    verifyPolicyBundle context.crypto bundle context.keyring now none = .ok () ∧
    bundle.seal.bundleHash = hash

def TrustPasses (registry : TrustedAdapterRegistry) : Prop :=
  context.hasAdapterRegistry = true → ∃ capability,
    requireTrusted call.adapter.adapterId call.adapter.adapterVersion
      (registry.entries call.adapter.adapterId call.adapter.adapterVersion) = .ok capability

/-- What the gates check on the arguments and the clock. -/
structure CompensationChecks (shown : Instant → Prop) : Prop where
  originalSealed : verifySeal context.crypto call.original context.keyring = .ok ()
  bound : assertCompensationBindsOriginal context.crypto call.compensation call.original = .ok ()
  sealHeld : verifySeal context.crypto call.compensation context.keyring = .ok ()
  grantHeld : ∃ now, shown now ∧
    verifyGrant context.crypto call.grant context.keyring now context.clockSkew = .ok ()
  manifestBound : call.grant.manifestHash = some call.compensation.seal.manifestHash
  policyHeld : ∃ now, shown now ∧ CompensationPolicyPasses context call now
  inAudience : call.adapter.adapterId ∈ call.grant.audience
  sameAdapter : call.original.manifest.adapter = call.adapter
  effectAllowed : call.compensation.manifest.effectType ∈ call.grant.allowedEffectTypes

end Checks

variable {context : EngineContext} {call : CompensationCall} {World : Type}
  {handler : Handler EngineOp EngineReply PyError World} {world after : World}
  {shown : Instant → Prop}

/-- A gate that leaves the world alone hands it on. -/
theorem gate_then {first next : Action Unit} {passed : Prop}
    (passes : ∀ current, first.Yields handler world (.ok ()) current ↔ passed ∧ current = world) :
    (first >>= fun _ => next).Yields handler world (.ok ()) after ↔
      passed ∧ next.Yields handler world (.ok ()) after := by
  rw [yields_bind_ok]
  constructor
  · intro yields
    obtain ⟨_, between, yields, rest⟩ := yields
    obtain ⟨held, rfl⟩ := (passes between).mp yields
    exact ⟨held, rest⟩
  · intro held
    exact ⟨(), world, (passes world).mpr ⟨held.1, rfl⟩, held.2⟩

theorem settled_passes {check : Except PyError Unit} :
    (Program.settle check : Action Unit).Yields handler world (.ok ()) after ↔
      check = .ok () ∧ after = world := by
  rw [yields_settle]
  exact and_congr_left' eq_comm

theorem binding_gate_passes :
    (bindingGate context call).Yields handler world (.ok ()) after ↔
      assertCompensationBindsOriginal context.crypto call.compensation call.original = .ok () ∧
        after = world := by
  unfold bindingGate
  cases assertCompensationBindsOriginal context.crypto call.compensation call.original with
  | ok done => exact pure_passes rfl
  | error error =>
      by_cases binding : error.kind = .compensationBinding
      · simp only [binding, if_true]
        exact denied_passes (by simp)
      · simp only [binding, if_false]
        constructor
        · intro passes
          cases passes.1
        · intro passes
          cases passes.1

theorem compensation_seal_gate_yields (clocked : Clocked handler shown) :
    (compensationSealGate context call).Yields handler world (.ok ()) after ↔
      (verifySeal context.crypto call.compensation context.keyring = .ok () ∧ ∃ now, shown now ∧
        verifyGrant context.crypto call.grant context.keyring now context.clockSkew = .ok ()) ∧
      after = world := by
  unfold compensationSealGate
  cases verifySeal context.crypto call.compensation context.keyring with
  | ok done =>
      dsimp only
      rw [clock_yields clocked]
      simp only [checked_passes, ← and_assoc, exists_and_right, true_and]
  | error error =>
      dsimp only
      rw [checked_passes]
      simp

theorem compensation_manifest_gate_passes :
    (compensationManifestGate call).Yields handler world (.ok ()) after ↔
      call.grant.manifestHash = some call.compensation.seal.manifestHash ∧ after = world := by
  rw [compensationManifestGate, refusal_passes, not_not]

theorem compensation_policy_gate_yields (clocked : Clocked handler shown)
    (ticks : ∃ now, shown now) :
    (compensationPolicyGate context call).Yields handler world (.ok ()) after ↔
      (∃ now, shown now ∧ CompensationPolicyPasses context call now) ∧ after = world := by
  unfold compensationPolicyGate CompensationPolicyPasses
  cases bound : call.grant.policyBundleHash with
  | none =>
      apply pure_passes
      exact ticks.imp (fun now shows => ⟨shows, by simp⟩)
  | some hash =>
      cases presented : call.policyBundle with
      | none => exact denied_passes (by simp)
      | some bundle =>
          dsimp only
          rw [clock_yields clocked]
          simp only [then_passes (fun _ => checked_passes) refusal_passes, not_not,
            Option.some.injEq, forall_eq', exists_eq_left']
          simp only [← and_assoc, exists_and_right]

theorem compensation_audience_gate_passes :
    (compensationAudienceGate call).Yields handler world (.ok ()) after ↔
      call.adapter.adapterId ∈ call.grant.audience ∧ after = world := by
  rw [compensationAudienceGate, refusal_passes, not_not]

theorem compensation_identity_gate_passes :
    (compensationIdentityGate call).Yields handler world (.ok ()) after ↔
      call.original.manifest.adapter = call.adapter ∧ after = world := by
  rw [compensationIdentityGate, refusal_passes, same_adapter_iff]

/-- The registry gate, given the entries that the registry may show. -/
theorem trust_gate_yields {allowed : Option RegistryEntry → Prop}
    (told : ∀ entry current, handler world
      (.lookupAdapter call.adapter.adapterId call.adapter.adapterVersion) (.ok entry) current ↔
        allowed entry ∧ current = world) :
    (compensationRegistryGate context call).Yields handler world (.ok ()) after ↔
      (context.hasAdapterRegistry = true → ∃ entry, allowed entry ∧ ∃ capability,
        requireTrusted call.adapter.adapterId call.adapter.adapterVersion entry =
          .ok capability) ∧ after = world := by
  unfold compensationRegistryGate
  by_cases configured : context.hasAdapterRegistry = true
  · rw [if_pos configured, yields_bind_ok]
    constructor
    · rintro ⟨entry, between, answered, rest⟩
      obtain ⟨shown, rfl⟩ := (told entry between).mp (yields_perform.mp answered)
      cases trusted : requireTrusted call.adapter.adapterId call.adapter.adapterVersion entry with
      | ok capability =>
          simp only [trusted] at rest
          exact ⟨fun _ => ⟨entry, shown, capability, trusted⟩, rest.2⟩
      | error error =>
          simp only [trusted] at rest
          exact absurd rest deny_never_passes
    · rintro ⟨passes, same⟩
      obtain ⟨entry, shown, capability, trusted⟩ := passes configured
      refine ⟨entry, world, yields_perform.mpr ((told entry world).mpr ⟨shown, rfl⟩), ?_⟩
      simp only [trusted]
      exact ⟨rfl, same⟩
  · rw [if_neg configured]
    exact pure_passes (fun impossible => absurd impossible configured)

/-- The gates, given what the registry and the grant store let through. -/
theorem compensation_gates_yield (clocked : Clocked handler shown) (ticks : ∃ now, shown now)
    {trusted unrevoked : Prop}
    (registry : ∀ current, (compensationRegistryGate context call).Yields handler world (.ok ())
      current ↔ trusted ∧ current = world)
    (revocation : ∀ current, (revocationGate call.asCommit).Yields handler world (.ok ())
      current ↔ unrevoked ∧ current = world) :
    (compensationGates context call).Yields handler world (.ok ()) after ↔
      CompensationChecks context call shown ∧ trusted ∧ unrevoked ∧
        (compensationReserve call).Yields handler world (.ok ()) after := by
  unfold compensationGates
  rw [gate_then (fun _ => settled_passes), gate_then (fun _ => binding_gate_passes),
    gate_then (fun _ => compensation_seal_gate_yields clocked),
    gate_then (fun _ => compensation_manifest_gate_passes),
    gate_then (fun _ => compensation_policy_gate_yields clocked ticks),
    gate_then (fun _ => compensation_audience_gate_passes),
    gate_then (fun _ => compensation_identity_gate_passes), gate_then registry,
    gate_then (fun _ => effect_type_gate_passes), gate_then revocation]
  constructor
  · rintro ⟨originalSealed, bound, ⟨sealHeld, grantHeld⟩, manifestBound, policyHeld, inAudience,
      sameAdapter, trust, effectAllowed, valid, reserved⟩
    exact ⟨⟨originalSealed, bound, sealHeld, grantHeld, manifestBound, policyHeld, inAudience,
      sameAdapter, effectAllowed⟩, trust, valid, reserved⟩
  · rintro ⟨checks, trust, valid, reserved⟩
    exact ⟨checks.originalSealed, checks.bound, ⟨checks.sealHeld, checks.grantHeld⟩,
      checks.manifestBound, checks.policyHeld, checks.inAudience, checks.sameAdapter, trust,
      checks.effectAllowed, valid, reserved⟩

/-! ### Up to the adapter -/

theorem apart_compensation_gates (context : EngineContext) (call : CompensationCall) :
    Apart call.adapter (compensationGates context call) := by
  apply compensation_checks_use context call
  · exact fun _ checks => gate_op_is_apart (check_op_is_gate checks)
  · refine Program.Uses.after not_false (fun reserved => ?_)
    cases reserved with
    | true => trivial
    | false => exact apart_of_checks (deny_uses call.asCommit _ _ _)

/-- Past the gates nothing but the lifecycles stands before the adapter. -/
theorem commit_compensation_reaches (unhindered : ∀ world, Unhindered handler world) :
    (commitCompensation context call).Reaches handler (Compensates call.adapter) world ↔
      ∃ after, (compensationGates context call).Yields handler world (.ok ()) after := by
  have silent : ¬ (compensationGates context call).Reaches handler (Compensates call.adapter)
      world := by
    apply Program.Uses.never_reaches (apart_compensation_gates context call)
    rintro op uncalled ⟨manifest, commitResult, rfl⟩
    exact uncalled rfl
  unfold commitCompensation
  rw [reaches_bind, or_iff_right silent]
  constructor
  · intro reaches
    obtain ⟨_, between, passed, _⟩ := reaches
    exact ⟨between, passed⟩
  · intro passes
    obtain ⟨between, passed⟩ := passes
    refine ⟨(), between, passed, ?_⟩
    have recalled : (getRecord context call.originalId).Yields handler between
        (.ok (.fresh call.originalId .compensating)) between :=
      yields_bind_ok.mpr ⟨some (.fresh call.originalId .compensating), between,
        yields_perform.mpr ((unhindered between).free _ _ trivial), rfl, rfl⟩
    refine reaches_bind.mpr (Or.inr ⟨_, between, recalled, ?_⟩)
    refine reaches_bind.mpr (Or.inr ⟨(), between, ⟨rfl, rfl⟩, ?_⟩)
    apply reaches_attempt.mpr
    left
    obtain ⟨record, moved⟩ := @committing_transition_opens context _ _ between
      (unhindered between) call.compensationId (call.asCommit.note "compensation.committing" [])
    refine reaches_bind.mpr (Or.inr ⟨record, between, moved, ?_⟩)
    exact reaches_bind.mpr (Or.inl (reaches_perform.mpr ⟨_, _, rfl⟩))

/-! ### Components that answer anything -/

/-- Everything a compensation demands of its arguments, each at some moment and against some
registry. -/
structure OpenCompensation (context : EngineContext) (call : CompensationCall)
    (shown : Instant → Prop) : Prop where
  checks : CompensationChecks context call shown
  trusted : ∃ registry, TrustPasses context call registry

/-- A compensation can reach its adapter exactly when its arguments are in order. -/
theorem compensation_opens {handler : Handler EngineOp EngineReply PyError Unit}
    (lenient : Lenient handler shown) :
    (commitCompensation context call).Reaches handler (Compensates call.adapter) () ↔
      OpenCompensation context call shown := by
  have trust : ∀ current : Unit, (compensationRegistryGate context call).Yields handler ()
      (.ok ()) current ↔ (∃ registry, TrustPasses context call registry) ∧ current = () := by
    intro current
    rw [@trust_gate_yields context call Unit handler () current (fun _ => True)
      (fun entry _ => iff_of_true (lenient.free _ _ trivial) ⟨trivial, rfl⟩)]
    apply and_congr_left'
    constructor
    · intro passes
      by_cases configured : context.hasAdapterRegistry = true
      · obtain ⟨entry, _, trusted⟩ := passes configured
        exact ⟨⟨fun _ _ => entry⟩, fun _ => trusted⟩
      · exact ⟨⟨fun _ _ => none⟩, fun impossible => absurd impossible configured⟩
    · rintro ⟨registry, passes⟩ configured
      exact ⟨_, trivial, passes configured⟩
  have unrevoked : ∀ current : Unit, (revocationGate call.asCommit).Yields handler ()
      (.ok ()) current ↔ True ∧ current = () :=
    fun _ => iff_of_true (revocation_gate_opens lenient) ⟨trivial, rfl⟩
  have reserved : (compensationReserve call).Yields handler () (.ok ()) () :=
    yields_bind_ok.mpr ⟨true, (), lenient.answers _ trivial, rfl, rfl⟩
  rw [commit_compensation_reaches (fun _ => lenient.unhindered)]
  constructor
  · rintro ⟨_, passed⟩
    obtain ⟨checks, trusted, _⟩ :=
      (compensation_gates_yield lenient.clocked lenient.ticks trust unrevoked).mp passed
    exact ⟨checks, trusted⟩
  · intro opens
    exact ⟨(), (compensation_gates_yield lenient.clocked lenient.ticks trust unrevoked).mpr
      ⟨opens.checks, opens.trusted, trivial, reserved⟩⟩

end KarmaSakshi.Engine
