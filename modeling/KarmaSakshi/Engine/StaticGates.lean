import KarmaSakshi.Engine.Gates

/-!
The gates of `commit` that consult no store.

What they decide depends on the call, the instant the clock shows and the entry
the registry holds, so it can be said once, for every world that shows the same
instant and the same entry.
-/

namespace KarmaSakshi.Engine

open EffectProgram KarmaSakshi.Domain KarmaSakshi.Stores

set_option autoImplicit false

variable (context : EngineContext) (call : CommitCall)

/-- The gates before the revocation checks. -/
def staticGates : Action Unit := do
  sealGate context call
  grantGate context call
  manifestGate call
  policyGate context call
  envelopeGate context call
  graphGate context call
  audienceGate call
  identityGate call
  registryGate context call
  effectTypeGate call

theorem then_assoc {First Second Third : Type} (first : Action First)
    (second : First → Action Second) (third : Second → Action Third) :
    (first >>= second) >>= third = first >>= fun value => second value >>= third := by
  simp only [Program.bind_is_attempt, Program.attempt_attempt]
  congr 1
  funext outcome
  cases outcome <;> rfl

/-- `commit` applies these gates first, then the two that ask the grant store. -/
theorem gates_split : gates context call = (do
    staticGates context call
    revocationGate call
    ancestorGate call) := by
  unfold gates staticGates
  simp only [then_assoc]

/-! ### What passing says -/

/-- A bound policy bundle is presented, in force and the bound one; a presented one
is of the engine's tenant. -/
structure PolicyPasses (now : Instant) : Prop where
  bound : ∀ hash, call.grant.policyBundleHash = some hash → ∃ bundle,
    call.policyBundle = some bundle ∧
      verifyPolicyBundle context.crypto bundle context.keyring now none = .ok () ∧
      bundle.seal.bundleHash = hash
  tenant : ∀ bundle, call.policyBundle = some bundle →
    (call.grant.policyBundleHash.isSome ∨ context.tenantId.isSome) →
      bindEngineAndPolicyTenant context.tenantId bundle.bundle.tenantId = .ok ()

def EnvelopePasses (now : Instant) : Prop :=
  ∀ hash, call.grant.decisionEnvelopeHash = some hash → ∃ envelope,
    call.decisionEnvelope = some envelope ∧
      verifyDecisionEnvelope context.crypto envelope context.keyring now = .ok () ∧
      envelope.canonicalHash context.crypto = hash ∧
      assertManifestFitsEnvelope call.manifest envelope = .ok ()

def GraphPasses : Prop :=
  ∀ hash, call.grant.causalGraphHash = some hash → ∃ graph,
    call.causalGraph = some graph ∧ planChecks context call hash graph = .ok ()

def RegistryPasses (registry : TrustedAdapterRegistry) : Prop :=
  context.hasAdapterRegistry = true → ∃ capability,
    requireEffect call.adapter.adapterId call.adapter.adapterVersion call.manifest.effectType
      (registry.entries call.adapter.adapterId call.adapter.adapterVersion) = .ok capability

/-- A world in which the clock stands still, with the registry it shows. -/
structure Shows {World : Type} (handler : Handler EngineOp EngineReply PyError World)
    (now : Instant) (registry : World → TrustedAdapterRegistry) : Prop where
  clock : ∀ world reply after,
    handler world .now reply after ↔ reply = .ok now ∧ after = world
  lookup : ∀ world adapterId adapterVersion reply after,
    handler world (.lookupAdapter adapterId adapterVersion) reply after ↔
      reply = .ok ((registry world).entries adapterId adapterVersion) ∧ after = world

/-- The instants a clock may show; reading it changes nothing. -/
def Clocked {World : Type} (handler : Handler EngineOp EngineReply PyError World)
    (shown : Instant → Prop) : Prop :=
  ∀ world instant after, handler world .now (.ok instant) after ↔ shown instant ∧ after = world

section Passing

variable {context call} {World : Type} {handler : Handler EngineOp EngineReply PyError World}
  {now : Instant} {registry : World → TrustedAdapterRegistry} {world after : World}
  {shown : Instant → Prop}

theorem Shows.clocked (showing : Shows handler now registry) :
    Clocked handler (fun instant => instant = now) := by
  intro world instant after
  rw [showing.clock]
  simp only [Except.ok.injEq]

theorem pure_passes {fact : Prop} (held : fact) :
    (pure () : Action Unit).Yields handler world (.ok ()) after ↔ fact ∧ after = world := by
  constructor
  · intro passes
    exact ⟨held, passes.2⟩
  · intro passes
    exact ⟨rfl, passes.2⟩

theorem deny_never_passes {Value : Type} {eventType decision : String} {error : PyError}
    {value : Value} :
    ¬ (deny call eventType decision error).Yields handler world (.ok value) after := by
  intro passes
  obtain ⟨_, _, _, impossible, _⟩ := yields_bind_ok.mp passes
  cases impossible

theorem denied_passes {eventType decision : String} {error : PyError} {fact : Prop}
    (failed : ¬ fact) :
    (deny call eventType decision error).Yields handler world (.ok ()) after ↔
      fact ∧ after = world :=
  ⟨fun passes => absurd passes deny_never_passes, fun passes => absurd passes.1 failed⟩

theorem checked_passes {eventType : String} {check : Except PyError Unit} :
    (checked call eventType check).Yields handler world (.ok ()) after ↔
      check = .ok () ∧ after = world := by
  cases check with
  | ok done => exact pure_passes rfl
  | error error =>
      unfold checked
      by_cases known : error.isKarmaSakshi = true
      · simp only [known, if_true]
        exact denied_passes (by simp)
      · simp only [known, Bool.false_eq_true, if_false]
        constructor
        · intro passes
          cases passes.1
        · intro passes
          cases passes.1

theorem refusal_passes {condition : Prop} [Decidable condition] {eventType decision : String}
    {error : PyError} :
    (if condition then deny call eventType decision error else pure ()).Yields handler world
      (.ok ()) after ↔ ¬ condition ∧ after = world := by
  by_cases refused : condition
  · rw [if_pos refused]
    exact denied_passes (not_not.mpr refused)
  · rw [if_neg refused]
    exact pure_passes refused

/-- Gates leave the world alone, so a sequence passes when each of them does. -/
theorem then_passes {first next : Action Unit} {one other : Prop}
    (passes : ∀ current, first.Yields handler world (.ok ()) current ↔ one ∧ current = world)
    (passesNext : next.Yields handler world (.ok ()) after ↔ other ∧ after = world) :
    (first >>= fun _ => next).Yields handler world (.ok ()) after ↔
      (one ∧ other) ∧ after = world := by
  rw [yields_bind_ok]
  constructor
  · rintro ⟨_, between, yields, rest⟩
    obtain ⟨held, rfl⟩ := (passes between).mp yields
    obtain ⟨heldNext, same⟩ := passesNext.mp rest
    exact ⟨⟨held, heldNext⟩, same⟩
  · rintro ⟨⟨held, heldNext⟩, same⟩
    exact ⟨(), world, (passes world).mpr ⟨held, rfl⟩, passesNext.mpr ⟨heldNext, same⟩⟩

theorem clock_yields (clocked : Clocked handler shown) {next : Instant → Action Unit} :
    (perform .now >>= next).Yields handler world (.ok ()) after ↔
      ∃ now, shown now ∧ (next now).Yields handler world (.ok ()) after := by
  rw [yields_bind_ok]
  constructor
  · rintro ⟨instant, between, told, rest⟩
    obtain ⟨shows, rfl⟩ := (clocked _ _ _).mp (yields_perform.mp told)
    exact ⟨instant, shows, rest⟩
  · rintro ⟨instant, shows, rest⟩
    exact ⟨instant, world, yields_perform.mpr ((clocked _ _ _).mpr ⟨shows, rfl⟩), rest⟩

theorem seal_gate_passes :
    (sealGate context call).Yields handler world (.ok ()) after ↔
      verifySeal context.crypto call.sealed context.keyring = .ok () ∧ after = world :=
  checked_passes

theorem grant_gate_yields (clocked : Clocked handler shown) :
    (grantGate context call).Yields handler world (.ok ()) after ↔
      (∃ now, shown now ∧
        verifyGrant context.crypto call.grant context.keyring now context.clockSkew = .ok ()) ∧
      after = world := by
  rw [grantGate, clock_yields clocked]
  simp only [checked_passes, ← and_assoc, exists_and_right]

theorem grant_gate_passes (showing : Shows handler now registry) :
    (grantGate context call).Yields handler world (.ok ()) after ↔
      verifyGrant context.crypto call.grant context.keyring now context.clockSkew = .ok () ∧
        after = world := by
  rw [grant_gate_yields showing.clocked]
  simp only [exists_eq_left]

theorem manifest_gate_passes :
    (manifestGate call).Yields handler world (.ok ()) after ↔
      call.grant.manifestHash = some call.manifestHash ∧ after = world := by
  rw [manifestGate, refusal_passes, not_not]

theorem tenant_gate_passes {bundle : SealedPolicyBundle} :
    (tenantGate context call bundle).Yields handler world (.ok ()) after ↔
      bindEngineAndPolicyTenant context.tenantId bundle.bundle.tenantId = .ok () ∧
        after = world := by
  unfold tenantGate
  cases bindEngineAndPolicyTenant context.tenantId bundle.bundle.tenantId with
  | ok done => exact pure_passes rfl
  | error error => exact denied_passes (by simp)

theorem bound_policy_gate_yields (clocked : Clocked handler shown) {hash : String}
    {bundle : SealedPolicyBundle} :
    (boundPolicyGate context call hash bundle).Yields handler world (.ok ()) after ↔
      (∃ now, shown now ∧
        verifyPolicyBundle context.crypto bundle context.keyring now none = .ok () ∧
        bundle.seal.bundleHash = hash ∧
        bindEngineAndPolicyTenant context.tenantId bundle.bundle.tenantId = .ok ()) ∧
      after = world := by
  have rest : ∀ final, (if bundle.seal.bundleHash ≠ hash then
      deny call "policy_bundle.mismatch" "blocked_policy_bundle_mismatch"
        ⟨.policyBundleMismatch, "grant " ++ call.grantId ++ " is bound to policy bundle " ++
          hash ++ ", but a different bundle (" ++ bundle.seal.bundleHash ++
          ") was presented at commit time"⟩
      else tenantGate context call bundle).Yields handler world (.ok ()) final ↔
      (bundle.seal.bundleHash = hash ∧
        bindEngineAndPolicyTenant context.tenantId bundle.bundle.tenantId = .ok ()) ∧
      final = world := by
    intro final
    by_cases mismatch : bundle.seal.bundleHash ≠ hash
    · rw [if_pos mismatch]
      exact denied_passes (fun held => mismatch held.1)
    · rw [if_neg mismatch, tenant_gate_passes]
      simp only [not_not.mp mismatch, true_and]
  rw [boundPolicyGate, clock_yields clocked]
  simp only [then_passes (fun _ => checked_passes) (rest after), ← and_assoc, exists_and_right]

theorem policy_gate_yields (clocked : Clocked handler shown) (ticks : ∃ now, shown now) :
    (policyGate context call).Yields handler world (.ok ()) after ↔
      (∃ now, shown now ∧ PolicyPasses context call now) ∧ after = world := by
  have sometime : ∀ {fact : Instant → Prop}, (∀ now, fact now) → ∃ now, shown now ∧ fact now :=
    fun held => ticks.imp (fun now shows => ⟨shows, held now⟩)
  unfold policyGate
  cases bound : call.grant.policyBundleHash with
  | some hash =>
      cases presented : call.policyBundle with
      | none =>
          apply denied_passes
          rintro ⟨now, _, held⟩
          obtain ⟨bundle, impossible, _⟩ := held.bound hash bound
          rw [presented] at impossible
          cases impossible
      | some bundle =>
          rw [bound_policy_gate_yields clocked]
          apply and_congr_left'
          apply exists_congr
          intro now
          apply and_congr_right'
          constructor
          · rintro ⟨verified, same, tenant⟩
            constructor
            · intro other binds
              obtain rfl := Option.some.inj (bound.symm.trans binds)
              exact ⟨bundle, presented, verified, same⟩
            · intro other shown _
              obtain rfl := Option.some.inj (presented.symm.trans shown)
              exact tenant
          · intro held
            obtain ⟨other, shown, verified, same⟩ := held.bound hash bound
            obtain rfl := Option.some.inj (presented.symm.trans shown)
            exact ⟨verified, same, held.tenant bundle presented (Or.inl (by simp [bound]))⟩
  | none =>
      have unbound : ∀ now, ∀ hash, call.grant.policyBundleHash = some hash → ∃ bundle,
          call.policyBundle = some bundle ∧
            verifyPolicyBundle context.crypto bundle context.keyring now none = .ok () ∧
            bundle.seal.bundleHash = hash := by
        intro now hash binds
        rw [bound] at binds
        cases binds
      cases presented : call.policyBundle with
      | none =>
          apply pure_passes
          refine sometime (fun now => ⟨unbound now, ?_⟩)
          intro bundle shown
          rw [presented] at shown
          cases shown
      | some bundle =>
          by_cases tenanted : context.tenantId.isSome = true
          · simp only [tenanted, if_true]
            rw [tenant_gate_passes]
            apply and_congr_left'
            constructor
            · intro tenant
              refine sometime (fun now => ⟨unbound now, ?_⟩)
              intro other shown _
              obtain rfl := Option.some.inj (presented.symm.trans shown)
              exact tenant
            · rintro ⟨now, _, held⟩
              exact held.tenant bundle presented (Or.inr tenanted)
          · simp only [tenanted, Bool.false_eq_true, if_false]
            apply pure_passes
            refine sometime (fun now => ⟨unbound now, ?_⟩)
            intro other _ required
            rcases required with binds | tenant
            · rw [bound] at binds
              cases binds
            · exact absurd tenant tenanted

theorem policy_gate_passes (showing : Shows handler now registry) :
    (policyGate context call).Yields handler world (.ok ()) after ↔
      PolicyPasses context call now ∧ after = world := by
  rw [policy_gate_yields showing.clocked ⟨now, rfl⟩]
  simp only [exists_eq_left]

theorem envelope_gate_yields (clocked : Clocked handler shown) (ticks : ∃ now, shown now) :
    (envelopeGate context call).Yields handler world (.ok ()) after ↔
      (∃ now, shown now ∧ EnvelopePasses context call now) ∧ after = world := by
  unfold envelopeGate EnvelopePasses
  cases bound : call.grant.decisionEnvelopeHash with
  | none =>
      apply pure_passes
      exact ticks.imp (fun now shows => ⟨shows, by simp⟩)
  | some hash =>
      cases presented : call.decisionEnvelope with
      | none => exact denied_passes (by simp)
      | some envelope =>
          have rest : ∀ final, (if envelope.canonicalHash context.crypto ≠ hash then
              deny call "decision_envelope.mismatch" "blocked_decision_envelope_mismatch"
                ⟨.decisionEnvelopeMismatch, "grant " ++ call.grantId ++
                  " is bound to decision envelope " ++ hash ++ ", but a different envelope (" ++
                  envelope.canonicalHash context.crypto ++ ") was presented at commit time"⟩
              else checked call "decision_envelope.constraint_failed"
                (assertManifestFitsEnvelope call.manifest envelope)).Yields handler world
                  (.ok ()) final ↔
              (envelope.canonicalHash context.crypto = hash ∧
                assertManifestFitsEnvelope call.manifest envelope = .ok ()) ∧ final = world := by
            intro final
            by_cases mismatch : envelope.canonicalHash context.crypto ≠ hash
            · rw [if_pos mismatch]
              exact denied_passes (fun held => mismatch held.1)
            · rw [if_neg mismatch, checked_passes]
              simp only [not_not.mp mismatch, true_and]
          simp only [boundEnvelopeGate]
          rw [clock_yields clocked]
          simp only [then_passes (fun _ => checked_passes) (rest after), Option.some.injEq,
            forall_eq', exists_eq_left']
          simp only [← and_assoc, exists_and_right]

theorem envelope_gate_passes (showing : Shows handler now registry) :
    (envelopeGate context call).Yields handler world (.ok ()) after ↔
      EnvelopePasses context call now ∧ after = world := by
  rw [envelope_gate_yields showing.clocked ⟨now, rfl⟩]
  simp only [exists_eq_left]

theorem graph_gate_passes :
    (graphGate context call).Yields handler world (.ok ()) after ↔
      GraphPasses context call ∧ after = world := by
  unfold graphGate GraphPasses
  cases bound : call.grant.causalGraphHash with
  | none => exact pure_passes (by simp)
  | some hash =>
      cases presented : call.causalGraph with
      | none => exact denied_passes (by simp)
      | some graph =>
          rw [checked_passes]
          simp only [Option.some.injEq, forall_eq', exists_eq_left']

theorem audience_gate_passes :
    (audienceGate call).Yields handler world (.ok ()) after ↔
      call.adapter.adapterId ∈ call.grant.audience ∧ after = world := by
  rw [audienceGate, refusal_passes, not_not]

theorem same_adapter_iff {declared executing : AdapterIdentity} :
    ¬ (declared.adapterId ≠ executing.adapterId ∨
      declared.adapterVersion ≠ executing.adapterVersion) ↔ declared = executing := by
  rw [not_or, not_not, not_not]
  cases declared
  cases executing
  simp

theorem identity_gate_passes :
    (identityGate call).Yields handler world (.ok ()) after ↔
      call.manifest.adapter = call.adapter ∧ after = world := by
  rw [identityGate, refusal_passes, same_adapter_iff]

theorem effect_type_gate_passes :
    (effectTypeGate call).Yields handler world (.ok ()) after ↔
      call.manifest.effectType ∈ call.grant.allowedEffectTypes ∧ after = world := by
  rw [effectTypeGate, refusal_passes, not_not]

end Passing

/-! ### One instant -/

variable {context call}

end KarmaSakshi.Engine
