import KarmaSakshi.Engine.AdapterOperations
import KarmaSakshi.Engine.StaticGates
import KarmaSakshi.Library.Reachability

/-!
Which commit calls can reach their adapter at all.

Whatever the components answer, a call gets no further than its own arguments let
it: `OpenCall` collects what they have to satisfy, apart from the plan, and it is
also enough, since the stores may answer that everything is in order.  Where the
clock is bound to some instants, `OpenAt` collects what is left.
-/

namespace KarmaSakshi.Engine

open EffectProgram KarmaSakshi.Domain KarmaSakshi.Stores

set_option autoImplicit false

variable {context : EngineContext} {call : CommitCall}

/-- The adapter's commit. -/
def Invokes (adapter : AdapterIdentity) (op : EngineOp) : Prop :=
  ∃ manifest grant, op = .adapter adapter (.commit manifest grant)

theorem reaches_after {First Rest World : Type} {adapter : AdapterIdentity} {first : Action First}
    {next : First → Action Rest} {handler : Handler EngineOp EngineReply PyError World}
    {world : World} (apart : Apart adapter first) :
    (first >>= next).Reaches handler (Invokes adapter) world ↔ ∃ value between,
      first.Yields handler world (.ok value) between ∧
        (next value).Reaches handler (Invokes adapter) between := by
  have silent : ¬ first.Reaches handler (Invokes adapter) world := by
    apply Program.Uses.never_reaches apart
    rintro op uncalled ⟨manifest, grant, rfl⟩
    exact uncalled rfl
  exact reaches_bind.trans (or_iff_right silent)

/-! ### What the arguments have to satisfy -/

/-- A bound budget can be charged: a ledger is configured, and a count budget prices
every manifest. -/
def BudgetOpen (context : EngineContext) (call : CommitCall) : Prop :=
  call.grant.authorityBudgetId.isSome = true → context.hasBudgetLedger = true

/-- Everything a commit demands of its arguments besides the plan, each at some
moment and against some registry. -/
structure OpenCall (context : EngineContext) (call : CommitCall) : Prop where
  sealHeld : verifySeal context.crypto call.sealed context.keyring = .ok ()
  grantHeld : ∃ now,
    verifyGrant context.crypto call.grant context.keyring now context.clockSkew = .ok ()
  manifestBound : call.grant.manifestHash = some call.manifestHash
  policyHeld : ∃ now, PolicyPasses context call now
  envelopeHeld : ∃ now, EnvelopePasses context call now
  inAudience : call.adapter.adapterId ∈ call.grant.audience
  sameAdapter : call.manifest.adapter = call.adapter
  registryHeld : ∃ registry, RegistryPasses context call registry
  effectAllowed : call.manifest.effectType ∈ call.grant.allowedEffectTypes
  foreignParent : call.grant.parentGrantId ≠ some call.grantId
  budgetOpen : BudgetOpen context call

/-- The same, where the clock shows these instants alone. -/
structure OpenAt (context : EngineContext) (call : CommitCall) (shown : Instant → Prop) :
    Prop where
  aside : OpenCall context call
  grantHeld : ∃ now, shown now ∧
    verifyGrant context.crypto call.grant context.keyring now context.clockSkew = .ok ()
  policyHeld : ∃ now, shown now ∧ PolicyPasses context call now
  envelopeHeld : ∃ now, shown now ∧ EnvelopePasses context call now

theorem open_at_any_time : OpenAt context call (fun _ => True) ↔ OpenCall context call := by
  have shown : ∀ {fact : Instant → Prop}, (∃ now, fact now) → ∃ now, True ∧ fact now :=
    fun held => held.imp (fun _ fact => ⟨trivial, fact⟩)
  constructor
  · exact OpenAt.aside
  · intro openCall
    exact ⟨openCall, shown openCall.grantHeld, shown openCall.policyHeld,
      shown openCall.envelopeHeld⟩

/-! ### Components that answer anything -/

def Timeless : EngineOp → Prop
  | .now => False
  | _ => True

/-- What the transitions of a lifecycle ask for, and the methods of an adapter. -/
def Recording : EngineOp → Prop
  | .audit _ => True
  | .recall _ => True
  | .remember _ _ => True
  | .lifecycle _ => True
  | .adapter _ _ => True
  | _ => False

/-- The clock shows some time, and the lifecycles and the adapters may answer anything. -/
structure Unhindered {World : Type} (handler : Handler EngineOp EngineReply PyError World)
    (world : World) : Prop where
  ticks : ∃ now, handler world .now (.ok now) world
  free : ∀ op reply, Recording op → handler world op reply world

/-- The clock shows some of these instants, and every other answer may be given. -/
structure Lenient (handler : Handler EngineOp EngineReply PyError Unit)
    (shown : Instant → Prop) : Prop where
  clocked : Clocked handler shown
  ticks : ∃ now, shown now
  free : ∀ op reply, Timeless op → handler () op reply ()

/-- The clock stands still, and every other answer may be given. -/
def stopped (now : Instant) : Handler EngineOp EngineReply PyError Unit :=
  fun _ op reply _ =>
    match op, reply with
    | .now, reply => reply = .ok now
    | _, _ => True

theorem stopped_lenient (now : Instant) : Lenient (stopped now) (fun instant => instant = now) where
  clocked := by
    intro world instant after
    constructor
    · intro answered
      exact ⟨Except.ok.inj answered, rfl⟩
    · intro answered
      exact congrArg Except.ok answered.1
  ticks := ⟨now, rfl⟩
  free := by
    intro op reply timeless
    cases op with
    | now => exact timeless.elim
    | _ => trivial

theorem unconstrained_lenient : Lenient unconstrained (fun _ => True) where
  clocked := fun _ _ _ => iff_of_true trivial ⟨trivial, rfl⟩
  ticks := ⟨0, trivial⟩
  free := fun _ _ _ => trivial

/-- An authorized manifest can enter COMMITTING. -/
theorem committing_transition_opens {World : Type}
    {handler : Handler EngineOp EngineReply PyError World} {world : World}
    (unhindered : Unhindered handler world) (manifestId : String) (note : TransitionNote) :
    ∃ record, (transition context manifestId .committing note).Yields handler world
      (.ok record) world := by
  have answers : ∀ {op : EngineOp} (reply : Except PyError (EngineReply op)), Recording op →
      (Program.perform op).Yields handler world reply world :=
    fun reply recording => yields_perform.mpr (unhindered.free _ reply recording)
  have persisted : (persistLifecycle context manifestId .authorized .committing).Yields handler
      world (.ok ()) world := by
    unfold persistLifecycle
    by_cases durable : context.hasLifecycleStore = true
    · rw [if_pos durable]
      refine yields_bind_ok.mpr ⟨some .authorized, world, answers _ trivial, ?_⟩
      exact yields_bind_ok.mpr ⟨true, world, answers _ trivial, rfl, rfl⟩
    · rw [if_neg durable]
      exact ⟨rfl, rfl⟩
  obtain ⟨now, shows⟩ := unhindered.ticks
  obtain ⟨advanced, legal⟩ : ∃ advanced,
      (LifecycleRecord.fresh manifestId .authorized).transition .committing now =
        .ok advanced := ⟨_, rfl⟩
  refine ⟨advanced, yields_bind_ok.mpr ⟨.fresh manifestId .authorized, world, ?_, ?_⟩⟩
  · exact yields_bind_ok.mpr
      ⟨some (.fresh manifestId .authorized), world, answers _ trivial, rfl, rfl⟩
  · refine yields_bind_ok.mpr ⟨now, world, yields_perform.mpr shows, ?_⟩
    simp only [legal]
    refine yields_bind_ok.mpr ⟨(), world, answers _ trivial, ?_⟩
    refine yields_bind_ok.mpr
      ⟨(), world, yields_attempt.mpr ⟨.ok (), world, persisted, rfl, rfl⟩, ?_⟩
    exact yields_bind_ok.mpr ⟨(), world, answers _ trivial, rfl, rfl⟩

section Gates

variable {handler : Handler EngineOp EngineReply PyError Unit} {shown : Instant → Prop}

theorem Lenient.answers (lenient : Lenient handler shown) {op : EngineOp}
    (reply : Except PyError (EngineReply op)) (timeless : Timeless op) :
    (Program.perform op).Yields handler () reply () :=
  yields_perform.mpr (lenient.free op reply timeless)

theorem Lenient.shows (lenient : Lenient handler shown) : ∃ now,
    (Program.perform EngineOp.now : Action Instant).Yields handler () (.ok now) () := by
  obtain ⟨now, shows⟩ := lenient.ticks
  exact ⟨now, yields_perform.mpr ((lenient.clocked () now ()).mpr ⟨shows, rfl⟩)⟩

/-! ### The gates -/

theorem registry_gate_opens (lenient : Lenient handler shown) {world after : Unit} :
    (registryGate context call).Yields handler world (.ok ()) after ↔
      (∃ registry, RegistryPasses context call registry) ∧ after = world := by
  unfold registryGate
  by_cases configured : context.hasAdapterRegistry = true
  · rw [if_pos configured, yields_bind_ok]
    constructor
    · rintro ⟨entry, between, told, rest⟩
      refine ⟨⟨⟨fun _ _ => entry⟩, fun _ => ?_⟩, rfl⟩
      cases trusted : requireEffect call.adapter.adapterId call.adapter.adapterVersion
          call.manifest.effectType entry with
      | ok capability => exact ⟨capability, rfl⟩
      | error error =>
          simp only [trusted] at rest
          exact absurd rest deny_never_passes
    · rintro ⟨⟨registry, passes⟩, same⟩
      obtain ⟨capability, trusted⟩ := passes configured
      refine ⟨registry.entries call.adapter.adapterId call.adapter.adapterVersion, (),
        lenient.answers _ trivial, ?_⟩
      simp only [trusted]
      exact ⟨rfl, same⟩
  · rw [if_neg configured]
    apply pure_passes
    exact ⟨⟨fun _ _ => none⟩, fun impossible => absurd impossible configured⟩

theorem revocation_gate_opens (lenient : Lenient handler shown) :
    (revocationGate call).Yields handler () (.ok ()) () :=
  yields_bind_ok.mpr ⟨false, (), lenient.answers _ trivial, rfl, rfl⟩

/-- The walk ends at a recorded root, unless the grant is its own parent. -/
theorem ancestors_may_clear (lenient : Lenient handler shown) :
    (∃ ancestors, (assertNoRevokedAncestors call.grant maxDelegationDepth).Yields handler ()
      (.ok ancestors) ()) ↔ call.grant.parentGrantId ≠ some call.grantId := by
  have bounded : ¬ (maxDelegationDepth < 1 ∨ maxDelegationDepth < maxDelegationDepth) := by decide
  unfold assertNoRevokedAncestors
  rw [if_neg bounded]
  cases parent : call.grant.parentGrantId with
  | none => exact iff_of_true ⟨[], rfl, rfl⟩ (by simp)
  | some above =>
      have start : ∀ ancestors, (walkAncestors call.grant.grantId maxDelegationDepth
          maxDelegationDepth above []).Yields handler () (.ok ancestors) () →
            above ≠ call.grantId := by
        intro ancestors ends same
        change (if above = call.grant.grantId ∨ above ∈ ([] : List String) then
          .raised (lineageCycle call.grant.grantId above) else _ :
            Action (List String)).Yields _ _ _ _ at ends
        have own : above = call.grant.grantId := same
        rw [if_pos (Or.inl own)] at ends
        cases ends.1
      constructor
      · rintro ⟨ancestors, ends⟩ same
        exact start ancestors ends (Option.some.inj same)
      · intro foreign
        have distinct : ¬ (above = call.grant.grantId ∨ above ∈ ([] : List String)) := by
          rintro (same | member)
          · exact foreign (congrArg some same)
          · cases member
        refine ⟨[above], ?_⟩
        change (if above = call.grant.grantId ∨ above ∈ ([] : List String) then
          .raised (lineageCycle call.grant.grantId above) else _ :
            Action (List String)).Yields _ _ _ _
        rw [if_neg distinct]
        refine yields_bind_ok.mpr ⟨false, (), lenient.answers _ trivial, ?_⟩
        refine yields_bind_ok.mpr ⟨none, (), ?_, rfl, rfl⟩
        refine yields_bind_ok.mpr ⟨none, (), lenient.answers _ trivial, ?_⟩
        exact yields_bind_ok.mpr ⟨true, (), lenient.answers _ trivial, rfl, rfl⟩

theorem ancestor_gate_opens (lenient : Lenient handler shown) :
    (ancestorGate call).Yields handler () (.ok ()) () ↔
      call.grant.parentGrantId ≠ some call.grantId := by
  rw [← ancestors_may_clear lenient]
  unfold ancestorGate
  rw [yields_attempt]
  constructor
  · rintro ⟨middle, _, walked, rest⟩
    cases middle with
    | ok ancestors => exact ⟨ancestors, walked⟩
    | error error =>
        simp only at rest
        by_cases refusal : error.isLineageRefusal = true
        · simp only [refusal, if_true, ancestorRefused] at rest
          by_cases revoked : error.kind = .grantRevoked
          · rw [if_pos revoked] at rest
            exact absurd rest deny_never_passes
          · rw [if_neg revoked] at rest
            exact absurd rest deny_never_passes
        · simp only [refusal, Bool.false_eq_true, if_false] at rest
          cases rest.1
  · rintro ⟨ancestors, walked⟩
    refine ⟨.ok ancestors, (), walked, ?_⟩
    by_cases root : ancestors = []
    · simp only [root, if_true]
      exact ⟨rfl, rfl⟩
    · simp only [root, if_false]
      exact lenient.answers _ trivial

/-- The static gates, each at a moment of its own. -/
theorem static_gates_open (lenient : Lenient handler shown) {world after : Unit} :
    (staticGates context call).Yields handler world (.ok ()) after ↔
      (verifySeal context.crypto call.sealed context.keyring = .ok () ∧
        (∃ now, shown now ∧
          verifyGrant context.crypto call.grant context.keyring now context.clockSkew = .ok ()) ∧
        call.grant.manifestHash = some call.manifestHash ∧
        (∃ now, shown now ∧ PolicyPasses context call now) ∧
        (∃ now, shown now ∧ EnvelopePasses context call now) ∧
        GraphPasses context call ∧
        call.adapter.adapterId ∈ call.grant.audience ∧
        call.manifest.adapter = call.adapter ∧
        (∃ registry, RegistryPasses context call registry) ∧
        call.manifest.effectType ∈ call.grant.allowedEffectTypes) ∧
      after = world := by
  unfold staticGates
  rw [then_passes (fun _ => seal_gate_passes)
    (then_passes (fun _ => grant_gate_yields lenient.clocked)
      (then_passes (fun _ => manifest_gate_passes)
        (then_passes (fun _ => policy_gate_yields lenient.clocked lenient.ticks)
          (then_passes (fun _ => envelope_gate_yields lenient.clocked lenient.ticks)
            (then_passes (fun _ => graph_gate_passes)
              (then_passes (fun _ => audience_gate_passes)
                (then_passes (fun _ => identity_gate_passes)
                  (then_passes (fun _ => registry_gate_opens lenient)
                    effect_type_gate_passes))))))))]

theorem gates_open (lenient : Lenient handler shown) :
    (gates context call).Yields handler () (.ok ()) () ↔
      (staticGates context call).Yields handler () (.ok ()) () ∧
        call.grant.parentGrantId ≠ some call.grantId := by
  rw [gates_split, yields_bind_ok]
  constructor
  · rintro ⟨_, _, passed, rest⟩
    obtain ⟨_, _, _, cleared⟩ := yields_bind_ok.mp rest
    exact ⟨passed, (ancestor_gate_opens lenient).mp cleared⟩
  · rintro ⟨passed, foreign⟩
    exact ⟨(), (), passed, yields_bind_ok.mpr
      ⟨(), (), revocation_gate_opens lenient, (ancestor_gate_opens lenient).mpr foreign⟩⟩

/-! ### What stands between the gates and the adapter -/

theorem apart_gates (call : CommitCall) : Apart call.adapter (gates context call) :=
  apart_of_reads (gates_use context call)

theorem apart_deny {Value : Type} (eventType decision : String) (error : PyError) :
    Apart call.adapter (deny call eventType decision error : Action Value) :=
  apart_of_checks (deny_uses call _ _ _)

theorem apart_budget (call : CommitCall) : Apart call.adapter (reserveBudget context call) := by
  unfold reserveBudget
  cases call.grant.authorityBudgetId with
  | none => trivial
  | some budgetId =>
      refine Program.Uses.bind (Program.Uses.attempt ?_ (fun outcome => ?_)) (fun amount => ?_)
      · refine Program.Uses.bind ?_ (fun budget => Program.uses_settle _ _)
        unfold requireBudget
        split
        · exact (Program.uses_perform _ _).mpr not_false
        · trivial
      · cases outcome with
        | ok amount => trivial
        | error error =>
            by_cases known : error.isAuthorityBudget = true
            · simp only [known, if_true]
              exact apart_deny _ _ _
            · simp only [known, Bool.false_eq_true, if_false]
              trivial
      · refine Program.Uses.after not_false (fun reserved => ?_)
        cases reserved with
        | true => trivial
        | false => exact Program.Uses.after not_false (fun remaining => apart_deny _ _ _)

theorem budget_opens (lenient : Lenient handler shown) :
    (∃ hold, (reserveBudget context call).Yields handler () (.ok hold) ()) ↔
      BudgetOpen context call := by
  unfold reserveBudget BudgetOpen
  cases bound : call.grant.authorityBudgetId with
  | none => exact iff_of_true ⟨none, rfl, rfl⟩ (by simp)
  | some budgetId =>
      by_cases ledger : context.hasBudgetLedger = true
      · refine iff_of_true ⟨some (budgetId, 1), ?_⟩ (fun _ => ledger)
        refine yields_bind_ok.mpr ⟨1, (), ?_, yields_bind_ok.mpr
          ⟨true, (), lenient.answers _ trivial, rfl, rfl⟩⟩
        refine yields_attempt.mpr ⟨.ok 1, (), ?_, rfl, rfl⟩
        refine yields_bind_ok.mpr
          ⟨⟨"1.0", "b", .count 1 (by decide), by decide⟩, (), ?_, rfl, rfl⟩
        unfold requireBudget
        rw [if_pos ledger]
        exact lenient.answers _ trivial
      · refine iff_of_false ?_ (fun open_ => ledger (open_ rfl))
        rintro ⟨hold, ends⟩
        obtain ⟨amount, _, resolved, _⟩ := yields_bind_ok.mp ends
        obtain ⟨outcome, _, read, rest⟩ := yields_attempt.mp resolved
        cases outcome with
        | ok amount =>
            obtain ⟨budget, _, required, _⟩ := yields_bind_ok.mp read
            unfold requireBudget at required
            rw [if_neg ledger] at required
            cases required.1
        | error error =>
            simp only at rest
            by_cases known : error.isAuthorityBudget = true
            · simp only [known, if_true] at rest
              exact absurd rest deny_never_passes
            · simp only [known, Bool.false_eq_true, if_false] at rest
              cases rest.1

theorem Lenient.unhindered (lenient : Lenient handler shown) : Unhindered handler () where
  ticks := by
    obtain ⟨now, shows⟩ := lenient.ticks
    exact ⟨now, (lenient.clocked () now ()).mpr ⟨shows, rfl⟩⟩
  free := by
    intro op reply recording
    apply lenient.free
    cases op with
    | now => exact recording.elim
    | _ => trivial

theorem committing_opens (lenient : Lenient handler shown) (hold : BudgetHold) :
    (enterCommitting context call hold).Yields handler () (.ok ()) () := by
  obtain ⟨record, moved⟩ := @committing_transition_opens context _ _ () lenient.unhindered
    call.manifestId (call.note "effect.committing" (budgetMetadata hold))
  exact yields_attempt.mpr ⟨.ok record, (), moved, rfl, rfl⟩

theorem outbox_opens (lenient : Lenient handler shown) (hold : BudgetHold) :
    (recordOutbox context call hold).Yields handler () (.ok ()) () := by
  unfold recordOutbox
  by_cases configured : context.hasOutboxStore = true
  · obtain ⟨now, shows⟩ := lenient.shows
    rw [if_pos configured]
    refine yields_bind_ok.mpr ⟨now, (), shows, ?_⟩
    exact yields_attempt.mpr ⟨.ok (), (), lenient.answers _ trivial, rfl, rfl⟩
  · rw [if_neg configured]
    exact ⟨rfl, rfl⟩

/-- Once the outbox is written, the adapter may be invoked. -/
theorem execute_may_invoke (lenient : Lenient handler shown) (hold : BudgetHold) :
    (execute context call hold).Reaches handler (Invokes call.adapter) () := by
  refine reaches_bind.mpr (Or.inr ⟨none, (), lenient.answers _ trivial, ?_⟩)
  refine reaches_bind.mpr (Or.inr ⟨(), (), ?_, ?_⟩)
  · exact yields_attempt.mpr ⟨.ok ⟨true, none, none⟩, (), lenient.answers _ trivial, rfl, rfl⟩
  · exact reaches_attempt.mpr (Or.inl (reaches_perform.mpr ⟨_, _, rfl⟩))

/-- A commit can reach its adapter exactly when its arguments are in order. -/
theorem commit_reaches (lenient : Lenient handler shown) :
    (commit context call).Reaches handler (Invokes call.adapter) () ↔
      OpenAt context call shown ∧ GraphPasses context call := by
  have sometime : ∀ {fact : Instant → Prop}, (∃ now, shown now ∧ fact now) → ∃ now, fact now :=
    fun held => held.imp (fun _ both => both.2)
  unfold commit
  rw [reaches_after (apart_gates call)]
  constructor
  · rintro ⟨_, _, passed, rest⟩
    obtain ⟨hold, _, reserved, _⟩ := (reaches_after (apart_budget call)).mp rest
    obtain ⟨static, foreignParent⟩ := (gates_open lenient).mp passed
    obtain ⟨⟨sealHeld, grantHeld, manifestBound, policyHeld, envelopeHeld, graphHeld, inAudience,
      sameAdapter, registryHeld, effectAllowed⟩, _⟩ := (static_gates_open lenient).mp static
    exact ⟨⟨⟨sealHeld, sometime grantHeld, manifestBound, sometime policyHeld,
      sometime envelopeHeld, inAudience, sameAdapter, registryHeld, effectAllowed, foreignParent,
      (budget_opens lenient).mp ⟨hold, reserved⟩⟩, grantHeld, policyHeld, envelopeHeld⟩, graphHeld⟩
  · rintro ⟨openAt, graphHeld⟩
    have openCall := openAt.aside
    obtain ⟨hold, reserved⟩ := (budget_opens lenient).mpr openCall.budgetOpen
    have static : (staticGates context call).Yields handler () (.ok ()) () :=
      (static_gates_open lenient).mpr
        ⟨⟨openCall.sealHeld, openAt.grantHeld, openCall.manifestBound, openAt.policyHeld,
          openAt.envelopeHeld, graphHeld, openCall.inAudience, openCall.sameAdapter,
          openCall.registryHeld, openCall.effectAllowed⟩, rfl⟩
    refine ⟨(), (), (gates_open lenient).mpr ⟨static, openCall.foreignParent⟩, ?_⟩
    refine reaches_bind.mpr (Or.inr ⟨hold, (), reserved, ?_⟩)
    refine reaches_bind.mpr (Or.inr ⟨(), (), ?_, ?_⟩)
    · exact yields_bind_ok.mpr ⟨true, (), lenient.answers _ trivial, rfl, rfl⟩
    refine reaches_bind.mpr (Or.inr ⟨(), (), committing_opens lenient hold, ?_⟩)
    exact reaches_bind.mpr
      (Or.inr ⟨(), (), outbox_opens lenient hold, execute_may_invoke lenient hold⟩)

end Gates

theorem commit_may_invoke :
    (commit context call).MayIssue (Invokes call.adapter) ↔
      OpenCall context call ∧ GraphPasses context call := by
  rw [may_issue_iff_reaches, commit_reaches unconstrained_lenient, open_at_any_time]

end KarmaSakshi.Engine
