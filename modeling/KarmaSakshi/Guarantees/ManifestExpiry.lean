import KarmaSakshi.Engine.OpenCompensation
import KarmaSakshi.Engine.Scenario
import KarmaSakshi.Library.Periods
import Mathlib.Data.Int.SuccPred

/-!
The expiry of a manifest, and what is executed after it.

The windows of the grant, of the policy bundle and of the envelope are checked; the window
of the manifest is not.  So a manifest is refused in time only where one of the others closes
in time.
-/

namespace KarmaSakshi.Guarantees

open EffectProgram KarmaSakshi.Domain KarmaSakshi.Engine KarmaSakshi.Library

set_option autoImplicit false

/-! ### Windows that are checked -/

section Windows

variable {context : EngineContext} {now earlier : Instant}

def grantPeriod (context : EngineContext) (grant : ExecutionGrant) : Period Instant :=
  ⟨grant.notBefore - context.clockSkew.leeway, some (grant.expiresAt + context.clockSkew.leeway)⟩

/-- A bundle is in force until just before `effective_until`. -/
def bundlePeriod (bundle : PolicyBundle) : Period Instant :=
  ⟨bundle.effectiveFrom, bundle.effectiveUntil.map (· - 1)⟩

def envelopePeriod (envelope : DecisionEnvelope) : Period Instant :=
  ⟨envelope.notBefore, some (envelope.expiresAt - 1)⟩

/-- The bundle that a grant binds. -/
def boundBundle (grant : ExecutionGrant) (presented : Option SealedPolicyBundle) :
    Option PolicyBundle :=
  if grant.policyBundleHash.isSome then presented.map SealedPolicyBundle.bundle else none

def boundEnvelope (grant : ExecutionGrant) (presented : Option DecisionEnvelope) :
    Option DecisionEnvelope :=
  if grant.decisionEnvelopeHash.isSome then presented else none

def commitPeriods (context : EngineContext) (call : CommitCall) : List (Period Instant) :=
  grantPeriod context call.grant ::
    ((boundBundle call.grant call.policyBundle).toList.map bundlePeriod ++
      (boundEnvelope call.grant call.decisionEnvelope).toList.map envelopePeriod)

def compensationPeriods (context : EngineContext) (call : CompensationCall) :
    List (Period Instant) :=
  grantPeriod context call.grant ::
    (boundBundle call.grant call.policyBundle).toList.map bundlePeriod

theorem grant_holds_again {grant : ExecutionGrant}
    (once : verifyGrant context.crypto grant context.keyring earlier context.clockSkew = .ok ()) :
    verifyGrant context.crypto grant context.keyring now context.clockSkew = .ok () ↔
      (grantPeriod context grant).Holds now := by
  unfold verifyGrant at once ⊢
  rw [check_then_ok] at once ⊢
  rw [and_iff_right once.1]
  constructor
  · intro within
    obtain ⟨started, running⟩ := grant_window_open within
    refine ⟨started, ?_⟩
    intro closing closes
    obtain rfl := Option.some.inj closes
    exact running
  · intro holds
    exact grant_window_passes holds.1 (holds.2 _ rfl)

theorem bundle_holds_again {sealedBundle : SealedPolicyBundle}
    (once : verifyPolicyBundle context.crypto sealedBundle context.keyring earlier none = .ok ()) :
    verifyPolicyBundle context.crypto sealedBundle context.keyring now none = .ok () ↔
      (bundlePeriod sealedBundle.bundle).Holds now := by
  rw [policy_bundle_in_force] at once ⊢
  rw [and_iff_right once.1]
  apply and_congr_right'
  constructor
  · intro running closing closes
    obtain ⟨ending, ends, rfl⟩ := Option.map_eq_some_iff.mp closes
    exact Int.le_sub_one_of_lt (running ending ends)
  · intro running ending ends
    exact Int.lt_of_le_sub_one (running _ (Option.map_eq_some_iff.mpr ⟨ending, ends, rfl⟩))

theorem envelope_holds_again {envelope : DecisionEnvelope}
    (once : verifyDecisionEnvelope context.crypto envelope context.keyring earlier = .ok ()) :
    verifyDecisionEnvelope context.crypto envelope context.keyring now = .ok () ↔
      (envelopePeriod envelope).Holds now := by
  rw [envelope_in_force] at once ⊢
  rw [and_iff_right once.1]
  apply and_congr_right'
  constructor
  · intro running closing closes
    obtain rfl := Option.some.inj closes
    exact Int.le_sub_one_of_lt running
  · intro running
    exact Int.lt_of_le_sub_one (running _ rfl)

/-- A bound bundle that was in force once is in force in its period. -/
theorem bound_bundle_again {call : CompensationCall}
    (once : CompensationPolicyPasses context call earlier) :
    CompensationPolicyPasses context call now ↔
      ∀ bundle ∈ boundBundle call.grant call.policyBundle, (bundlePeriod bundle).Holds now := by
  constructor
  · intro passes bundle bound
    unfold boundBundle at bound
    by_cases binds : call.grant.policyBundleHash.isSome = true
    · rw [if_pos binds] at bound
      obtain ⟨presented, shown, rfl⟩ := Option.map_eq_some_iff.mp bound
      obtain ⟨hash, named⟩ := Option.isSome_iff_exists.mp binds
      obtain ⟨held, heldShown, verified, _⟩ := passes hash named
      obtain rfl := Option.some.inj (shown.symm.trans heldShown)
      exact (bundle_holds_again verified).mp verified
    · rw [if_neg binds] at bound
      cases bound
  · intro holds hash named
    obtain ⟨presented, shown, verified, same⟩ := once hash named
    refine ⟨presented, shown, (bundle_holds_again verified).mpr (holds _ ?_), same⟩
    rw [boundBundle, if_pos (Option.isSome_of_eq_some named), shown]
    rfl

theorem policy_passes_again {call : CommitCall} (once : PolicyPasses context call earlier) :
    PolicyPasses context call now ↔
      ∀ bundle ∈ boundBundle call.grant call.policyBundle, (bundlePeriod bundle).Holds now := by
  have again := @bound_bundle_again context now earlier
    ⟨call.sealed, call.sealed, call.grant, call.adapter, ⟨true, "", none, none, none⟩,
      call.policyBundle⟩ once.bound
  constructor
  · intro passes
    exact again.mp passes.bound
  · intro holds
    exact ⟨again.mpr holds, once.tenant⟩

theorem envelope_passes_again {call : CommitCall} (once : EnvelopePasses context call earlier) :
    EnvelopePasses context call now ↔
      ∀ envelope ∈ boundEnvelope call.grant call.decisionEnvelope,
        (envelopePeriod envelope).Holds now := by
  constructor
  · intro passes envelope bound
    unfold boundEnvelope at bound
    by_cases binds : call.grant.decisionEnvelopeHash.isSome = true
    · rw [if_pos binds] at bound
      obtain ⟨hash, named⟩ := Option.isSome_iff_exists.mp binds
      obtain ⟨held, shown, verified, _⟩ := passes hash named
      obtain rfl := Option.some.inj (shown.symm.trans bound)
      exact (envelope_holds_again verified).mp verified
    · rw [if_neg binds] at bound
      cases bound
  · intro holds hash named
    obtain ⟨envelope, shown, verified, rest⟩ := once hash named
    refine ⟨envelope, shown, (envelope_holds_again verified).mpr (holds _ ?_), rest⟩
    rw [boundEnvelope, if_pos (Option.isSome_of_eq_some named)]
    exact shown

end Windows

/-- The arguments are in order at an instant when they are so at some and every window holds. -/
theorem open_at_instant {context : EngineContext} {call : CommitCall} {now : Instant} :
    OpenAt context call (fun instant => instant = now) ↔
      OpenCall context call ∧ ∀ period ∈ commitPeriods context call, period.Holds now := by
  have windows : OpenCall context call →
      ((∀ period ∈ commitPeriods context call, period.Holds now) ↔
        verifyGrant context.crypto call.grant context.keyring now context.clockSkew = .ok () ∧
          PolicyPasses context call now ∧ EnvelopePasses context call now) := by
    intro opens
    obtain ⟨_, granted⟩ := opens.grantHeld
    obtain ⟨_, permitted⟩ := opens.policyHeld
    obtain ⟨_, enveloped⟩ := opens.envelopeHeld
    rw [grant_holds_again granted, policy_passes_again permitted,
      envelope_passes_again enveloped, commitPeriods, List.forall_mem_cons,
      List.forall_mem_append, List.forall_mem_map, List.forall_mem_map]
    simp only [Option.mem_toList, Option.mem_def]
  constructor
  · intro opens
    obtain ⟨_, rfl, granted⟩ := opens.grantHeld
    obtain ⟨_, rfl, permitted⟩ := opens.policyHeld
    obtain ⟨_, rfl, enveloped⟩ := opens.envelopeHeld
    exact ⟨opens.aside, (windows opens.aside).mpr ⟨granted, permitted, enveloped⟩⟩
  · intro opens
    obtain ⟨granted, permitted, enveloped⟩ := (windows opens.1).mp opens.2
    exact ⟨opens.1, ⟨now, rfl, granted⟩, ⟨now, rfl, permitted⟩, ⟨now, rfl, enveloped⟩⟩

theorem open_compensation_at_instant {context : EngineContext} {call : CompensationCall}
    {now : Instant} :
    OpenCompensation context call (fun instant => instant = now) ↔
      OpenCompensation context call (fun _ => True) ∧
        ∀ period ∈ compensationPeriods context call, period.Holds now := by
  have windows : CompensationChecks context call (fun _ => True) →
      ((∀ period ∈ compensationPeriods context call, period.Holds now) ↔
        verifyGrant context.crypto call.grant context.keyring now context.clockSkew = .ok () ∧
          CompensationPolicyPasses context call now) := by
    intro checks
    obtain ⟨_, _, granted⟩ := checks.grantHeld
    obtain ⟨_, _, permitted⟩ := checks.policyHeld
    rw [grant_holds_again granted, bound_bundle_again permitted, compensationPeriods,
      List.forall_mem_cons, List.forall_mem_map]
    simp only [Option.mem_toList, Option.mem_def]
  constructor
  · intro opens
    have checks := opens.checks
    obtain ⟨_, rfl, granted⟩ := checks.grantHeld
    obtain ⟨_, rfl, permitted⟩ := checks.policyHeld
    have sometime : CompensationChecks context call (fun _ => True) :=
      { checks with
        grantHeld := ⟨_, trivial, granted⟩
        policyHeld := ⟨_, trivial, permitted⟩ }
    exact ⟨⟨sometime, opens.trusted⟩, (windows sometime).mpr ⟨granted, permitted⟩⟩
  · intro opens
    obtain ⟨granted, permitted⟩ := (windows opens.1.checks).mp opens.2
    exact ⟨{ opens.1.checks with
      grantHeld := ⟨now, rfl, granted⟩
      policyHeld := ⟨now, rfl, permitted⟩ }, opens.1.trusted⟩

/-! ### The expiry -/

/-- The clock shows one instant while the handler answers. -/
def StandsStill {World : Type} (handler : Handler EngineOp EngineReply PyError World)
    (now : Instant) : Prop :=
  ∀ world reply after, handler world .now reply after → reply = .ok now

/-- Whatever the components answer at an instant, a run that performs a wanted operation is not
past the limit. -/
def PerformedBy (program : Action CommitResult) (wanted : EngineOp → Prop) (limit : Instant) :
    Prop :=
  ∀ (World : Type) (handler : Handler EngineOp EngineReply PyError World) (now : Instant),
    StandsStill handler now →
      ∀ (before after : World) (events : List EngineEvent) (rest : Action CommitResult),
        Steps handler program before events rest after →
          (∃ event ∈ events, wanted event.op) → now ≤ limit

/-- `commit` invokes the adapter no later than the manifest expires, up to the leeway. -/
def ExpiryHeld (context : EngineContext) (call : CommitCall) : Prop :=
  PerformedBy (commit context call) (Invokes call.adapter)
    (call.manifest.expiresAt + context.clockSkew.leeway)

/-- `commit_compensation` invokes the adapter no later than the compensation manifest expires, up
to the leeway. -/
def CompensationExpiryHeld (context : EngineContext) (call : CompensationCall) : Prop :=
  PerformedBy (commitCompensation context call) (Compensates call.adapter)
    (call.compensation.manifest.expiresAt + context.clockSkew.leeway)

theorem invokes_timeless {adapter : AdapterIdentity} (op : EngineOp) (wants : Invokes adapter op) :
    Timeless op := by
  obtain ⟨manifest, validation, rfl⟩ := wants
  trivial

theorem compensates_timeless {adapter : AdapterIdentity} (op : EngineOp)
    (wants : Compensates adapter op) : Timeless op := by
  obtain ⟨manifest, commitResult, rfl⟩ := wants
  trivial

theorem performed_by_iff {program : Action CommitResult} {wanted : EngineOp → Prop}
    {limit : Instant} (timeless : ∀ op, wanted op → Timeless op) :
    PerformedBy program wanted limit ↔
      ∀ now, program.Reaches (stopped now) wanted () → now ≤ limit := by
  constructor
  · intro held now reaches
    have answerable : ∀ op (world : Unit), wanted op → ∃ reply after,
        stopped now world op reply after :=
      fun op _ wants => ⟨.error ⟨.runtimeError, ""⟩, (),
        (stopped_lenient now).free op _ (timeless op wants)⟩
    obtain ⟨events, rest, after, run, performed⟩ := reaches.run answerable
    have still : StandsStill (stopped now) now := fun _ _ _ answered => answered
    exact held Unit (stopped now) now still () after events rest run performed
  · intro early World handler now still before after events rest run performed
    have weakens : ∀ world op reply after, handler world op reply after →
        stopped now () op reply () := by
      intro world op reply after answered
      cases op with
      | now => exact still world reply after answered
      | _ => trivial
    obtain ⟨event, member, wants⟩ := performed
    exact early now ((run.forget weakens).reaches member wants)

/-- The expiry of a manifest is kept exactly where a window that is checked closes in time, or
the windows never hold together, or the arguments let nothing through. -/
theorem manifest_expiry_held_iff {context : EngineContext} {call : CommitCall}
    {compensation : CompensationCall} :
    (ExpiryHeld context call ↔
      Period.Expire (commitPeriods context call)
          (call.manifest.expiresAt + context.clockSkew.leeway) ∨
        ¬ (OpenCall context call ∧ GraphPasses context call)) ∧
    (CompensationExpiryHeld context compensation ↔
      Period.Expire (compensationPeriods context compensation)
          (compensation.compensation.manifest.expiresAt + context.clockSkew.leeway) ∨
        ¬ OpenCompensation context compensation (fun _ => True)) := by
  have decided : ∀ {opens : Prop} {periods : List (Period Instant)} {limit : Instant},
      (∀ now, opens ∧ (∀ period ∈ periods, period.Holds now) → now ≤ limit) ↔
        Period.Expire periods limit ∨ ¬ opens := by
    intro opens periods limit
    rw [Period.expire_iff, or_comm, ← imp_iff_not_or]
    exact ⟨fun early opened now holds => early now ⟨opened, holds⟩,
      fun early now both => early both.1 now both.2⟩
  constructor
  · unfold ExpiryHeld
    rw [performed_by_iff invokes_timeless, ← decided]
    apply forall_congr'
    intro now
    rw [commit_reaches (stopped_lenient now), open_at_instant, and_right_comm]
  · unfold CompensationExpiryHeld
    rw [performed_by_iff compensates_timeless, ← decided]
    apply forall_congr'
    intro now
    rw [compensation_opens (stopped_lenient now), open_compensation_at_instant]

/-! ### A transfer on the day after -/

namespace Expired

/-- Twelve hours after the manifest has expired. -/
def nextNoon : Instant := Payment.closing + 12 * 3600 * 1000000

def grantHash : String :=
  "sha256:a95def27661a25145aaddfd8a72d6e58ad0fe148b0ad55bde17f0dde516fa849"

def grantSignature : String :=
  "XV88WPZIaqwchF1wLH99ZbV30GA/SgiYeie2vGp0Q+DD4MIdB5dfso/Y7aDHaUf5Lct+wLDDCbcb4UkMdqaPAw=="

/-- A grant that lasts a day longer than the manifest. -/
def lastingGrant : ExecutionGrant :=
  { Payment.transferGrant with
    grantId := "grant-10"
    expiresAt := Payment.closing + 24 * 3600 * 1000000
    nonce := "nonce-grant-10"
    signature := some grantSignature
    grantIdBounded := by decide
    nonceBounded := by decide
    windowOpen := by decide }

def crypto : CryptoPrimitives :=
  { Payment.crypto with
    grantDigest := fun _ => grantHash
    ed25519Verify := fun publicKey data signature =>
      publicKey == Payment.issuerKey.publicKey &&
        [(Payment.transferHash, Payment.sealedTransfer.seal.signature),
          (grantHash, grantSignature)].contains (data, signature) }

def context : EngineContext := { Payment.context with crypto }

def call : CommitCall := Payment.commitOf Payment.sealedTransfer lastingGrant

theorem grant_verifies :
    verifyGrant crypto lastingGrant context.keyring nextNoon context.clockSkew = .ok () := rfl

theorem policy_passes : PolicyPasses context call nextNoon where
  bound := by
    intro hash binds
    cases binds
  tenant := by
    intro bundle presented
    cases presented

theorem envelope_passes : EnvelopePasses context call nextNoon := by
  intro hash binds
  cases binds

theorem call_is_open : OpenAt context call (fun instant => instant = nextNoon) where
  aside :=
    { sealHeld := rfl
      grantHeld := ⟨nextNoon, grant_verifies⟩
      manifestBound := rfl
      policyHeld := ⟨nextNoon, policy_passes⟩
      envelopeHeld := ⟨nextNoon, envelope_passes⟩
      inAudience := List.mem_cons_self
      sameAdapter := rfl
      registryHeld := ⟨⟨fun _ _ => none⟩, fun configured => by cases configured⟩
      effectAllowed := List.mem_cons_self
      foreignParent := fun own => by cases own
      budgetOpen := fun bound => by cases bound }
  grantHeld := ⟨nextNoon, rfl, grant_verifies⟩
  policyHeld := ⟨nextNoon, rfl, policy_passes⟩
  envelopeHeld := ⟨nextNoon, rfl, envelope_passes⟩

theorem call_is_planless : GraphPasses context call := by
  intro hash binds
  cases binds

end Expired

/-- The grant is still good, so the transfer of an expired manifest is executed. -/
theorem expired_manifest_commits :
    Expired.call.manifest.expiresAt + Expired.context.clockSkew.leeway < Expired.nextNoon ∧
      ¬ ExpiryHeld Expired.context Expired.call := by
  have late : Expired.call.manifest.expiresAt + Expired.context.clockSkew.leeway <
      Expired.nextNoon := by decide
  refine ⟨late, ?_⟩
  intro held
  have reaches := (commit_reaches (stopped_lenient Expired.nextNoon)).mpr
    ⟨Expired.call_is_open, Expired.call_is_planless⟩
  have early := (performed_by_iff invokes_timeless).mp held _ reaches
  exact absurd early (not_le.mpr late)

end KarmaSakshi.Guarantees
