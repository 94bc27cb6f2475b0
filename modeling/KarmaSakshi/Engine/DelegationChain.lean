import KarmaSakshi.Domain.AttenuationOrder
import KarmaSakshi.Engine.AncestorWalk

/-!
The verification of a delegation chain, from its root to its leaf.

Every grant of the chain is verified and looked up among the revoked ones, and then every
link is compared.  The leeway of the time window is the caller's, of any length and sign.
-/

namespace KarmaSakshi.Domain

set_option autoImplicit false

/-! ### The time window with any leeway -/

/-- `datetime.min` and `datetime.max`. -/
def datetimeMin : Instant := -62135596800000000

def datetimeMax : Instant := 253402300799999999

/-- `instant + offset`, which a datetime may be too small for. -/
def Instant.shifted (instant : Instant) (offset : Int) : Except PyError Instant :=
  if datetimeMin ≤ instant + offset ∧ instant + offset ≤ datetimeMax then .ok (instant + offset)
  else .error ⟨.other "OverflowError", "date value out of range"⟩

/-- `verify_grant_time_window` with the leeway its caller chooses. -/
def verifyGrantWindow (grant : ExecutionGrant) (now : Instant) (leeway : Int) :
    Except PyError Unit := do
  let earliest ← grant.notBefore.shifted (-leeway)
  let latest ← grant.expiresAt.shifted leeway
  let observed := " (now=" ++ now.isoformat ++ ", leeway=" ++ timedeltaText leeway ++ ")"
  if now < earliest then
    .error ⟨.grantNotYetValid, "grant " ++ grant.grantId ++ " is not valid before " ++
      grant.notBefore.isoformat ++ observed⟩
  else if latest < now then
    .error ⟨.grantExpired, "grant " ++ grant.grantId ++ " expired at " ++
      grant.expiresAt.isoformat ++ observed⟩
  else .ok ()

/-- `verify_grant` with the leeway its caller chooses. -/
def verifyGrantAt (crypto : CryptoPrimitives) (grant : ExecutionGrant) (keyring : Keyring)
    (now : Instant) (leeway : Int) : Except PyError Unit := do
  verifyGrantSignature crypto grant keyring
  verifyGrantWindow grant now leeway

theorem shifted_ok {instant shifted : Instant} {offset : Int}
    (fits : instant.shifted offset = .ok shifted) : shifted = instant + offset := by
  unfold Instant.shifted at fits
  by_cases inRange : datetimeMin ≤ instant + offset ∧ instant + offset ≤ datetimeMax
  · rw [if_pos inRange] at fits
    exact (Except.ok.inj fits).symm
  · rw [if_neg inRange] at fits
    cases fits

theorem timedelta_text_seconds {seconds : Nat} (bounded : seconds < 86400) :
    timedeltaText (seconds * microsPerSecond) = durationText seconds := by
  have whole : (seconds : Int) * microsPerSecond / microsPerSecond = seconds :=
    Int.mul_ediv_cancel _ (by decide)
  have exact : (seconds : Int) * microsPerSecond % microsPerSecond = 0 :=
    Int.mul_emod_left _ _
  have withinDay : (seconds : Int) / 86400 = 0 := by omega
  have clock : ((seconds : Int) % 86400).toNat = seconds := by omega
  simp [timedeltaText, whole, exact, withinDay, clock]

/-- A clock skew policy is one choice of leeway. -/
theorem window_at_skew {grant : ExecutionGrant} {now : Instant} {skew : ClockSkewPolicy}
    (started : datetimeMin ≤ grant.notBefore - skew.leeway ∧
      grant.notBefore - skew.leeway ≤ datetimeMax)
    (ended : datetimeMin ≤ grant.expiresAt + skew.leeway ∧
      grant.expiresAt + skew.leeway ≤ datetimeMax) :
    verifyGrantWindow grant now skew.leeway = verifyGrantTimeWindow grant now skew := by
  have text : timedeltaText skew.leeway = durationText skew.leewaySeconds := by
    have bounded := skew.bounded
    exact timedelta_text_seconds (by omega)
  have first : grant.notBefore.shifted (-skew.leeway) = .ok (grant.notBefore - skew.leeway) :=
    if_pos started
  have last : grant.expiresAt.shifted skew.leeway = .ok (grant.expiresAt + skew.leeway) :=
    if_pos ended
  rw [verifyGrantWindow, first, last, text]
  rfl

end KarmaSakshi.Domain

namespace KarmaSakshi.Engine

open EffectProgram KarmaSakshi.Domain KarmaSakshi.Stores

/-! ### The chain -/

/-- The arguments of `verify_delegation_chain` but the grants and their store. -/
structure ChainCheck where
  crypto : CryptoPrimitives
  keyring : Keyring
  now : Instant
  leeway : Int

/-- `repr` of a parent id, which may be `None`. -/
private def declared (grant : ExecutionGrant) : String :=
  "declares parent_grant_id=" ++ pyReprOption grant.parentGrantId

def assertTrueRoot (root : ExecutionGrant) : Except PyError Unit :=
  if root.parentGrantId ≠ none then
    .error ⟨.delegation, "chain root " ++ root.grantId ++ " " ++ declared root ++
      "; a verified chain must start at a true root"⟩
  else .ok ()

/-- The checks of one pair of neighbours. -/
def assertDelegated (parent child : ExecutionGrant) : Except PyError Unit :=
  if child.parentGrantId ≠ some parent.grantId then
    .error ⟨.delegation, "grant " ++ child.grantId ++ " " ++ declared child ++
      ", expected " ++ pyRepr parent.grantId⟩
  else assertGrantNarrowerOrEqual child parent

/-- `for parent, child in pairwise(chain)`. -/
def assertLinks : List ExecutionGrant → Except PyError Unit
  | parent :: child :: rest => do
      assertDelegated parent child
      assertLinks (child :: rest)
  | _ => .ok ()

variable (check : ChainCheck)

def verifyMember (grant : ExecutionGrant) : Action Unit := do
  Program.settle (verifyGrantAt check.crypto grant check.keyring check.now check.leeway)
  if ← perform (.grants (.isRevoked grant.grantId)) then
    .raised ⟨.grantRevoked, "grant " ++ grant.grantId ++ " in delegation chain is revoked"⟩
  else pure ()

def verifyMembers : List ExecutionGrant → Action Unit
  | [] => pure ()
  | grant :: rest => do
      verifyMember check grant
      verifyMembers rest

def verifyDelegationChain (chain : List ExecutionGrant) : Action Unit :=
  match chain with
  | [] => .raised ⟨.delegation, "delegation chain must contain at least one grant"⟩
  | root :: _ => do
      Program.settle (assertTrueRoot root)
      verifyMembers check chain
      Program.settle (assertLinks chain)

/-! ### What an accepted chain satisfies -/

/-- A signature of the grant's own key over its content, under a supported schema. -/
def SignedGrant (grant : ExecutionGrant) : Prop :=
  assertSupportedSchemaVersion grant.schemaVersion = .ok () ∧
    ∃ signature key, grant.signature = some signature ∧
      check.keyring.keys grant.keyId = some key ∧ check.crypto.isBase64 signature = true ∧
      check.crypto.ed25519Verify key.publicKey (grant.canonicalHash check.crypto) signature = true

/-- Every grant of a list is signed, in its window and unrevoked in the store. -/
structure SoundMember (store : GrantStore) (grant : ExecutionGrant) : Prop where
  signed : SignedGrant check grant
  started : grant.notBefore - check.leeway ≤ check.now
  running : check.now ≤ grant.expiresAt + check.leeway
  unrevoked : store.view.isRevoked grant.grantId = false

section Accepted

variable {check} {store : GrantStore} {grant : ExecutionGrant}

theorem grant_signature_verifies
    (verified : verifyGrantSignature check.crypto grant check.keyring = .ok ()) :
    SignedGrant check grant := by
  obtain ⟨supported, signed⟩ := check_then_ok.mp verified
  refine ⟨supported, ?_⟩
  cases signature : grant.signature with
  | none =>
      rw [signature] at signed
      cases signed
  | some text =>
      simp only [signature, Keyring.verify] at signed
      cases key : check.keyring.keys grant.keyId with
      | none =>
          rw [key] at signed
          cases signed
      | some found =>
          simp only [key, VerificationKey.verify] at signed
          cases decodes : check.crypto.isBase64 text with
          | false => simp [decodes] at signed
          | true =>
              cases verifies : check.crypto.ed25519Verify found.publicKey
                  (grant.canonicalHash check.crypto) text with
              | false => simp [decodes, verifies] at signed
              | true => exact ⟨text, found, rfl, rfl, decodes, verifies⟩

theorem grant_window_within (within : verifyGrantWindow grant check.now check.leeway = .ok ()) :
    grant.notBefore - check.leeway ≤ check.now ∧
      check.now ≤ grant.expiresAt + check.leeway := by
  obtain ⟨earliest, first, rest⟩ := except_bind_ok within
  obtain ⟨latest, last, compared⟩ := except_bind_ok rest
  rw [shifted_ok first, shifted_ok last] at compared
  rw [sub_eq_add_neg]
  by_cases before : check.now < grant.notBefore + -check.leeway
  · rw [if_pos before] at compared
    cases compared
  · rw [if_neg before] at compared
    by_cases after : grant.expiresAt + check.leeway < check.now
    · rw [if_pos after] at compared
      cases compared
    · exact ⟨not_lt.mp before, not_lt.mp after⟩

/-- A member that passes leaves the store as it was. -/
theorem member_accepted
    (accepted : ((verifyMember check grant).run storeServer store).1 = .ok ()) :
    SoundMember check store grant ∧
      (verifyMember check grant).run storeServer store = (.ok (), store) := by
  cases verified : verifyGrantAt check.crypto grant check.keyring check.now check.leeway with
  | error error =>
      rw [verifyMember, verified] at accepted
      cases accepted
  | ok done =>
      cases done
      obtain ⟨signed, within⟩ := check_then_ok.mp verified
      obtain ⟨started, running⟩ := grant_window_within within
      have settles : (Program.settle (verifyGrantAt check.crypto grant check.keyring check.now
          check.leeway) : Action Unit).run storeServer store = (.ok (), store) :=
        run_settle_ok verified store
      rw [verifyMember, run_bind_ok settles,
        run_bind_ok (store_is_revoked store grant.grantId)] at accepted ⊢
      cases revoked : store.view.isRevoked grant.grantId with
      | true =>
          rw [revoked] at accepted
          cases accepted
      | false =>
          exact ⟨⟨grant_signature_verifies signed, started, running, revoked⟩, rfl⟩

theorem members_accepted {chain : List ExecutionGrant}
    (accepted : ((verifyMembers check chain).run storeServer store).1 = .ok ()) :
    (∀ grant ∈ chain, SoundMember check store grant) ∧
      (verifyMembers check chain).run storeServer store = (.ok (), store) := by
  induction chain with
  | nil => exact ⟨fun grant inside => absurd inside List.not_mem_nil, rfl⟩
  | cons grant rest ih =>
      cases first : (verifyMember check grant).run storeServer store with
      | mk outcome after =>
          cases outcome with
          | error error =>
              rw [verifyMembers, run_bind_error first] at accepted
              cases accepted
          | ok done =>
              have passes : ((verifyMember check grant).run storeServer store).1 = .ok () := by
                rw [first]
              obtain ⟨sound, runs⟩ := member_accepted passes
              rw [verifyMembers, run_bind_ok runs] at accepted ⊢
              obtain ⟨others, finishes⟩ := ih accepted
              refine ⟨?_, finishes⟩
              intro other inside
              rcases List.mem_cons.mp inside with same | later
              · exact same ▸ sound
              · exact others other later

/-- Every link of an accepted chain narrows. -/
theorem links_accepted {chain : List ExecutionGrant} (accepted : assertLinks chain = .ok ()) :
    chain.IsChain (fun parent child => GrantWithin child parent) := by
  induction chain with
  | nil => exact List.IsChain.nil
  | cons parent rest ih =>
      cases rest with
      | nil => exact List.IsChain.singleton parent
      | cons child rest =>
          obtain ⟨delegated, others⟩ := check_then_ok.mp accepted
          rw [assertDelegated] at delegated
          by_cases stray : child.parentGrantId ≠ some parent.grantId
          · rw [if_pos stray] at delegated
            cases delegated
          · rw [if_neg stray] at delegated
            exact List.IsChain.cons_cons (grant_narrower.mp delegated) (ih others)

/-- An accepted chain starts at a root, its members are sound and its links narrow. -/
theorem chain_accepted {chain : List ExecutionGrant}
    (accepted : ((verifyDelegationChain check chain).run storeServer store).1 = .ok ()) :
    (∃ root rest, chain = root :: rest ∧ root.parentGrantId = none) ∧
      (∀ grant ∈ chain, SoundMember check store grant) ∧ assertLinks chain = .ok () := by
  cases chain with
  | nil => cases accepted
  | cons root rest =>
      rw [verifyDelegationChain, assertTrueRoot] at accepted
      by_cases stray : root.parentGrantId ≠ none
      · rw [if_pos stray] at accepted
        cases accepted
      · have starts : (Program.settle (.ok ()) : Action Unit).run storeServer store =
            (.ok (), store) := rfl
        rw [if_neg stray, run_bind_ok starts] at accepted
        cases members : (verifyMembers check (root :: rest)).run storeServer store with
        | mk outcome after =>
            cases outcome with
            | error error =>
                rw [run_bind_error members] at accepted
                cases accepted
            | ok done =>
                have passes :
                    ((verifyMembers check (root :: rest)).run storeServer store).1 = .ok () := by
                  rw [members]
                obtain ⟨sound, finishes⟩ := members_accepted passes
                rw [run_bind_ok finishes, run_settle] at accepted
                exact ⟨⟨root, rest, rfl, not_ne_iff.mp stray⟩, sound, accepted⟩

end Accepted

end KarmaSakshi.Engine
