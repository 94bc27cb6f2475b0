import KarmaSakshi.Guarantees.WitnessOrder

/-!
Whether a witness can take a statement back.

The evaluation drops unfavourable statements before it looks for the latest one of each
witness.  A favourable statement therefore counts until a later favourable one replaces it,
and one that is later taken back still counts.
-/

namespace KarmaSakshi.Guarantees

open KarmaSakshi.Domain Selection
open KarmaSakshi.Domain.WitnessStatement (witnessId rank)

set_option autoImplicit false

section Retraction

variable (crypto : CryptoPrimitives) (primitives : WitnessPrimitives) (policy : WitnessPolicy)
  (question : WitnessQuestion) (statements : List WitnessStatement)

/-- A genuine statement of the list by this witness. -/
structure SignedBy (witness : String) (statement : WitnessStatement) : Prop where
  listed : statement ∈ statements
  genuine : Genuine crypto primitives policy question statement
  owner : statement.witnessId = witness

/-- The latest genuine statement of this witness: none has a greater key. -/
structure LatestOf (witness : String) (latest : WitnessStatement) : Prop where
  own : SignedBy crypto primitives policy question statements witness latest
  last : ∀ other, SignedBy crypto primitives policy question statements witness other →
    other.rank ≤ latest.rank

/-- The statements that make their witnesses count. -/
def countedSightings : List WitnessStatement :=
  authoritativeStatements (witnessSurvivors crypto primitives policy question statements)

/-- A witness counts only if its latest statement is favourable, and no statement counts after
which its witness has signed an unfavourable one. -/
def HonoursRetraction : Prop :=
  ∀ result, evaluateWitnessQuorum crypto primitives policy question statements = .ok result →
    (∀ witness ∈ result.acceptedWitnessIds, ∀ latest,
      LatestOf crypto primitives policy question statements witness latest →
        Favourable policy question latest) ∧
    ∀ sighting ∈ countedSightings crypto primitives policy question statements, ∀ later,
      SignedBy crypto primitives policy question statements sighting.witnessId later →
        sighting.rank < later.rank → Favourable policy question later

/-- Each unfavourable statement of a witness with an acceptable one is followed by another
statement, and not later than one of the acceptable ones. -/
def NothingRetracted : Prop :=
  ∀ acceptable ∈ witnessSurvivors crypto primitives policy question statements, ∀ adverse,
    SignedBy crypto primitives policy question statements acceptable.witnessId adverse →
    ¬ Favourable policy question adverse →
      (∃ later, SignedBy crypto primitives policy question statements acceptable.witnessId later ∧
        adverse.rank < later.rank) ∧
      ∃ renewed ∈ witnessSurvivors crypto primitives policy question statements,
        renewed.witnessId = acceptable.witnessId ∧ adverse.rank ≤ renewed.rank

variable {crypto primitives policy question statements}

theorem witness_quorum_evaluated (within : statements.length ≤ policy.maxStatementsConsidered) :
    ∃ result, evaluateWitnessQuorum crypto primitives policy question statements = .ok result ∧
      result.acceptedWitnessIds =
        (countedSightings crypto primitives policy question statements).map witnessId := by
  rw [evaluateWitnessQuorum, if_neg (not_lt.mpr within)]
  exact ⟨_, rfl, rfl⟩

theorem nothing_retracted_of_honoured
    (within : statements.length ≤ policy.maxStatementsConsidered)
    (honours : HonoursRetraction crypto primitives policy question statements) :
    NothingRetracted crypto primitives policy question statements := by
  obtain ⟨result, evaluated, accepted⟩ := @witness_quorum_evaluated crypto primitives policy
    question statements within
  obtain ⟨latestFavourable, laterFavourable⟩ := honours result evaluated
  intro acceptable survives adverse signed unfavourable
  have counts : acceptable.witnessId ∈ result.acceptedWitnessIds := by
    rw [accepted, countedSightings, mem_accepted_ids]
    exact List.mem_map_of_mem survives
  constructor
  · by_contra final
    have latest : LatestOf crypto primitives policy question statements acceptable.witnessId
        adverse := by
      refine ⟨signed, fun other otherSigned => ?_⟩
      by_contra later
      exact final ⟨other, otherSigned, not_le.mp later⟩
    exact unfavourable (latestFavourable _ counts adverse latest)
  · rw [accepted] at counts
    obtain ⟨sighting, counted, owner⟩ := List.mem_map.mp counts
    have greatest := chosen_greatest (mem_authoritative.mp counted)
    refine ⟨sighting, greatest.member, owner, ?_⟩
    by_contra earlier
    apply unfavourable
    apply laterFavourable sighting counted adverse _ (not_le.mp earlier)
    rw [owner]
    exact signed

theorem honoured_of_nothing_retracted
    (unretracted : NothingRetracted crypto primitives policy question statements) :
    HonoursRetraction crypto primitives policy question statements := by
  intro result evaluated
  by_cases oversized : policy.maxStatementsConsidered < statements.length
  · rw [evaluateWitnessQuorum, if_pos oversized] at evaluated
    cases evaluated
  · obtain ⟨other, otherEvaluated, accepted⟩ := @witness_quorum_evaluated crypto primitives policy
      question statements (not_lt.mp oversized)
    have same : other = result := Except.ok.inj (otherEvaluated.symm.trans evaluated)
    rw [same] at accepted
    constructor
    · intro witness counts latest isLatest
      rw [accepted, countedSightings, mem_accepted_ids] at counts
      obtain ⟨acceptable, survives, owner⟩ := List.mem_map.mp counts
      by_contra unfavourable
      obtain ⟨⟨later, signed, after⟩, _⟩ := unretracted acceptable survives latest
        (owner.symm ▸ isLatest.own) unfavourable
      exact not_lt.mpr (isLatest.last later (owner ▸ signed)) after
    · intro sighting counted later signed after
      have greatest := chosen_greatest (mem_authoritative.mp counted)
      by_contra unfavourable
      obtain ⟨_, renewed, survives, owner, notEarlier⟩ :=
        unretracted sighting greatest.member later signed unfavourable
      have bounded := greatest.highest renewed survives owner
      exact not_lt.mpr (notEarlier.trans bounded) after

end Retraction

/-- Retractions are honoured exactly in the lists that take no acceptable statement back. -/
theorem retraction_honoured_iff (crypto : CryptoPrimitives) (primitives : WitnessPrimitives)
    (policy : WitnessPolicy) (question : WitnessQuestion) (statements : List WitnessStatement) :
    HonoursRetraction crypto primitives policy question statements ↔
      (statements.length ≤ policy.maxStatementsConsidered →
        NothingRetracted crypto primitives policy question statements) := by
  constructor
  · intro honours within
    exact nothing_retracted_of_honoured within honours
  · intro unretracted
    by_cases within : statements.length ≤ policy.maxStatementsConsidered
    · exact honoured_of_nothing_retracted (unretracted within)
    · intro result evaluated
      rw [evaluateWitnessQuorum, if_pos (not_le.mp within)] at evaluated
      cases evaluated

/-- The inspector's sighting counts although the inspector has taken it back since. -/
theorem retracted_sighting_counts :
    (∀ statement ∈ [Inspection.signed Inspection.sighting, Inspection.signed Inspection.retraction],
      Genuine Officers.crypto Inspection.digests Inspection.policy Inspection.question statement) ∧
    ¬ HonoursRetraction Officers.crypto Inspection.digests Inspection.policy Inspection.question
      [Inspection.signed Inspection.sighting, Inspection.signed Inspection.retraction] := by
  have genuine : ∀ statement ∈
      [Inspection.signed Inspection.sighting, Inspection.signed Inspection.retraction],
      Genuine Officers.crypto Inspection.digests Inspection.policy Inspection.question
        statement := by
    intro statement member
    rcases List.mem_cons.mp member with rfl | last
    · exact Inspection.sighting_genuine
    · rw [List.mem_singleton.mp last]
      exact Inspection.retraction_genuine
  refine ⟨genuine, fun honours => ?_⟩
  have unretracted := nothing_retracted_of_honoured (by decide) honours
  have adverse : ¬ Favourable Inspection.policy Inspection.question
      (Inspection.signed Inspection.retraction) := by
    intro favourable
    cases favourable.matched rfl
  obtain ⟨⟨later, signed, after⟩, _⟩ := unretracted (Inspection.signed Inspection.sighting)
    (Inspection.sighting_survives List.mem_cons_self) (Inspection.signed Inspection.retraction)
    ⟨List.mem_cons_of_mem _ List.mem_cons_self, Inspection.retraction_genuine, rfl⟩ adverse
  rcases List.mem_cons.mp signed.listed with rfl | last
  · exact absurd after (by decide)
  · rw [List.mem_singleton.mp last] at after
    exact lt_irrefl _ after

/-- One sighting alone takes nothing back. -/
theorem single_sighting_is_honoured :
    HonoursRetraction Officers.crypto Inspection.digests Inspection.policy Inspection.question
      [Inspection.signed Inspection.sighting] := by
  apply (retraction_honoured_iff _ _ _ _ _).mpr
  intro _ acceptable survives adverse signed unfavourable
  rw [List.mem_singleton.mp signed.listed] at unfavourable
  exact absurd ⟨rfl, fun _ => rfl⟩ unfavourable

end KarmaSakshi.Guarantees
