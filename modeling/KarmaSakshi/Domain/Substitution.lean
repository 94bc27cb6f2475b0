import KarmaSakshi.Domain.EnvelopeAttenuation
import KarmaSakshi.Domain.ManifestDraft

/-!
Parameter substitution under a decision envelope.

Exact constraints emit their sealed value, every other constraint the caller's choice.
What is emitted must be accepted by its constraint.
-/

namespace KarmaSakshi.Domain

set_option autoImplicit false

def substitutionError {Value : Type} (message : String) : Except PyError Value :=
  .error ⟨.decisionEnvelopeSubstitution, message⟩

/-- The value to emit: a disagreeing choice under an exact constraint is rejected. -/
def resolveParameter (key : String) (constraint : ParameterConstraint)
    (choice : Option ParameterValue) : Except PyError ParameterValue :=
  match constraint, choice with
  | .exact exactValue, some chosen =>
      if chosen.pyEqual exactValue then .ok exactValue
      else substitutionError ("parameter " ++ pyRepr key ++ ": choice " ++ chosen.repr ++
        " conflicts with exact constraint " ++ exactValue.repr)
  | .exact exactValue, none => .ok exactValue
  | _, some chosen => .ok chosen
  | _, none => substitutionError ("parameter " ++ pyRepr key ++ ": constraint kind " ++
      constraint.kindText ++ " requires an explicit substitution choice")

/-- One pass of the loop.  Only a constraint error is rewrapped. -/
def substituteParameter (choices : Dict ParameterValue) (entry : String × ParameterConstraint) :
    Except PyError ParameterValue := do
  let value ← resolveParameter entry.1 entry.2 (choices.get entry.1)
  match entry.2.accepts value with
  | .ok _ => .ok value
  | .error error =>
      if error.kind = .decisionEnvelopeConstraint then
        substitutionError ("parameter " ++ pyRepr entry.1 ++ ": substituted value rejected (" ++
          error.message ++ ")")
      else .error error

def substituteEntries (choices : Dict ParameterValue) :
    List (String × ParameterConstraint) → Dict ParameterValue →
      Except PyError (Dict ParameterValue)
  | [], resolved => .ok resolved
  | entry :: rest, resolved => do
      let value ← substituteParameter choices entry
      substituteEntries choices rest (resolved.put entry.1 value)

/-- `substitute_parameters`; the entries of a dictionary are in the order of their keys. -/
def substituteParameters (envelope : DecisionEnvelope) (choices : Dict ParameterValue) :
    Except PyError (Dict ParameterValue) :=
  let unknown := excess choices.keys envelope.parameterConstraints.keys
  if unknown ≠ [] then
    substitutionError ("substitution choices reference unconstrained parameters: " ++
      pyReprList unknown)
  else substituteEntries choices envelope.parameterConstraints.entries .empty

/-! ### What one pass emits -/

section Pass

variable {choices : Dict ParameterValue} {entry : String × ParameterConstraint}
  {value chosen : ParameterValue}

theorem py_equal_refl (value : ParameterValue) : value.pyEqual value = true :=
  ParameterValue.py_equal_iff.mpr rfl

/-- An emitted value is accepted by its constraint. -/
theorem substituted_accepted (emits : substituteParameter choices entry = .ok value) :
    entry.2.accepts value = .ok () := by
  obtain ⟨resolved, _, checked⟩ := except_bind_ok emits
  cases accepted : entry.2.accepts resolved with
  | ok done =>
      rw [accepted] at checked
      rw [← Except.ok.inj checked, accepted]
  | error error =>
      simp only [accepted] at checked
      by_cases own : error.kind = .decisionEnvelopeConstraint
      · rw [if_pos own] at checked
        cases checked
      · rw [if_neg own] at checked
        cases checked

/-- An acceptable choice is emitted, or the exact value it is equal to. -/
theorem acceptable_is_substituted (chooses : choices.get entry.1 = some chosen)
    (accepted : entry.2.accepts chosen = .ok ()) :
    substituteParameter choices entry = .ok (match entry.2 with
      | .exact exactValue => exactValue
      | _ => chosen) := by
  unfold substituteParameter
  rw [chooses]
  cases constraint : entry.2 with
  | exact exactValue =>
      rw [constraint] at accepted
      have same := ParameterConstraint.accepts_exact.mp accepted
      have sealedAccepted : (ParameterConstraint.exact exactValue).accepts exactValue = .ok () :=
        ParameterConstraint.accepts_exact.mpr (py_equal_refl exactValue)
      simp [resolveParameter, same, sealedAccepted, bind, Except.bind]
  | enum allowed nonempty =>
      rw [constraint] at accepted
      simp [resolveParameter, accepted, bind, Except.bind]
  | integerRange low high bounded =>
      rw [constraint] at accepted
      simp [resolveParameter, accepted, bind, Except.bind]
  | monetaryRange currency low high bounded =>
      rw [constraint] at accepted
      simp [resolveParameter, accepted, bind, Except.bind]

end Pass

/-! ### What the loop returns -/

section Loop

variable {choices resolved result : Dict ParameterValue}
  {entries : List (String × ParameterConstraint)}

/-- The loop gives every key of the entries what its pass emits, and leaves the others. -/
theorem substituted_entries (ordered : (entries.map Prod.fst).Pairwise (· < ·))
    (returned : substituteEntries choices entries resolved = .ok result) :
    (∀ entry ∈ entries, ∃ value, substituteParameter choices entry = .ok value ∧
        result.get entry.1 = some value) ∧
      ∀ key, key ∉ entries.map Prod.fst → result.get key = resolved.get key := by
  induction entries generalizing resolved with
  | nil =>
      rw [← Except.ok.inj returned]
      exact ⟨fun entry member => absurd member List.not_mem_nil, fun _ _ => rfl⟩
  | cons first rest ih =>
      obtain ⟨value, emits, continued⟩ := except_bind_ok returned
      obtain ⟨least, restOrdered⟩ := List.pairwise_cons.mp ordered
      obtain ⟨others, untouched⟩ := ih restOrdered continued
      have absent : first.1 ∉ rest.map Prod.fst := fun inside => lt_irrefl _ (least _ inside)
      constructor
      · intro entry member
        rcases List.mem_cons.mp member with same | later
        · refine ⟨value, same ▸ emits, ?_⟩
          rw [same, untouched first.1 absent, get_put, if_pos rfl]
        · exact others entry later
      · intro key outside
        rw [List.map_cons, List.mem_cons, not_or] at outside
        rw [untouched key outside.2, get_put, if_neg outside.1]

theorem substitution_returns
    (emits : ∀ entry ∈ entries, ∃ value, substituteParameter choices entry = .ok value) :
    ∃ result, substituteEntries choices entries resolved = .ok result := by
  induction entries generalizing resolved with
  | nil => exact ⟨resolved, rfl⟩
  | cons first rest ih =>
      obtain ⟨value, passes⟩ := emits first List.mem_cons_self
      obtain ⟨result, returned⟩ :=
        ih (fun entry later => emits entry (List.mem_cons_of_mem first later))
      exact ⟨result, except_bind_of_ok passes returned⟩

end Loop

end KarmaSakshi.Domain
