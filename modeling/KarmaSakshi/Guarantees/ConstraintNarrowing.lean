import KarmaSakshi.Domain.EnvelopeAttenuation

/-!
When a narrower constraint accepts no more than its parent.

Python's `True` equals `1`, and an exact or an enumerating constraint compares by that
equality, while a range refuses booleans.  So a child that lists `0` or `1` accepts a
boolean that its parent range does not.
-/

namespace KarmaSakshi.Guarantees

open KarmaSakshi.Domain

set_option autoImplicit false

/-- The values that the constraint names one by one. -/
def listedValues : ParameterConstraint → List ParameterValue
  | .exact exactValue => [exactValue]
  | .enum allowedValues _ => allowedValues
  | .integerRange _ _ _ | .monetaryRange _ _ _ _ => []

/-- The constraint names an integer that a boolean is equal to. -/
def ListsBit (constraint : ParameterConstraint) : Prop :=
  ParameterValue.int 0 ∈ listedValues constraint ∨ ParameterValue.int 1 ∈ listedValues constraint

section Narrowing

variable {child parent : ParameterConstraint} {value listed : ParameterValue} {name : String}

theorem listed_accepts (member : listed ∈ listedValues child)
    (same : value.pyEqual listed = true) : child.accepts value = .ok () := by
  cases child with
  | exact fixed =>
      rw [List.mem_singleton.mp member] at same
      exact ParameterConstraint.accepts_exact.mpr same
  | enum allowed nonempty => exact ParameterConstraint.accepts_enum.mpr ⟨listed, member, same⟩
  | integerRange _ _ _ => cases member
  | monetaryRange _ _ _ _ => cases member

/-- A constraint accepts a boolean only for a value that it names. -/
theorem boolean_is_listed {flag : Bool} (accepted : child.accepts (.bool flag) = .ok ()) :
    ∃ listed ∈ listedValues child, (ParameterValue.bool flag).pyEqual listed = true := by
  cases child with
  | exact fixed =>
      exact ⟨fixed, List.mem_singleton_self fixed, ParameterConstraint.accepts_exact.mp accepted⟩
  | enum allowed nonempty => exact ParameterConstraint.accepts_enum.mp accepted
  | integerRange low high bounded =>
      obtain ⟨number, impossible⟩ := ParameterConstraint.range_accepts_int rfl accepted
      cases impossible
  | monetaryRange currency low high bounded =>
      obtain ⟨number, impossible⟩ := ParameterConstraint.range_accepts_int rfl accepted
      cases impossible

/-- Every named value of a child under a range is an integer of the range. -/
theorem listed_under_range (narrower : assertConstraintNarrowerOrEqual child parent name = .ok ())
    (range : parent.isRange = true) (member : listed ∈ listedValues child) :
    ∃ number, listed = .int number := by
  have accepted : parent.accepts listed = .ok () := by
    cases child with
    | exact fixed =>
        rw [List.mem_singleton.mp member]
        exact accepted_by_iff.mp narrower
    | enum allowed nonempty =>
        cases parent with
        | exact _ => cases range
        | enum _ _ => cases range
        | integerRange low high _ => exact all_accepted narrower member
        | monetaryRange currency low high _ => exact all_accepted narrower member
    | integerRange _ _ _ => cases member
    | monetaryRange _ _ _ _ => cases member
  exact ParameterConstraint.range_accepts_int range accepted

theorem bit_equals_flag {flag : Bool} {number : Int}
    (same : (ParameterValue.bool flag).pyEqual (.int number) = true) : number = 0 ∨ number = 1 := by
  have keys := ParameterValue.py_equal_iff.mp same
  cases flag with
  | false => exact Or.inl (Option.some.inj (Sum.inr.inj keys)).symm
  | true => exact Or.inr (Option.some.inj (Sum.inr.inj keys)).symm

/-- A child that names a bit accepts the boolean equal to it. -/
theorem bit_accepts_flag (bit : ListsBit child) : ∃ flag, child.accepts (.bool flag) = .ok () := by
  cases bit with
  | inl zero => exact ⟨false, listed_accepts zero rfl⟩
  | inr one => exact ⟨true, listed_accepts one rfl⟩

end Narrowing

/-- A constraint that passes as narrower accepts no more than its parent exactly when it
does not name a bit under a range. -/
theorem narrowing_sound_iff (child parent : ParameterConstraint) (name : String)
    (narrower : assertConstraintNarrowerOrEqual child parent name = .ok ()) :
    (∀ value, child.accepts value = .ok () → parent.accepts value = .ok ()) ↔
      ¬ (parent.isRange = true ∧ ListsBit child) := by
  constructor
  · intro sound
    rintro ⟨range, bit⟩
    obtain ⟨flag, accepted⟩ := bit_accepts_flag bit
    have inner := sound (.bool flag) accepted
    obtain ⟨number, impossible⟩ := ParameterConstraint.range_accepts_int range inner
    cases impossible
  · intro separate value accepted
    rcases narrower_accepts narrower accepted with inner | ⟨range, flag, isFlag⟩
    · exact inner
    · rw [isFlag] at accepted
      obtain ⟨listed, member, same⟩ := boolean_is_listed accepted
      obtain ⟨number, isInt⟩ := listed_under_range narrower range member
      rw [isInt] at member same
      have bit : ListsBit child := by
        cases bit_equals_flag same with
        | inl zero => exact Or.inl (zero ▸ member)
        | inr one => exact Or.inr (one ▸ member)
      exact absurd ⟨range, bit⟩ separate

/-- The exact constraint `1` narrows the range from `0` to `5`, and only it accepts `True`. -/
theorem exact_one_accepts_true : ∃ child parent : ParameterConstraint,
    assertConstraintNarrowerOrEqual child parent "count" = .ok () ∧
      child.accepts (.bool true) = .ok () ∧ parent.accepts (.bool true) ≠ .ok () :=
  ⟨.exact (.int 1), .integerRange (some 0) (some 5) (by decide), by decide, by decide, by decide⟩

/-- What the exact constraint `2` accepts, the range accepts. -/
theorem exact_two_is_narrower :
    (ParameterConstraint.exact (.int 2)).accepts (.int 2) = .ok () ∧
      (ParameterConstraint.integerRange (some 0) (some 5) (by decide)).accepts (.int 2) =
        .ok () := by
  have accepted : (ParameterConstraint.exact (.int 2)).accepts (.int 2) = .ok () := by decide
  refine ⟨accepted, ?_⟩
  apply (narrowing_sound_iff (.exact (.int 2)) (.integerRange (some 0) (some 5) (by decide))
    "count" (by decide)).mpr
  · simp [ListsBit, listedValues]
  · exact accepted

end KarmaSakshi.Guarantees
