import KarmaSakshi.Library.Conformance

/-!
Faults traced back to answers.

Some faults are grave, and some answers are bad, among them every grave fault that
answers an admitted operation.  A program that blames its answers ends with a grave
fault only after a bad answer, and never returns a value past one that is a fault.
-/

namespace EffectProgram

set_option autoImplicit false

variable {Op : Type} {Reply : Op → Type} {Fault Value Result : Type}

/-- `admits` says which operations may still be issued once a bad answer has, or
has not, been seen. -/
structure Blame (Op : Type) (Reply : Op → Type) (Fault : Type) where
  grave : Fault → Bool
  bad : (op : Op) → Except Fault (Reply op) → Bool
  admits : Bool → Op → Prop
  traced : ∀ seen op fault, admits seen op → grave fault = true → bad op (.error fault) = true

namespace Blame

variable (blame : Blame Op Reply Fault)

/-- The watcher remembers whether a bad answer was seen. -/
def spec : Spec Op Reply Fault Bool where
  admits := blame.admits
  expects := fun _ _ _ => True
  observe := fun seen op reply => seen || blame.bad op reply

/-- The answers seen by the end account for a fault. -/
def Accounts (seen : Bool) (fault : Fault) (after : Bool) : Prop :=
  (seen = true ∨ blame.grave fault = true) → after = true

/-- A value comes with no new bad answer, a fault is accounted for. -/
def ended (seen : Bool) : Except Fault Value → Bool → Prop
  | .ok _, after => after = seen
  | .error fault, after => blame.Accounts seen fault after

def Blames (seen : Bool) (program : Program Op Reply Fault Value) : Prop :=
  Conforms blame.spec (blame.ended seen) program seen

/-- The program can only end with a fault that is accounted for. -/
def Raises (seen : Bool) (program : Program Op Reply Fault Value) : Prop :=
  Conforms blame.spec (fun outcome after =>
    ∃ fault, outcome = .error fault ∧ blame.Accounts seen fault after) program seen

end Blame

section Rules

variable {blame : Blame Op Reply Fault} {seen : Bool}
  {program : Program Op Reply Fault Value}

theorem blames_pure (value : Value) : blame.Blames seen (pure value) := rfl

theorem raises_raised {fault : Fault} (known : blame.grave fault = true → seen = true) :
    blame.Raises seen (.raised fault : Program Op Reply Fault Value) := by
  refine ⟨fault, rfl, ?_⟩
  rintro (already | grave)
  · exact already
  · exact known grave

theorem Blame.Raises.blames (raises : blame.Raises seen program) :
    blame.Blames seen program := by
  apply raises.mono
  rintro _ after ⟨fault, rfl, accounts⟩
  exact accounts

theorem blames_settle {outcome : Except Fault Value}
    (light : ∀ fault, outcome = .error fault → blame.grave fault = false) :
    blame.Blames seen (.settle outcome) := by
  cases outcome with
  | ok value => exact blames_pure value
  | error fault =>
      apply Blame.Raises.blames
      apply raises_raised
      intro grave
      rw [light fault rfl] at grave
      cases grave

theorem blames_perform {op : Op} (admitted : blame.admits seen op)
    (fair : ∀ value, blame.bad op (.ok value) = false) :
    blame.Blames seen (.perform op) := by
  refine (conforms_perform op _ seen).mpr ⟨admitted, ?_⟩
  intro reply _
  cases reply with
  | ok value =>
      show (seen || blame.bad op (.ok value)) = seen
      rw [fair value, Bool.or_false]
  | error fault =>
      rintro (already | grave)
      · show (seen || blame.bad op (.error fault)) = true
        rw [already, Bool.true_or]
      · show (seen || blame.bad op (.error fault)) = true
        rw [blame.traced seen op fault admitted grave, Bool.or_true]

theorem Blame.Blames.bind {next : Value → Program Op Reply Fault Result}
    (first : blame.Blames seen program) (rest : ∀ value, blame.Blames seen (next value)) :
    blame.Blames seen (program >>= next) := by
  refine Conforms.andThen (blame.ended seen) first ?_ ?_
  · rintro value _ rfl
    exact rest value
  · intro fault after accounts
    exact accounts

theorem Blame.Blames.thenRaise {next : Value → Program Op Reply Fault Result}
    (first : blame.Blames seen program) (rest : ∀ value, blame.Raises seen (next value)) :
    blame.Raises seen (program >>= next) := by
  refine Conforms.andThen (blame.ended seen) first ?_ ?_
  · rintro value _ rfl
    exact rest value
  · intro fault after accounts
    exact ⟨fault, rfl, accounts⟩

/-- A fault accounted for by more answers is accounted for. -/
theorem Blame.Raises.onward {later : Bool} (raises : blame.Raises later program)
    (grew : seen = true → later = true) :
    Conforms blame.spec (blame.ended seen) program later := by
  apply raises.mono
  rintro _ last ⟨final, rfl, accounts⟩ (already | grave)
  · exact accounts (Or.inl (grew already))
  · exact accounts (Or.inr grave)

/-- A handler that always raises keeps the account of what it handles. -/
theorem Blame.Blames.attempt {next : Except Fault Value → Program Op Reply Fault Result}
    (first : blame.Blames seen program) (returns : ∀ value, blame.Blames seen (next (.ok value)))
    (raises : ∀ fault later, blame.Accounts seen fault later →
      blame.Raises later (next (.error fault))) :
    blame.Blames seen (program.attempt next) := by
  rw [Blame.Blames, conforms_attempt]
  apply Conforms.mono first
  intro outcome after ended
  cases outcome with
  | ok value =>
      obtain rfl : after = seen := ended
      exact returns value
  | error fault =>
      exact (raises fault after ended).onward (fun already => ended (Or.inl already))

/-- One operation whose answers are told apart. -/
theorem conforms_asked {op : Op} {next : Except Fault (Reply op) → Program Op Reply Fault Result}
    {exit : Except Fault Result → Bool → Prop} (admitted : blame.admits seen op)
    (answered : ∀ reply, Conforms blame.spec exit (next reply) (seen || blame.bad op reply)) :
    Conforms blame.spec exit ((Program.perform op).attempt next) seen := by
  rw [conforms_attempt, conforms_perform]
  exact ⟨admitted, fun reply _ => answered reply⟩

theorem Blame.Blames.rescue {catches : Fault → Bool}
    {handler : Fault → Program Op Reply Fault Value} (first : blame.Blames seen program)
    (raises : ∀ fault later, blame.Accounts seen fault later →
      blame.Raises later (handler fault)) :
    blame.Blames seen (program.rescue catches handler) := by
  refine first.attempt blames_pure ?_
  intro fault later accounts
  by_cases caught : catches fault = true
  · simp only [caught, if_true]
    exact raises fault later accounts
  · simp only [caught, Bool.false_eq_true, if_false]
    exact raises_raised (fun grave => accounts (Or.inr grave))

end Rules

end EffectProgram
