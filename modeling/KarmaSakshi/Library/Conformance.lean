import KarmaSakshi.Library.Program

/-!
Protocol specifications and programs that conform to them.

A specification watches one program from outside.  Its state is a function of
the operations issued and the replies seen so far; it says which operation may
come next and which replies are to be expected.  Conformance is the weakest
precondition of the whole program against such a watcher, so one conformance
proof serves every invariant that can be phrased over the watched state.
-/

namespace EffectProgram

set_option autoImplicit false

variable {Op : Type} {Reply : Op → Type} {Fault Value Result State : Type}

/-- A watcher: the operations it admits in a state, the replies it expects, and
the state it moves to. -/
structure Spec (Op : Type) (Reply : Op → Type) (Fault State : Type) where
  admits : State → Op → Prop
  expects : State → (op : Op) → Except Fault (Reply op) → Prop
  observe : State → (op : Op) → Except Fault (Reply op) → State

/-- The program issues only admitted operations, whatever expected replies it
gets, and ends as `exit` demands. -/
def Conforms (spec : Spec Op Reply Fault State) (exit : Except Fault Value → State → Prop) :
    Program Op Reply Fault Value → State → Prop
  | .done value, state => exit (.ok value) state
  | .raised fault, state => exit (.error fault) state
  | .call op resume, state =>
      spec.admits state op ∧
        ∀ reply, spec.expects state op reply →
          Conforms spec exit (resume reply) (spec.observe state op reply)

variable {spec : Spec Op Reply Fault State}

@[simp] theorem conforms_done (exit : Except Fault Value → State → Prop) (value : Value)
    (state : State) :
    Conforms spec exit (.done value) state ↔ exit (.ok value) state := Iff.rfl

@[simp] theorem conforms_raised (exit : Except Fault Value → State → Prop) (fault : Fault)
    (state : State) :
    Conforms spec exit (.raised fault) state ↔ exit (.error fault) state := Iff.rfl

@[simp] theorem conforms_settle (exit : Except Fault Value → State → Prop)
    (outcome : Except Fault Value) (state : State) :
    Conforms spec exit (.settle outcome) state ↔ exit outcome state := by
  cases outcome <;> exact Iff.rfl

theorem conforms_attempt (exit : Except Fault Result → State → Prop)
    (body : Program Op Reply Fault Value)
    (next : Except Fault Value → Program Op Reply Fault Result) (state : State) :
    Conforms spec exit (body.attempt next) state ↔
      Conforms spec (fun outcome after => Conforms spec exit (next outcome) after)
        body state := by
  induction body generalizing state with
  | done value => exact Iff.rfl
  | raised fault => exact Iff.rfl
  | call op resume ih =>
      simp only [Program.attempt_call, Conforms, ih]

theorem conforms_bind (exit : Except Fault Result → State → Prop)
    (body : Program Op Reply Fault Value)
    (next : Value → Program Op Reply Fault Result) (state : State) :
    Conforms spec exit (body >>= next) state ↔
      Conforms spec (fun outcome after =>
        match outcome with
        | .ok value => Conforms spec exit (next value) after
        | .error fault => exit (.error fault) after) body state := by
  rw [Program.bind_is_attempt, conforms_attempt]
  apply iff_of_eq
  congr 1
  funext outcome after
  cases outcome <;> rfl

theorem conforms_rescue (exit : Except Fault Value → State → Prop)
    (body : Program Op Reply Fault Value) (catches : Fault → Bool)
    (handler : Fault → Program Op Reply Fault Value) (state : State) :
    Conforms spec exit (body.rescue catches handler) state ↔
      Conforms spec (fun outcome after =>
        match outcome with
        | .ok value => exit (.ok value) after
        | .error fault =>
            if catches fault then Conforms spec exit (handler fault) after
            else exit (.error fault) after) body state := by
  rw [Program.rescue, conforms_attempt]
  apply iff_of_eq
  congr 1
  funext outcome after
  cases outcome with
  | ok value => rfl
  | error fault =>
      by_cases caught : catches fault
      · simp only [caught, if_true]
      · simp only [caught, Bool.false_eq_true, if_false]
        rfl

theorem conforms_perform (op : Op) (exit : Except Fault (Reply op) → State → Prop)
    (state : State) :
    Conforms spec exit (.perform op) state ↔
      spec.admits state op ∧
        ∀ reply, spec.expects state op reply → exit reply (spec.observe state op reply) := by
  simp only [Program.perform, Conforms]
  constructor
  · intro conforms
    refine ⟨conforms.1, ?_⟩
    intro reply expected
    have ending := conforms.2 reply expected
    cases reply <;> exact ending
  · intro conforms
    refine ⟨conforms.1, ?_⟩
    intro reply expected
    have ending := conforms.2 reply expected
    cases reply <;> exact ending

theorem Conforms.mono {exit weaker : Except Fault Value → State → Prop}
    {program : Program Op Reply Fault Value} {state : State}
    (conforms : Conforms spec exit program state)
    (weakens : ∀ outcome after, exit outcome after → weaker outcome after) :
    Conforms spec weaker program state := by
  induction program generalizing state with
  | done value => exact weakens _ _ conforms
  | raised fault => exact weakens _ _ conforms
  | call op resume ih =>
      exact ⟨conforms.1, fun reply expected => ih reply (conforms.2 reply expected)⟩

theorem Conforms.and {first second : Except Fault Value → State → Prop}
    {program : Program Op Reply Fault Value} {state : State}
    (one : Conforms spec first program state) (other : Conforms spec second program state) :
    Conforms spec (fun outcome after => first outcome after ∧ second outcome after)
      program state := by
  induction program generalizing state with
  | done value => exact ⟨one, other⟩
  | raised fault => exact ⟨one, other⟩
  | call op resume ih =>
      exact ⟨one.1, fun reply expected => ih reply (one.2 reply expected) (other.2 reply expected)⟩

/-- Sequencing through an intermediate assertion, the form proofs apply. -/
theorem Conforms.andThen {exit : Except Fault Result → State → Prop}
    {body : Program Op Reply Fault Value} {next : Value → Program Op Reply Fault Result}
    {state : State} (middle : Except Fault Value → State → Prop)
    (first : Conforms spec middle body state)
    (returns : ∀ value after, middle (.ok value) after →
      Conforms spec exit (next value) after)
    (raises : ∀ fault after, middle (.error fault) after → exit (.error fault) after) :
    Conforms spec exit (body >>= next) state := by
  rw [conforms_bind]
  apply first.mono
  intro outcome after held
  cases outcome with
  | ok value => exact returns value after held
  | error fault => exact raises fault after held

/-- What every operation of the footprint keeps, the whole program keeps. -/
theorem Conforms.keeping {allowed : Op → Prop} {exit : Except Fault Value → State → Prop}
    {program : Program Op Reply Fault Value} {kept : State → Prop} {state : State}
    (conforms : Conforms spec exit program state) (uses : program.Uses allowed)
    (keeps : ∀ current op reply, kept current → allowed op →
      kept (spec.observe current op reply))
    (held : kept state) :
    Conforms spec (fun outcome after => exit outcome after ∧ kept after) program state := by
  induction program generalizing state with
  | done value => exact ⟨conforms, held⟩
  | raised fault => exact ⟨conforms, held⟩
  | call op resume ih =>
      refine ⟨conforms.1, ?_⟩
      intro reply expected
      exact ih reply (conforms.2 reply expected) (uses.2 reply)
        (keeps state op reply held uses.1)

/-- A program whose footprint is admitted in every state it can keep conforms. -/
theorem Program.Uses.conforms {allowed : Op → Prop} {kept : State → Prop}
    {program : Program Op Reply Fault Value} {state : State} (uses : program.Uses allowed)
    (admits : ∀ current op, kept current → allowed op → spec.admits current op)
    (keeps : ∀ current op reply, kept current → allowed op → kept (spec.observe current op reply))
    (held : kept state) : Conforms spec (fun _ after => kept after) program state := by
  induction program generalizing state with
  | done value => exact held
  | raised fault => exact held
  | call op resume ih =>
      refine ⟨admits state op held uses.1, ?_⟩
      intro reply _
      exact ih reply (uses.2 reply) (keeps state op reply held uses.1)

end EffectProgram
