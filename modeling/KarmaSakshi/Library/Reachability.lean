import KarmaSakshi.Library.Execution

/-!
What a program may do under some answers.

`MayEnd` and `MayIssue` are the angelic readings of a program: some answers make
it end this way, some answers lead it to a wanted operation.  They bound every
run under every handler, and where nothing constrains the answers they are runs.
-/

namespace EffectProgram

set_option autoImplicit false

variable {Op : Type} {Reply : Op → Type} {Fault Value Result World : Type}

/-- Any answer may be given. -/
def unconstrained : Handler Op Reply Fault Unit := fun _ _ _ _ => True

namespace Program

/-- Some answers make the program end with this outcome. -/
def MayEnd (program : Program Op Reply Fault Value) (outcome : Except Fault Value) : Prop :=
  program.Yields unconstrained () outcome ()

/-- Some answers lead the program to a wanted operation. -/
def MayIssue (wanted : Op → Prop) : Program Op Reply Fault Value → Prop
  | .done _ => False
  | .raised _ => False
  | .call op resume => wanted op ∨ ∃ reply, MayIssue wanted (resume reply)

/-- Some answers of the handler lead the program from the world to a wanted operation. -/
def Reaches (handler : Handler Op Reply Fault World) (wanted : Op → Prop) :
    Program Op Reply Fault Value → World → Prop
  | .done _, _ => False
  | .raised _, _ => False
  | .call op resume, world =>
      wanted op ∨ ∃ reply after, handler world op reply after ∧
        Reaches handler wanted (resume reply) after

/-- Whatever the answers are, the program issues at most `bound` operations. -/
def AsksAtMost : Program Op Reply Fault Value → (bound : Nat) → Prop
  | .done _, _ => True
  | .raised _, _ => True
  | .call _ _, 0 => False
  | .call _ resume, left + 1 => ∀ reply, AsksAtMost (resume reply) left

end Program

variable {wanted : Op → Prop} {program : Program Op Reply Fault Value}

theorem may_end_perform {op : Op} {reply : Except Fault (Reply op)} :
    (Program.perform op).MayEnd reply :=
  yields_perform.mpr trivial

theorem may_end_bind_ok {body : Program Op Reply Fault Value}
    {next : Value → Program Op Reply Fault Result} {result : Result} :
    (body >>= next).MayEnd (.ok result) ↔
      ∃ value, body.MayEnd (.ok value) ∧ (next value).MayEnd (.ok result) := by
  constructor
  · intro ends
    obtain ⟨value, _, first, rest⟩ := yields_bind_ok.mp ends
    exact ⟨value, first, rest⟩
  · rintro ⟨value, first, rest⟩
    exact yields_bind_ok.mpr ⟨value, (), first, rest⟩

theorem may_end_attempt {body : Program Op Reply Fault Value}
    {next : Except Fault Value → Program Op Reply Fault Result} {outcome : Except Fault Result} :
    (body.attempt next).MayEnd outcome ↔
      ∃ middle, body.MayEnd middle ∧ (next middle).MayEnd outcome := by
  constructor
  · intro ends
    obtain ⟨middle, _, first, rest⟩ := yields_attempt.mp ends
    exact ⟨middle, first, rest⟩
  · rintro ⟨middle, first, rest⟩
    exact yields_attempt.mpr ⟨middle, (), first, rest⟩

theorem reaches_perform {handler : Handler Op Reply Fault World} {op : Op} {world : World} :
    (Program.perform op : Program Op Reply Fault (Reply op)).Reaches handler wanted world ↔
      wanted op := by
  constructor
  · intro reaches
    rcases reaches with wants | ⟨reply, _, _, impossible⟩
    · exact wants
    · cases reply <;> exact impossible.elim
  · exact Or.inl

theorem reaches_attempt {handler : Handler Op Reply Fault World}
    {body : Program Op Reply Fault Value}
    {next : Except Fault Value → Program Op Reply Fault Result} {world : World} :
    (body.attempt next).Reaches handler wanted world ↔
      body.Reaches handler wanted world ∨ ∃ middle between,
        body.Yields handler world middle between ∧ (next middle).Reaches handler wanted between := by
  induction body generalizing world with
  | done value =>
      constructor
      · exact fun reaches => Or.inr ⟨.ok value, world, ⟨rfl, rfl⟩, reaches⟩
      · rintro (impossible | ⟨_, _, ⟨rfl, rfl⟩, reaches⟩)
        · exact impossible.elim
        · exact reaches
  | raised fault =>
      constructor
      · exact fun reaches => Or.inr ⟨.error fault, world, ⟨rfl, rfl⟩, reaches⟩
      · rintro (impossible | ⟨_, _, ⟨rfl, rfl⟩, reaches⟩)
        · exact impossible.elim
        · exact reaches
  | call op resume ih =>
      constructor
      · rintro (wants | ⟨reply, after, answered, reaches⟩)
        · exact Or.inl (Or.inl wants)
        · rcases (ih reply).mp reaches with early | ⟨middle, between, ends, later⟩
          · exact Or.inl (Or.inr ⟨reply, after, answered, early⟩)
          · exact Or.inr ⟨middle, between, ⟨reply, after, answered, ends⟩, later⟩
      · rintro ((wants | ⟨reply, after, answered, early⟩) |
          ⟨middle, between, ⟨reply, after, answered, ends⟩, later⟩)
        · exact Or.inl wants
        · exact Or.inr ⟨reply, after, answered, (ih reply).mpr (Or.inl early)⟩
        · exact Or.inr ⟨reply, after, answered,
            (ih reply).mpr (Or.inr ⟨middle, between, ends, later⟩)⟩

theorem reaches_bind {handler : Handler Op Reply Fault World}
    {body : Program Op Reply Fault Value} {next : Value → Program Op Reply Fault Result}
    {world : World} :
    (body >>= next).Reaches handler wanted world ↔
      body.Reaches handler wanted world ∨ ∃ value between,
        body.Yields handler world (.ok value) between ∧
          (next value).Reaches handler wanted between := by
  rw [Program.bind_is_attempt, reaches_attempt]
  apply or_congr_right
  constructor
  · rintro ⟨middle, between, ends, reaches⟩
    cases middle with
    | ok value => exact ⟨value, between, ends, reaches⟩
    | error fault => exact reaches.elim
  · rintro ⟨value, between, ends, reaches⟩
    exact ⟨.ok value, between, ends, reaches⟩

/-- A footprint without the wanted operations never reaches one. -/
theorem Program.Uses.never_reaches {handler : Handler Op Reply Fault World}
    {allowed : Op → Prop} (uses : program.Uses allowed) (unwanted : ∀ op, allowed op → ¬ wanted op)
    {world : World} : ¬ program.Reaches handler wanted world := by
  induction program generalizing world with
  | done value => exact id
  | raised fault => exact id
  | call op resume ih =>
      intro reaches
      rcases reaches with wants | ⟨reply, after, _, later⟩
      · exact unwanted op uses.1 wants
      · exact ih reply (uses.2 reply) later

/-! ### Where any answer may be given -/

theorem may_issue_iff_reaches :
    program.MayIssue wanted ↔ program.Reaches unconstrained wanted () := by
  induction program with
  | done value => exact Iff.rfl
  | raised fault => exact Iff.rfl
  | call op resume ih =>
      apply or_congr_right
      constructor
      · rintro ⟨reply, later⟩
        exact ⟨reply, (), trivial, (ih reply).mp later⟩
      · rintro ⟨reply, _, _, later⟩
        exact ⟨reply, (ih reply).mpr later⟩

theorem may_issue_perform {op : Op} :
    (Program.perform op : Program Op Reply Fault (Reply op)).MayIssue wanted ↔ wanted op :=
  may_issue_iff_reaches.trans reaches_perform

theorem may_issue_attempt {body : Program Op Reply Fault Value}
    {next : Except Fault Value → Program Op Reply Fault Result} :
    (body.attempt next).MayIssue wanted ↔
      body.MayIssue wanted ∨ ∃ middle, body.MayEnd middle ∧ (next middle).MayIssue wanted := by
  simp only [may_issue_iff_reaches, reaches_attempt]
  apply or_congr_right
  constructor
  · rintro ⟨middle, _, ends, later⟩
    exact ⟨middle, ends, later⟩
  · rintro ⟨middle, ends, later⟩
    exact ⟨middle, (), ends, later⟩

theorem may_issue_bind {body : Program Op Reply Fault Value}
    {next : Value → Program Op Reply Fault Result} :
    (body >>= next).MayIssue wanted ↔
      body.MayIssue wanted ∨ ∃ value, body.MayEnd (.ok value) ∧ (next value).MayIssue wanted := by
  simp only [may_issue_iff_reaches, reaches_bind]
  apply or_congr_right
  constructor
  · rintro ⟨value, _, ends, later⟩
    exact ⟨value, ends, later⟩
  · rintro ⟨value, ends, later⟩
    exact ⟨value, (), ends, later⟩

/-- A footprint without the wanted operations never issues one. -/
theorem Program.Uses.never_issues {allowed : Op → Prop} (uses : program.Uses allowed)
    (unwanted : ∀ op, allowed op → ¬ wanted op) : ¬ program.MayIssue wanted :=
  fun issues => uses.never_reaches unwanted (may_issue_iff_reaches.mp issues)

/-- The first part issues nothing wanted, so it has to end first. -/
theorem may_issue_after {allowed : Op → Prop} {body : Program Op Reply Fault Value}
    {next : Value → Program Op Reply Fault Result} (uses : body.Uses allowed)
    (unwanted : ∀ op, allowed op → ¬ wanted op) :
    (body >>= next).MayIssue wanted ↔
      ∃ value, body.MayEnd (.ok value) ∧ (next value).MayIssue wanted :=
  may_issue_bind.trans (or_iff_right (uses.never_issues unwanted))

/-! ### Runs -/

theorem may_issue_steps {handler : Handler Op Reply Fault World} {world after : World}
    {rest : Program Op Reply Fault Value} {events : List (Event Op Reply Fault)}
    (run : Steps handler program world events rest after) (issues : rest.MayIssue wanted) :
    program.MayIssue wanted := by
  induction run with
  | refl => exact issues
  | next earlier answered ih => exact ih (Or.inr ⟨_, issues⟩)

/-- A wanted operation in a run under any handler may be issued. -/
theorem Steps.may_issue {handler : Handler Op Reply Fault World} {world after : World}
    {rest : Program Op Reply Fault Value} {events : List (Event Op Reply Fault)}
    (run : Steps handler program world events rest after) {event : Event Op Reply Fault}
    (member : event ∈ events) (wants : wanted event.op) : program.MayIssue wanted := by
  induction run with
  | refl => cases member
  | next earlier answered ih =>
      rcases List.mem_append.mp member with before | last
      · exact ih before
      · obtain rfl := List.mem_singleton.mp last
        exact may_issue_steps earlier (Or.inl wants)

theorem Steps.prepend {handler : Handler Op Reply Fault World} {op : Op}
    {resume : Except Fault (Reply op) → Program Op Reply Fault Value}
    {rest : Program Op Reply Fault Value} {world between after : World}
    {reply : Except Fault (Reply op)} {events : List (Event Op Reply Fault)}
    (answered : handler world op reply between)
    (run : Steps handler (resume reply) between events rest after) :
    Steps handler (.call op resume) world (⟨op, reply⟩ :: events) rest after :=
  (Steps.one answered).trans run

/-- Where any answer may be given, what may be issued is issued by a run. -/
theorem Program.MayIssue.run (fault : Fault) (issues : program.MayIssue wanted) :
    ∃ events rest, Steps (unconstrained : Handler Op Reply Fault Unit) program () events rest () ∧
      ∃ event ∈ events, wanted event.op := by
  induction program with
  | done value => exact issues.elim
  | raised fault => exact issues.elim
  | call op resume ih =>
      rcases issues with wants | ⟨reply, later⟩
      · have answered : (unconstrained : Handler Op Reply Fault Unit) () op (.error fault) () := trivial
        exact ⟨_, _, Steps.one answered, _, List.mem_singleton_self _, wants⟩
      · obtain ⟨events, rest, run, event, member, wants⟩ := ih reply later
        exact ⟨_, rest, run.prepend trivial, event, List.mem_cons_of_mem _ member, wants⟩

/-- A run remains one where more answers may be given. -/
theorem Steps.forget {handler : Handler Op Reply Fault World} {wider : Handler Op Reply Fault Unit}
    (widens : ∀ world op reply after, handler world op reply after → wider () op reply ())
    {world after : World} {rest : Program Op Reply Fault Value}
    {events : List (Event Op Reply Fault)}
    (run : Steps handler program world events rest after) :
    Steps wider program () events rest () := by
  induction run with
  | refl => exact Steps.refl
  | next earlier answered ih => exact Steps.next ih (widens _ _ _ _ answered)

theorem reaches_steps {handler : Handler Op Reply Fault World} {world after : World}
    {rest : Program Op Reply Fault Value} {events : List (Event Op Reply Fault)}
    (run : Steps handler program world events rest after)
    (reaches : rest.Reaches handler wanted after) : program.Reaches handler wanted world := by
  induction run with
  | refl => exact reaches
  | next earlier answered ih => exact ih (Or.inr ⟨_, _, answered, reaches⟩)

/-- What is issued by a run is reached. -/
theorem Steps.reaches {handler : Handler Op Reply Fault World} {world after : World}
    {rest : Program Op Reply Fault Value} {events : List (Event Op Reply Fault)}
    (run : Steps handler program world events rest after) {event : Event Op Reply Fault}
    (member : event ∈ events) (wants : wanted event.op) :
    program.Reaches handler wanted world := by
  induction run with
  | refl => cases member
  | next earlier answered ih =>
      rcases List.mem_append.mp member with before | last
      · exact ih before
      · obtain rfl := List.mem_singleton.mp last
        exact reaches_steps earlier (Or.inl wants)

/-- What is reached is issued by a run, where the wanted operations are answered. -/
theorem Program.Reaches.run {handler : Handler Op Reply Fault World} {world : World}
    (answerable : ∀ op world, wanted op → ∃ reply after, handler world op reply after)
    (reaches : program.Reaches handler wanted world) :
    ∃ events rest after, Steps handler program world events rest after ∧
      ∃ event ∈ events, wanted event.op := by
  induction program generalizing world with
  | done value => exact reaches.elim
  | raised fault => exact reaches.elim
  | call op resume ih =>
      rcases reaches with wants | ⟨reply, between, answered, later⟩
      · obtain ⟨reply, after, answered⟩ := answerable op world wants
        exact ⟨_, _, after, Steps.one answered, _, List.mem_singleton_self _, wants⟩
      · obtain ⟨events, rest, after, run, event, member, wants⟩ := ih reply later
        exact ⟨_, rest, after, run.prepend answered, event, List.mem_cons_of_mem _ member, wants⟩

/-- What every run that issues a wanted operation shows is what shows once the operation may be
issued. -/
theorem every_run_iff (fault : Fault) {fact : Prop} :
    (∀ (World : Type) (handler : Handler Op Reply Fault World) (before after : World)
      (events : List (Event Op Reply Fault)) (rest : Program Op Reply Fault Value),
      Steps handler program before events rest after →
        (∃ event ∈ events, wanted event.op) → fact) ↔
      (program.MayIssue wanted → fact) := by
  constructor
  · intro held issues
    obtain ⟨events, rest, run, issued⟩ := issues.run fault
    exact held Unit unconstrained () () events rest run issued
  · intro enough World handler before after events rest run issued
    obtain ⟨event, member, wants⟩ := issued
    exact enough (run.may_issue member wants)

/-! ### How long a program may run -/

theorem asks_at_most_perform {op : Op} {bound : Nat} (positive : 0 < bound) :
    (Program.perform op : Program Op Reply Fault (Reply op)).AsksAtMost bound := by
  cases bound with
  | zero => exact absurd positive (Nat.lt_irrefl 0)
  | succ left =>
      intro reply
      cases reply <;> trivial

theorem Program.AsksAtMost.mono {bound wider : Nat} (asks : program.AsksAtMost bound)
    (included : bound ≤ wider) : program.AsksAtMost wider := by
  induction program generalizing bound wider with
  | done value => trivial
  | raised fault => trivial
  | call op resume ih =>
      cases bound with
      | zero => exact asks.elim
      | succ left =>
          cases wider with
          | zero => exact absurd included (Nat.not_succ_le_zero left)
          | succ more =>
              intro reply
              exact ih reply (asks reply) (Nat.le_of_succ_le_succ included)

theorem Program.AsksAtMost.attempt {first second : Nat} {body : Program Op Reply Fault Value}
    {next : Except Fault Value → Program Op Reply Fault Result} (asks : body.AsksAtMost first)
    (asksNext : ∀ outcome, (next outcome).AsksAtMost second) :
    (body.attempt next).AsksAtMost (first + second) := by
  induction body generalizing first with
  | done value => exact (asksNext (.ok value)).mono (Nat.le_add_left second first)
  | raised fault => exact (asksNext (.error fault)).mono (Nat.le_add_left second first)
  | call op resume ih =>
      cases first with
      | zero => exact asks.elim
      | succ left =>
          rw [Nat.succ_add]
          intro reply
          exact ih reply (asks reply)

theorem Program.AsksAtMost.bind {first second : Nat} {body : Program Op Reply Fault Value}
    {next : Value → Program Op Reply Fault Result} (asks : body.AsksAtMost first)
    (asksNext : ∀ value, (next value).AsksAtMost second) :
    (body >>= next).AsksAtMost (first + second) := by
  apply asks.attempt
  intro outcome
  cases outcome with
  | ok value => exact asksNext value
  | error fault => trivial

/-- The calls of a run and those still allowed to its rest stay within the bound. -/
theorem Steps.asked {handler : Handler Op Reply Fault World} {world after : World}
    {rest : Program Op Reply Fault Value} {events : List (Event Op Reply Fault)} {bound : Nat}
    (run : Steps handler program world events rest after) (asks : program.AsksAtMost bound) :
    ∃ left, rest.AsksAtMost left ∧ events.length + left ≤ bound := by
  induction run with
  | refl => exact ⟨bound, asks, by simp⟩
  | next earlier answered ih =>
      obtain ⟨left, asksCall, within⟩ := ih
      cases left with
      | zero => exact asksCall.elim
      | succ fewer =>
          refine ⟨fewer, asksCall _, ?_⟩
          rw [List.length_append, List.length_singleton]
          omega

end EffectProgram
