import KarmaSakshi.Library.Conformance

/-!
Runs of one program against a world that answers its operations.

A run may stop anywhere, so a run is also a crash point: the events so far, the
program that is left, and the world as the last answered operation left it.
-/

namespace EffectProgram

set_option autoImplicit false

variable {Op : Type} {Reply : Op → Type} {Fault Value Result State World : Type}

/-- One answered operation. -/
structure Event (Op : Type) (Reply : Op → Type) (Fault : Type) where
  op : Op
  reply : Except Fault (Reply op)

/-- How a world may answer an operation, and what the answer makes of it. -/
abbrev Handler (Op : Type) (Reply : Op → Type) (Fault World : Type) :=
  World → (op : Op) → Except Fault (Reply op) → World → Prop

/-- A partial run of `program` from `world`. -/
inductive Steps (handler : Handler Op Reply Fault World) (program : Program Op Reply Fault Value)
    (world : World) :
    List (Event Op Reply Fault) → Program Op Reply Fault Value → World → Prop where
  | refl : Steps handler program world [] program world
  | next {events : List (Event Op Reply Fault)} {op : Op}
      {resume : Except Fault (Reply op) → Program Op Reply Fault Value}
      {current after : World} {reply : Except Fault (Reply op)}
      (earlier : Steps handler program world events (.call op resume) current)
      (answered : handler current op reply after) :
      Steps handler program world (events ++ [⟨op, reply⟩]) (resume reply) after

variable {handler : Handler Op Reply Fault World}

/-- A run that ends: nothing is left but its outcome. -/
def Finishes (handler : Handler Op Reply Fault World) (program : Program Op Reply Fault Value)
    (world : World) (events : List (Event Op Reply Fault)) (outcome : Except Fault Value)
    (after : World) : Prop :=
  Steps handler program world events (.settle outcome) after

theorem Steps.trans {program middle last : Program Op Reply Fault Value}
    {world between after : World} {events later : List (Event Op Reply Fault)}
    (first : Steps handler program world events middle between)
    (second : Steps handler middle between later last after) :
    Steps handler program world (events ++ later) last after := by
  induction second with
  | refl =>
      rw [List.append_nil]
      exact first
  | next earlier answered ih =>
      rw [← List.append_assoc]
      exact Steps.next ih answered

theorem Steps.one {op : Op} {resume : Except Fault (Reply op) → Program Op Reply Fault Value}
    {world after : World} {reply : Except Fault (Reply op)}
    (answered : handler world op reply after) :
    Steps handler (.call op resume) world [⟨op, reply⟩] (resume reply) after :=
  Steps.next Steps.refl answered

theorem Steps.attempt {body rest : Program Op Reply Fault Value} {world after : World}
    {events : List (Event Op Reply Fault)}
    (next : Except Fault Value → Program Op Reply Fault Result)
    (run : Steps handler body world events rest after) :
    Steps handler (body.attempt next) world events (rest.attempt next) after := by
  induction run with
  | refl => exact Steps.refl
  | next earlier answered ih => exact Steps.next ih answered

theorem Steps.of_nil {program rest : Program Op Reply Fault Value} {world after : World}
    (run : Steps handler program world [] rest after) : rest = program ∧ after = world := by
  generalize none : [] = events at run
  cases run with
  | refl => exact ⟨rfl, rfl⟩
  | next before answered => exact absurd none (by simp)

/-- A run either has not begun or starts with the answer to the first operation. -/
theorem Steps.first {op : Op} {resume : Except Fault (Reply op) → Program Op Reply Fault Value}
    {rest : Program Op Reply Fault Value} {world after : World}
    {events : List (Event Op Reply Fault)}
    (run : Steps handler (.call op resume) world events rest after) :
    events = [] ∨ ∃ reply between later, events = ⟨op, reply⟩ :: later ∧
      handler world op reply between ∧ Steps handler (resume reply) between later rest after := by
  induction run with
  | refl => exact Or.inl rfl
  | next earlier answered ih =>
      refine Or.inr ?_
      rcases ih with rfl | ⟨reply, between, later, rfl, told, run⟩
      · obtain ⟨same, rfl⟩ := earlier.of_nil
        cases same
        exact ⟨_, _, [], rfl, answered, Steps.refl⟩
      · exact ⟨reply, between, later ++ [_], rfl, told, Steps.next run answered⟩

/-- The last event of a run was answered by the handler. -/
theorem Steps.last {program rest : Program Op Reply Fault Value} {world after : World}
    {earlier : List (Event Op Reply Fault)} {event : Event Op Reply Fault}
    (run : Steps handler program world (earlier ++ [event]) rest after) :
    ∃ current, handler current event.op event.reply after := by
  generalize ends : earlier ++ [event] = events at run
  cases run with
  | refl => simp at ends
  | next before answered =>
      have same : event = _ := (List.append_inj' ends rfl).2 |> List.singleton_inj.mp
      rw [same]
      exact ⟨_, answered⟩

/-- A finished body hands its outcome to the rest of the program. -/
theorem Finishes.attempt {body : Program Op Reply Fault Value} {world after : World}
    {events : List (Event Op Reply Fault)} {outcome : Except Fault Value}
    (next : Except Fault Value → Program Op Reply Fault Result)
    (run : Finishes handler body world events outcome after) :
    Steps handler (body.attempt next) world events (next outcome) after := by
  have lifted := Steps.attempt next run
  cases outcome <;> exact lifted

theorem Finishes.bind {body : Program Op Reply Fault Value} {world after : World}
    {events : List (Event Op Reply Fault)} {value : Value}
    (next : Value → Program Op Reply Fault Result)
    (run : Finishes handler body world events (.ok value) after) :
    Steps handler (body >>= next) world events (next value) after :=
  Finishes.attempt _ run

/-- What the watcher has seen once the events are over. -/
def Spec.watched (spec : Spec Op Reply Fault State) (initial : State)
    (events : List (Event Op Reply Fault)) : State :=
  events.foldl (fun state event => spec.observe state event.op event.reply) initial

@[simp] theorem watched_nil (spec : Spec Op Reply Fault State) (initial : State) :
    spec.watched initial [] = initial := rfl

@[simp] theorem watched_append_one (spec : Spec Op Reply Fault State) (initial : State)
    (events : List (Event Op Reply Fault)) (event : Event Op Reply Fault) :
    spec.watched initial (events ++ [event]) =
      spec.observe (spec.watched initial events) event.op event.reply := by
  simp only [Spec.watched, List.foldl_append, List.foldl_cons, List.foldl_nil]

/-- The invariant rule for one run.  A relation between the world and the
events that every admitted step keeps holds at every point of every run of a
conforming program, together with the conformance of what is left. -/
theorem Steps.monitored {spec : Spec Op Reply Fault State}
    {exit : Except Fault Value → State → Prop} {program rest : Program Op Reply Fault Value}
    {world after : World} {initial : State} {events : List (Event Op Reply Fault)}
    (linked : World → List (Event Op Reply Fault) → Prop)
    (conforms : Conforms spec exit program initial) (start : linked world [])
    (kept : ∀ current earlier op reply answered, linked current earlier →
      spec.admits (spec.watched initial earlier) op → handler current op reply answered →
        spec.expects (spec.watched initial earlier) op reply ∧
          linked answered (earlier ++ [⟨op, reply⟩]))
    (run : Steps handler program world events rest after) :
    Conforms spec exit rest (spec.watched initial events) ∧ linked after events := by
  induction run with
  | refl => exact ⟨conforms, start⟩
  | next earlier answered ih =>
      have step := kept _ _ _ _ _ ih.2 ih.1.1 answered
      refine ⟨?_, step.2⟩
      rw [watched_append_one]
      exact ih.1.2 _ step.1

/-! ### Whole runs -/

/-- The outcomes and final worlds of the runs that end. -/
def Program.Yields (handler : Handler Op Reply Fault World) :
    Program Op Reply Fault Value → World → Except Fault Value → World → Prop
  | .done value, world, outcome, after => outcome = .ok value ∧ after = world
  | .raised fault, world, outcome, after => outcome = .error fault ∧ after = world
  | .call op resume, world, outcome, after => ∃ reply between,
      handler world op reply between ∧ Yields handler (resume reply) between outcome after

theorem yields_settle {outcome final : Except Fault Value} {world after : World} :
    Program.Yields handler (.settle outcome : Program Op Reply Fault Value) world final after ↔
      final = outcome ∧ after = world := by
  cases outcome <;> exact Iff.rfl

theorem yields_attempt {body : Program Op Reply Fault Value}
    {next : Except Fault Value → Program Op Reply Fault Result} {world after : World}
    {outcome : Except Fault Result} :
    (body.attempt next).Yields handler world outcome after ↔
      ∃ middle between, body.Yields handler world middle between ∧
        (next middle).Yields handler between outcome after := by
  induction body generalizing world with
  | done value =>
      constructor
      · intro yields
        exact ⟨.ok value, world, ⟨rfl, rfl⟩, yields⟩
      · rintro ⟨_, _, ⟨rfl, rfl⟩, yields⟩
        exact yields
  | raised fault =>
      constructor
      · intro yields
        exact ⟨.error fault, world, ⟨rfl, rfl⟩, yields⟩
      · rintro ⟨_, _, ⟨rfl, rfl⟩, yields⟩
        exact yields
  | call op resume ih =>
      constructor
      · rintro ⟨reply, answered, told, yields⟩
        obtain ⟨middle, between, first, rest⟩ := (ih reply).mp yields
        exact ⟨middle, between, ⟨reply, answered, told, first⟩, rest⟩
      · rintro ⟨middle, between, ⟨reply, answered, told, first⟩, rest⟩
        exact ⟨reply, answered, told, (ih reply).mpr ⟨middle, between, first, rest⟩⟩

/-- Sequencing either hands a value on or stops with the fault. -/
theorem yields_bind {body : Program Op Reply Fault Value}
    {next : Value → Program Op Reply Fault Result} {world after : World}
    {outcome : Except Fault Result} :
    (body >>= next).Yields handler world outcome after ↔
      (∃ value between, body.Yields handler world (.ok value) between ∧
        (next value).Yields handler between outcome after) ∨
      ∃ fault, body.Yields handler world (.error fault) after ∧ outcome = .error fault := by
  rw [Program.bind_is_attempt, yields_attempt]
  constructor
  · rintro ⟨middle, between, first, rest⟩
    cases middle with
    | ok value => exact Or.inl ⟨value, between, first, rest⟩
    | error fault =>
        obtain ⟨rfl, rfl⟩ := rest
        exact Or.inr ⟨fault, first, rfl⟩
  · rintro (⟨value, between, first, rest⟩ | ⟨fault, first, rfl⟩)
    · exact ⟨.ok value, between, first, rest⟩
    · exact ⟨.error fault, after, first, rfl, rfl⟩

/-- A value comes only out of a sequence whose first part gave one. -/
theorem yields_bind_ok {body : Program Op Reply Fault Value}
    {next : Value → Program Op Reply Fault Result} {world after : World} {result : Result} :
    (body >>= next).Yields handler world (.ok result) after ↔
      ∃ value between, body.Yields handler world (.ok value) between ∧
        (next value).Yields handler between (.ok result) after := by
  rw [yields_bind]
  constructor
  · rintro (returns | ⟨fault, _, impossible⟩)
    · exact returns
    · cases impossible
  · exact Or.inl

theorem yields_perform {op : Op} {world after : World} {outcome : Except Fault (Reply op)} :
    (Program.perform op).Yields handler world outcome after ↔ handler world op outcome after := by
  constructor
  · rintro ⟨reply, between, told, yields⟩
    cases reply with
    | ok value =>
        obtain ⟨rfl, rfl⟩ := yields
        exact told
    | error fault =>
        obtain ⟨rfl, rfl⟩ := yields
        exact told
  · intro told
    refine ⟨outcome, after, told, ?_⟩
    cases outcome <;> exact ⟨rfl, rfl⟩

/-- A translated program does to the part of the world it sees what the program
does, and nothing to the rest. -/
theorem yields_translate {Wide WideWorld Rest : Type} {WideReply : Wide → Type}
    {wideHandler : Handler Wide WideReply Fault WideWorld} {wrap : Op → Wide}
    {read : (op : Op) → Except Fault (WideReply (wrap op)) → Except Fault (Reply op)}
    {seen : WideWorld → World} {unseen : WideWorld → Rest}
    (told : ∀ world op reply after, wideHandler world (wrap op) reply after →
      handler (seen world) op (read op reply) (seen after) ∧ unseen after = unseen world)
    {program : Program Op Reply Fault Value} {world after : WideWorld}
    {outcome : Except Fault Value}
    (yields : (program.translate wrap read).Yields wideHandler world outcome after) :
    program.Yields handler (seen world) outcome (seen after) ∧ unseen after = unseen world := by
  induction program generalizing world with
  | done value =>
      obtain ⟨rfl, rfl⟩ := yields
      exact ⟨⟨rfl, rfl⟩, rfl⟩
  | raised fault =>
      obtain ⟨rfl, rfl⟩ := yields
      exact ⟨⟨rfl, rfl⟩, rfl⟩
  | call op resume ih =>
      obtain ⟨reply, between, answered, rest⟩ := yields
      obtain ⟨step, kept⟩ := told world op reply between answered
      obtain ⟨run, same⟩ := ih (read op reply) rest
      exact ⟨⟨read op reply, seen between, step, run⟩, same.trans kept⟩

/-- A translated program can do to the part of the world it sees whatever the program can. -/
theorem Program.Yields.translated {Wide WideWorld : Type} {WideReply : Wide → Type}
    {wideHandler : Handler Wide WideReply Fault WideWorld} {wrap : Op → Wide}
    {read : (op : Op) → Except Fault (WideReply (wrap op)) → Except Fault (Reply op)}
    {widen : World → WideWorld}
    (told : ∀ world op reply after, handler world op reply after →
      ∃ wide, read op wide = reply ∧ wideHandler (widen world) (wrap op) wide (widen after))
    {program : Program Op Reply Fault Value} {world after : World} {outcome : Except Fault Value}
    (yields : program.Yields handler world outcome after) :
    (program.translate wrap read).Yields wideHandler (widen world) outcome (widen after) := by
  induction program generalizing world with
  | done value =>
      obtain ⟨rfl, rfl⟩ := yields
      exact ⟨rfl, rfl⟩
  | raised fault =>
      obtain ⟨rfl, rfl⟩ := yields
      exact ⟨rfl, rfl⟩
  | call op resume ih =>
      obtain ⟨reply, between, answered, rest⟩ := yields
      obtain ⟨wide, rfl, step⟩ := told world op reply between answered
      exact ⟨wide, widen between, step, ih _ rest⟩

/-- What is left of a run yields what the whole program can yield. -/
theorem Steps.yields {program rest : Program Op Reply Fault Value} {world current after : World}
    {events : List (Event Op Reply Fault)} {outcome : Except Fault Value}
    (run : Steps handler program world events rest current)
    (ending : rest.Yields handler current outcome after) :
    program.Yields handler world outcome after := by
  induction run with
  | refl => exact ending
  | next earlier answered ih => exact ih ⟨_, _, answered, ending⟩

theorem Finishes.yields {program : Program Op Reply Fault Value} {world after : World}
    {events : List (Event Op Reply Fault)} {outcome : Except Fault Value}
    (run : Finishes handler program world events outcome after) :
    program.Yields handler world outcome after :=
  Steps.yields run (yields_settle.mpr ⟨rfl, rfl⟩)

/-- Every answer of the first handler is one of the second. -/
def Handler.Within (narrow wide : Handler Op Reply Fault World) : Prop :=
  ∀ world op reply after, narrow world op reply after → wide world op reply after

theorem Program.Yields.widen {narrow wide : Handler Op Reply Fault World}
    (within : narrow.Within wide) {program : Program Op Reply Fault Value} {world after : World}
    {outcome : Except Fault Value} (yields : program.Yields narrow world outcome after) :
    program.Yields wide world outcome after := by
  induction program generalizing world with
  | done value => exact yields
  | raised fault => exact yields
  | call op resume ih =>
      obtain ⟨reply, between, told, rest⟩ := yields
      exact ⟨reply, between, within world op reply between told, ih reply rest⟩

/-! ### Postconditions of whole runs -/

/-- Every run of the program that ends, ends as `post` demands. -/
def Ensures (handler : Handler Op Reply Fault World) (program : Program Op Reply Fault Value)
    (world : World) (post : Except Fault Value → World → Prop) : Prop :=
  ∀ outcome after, program.Yields handler world outcome after → post outcome after

section Ensuring

variable {program : Program Op Reply Fault Value} {world : World}
  {post weaker : Except Fault Value → World → Prop}

theorem ensures_settle {outcome : Except Fault Value} :
    Ensures handler (.settle outcome) world post ↔ post outcome world := by
  constructor
  · intro ensures
    exact ensures outcome world (yields_settle.mpr ⟨rfl, rfl⟩)
  · intro holds final after yields
    obtain ⟨rfl, rfl⟩ := yields_settle.mp yields
    exact holds

theorem ensures_pure {value : Value} :
    Ensures handler (pure value) world post ↔ post (.ok value) world :=
  @ensures_settle _ _ _ _ _ handler world post (.ok value)

theorem ensures_raised {fault : Fault} :
    Ensures handler (.raised fault) world post ↔ post (.error fault) world :=
  @ensures_settle _ _ _ _ _ handler world post (.error fault)

theorem ensures_perform {op : Op} {post : Except Fault (Reply op) → World → Prop} :
    Ensures handler (.perform op) world post ↔
      ∀ reply after, handler world op reply after → post reply after := by
  constructor
  · intro ensures reply after told
    exact ensures reply after (yields_perform.mpr told)
  · intro holds reply after yields
    exact holds reply after (yields_perform.mp yields)

theorem Ensures.attempt {next : Except Fault Value → Program Op Reply Fault Result}
    {last : Except Fault Result → World → Prop}
    (first : Ensures handler program world
      (fun outcome between => Ensures handler (next outcome) between last)) :
    Ensures handler (program.attempt next) world last := by
  intro outcome after yields
  obtain ⟨middle, between, ended, rest⟩ := yields_attempt.mp yields
  exact first middle between ended outcome after rest

/-- Sequencing through an intermediate assertion. -/
theorem Ensures.bind {next : Value → Program Op Reply Fault Result}
    {last : Except Fault Result → World → Prop} (first : Ensures handler program world post)
    (returns : ∀ value between, post (.ok value) between →
      Ensures handler (next value) between last)
    (raises : ∀ fault between, post (.error fault) between → last (.error fault) between) :
    Ensures handler (program >>= next) world last := by
  intro outcome after yields
  rcases yields_bind.mp yields with ⟨value, between, ended, rest⟩ | ⟨fault, ended, rfl⟩
  · exact returns value between (first _ _ ended) outcome after rest
  · exact raises fault after (first _ _ ended)

/-- A computed outcome either goes on or stops the sequence. -/
theorem ensures_settle_bind {settled : Except Fault Value}
    {next : Value → Program Op Reply Fault Result} {last : Except Fault Result → World → Prop}
    (returns : ∀ value, settled = .ok value → Ensures handler (next value) world last)
    (raises : ∀ fault, settled = .error fault → last (.error fault) world) :
    Ensures handler ((Program.settle settled : Program Op Reply Fault Value) >>= next) world last := by
  cases settled with
  | ok value => exact returns value rfl
  | error fault => exact ensures_raised.mpr (raises fault rfl)

theorem Ensures.mono (ensures : Ensures handler program world post)
    (weakens : ∀ outcome after, post outcome after → weaker outcome after) :
    Ensures handler program world weaker :=
  fun outcome after yields => weakens outcome after (ensures outcome after yields)

/-- A program keeps what every operation of its footprint keeps. -/
theorem Program.Uses.ensures {allowed : Op → Prop} {kept : World → Prop}
    (uses : program.Uses allowed) (start : kept world)
    (step : ∀ current op reply answered, kept current → allowed op →
      handler current op reply answered → kept answered) :
    Ensures handler program world (fun _ after => kept after) := by
  induction program generalizing world with
  | done value =>
      rintro _ _ ⟨rfl, rfl⟩
      exact start
  | raised fault =>
      rintro _ _ ⟨rfl, rfl⟩
      exact start
  | call op resume ih =>
      rintro outcome after ⟨reply, between, told, rest⟩
      exact ih reply (uses.2 reply) (step _ _ _ _ start uses.1 told) outcome after rest

/-- The invariant rule for whole runs of a conforming program: what links the
world to the watcher at the start, and is kept by every admitted step, links them
at the end. -/
theorem Conforms.ensures {spec : Spec Op Reply Fault State}
    {exit : Except Fault Value → State → Prop} {state : State} (linked : World → State → Prop)
    (conforms : Conforms spec exit program state) (start : linked world state)
    (kept : ∀ current watched op reply answered, linked current watched →
      spec.admits watched op → handler current op reply answered →
        spec.expects watched op reply ∧ linked answered (spec.observe watched op reply)) :
    Ensures handler program world
      (fun outcome after => ∃ watched, exit outcome watched ∧ linked after watched) := by
  induction program generalizing world state with
  | done value =>
      rintro _ _ ⟨rfl, rfl⟩
      exact ⟨state, conforms, start⟩
  | raised fault =>
      rintro _ _ ⟨rfl, rfl⟩
      exact ⟨state, conforms, start⟩
  | call op resume ih =>
      rintro outcome after ⟨reply, between, told, rest⟩
      have step := kept _ _ _ _ _ start conforms.1 told
      exact ih reply (conforms.2 reply step.1) step.2 outcome after rest

end Ensuring

end EffectProgram
