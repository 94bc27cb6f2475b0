import KarmaSakshi.Library.Execution

/-!
Pools of callers that share one world, interleaved operation by operation.

Every caller runs its own program once.  A configuration records the world, how
far each caller is, and the log of everything that happened.  A caller that is
never scheduled again stands for one that crashed.
-/

namespace EffectProgram

set_option autoImplicit false

variable {Op : Type} {Reply : Op → Type} {Fault Value State World Caller : Type}

inductive Status (Op : Type) (Reply : Op → Type) (Fault Value : Type) : Type where
  | waiting
  | running (rest : Program Op Reply Fault Value)
  | ended (outcome : Except Fault Value)

/-- One entry of a pool's log. -/
inductive Entry (Op : Type) (Reply : Op → Type) (Fault Value Caller : Type) : Type where
  | started (caller : Caller)
  | performed (caller : Caller) (op : Op) (reply : Except Fault (Reply op))
  | finished (caller : Caller) (outcome : Except Fault Value)

structure Config (Op : Type) (Reply : Op → Type) (Fault Value World Caller : Type) where
  world : World
  status : Caller → Status Op Reply Fault Value
  log : List (Entry Op Reply Fault Value Caller)

/-- The callers, how the world answers each of them, and the scheduling the
pool allows. -/
structure Pool (Op : Type) (Reply : Op → Type) (Fault Value World Caller : Type) where
  program : Caller → Program Op Reply Fault Value
  handler : Caller → Handler Op Reply Fault World
  mayStart : Config Op Reply Fault Value World Caller → Caller → Prop
  mayPerform : Config Op Reply Fault Value World Caller → Caller → Op → Prop

variable [DecidableEq Caller]

namespace Config

variable (config : Config Op Reply Fault Value World Caller) (caller : Caller)

def start (program : Program Op Reply Fault Value) : Config Op Reply Fault Value World Caller :=
  { config with
    status := Function.update config.status caller (.running program)
    log := config.log ++ [.started caller] }

def answer (op : Op) (resume : Except Fault (Reply op) → Program Op Reply Fault Value)
    (reply : Except Fault (Reply op)) (world : World) :
    Config Op Reply Fault Value World Caller :=
  { world
    status := Function.update config.status caller (.running (resume reply))
    log := config.log ++ [.performed caller op reply] }

def finish (outcome : Except Fault Value) : Config Op Reply Fault Value World Caller :=
  { config with
    status := Function.update config.status caller (.ended outcome)
    log := config.log ++ [.finished caller outcome] }

end Config

inductive Pool.Step (pool : Pool Op Reply Fault Value World Caller) :
    Config Op Reply Fault Value World Caller →
      Config Op Reply Fault Value World Caller → Prop where
  | start {config : Config Op Reply Fault Value World Caller} {caller : Caller}
      (waits : config.status caller = .waiting) (permitted : pool.mayStart config caller) :
      pool.Step config (config.start caller (pool.program caller))
  | answer {config : Config Op Reply Fault Value World Caller} {caller : Caller} {op : Op}
      {resume : Except Fault (Reply op) → Program Op Reply Fault Value}
      {reply : Except Fault (Reply op)} {world : World}
      (runs : config.status caller = .running (.call op resume))
      (permitted : pool.mayPerform config caller op)
      (answered : pool.handler caller config.world op reply world) :
      pool.Step config (config.answer caller op resume reply world)
  | finish {config : Config Op Reply Fault Value World Caller} {caller : Caller}
      {outcome : Except Fault Value}
      (runs : config.status caller = .running (.settle outcome)) :
      pool.Step config (config.finish caller outcome)

def Pool.initial (world : World) : Config Op Reply Fault Value World Caller :=
  { world, status := fun _ => .waiting, log := [] }

inductive Pool.Reachable (pool : Pool Op Reply Fault Value World Caller) (world : World) :
    Config Op Reply Fault Value World Caller → Prop where
  | initial : pool.Reachable world (Pool.initial world)
  | step {config after : Config Op Reply Fault Value World Caller}
      (earlier : pool.Reachable world config) (stepped : pool.Step config after) :
      pool.Reachable world after

/-! ### Watching every caller -/

/-- What one caller's watcher makes of one log entry. -/
def Spec.notice (spec : Spec Op Reply Fault State) (caller : Caller) (state : State) :
    Entry Op Reply Fault Value Caller → State
  | .started _ => state
  | .performed actor op reply => if actor = caller then spec.observe state op reply else state
  | .finished _ _ => state

/-- The state of one caller's watcher after a log. -/
def Spec.seen (spec : Spec Op Reply Fault State) (initial : State) (caller : Caller)
    (log : List (Entry Op Reply Fault Value Caller)) : State :=
  log.foldl (spec.notice caller) initial

section Seen

variable (spec : Spec Op Reply Fault State) (initial : State) (caller actor : Caller)
  (log : List (Entry Op Reply Fault Value Caller))

@[simp] theorem seen_nil :
    spec.seen initial caller ([] : List (Entry Op Reply Fault Value Caller)) = initial := rfl

theorem seen_append_one (entry : Entry Op Reply Fault Value Caller) :
    spec.seen initial caller (log ++ [entry]) =
      spec.notice caller (spec.seen initial caller log) entry := by
  simp only [Spec.seen, List.foldl_append, List.foldl_cons, List.foldl_nil]

@[simp] theorem seen_started :
    spec.seen initial caller (log ++ [.started actor]) = spec.seen initial caller log := by
  rw [seen_append_one, Spec.notice]

@[simp] theorem seen_finished (outcome : Except Fault Value) :
    spec.seen initial caller (log ++ [.finished actor outcome]) =
      spec.seen initial caller log := by
  rw [seen_append_one, Spec.notice]

@[simp] theorem seen_own (op : Op) (reply : Except Fault (Reply op)) :
    spec.seen initial caller (log ++ [.performed caller op reply]) =
      spec.observe (spec.seen initial caller log) op reply := by
  rw [seen_append_one, Spec.notice, if_pos rfl]

theorem seen_other (op : Op) (reply : Except Fault (Reply op)) (other : actor ≠ caller) :
    spec.seen initial caller (log ++ [.performed actor op reply]) =
      spec.seen initial caller log := by
  rw [seen_append_one, Spec.notice, if_neg other]

theorem seen_performed (op : Op) (reply : Except Fault (Reply op)) :
    spec.seen initial caller (log ++ [.performed actor op reply]) =
      if actor = caller then spec.observe (spec.seen initial caller log) op reply
      else spec.seen initial caller log := by
  rw [seen_append_one, Spec.notice]

end Seen

/-- Where a caller stands, as its watcher sees it. -/
def Standing (spec : Spec Op Reply Fault State) (exit : Except Fault Value → State → Prop)
    (state initial : State) : Status Op Reply Fault Value → Prop
  | .waiting => state = initial
  | .running rest => Conforms spec exit rest state
  | .ended outcome => exit outcome state

/-- What an invariant of a pool has to keep, one clause for each kind of step.
The clauses may use all that the watchers guarantee at that step. -/
structure Pool.Keeps (pool : Pool Op Reply Fault Value World Caller)
    (spec : Caller → Spec Op Reply Fault State)
    (exit : Caller → Except Fault Value → State → Prop) (initial : Caller → State)
    (invariant : Config Op Reply Fault Value World Caller → Prop) : Prop where
  started : ∀ config caller, invariant config → config.status caller = .waiting →
    pool.mayStart config caller →
    (spec caller).seen (initial caller) caller config.log = initial caller →
      invariant (config.start caller (pool.program caller))
  answered : ∀ config caller op resume reply world, invariant config →
    config.status caller = .running (.call op resume) → pool.mayPerform config caller op →
    (spec caller).admits ((spec caller).seen (initial caller) caller config.log) op →
    pool.handler caller config.world op reply world →
      (spec caller).expects ((spec caller).seen (initial caller) caller config.log) op reply ∧
        invariant (config.answer caller op resume reply world)
  finished : ∀ config caller outcome, invariant config →
    config.status caller = .running (.settle outcome) →
    exit caller outcome ((spec caller).seen (initial caller) caller config.log) →
      invariant (config.finish caller outcome)

variable {pool : Pool Op Reply Fault Value World Caller}
  {spec : Caller → Spec Op Reply Fault State}
  {exit : Caller → Except Fault Value → State → Prop} {initial : Caller → State}
  {invariant : Config Op Reply Fault Value World Caller → Prop}

/-- Every caller stands where its watcher sees it. -/
def Pool.AllStand (spec : Caller → Spec Op Reply Fault State)
    (exit : Caller → Except Fault Value → State → Prop) (initial : Caller → State)
    (config : Config Op Reply Fault Value World Caller) : Prop :=
  ∀ caller, Standing (spec caller) (exit caller)
    ((spec caller).seen (initial caller) caller config.log) (initial caller) (config.status caller)

/-- One step keeps the invariant and where everyone stands. -/
theorem Pool.Keeps.step (keeps : pool.Keeps spec exit initial invariant)
    (conforms : ∀ caller,
      Conforms (spec caller) (exit caller) (pool.program caller) (initial caller))
    {config after : Config Op Reply Fault Value World Caller} (held : invariant config)
    (standing : Pool.AllStand spec exit initial config) (stepped : pool.Step config after) :
    invariant after ∧ Pool.AllStand spec exit initial after := by
  cases stepped with
  | @start caller waits permitted =>
      have fresh : (spec caller).seen (initial caller) caller config.log = initial caller := by
        have standingFresh := standing caller
        rw [waits] at standingFresh
        exact standingFresh
      refine ⟨keeps.started _ _ held waits permitted fresh, ?_⟩
      intro other
      simp only [Config.start, seen_started]
      by_cases same : other = caller
      · subst same
        rw [Function.update_self]
        simp only [Standing, fresh]
        exact conforms other
      · rw [Function.update_of_ne same]
        exact standing other
  | @answer caller op resume reply world runs permitted answered =>
      have conforming := standing caller
      rw [runs] at conforming
      have step := keeps.answered _ _ _ _ _ _ held runs permitted conforming.1 answered
      refine ⟨step.2, ?_⟩
      intro other
      simp only [Config.answer]
      by_cases same : other = caller
      · subst same
        rw [Function.update_self, seen_own]
        exact conforming.2 reply step.1
      · rw [Function.update_of_ne same, seen_other]
        · exact standing other
        · exact fun actorIsOther => same actorIsOther.symm
  | @finish caller outcome runs =>
      have ending := standing caller
      rw [runs] at ending
      have ended : exit caller outcome
          ((spec caller).seen (initial caller) caller config.log) := by
        simpa only [Standing, conforms_settle] using ending
      refine ⟨keeps.finished _ _ _ held runs ended, ?_⟩
      intro other
      simp only [Config.finish, seen_finished]
      by_cases same : other = caller
      · subst same
        rw [Function.update_self]
        exact ended
      · rw [Function.update_of_ne same]
        exact standing other

/-- From a state where it holds, the invariant holds ever after. -/
theorem Pool.Keeps.onward (keeps : pool.Keeps spec exit initial invariant)
    (conforms : ∀ caller,
      Conforms (spec caller) (exit caller) (pool.program caller) (initial caller))
    {middle config : Config Op Reply Fault Value World Caller} (held : invariant middle)
    (standing : Pool.AllStand spec exit initial middle)
    (leads : Relation.ReflTransGen pool.Step middle config) :
    invariant config ∧ Pool.AllStand spec exit initial config := by
  induction leads with
  | refl => exact ⟨held, standing⟩
  | tail _ stepped ih => exact keeps.step conforms ih.1 ih.2 stepped

theorem Pool.reachable_iff_leads {world : World}
    {config : Config Op Reply Fault Value World Caller} :
    pool.Reachable world config ↔ Relation.ReflTransGen pool.Step (Pool.initial world) config := by
  constructor
  · intro reached
    induction reached with
    | initial => exact .refl
    | step _ stepped ih => exact ih.tail stepped
  · intro leads
    induction leads with
    | refl => exact .initial
    | tail _ stepped ih => exact .step ih stepped

theorem Pool.Reachable.onward {world : World}
    {middle config : Config Op Reply Fault Value World Caller}
    (reached : pool.Reachable world middle)
    (leads : Relation.ReflTransGen pool.Step middle config) : pool.Reachable world config :=
  Pool.reachable_iff_leads.mpr ((Pool.reachable_iff_leads.mp reached).trans leads)

/-- The invariant rule for pools of conforming programs. -/
theorem Pool.Keeps.reachable (keeps : pool.Keeps spec exit initial invariant)
    (conforms : ∀ caller,
      Conforms (spec caller) (exit caller) (pool.program caller) (initial caller))
    {world : World} (start : invariant (Pool.initial world))
    {config : Config Op Reply Fault Value World Caller}
    (reached : pool.Reachable world config) :
    invariant config ∧ Pool.AllStand spec exit initial config :=
  keeps.onward conforms start (fun _ => rfl) (Pool.reachable_iff_leads.mp reached)

/-! ### Steps of one caller -/

/-- One step of the caller on the way from `world` to `config` satisfied `fact`,
which sees the world before, the answered operation and the world after. -/
def Pool.Took (pool : Pool Op Reply Fault Value World Caller) (world : World) (caller : Caller)
    (fact : World → Event Op Reply Fault → World → Prop)
    (config : Config Op Reply Fault Value World Caller) : Prop :=
  ∃ moment op resume reply after, pool.Reachable world moment ∧
    moment.status caller = .running (.call op resume) ∧
    pool.handler caller moment.world op reply after ∧
    Relation.ReflTransGen pool.Step (moment.answer caller op resume reply after) config ∧
    fact moment.world ⟨op, reply⟩ after

theorem Pool.Took.mono {world : World} {caller : Caller}
    {fact weaker : World → Event Op Reply Fault → World → Prop}
    {config : Config Op Reply Fault Value World Caller}
    (took : pool.Took world caller fact config)
    (weakens : ∀ before event after, fact before event after → weaker before event after) :
    pool.Took world caller weaker config := by
  obtain ⟨moment, op, resume, reply, after, reached, runs, answered, leads, held⟩ := took
  exact ⟨moment, op, resume, reply, after, reached, runs, answered, leads, weakens _ _ _ held⟩

theorem Pool.Took.later {world : World} {caller : Caller}
    {fact : World → Event Op Reply Fault → World → Prop}
    {config after : Config Op Reply Fault Value World Caller}
    (took : pool.Took world caller fact config) (stepped : pool.Step config after) :
    pool.Took world caller fact after := by
  obtain ⟨moment, op, resume, reply, world, reached, runs, answered, leads, held⟩ := took
  exact ⟨moment, op, resume, reply, world, reached, runs, answered, leads.tail stepped, held⟩

/-- A caller whose watcher shows `mark` took a step that explains it: the mark
is absent at first, and every step that sets it satisfies `fact`. -/
theorem Pool.took_of_watched
    (conforms : ∀ caller,
      Conforms (spec caller) (exit caller) (pool.program caller) (initial caller))
    (expected : ∀ caller world op reply after state, pool.handler caller world op reply after →
      (spec caller).expects state op reply)
    (caller : Caller) (mark : State → Prop) (absent : ¬ mark (initial caller))
    (fact : World → Event Op Reply Fault → World → Prop)
    (explained : ∀ before op reply after state, (spec caller).admits state op →
      pool.handler caller before op reply after → mark ((spec caller).observe state op reply) →
        mark state ∨ fact before ⟨op, reply⟩ after)
    {world : World} {config : Config Op Reply Fault Value World Caller}
    (reached : pool.Reachable world config)
    (shown : mark ((spec caller).seen (initial caller) caller config.log)) :
    pool.Took world caller fact config := by
  have keeps : pool.Keeps spec exit initial (fun current => pool.Reachable world current ∧
      (mark ((spec caller).seen (initial caller) caller current.log) →
        pool.Took world caller fact current)) := by
    constructor
    · rintro current actor ⟨reachedNow, took⟩ waits permitted _
      have stepped := Pool.Step.start waits permitted
      refine ⟨reachedNow.step stepped, fun marked => (took ?_).later stepped⟩
      simpa only [Config.start, seen_started] using marked
    · rintro current actor op resume reply after ⟨reachedNow, took⟩ runs permitted admitted answered
      have stepped := Pool.Step.answer runs permitted answered
      refine ⟨expected actor _ op reply after _ answered, reachedNow.step stepped,
        fun marked => ?_⟩
      by_cases same : actor = caller
      · subst same
        simp only [Config.answer, seen_own] at marked
        rcases explained _ op reply after _ admitted answered marked with before | now
        · exact (took before).later stepped
        · exact ⟨current, op, resume, reply, after, reachedNow, runs, answered, .refl, now⟩
      · rw [Config.answer, seen_other _ _ _ _ _ _ _ same] at marked
        exact (took marked).later stepped
    · rintro current actor outcome ⟨reachedNow, took⟩ runs _
      have stepped : pool.Step current (current.finish actor outcome) := .finish runs
      refine ⟨reachedNow.step stepped, fun marked => (took ?_).later stepped⟩
      simpa only [Config.finish, seen_finished] using marked
  exact (keeps.reachable conforms ⟨.initial, fun marked => absurd marked absent⟩ reached).1.2
    shown

end EffectProgram
