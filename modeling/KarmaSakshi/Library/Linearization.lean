import KarmaSakshi.Library.Pool

/-!
Calls that take effect at one moment.

Every caller of a pool runs one operation of an object, in several steps.  Where each program
has one point, an answered step after which it issues nothing more, and no other step shows in
the object, the pool does what the operations would do one after another, in the order of the
points.  A call that fails has done nothing.
-/

namespace EffectProgram

set_option autoImplicit false

variable {Op : Type} {Reply : Op → Type} {Fault Value World Object Caller : Type}

/-- Which answered steps are the point of a caller, with the result of its operation. -/
abbrev Point (Op : Type) (Reply : Op → Type) (Fault Value Caller : Type) :=
  Caller → (op : Op) → Except Fault (Reply op) → Option Value

/-- The watcher of a program that keeps to some operations and issues nothing after its point. -/
def pointSpec (within : Op → Prop)
    (point : (op : Op) → Except Fault (Reply op) → Option Value) :
    Spec Op Reply Fault (Option Value) where
  admits := fun passed op => passed = none ∧ within op
  expects := fun _ _ _ => True
  observe := fun _ op reply => point op reply

/-- The program has its point exactly when it returns, with the result of the point. -/
def HasPoint (within : Op → Prop)
    (point : (op : Op) → Except Fault (Reply op) → Option Value)
    (program : Program Op Reply Fault Value) : Prop :=
  Conforms (pointSpec within point) (fun outcome passed => outcome.toOption = passed) program none

/-- The points of a log, in order. -/
def history (point : Point Op Reply Fault Value Caller)
    (log : List (Entry Op Reply Fault Value Caller)) : List (Caller × Value) :=
  log.filterMap fun entry =>
    match entry with
    | .performed caller op reply => (point caller op reply).map (fun value => (caller, value))
    | _ => none

/-- Operations that follow on each other lead from one object to another. -/
def Serial (serves : Caller → Object → Value → Object → Prop) :
    Object → List (Caller × Value) → Object → Prop
  | object, [], last => object = last
  | object, (caller, value) :: rest, last =>
      ∃ next, serves caller object value next ∧ Serial serves next rest last

/-- A point shows as the operation it stands for, and any other step not at all. -/
def ShowsAs (serves : Object → Value → Object → Prop) (result : Option Value)
    (before after : Object) : Prop :=
  match result with
  | some value => serves before value after
  | none => after = before

def PointsShow (pool : Pool Op Reply Fault Value World Caller) (within : Caller → Op → Prop)
    (point : Point Op Reply Fault Value Caller) (view : World → Object)
    (serves : Caller → Object → Value → Object → Prop) : Prop :=
  ∀ caller world op reply after, within caller op → pool.handler caller world op reply after →
    ShowsAs (serves caller) (point caller op reply) (view world) (view after)

section Histories

variable {point : Point Op Reply Fault Value Caller}
  {serves : Caller → Object → Value → Object → Prop} {caller : Caller}

theorem history_append_one (log : List (Entry Op Reply Fault Value Caller))
    (entry : Entry Op Reply Fault Value Caller) :
    history point (log ++ [entry]) = history point log ++ history point [entry] :=
  List.filterMap_append

theorem history_started (log : List (Entry Op Reply Fault Value Caller)) :
    history point (log ++ [.started caller]) = history point log := by
  rw [history_append_one]
  exact List.append_nil _

theorem history_finished (log : List (Entry Op Reply Fault Value Caller))
    (outcome : Except Fault Value) :
    history point (log ++ [.finished caller outcome]) = history point log := by
  rw [history_append_one]
  exact List.append_nil _

theorem history_performed (log : List (Entry Op Reply Fault Value Caller)) (op : Op)
    (reply : Except Fault (Reply op)) :
    history point (log ++ [.performed caller op reply]) =
      history point log ++ ((point caller op reply).map (fun value => (caller, value))).toList := by
  rw [history_append_one]
  congr 1

theorem Serial.append_one {first middle last : Object} {operations : List (Caller × Value)}
    {value : Value} (replays : Serial serves first operations middle)
    (served : serves caller middle value last) :
    Serial serves first (operations ++ [(caller, value)]) last := by
  induction operations generalizing first with
  | nil =>
      obtain rfl : first = middle := replays
      exact ⟨last, served, rfl⟩
  | cons operation rest ih =>
      obtain ⟨next, done, later⟩ := replays
      exact ⟨next, done, ih later⟩

end Histories

/-- What is known of a pool: the object is where the history leads, and the callers in the
history are those past their points. -/
structure Linearized [DecidableEq Caller] (within : Caller → Op → Prop)
    (point : Point Op Reply Fault Value Caller) (view : World → Object)
    (serves : Caller → Object → Value → Object → Prop) (initial : World)
    (config : Config Op Reply Fault Value World Caller) : Prop where
  replays : Serial serves (view initial) (history point config.log) (view config.world)
  once : ((history point config.log).map Prod.fst).Nodup
  passed : ∀ caller value, (caller, value) ∈ history point config.log ↔
    (pointSpec (within caller) (point caller)).seen none caller config.log = some value

variable [DecidableEq Caller] {pool : Pool Op Reply Fault Value World Caller}
  {within : Caller → Op → Prop} {point : Point Op Reply Fault Value Caller}
  {view : World → Object} {serves : Caller → Object → Value → Object → Prop} {initial : World}
  {config : Config Op Reply Fault Value World Caller}

theorem Linearized.answer (linearized : Linearized within point view serves initial config)
    (show_points : PointsShow pool within point view serves) {caller : Caller} {op : Op}
    {resume : Except Fault (Reply op) → Program Op Reply Fault Value}
    {reply : Except Fault (Reply op)} {world : World}
    (unpassed : (pointSpec (within caller) (point caller)).seen none caller config.log = none)
    (kept : within caller op)
    (answered : pool.handler caller config.world op reply world) :
    Linearized within point view serves initial (config.answer caller op resume reply world) := by
  have shown := show_points caller config.world op reply world kept answered
  have new : ∀ value, (caller, value) ∉ history point config.log := by
    intro value member
    rw [(linearized.passed caller value).mp member] at unpassed
    cases unpassed
  constructor
  case replays =>
    rw [Config.answer, history_performed]
    cases found : point caller op reply with
    | none =>
        rw [found] at shown
        simp only [Option.map_none, Option.toList_none, List.append_nil]
        rw [show view world = view config.world from shown]
        exact linearized.replays
    | some value =>
        rw [found] at shown
        exact linearized.replays.append_one shown
  case once =>
    rw [Config.answer, history_performed, List.map_append]
    cases point caller op reply with
    | none =>
        simp only [Option.map_none, Option.toList_none, List.map_nil, List.append_nil]
        exact linearized.once
    | some value =>
        apply List.nodup_append.mpr
        refine ⟨linearized.once, by simp, ?_⟩
        intro earlier member current last same
        obtain ⟨⟨first, result⟩, listed, rfl⟩ := List.mem_map.mp member
        obtain rfl : first = caller := same.trans (List.mem_singleton.mp last)
        exact new result listed
  case passed =>
    intro other value
    rw [Config.answer, history_performed, seen_performed, List.mem_append]
    by_cases same : caller = other
    · subst same
      rw [if_pos rfl, or_iff_right (new value)]
      change _ ↔ point caller op reply = some value
      cases point caller op reply with
      | none => simp
      | some result => simp [eq_comm]
    · rw [if_neg same, ← linearized.passed other value]
      refine or_iff_left ?_
      intro last
      cases found : point caller op reply with
      | none =>
          rw [found] at last
          cases last
      | some result =>
          rw [found] at last
          exact same (congrArg Prod.fst (List.mem_singleton.mp last)).symm

/-- Every pool of programs with points does what their operations do one after another, and the
calls that have returned are in that order with their results. -/
theorem Pool.Reachable.linearized
    (points : ∀ caller, HasPoint (within caller) (point caller) (pool.program caller))
    (show_points : PointsShow pool within point view serves)
    (reached : pool.Reachable initial config) :
    Serial serves (view initial) (history point config.log) (view config.world) ∧
      ((history point config.log).map Prod.fst).Nodup ∧
        ∀ caller outcome, config.status caller = .ended outcome →
          ∀ value, outcome = .ok value ↔ (caller, value) ∈ history point config.log := by
  have keeps : pool.Keeps (fun caller => pointSpec (within caller) (point caller))
      (fun _ outcome passed => outcome.toOption = passed) (fun _ => none)
      (Linearized within point view serves initial) := by
    constructor
    case started =>
      intro current caller held _ _ _
      constructor
      · simpa only [Config.start, history_started] using held.replays
      · simpa only [Config.start, history_started] using held.once
      · intro other value
        simp only [Config.start, history_started, seen_started]
        exact held.passed other value
    case answered =>
      intro current caller op resume reply world held _ _ admitted answered
      exact ⟨trivial, held.answer show_points admitted.1 admitted.2 answered⟩
    case finished =>
      intro current caller outcome held _ _
      constructor
      · simpa only [Config.finish, history_finished] using held.replays
      · simpa only [Config.finish, history_finished] using held.once
      · intro other value
        simp only [Config.finish, history_finished, seen_finished]
        exact held.passed other value
  have start : Linearized within point view serves initial
      (Pool.initial initial : Config Op Reply Fault Value World Caller) := by
    constructor
    case replays => rfl
    case once => exact List.nodup_nil
    case passed =>
      intro caller value
      exact iff_of_false List.not_mem_nil (by simp [Pool.initial])
  obtain ⟨linearized, standing⟩ := keeps.reachable points start reached
  refine ⟨linearized.replays, linearized.once, ?_⟩
  intro caller outcome ended value
  have exit := standing caller
  rw [ended] at exit
  have passed : outcome.toOption =
      (pointSpec (within caller) (point caller)).seen none caller config.log := exit
  rw [linearized.passed caller value, ← passed]
  cases outcome <;> simp [Except.toOption]

end EffectProgram
