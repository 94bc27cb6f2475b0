import KarmaSakshi.Library.Pool

/-!
Replaying programs against a world that answers deterministically.

A server picks one answer to every operation.  Where a handler allows that
answer, what the server computes is a run the handler admits, so a single run
and a whole schedule can both be evaluated and then used as existence proofs.
-/

namespace EffectProgram

set_option autoImplicit false

variable {Op : Type} {Reply : Op → Type} {Fault Value Result World Caller : Type}

/-- One answer to every operation. -/
abbrev Server (Op : Type) (Reply : Op → Type) (Fault World : Type) :=
  World → (op : Op) → Except Fault (Reply op) × World

/-- Every answer of the server is one the handler allows. -/
def Server.Serves (server : Server Op Reply Fault World)
    (handler : Handler Op Reply Fault World) : Prop :=
  ∀ world op, handler world op (server world op).1 (server world op).2

/-! ### One program -/

/-- How far a run got: what it was answered, what is left, and the world. -/
structure Trail (Op : Type) (Reply : Op → Type) (Fault Value World : Type) where
  events : List (Event Op Reply Fault)
  rest : Program Op Reply Fault Value
  world : World

def Trail.start (program : Program Op Reply Fault Value) (world : World) :
    Trail Op Reply Fault Value World :=
  { events := [], rest := program, world }

/-- One more answer, if the program asks for one. -/
def Trail.advance (server : Server Op Reply Fault World)
    (trail : Trail Op Reply Fault Value World) : Trail Op Reply Fault Value World :=
  match trail.rest with
  | .call op resume =>
      { events := trail.events ++ [⟨op, (server trail.world op).1⟩]
        rest := resume (server trail.world op).1
        world := (server trail.world op).2 }
  | .done _ => trail
  | .raised _ => trail

/-- The first `count` answers of a run. -/
def Program.replay (server : Server Op Reply Fault World)
    (program : Program Op Reply Fault Value) (world : World) :
    (count : Nat) → Trail Op Reply Fault Value World
  | 0 => Trail.start program world
  | count + 1 => (program.replay server world count).advance server

theorem Program.replay_steps {server : Server Op Reply Fault World}
    {handler : Handler Op Reply Fault World} (serves : server.Serves handler)
    (program : Program Op Reply Fault Value) (world : World) (count : Nat) :
    Steps handler program world (program.replay server world count).events
      (program.replay server world count).rest (program.replay server world count).world := by
  induction count with
  | zero => exact Steps.refl
  | succ count ih =>
      rw [Program.replay, Trail.advance]
      cases left : (program.replay server world count).rest with
      | done value => simpa only [left] using ih
      | raised fault => simpa only [left] using ih
      | call op resume =>
          rw [left] at ih
          exact Steps.next ih (serves _ op)

/-! ### A program to its end -/

/-- The outcome and the final world of the run a server produces. -/
def Program.run (server : Server Op Reply Fault World) :
    Program Op Reply Fault Value → World → Except Fault Value × World
  | .done value, world => (.ok value, world)
  | .raised fault, world => (.error fault, world)
  | .call op resume, world => run server (resume (server world op).1) (server world op).2

@[simp] theorem run_done (server : Server Op Reply Fault World) (value : Value) (world : World) :
    (Program.done value : Program Op Reply Fault Value).run server world = (.ok value, world) := rfl

@[simp] theorem run_raised (server : Server Op Reply Fault World) (fault : Fault) (world : World) :
    (Program.raised fault : Program Op Reply Fault Value).run server world =
      (.error fault, world) := rfl

@[simp] theorem run_settle (server : Server Op Reply Fault World) (outcome : Except Fault Value)
    (world : World) :
    (Program.settle outcome : Program Op Reply Fault Value).run server world =
      (outcome, world) := by
  cases outcome <;> rfl

theorem run_settle_ok {server : Server Op Reply Fault World} {outcome : Except Fault Value}
    {value : Value} (settles : outcome = .ok value) (world : World) :
    (Program.settle outcome : Program Op Reply Fault Value).run server world = (.ok value, world) := by
  rw [settles]
  rfl

theorem run_attempt (server : Server Op Reply Fault World) (body : Program Op Reply Fault Value)
    (next : Except Fault Value → Program Op Reply Fault Result) (world : World) :
    (body.attempt next).run server world =
      (next (body.run server world).1).run server (body.run server world).2 := by
  induction body generalizing world with
  | done value => rfl
  | raised fault => rfl
  | call op resume ih =>
      rw [Program.attempt_call, Program.run, Program.run]
      exact ih _ _

theorem run_perform (server : Server Op Reply Fault World) (op : Op) (world : World) :
    (Program.perform op : Program Op Reply Fault (Reply op)).run server world = server world op := by
  rw [Program.perform, Program.run]
  cases told : server world op with
  | mk reply after => cases reply <;> rfl

/-- A sequence whose first part returns goes on from there. -/
theorem run_bind_ok {server : Server Op Reply Fault World} {body : Program Op Reply Fault Value}
    {next : Value → Program Op Reply Fault Result} {world between : World} {value : Value}
    (first : body.run server world = (.ok value, between)) :
    (body >>= next).run server world = (next value).run server between := by
  rw [Program.bind_is_attempt, run_attempt, first]

theorem run_bind_error {server : Server Op Reply Fault World} {body : Program Op Reply Fault Value}
    {next : Value → Program Op Reply Fault Result} {world between : World} {fault : Fault}
    (first : body.run server world = (.error fault, between)) :
    (body >>= next).run server world = (.error fault, between) := by
  rw [Program.bind_is_attempt, run_attempt, first]
  rfl

/-- What the server makes of a program is one of the things it can yield. -/
theorem Program.run_yields {server : Server Op Reply Fault World}
    {handler : Handler Op Reply Fault World} (serves : server.Serves handler)
    (program : Program Op Reply Fault Value) (world : World) :
    program.Yields handler world (program.run server world).1 (program.run server world).2 := by
  induction program generalizing world with
  | done value => exact ⟨rfl, rfl⟩
  | raised fault => exact ⟨rfl, rfl⟩
  | call op resume ih =>
      exact ⟨(server world op).1, (server world op).2, serves world op, ih _ _⟩

/-- Every answer the server gives along the run passes. -/
def Program.passes (server : Server Op Reply Fault World)
    (vet : (op : Op) → Except Fault (Reply op) → Bool) :
    Program Op Reply Fault Value → World → Bool
  | .done _, _ => true
  | .raised _, _ => true
  | .call op resume, world => vet op (server world op).1 &&
      passes server vet (resume (server world op).1) (server world op).2

/-- A run whose answers all pass is one of those that only such answers allow. -/
theorem Program.passes_yields {server : Server Op Reply Fault World}
    {handler : Handler Op Reply Fault World} (serves : server.Serves handler)
    {vet : (op : Op) → Except Fault (Reply op) → Bool} {program : Program Op Reply Fault Value}
    {world : World} (passes : program.passes server vet world = true) :
    program.Yields (fun current op reply after => handler current op reply after ∧
      vet op reply = true) world (program.run server world).1 (program.run server world).2 := by
  induction program generalizing world with
  | done value => exact ⟨rfl, rfl⟩
  | raised fault => exact ⟨rfl, rfl⟩
  | call op resume ih =>
      obtain ⟨here, rest⟩ := Bool.and_eq_true_iff.mp passes
      exact ⟨(server world op).1, (server world op).2, ⟨serves world op, here⟩, ih _ rest⟩

/-! ### A schedule of callers -/

variable [DecidableEq Caller]

/-- Let one caller take its next step. -/
def Pool.advance (pool : Pool Op Reply Fault Value World Caller)
    (server : Caller → Server Op Reply Fault World)
    (config : Config Op Reply Fault Value World Caller) (caller : Caller) :
    Config Op Reply Fault Value World Caller :=
  match config.status caller with
  | .waiting => config.start caller (pool.program caller)
  | .running (.call op resume) =>
      config.answer caller op resume (server caller config.world op).1
        (server caller config.world op).2
  | .running (.done value) => config.finish caller (.ok value)
  | .running (.raised fault) => config.finish caller (.error fault)
  | .ended _ => config

/-- The scheduler lets this caller take its next step. -/
def Pool.Permits (pool : Pool Op Reply Fault Value World Caller)
    (config : Config Op Reply Fault Value World Caller) (caller : Caller) : Prop :=
  match config.status caller with
  | .waiting => pool.mayStart config caller
  | .running (.call op _) => pool.mayPerform config caller op
  | _ => True

def Pool.replay (pool : Pool Op Reply Fault Value World Caller)
    (server : Caller → Server Op Reply Fault World) (world : World) (schedule : List Caller) :
    Config Op Reply Fault Value World Caller :=
  schedule.foldl (pool.advance server) (Pool.initial world)

theorem Pool.advance_leads {pool : Pool Op Reply Fault Value World Caller}
    {server : Caller → Server Op Reply Fault World}
    (serves : ∀ caller, (server caller).Serves (pool.handler caller))
    {config : Config Op Reply Fault Value World Caller} {caller : Caller}
    (permitted : pool.Permits config caller) :
    Relation.ReflTransGen pool.Step config (pool.advance server config caller) := by
  unfold Pool.Permits at permitted
  unfold Pool.advance
  cases status : config.status caller with
  | waiting =>
      rw [status] at permitted
      exact .single (.start status permitted)
  | ended outcome => exact .refl
  | running rest =>
      cases rest with
      | done value =>
          have ends : config.status caller = .running (.settle (.ok value)) := status
          exact .single (.finish ends)
      | raised fault =>
          have ends : config.status caller = .running (.settle (.error fault)) := status
          exact .single (.finish ends)
      | call op resume =>
          rw [status] at permitted
          exact .single (.answer status permitted (serves caller _ op))

/-- Every step of the schedule is one the pool's scheduler allows. -/
def Pool.Permitted (pool : Pool Op Reply Fault Value World Caller)
    (server : Caller → Server Op Reply Fault World) :
    Config Op Reply Fault Value World Caller → List Caller → Prop
  | _, [] => True
  | config, caller :: rest =>
      pool.Permits config caller ∧ Permitted pool server (pool.advance server config caller) rest

theorem Pool.replay_leads {pool : Pool Op Reply Fault Value World Caller}
    {server : Caller → Server Op Reply Fault World}
    (serves : ∀ caller, (server caller).Serves (pool.handler caller)) (schedule : List Caller)
    {config : Config Op Reply Fault Value World Caller}
    (permitted : pool.Permitted server config schedule) :
    Relation.ReflTransGen pool.Step config (schedule.foldl (pool.advance server) config) := by
  induction schedule generalizing config with
  | nil => exact .refl
  | cons caller rest ih =>
      exact (Pool.advance_leads serves permitted.1).trans (ih permitted.2)

/-- A replayed schedule ends in a reachable state. -/
theorem Pool.replay_reachable {pool : Pool Op Reply Fault Value World Caller}
    {server : Caller → Server Op Reply Fault World}
    (serves : ∀ caller, (server caller).Serves (pool.handler caller)) {world : World}
    {schedule : List Caller} (permitted : pool.Permitted server (Pool.initial world) schedule) :
    pool.Reachable world (pool.replay server world schedule) :=
  Pool.reachable_iff_leads.mpr (Pool.replay_leads serves schedule permitted)

/-- Without a scheduler's restrictions every schedule is permitted. -/
theorem Pool.permitted_of_free {pool : Pool Op Reply Fault Value World Caller}
    (server : Caller → Server Op Reply Fault World)
    (starts : ∀ config caller, pool.mayStart config caller)
    (performs : ∀ config caller op, pool.mayPerform config caller op) (schedule : List Caller)
    (config : Config Op Reply Fault Value World Caller) :
    pool.Permitted server config schedule := by
  induction schedule generalizing config with
  | nil => trivial
  | cons caller rest ih =>
      refine ⟨?_, ih _⟩
      unfold Pool.Permits
      split
      · exact starts _ _
      · exact performs _ _ _
      · trivial

end EffectProgram
