import KarmaSakshi.Library.Replay

/-!
Observational equivalence of two servers.

Two servers are asked the same operations one after another.  They agree when
every answer is the same, faults counting as one answer.  A relation between
their worlds that the harmless operations keep, and under which exactly the
harmless operations are answered alike, decides agreement step by step.
-/

namespace EffectProgram

set_option autoImplicit false

variable {Op : Type} {Reply : Op → Type} {Fault Other World Mirror : Type}

/-- Both servers answer every operation of the sequence alike. -/
def Server.Agrees (server : Server Op Reply Fault World) (mirror : Server Op Reply Other Mirror) :
    World → Mirror → List Op → Prop
  | _, _, [] => True
  | world, other, op :: later =>
      (server world op).1.toOption = (mirror other op).1.toOption ∧
        server.Agrees mirror (server world op).2 (mirror other op).2 later

/-- The condition holds of every operation in the world it is asked in. -/
def Server.Along (server : Server Op Reply Fault World) (condition : World → Op → Prop) :
    World → List Op → Prop
  | _, [] => True
  | world, op :: later =>
      condition world op ∧ server.Along condition (server world op).2 later

/-- How far a mirror follows a server: while the worlds are related, the two
answer an operation alike exactly when it is harmless, and a harmless operation
keeps them related. -/
structure Server.Mirrors (server : Server Op Reply Fault World)
    (mirror : Server Op Reply Other Mirror) (related : World → Mirror → Prop)
    (harmless : World → Op → Prop) : Prop where
  answers : ∀ {world other}, related world other → ∀ op,
    (server world op).1.toOption = (mirror other op).1.toOption ↔ harmless world op
  keeps : ∀ {world other}, related world other → ∀ op, harmless world op →
    related (server world op).2 (mirror other op).2

variable {server : Server Op Reply Fault World} {mirror : Server Op Reply Other Mirror}
  {related : World → Mirror → Prop} {harmless : World → Op → Prop}

theorem Server.Mirrors.agrees_iff (mirrors : server.Mirrors mirror related harmless)
    (ops : List Op) {world : World} {other : Mirror} (start : related world other) :
    server.Agrees mirror world other ops ↔ server.Along harmless world ops := by
  induction ops generalizing world other with
  | nil => exact Iff.rfl
  | cons op later ih =>
      constructor
      · intro agrees
        have safe := (mirrors.answers start op).mp agrees.1
        exact ⟨safe, (ih (mirrors.keeps start op safe)).mp agrees.2⟩
      · intro along
        exact ⟨(mirrors.answers start op).mpr along.1,
          (ih (mirrors.keeps start op along.1)).mpr along.2⟩

/-- A mirror that follows every operation always agrees. -/
theorem Server.Mirrors.agrees (mirrors : server.Mirrors mirror related (fun _ _ => True))
    (ops : List Op) {world : World} {other : Mirror} (start : related world other) :
    server.Agrees mirror world other ops := by
  rw [mirrors.agrees_iff ops start]
  clear start
  induction ops generalizing world with
  | nil => trivial
  | cons op later ih => exact ⟨trivial, ih⟩

/-! ### Programs -/

variable {Value Result : Type} {program : Program Op Reply Fault Value} {allowed : Op → Prop}

/-- A program whose operations two servers answer alike ends alike on both. -/
theorem Program.Uses.run_related {mirror : Server Op Reply Fault Mirror}
    (uses : program.Uses allowed)
    (step : ∀ {world other}, related world other → ∀ op, allowed op →
      (server world op).1 = (mirror other op).1 ∧
        related (server world op).2 (mirror other op).2)
    {world : World} {other : Mirror} (start : related world other) :
    (program.run server world).1 = (program.run mirror other).1 ∧
      related (program.run server world).2 (program.run mirror other).2 := by
  induction program generalizing world other with
  | done value => exact ⟨rfl, start⟩
  | raised fault => exact ⟨rfl, start⟩
  | call op resume ih =>
      have told := step start op uses.1
      rw [Program.run, Program.run, told.1]
      exact ih _ (uses.2 _) told.2

/-- What every operation of a program keeps, its run keeps. -/
theorem Program.Uses.run_keeps {kept : World → Prop} (uses : program.Uses allowed)
    (step : ∀ {world}, kept world → ∀ op, allowed op → kept (server world op).2)
    {world : World} (start : kept world) : kept (program.run server world).2 := by
  induction program generalizing world with
  | done value => exact start
  | raised fault => exact start
  | call op resume ih =>
      rw [Program.run]
      exact ih _ (uses.2 _) (step start op uses.1)

/-- A sequence that returns went through its first part. -/
theorem run_bind_returns {body : Program Op Reply Fault Value}
    {next : Value → Program Op Reply Fault Result} {world after : World} {result : Result}
    (returns : (body >>= next).run server world = (.ok result, after)) :
    ∃ value between, body.run server world = (.ok value, between) ∧
      (next value).run server between = (.ok result, after) := by
  cases first : body.run server world with
  | mk outcome between =>
      cases outcome with
      | ok value =>
          rw [run_bind_ok first] at returns
          exact ⟨value, between, rfl, returns⟩
      | error fault =>
          rw [run_bind_error first] at returns
          cases returns

end EffectProgram
