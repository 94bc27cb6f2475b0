import Mathlib.Logic.Function.Basic
import Mathlib.Logic.Relation

/-!
Effectful programs as finite-depth trees of operations.

A program either returns a value, raises a fault, or issues one operation and
waits for its reply, which may itself be a fault.  Nothing here fixes the
operations, their replies or the world that answers them: a client supplies the
signature, and the specifications of `Conformance` and the runs of `Execution`
range over every way of answering it.
-/

namespace EffectProgram

set_option autoImplicit false

variable {Op : Type} {Reply : Op → Type} {Fault Value Result : Type}

/-- A program over the operations `Op`.  Every operation is answered either by
a reply of its own type or by a fault, and the continuation sees which. -/
inductive Program (Op : Type) (Reply : Op → Type) (Fault Value : Type) : Type where
  | done (value : Value)
  | raised (fault : Fault)
  | call (op : Op) (resume : Except Fault (Reply op) → Program Op Reply Fault Value)

namespace Program

/-- Run `body`, then continue with `next` on whatever it ends with. -/
def attempt (body : Program Op Reply Fault Value)
    (next : Except Fault Value → Program Op Reply Fault Result) :
    Program Op Reply Fault Result :=
  match body with
  | done value => next (.ok value)
  | raised fault => next (.error fault)
  | call op resume => call op (fun reply => attempt (resume reply) next)

/-- Sequencing: a raised fault skips the rest. -/
def andThen (body : Program Op Reply Fault Value)
    (next : Value → Program Op Reply Fault Result) : Program Op Reply Fault Result :=
  attempt body (fun
    | .ok value => next value
    | .error fault => raised fault)

instance : Monad (Program Op Reply Fault) where
  pure := done
  bind := andThen

/-- `body` guarded by an exception handler: faults that `catches` accepts run
`handler`, all others propagate. -/
def rescue (body : Program Op Reply Fault Value) (catches : Fault → Bool)
    (handler : Fault → Program Op Reply Fault Value) : Program Op Reply Fault Value :=
  attempt body (fun
    | .ok value => done value
    | .error fault => if catches fault then handler fault else raised fault)

/-- Issue one operation and hand its reply on. -/
def perform (op : Op) : Program Op Reply Fault (Reply op) :=
  call op (fun
    | .ok reply => done reply
    | .error fault => raised fault)

/-- The same program over other operations: each operation is wrapped, and the
answers are read back. -/
def translate {Wide : Type} {WideReply : Wide → Type} (wrap : Op → Wide)
    (read : (op : Op) → Except Fault (WideReply (wrap op)) → Except Fault (Reply op)) :
    Program Op Reply Fault Value → Program Wide WideReply Fault Value
  | done value => done value
  | raised fault => raised fault
  | call op resume => call (wrap op) (fun reply => translate wrap read (resume (read op reply)))

/-- A computed outcome, as a program that issues no operation. -/
def settle (outcome : Except Fault Value) : Program Op Reply Fault Value :=
  match outcome with
  | .ok value => done value
  | .error fault => raised fault

@[simp] theorem bind_is_attempt (body : Program Op Reply Fault Value)
    (next : Value → Program Op Reply Fault Result) :
    body >>= next = body.attempt (fun
      | .ok value => next value
      | .error fault => raised fault) := rfl

@[simp] theorem attempt_done (value : Value)
    (next : Except Fault Value → Program Op Reply Fault Result) :
    (done value : Program Op Reply Fault Value).attempt next = next (.ok value) := rfl

@[simp] theorem attempt_raised (fault : Fault)
    (next : Except Fault Value → Program Op Reply Fault Result) :
    (raised fault : Program Op Reply Fault Value).attempt next = next (.error fault) := rfl

@[simp] theorem attempt_call (op : Op)
    (resume : Except Fault (Reply op) → Program Op Reply Fault Value)
    (next : Except Fault Value → Program Op Reply Fault Result) :
    (call op resume).attempt next = call op (fun reply => (resume reply).attempt next) := rfl

theorem attempt_attempt {Final : Type} (body : Program Op Reply Fault Value)
    (next : Except Fault Value → Program Op Reply Fault Result)
    (last : Except Fault Result → Program Op Reply Fault Final) :
    (body.attempt next).attempt last =
      body.attempt (fun outcome => (next outcome).attempt last) := by
  induction body with
  | done value => rfl
  | raised fault => rfl
  | call op resume ih => simp only [attempt_call, ih]

/-- Sequencing is associative. -/
theorem bind_bind {Final : Type} (body : Program Op Reply Fault Value)
    (next : Value → Program Op Reply Fault Result)
    (last : Result → Program Op Reply Fault Final) :
    (body >>= next) >>= last = body >>= fun value => next value >>= last := by
  simp only [bind_is_attempt, attempt_attempt]
  congr 1
  funext outcome
  cases outcome <;> rfl

/-! ### Footprints -/

/-- Every operation the program can issue satisfies `allowed`. -/
def Uses (allowed : Op → Prop) : Program Op Reply Fault Value → Prop
  | done _ => True
  | raised _ => True
  | call op resume => allowed op ∧ ∀ reply, Uses allowed (resume reply)

@[simp] theorem uses_done (allowed : Op → Prop) (value : Value) :
    Uses allowed (done value : Program Op Reply Fault Value) := trivial

@[simp] theorem uses_raised (allowed : Op → Prop) (fault : Fault) :
    Uses allowed (raised fault : Program Op Reply Fault Value) := trivial

@[simp] theorem uses_settle (allowed : Op → Prop) (outcome : Except Fault Value) :
    Uses allowed (settle outcome : Program Op Reply Fault Value) := by
  cases outcome <;> trivial

@[simp] theorem uses_perform (allowed : Op → Prop) (op : Op) :
    Uses allowed (perform op : Program Op Reply Fault (Reply op)) ↔ allowed op := by
  constructor
  · intro uses
    exact uses.1
  · intro permitted
    refine ⟨permitted, ?_⟩
    intro reply
    cases reply <;> trivial

theorem Uses.attempt {allowed : Op → Prop} {body : Program Op Reply Fault Value}
    {next : Except Fault Value → Program Op Reply Fault Result}
    (uses : Uses allowed body) (usesNext : ∀ outcome, Uses allowed (next outcome)) :
    Uses allowed (body.attempt next) := by
  induction body with
  | done value => exact usesNext (.ok value)
  | raised fault => exact usesNext (.error fault)
  | call op resume ih => exact ⟨uses.1, fun reply => ih reply (uses.2 reply)⟩

theorem Uses.bind {allowed : Op → Prop} {body : Program Op Reply Fault Value}
    {next : Value → Program Op Reply Fault Result}
    (uses : Uses allowed body) (usesNext : ∀ value, Uses allowed (next value)) :
    Uses allowed (body >>= next) := by
  apply uses.attempt
  intro outcome
  cases outcome with
  | ok value => exact usesNext value
  | error fault => trivial

theorem Uses.after {allowed : Op → Prop} {op : Op} {next : Reply op → Program Op Reply Fault Result}
    (permitted : allowed op) (usesNext : ∀ reply, Uses allowed (next reply)) :
    Uses allowed (perform op >>= next) :=
  Uses.bind ((uses_perform allowed op).mpr permitted) usesNext

theorem Uses.rescue {allowed : Op → Prop} {body : Program Op Reply Fault Value}
    {catches : Fault → Bool} {handler : Fault → Program Op Reply Fault Value}
    (uses : Uses allowed body) (usesHandler : ∀ fault, Uses allowed (handler fault)) :
    Uses allowed (body.rescue catches handler) := by
  apply uses.attempt
  intro outcome
  cases outcome with
  | ok value => trivial
  | error fault =>
      by_cases caught : catches fault
      · simp only [caught, if_true]
        exact usesHandler fault
      · simp only [caught, Bool.false_eq_true, if_false]
        trivial

theorem Uses.translate {Wide : Type} {WideReply : Wide → Type} {wrap : Op → Wide}
    {read : (op : Op) → Except Fault (WideReply (wrap op)) → Except Fault (Reply op)}
    {allowed : Op → Prop} {permitted : Wide → Prop} {body : Program Op Reply Fault Value}
    (uses : Uses allowed body) (included : ∀ op, allowed op → permitted (wrap op)) :
    Uses permitted (translate wrap read body) := by
  induction body with
  | done value => trivial
  | raised fault => trivial
  | call op resume ih => exact ⟨included op uses.1, fun reply => ih _ (uses.2 _)⟩

theorem uses_anything (program : Program Op Reply Fault Value) :
    program.Uses (fun _ => True) := by
  induction program with
  | done value => trivial
  | raised fault => trivial
  | call op resume ih => exact ⟨trivial, ih⟩

theorem Uses.mono {allowed wider : Op → Prop} {body : Program Op Reply Fault Value}
    (uses : Uses allowed body) (included : ∀ op, allowed op → wider op) :
    Uses wider body := by
  induction body with
  | done value => trivial
  | raised fault => trivial
  | call op resume ih => exact ⟨included op uses.1, fun reply => ih reply (uses.2 reply)⟩

end Program

end EffectProgram
