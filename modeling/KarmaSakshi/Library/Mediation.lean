import KarmaSakshi.Library.Execution
import Mathlib.Data.List.Induction

/-!
Operations that need a permission given earlier in the same run.

`needs` picks the operations, `gives` the answered operations that give the permission.
The permission is not taken back within a run, so it is enough that a program checks
before the first operation that needs it.
-/

namespace EffectProgram

set_option autoImplicit false

variable {Op : Type} {Reply : Op → Type} {Fault Value Result World : Type}

section Statement

variable (needs : Op → Prop) (gives : Event Op Reply Fault → Prop)

/-- Every operation that needs the permission comes after an answer that gives it. -/
def Mediated (events : List (Event Op Reply Fault)) : Prop :=
  ∀ earlier event later, events = earlier ++ event :: later → needs event.op →
    ∃ permit ∈ earlier, gives permit

/-- The watcher that knows whether the permission was given. -/
def mediation : Spec Op Reply Fault Prop where
  admits := fun permitted op => needs op → permitted
  expects := fun _ _ _ => True
  observe := fun permitted op reply => permitted ∨ gives ⟨op, reply⟩

/-- The program asks for nothing unpermitted. -/
def Careful (program : Program Op Reply Fault Value) : Prop :=
  ∀ permitted, Conforms (mediation needs gives) (fun _ _ => True) program permitted

/-- The program asks for nothing unpermitted, and has the permission when it returns. -/
def Checks (program : Program Op Reply Fault Value) : Prop :=
  ∀ permitted, Conforms (mediation needs gives)
    (fun outcome after => (∃ value, outcome = .ok value) → after) program permitted

end Statement

variable {needs : Op → Prop} {gives : Event Op Reply Fault → Prop}
  {program : Program Op Reply Fault Value} {events : List (Event Op Reply Fault)}

theorem mediated_nil : Mediated needs gives [] := by
  intro earlier event later splits
  exact absurd splits (by simp)

theorem Mediated.append_one (mediated : Mediated needs gives events)
    {event : Event Op Reply Fault}
    (permitted : needs event.op → ∃ permit ∈ events, gives permit) :
    Mediated needs gives (events ++ [event]) := by
  intro earlier other later splits needed
  rcases List.eq_nil_or_concat later with rfl | ⟨front, last, rfl⟩
  · obtain ⟨rfl, same⟩ := List.append_inj' splits rfl
    obtain rfl := List.singleton_inj.mp same
    exact permitted needed
  · have whole : events ++ [event] = (earlier ++ other :: front) ++ [last] := by
      rw [splits, List.append_assoc, List.cons_append, List.concat_eq_append]
    obtain ⟨same, _⟩ := List.append_inj' whole rfl
    exact mediated earlier other front same needed

theorem Mediated.cons (mediated : Mediated needs gives events) {event : Event Op Reply Fault}
    (unneeded : ¬ needs event.op) : Mediated needs gives (event :: events) := by
  intro earlier other later splits needed
  cases earlier with
  | nil =>
      obtain ⟨same, _⟩ := List.cons.inj splits
      exact absurd (same ▸ needed) unneeded
  | cons first earlier =>
      obtain ⟨_, rest⟩ := List.cons.inj splits
      obtain ⟨permit, member, gave⟩ := mediated earlier other later rest needed
      exact ⟨permit, List.mem_cons_of_mem _ member, gave⟩

/-- The watcher knows of a permission only when it was given. -/
theorem watched_permission (given : (mediation needs gives).watched False events) :
    ∃ permit ∈ events, gives permit := by
  induction events using List.reverseRecOn with
  | nil => exact given.elim
  | append_singleton events event ih =>
      rw [watched_append_one] at given
      rcases given with before | now
      · obtain ⟨permit, member, gave⟩ := ih before
        exact ⟨permit, List.mem_append_left _ member, gave⟩
      · exact ⟨event, List.mem_append_right _ List.mem_cons_self, now⟩

/-! ### Careful programs -/

/-- Once the permission is given, anything may follow. -/
theorem permitted_conforms {permitted : Prop} (given : permitted) :
    Conforms (mediation needs gives) (fun _ after => after) program permitted :=
  (Program.uses_anything program).conforms (fun _ _ held _ _ => held)
    (fun _ _ _ held _ => Or.inl held) given

theorem careful_of_uses (uses : program.Uses (fun op => ¬ needs op)) :
    Careful needs gives program :=
  fun _ => uses.conforms (fun _ _ _ unneeded needed => absurd needed unneeded)
    (fun _ _ _ _ _ => trivial) trivial

theorem Careful.attempt {body : Program Op Reply Fault Value}
    {next : Except Fault Value → Program Op Reply Fault Result}
    (careful : Careful needs gives body) (carefulNext : ∀ outcome, Careful needs gives (next outcome)) :
    Careful needs gives (body.attempt next) := by
  intro permitted
  rw [conforms_attempt]
  exact (careful permitted).mono (fun outcome after _ => carefulNext outcome after)

theorem Careful.bind {body : Program Op Reply Fault Value}
    {next : Value → Program Op Reply Fault Result} (careful : Careful needs gives body)
    (carefulNext : ∀ value, Careful needs gives (next value)) :
    Careful needs gives (body >>= next) := by
  apply careful.attempt
  intro outcome
  cases outcome with
  | ok value => exact carefulNext value
  | error fault => exact fun _ => trivial

/-- Every run of a careful program is mediated, wherever it stops. -/
theorem Careful.mediated (careful : Careful needs gives program)
    {handler : Handler Op Reply Fault World} {rest : Program Op Reply Fault Value}
    {world after : World} (run : Steps handler program world events rest after) :
    Mediated needs gives events := by
  refine (Steps.monitored (fun _ events => Mediated needs gives events) (careful False) mediated_nil
    (fun current earlier op reply answered held admitted told => ⟨trivial, ?_⟩) run).2
  exact held.append_one (fun needed => watched_permission (admitted needed))

/-! ### Programs that check -/

theorem Checks.before {first : Program Op Reply Fault Value}
    {next : Value → Program Op Reply Fault Result} (checks : Checks needs gives first) :
    Checks needs gives (first >>= next) := by
  intro permitted
  refine (checks permitted).andThen _ ?_ ?_
  · intro value after given
    exact (permitted_conforms (given ⟨value, rfl⟩)).mono (fun _ _ held _ => held)
  · intro fault after _ returned
    obtain ⟨value, impossible⟩ := returned
    cases impossible

theorem Checks.after {first : Program Op Reply Fault Value}
    {next : Value → Program Op Reply Fault Result}
    (uses : first.Uses (fun op => ¬ needs op)) (checks : ∀ value, Checks needs gives (next value)) :
    Checks needs gives (first >>= next) := by
  intro permitted
  refine (careful_of_uses uses permitted).andThen _ ?_ ?_
  · intro value after _
    exact checks value after
  · intro fault after _ returned
    obtain ⟨value, impossible⟩ := returned
    cases impossible

theorem checks_raised (fault : Fault) :
    Checks needs gives (.raised fault : Program Op Reply Fault Value) := by
  intro permitted returned
  obtain ⟨value, impossible⟩ := returned
  cases impossible

theorem Checks.careful (checks : Checks needs gives program) : Careful needs gives program :=
  fun permitted => (checks permitted).mono (fun _ _ _ => trivial)

/-! ### Within a wider program -/

section Wider

variable {Wide : Type} {WideReply : Wide → Type} {wrap : Op → Wide}
  {read : (op : Op) → Except Fault (WideReply (wrap op)) → Except Fault (Reply op)}
  {needsWide : Wide → Prop} {givesWide : Event Wide WideReply Fault → Prop}

theorem conforms_translate {exit : Except Fault Value → Prop → Prop} {permitted : Prop}
    (sameNeeds : ∀ op, needsWide (wrap op) → needs op)
    (sameGives : ∀ op reply, givesWide ⟨wrap op, reply⟩ ↔ gives ⟨op, read op reply⟩)
    (conforms : Conforms (mediation needs gives) exit program permitted) :
    Conforms (mediation needsWide givesWide) exit (program.translate wrap read) permitted := by
  induction program generalizing permitted with
  | done value => exact conforms
  | raised fault => exact conforms
  | call op resume ih =>
      refine ⟨fun needed => conforms.1 (sameNeeds op needed), ?_⟩
      intro reply _
      have observed : (mediation needs gives).observe permitted op (read op reply) =
          (mediation needsWide givesWide).observe permitted (wrap op) reply :=
        propext (or_congr_right (sameGives op reply).symm)
      rw [← observed]
      exact ih (read op reply) (conforms.2 (read op reply) trivial)

theorem Careful.translate (sameNeeds : ∀ op, needsWide (wrap op) → needs op)
    (sameGives : ∀ op reply, givesWide ⟨wrap op, reply⟩ ↔ gives ⟨op, read op reply⟩)
    (careful : Careful needs gives program) :
    Careful needsWide givesWide (program.translate wrap read) :=
  fun permitted => conforms_translate sameNeeds sameGives (careful permitted)

theorem Checks.translate (sameNeeds : ∀ op, needsWide (wrap op) → needs op)
    (sameGives : ∀ op reply, givesWide ⟨wrap op, reply⟩ ↔ gives ⟨op, read op reply⟩)
    (checks : Checks needs gives program) :
    Checks needsWide givesWide (program.translate wrap read) :=
  fun permitted => conforms_translate sameNeeds sameGives (checks permitted)

end Wider

end EffectProgram
