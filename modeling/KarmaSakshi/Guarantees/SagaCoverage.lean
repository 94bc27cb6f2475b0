import KarmaSakshi.Engine.CommitBlame
import KarmaSakshi.Engine.SagaScenario
import KarmaSakshi.Engine.SagaWrites
import KarmaSakshi.Engine.Service

/-!
What a saga's statuses say about the external system.

A run that is over has either done nothing outside, or an outcome is on record for
the compensation of everything it did.  This rests on the answers that fail a step:
the engine takes each of them as word that the step did nothing.
-/

namespace KarmaSakshi.Guarantees

open EffectProgram KarmaSakshi.Domain KarmaSakshi.Stores KarmaSakshi.Engine

set_option autoImplicit false

/-! ### What really happened -/

/-- Kept beside the engine's books: the steps whose effects happened since their
run began, and those whose adapter call left that open and no recovery settled. -/
structure SagaTruth where
  happened : String → String → Prop
  undecided : String → String → Prop

def SagaTruth.nothing : SagaTruth := ⟨fun _ _ => False, fun _ _ => False⟩

/-- The adapter raised, or returned an unsuccessful result. -/
def adapterFails : (op : SagaOp) → Except PyError (SagaReply op) → Bool
  | .engine (.adapter _ (.commit _ _)), .ok result => !result.success
  | .engine (.adapter _ (.commit _ _)), .error _ => true
  | _, _ => false

section Statement

variable {Host : Type} [DecidableEq Host]

abbrev SagaHandler (Host : Type) := Handler SagaOp SagaReply PyError (SagaWorld Host)

/-- In a run of the program, the adapter failed although the external system is no
longer what it was before. -/
def LeavesOpen {Value : Type} (handler : SagaHandler Host) (program : SagaAction Value)
    (saga : SagaWorld Host) (outcome : Except PyError Value) (after : SagaWorld Host) : Prop :=
  ∃ earlier op reply rest middle,
    Steps handler program saga (earlier ++ [⟨op, reply⟩]) rest middle ∧
    adapterFails op reply = true ∧ middle.world.effects ≠ saga.world.effects ∧
    rest.Yields handler middle outcome after

/-- The truth after a call: a step's effect happened when its commit changed the
external system; a run that begins has done nothing. -/
def SagaTruth.next (truth : SagaTruth) (handler : SagaHandler Host) (context : EngineContext)
    (readers : SagaReaders) (call : SagaCall) (saga : SagaWorld Host)
    (outcome : Except PyError SagaResult) (after : SagaWorld Host) : SagaTruth :=
  match call with
  | .begin asked =>
      { happened := fun runId manifestHash => truth.happened runId manifestHash ∧
          (runId = asked.key → after.assignments = saga.assignments)
        undecided := fun runId manifestHash => truth.undecided runId manifestHash ∧
          (runId = asked.key → after.assignments = saga.assignments) }
  | .commit step =>
      { happened := fun runId manifestHash => truth.happened runId manifestHash ∨
          (runId = step.runId ∧ manifestHash = step.manifestHash ∧
            after.world.effects ≠ saga.world.effects)
        undecided := fun runId manifestHash => truth.undecided runId manifestHash ∨
          (runId = step.runId ∧ manifestHash = step.manifestHash ∧
            LeavesOpen handler (call.program context readers) saga outcome after) }
  | .recover step =>
      { truth with
        undecided := fun runId manifestHash => truth.undecided runId manifestHash ∧
          ¬ (runId = step.runId ∧ manifestHash = step.manifestHash ∧ outcome.isOk = true) }
  | _ => truth

/-- One engine's saga operations in any order, each answered by `answers`; in
between, anything may happen outside the saga runs. -/
inductive SagaMoment (context : EngineContext) (readers : SagaReaders)
    (answers : SagaTruth → SagaWorld Host → SagaCall → SagaHandler Host) :
    SagaWorld Host → SagaTruth → Prop where
  | start {saga : SagaWorld Host} (empty : saga.assignments = []) :
      SagaMoment context readers answers saga SagaTruth.nothing
  | call {saga after : SagaWorld Host} {truth : SagaTruth} {outcome : Except PyError SagaResult}
      (earlier : SagaMoment context readers answers saga truth) (call : SagaCall)
      (yields : (call.program context readers).Yields (answers truth saga call) saga outcome
        after) :
      SagaMoment context readers answers after
        (truth.next (answers truth saga call) context readers call saga outcome after)
  | meanwhile {saga after : SagaWorld Host} {truth : SagaTruth}
      (earlier : SagaMoment context readers answers saga truth)
      (same : after.assignments = saga.assignments) :
      SagaMoment context readers answers after truth

/-- Whatever the environment may answer. -/
def anyAnswers (environment : Environment) (host : Host) :
    SagaTruth → SagaWorld Host → SagaCall → SagaHandler Host :=
  fun _ _ _ => environment.sagaAnswers host

end Statement

/-- What a run's status says about the effects of its steps. -/
structure RunCovered (truth : SagaTruth) (runId : String) (run : SagaRun) : Prop where
  aborted : run.status = .aborted →
    ∀ step ∈ run.steps, ¬ truth.happened runId step.manifestHash
  finished : run.status = .failedPartial →
    ∀ step ∈ run.steps, truth.happened runId step.manifestHash → step.isRecorded
  undecided : ∀ step ∈ run.steps, truth.undecided runId step.manifestHash → step.status = .ambiguous
  failed : ∀ step ∈ run.steps, truth.happened runId step.manifestHash → step.status = .failed →
    step.compensationStatus ≠ none

def SagaCovered {Host : Type} (saga : SagaWorld Host) (truth : SagaTruth) : Prop :=
  ∀ runId run, saga.lookup runId = some run → RunCovered truth runId run

/-! ### Honest answers -/

/-- The probe finds no evidence of the effect. -/
def findsNothing : (op : EngineOp) → Except PyError (EngineReply op) → Bool
  | .adapter _ (.verify _ _), .ok proof => !proof.matchedExpected
  | _, _ => false

/-- The answers that the call takes as word that its step did nothing. -/
def SagaCall.denies (call : SagaCall) : (op : SagaOp) → Except PyError (SagaReply op) → Bool
  | .engine op, reply =>
      match call with
      | .commit _ => spoils op reply
      | .recover _ => findsNothing op reply
      | _ => false
  | _, _ => false

section Honest

variable {Host : Type} [DecidableEq Host]

/-- The step has done nothing, in this call or before. -/
def SagaCall.didNothing (call : SagaCall) (truth : SagaTruth) (saga after : SagaWorld Host) :
    Prop :=
  match call with
  | .commit step => after.world.effects = saga.world.effects ∧
      ¬ truth.happened step.runId step.manifestHash
  | .recover step => ¬ truth.happened step.runId step.manifestHash
  | _ => True

/-- An answer that denies the step's effect is true. -/
def honestAnswers (environment : Environment) (host : Host) (truth : SagaTruth)
    (saga : SagaWorld Host) (call : SagaCall) : SagaHandler Host :=
  fun current op reply after => environment.sagaAnswers host current op reply after ∧
    (SagaCall.denies call op reply = true → SagaCall.didNothing call truth saga after)

end Honest

/-! ### Steps that may have acted -/

/-- Neither untouched nor taken as having done nothing. -/
def MayHaveActed (step : SagaStepRecord) : Prop :=
  step.status ≠ .pending ∧ step.status ≠ .ready ∧ step.status ≠ .failed

section Acting

variable {run next : SagaRun} {manifestHash : String} {index : Nat}
  {step revised : SagaStepRecord}

theorem recorded_may_have_acted (recorded : step.isRecorded) : MayHaveActed step := by
  rcases recorded_status recorded with status | status | status <;>
    simp [MayHaveActed, status]

/-- After the step at `index` was revised, a step is the revised one or was there. -/
theorem revised_or_kept (shape : run.Shape) (revises : Revises run next index manifestHash step
    revised) {steps : List SagaStepRecord} (replaced : steps = run.steps.set index revised)
    {other : Nat} {found : SagaStepRecord} (there : steps[other]? = some found) :
    found = revised ∨ (run.steps[other]? = some found ∧ found.manifestHash ≠ manifestHash) := by
  rw [replaced, SagaRun.replaced_step revises.here] at there
  by_cases same : index = other
  · rw [if_pos same] at there
    exact Or.inl (Option.some.inj there).symm
  · rw [if_neg same] at there
    refine Or.inr ⟨there, ?_⟩
    intro named
    exact same (shape.plan.unique revises.here there (revises.named.trans named.symm))

theorem turn_acts {runStatus nextStatus : SagaRunStatus} {old : SagaStepStatus}
    (turn : Turn runStatus old nextStatus step.status) : MayHaveActed step := by
  have advanced : step.status = .authorized ∨ step.status = .committed ∨
      step.status = .ambiguous := by
    generalize step.status = status at turn
    cases turn <;> simp
  rcases advanced with status | status | status <;> simp [MayHaveActed, status]

/-- A move keeps every step whose effect may have happened marked as such; the step
that moves may act, unless it fails. -/
theorem acts_kept {before after : String → Prop} {fails : Bool} (shape : run.Shape)
    (moves : Moves run manifestHash next fails)
    (held : ∀ step ∈ run.steps, before step.manifestHash → MayHaveActed step)
    (grows : ∀ other, after other → other ≠ manifestHash → before other)
    (spared : fails = true → ¬ after manifestHash) :
    ∀ step ∈ next.steps, after step.manifestHash → MayHaveActed step := by
  have kept : ∀ {other : Nat} {found : SagaStepRecord}, run.steps[other]? = some found →
      found.manifestHash ≠ manifestHash → after found.manifestHash → MayHaveActed found :=
    fun there differs acted =>
      held _ (List.mem_of_getElem? there) (grows _ acted differs)
  intro found member acted
  obtain ⟨place, there⟩ := List.mem_iff_getElem?.mp member
  cases moves with
  | turned revises turn steps cursor =>
      rcases revised_or_kept shape revises steps there with rfl | ⟨there, differs⟩
      · exact turn_acts turn
      · exact kept there differs acted
  | @verified step revised revises running committed done cursor onward =>
      have settled : MayHaveActed revised := by simp [MayHaveActed, done]
      have revisedOrKept : ∀ {steps : List SagaStepRecord},
          steps = run.steps.set run.cursor revised → steps[place]? = some found →
            MayHaveActed found := by
        intro steps replaced there
        rcases revised_or_kept shape revises replaced there with rfl | ⟨there, differs⟩
        · exact settled
        · exact kept there differs acted
      rcases onward with ⟨_, _, replaced⟩ | ⟨following, ahead, _, replaced⟩
      · exact revisedOrKept replaced there
      · rw [replaced, List.getElem?_set] at there
        by_cases isNext : run.cursor + 1 = place
        · have inside : run.cursor + 1 < (run.steps.set run.cursor revised).length := by
            rw [List.length_set]
            exact (List.getElem?_eq_some_iff.mp ahead).1
          rw [if_pos isNext, if_pos inside] at there
          obtain rfl := Option.some.inj there
          have differs : following.manifestHash ≠ manifestHash := by
            intro named
            have same := shape.plan.unique revises.here ahead (revises.named.trans named.symm)
            omega
          -- the step that becomes ready was pending, so it had not acted
          have acts := held following (List.mem_of_getElem? ahead) (grows _ acted differs)
          have around := shape.phase.live_around (Or.inl running)
          exact absurd (around.pending ahead (Nat.lt_succ_self _)) acts.1
        · rw [if_neg isNext] at there
          exact revisedOrKept rfl there
  | @failed step revised revises live done steps cursor back =>
      rcases revised_or_kept shape revises steps there with rfl | ⟨there, differs⟩
      · rw [revises.same.1, revises.named] at acted
        exact absurd acted (spared rfl)
      · exact kept there differs acted
  | compensated revises compensating walk recorded steps cursor back ended =>
      rcases revised_or_kept shape revises steps there with rfl | ⟨there, differs⟩
      · exact recorded_may_have_acted recorded
      · exact kept there differs acted

end Acting

/-! ### What a stored run accounts for -/

/-- The run has its shape, and every effect that happened belongs to a step that is
marked as one that may have acted. -/
structure Accounted (truth : SagaTruth) (runId : String) (run : SagaRun) : Prop where
  shape : run.Shape
  acts : ∀ step ∈ run.steps, truth.happened runId step.manifestHash → MayHaveActed step
  settled : ∀ manifestHash, ¬ truth.undecided runId manifestHash

theorem Accounted.covered {truth : SagaTruth} {runId : String} {run : SagaRun}
    (accounted : Accounted truth runId run) : RunCovered truth runId run := by
  have idle : ∀ step ∈ run.steps, step.status = .pending ∨ step.status = .failed →
      ¬ truth.happened runId step.manifestHash := by
    intro step member status acted
    have acts := accounted.acts step member acted
    exact status.elim acts.1 acts.2.2
  -- past the cursor nothing has begun, so only what lies before it can have acted
  have past : ∀ {index : Nat} {step : SagaStepRecord} {before : Nat → SagaStepRecord → Prop},
      run.steps[index]? = some step → run.Around before (fun here => here = .failed) →
        ¬ index < run.cursor → ¬ truth.happened runId step.manifestHash := by
    intro index step before there around notBefore
    apply idle step (List.mem_of_getElem? there)
    by_cases here : index = run.cursor
    · rw [here] at there
      exact Or.inr (around.here there)
    · exact Or.inl (around.pending there (by omega))
  refine ⟨?_, ?_, ?_, ?_⟩
  · intro status step member
    obtain ⟨index, there⟩ := List.mem_iff_getElem?.mp member
    cases accounted.shape.phase with
    | aborted _ cursor around => exact past there around (by omega)
    | running other => rw [status] at other; cases other
    | awaiting other => rw [status] at other; cases other
    | completed other => rw [status] at other; cases other
    | compensating top other => rw [status] at other; cases other
    | finished other => rw [status] at other; cases other
  · intro status step member acted
    obtain ⟨index, there⟩ := List.mem_iff_getElem?.mp member
    cases accounted.shape.phase with
    | finished _ walk around =>
        by_cases before : index < run.cursor
        · exact around.before there before
        · exact absurd acted (past there around before)
    | running other => rw [status] at other; cases other
    | awaiting other => rw [status] at other; cases other
    | completed other => rw [status] at other; cases other
    | compensating top other => rw [status] at other; cases other
    | aborted other => rw [status] at other; cases other
  · intro step member leftOpen
    exact absurd leftOpen (accounted.settled step.manifestHash)
  · intro step member acted status
    exact absurd acted (idle step member (Or.inr status))

/-! ### What one call keeps -/

section Calls

variable {Host : Type} [DecidableEq Host] {environment : Environment} {host : Host}
  {context : EngineContext} {readers : SagaReaders} {saga after : SagaWorld Host}
  {truth later : SagaTruth}

/-- Every stored run is accounted for. -/
def Books {Host : Type} (saga : SagaWorld Host) (truth : SagaTruth) : Prop :=
  ∀ runId run, saga.lookup runId = some run → Accounted truth runId run

/-- Fewer effects are accounted for as well. -/
theorem Accounted.fewer {runId : String} {run : SagaRun} (accounted : Accounted truth runId run)
    (happened : ∀ manifestHash, later.happened runId manifestHash →
      truth.happened runId manifestHash)
    (undecided : ∀ manifestHash, later.undecided runId manifestHash →
      truth.undecided runId manifestHash) : Accounted later runId run :=
  ⟨accounted.shape, fun step member acted => accounted.acts step member (happened _ acted),
    fun manifestHash leftOpen => accounted.settled manifestHash (undecided _ leftOpen)⟩

omit [DecidableEq Host] in
theorem Books.same (books : Books saga truth) (same : after.assignments = saga.assignments)
    (kept : ∀ runId run, Accounted truth runId run → saga.lookup runId = some run →
      Accounted later runId run) : Books after later := by
  intro runId run current
  rw [lookup_kept same] at current
  exact kept runId run (books runId run current) current

omit [DecidableEq Host] in
theorem Books.stored (books : Books saga truth) {runId : String} {next : SagaRun}
    (stored : after.assignments = saga.assignments ++ [(runId, next)])
    (others : ∀ other run, other ≠ runId → Accounted truth other run → Accounted later other run)
    (accounted : Accounted later runId next) : Books after later := by
  intro other run current
  rw [lookup_stored stored] at current
  by_cases same : runId = other
  · rw [if_pos same] at current
    rw [← Option.some.inj current, ← same]
    exact accounted
  · rw [if_neg same] at current
    exact others other run (fun reversed => same reversed.symm) (books other run current)

theorem honest_within (truth : SagaTruth) (saga : SagaWorld Host) (call : SagaCall) :
    (honestAnswers environment host truth saga call).Within (environment.sagaAnswers host) :=
  fun _ _ _ _ told => told.1

/-- Once an answer has failed the step, the external system stays as it is. -/
theorem left_alone {world reached : World Host} {op : EngineOp}
    {reply : Except PyError (EngineReply op)} (alone : leavesAlone true op)
    (told : environment.answers host world op reply reached) : reached.effects = world.effects := by
  have only := answers_only told
  cases op with
  | adapter identity inner =>
      cases inner with
      | commit manifest grant => cases alone
      | compensate manifest commitResult => exact alone.elim
      | validatePreconditions manifest => rw [told.2]
      | verify manifest commitResult => rw [told.2]
  | _ => exact only.effects_kept (by intro identity inner impossible; cases impossible)

/-- Under honest answers a commit that fails its step has done nothing. -/
theorem failed_commit_did_nothing (step : CommitStep) :
    Ensures (honestAnswers environment host truth saga (.commit step))
      (within (commit context step.call)) saga (fun outcome between => commitFails outcome →
        SagaCall.didNothing (.commit step) truth saga between) := by
  intro outcome between yields fails
  let honest : Handler EngineOp EngineReply PyError (World Host) :=
    fun world op reply reached => environment.answers host world op reply reached ∧
      (spoils op reply = true → reached.effects = saga.world.effects ∧
        ¬ truth.happened step.runId step.manifestHash)
  have told : ∀ (current : SagaWorld Host) op reply (reached : SagaWorld Host),
      honestAnswers environment host truth saga (.commit step) current (.engine op) reply reached →
        honest current.world op reply reached.world ∧
          reached.assignments = current.assignments := by
    rintro current op reply reached ⟨answered, true'⟩
    exact ⟨⟨answered.1, true'⟩, answered.2⟩
  have run := (yields_translate told yields).1
  let linked : World Host → Bool → Prop := fun world seen => seen = true →
    world.effects = saga.world.effects ∧ ¬ truth.happened step.runId step.manifestHash
  have ends : Ensures honest (commit context step.call) saga.world (fun outcome reached =>
      ∃ seen, (commitFails outcome → seen = true) ∧ linked reached seen) := by
    refine Conforms.ensures linked (commit_traced rfl) (fun impossible => by cases impossible) ?_
    rintro current seen op reply reached sofar admitted ⟨answered, spared⟩
    refine ⟨trivial, ?_⟩
    intro observed
    by_cases spoiled : spoils op reply = true
    · exact spared spoiled
    · have already : seen = true := by
        rw [← observed, show stepBlame.spec.observe seen op reply = (seen || spoils op reply) from
          rfl, Bool.eq_false_iff.mpr spoiled, Bool.or_false]
      rw [already] at admitted
      obtain ⟨unchanged, never⟩ := sofar already
      exact ⟨(left_alone admitted answered).trans unchanged, never⟩
  obtain ⟨seen, exit, kept⟩ := ends outcome between.world run
  exact kept (exit fails)

/-- Under honest answers a probe that finds no evidence is right. -/
theorem failed_probe_is_right (step : RecoverStep) :
    Ensures (honestAnswers environment host truth saga (.recover step))
      (within (recoverAmbiguousCommit context ⟨step.sealed.manifest, step.adapter⟩)) saga
      (fun outcome _ => ∀ proof, outcome = .ok proof → proof.matchedExpected = false →
        ¬ truth.happened step.runId step.manifestHash) := by
  rintro outcome between ⟨reply, middle, told, rest⟩ proof rfl unmatched
  cases reply with
  | error error =>
      obtain ⟨impossible, _⟩ := rest
      cases impossible
  | ok observed =>
      have same : observed = proof := by
        obtain ⟨_, _, _, continued⟩ := yields_bind_ok.mp (within_yields (rest.widen
          (honest_within truth saga (.recover step)))).1
        by_cases matched : observed.matchedExpected = true
        · rw [if_pos matched] at continued
          obtain ⟨_, _, _, recorded⟩ := yields_bind_ok.mp continued
          obtain ⟨_, _, _, confirmed⟩ := yields_bind_ok.mp recorded
          obtain ⟨_, _, _, reconciled⟩ := yields_bind_ok.mp confirmed
          exact (Except.ok.inj reconciled.1).symm
        · rw [if_neg matched] at continued
          exact (Except.ok.inj continued.1).symm
      rw [← same] at unmatched
      exact told.2 (by
        show (!observed.matchedExpected) = true
        rw [unmatched]
        rfl)

/-- Under honest answers no adapter call of a commit step leaves its effect open. -/
theorem nothing_left_open {step : CommitStep} {outcome : Except PyError SagaResult}
    {program : SagaAction SagaResult} :
    ¬ LeavesOpen (honestAnswers environment host truth saga (.commit step)) program saga outcome
      after := by
  rintro ⟨earlier, op, reply, rest, middle, steps, failed, changed, _⟩
  have spoiled : SagaCall.denies (.commit step) op reply = true := by
    cases op with
    | engine inner =>
        cases inner with
        | adapter identity asked =>
            cases asked with
            | commit manifest grant => cases reply <;> exact failed
            | _ => cases failed
        | _ => cases failed
    | _ => cases failed
  obtain ⟨current, told⟩ := steps.last
  exact changed (told.2 spoiled).1

omit [DecidableEq Host] in
/-- One assignment of an advanced run keeps the books. -/
theorem Books.advanced (books : Books saga truth) {runId manifestHash : String}
    {run next : SagaRun} {fails : Bool} (current : saga.lookup runId = some run)
    (advances : Advances run manifestHash next fails)
    (stored : after.assignments = saga.assignments ++ [(runId, next)])
    (grows : ∀ other hash, later.happened other hash →
      truth.happened other hash ∨ (other = runId ∧ hash = manifestHash))
    (spared : fails = true → ¬ later.happened runId manifestHash)
    (undecided : ∀ other hash, later.undecided other hash → truth.undecided other hash) :
    Books after later := by
  have accounted := books runId run current
  have moves := advances.moves accounted.shape
  refine books.stored stored ?_ ⟨moves.keeps_shape accounted.shape, ?_, ?_⟩
  · intro other run differs held
    refine held.fewer ?_ (undecided other)
    intro hash acted
    exact (grows other hash acted).resolve_right (fun here => differs here.1)
  · refine acts_kept accounted.shape moves accounted.acts ?_ spared
    intro hash acted differs
    exact (grows runId hash acted).resolve_right (fun here => differs here.2)
  · exact fun hash leftOpen => accounted.settled hash (undecided runId hash leftOpen)

omit [DecidableEq Host] in
theorem Books.run_written (books : Books saga truth) {runId : String}
    (writes : RunWrites runId saga after) : Books after truth := by
  cases writes with
  | untouched same => exact books.same same (fun _ _ accounted _ => accounted)
  | advanced current advances stored =>
      exact books.advanced current advances stored (fun _ _ acted => Or.inl acted)
        (fun impossible => by cases impossible) (fun _ _ leftOpen => leftOpen)

/-- The authorized step under the cursor may act. -/
theorem Accounted.denied {runId : String} {run : SagaRun} {manifestHash : String} {index : Nat}
    (accounted : Accounted truth runId run)
    (checked : run.assertCanCommitStep manifestHash = .ok index)
    (grows : ∀ hash, later.happened runId hash →
      truth.happened runId hash ∨ hash = manifestHash)
    (undecided : ∀ hash, later.undecided runId hash → truth.undecided runId hash) :
    Accounted later runId run := by
  refine ⟨accounted.shape, ?_, fun hash leftOpen => accounted.settled hash (undecided hash leftOpen)⟩
  intro step member acted
  obtain ⟨_, here, atCursor, named, authorized⟩ := can_commit checked
  rcases grows step.manifestHash acted with before | same
  · exact accounted.acts step member before
  · obtain ⟨place, there⟩ := List.mem_iff_getElem?.mp member
    have isCursor := accounted.shape.plan.unique there atCursor (same.trans named.symm)
    rw [isCursor, atCursor] at there
    rw [← Option.some.inj there]
    simp [MayHaveActed, authorized]

omit [DecidableEq Host] in
theorem Books.commit_written (books : Books saga truth) {step : CommitStep}
    (writes : CommitWrites step saga (fun outcome between => commitFails outcome →
      SagaCall.didNothing (.commit step) truth saga between) after)
    (happened : ∀ other hash, later.happened other hash → truth.happened other hash ∨
      (other = step.runId ∧ hash = step.manifestHash ∧
        after.world.effects ≠ saga.world.effects))
    (undecided : ∀ other hash, later.undecided other hash → truth.undecided other hash) :
    Books after later := by
  have grows : ∀ other hash, later.happened other hash → truth.happened other hash ∨
      (other = step.runId ∧ hash = step.manifestHash) := fun other hash acted =>
    (happened other hash acted).imp_right (fun here => ⟨here.1, here.2.1⟩)
  have unchanged : after.world.effects = saga.world.effects →
      ∀ other hash, later.happened other hash → truth.happened other hash :=
    fun same other hash acted => (happened other hash acted).resolve_right (fun here =>
      here.2.2 same)
  cases writes with
  | untouched same effects =>
      exact books.same same (fun runId _ accounted _ =>
        accounted.fewer (unchanged effects runId) (undecided runId))
  | denied current checked same =>
      apply books.same same
      intro runId other accounted found
      by_cases isRun : runId = step.runId
      · rw [isRun, current] at found
        rw [isRun] at accounted ⊢
        rw [← Option.some.inj found] at accounted ⊢
        exact accounted.denied checked
          (fun hash acted => (grows _ hash acted).imp_right And.right) (undecided step.runId)
      · refine accounted.fewer ?_ (undecided runId)
        intro hash acted
        exact (grows runId hash acted).resolve_right (fun here => isRun here.1)
  | reported current marked stored effects =>
      exact books.advanced current (.reported _ marked) stored grows
        (fun impossible => by cases impossible) undecided
  | committed current marked stored =>
      exact books.advanced current (.committed _ _ marked) stored grows
        (fun impossible => by cases impossible) undecided
  | failed current checked marked stored ended fails effects =>
      obtain ⟨same, never⟩ := ended fails
      refine books.advanced current (.failed _ _ checked marked) stored grows ?_ undecided
      intro _ acted
      exact never (unchanged (effects.trans same) _ _ acted)

omit [DecidableEq Host] in
theorem Books.recover_written (books : Books saga truth) {step : RecoverStep}
    (writes : RecoverWrites step saga (fun outcome _ => ∀ proof, outcome = .ok proof →
      proof.matchedExpected = false → ¬ truth.happened step.runId step.manifestHash) after)
    (happened : ∀ other hash, later.happened other hash → truth.happened other hash)
    (undecided : ∀ other hash, later.undecided other hash → truth.undecided other hash) :
    Books after later := by
  cases writes with
  | untouched same =>
      exact books.same same (fun runId _ accounted _ =>
        accounted.fewer (happened runId) (undecided runId))
  | recovered current checked marked stored =>
      exact books.advanced current (.recovered _ _ _ checked marked) stored
        (fun other hash acted => Or.inl (happened other hash acted))
        (fun impossible => by cases impossible) undecided
  | failed current checked marked stored ended unmatched =>
      exact books.advanced current (.unrecovered _ _ checked marked) stored
        (fun other hash acted => Or.inl (happened other hash acted))
        (fun _ acted => ended _ rfl unmatched (happened _ _ acted)) undecided

omit [DecidableEq Host] in
theorem Books.begun (books : Books saga truth) {runId : String}
    (begins : after.assignments = saga.assignments ∨ ∃ plan,
      after.assignments = saga.assignments ++ [(runId, begunRun plan runId)])
    (happened : ∀ other hash, later.happened other hash → truth.happened other hash ∧
      (other = runId → after.assignments = saga.assignments))
    (undecided : ∀ other hash, later.undecided other hash → truth.undecided other hash ∧
      (other = runId → after.assignments = saga.assignments)) : Books after later := by
  rcases begins with same | ⟨plan, stored⟩
  · exact books.same same (fun other _ accounted _ =>
      accounted.fewer (fun hash acted => (happened other hash acted).1)
        (fun hash leftOpen => (undecided other hash leftOpen).1))
  · have grew : after.assignments ≠ saga.assignments := by
      rw [stored]
      simp
    refine books.stored stored ?_ ⟨fresh_run_shape plan runId, ?_, ?_⟩
    · exact fun other _ _ accounted =>
        accounted.fewer (fun hash acted => (happened other hash acted).1)
          (fun hash leftOpen => (undecided other hash leftOpen).1)
    · exact fun step _ acted => absurd ((happened runId _ acted).2 rfl) grew
    · exact fun hash leftOpen => grew ((undecided runId hash leftOpen).2 rfl)

/-- A call under honest answers keeps the books. -/
theorem Books.called (books : Books saga truth) (call : SagaCall)
    {outcome : Except PyError SagaResult}
    (yields : (call.program context readers).Yields (honestAnswers environment host truth saga call)
      saga outcome after) :
    Books after (truth.next (honestAnswers environment host truth saga call) context readers call
      saga outcome after) := by
  have within : Handler.Within (honestAnswers environment host truth saga call)
      (environment.sagaAnswers host) := honest_within truth saga call
  cases call with
  | begin asked =>
      have begins := ensures_wrapped (begin_writes within) outcome after yields
      exact books.begun begins (fun _ _ acted => acted) (fun _ _ leftOpen => leftOpen)
  | authorize step =>
      exact books.run_written (ensures_wrapped (authorize_step_writes within) outcome after yields)
  | verify step =>
      exact books.run_written (ensures_wrapped (verify_step_writes within) outcome after yields)
  | record asked =>
      exact books.run_written (ensures_wrapped (record_writes within) outcome after yields)
  | commit step =>
      have writes := ensures_wrapped (commit_step_writes within (failed_commit_did_nothing step))
        outcome after yields
      refine books.commit_written writes (fun _ _ acted => acted) ?_
      intro other hash leftOpen
      exact leftOpen.resolve_right (fun here => nothing_left_open here.2.2)
  | recover step =>
      have writes := ensures_wrapped (recover_step_writes within (failed_probe_is_right step))
        outcome after yields
      exact books.recover_written writes (fun _ _ acted => acted) (fun _ _ leftOpen => leftOpen.1)

/-- Under honest answers every run that is over has its effects covered, in every
state an execution reaches. -/
theorem honest_sagas_are_covered
    (moment : SagaMoment context readers (honestAnswers environment host) saga truth) :
    SagaCovered saga truth := by
  have books : Books saga truth := by
    induction moment with
    | start empty =>
        intro runId run current
        rw [SagaWorld.lookup, SagaWorld.history, empty] at current
        cases current
    | call earlier call yields ih => exact ih.called call yields
    | meanwhile earlier same ih => exact ih.same same (fun _ _ accounted _ => accounted)
  exact fun runId run current => (books runId run current).covered

end Calls

/-! ### The saga of one transfer -/

/-- The request times out after the provider has taken it. -/
def timedOut : Script :=
  { Payment.prompt with
    commits := fun manifest effects =>
      (.ok {
        success := false
        idempotencyKey := manifest.idempotencyKey
        providerReference := none
        detail := some "ambiguous: request timed out, outcome unknown"
        afterStateDigest := none }, effects ++ [manifest]) }

/-- The step is taken as failed, and the run as stopped before any effect. -/
theorem timed_out_transfer_is_aborted : ¬ ∀ (saga : SagaWorld Unit) (truth : SagaTruth),
    SagaMoment TransferSaga.context TransferSaga.readers (anyAnswers timedOut.environment ()) saga
      truth → SagaCovered saga truth := by
  intro claimed
  have begun := TransferSaga.after_yields timedOut TransferSaga.start (.begin TransferSaga.beginning)
  have authorized := TransferSaga.after_yields timedOut
    (TransferSaga.after timedOut TransferSaga.start (.begin TransferSaga.beginning)).2
    (.authorize TransferSaga.authorizing)
  have committed := TransferSaga.after_yields timedOut (TransferSaga.authorized timedOut)
    (.commit TransferSaga.committing)
  have covered := claimed (TransferSaga.committed timedOut) _
    (.call (.call (.call (.start rfl) _ begun) _ authorized) _ committed)
  have aborted : ((TransferSaga.committed timedOut).lookup "run-1").map (fun run =>
      (run.status, run.steps.map SagaStepRecord.manifestHash)) =
        some (.aborted, [TransferSaga.committing.manifestHash]) := by decide +kernel
  obtain ⟨run, current, shown⟩ := Option.map_eq_some_iff.mp aborted
  obtain ⟨status, hashes⟩ := Prod.mk.inj shown
  obtain ⟨step, member, named⟩ := List.mem_map.mp
    (show TransferSaga.committing.manifestHash ∈ run.steps.map SagaStepRecord.manifestHash by
      rw [hashes]
      exact List.mem_singleton_self _)
  have moved : (TransferSaga.committed timedOut).world.effects ≠
      (TransferSaga.authorized timedOut).world.effects := by
    intro same
    have lengths : (TransferSaga.committed timedOut).world.effects.length ≠
        (TransferSaga.authorized timedOut).world.effects.length := by decide +kernel
    exact lengths (congrArg List.length same)
  exact (covered "run-1" run current).aborted status step member (Or.inr ⟨rfl, named, moved⟩)

/-- The same saga with an adapter that answers as things are. -/
theorem prompt_transfer_is_covered : ∃ truth,
    SagaCovered (TransferSaga.committed Payment.prompt) truth := by
  have begun := TransferSaga.after_yields Payment.prompt TransferSaga.start
    (.begin TransferSaga.beginning)
  have authorized := TransferSaga.after_yields Payment.prompt
    (TransferSaga.after Payment.prompt TransferSaga.start (.begin TransferSaga.beginning)).2
    (.authorize TransferSaga.authorizing)
  have committed := Program.passes_yields (Payment.prompt.saga_serves ())
    (show ((SagaCall.commit TransferSaga.committing).program TransferSaga.context
      TransferSaga.readers).passes (Payment.prompt.sagaServe ())
        (fun op reply => !SagaCall.denies (.commit TransferSaga.committing) op reply)
        (TransferSaga.authorized Payment.prompt) = true by decide +kernel)
  have undenied : ∀ {denied : Bool} {claim : Prop}, (!denied) = true → denied = true → claim := by
    intro denied claim passed impossible
    rw [impossible] at passed
    cases passed
  have honest : ∀ (truth : SagaTruth) (saga : SagaWorld Unit) (call : SagaCall),
      (∀ op reply, SagaCall.denies call op reply = false) →
        Handler.Within (Payment.prompt.environment.sagaAnswers ())
          (honestAnswers Payment.prompt.environment () truth saga call) := by
    intro truth saga call never current op reply after told
    refine ⟨told, ?_⟩
    intro denied
    rw [never op reply] at denied
    cases denied
  have silent : ∀ (op : SagaOp) (reply : Except PyError (SagaReply op)),
      SagaCall.denies (.begin TransferSaga.beginning) op reply = false ∧
        SagaCall.denies (.authorize TransferSaga.authorizing) op reply = false := by
    intro op reply
    cases op <;> exact ⟨rfl, rfl⟩
  refine ⟨_, honest_sagas_are_covered (.call (.call (.call (.start rfl) _
    (begun.widen (honest _ _ _ (fun op reply => (silent op reply).1)))) _
    (authorized.widen (honest _ _ _ (fun op reply => (silent op reply).2)))) _
    (committed.widen ?_))⟩
  rintro current op reply after ⟨told, passed⟩
  exact ⟨told, undenied passed⟩

end KarmaSakshi.Guarantees
