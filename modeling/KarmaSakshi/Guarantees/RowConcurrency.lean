import KarmaSakshi.Adapters.RowHistory

/-!
Optimistic concurrency of the SQLite row adapter.

The version predicate notices every update of a row, but a row that was inserted again
counts from zero like the one it replaces.  A commit is safe exactly when no such
replacement meets the version its manifest was prepared with.
-/

namespace KarmaSakshi.Guarantees

open EffectProgram KarmaSakshi.Domain KarmaSakshi.Engine KarmaSakshi.Adapters

set_option autoImplicit false

section Statement

variable {Caller : Type}

/-- In the log, the manifest was prepared on `existing`, and after `between` one of its
commits had its statement answered. -/
structure CommitAttempt (digestBytes : ByteArray → String) (calls : Caller → RowCall)
    (manifest : EffectManifest) (log : List (RowEntry Caller)) where
  preparer : Caller
  committer : Caller
  preparing : SQLiteRowAdapter
  committing : SQLiteRowAdapter
  request : RowEffectRequest
  fresh : FreshInputs
  existing : Option Row
  before : List (RowEntry Caller)
  between : List (RowEntry Caller)
  later : List (RowEntry Caller)
  statement : RowStatement
  ceiling : Option Int
  affected : Option Nat
  prepares : calls preparer = .prepare preparing request fresh
  prepared : (preparing.draft digestBytes request fresh existing).build = .ok manifest
  commits : calls committer = .commit committing manifest
  split : log = before ++ .performed preparer (.fetch request.rowId) (.ok existing) ::
    (between ++ .performed committer (.transact request.rowId statement ceiling) (.ok affected) ::
      later)

variable {digestBytes : ByteArray → String} {calls : Caller → RowCall}
  {manifest : EffectManifest} {log : List (RowEntry Caller)}

namespace CommitAttempt

variable (attempt : CommitAttempt digestBytes calls manifest log)

/-- The row as the commit's statement finds it. -/
def current (initial : Table) : Option Row :=
  rowAfter attempt.request.rowId (initial attempt.request.rowId)
    (attempt.before ++ .performed attempt.preparer (.fetch attempt.request.rowId)
      (.ok attempt.existing) :: attempt.between)

/-- The commit changed the row. -/
def TookEffect : Prop := tookEffect attempt.ceiling attempt.affected = true

/-- The row the statement is written for: none for an insert, one of the manifest's version
for an update or a delete. -/
def Finds : RowStatement → Option Row → Prop
  | .insert _, row => row = none
  | .update _ version, row => ∃ held ∈ row, held.version = version
  | .delete version, row => ∃ held ∈ row, held.version = version
  | _, _ => False

/-- A row that was inserted or deleted since the manifest was prepared is not the kind of
row that its statement looks for. -/
def Fenced (initial : Table) : Prop :=
  (∃ entry ∈ attempt.between, Replaces attempt.request.rowId entry) →
    ¬ (Finds attempt.statement (attempt.current initial) ∧ ¬ overCeiling attempt.ceiling 1)

end CommitAttempt

/-- Every commit of the manifest that changed its row found it as the prepare had read it,
nothing having changed it in between, and only one did. -/
structure CommitsGuarded (digestBytes : ByteArray → String) (calls : Caller → RowCall)
    (initial : Table) (manifest : EffectManifest)
    (config : Config RowOp RowReply PyError RowResult Table Caller) : Prop where
  undisturbed : ∀ attempt : CommitAttempt digestBytes calls manifest config.log,
    attempt.TookEffect → attempt.current initial = attempt.existing ∧
      ∀ entry ∈ attempt.between, ¬ Changes attempt.request.rowId entry
  once : ∀ attempt other : CommitAttempt digestBytes calls manifest config.log,
    attempt.before = other.before → attempt.TookEffect → other.TookEffect →
      attempt.committer = other.committer
  reported : ∀ caller adapter result, calls caller = .commit adapter manifest →
    config.status caller = .ended (.ok (.committed result)) → result.success = true →
      ∃ op reply, .performed caller op reply ∈ config.log ∧ effective op reply = true

end Statement

section Proof

variable {Caller : Type} {digestBytes : ByteArray → String} {calls : Caller → RowCall}
  {initial : Table} {manifest : EffectManifest}

/-- The statement of a commit affects the row it is written for, and no other. -/
theorem took_effect_iff {operation : ParameterValue} {expected : Int} {statement : RowStatement}
    (asked : SQLiteRowAdapter.commitStatement manifest operation expected = .ok statement)
    (ceiling : Option Int) (row : Option Row) :
    tookEffect ceiling ((statement.run row).map Prod.fst) = true ↔
      CommitAttempt.Finds statement row ∧ ¬ overCeiling ceiling 1 := by
  have one : tookEffect ceiling (some 1) = true ↔ ¬ overCeiling ceiling 1 := by
    simp [tookEffect]
  have nothing : ¬ tookEffect ceiling (some 0) = true := by simp [tookEffect]
  have versioned : ∀ (held : Row) (version : Int) (after : Option Row),
      tookEffect ceiling ((if held.version = version then some (1, after)
        else some (0, some held) : Option (Nat × Option Row)).map Prod.fst) = true ↔
        (∃ found ∈ some held, found.version = version) ∧ ¬ overCeiling ceiling 1 := by
    intro held version after
    simp only [Option.mem_some_iff, exists_eq_left']
    split
    · rename_i same
      exact one.trans (and_iff_right same).symm
    · rename_i differs
      exact iff_of_false nothing (fun found => differs found.1)
  cases SQLiteRowAdapter.statement_commits asked with
  | insert balance named =>
      cases row with
      | none => exact one.trans (and_iff_right rfl).symm
      | some held => exact iff_of_false Bool.false_ne_true (fun found => by cases found.1)
  | update balance named =>
      cases row with
      | none => exact iff_of_false nothing (fun found => by obtain ⟨_, ⟨⟩, _⟩ := found.1)
      | some held => exact versioned held expected _
  | delete notInsert notUpdate =>
      cases row with
      | none => exact iff_of_false nothing (fun found => by obtain ⟨_, ⟨⟩, _⟩ := found.1)
      | some held => exact versioned held expected _

variable {log : List (RowEntry Caller)} {world : Table}

/-- What the log says about an attempt, when it tells the truth about every row. -/
structure AttemptFacts (initial : Table) (attempt : CommitAttempt digestBytes calls manifest log) :
    Prop where
  current : attempt.current initial =
    rowAfter attempt.request.rowId attempt.existing attempt.between
  truthful : TruthfulLog attempt.request.rowId attempt.existing attempt.between
  told : attempt.affected = (attempt.statement.run (attempt.current initial)).map Prod.fst
  asked : CommitsWith attempt.committing manifest attempt.request.rowId attempt.statement
    attempt.ceiling

theorem attempt_facts (recorded : RowsRecorded calls initial world log)
    (attempt : CommitAttempt digestBytes calls manifest log) : AttemptFacts initial attempt := by
  have truthful := (congrArg (TruthfulLog attempt.request.rowId _) attempt.split).mp
    (recorded.truthful attempt.request.rowId)
  rw [truthful_append] at truthful
  obtain ⟨_, read, rest⟩ := truthful
  have isRead : attempt.existing =
      rowAfter attempt.request.rowId (initial attempt.request.rowId) attempt.before := read rfl
  rw [truthful_append] at rest
  obtain ⟨between, told, _⟩ := rest
  have current : attempt.current initial =
      rowAfter attempt.request.rowId attempt.existing attempt.between := by
    rw [CommitAttempt.current, row_after_append, ← isRead]
    rfl
  rw [← isRead] at between told
  have issued := recorded.issued attempt.committer
    (.transact attempt.request.rowId attempt.statement attempt.ceiling) (.ok attempt.affected)
    ((congrArg (_ ∈ ·) attempt.split).mpr (by simp))
  rw [attempt.commits] at issued
  refine ⟨current, between, ?_, issued⟩
  rw [current]
  exact told rfl

/-- The commit changed the row exactly when it found the row it is written for. -/
theorem attempt_took_effect_iff {attempt : CommitAttempt digestBytes calls manifest log}
    (facts : AttemptFacts initial attempt) :
    attempt.TookEffect ↔ CommitAttempt.Finds attempt.statement (attempt.current initial) ∧
      ¬ overCeiling attempt.ceiling 1 := by
  obtain ⟨operation, expected, _, _, asked⟩ := facts.asked.stated
  rw [CommitAttempt.TookEffect, facts.told]
  exact took_effect_iff asked attempt.ceiling (attempt.current initial)

/-- The version a manifest for a row that exists was prepared with. -/
theorem prepared_version_of_row {request : RowEffectRequest}
    (notInsert : request.operation ≠ .insert) (held : Row) :
    SQLiteRowAdapter.preparedVersion request.operation (some held) = held.version := by
  cases named : request.operation with
  | insert => exact absurd named notInsert
  | update => rfl
  | delete => rfl

/-- Without a replacement the version settles it: a row of the prepared kind is the row that
was read. -/
theorem found_row_is_read {attempt : CommitAttempt digestBytes calls manifest log}
    (facts : AttemptFacts initial attempt)
    (kept : ∀ entry ∈ attempt.between, ¬ Replaces attempt.request.rowId entry)
    (finds : CommitAttempt.Finds attempt.statement (attempt.current initial)) :
    attempt.current initial = attempt.existing ∧
      ∀ entry ∈ attempt.between, ¬ Changes attempt.request.rowId entry := by
  have grown := grown_log facts.truthful kept
  rw [← facts.current] at grown
  obtain ⟨operation, expected, named, versioned, asked⟩ := facts.asked.stated
  have isOperation := (SQLiteRowAdapter.prepared_operation attempt.prepared).symm.trans named
  have isVersion :=
    (SQLiteRowAdapter.prepared_expected_version attempt.prepared).symm.trans versioned
  have commits := SQLiteRowAdapter.statement_commits asked
  generalize attempt.current initial = current at grown finds
  cases grown with
  | same settled => exact ⟨rfl, settled⟩
  | @newer held grown heldIs newer =>
      have versions : attempt.request.operation ≠ .insert → held.version = expected := by
        intro notInsert
        rw [heldIs, prepared_version_of_row notInsert] at isVersion
        exact Except.ok.inj isVersion
      have cannot : attempt.request.operation ≠ .insert → ¬ ∃ found ∈ some grown,
          found.version = expected := by
        rintro notInsert ⟨found, ⟨⟩, same⟩
        exact absurd newer (by rw [versions notInsert, same]; exact lt_irrefl expected)
      generalize attempt.statement = statement at commits finds
      cases commits with
      | insert balance named => cases finds
      | update balance named =>
          refine absurd finds (cannot (fun isInsert => ?_))
          rw [isInsert, named] at isOperation
          exact absurd isOperation (by decide)
      | delete notInsert notUpdate =>
          refine absurd finds (cannot (fun isInsert => ?_))
          rw [isInsert] at isOperation
          exact notInsert (Except.ok.inj isOperation).symm

theorem changes_of_replaces {rowId : String} {entry : RowEntry Caller}
    (replaces : Replaces rowId entry) : Changes rowId entry := by
  obtain ⟨change, isChange, took, _⟩ := replaces
  exact ⟨change, isChange, took⟩

/-- Attempts after one prepare are ordered: the earlier one lies before the statement of the
later one. -/
theorem attempts_ordered {attempt other : CommitAttempt digestBytes calls manifest log}
    (same : attempt.before = other.before) :
    attempt.request.rowId = other.request.rowId ∧ (attempt.committer = other.committer ∨
      .performed attempt.committer
        (.transact attempt.request.rowId attempt.statement attempt.ceiling)
        (.ok attempt.affected) ∈ other.between ∨
      .performed other.committer (.transact other.request.rowId other.statement other.ceiling)
        (.ok other.affected) ∈ attempt.between) := by
  have splits := attempt.split.symm.trans other.split
  rw [same] at splits
  obtain ⟨reads, rests⟩ := List.cons.inj (List.append_cancel_left splits)
  injection reads with _ op _
  refine ⟨RowOp.fetch.inj op, ?_⟩
  rcases List.append_eq_append_iff.mp rests with ⟨gap, longer, rest⟩ | ⟨gap, longer, rest⟩
  · cases gap with
    | nil =>
        injection (List.cons.inj rest).1 with committer _ _
        exact Or.inl committer
    | cons entry gap =>
        rw [(List.cons.inj rest).1, longer]
        exact Or.inr (Or.inl (by simp))
  · cases gap with
    | nil =>
        injection (List.cons.inj rest).1 with committer _ _
        exact Or.inl committer.symm
    | cons entry gap =>
        rw [(List.cons.inj rest).1, longer]
        exact Or.inr (Or.inr (by simp))

variable [DecidableEq Caller] {config : Config RowOp RowReply PyError RowResult Table Caller}

/-- The commits of a manifest are guarded exactly when each of them is fenced. -/
theorem row_commits_guarded_iff (reached : (rowPool digestBytes calls).Reachable initial config) :
    CommitsGuarded digestBytes calls initial manifest config ↔
      ∀ attempt : CommitAttempt digestBytes calls manifest config.log, attempt.Fenced initial := by
  have recorded := rows_recorded reached
  constructor
  · rintro guarded attempt ⟨entry, member, replaces⟩ finds
    have took := (attempt_took_effect_iff (attempt_facts recorded attempt)).mpr finds
    exact (guarded.undisturbed attempt took).2 entry member (changes_of_replaces replaces)
  · intro fenced
    have undisturbed : ∀ attempt : CommitAttempt digestBytes calls manifest config.log,
        attempt.TookEffect → attempt.current initial = attempt.existing ∧
          ∀ entry ∈ attempt.between, ¬ Changes attempt.request.rowId entry := by
      intro attempt took
      have facts := attempt_facts recorded attempt
      have finds := (attempt_took_effect_iff facts).mp took
      refine found_row_is_read facts ?_ finds.1
      intro entry member replaces
      exact fenced attempt ⟨entry, member, replaces⟩ finds
    have changed : ∀ attempt : CommitAttempt digestBytes calls manifest config.log,
        attempt.TookEffect → Changes attempt.request.rowId
          (.performed attempt.committer
            (.transact attempt.request.rowId attempt.statement attempt.ceiling)
            (.ok attempt.affected) : RowEntry Caller) :=
      fun attempt took => ⟨_, if_pos rfl, took⟩
    refine ⟨undisturbed, ?_, ?_⟩
    · intro attempt other same took otherTook
      obtain ⟨sameRow, same | inOther | inAttempt⟩ := attempts_ordered same
      · exact same
      · exact absurd (sameRow ▸ changed attempt took) ((undisturbed other otherTook).2 _ inOther)
      · exact absurd (sameRow ▸ changed other otherTook) ((undisturbed attempt took).2 _ inAttempt)
    · intro caller adapter result commits ended succeeded
      exact success_changed reached commits ended succeeded

end Proof

/-! ### A row that is deleted and inserted again -/

namespace Ledger

def adapter : SQLiteRowAdapter := ⟨"ledger_accounts", 1⟩

def agent : Principal := ⟨"agent-1", .agent, none⟩

def opened : Row := ⟨.int 100, 0⟩

def table : Table := fun rowId => if rowId = "acct-1" then some opened else none

def digest : ByteArray → String := fun _ => "sha256:0"

def request (operation : RowOperation) (balance : Option Int) : RowEffectRequest :=
  { operation, rowId := "acct-1", actor := agent, principal := agent, newBalance := balance
    idempotencyKey := "", nonce := "", ttlSeconds := 300 }

def draft (operation : RowOperation) (balance : Option Int) (existing : Option Row) :
    ManifestDraft := adapter.draft digest (request operation balance) ⟨0, "manifest-1"⟩ existing

theorem update_bounds : DraftBounds (draft .update (some 250) (some opened)) := by decide

theorem delete_bounds : DraftBounds (draft .delete none (some opened)) := by decide

theorem insert_bounds : DraftBounds (draft .insert (some 900) none) := by decide

def update : EffectManifest := (draft .update (some 250) (some opened)).manifest update_bounds

def deletion : EffectManifest := (draft .delete none (some opened)).manifest delete_bounds

def insertion : EffectManifest := (draft .insert (some 900) none).manifest insert_bounds

theorem target_printable (operation : RowOperation) (balance : Option Int) (existing : Option Row) :
    printable (draft operation balance existing).targetResource := by
  simp [printable, draft, SQLiteRowAdapter.draft, adapter, request]

theorem update_built : (draft .update (some 250) (some opened)).build = .ok update :=
  ManifestDraft.build_passes update_bounds (target_printable _ _ _) (by decide) (by decide)
    metadata_fits_empty

inductive Caller : Type where
  | preparer
  | remover
  | inserter
  | checker
  | committer
  deriving DecidableEq

def calls : Caller → RowCall
  | .preparer => .prepare adapter (request .update (some 250)) ⟨0, "manifest-1"⟩
  | .remover => .commit adapter deletion
  | .inserter => .commit adapter insertion
  | .checker => .validatePreconditions update
  | .committer => .commit adapter update

theorem delete_built : (draft .delete none (some opened)).build = .ok deletion :=
  ManifestDraft.build_passes delete_bounds (target_printable _ _ _) (by decide) (by decide)
    metadata_fits_empty

theorem insert_built : (draft .insert (some 900) none).build = .ok insertion :=
  ManifestDraft.build_passes insert_bounds (target_printable _ _ _) (by decide) (by decide)
    metadata_fits_empty

/-- A commit of a manifest of this ledger runs the statement the manifest names. -/
theorem commits_with {operation : RowOperation} {balance : Option Int} {existing : Option Row}
    {manifest : EffectManifest} {statement : RowStatement}
    (built : (draft operation balance existing).build = .ok manifest)
    (asked : SQLiteRowAdapter.commitStatement manifest (.text operation.value)
      (SQLiteRowAdapter.preparedVersion operation existing) = .ok statement) :
    CommitsWith adapter manifest "acct-1" statement (some 1) :=
  ⟨SQLiteRowAdapter.prepared_row_id built, rfl, _, _, SQLiteRowAdapter.prepared_operation built,
    SQLiteRowAdapter.prepared_expected_version built, asked⟩

theorem update_asked : CommitsWith adapter update "acct-1" (.update 250 0) (some 1) :=
  commits_with update_built (by decide)

theorem delete_asked : CommitsWith adapter deletion "acct-1" (.delete 0) (some 1) :=
  commits_with delete_built (by decide)

theorem insert_asked : CommitsWith adapter insertion "acct-1" (.insert 900) (some 1) :=
  commits_with insert_built (by decide)

/-- A waiting call is started and its first access answered. -/
theorem call_reached {config : Config RowOp RowReply PyError RowResult Table Caller}
    (reached : (rowPool digest calls).Reachable table config) {caller : Caller} {op : RowOp}
    {resume : Except PyError (RowReply op) → RowProgram RowResult}
    (reply : RowReply op) (after : Table)
    (waits : config.status caller = .waiting)
    (begins : (calls caller).program digest = .call op resume)
    (answered : answerRow config.world op = (reply, after)) :
    ∃ next, (rowPool digest calls).Reachable table next ∧
      next.log = config.log ++ [.started caller, .performed caller op (.ok reply)] ∧
      next.world = after ∧ next.status caller = .running (resume (.ok reply)) ∧
      ∀ other, other ≠ caller → next.status other = config.status other := by
  have started : (rowPool digest calls).Reachable table
      (config.start caller (.call op resume)) := by
    rw [← begins]
    exact reached.step (.start waits trivial)
  have runs : (config.start caller (.call op resume)).status caller =
      .running (.call op resume) := Function.update_self ..
  have told : rowHandler config.world op (.ok reply) after :=
    Or.inl ⟨by rw [answered], by rw [answered]⟩
  refine ⟨_, started.step (.answer runs trivial told), ?_, rfl, Function.update_self .., ?_⟩
  · exact List.append_assoc ..
  · intro other different
    exact (Function.update_of_ne different ..).trans (Function.update_of_ne different ..)

theorem commit_begins {manifest : EffectManifest} {statement : RowStatement}
    (asked : CommitsWith adapter manifest "acct-1" statement (some 1)) :
    ∃ resume, (RowCall.commit adapter manifest).program digest =
      .call (.transact "acct-1" statement (some 1)) resume := by
  obtain ⟨operation, expected, named, versioned, stated⟩ := asked.stated
  simp only [RowCall.program, SQLiteRowAdapter.commit, asked.row, named, versioned,
    Program.settle, Program.bind_is_attempt, Program.attempt_done, stated]
  exact ⟨_, rfl⟩

theorem check_begins : ∃ resume, (RowCall.validatePreconditions update).program digest =
    .call (.fetch "acct-1") resume ∧ ∀ row, resume (.ok row) =
      .settle (.ok (.checked (SQLiteRowAdapter.rowVerdict (.text "update") 0 row))) := by
  simp only [RowCall.program, SQLiteRowAdapter.validatePreconditions,
    SQLiteRowAdapter.prepared_row_id update_built, SQLiteRowAdapter.prepared_expected_version
      update_built]
  refine ⟨_, rfl, fun row => ?_⟩
  simp only [SQLiteRowAdapter.prepared_operation update_built]
  rfl


/-- The agent's update is prepared; then others delete the row and insert it again. -/
def disturbances : List (RowEntry Caller) :=
  [.started .remover, .performed .remover (.transact "acct-1" (.delete 0) (some 1)) (.ok (some 1)),
    .started .inserter,
    .performed .inserter (.transact "acct-1" (.insert 900) (some 1)) (.ok (some 1)),
    .started .checker,
    .performed .checker (.fetch "acct-1") (.ok (some ⟨.int 900, 0⟩)),
    .finished .checker (.ok (.checked ⟨true, none, none⟩)),
    .started .committer]

/-- The table once the row was deleted and inserted again. -/
def recreated : Table :=
  Function.update (Function.update table "acct-1" none) "acct-1" (some ⟨.int 900, 0⟩)

def read : RowEntry Caller := .performed .preparer (.fetch "acct-1") (.ok (some opened))

def overwrite : RowEntry Caller :=
  .performed .committer (.transact "acct-1" (.update 250 0) (some 1)) (.ok (some 1))

theorem finish_status {config : Config RowOp RowReply PyError RowResult Table Caller}
    {caller other : Caller} {outcome : Except PyError RowResult} (different : other ≠ caller) :
    (config.finish caller outcome).status other = config.status other :=
  Function.update_of_ne different ..

theorem prepared_reached : ∃ config, (rowPool digest calls).Reachable table config ∧
    config.log = [.started .preparer, read] ∧ config.world = table ∧
      ∀ other, other ≠ .preparer → config.status other = .waiting := by
  have begins : (calls .preparer).program digest = .call (.fetch "acct-1") _ := rfl
  obtain ⟨config, reached, log, world, _, others⟩ := call_reached Pool.Reachable.initial
    (some opened) table rfl begins rfl
  exact ⟨config, reached, log, world, others⟩

theorem disturbed_reached : ∃ config, (rowPool digest calls).Reachable table config ∧
    config.log = [.started .preparer] ++ read :: (disturbances ++ [overwrite]) := by
  obtain ⟨first, reached, log, world, waits⟩ := prepared_reached
  obtain ⟨_, removes⟩ := commit_begins delete_asked
  obtain ⟨second, reached, logTwo, worldTwo, _, others⟩ := call_reached reached (some 1)
    (Function.update table "acct-1" none) (waits .remover (by decide)) removes
    (by rw [world]; rfl)
  have waitsTwo : ∀ other, other ≠ .preparer → other ≠ .remover →
      second.status other = .waiting :=
    fun other one two => (others other two).trans (waits other one)
  obtain ⟨_, inserts⟩ := commit_begins insert_asked
  obtain ⟨third, reached, logThree, worldThree, _, others⟩ := call_reached reached (some 1)
    recreated (waitsTwo .inserter (by decide) (by decide)) inserts (by rw [worldTwo]; rfl)
  have waitsThree : ∀ other, other ≠ .preparer → other ≠ .remover → other ≠ .inserter →
      third.status other = .waiting :=
    fun other one two three => (others other three).trans (waitsTwo other one two)
  obtain ⟨_, checks, verdict⟩ := check_begins
  obtain ⟨fourth, reached, logFour, worldFour, runs, others⟩ := call_reached reached
    (some ⟨.int 900, 0⟩) recreated (waitsThree .checker (by decide) (by decide) (by decide)) checks
    (by rw [worldThree]; rfl)
  have ends : fourth.status .checker =
      .running (.settle (.ok (.checked ⟨true, none, none⟩))) := by
    rw [runs, verdict]
    rfl
  have waitsFive : (fourth.finish Caller.checker
      (.ok (.checked ⟨true, none, none⟩))).status .committer = .waiting :=
    (finish_status (by decide)).trans ((others .committer (by decide)).trans
      (waitsThree .committer (by decide) (by decide) (by decide)))
  obtain ⟨_, updates⟩ := commit_begins update_asked
  obtain ⟨fifth, reached, logFive, _, _, _⟩ := call_reached (reached.step (.finish ends)) (some 1)
    (Function.update recreated "acct-1" (some ⟨.int 250, 1⟩)) waitsFive updates
    (by rw [Config.finish, worldFour]; rfl)
  refine ⟨fifth, reached, ?_⟩
  rw [logFive, Config.finish, logFour, logThree, logTwo, log]
  rfl

/-- The attempt of the agent's own commit. -/
def attempt {log : List (RowEntry Caller)} (between : List (RowEntry Caller))
    (split : log = [.started .preparer] ++ read :: (between ++ [overwrite])) :
    CommitAttempt digest calls update log where
  preparer := .preparer
  committer := .committer
  preparing := adapter
  committing := adapter
  request := request .update (some 250)
  fresh := ⟨0, "manifest-1"⟩
  existing := some opened
  before := [.started .preparer]
  between := between
  later := []
  statement := .update 250 0
  ceiling := some 1
  affected := some 1
  prepares := rfl
  prepared := update_built
  commits := rfl
  split := split

theorem undisturbed_reached : ∃ config, (rowPool digest calls).Reachable table config ∧
    config.log = [.started .preparer] ++ read :: ([.started .committer] ++ [overwrite]) := by
  obtain ⟨first, reached, log, world, waits⟩ := prepared_reached
  obtain ⟨_, updates⟩ := commit_begins update_asked
  obtain ⟨second, reached, logTwo, _, _, _⟩ := call_reached reached (some 1)
    (Function.update table "acct-1" (some ⟨.int 250, 1⟩)) (waits .committer (by decide)) updates
    (by rw [world]; rfl)
  refine ⟨second, reached, ?_⟩
  rw [logTwo, log]
  rfl

end Ledger

/-- A row that was deleted and inserted again counts its versions from zero, so an update
prepared on the old row overwrites the new one, right after the preconditions passed. -/
theorem recreated_row_is_overwritten : ∃ config,
    (rowPool Ledger.digest Ledger.calls).Reachable Ledger.table config ∧
      .finished Ledger.Caller.checker (.ok (.checked ⟨true, none, none⟩)) ∈ config.log ∧
        ¬ CommitsGuarded Ledger.digest Ledger.calls Ledger.table Ledger.update config := by
  obtain ⟨config, reached, log⟩ := Ledger.disturbed_reached
  refine ⟨config, reached, by rw [log]; simp [Ledger.disturbances], ?_⟩
  intro guarded
  have settled := (guarded.undisturbed (Ledger.attempt Ledger.disturbances log) rfl).2
  exact settled (.performed .remover (.transact "acct-1" (.delete 0) (some 1)) (.ok (some 1)))
    (by simp [Ledger.attempt, Ledger.disturbances]) ⟨_, rfl, rfl⟩

/-- A commit that nothing disturbs goes through and is guarded. -/
theorem undisturbed_commit_is_guarded : ∃ config,
    (rowPool Ledger.digest Ledger.calls).Reachable Ledger.table config ∧
      Ledger.overwrite ∈ config.log ∧
        CommitsGuarded Ledger.digest Ledger.calls Ledger.table Ledger.update config := by
  obtain ⟨config, reached, log⟩ := Ledger.undisturbed_reached
  refine ⟨config, reached, by rw [log]; simp, (row_commits_guarded_iff reached).mpr ?_⟩
  rintro attempt ⟨entry, member, change, isChange, took, replaces⟩
  have logged : entry ∈ config.log :=
    (congrArg (entry ∈ ·) attempt.split).mpr (by simp [member])
  rw [log] at logged
  simp only [List.cons_append, List.nil_append, List.mem_cons, List.not_mem_nil, or_false] at logged
  rcases logged with rfl | rfl | rfl | rfl
  · cases isChange
  · cases isChange
  · cases isChange
  · obtain ⟨_, rfl⟩ := statement_on_performed isChange
    cases replaces

end KarmaSakshi.Guarantees
