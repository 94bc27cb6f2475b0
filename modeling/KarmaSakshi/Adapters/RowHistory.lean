import KarmaSakshi.Adapters.SQLiteRow
import KarmaSakshi.Library.Pool

/-!
What happens to one row while any number of adapter calls interleave.

The log of a pool replays the row: every answer in it is what the row, as the entries
before left it, makes of the operation.  While nobody creates or removes the row, its
version only grows.
-/

namespace KarmaSakshi.Adapters

open EffectProgram KarmaSakshi.Domain KarmaSakshi.Engine

set_option autoImplicit false

/-! ### Calls of the adapter -/

inductive RowCall : Type where
  | prepare (adapter : SQLiteRowAdapter) (request : RowEffectRequest) (fresh : FreshInputs)
  | validatePreconditions (manifest : EffectManifest)
  | commit (adapter : SQLiteRowAdapter) (manifest : EffectManifest)
  | verify (manifest : EffectManifest) (now : Instant)
  | compensate (manifest : EffectManifest)

inductive RowResult : Type where
  | prepared (manifest : EffectManifest)
  | checked (verdict : PreconditionResult)
  | committed (result : CommitResult)
  | observed (proof : OutcomeProof)
  | compensated (result : CompensationResult)

def RowCall.program (digestBytes : ByteArray → String) : RowCall → RowProgram RowResult
  | .prepare adapter request fresh => do
      return .prepared (← adapter.prepare digestBytes request fresh)
  | .validatePreconditions manifest => do
      return .checked (← SQLiteRowAdapter.validatePreconditions manifest)
  | .commit adapter manifest => do
      return .committed (← adapter.commit digestBytes manifest)
  | .verify manifest now => do
      return .observed (← SQLiteRowAdapter.verify digestBytes manifest now)
  | .compensate manifest => do
      return .compensated (← SQLiteRowAdapter.compensate manifest)

variable {Caller : Type}

abbrev RowEntry (Caller : Type) := Entry RowOp RowReply PyError RowResult Caller

/-- Any number of calls on one database, in any order of their accesses. -/
def rowPool [DecidableEq Caller] (digestBytes : ByteArray → String) (calls : Caller → RowCall) :
    Pool RowOp RowReply PyError RowResult Table Caller where
  program caller := (calls caller).program digestBytes
  handler _ := rowHandler
  mayStart _ _ := True
  mayPerform _ _ _ := True

/-! ### One row along a log -/

/-- A statement that was answered so changed the row. -/
def tookEffect (ceiling : Option Int) (affected : Option Nat) : Bool :=
  match affected with
  | some affected => decide (0 < affected ∧ ¬ overCeiling ceiling affected)
  | none => false

/-- The statements after which the row is a new one or gone. -/
def RowStatement.replaces : RowStatement → Bool
  | .insert _ | .delete _ | .remove => true
  | .update _ _ | .restore _ => false

/-- The statement of an entry that was answered, when it is on the row. -/
def statementOn (rowId : String) : RowEntry Caller → Option (RowStatement × Option Int × Option Nat)
  | .performed _ (.transact row statement ceiling) (.ok affected) =>
      if row = rowId then some (statement, ceiling, affected) else none
  | _ => none

/-- The entry changed the row. -/
def Changes (rowId : String) (entry : RowEntry Caller) : Prop :=
  ∃ change ∈ statementOn rowId entry, tookEffect change.2.1 change.2.2 = true

/-- The entry created the row or removed it. -/
def Replaces (rowId : String) (entry : RowEntry Caller) : Prop :=
  ∃ change ∈ statementOn rowId entry,
    tookEffect change.2.1 change.2.2 = true ∧ change.1.replaces = true

/-- What an entry makes of the row. -/
def rowStep (rowId : String) (row : Option Row) (entry : RowEntry Caller) : Option Row :=
  match statementOn rowId entry with
  | some (statement, ceiling, _) => committedRow statement ceiling row
  | none => row

def rowAfter (rowId : String) (row : Option Row) (log : List (RowEntry Caller)) : Option Row :=
  log.foldl (rowStep rowId) row

/-- The answer in the entry is what the row makes of the operation. -/
def Truthful (rowId : String) (row : Option Row) : RowEntry Caller → Prop
  | .performed _ (.fetch read) (.ok existing) => read = rowId → existing = row
  | .performed _ (.transact written statement _) (.ok affected) =>
      written = rowId → affected = (statement.run row).map Prod.fst
  | _ => True

/-- Every answer in the log is the truth about the row at its time. -/
def TruthfulLog (rowId : String) : Option Row → List (RowEntry Caller) → Prop
  | _, [] => True
  | row, entry :: rest =>
      Truthful rowId row entry ∧ TruthfulLog rowId (rowStep rowId row entry) rest

variable {rowId : String} {row : Option Row} {log : List (RowEntry Caller)}

theorem row_after_append (later : List (RowEntry Caller)) :
    rowAfter rowId row (log ++ later) = rowAfter rowId (rowAfter rowId row log) later :=
  List.foldl_append

theorem truthful_append {later : List (RowEntry Caller)} :
    TruthfulLog rowId row (log ++ later) ↔
      TruthfulLog rowId row log ∧ TruthfulLog rowId (rowAfter rowId row log) later := by
  induction log generalizing row with
  | nil => exact (and_iff_right trivial).symm
  | cons entry rest ih =>
      rw [List.cons_append, TruthfulLog, TruthfulLog, ih, and_assoc]
      rfl

/-! ### Versions only grow -/

/-- Where the row may be after entries that neither create nor remove it. -/
inductive Grown (row : Option Row) (unchanged : Prop) : Option Row → Prop where
  | same (settled : unchanged) : Grown row unchanged row
  | newer {held grown : Row} (held_is : row = some held) (newer : held.version < grown.version) :
      Grown row unchanged (some grown)

/-- What a statement can do to the row. -/
inductive Ran (statement : RowStatement) (row : Option Row) : Option (Nat × Option Row) → Prop where
  | refused : Ran statement row none
  | idle : Ran statement row (some (0, row))
  | bumped {held grown : Row} (heldIs : row = some held) (newer : held.version < grown.version) :
      Ran statement row (some (1, some grown))
  | replaced {after : Option Row} (replaces : statement.replaces = true) :
      Ran statement row (some (1, after))

theorem statement_ran (statement : RowStatement) (row : Option Row) :
    Ran statement row (statement.run row) := by
  have older : ∀ held : Row, held.version < held.version + 1 := fun held => by omega
  cases statement with
  | insert balance =>
      cases row with
      | none => exact .replaced rfl
      | some held => exact .refused
  | update balance version =>
      cases row with
      | none => exact .idle
      | some held =>
          rw [RowStatement.run]
          split
          · exact .bumped rfl (older held)
          · exact .idle
  | delete version =>
      cases row with
      | none => exact .idle
      | some held =>
          rw [RowStatement.run]
          split
          · exact .replaced rfl
          · exact .idle
  | restore balance =>
      cases row with
      | none => exact .idle
      | some held => exact .bumped rfl (older held)
  | remove =>
      cases row with
      | none => exact .idle
      | some held => exact .replaced rfl

/-- A statement that does not replace the row leaves it, or gives it a higher version. -/
theorem committed_row_grown (statement : RowStatement) (ceiling : Option Int) (row : Option Row)
    (kept : ¬ (tookEffect ceiling ((statement.run row).map Prod.fst) = true ∧
      statement.replaces = true)) :
    Grown row (tookEffect ceiling ((statement.run row).map Prod.fst) = false)
      (committedRow statement ceiling row) := by
  have ran := statement_ran statement row
  unfold committedRow
  generalize statement.run row = answer at ran kept ⊢
  cases ran with
  | refused => exact .same rfl
  | idle =>
      simp only [ite_self]
      exact .same rfl
  | bumped heldIs newer =>
      by_cases exceeded : overCeiling ceiling 1
      · simp only [if_pos exceeded]
        exact .same (by simp [tookEffect, exceeded])
      · simp only [if_neg exceeded]
        exact .newer heldIs newer
  | replaced replaces =>
      have ineffective : ¬ tookEffect ceiling (some 1) = true := fun took => kept ⟨took, replaces⟩
      have exceeded : overCeiling ceiling 1 := by simpa [tookEffect] using ineffective
      simp only [if_pos exceeded]
      exact .same (by simp [tookEffect, exceeded])

theorem statement_on_performed {caller : Caller} {written : String} {statement : RowStatement}
    {ceiling : Option Int} {affected : Option Nat} {change : RowStatement × Option Int × Option Nat}
    (found : statementOn rowId (.performed caller (.transact written statement ceiling)
      (.ok affected) : RowEntry Caller) = some change) :
    written = rowId ∧ change = (statement, ceiling, affected) := by
  by_cases same : written = rowId
  · exact ⟨same, Option.some.inj (found.symm.trans (if_pos same))⟩
  · exact absurd (found.symm.trans (if_neg same)) (Option.some_ne_none _)

/-- The row is the one the entry was answered about. -/
theorem told_affected {entry : RowEntry Caller} (truthful : Truthful rowId row entry)
    {statement : RowStatement} {ceiling : Option Int} {affected : Option Nat}
    (found : statementOn rowId entry = some (statement, ceiling, affected)) :
    affected = (statement.run row).map Prod.fst := by
  cases entry with
  | started caller => cases found
  | finished caller outcome => cases found
  | performed caller op reply =>
      cases op with
      | fetch read => cases reply <;> cases found
      | transact written told limit =>
          cases reply with
          | error fault => cases found
          | ok answer =>
              obtain ⟨same, change⟩ := statement_on_performed found
              cases change
              exact truthful same

/-- One truthful entry that does not replace the row. -/
theorem grown_step {entry : RowEntry Caller} (truthful : Truthful rowId row entry)
    (kept : ¬ Replaces rowId entry) :
    Grown row (¬ Changes rowId entry) (rowStep rowId row entry) := by
  unfold Replaces at kept
  unfold Changes rowStep
  cases found : statementOn rowId entry with
  | none => exact .same (by simp)
  | some change =>
      obtain ⟨statement, ceiling, affected⟩ := change
      obtain rfl := told_affected truthful found
      rw [found] at kept
      simp only [Option.mem_some_iff, exists_eq_left'] at kept ⊢
      have grown := committed_row_grown statement ceiling row kept
      simp only [Bool.not_eq_true]
      exact grown

/-- Entries that do not replace the row leave it, or give it a higher version. -/
theorem grown_log (truthful : TruthfulLog rowId row log)
    (kept : ∀ entry ∈ log, ¬ Replaces rowId entry) :
    Grown row (∀ entry ∈ log, ¬ Changes rowId entry) (rowAfter rowId row log) := by
  induction log generalizing row with
  | nil => exact .same (by simp)
  | cons entry rest ih =>
      have step := grown_step truthful.1 (kept entry List.mem_cons_self)
      have later := ih truthful.2 (fun other member => kept other (List.mem_cons_of_mem _ member))
      change Grown row _ (rowAfter rowId (rowStep rowId row entry) rest)
      generalize rowStep rowId row entry = middle at step later ⊢
      generalize rowAfter rowId middle rest = last at later ⊢
      cases step with
      | same still =>
          cases later with
          | same settled => exact .same (List.forall_mem_cons.mpr ⟨still, settled⟩)
          | newer heldIs newer => exact .newer heldIs newer
      | newer heldIs newer =>
          cases later with
          | same settled => exact .newer heldIs newer
          | newer middleIs newest =>
              cases middleIs
              exact .newer heldIs (newer.trans newest)

/-! ### Reachable logs -/

/-- The transaction of a commit is the one its manifest asks for. -/
structure CommitsWith (adapter : SQLiteRowAdapter) (manifest : EffectManifest) (rowId : String)
    (statement : RowStatement) (ceiling : Option Int) : Prop where
  row : rowIdOf manifest = .ok rowId
  ceilingIs : ceiling = some adapter.maxAffectedRows
  stated : ∃ operation expected, manifest.parameter "operation" = .ok operation ∧
    expectedVersion manifest = .ok expected ∧
      SQLiteRowAdapter.commitStatement manifest operation expected = .ok statement

def RowCall.Issues : RowCall → RowOp → Prop
  | .commit adapter manifest, .transact rowId statement ceiling =>
      CommitsWith adapter manifest rowId statement ceiling
  | _, _ => True

/-- The operation was answered so that it changed a row. -/
def effective : (op : RowOp) → Except PyError (RowReply op) → Bool
  | .transact _ _ ceiling, .ok affected => tookEffect ceiling affected
  | _, _ => false

/-- Watches whether the call has changed a row yet. -/
def RowCall.spec (call : RowCall) : Spec RowOp RowReply PyError Bool where
  admits _ op := call.Issues op
  expects _ _ _ := True
  observe changed op reply := changed || effective op reply

/-- A commit reports success only if it changed the row. -/
def RowCall.exit : RowCall → Except PyError RowResult → Bool → Prop
  | .commit _ _, .ok (.committed result), changed => result.success = true → changed = true
  | _, _, _ => True

/-- A step that only computes goes on with its value, or ends the call. -/
theorem conforms_after_settle {Value Result : Type} {call : RowCall} {outcome : Except PyError Value}
    {next : Value → RowProgram Result} {exit : Except PyError Result → Bool → Prop} {changed : Bool}
    (goesOn : ∀ value, outcome = .ok value → Conforms call.spec exit (next value) changed)
    (ends : ∀ fault, exit (.error fault) changed) :
    Conforms call.spec exit (Program.settle outcome >>= next) changed := by
  rw [conforms_bind, conforms_settle]
  cases outcome with
  | ok value => exact goesOn value rfl
  | error fault => exact ends fault

theorem conforms_fetch {call : RowCall} {exit : Except PyError (Option Row) → Bool → Prop}
    {changed : Bool} (rowId : String) (issued : call.Issues (.fetch rowId))
    (ends : ∀ reply, exit reply changed) :
    Conforms call.spec exit (fetch rowId) changed := by
  refine ⟨issued, fun reply _ => ?_⟩
  have unchanged : (call.spec.observe changed (RowOp.fetch rowId) reply) = changed :=
    Bool.or_false changed
  rw [unchanged]
  cases reply with
  | ok row => exact ends (.ok row)
  | error fault => exact ends (.error fault)

theorem conforms_transact {call : RowCall} {exit : Except PyError (Option Nat) → Bool → Prop}
    {changed : Bool} (rowId : String) (statement : RowStatement) (ceiling : Option Int)
    (issued : call.Issues (.transact rowId statement ceiling))
    (ends : ∀ reply, exit reply
      (changed || effective (RowOp.transact rowId statement ceiling) reply)) :
    Conforms call.spec exit (transact rowId statement ceiling) changed := by
  refine ⟨issued, fun reply _ => ?_⟩
  cases reply with
  | ok affected => exact ends (.ok affected)
  | error fault => exact ends (.error fault)

theorem report_conforms (digestBytes : ByteArray → String) (adapter : SQLiteRowAdapter)
    (manifest : EffectManifest) (rowId : String) (affected : Option Nat) :
    Conforms (RowCall.commit adapter manifest).spec
      (fun outcome changed => ∀ result, outcome = .ok result → result.success = true →
        changed = true)
      (adapter.reportCommit digestBytes manifest rowId affected)
      (tookEffect (some adapter.maxAffectedRows) affected) := by
  unfold SQLiteRowAdapter.reportCommit
  cases affected with
  | none =>
      rintro result ⟨⟩ impossible
      cases impossible
  | some affected =>
      simp only
      split
      · rintro result ⟨⟩
      · rename_i within
        split
        · rintro result ⟨⟩ impossible
          cases impossible
        · rename_i some_affected
          have took : tookEffect (some adapter.maxAffectedRows) (some affected) = true := by
            simp only [tookEffect, overCeiling, Option.mem_some_iff, exists_eq_left',
              decide_eq_true_eq]
            exact ⟨Nat.pos_of_ne_zero some_affected, within⟩
          rw [conforms_bind, took]
          refine conforms_fetch rowId trivial (fun reply => ?_)
          cases reply with
          | ok row => exact fun _ _ _ => rfl
          | error fault => rintro result ⟨⟩

theorem commit_conforms (digestBytes : ByteArray → String) (adapter : SQLiteRowAdapter)
    (manifest : EffectManifest) :
    Conforms (RowCall.commit adapter manifest).spec
      (fun outcome changed => ∀ result, outcome = .ok result → result.success = true →
        changed = true)
      (adapter.commit digestBytes manifest) false := by
  have raises : ∀ fault : PyError, ∀ result : CommitResult,
      (.error fault : Except PyError CommitResult) = .ok result → result.success = true →
        false = true := by
    rintro fault result ⟨⟩
  refine conforms_after_settle (fun rowId row => ?_) raises
  refine conforms_after_settle (fun operation stated => ?_) raises
  refine conforms_after_settle (fun expected version => ?_) raises
  refine conforms_after_settle (fun statement asked => ?_) raises
  rw [conforms_bind]
  refine conforms_transact rowId statement _
    ⟨row, rfl, operation, expected, stated, version, asked⟩ (fun reply => ?_)
  cases reply with
  | ok affected => exact report_conforms digestBytes adapter manifest rowId affected
  | error fault => exact raises fault

theorem row_call_conforms (digestBytes : ByteArray → String) (call : RowCall) :
    Conforms call.spec call.exit (call.program digestBytes) false := by
  have unwatched : (∀ op, call.Issues op) → (∀ outcome changed, call.exit outcome changed) →
      Conforms call.spec call.exit (call.program digestBytes) false := by
    intro issues exits
    have anywhere : Conforms call.spec (fun _ _ => True) (call.program digestBytes) false :=
      (Program.uses_anything (call.program digestBytes)).conforms
        (fun _ op _ _ => issues op) (fun _ _ _ _ _ => trivial) trivial
    exact anywhere.mono fun outcome after _ => exits outcome after
  cases call with
  | commit adapter manifest =>
      refine (commit_conforms digestBytes adapter manifest).andThen _ ?_ ?_
      · exact fun result changed reported succeeded => reported result rfl succeeded
      · exact fun _ _ _ => trivial
  | prepare adapter request fresh => exact unwatched (fun _ => trivial) (fun _ _ => trivial)
  | validatePreconditions manifest => exact unwatched (fun _ => trivial) (fun _ _ => trivial)
  | verify manifest now => exact unwatched (fun _ => trivial) (fun _ _ => trivial)
  | compensate manifest => exact unwatched (fun _ => trivial) (fun _ _ => trivial)

/-- The database and the log tell one story of every row. -/
structure RowsRecorded (calls : Caller → RowCall) (initial : Table)
    (world : Table) (log : List (RowEntry Caller)) : Prop where
  current : ∀ rowId, world rowId = rowAfter rowId (initial rowId) log
  truthful : ∀ rowId, TruthfulLog rowId (initial rowId) log
  issued : ∀ caller op reply, .performed caller op reply ∈ log → (calls caller).Issues op

section Reached

variable {calls : Caller → RowCall} {initial world : Table}

theorem RowsRecorded.append (recorded : RowsRecorded calls initial world log)
    {entry : RowEntry Caller} {after : Table}
    (next : ∀ rowId, after rowId = rowStep rowId (world rowId) entry)
    (truthful : ∀ rowId, Truthful rowId (world rowId) entry)
    (issued : ∀ caller op reply, entry = .performed caller op reply → (calls caller).Issues op) :
    RowsRecorded calls initial after (log ++ [entry]) := by
  constructor
  · intro rowId
    rw [row_after_append, ← recorded.current]
    exact next rowId
  · intro rowId
    rw [truthful_append, ← recorded.current]
    exact ⟨recorded.truthful rowId, truthful rowId, trivial⟩
  · intro caller op reply member
    rcases List.mem_append.mp member with before | last
    · exact recorded.issued caller op reply before
    · exact issued caller op reply (List.mem_singleton.mp last).symm

/-- An answer of the database is the truth about every row, and what it leaves is the next
state of every row. -/
theorem answer_recorded {caller : Caller} {op : RowOp} {reply : Except PyError (RowReply op)}
    {after : Table} (answered : rowHandler world op reply after) (rowId : String) :
    after rowId = rowStep rowId (world rowId) (.performed caller op reply : RowEntry Caller) ∧
      Truthful rowId (world rowId) (.performed caller op reply : RowEntry Caller) := by
  rcases answered with ⟨rfl, rfl⟩ | ⟨error, rfl, rfl⟩
  · cases op with
    | fetch read => exact ⟨rfl, fun same => same ▸ rfl⟩
    | transact written statement ceiling =>
        by_cases same : written = rowId
        · subst same
          refine ⟨?_, fun _ => rfl⟩
          rw [rowStep, statementOn, if_pos rfl]
          exact Function.update_self ..
        · refine ⟨?_, fun isRow => absurd isRow same⟩
          rw [rowStep, statementOn, if_neg same]
          exact Function.update_of_ne (Ne.symm same) ..
  · cases op <;> exact ⟨rfl, trivial⟩

variable [DecidableEq Caller] {digestBytes : ByteArray → String}
  {config : Config RowOp RowReply PyError RowResult Table Caller}

theorem rows_keep (digestBytes : ByteArray → String) (calls : Caller → RowCall) (initial : Table) :
    (rowPool digestBytes calls).Keeps (fun caller => (calls caller).spec)
      (fun caller => (calls caller).exit) (fun _ => false)
      (fun config => RowsRecorded calls initial config.world config.log) := by
  constructor
  · intro config caller recorded waits permitted fresh
    exact recorded.append (fun _ => rfl) (fun _ => trivial) (by rintro actor op reply ⟨⟩)
  · intro config caller op resume reply after recorded runs permitted admitted answered
    refine ⟨trivial, recorded.append (fun rowId => (answer_recorded answered rowId).1)
      (fun rowId => (answer_recorded answered rowId).2) ?_⟩
    rintro actor other answer ⟨⟩
    exact admitted
  · intro config caller outcome recorded runs ended
    exact recorded.append (fun _ => rfl) (fun _ => trivial) (by rintro actor op reply ⟨⟩)

/-- A log that a pool reaches tells the truth about every row. -/
theorem rows_recorded (reached : (rowPool digestBytes calls).Reachable initial config) :
    RowsRecorded calls initial config.world config.log :=
  ((rows_keep digestBytes calls initial).reachable
    (fun caller => row_call_conforms digestBytes (calls caller))
    ⟨fun _ => rfl, fun _ => trivial, by rintro _ _ _ ⟨⟩⟩ reached).1

/-- The watcher has seen a change only where the log has one. -/
theorem changed_in_log (call : RowCall) (caller : Caller) (log : List (RowEntry Caller))
    (changed : call.spec.seen false caller log = true) :
    ∃ op reply, .performed caller op reply ∈ log ∧ effective op reply = true := by
  induction log using List.reverseRecOn with
  | nil => cases changed
  | append_singleton earlier entry ih =>
      have before : call.spec.seen false caller earlier = true →
          ∃ op reply, .performed caller op reply ∈ earlier ++ [entry] ∧
            effective op reply = true := by
        intro seen
        obtain ⟨op, reply, member, took⟩ := ih seen
        exact ⟨op, reply, List.mem_append_left _ member, took⟩
      cases entry with
      | started actor => exact before (by simpa only [seen_started] using changed)
      | finished actor outcome => exact before (by simpa only [seen_finished] using changed)
      | performed actor op reply =>
          rw [seen_performed] at changed
          split at changed
          · rename_i same
            rcases Bool.or_eq_true_iff.mp changed with seen | took
            · exact before seen
            · exact ⟨op, reply, same ▸ List.mem_append_right _ List.mem_cons_self, took⟩
          · exact before changed

/-- A commit that ended with a success changed a row. -/
theorem success_changed (reached : (rowPool digestBytes calls).Reachable initial config)
    {caller : Caller} {adapter : SQLiteRowAdapter} {manifest : EffectManifest}
    (commits : calls caller = .commit adapter manifest) {result : CommitResult}
    (ended : config.status caller = .ended (.ok (.committed result)))
    (succeeded : result.success = true) :
    ∃ op reply, .performed caller op reply ∈ config.log ∧ effective op reply = true := by
  have standing := ((rows_keep digestBytes calls initial).reachable
    (fun caller => row_call_conforms digestBytes (calls caller))
    ⟨fun _ => rfl, fun _ => trivial, by rintro _ _ _ ⟨⟩⟩ reached).2 caller
  simp only [ended, commits, Standing] at standing
  exact changed_in_log _ caller config.log (standing succeeded)

end Reached

end KarmaSakshi.Adapters
