import KarmaSakshi.Gateway.Migrations

/-!
What a crash or a failure inside `apply_migrations` leaves of the database.

A watcher follows the run through the three statements of each migration.  Outside the
window that a `CREATE TABLE` opens and the commit of its record closes, the database has
each migration whole or not at all, and the next start completes.  Inside it the table is
durable and its record is not, so the next start fails on the same `CREATE TABLE`.
-/

namespace KarmaSakshi.Gateway

open EffectProgram KarmaSakshi.Domain

set_option autoImplicit false

variable {database : Database} {migration : Migration} {finished todo rest : List Migration}

/-! ### What a database has of a migration -/

def Migration.Applied (migration : Migration) (database : Database) : Prop :=
  database.has migration.sql.table ∧ migration.id ∈ database.ids

def Migration.Absent (migration : Migration) (database : Database) : Prop :=
  ¬ database.has migration.sql.table ∧ migration.id ∉ database.ids

/-- The table exists and is not recorded. -/
def Migration.Torn (migration : Migration) (database : Database) : Prop :=
  database.has migration.sql.table ∧ migration.id ∉ database.ids

instance (migration : Migration) (database : Database) : Decidable (migration.Applied database) :=
  inferInstanceAs (Decidable (_ ∧ _))

instance (migration : Migration) (database : Database) : Decidable (migration.Absent database) :=
  inferInstanceAs (Decidable (_ ∧ _))

/-- The database after all of the migrations, one after the other. -/
def Database.applying (database : Database) (todo : List Migration) : Database :=
  todo.foldl (fun current migration =>
    (current.create migration.sql).record migration.id migration.name) database

/-- The first list is applied, nothing of the second is there. -/
structure Migrated (finished todo : List Migration) (database : Database) : Prop where
  applied : ∀ migration ∈ finished, migration.Applied database
  absent : ∀ migration ∈ todo, migration.Absent database

/-- No two migrations share an id or a table. -/
theorem migrations_differ :
    migrations.Pairwise (fun first second =>
      first.id ≠ second.id ∧ first.sql.table ≠ second.sql.table) := by
  decide

theorem Migrated.torn (migrated : Migrated finished (migration :: rest) database) :
    migration.Torn (database.create migration.sql) := by
  have absent := migrated.absent migration List.mem_cons_self
  constructor
  · exact (Database.has_create _ _ _).mpr (Or.inr rfl)
  · exact absent.2

/-- Running one migration to its commit. -/
theorem Migrated.advance (migrated : Migrated finished (migration :: rest) database)
    (differ : (migration :: rest).Pairwise (fun first second =>
      first.id ≠ second.id ∧ first.sql.table ≠ second.sql.table)) :
    Migrated (finished ++ [migration]) rest
      ((database.create migration.sql).record migration.id migration.name) := by
  constructor
  · intro other member
    simp only [Migration.Applied, Database.has_record, Database.has_create, Database.ids_record,
      Database.ids_create, List.mem_append, List.mem_singleton] at member ⊢
    cases member with
    | inl earlier =>
        have held := migrated.applied other earlier
        exact ⟨Or.inl held.1, Or.inl held.2⟩
    | inr same =>
        rw [same]
        exact ⟨Or.inr rfl, Or.inr rfl⟩
  · intro other member
    have apart := (List.pairwise_cons.mp differ).1 other member
    have absent := migrated.absent other (List.mem_cons_of_mem _ member)
    simp only [Migration.Absent, Database.has_record, Database.has_create, Database.ids_record,
      Database.ids_create, List.mem_append, List.mem_singleton, not_or]
    exact ⟨⟨absent.1, apart.2.symm⟩, absent.2, apart.1.symm⟩

theorem Migrated.ensured (migrated : Migrated finished todo database) :
    Migrated finished todo database.ensured :=
  ⟨migrated.applied, migrated.absent⟩

/-! ### The watcher -/

/-- How far the run got. -/
inductive Progress : Type where
  | idle (finished todo : List Migration)
  | created (finished : List Migration) (migration : Migration) (rest : List Migration)
  | inserted (finished : List Migration) (migration : Migration) (rest : List Migration)
  | torn (migration : Migration)

def Progress.admits : Progress → MigrationOp → Prop
  | .idle _ todo, .createTable sql => ∃ migration rest, todo = migration :: rest ∧
      sql = migration.sql
  | .idle _ _, .insertMigration _ _ => False
  | .idle _ _, _ => True
  | .created _ migration _, .insertMigration id name => id = migration.id ∧ name = migration.name
  | .inserted _ _ _, .commit => True
  | .torn _, .rollback => True
  | _, _ => False

/-- The ids that are read are those of the finished migrations. -/
def Progress.expects : Progress → (op : MigrationOp) → Except PyError (MigrationReply op) → Prop
  | .idle finished todo, .selectIds, .ok ids =>
      (∀ migration ∈ finished, migration.id ∈ ids) ∧ ∀ migration ∈ todo, migration.id ∉ ids
  | _, _, _ => True

def Progress.observe : Progress → (op : MigrationOp) → Except PyError (MigrationReply op) → Progress
  | .idle finished (migration :: rest), .createTable _, .ok _ => .created finished migration rest
  | .created finished migration rest, .insertMigration _ _, .ok _ =>
      .inserted finished migration rest
  | .created _ migration _, .insertMigration _ _, .error _ => .torn migration
  | .inserted finished migration rest, .commit, .ok _ => .idle (finished ++ [migration]) rest
  | .inserted _ migration _, .commit, .error _ => .torn migration
  | progress, _, _ => progress

def migrationSpec : Spec MigrationOp MigrationReply PyError Progress :=
  ⟨Progress.admits, Progress.expects, Progress.observe⟩

/-- A table is durable whose record is not. -/
def Progress.inWindow : Progress → Bool
  | .idle _ _ => false
  | .created _ _ _ | .inserted _ _ _ | .torn _ => true

/-- The connection is where the watcher says. -/
def Progress.Stands : Progress → Connection → Prop
  | .idle finished todo, connection =>
      connection.opened = none ∧ finished ++ todo = migrations ∧
        Migrated finished todo connection.durable
  | .created finished migration rest, connection =>
      connection.opened = none ∧ finished ++ migration :: rest = migrations ∧
        ∃ before, Migrated finished (migration :: rest) before ∧
          connection.durable = before.create migration.sql
  | .inserted finished migration rest, connection =>
      finished ++ migration :: rest = migrations ∧
        ∃ before, Migrated finished (migration :: rest) before ∧
          connection.durable = before.create migration.sql ∧
          connection.opened = some ((before.create migration.sql).record
            migration.id migration.name)
  | .torn migration, connection => migration ∈ migrations ∧ migration.Torn connection.durable

/-- The window: open from a `CREATE TABLE` that succeeded to the next commit that did. -/
def windowStep (opened : Bool) : Event MigrationOp MigrationReply PyError → Bool
  | ⟨.createTable _, .ok _⟩ => true
  | ⟨.commit, .ok _⟩ => false
  | _ => opened

def windowOpen (events : List (Event MigrationOp MigrationReply PyError)) : Bool :=
  events.foldl windowStep false

@[simp] theorem window_open_append_one
    (events : List (Event MigrationOp MigrationReply PyError))
    (event : Event MigrationOp MigrationReply PyError) :
    windowOpen (events ++ [event]) = windowStep (windowOpen events) event := by
  simp only [windowOpen, List.foldl_append, List.foldl_cons, List.foldl_nil]

/-! ### One statement -/

theorem later_differ (ordered : finished ++ todo = migrations) :
    todo.Pairwise (fun first second =>
      first.id ≠ second.id ∧ first.sql.table ≠ second.sql.table) := by
  have differ := migrations_differ
  rw [← ordered] at differ
  exact (List.pairwise_append.mp differ).2.1

theorem Progress.Stands.of_failure {progress : Progress} {connection after : Connection}
    (stands : progress.Stands connection) (durable : after.durable = connection.durable)
    (opened : after.opened = connection.opened ∨ after.opened = none)
    (op : MigrationOp) (error : PyError) (admitted : progress.admits op) :
    (progress.observe op (.error error)).Stands after ∧
      (progress.observe op (.error error)).inWindow = progress.inWindow := by
  cases progress with
  | idle finished todo =>
      have closed : after.opened = none := by
        cases opened with
        | inl kept => exact kept.trans stands.1
        | inr lost => exact lost
      have kept : (Progress.idle finished todo).Stands after :=
        ⟨closed, stands.2.1, durable ▸ stands.2.2⟩
      cases op <;> cases todo <;> exact ⟨kept, rfl⟩
  | created finished migration rest =>
      cases op with
      | insertMigration id name =>
          obtain ⟨_, ordered, before, migrated, holds⟩ := stands
          refine ⟨⟨?_, ?_⟩, rfl⟩
          · simp [← ordered]
          · rw [durable, holds]
            exact migrated.torn
      | ensureTable => exact admitted.elim
      | createTable sql => exact admitted.elim
      | selectIds => exact admitted.elim
      | commit => exact admitted.elim
      | rollback => exact admitted.elim
  | inserted finished migration rest =>
      cases op with
      | commit =>
          obtain ⟨ordered, before, migrated, holds, _⟩ := stands
          refine ⟨⟨?_, ?_⟩, rfl⟩
          · simp [← ordered]
          · rw [durable, holds]
            exact migrated.torn
      | ensureTable => exact admitted.elim
      | createTable sql => exact admitted.elim
      | selectIds => exact admitted.elim
      | insertMigration id name => exact admitted.elim
      | rollback => exact admitted.elim
  | torn migration =>
      have kept : (Progress.torn migration).Stands after := ⟨stands.1, durable ▸ stands.2⟩
      cases op <;> exact ⟨kept, rfl⟩

/-- The connection and the watcher after a statement. -/
structure Follows (progress : Progress) (op : MigrationOp)
    (reply : Except PyError (MigrationReply op)) (after : Connection) : Prop where
  expected : progress.expects op reply
  stands : (progress.observe op reply).Stands after
  window : (progress.observe op reply).inWindow = windowStep progress.inWindow ⟨op, reply⟩

/-- Outside every transaction. -/
theorem Progress.Stands.idle_follows {op : MigrationOp}
    (stands : (Progress.idle finished todo).Stands (connect database))
    (admitted : (Progress.idle finished todo).admits op) :
    Follows (.idle finished todo) op (migrationServer (connect database) op).1
      (migrationServer (connect database) op).2 := by
  obtain ⟨_, ordered, migrated⟩ := stands
  cases op with
  | ensureTable =>
      cases todo <;> exact ⟨trivial, ⟨rfl, ordered, migrated.ensured⟩, rfl⟩
  | createTable sql =>
      obtain ⟨migration, rest, rfl, rfl⟩ := admitted
      have missing : ¬ database.has migration.sql.table :=
        (migrated.absent migration List.mem_cons_self).1
      rw [migrationServer, connect_current, if_neg missing]
      exact ⟨trivial, ⟨rfl, ordered, database, migrated, rfl⟩, rfl⟩
  | selectIds =>
      cases held : database.recorded with
      | none =>
          simp only [migrationServer, connect_current, held]
          cases todo <;> exact ⟨trivial, ⟨rfl, ordered, migrated⟩, rfl⟩
      | some rows =>
          have ids : database.ids = rows.map Prod.fst := by
            rw [Database.ids, Database.rows, held, Option.getD_some]
          simp only [migrationServer, connect_current, held]
          refine ⟨⟨?_, ?_⟩, ?_, ?_⟩
          · intro migration member
            exact ids ▸ (migrated.applied migration member).2
          · intro migration member
            exact ids ▸ (migrated.absent migration member).2
          · cases todo <;> exact ⟨rfl, ordered, migrated⟩
          · cases todo <;> rfl
  | insertMigration id name => exact admitted.elim
  | commit => cases todo <;> exact ⟨trivial, ⟨rfl, ordered, migrated⟩, rfl⟩
  | rollback => cases todo <;> exact ⟨trivial, ⟨rfl, ordered, migrated⟩, rfl⟩

/-- The record of a migration whose table exists. -/
theorem Progress.Stands.created_follows {op : MigrationOp}
    (stands : (Progress.created finished migration rest).Stands (connect database))
    (admitted : (Progress.created finished migration rest).admits op) :
    Follows (.created finished migration rest) op (migrationServer (connect database) op).1
      (migrationServer (connect database) op).2 := by
  obtain ⟨_, ordered, before, migrated, holds⟩ := stands
  have known : migration ∈ migrations := by simp [← ordered]
  have fails := migrated.torn
  cases op with
  | insertMigration id name =>
      obtain ⟨rfl, rfl⟩ := admitted
      have durable : database = before.create migration.sql := holds
      subst durable
      cases held : (before.create migration.sql).recorded with
      | none =>
          simp only [migrationServer, connect_current, held]
          exact ⟨trivial, ⟨known, fails⟩, rfl⟩
      | some rows =>
          have ids : (before.create migration.sql).ids = rows.map Prod.fst := by
            rw [Database.ids, Database.rows, held, Option.getD_some]
          simp only [migrationServer, connect_current, held, ← ids, if_neg fails.2]
          exact ⟨trivial, ⟨ordered, before, migrated, rfl, rfl⟩, rfl⟩
  | ensureTable => exact admitted.elim
  | createTable sql => exact admitted.elim
  | selectIds => exact admitted.elim
  | commit => exact admitted.elim
  | rollback => exact admitted.elim

/-- The commit that makes the record durable. -/
theorem Progress.Stands.inserted_follows {connection : Connection} {op : MigrationOp}
    (stands : (Progress.inserted finished migration rest).Stands connection)
    (admitted : (Progress.inserted finished migration rest).admits op) :
    Follows (.inserted finished migration rest) op (migrationServer connection op).1
      (migrationServer connection op).2 := by
  obtain ⟨ordered, before, migrated, _, opened⟩ := stands
  cases op with
  | commit =>
      have advanced := migrated.advance (later_differ ordered)
      rw [migrationServer, Connection.current, opened]
      refine ⟨trivial, ⟨rfl, ?_, advanced⟩, rfl⟩
      rw [List.append_assoc, List.singleton_append, ordered]
  | ensureTable => exact admitted.elim
  | createTable sql => exact admitted.elim
  | selectIds => exact admitted.elim
  | insertMigration id name => exact admitted.elim
  | rollback => exact admitted.elim

/-- Any statement the watcher admits, executed or failed. -/
theorem Progress.Stands.follows {progress : Progress} {connection after : Connection}
    {op : MigrationOp} {reply : Except PyError (MigrationReply op)}
    (stands : progress.Stands connection) (admitted : progress.admits op)
    (answered : migrationHandler connection op reply after) :
    Follows progress op reply after := by
  cases answered with
  | inl served =>
      obtain ⟨rfl, rfl⟩ := Prod.ext_iff.mp served
      cases progress with
      | idle finished todo =>
          have closed : connection = connect connection.durable := by
            rw [connect, ← stands.1]
          rw [closed] at stands ⊢
          exact stands.idle_follows admitted
      | created finished migration rest =>
          have closed : connection = connect connection.durable := by
            rw [connect, ← stands.1]
          rw [closed] at stands ⊢
          exact stands.created_follows admitted
      | inserted finished migration rest => exact stands.inserted_follows admitted
      | torn migration =>
          cases op with
          | rollback => exact ⟨trivial, stands, rfl⟩
          | ensureTable => exact admitted.elim
          | createTable sql => exact admitted.elim
          | selectIds => exact admitted.elim
          | insertMigration id name => exact admitted.elim
          | commit => exact admitted.elim
  | inr failed =>
      obtain ⟨⟨error, rfl⟩, durable, opened⟩ := failed
      have kept := stands.of_failure durable opened op error admitted
      refine ⟨?_, kept.1, ?_⟩
      · cases progress <;> cases op <;> trivial
      · rw [kept.2]
        cases op <;> rfl

/-! ### The whole run -/

/-- A migration that the watcher waits for. -/
theorem apply_migration_conforms
    {exit : Except PyError Unit → Progress → Prop} (raises : ∀ error progress,
      exit (.error error) progress)
    (returns : exit (.ok ()) (.idle (finished ++ [migration]) rest)) :
    Conforms migrationSpec exit (applyMigration migration)
      (.idle finished (migration :: rest)) := by
  have undone : ∀ error progress, progress.admits .rollback →
      Conforms migrationSpec exit
        (if isSqliteError error then (do
          let _ ← execute .rollback
          .raised (migration.failed error) : MigrationProgram Unit)
        else .raised error) progress := by
    intro error progress admitted
    by_cases caught : isSqliteError error = true
    · rw [if_pos caught]
      refine ⟨admitted, ?_⟩
      intro reply _
      cases reply <;> exact raises _ _
    · rw [if_neg caught]
      exact raises _ _
  refine ⟨⟨migration, rest, rfl, rfl⟩, ?_⟩
  intro created _
  cases created with
  | error error => exact undone error _ trivial
  | ok created =>
      refine ⟨⟨rfl, rfl⟩, ?_⟩
      intro inserted _
      cases inserted with
      | error error => exact undone error _ trivial
      | ok inserted =>
          refine ⟨trivial, ?_⟩
          intro committed _
          cases committed with
          | error error => exact undone error _ trivial
          | ok committed => exact returns

theorem apply_unrecorded_conforms {recorded : List Nat}
    (unrecorded : ∀ migration ∈ todo, migration.id ∉ recorded) :
    Conforms migrationSpec (fun _ _ => True) (applyUnrecorded recorded todo)
      (.idle finished todo) := by
  induction todo generalizing finished with
  | nil => trivial
  | cons migration rest ih =>
      rw [applyUnrecorded, if_neg (unrecorded migration List.mem_cons_self), conforms_bind]
      apply apply_migration_conforms
      · exact fun _ _ => trivial
      · rw [conforms_bind]
        apply (ih (fun other member => unrecorded other (List.mem_cons_of_mem _ member))).mono
        intro outcome after _
        cases outcome <;> trivial

/-- The recorded migrations are passed over. -/
theorem apply_unrecorded_skips {recorded : List Nat}
    (known : ∀ migration ∈ finished, migration.id ∈ recorded) :
    applyUnrecorded recorded (finished ++ todo) = applyUnrecorded recorded todo := by
  induction finished with
  | nil => rfl
  | cons migration rest ih =>
      rw [List.cons_append, applyUnrecorded, if_pos (known migration List.mem_cons_self)]
      exact ih fun other member => known other (List.mem_cons_of_mem _ member)

theorem apply_migrations_conforms (ordered : finished ++ todo = migrations) :
    Conforms migrationSpec (fun _ _ => True) applyMigrations (.idle finished todo) := by
  have stays : ∀ {exit : Except PyError Unit → Progress → Prop},
      (∀ outcome, exit outcome (.idle finished todo)) →
        Conforms migrationSpec exit ensureMigrationsTable (.idle finished todo) := by
    intro exit ends
    refine ⟨trivial, ?_⟩
    intro made _
    have unmoved : migrationSpec.observe (.idle finished todo) .ensureTable made =
        .idle finished todo := by cases todo <;> rfl
    rw [unmoved]
    cases made with
    | error error => exact ends _
    | ok made =>
        refine ⟨trivial, ?_⟩
        intro committed _
        have still : migrationSpec.observe (.idle finished todo) .commit committed =
            .idle finished todo := by cases todo <;> rfl
        rw [still]
        cases committed <;> exact ends _
  rw [applyMigrations, conforms_bind]
  apply stays
  intro outcome
  cases outcome with
  | error error => trivial
  | ok ensured =>
      simp only [appliedMigrationIds, Program.bind_bind, conforms_bind]
      apply stays
      intro again
      cases again with
      | error error => trivial
      | ok again =>
          refine ⟨trivial, ?_⟩
          intro selected expected
          have unmoved : migrationSpec.observe (.idle finished todo) .selectIds selected =
              .idle finished todo := by cases todo <;> rfl
          rw [unmoved]
          cases selected with
          | error error => trivial
          | ok ids =>
              have loop : Conforms migrationSpec (fun _ _ => True)
                  (applyUnrecorded ids sortedMigrations) (.idle finished todo) := by
                rw [sorted_migrations, ← ordered, apply_unrecorded_skips expected.1]
                exact apply_unrecorded_conforms expected.2
              exact loop

/-- Where the connection is at any point of any run. -/
theorem migrations_watched {events : List (Event MigrationOp MigrationReply PyError)}
    {left : MigrationProgram (List Nat)} {connection : Connection}
    (ordered : finished ++ todo = migrations) (migrated : Migrated finished todo database)
    (run : Steps migrationHandler applyMigrations (connect database) events left connection) :
    ∃ progress : Progress, progress.Stands connection ∧
      progress.inWindow = windowOpen events := by
  have monitored := run.monitored
    (fun current earlier =>
      (migrationSpec.watched (.idle finished todo) earlier).Stands current ∧
        (migrationSpec.watched (.idle finished todo) earlier).inWindow = windowOpen earlier)
    (apply_migrations_conforms ordered) ⟨⟨rfl, ordered, migrated⟩, rfl⟩ (by
      intro current earlier op reply answered linked admitted handled
      have follows := linked.1.follows admitted handled
      refine ⟨follows.expected, ?_⟩
      rw [watched_append_one, window_open_append_one, ← linked.2]
      exact ⟨follows.stands, follows.window⟩)
  exact ⟨_, monitored.2⟩

/-! ### The next start -/

theorem apply_migration_serves (absent : migration.Absent database)
    (tracked : database.recorded = some database.rows) :
    (applyMigration migration).run migrationServer (connect database) =
      (.ok (), connect
        ((database.create migration.sql).record migration.id migration.name)) := by
  let created := database.create migration.sql
  have creates : (execute (.createTable migration.sql)).run migrationServer (connect database) =
      (.ok (), connect created) := by
    rw [execute, run_perform, migrationServer, connect_current, if_neg absent.1]
    rfl
  have inserts : (execute (.insertMigration migration.id migration.name)).run migrationServer
      (connect created) =
        (.ok (), ⟨created, some (created.record migration.id migration.name)⟩) := by
    have held : created.recorded = some database.rows := tracked
    have fresh : migration.id ∉ database.rows.map Prod.fst := absent.2
    rw [execute, run_perform]
    simp only [migrationServer, connect_current, held, if_neg fresh]
    rfl
  rw [applyMigration, Program.rescue, run_attempt, run_bind_ok creates, run_bind_ok inserts,
    execute, run_perform]
  rfl

theorem apply_unrecorded_serves {recorded : List Nat}
    (migrated : Migrated finished todo database) (ordered : finished ++ todo = migrations)
    (unrecorded : ∀ migration ∈ todo, migration.id ∉ recorded)
    (tracked : database.recorded = some database.rows) :
    (applyUnrecorded recorded todo).run migrationServer (connect database) =
      (.ok (todo.map Migration.id), connect (database.applying todo)) ∧
        Migrated migrations [] (database.applying todo) := by
  induction todo generalizing finished database with
  | nil =>
      rw [List.append_nil] at ordered
      exact ⟨rfl, ordered ▸ migrated⟩
  | cons migration rest ih =>
      have one := apply_migration_serves (migrated.absent migration List.mem_cons_self) tracked
      have later := ih (migrated.advance (later_differ ordered))
        (by rw [List.append_assoc, List.singleton_append, ordered])
        (fun other member => unrecorded other (List.mem_cons_of_mem _ member)) rfl
      refine ⟨?_, later.2⟩
      rw [applyUnrecorded, if_neg (unrecorded migration List.mem_cons_self), run_bind_ok one,
        run_bind_ok later.1]
      rfl

/-- A start that no crash or failure interrupts. -/
theorem apply_migrations_serves (ordered : finished ++ todo = migrations)
    (migrated : Migrated finished todo database) :
    applyMigrations.run migrationServer (connect database) =
      (.ok (todo.map Migration.id), connect (database.ensured.applying todo)) ∧
        Migrated migrations [] (database.ensured.applying todo) := by
  have ensures : ∀ current : Database,
      ensureMigrationsTable.run migrationServer (connect current) =
        (.ok (), connect current.ensured) := fun _ => rfl
  have selects : appliedMigrationIds.run migrationServer (connect database.ensured) =
      (.ok database.ids, connect database.ensured) := by
    rw [appliedMigrationIds, run_bind_ok (ensures _)]
    rfl
  have loop := apply_unrecorded_serves migrated.ensured ordered
    (fun migration member => (migrated.absent migration member).2) rfl
  refine ⟨?_, loop.2⟩
  rw [applyMigrations, run_bind_ok (ensures _), run_bind_ok selects, sorted_migrations, ← ordered,
    apply_unrecorded_skips fun migration member => (migrated.applied migration member).2]
  exact loop.1

/-- The migrations of which the database has nothing. -/
def Database.remaining (database : Database) : List Migration :=
  migrations.filter (fun migration => migration.Absent database)

theorem Migrated.remaining (ordered : finished ++ todo = migrations)
    (migrated : Migrated finished todo database) : database.remaining = todo := by
  have none : finished.filter (fun migration => migration.Absent database) = [] := by
    apply List.filter_eq_nil_iff.mpr
    intro migration member absent
    exact (of_decide_eq_true absent).1 (migrated.applied migration member).1
  have all : todo.filter (fun migration => migration.Absent database) = todo := by
    apply List.filter_eq_self.mpr
    intro migration member
    exact decide_eq_true (migrated.absent migration member)
  rw [Database.remaining, ← ordered, List.filter_append, none, all, List.nil_append]

/-- A prefix of the migrations is applied, and nothing of the others is there. -/
def PrefixApplied (database : Database) : Prop :=
  ∃ finished todo, finished ++ todo = migrations ∧ Migrated finished todo database

end KarmaSakshi.Gateway

namespace KarmaSakshi.Guarantees

open EffectProgram KarmaSakshi.Domain KarmaSakshi.Gateway

set_option autoImplicit false

variable {database : Database} {connection : Connection}
  {events : List (Event MigrationOp MigrationReply PyError)}
  {left : MigrationProgram (List Nat)}

/-- What is on disk has every migration whole or not at all, and the next start applies
those that remain, each once and in order. -/
structure CrashAtomic (database : Database) : Prop where
  whole : ∀ migration ∈ migrations, migration.Applied database ∨ migration.Absent database
  completes : applyMigrations.run migrationServer (connect database) =
    (.ok (database.remaining.map Migration.id),
      connect (database.ensured.applying database.remaining))
  current : ∀ migration ∈ migrations,
    migration.Applied (database.ensured.applying database.remaining)

theorem crash_atomic_of_prefix (applied : PrefixApplied database) : CrashAtomic database := by
  obtain ⟨finished, todo, ordered, migrated⟩ := applied
  have next := apply_migrations_serves ordered migrated
  have remains := migrated.remaining ordered
  constructor
  · intro migration member
    rw [← ordered] at member
    cases List.mem_append.mp member with
    | inl done => exact Or.inl (migrated.applied migration done)
    | inr missing => exact Or.inr (migrated.absent migration missing)
  · rw [remains]
    exact next.1
  · rw [remains]
    exact next.2.applied

theorem torn_not_whole (migration : Migration) (member : migration ∈ migrations)
    (torn : migration.Torn database) : ¬ CrashAtomic database := by
  intro atomic
  cases atomic.whole migration member with
  | inl applied => exact torn.2 applied.2
  | inr absent => exact absent.1 torn.1

/-- After a crash or failure at any point of any run from an applied prefix, the migrations
are whole and the next start completes exactly when no `CREATE TABLE` is left whose record
was not committed. -/
theorem migrations_crash_atomic_iff (applied : PrefixApplied database)
    (run : Steps migrationHandler applyMigrations (connect database) events left connection) :
    CrashAtomic connection.durable ↔ windowOpen events = false := by
  obtain ⟨finished, todo, ordered, migrated⟩ := applied
  obtain ⟨progress, stands, window⟩ := migrations_watched ordered migrated run
  rw [← window]
  cases progress with
  | idle done rest =>
      refine iff_of_true ?_ rfl
      exact crash_atomic_of_prefix ⟨done, rest, stands.2.1, stands.2.2⟩
  | created done migration rest =>
      obtain ⟨_, whole, before, stood, holds⟩ := stands
      refine iff_of_false (torn_not_whole migration ?_ ?_) Bool.false_ne_true.symm
      · simp [← whole]
      · rw [holds]
        exact stood.torn
  | inserted done migration rest =>
      obtain ⟨whole, before, stood, holds, _⟩ := stands
      refine iff_of_false (torn_not_whole migration ?_ ?_) Bool.false_ne_true.symm
      · simp [← whole]
      · rw [holds]
        exact stood.torn
  | torn migration => exact iff_of_false (torn_not_whole migration stands.1 stands.2) Bool.false_ne_true.symm

/-! ### A new database -/

def newDatabase : Database := ⟨[], none⟩

theorem new_database_prefix : PrefixApplied newDatabase := by
  refine ⟨[], migrations, rfl, ?_, ?_⟩
  · exact fun _ member => absurd member List.not_mem_nil
  · decide

/-- The first start, stopped after so many statements. -/
def firstStart (statements : Nat) :=
  applyMigrations.replay migrationServer (connect newDatabase) statements

/-- Stopped after the first commit of a migration: the next start does the other four. -/
theorem stopped_after_commit_completes : CrashAtomic (firstStart 8).world.durable :=
  (migrations_crash_atomic_iff new_database_prefix
    (Program.replay_steps migration_server_serves _ _ 8)).mpr (by decide)

/-- Stopped after the first `CREATE TABLE`: every later start fails on it. -/
theorem stopped_after_create_never_starts :
    ∃ events left connection,
      Steps migrationHandler applyMigrations (connect newDatabase) events left connection ∧
        ¬ CrashAtomic connection.durable ∧
          (applyMigrations.run migrationServer (connect connection.durable)).1 =
            .error ⟨.gatewayMigration, "migration 1 (create_organizations) failed to apply: " ++
              "table organizations already exists"⟩ := by
  refine ⟨_, _, _, Program.replay_steps migration_server_serves applyMigrations
    (connect newDatabase) 6, ?_, ?_⟩
  · intro atomic
    have whole := atomic.whole _ (List.mem_cons_self : _ ∈ migrations)
    revert whole
    decide
  · decide

end KarmaSakshi.Guarantees
