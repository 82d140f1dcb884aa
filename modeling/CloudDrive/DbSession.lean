import CloudDrive.StatementRuns

/-!
# A database session

What the calls of a data access function do when no other session runs a
statement in between.  The environment may let any call fail; `ROLLBACK`
restores the tables of `START TRANSACTION`, and a failed `COMMIT` is not
applied.
-/

namespace CloudDrive

structure DbSession where
  database : Database
  /-- The tables at the start of the open transaction. -/
  saved : Option Tables
  result : List (List Cell)
  insertId : UInt64
  duplicate : Bool

/-- Whether the environment lets a call fail, and with which error. -/
structure Fault where
  fails : Bool
  duplicate : Bool

namespace DbSession

/-- A session that is given a database. -/
def start (database : Database) : DbSession :=
  ⟨database, none, [], 0, false⟩

def rollBack (session : DbSession) : DbSession :=
  { session with
    database := { session.database with
      tables := session.saved.getD session.database.tables }
    saved := none }

def query (dialect : Dialect) (fault : Fault) (sql : Bytes)
    (session : DbSession) : Bool × DbSession :=
  match dialect.run sql session.database with
  | .control .rollback => (!fault.fails, session.rollBack)
  | reply =>
      if fault.fails then
        (false, { session with duplicate := fault.duplicate })
      else
        match reply with
        | .failed duplicate counters =>
            (false,
              { session with
                database := { session.database with counters }
                duplicate })
        | .rows rows => (true, { session with result := rows })
        | .changed insertId database =>
            (true, { session with database, insertId })
        | .control .startTransaction =>
            (true, { session with saved := some session.database.tables })
        | .control .commit => (true, { session with saved := none })
        | .control _ => (true, session)

def perform (dialect : Dialect) (fault : Fault) :
    (op : DbOp) → DbSession → DbOp.Answer op × DbSession
  | .acquire, session => (!fault.fails, session)
  | .release, session => ((), session)
  | .query sql, session => session.query dialect fault sql
  | .storeResult, session =>
      (if fault.fails then none else some session.result, session)
  | .insertId, session => (session.insertId, session)
  | .errnoIsDuplicate, session => (session.duplicate, session)

/-- What a data access function returns, and the database it leaves. -/
def call {α : Type} (dialect : Dialect) (program : DbProgram α)
    (faults : Nat → Fault) (database : Database) : α × Database :=
  let (value, session) :=
    program.eval (perform dialect) faults (start database)
  (value, session.database)

/-- Nothing but a counter has moved. -/
def Advances (before : Database) (counters : Counters) : Prop :=
  before.counters.file ≤ counters.file ∧ before.counters.path ≤ counters.path

/-- A transaction that began with the tables of `base` has come to
`database`. -/
structure Opened (base database : Database) (session : DbSession) : Prop where
  saved : session.saved = some base.tables
  current : session.database = database
  advances : Advances base database.counters

/-- No transaction is open. -/
structure Closed (database : Database) (session : DbSession) : Prop where
  saved : session.saved = none
  current : session.database = database

/-- The session is closed, and the outcome is as said. -/
def Ends {α : Type} (outcome : α → Database → Prop) (value : α)
    (session : DbSession) : Prop :=
  session.saved = none ∧ outcome value session.database

/-- Every evaluation of a function closes its transaction and has the
outcome. -/
def Returns {α : Type} (dialect : Dialect) (program : DbProgram α)
    (database : Database) (outcome : α → Database → Prop) : Prop :=
  program.Always (perform dialect) (start database) (Ends outcome)

/-- What a statement of a transaction leads to if the environment does not let
it fail. -/
def Succeeds (base database : Database) (holds : DbSession → Prop) :
    Reply → Prop
  | .failed _ counters => Advances database counters
  | .rows rows =>
      ∀ after, Opened base database after → after.result = rows → holds after
  | .changed insertId changed =>
      Advances database changed.counters ∧
        ∀ after, Opened base changed after → after.insertId = insertId →
          holds after
  | .control .commit => ∀ after, Closed database after → holds after
  | .control _ => False

theorem advances_refl (database : Database) :
    Advances database database.counters := ⟨Nat.le_refl _, Nat.le_refl _⟩

theorem Advances.trans {before middle : Database} {counters : Counters}
    (first : Advances before middle.counters)
    (second : Advances middle counters) : Advances before counters :=
  ⟨first.1.trans second.1, first.2.trans second.2⟩

theorem closed_start (database : Database) :
    Closed database (start database) := ⟨rfl, rfl⟩

theorem Closed.ends {α : Type} {outcome : α → Database → Prop} {value : α}
    {database : Database} {session : DbSession}
    (closed : Closed database session) (holds : outcome value database) :
    Ends outcome value session := by
  obtain ⟨saved, rfl⟩ := closed
  exact ⟨saved, holds⟩

theorem Returns.call {α : Type} {dialect : Dialect} {program : DbProgram α}
    {database : Database} {outcome : α → Database → Prop}
    (returns : Returns dialect program database outcome)
    (faults : Nat → Fault) :
    outcome (DbSession.call dialect program faults database).1
      (DbSession.call dialect program faults database).2 :=
  (Prog.Always.eval returns faults).2

section Rules

variable {dialect : Dialect} {session : DbSession} {base database : Database}
  {α : Type} {post : α → DbSession → Prop} {outcome : α → Database → Prop}

theorem always_acquire {next : Bool → DbProgram α}
    (fails : (next false).Always (perform dialect) session post)
    (works : (next true).Always (perform dialect) session post) :
    Prog.Always (perform dialect) (.call .acquire next) session post := by
  rintro ⟨_ | _, duplicate⟩
  · exact works
  · exact fails

theorem always_storeResult {next : Option (List (List Cell)) → DbProgram α}
    {rows : List (List Cell)} (result : session.result = rows)
    (fails : (next none).Always (perform dialect) session post)
    (works : (next (some rows)).Always (perform dialect) session post) :
    Prog.Always (perform dialect) (.call .storeResult next) session post := by
  subst result
  rintro ⟨_ | _, duplicate⟩
  · exact works
  · exact fails

theorem always_insertId {next : UInt64 → DbProgram α} {insertId : UInt64}
    (last : session.insertId = insertId)
    (works : (next insertId).Always (perform dialect) session post) :
    Prog.Always (perform dialect) (.call .insertId next) session post := by
  subst last
  exact fun _ => works

theorem always_releaseWith {value : α} (holds : post value session) :
    (releaseWith value).Always (perform dialect) session post :=
  fun _ => holds

/-- The error exit restores the tables. -/
theorem always_rollbackWith {value : α} (opened : Opened base database session)
    (restored : ∀ kept, base.Kept kept → outcome value kept) :
    (rollbackWith value).Always (perform dialect) session (Ends outcome) := by
  intro fault
  change Prog.Always (perform dialect) (releaseWith value)
    (session.query dialect fault (statementText 1024 rollbackText)).2 _
  have effect : (session.query dialect fault
      (statementText 1024 rollbackText)).2 = session.rollBack := by
    rw [query, dialect.run_rollback]
    rfl
  rw [effect]
  have advances := opened.advances
  rw [← opened.current] at advances
  refine always_releaseWith ⟨rfl, restored _ ⟨?_, advances.1, advances.2⟩⟩
  simp [rollBack, opened.saved]

/-- The beginning of a transaction. -/
theorem always_begin {value : α} {next : DbProgram α}
    (restored : ∀ kept, database.Kept kept → outcome value kept)
    (works : ∀ session, Opened database database session →
      next.Always (perform dialect) session (Ends outcome)) :
    Returns dialect
      (.call .acquire fun acquired => if !acquired then .done value
        else .call (.query (statementText 1024 startTransactionText))
          fun begun => if !begun then releaseWith value else next)
      database outcome := by
  have unchanged : outcome value database :=
    restored _ ⟨rfl, Nat.le_refl _, Nat.le_refl _⟩
  refine always_acquire ((closed_start _).ends unchanged) fun fault => ?_
  change Prog.Always (perform dialect)
    (if !((start database).query dialect fault _).1 then releaseWith value
      else next) ((start database).query dialect fault _).2 _
  rw [query, dialect.run_startTransaction]
  obtain ⟨_ | _, duplicate⟩ := fault
  · exact works _ ⟨rfl, rfl, advances_refl _⟩
  · exact always_releaseWith ⟨rfl, unchanged⟩

/-- A statement of a transaction that is rolled back if it fails. -/
theorem always_statement {sql : Bytes} {value : α} {next : DbProgram α}
    (opened : Opened base database session)
    (restored : ∀ kept, base.Kept kept → outcome value kept)
    (works : Succeeds base database
      (fun after => next.Always (perform dialect) after (Ends outcome))
      (dialect.run sql database)) :
    Prog.Always (perform dialect)
      (.call (.query sql) fun done => if !done then rollbackWith value else next)
      session (Ends outcome) := by
  obtain ⟨saved, rfl, advances⟩ := opened
  intro fault
  change Prog.Always (perform dialect)
    (if !(session.query dialect fault sql).1 then rollbackWith value else next)
    (session.query dialect fault sql).2 _
  have fails : ∀ counters duplicate, Advances session.database counters →
      (rollbackWith value).Always (perform dialect)
        { session with
          database := ⟨session.database.tables, counters⟩, duplicate }
        (Ends outcome) :=
    fun counters duplicate moved =>
      always_rollbackWith ⟨saved, rfl, advances.trans moved⟩ restored
  rw [query]
  cases reply : dialect.run sql session.database with
  | failed duplicate counters =>
      rw [reply] at works
      obtain ⟨_ | _, other⟩ := fault
      · exact fails counters duplicate works
      · exact fails _ other (advances_refl _)
  | rows rows =>
      rw [reply] at works
      obtain ⟨_ | _, other⟩ := fault
      · exact works _ ⟨saved, rfl, advances⟩ rfl
      · exact fails _ other (advances_refl _)
  | changed insertId after =>
      rw [reply] at works
      obtain ⟨_ | _, other⟩ := fault
      · exact works.2 _ ⟨saved, rfl, advances.trans works.1⟩ rfl
      · exact fails _ other (advances_refl _)
  | control command =>
      rw [reply] at works
      cases command with
      | commit =>
          obtain ⟨_ | _, other⟩ := fault
          · exact works _ ⟨rfl, rfl⟩
          · exact fails _ other (advances_refl _)
      | _ => exact works.elim

/-- The commit that ends a transaction. -/
theorem always_commit {failure value : α}
    (opened : Opened base database session)
    (restored : ∀ kept, base.Kept kept → outcome failure kept)
    (works : outcome value database) :
    Prog.Always (perform dialect)
      (.call (.query (statementText 1024 commitText)) fun done =>
        if !done then rollbackWith failure else releaseWith value)
      session (Ends outcome) := by
  refine always_statement opened restored ?_
  rw [dialect.run_commit]
  exact fun after closed => always_releaseWith (closed.ends works)

/-- A statement of its own, run by `database_pool_execute`. -/
theorem databasePoolExecute_returns {sql : Bytes}
    {outcome : Int → Database → Prop}
    (fails : ∀ value kept, value ≠ 0 → database.Kept kept → outcome value kept)
    (works : match dialect.run sql database with
      | .failed _ counters => Advances database counters
      | .rows _ => outcome 0 database
      | .changed _ changed => outcome 0 changed
      | .control _ => False) :
    Returns dialect (databasePoolExecute sql) database outcome := by
  refine always_acquire ((closed_start _).ends ?_) fun fault => ?_
  · exact fails _ _ (by decide) ⟨rfl, Nat.le_refl _, Nat.le_refl _⟩
  have refused : ∀ counters duplicate, Advances database counters →
      Prog.Always (perform dialect) (do
          Prog.ask DbOp.release
          if ← Prog.ask DbOp.errnoIsDuplicate then pure 1 else pure (-1))
        { start database with
          database := ⟨database.tables, counters⟩, duplicate }
        (Ends outcome) := by
    intro counters duplicate moved _ _
    have kept : database.Kept ⟨database.tables, counters⟩ :=
      ⟨rfl, moved.1, moved.2⟩
    cases duplicate
    · exact ⟨rfl, fails (-1) _ (by decide) kept⟩
    · exact ⟨rfl, fails 1 _ (by decide) kept⟩
  change Prog.Always (perform dialect)
    (if !((start database).query dialect fault sql).1 then _ else releaseWith 0)
    ((start database).query dialect fault sql).2 _
  rw [query]
  cases reply : dialect.run sql (start database).database with
  | failed duplicate counters =>
      rw [show dialect.run sql database = _ from reply] at works
      obtain ⟨_ | _, other⟩ := fault
      · exact refused counters duplicate works
      · exact refused _ other (advances_refl _)
  | rows rows =>
      rw [show dialect.run sql database = _ from reply] at works
      obtain ⟨_ | _, other⟩ := fault
      · exact always_releaseWith ⟨rfl, works⟩
      · exact refused _ other (advances_refl _)
  | changed insertId after =>
      rw [show dialect.run sql database = _ from reply] at works
      obtain ⟨_ | _, other⟩ := fault
      · exact always_releaseWith ⟨rfl, works⟩
      · exact refused _ other (advances_refl _)
  | control command =>
      rw [show dialect.run sql database = _ from reply] at works
      exact works.elim

/-- A query of its own, run by `database_pool_query`. -/
theorem always_databasePoolQuery {sql : Bytes}
    {post : Option (List (List Cell)) → DbSession → Prop}
    (closed : Closed database session)
    (reads : (dialect.run sql database).Reads database)
    (fails : ∀ after, Closed database after → post none after)
    (works : ∀ rows after, dialect.run sql database = .rows rows →
      Closed database after → post (some rows) after) :
    (databasePoolQuery sql).Always (perform dialect) session post := by
  obtain ⟨saved, rfl⟩ := closed
  refine always_acquire (fails _ ⟨saved, rfl⟩) fun fault => ?_
  change Prog.Always (perform dialect)
    (if !(session.query dialect fault sql).1 then releaseWith none else
      Prog.ask DbOp.storeResult >>= releaseWith)
    (session.query dialect fault sql).2 post
  rw [query]
  cases reply : dialect.run sql session.database with
  | failed duplicate counters =>
      rw [reply] at reads
      obtain rfl : counters = session.database.counters := reads
      obtain ⟨_ | _, other⟩ := fault
      · exact always_releaseWith (fails _ ⟨saved, rfl⟩)
      · exact always_releaseWith (fails _ ⟨saved, rfl⟩)
  | rows rows =>
      obtain ⟨_ | _, other⟩ := fault
      · refine always_storeResult rfl ?_ ?_
        · exact always_releaseWith (fails _ ⟨saved, rfl⟩)
        · exact always_releaseWith (works rows _ reply ⟨saved, rfl⟩)
      · exact always_releaseWith (fails _ ⟨saved, rfl⟩)
  | changed insertId after =>
      rw [reply] at reads
      exact reads.elim
  | control command =>
      rw [reply] at reads
      exact reads.elim

end Rules

end DbSession

end CloudDrive
