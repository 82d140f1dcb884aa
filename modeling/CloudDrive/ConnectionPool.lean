import CloudDrive.DaoPrograms
import CloudDrive.Interleaving

/-!
# The connections of the database pool

The array of `database_pool.c` and the data access functions that take
connections from it and give them back, in any number and any interleaving,
whatever the server answers.
-/

namespace CloudDrive

/-- `database_pool_t`: an array of `size` pointers, which no access checks. -/
structure ConnectionPool where
  connections : Nat → Option Nat
  size : Nat
  available : Nat

namespace ConnectionPool

/-- `database_pool_create`; the connections are numbered as they are opened. -/
def create (size : Nat) : ConnectionPool where
  connections := fun index => if index < size then some index else none
  size
  available := size

/-- `database_pool_acquire`; nothing is answered while the caller waits. -/
def acquire (pool : ConnectionPool) : Option (Option Nat × ConnectionPool) :=
  match pool.available with
  | 0 => none
  | available + 1 =>
      some (pool.connections available,
        { pool with
          connections := Function.update pool.connections available none
          available })

def release (pool : ConnectionPool) : Option Nat → ConnectionPool
  | none => pool
  | some conn =>
      { pool with
        connections := Function.update pool.connections pool.available (some conn)
        available := pool.available + 1 }

end ConnectionPool

/-- Whether a transaction is open after a statement of this text; the transaction
is over after `ROLLBACK`, whatever it returns. -/
def transactionAfter (sql : Bytes) (succeeds : Bool) (isOpen : Bool) : Bool :=
  if ascii "START" <+: sql ∨ ascii "BEGIN" <+: sql then isOpen || succeeds
  else if ascii "ROLLBACK" <+: sql then false
  else if ascii "COMMIT" <+: sql then isOpen && !succeeds
  else isOpen

/-- A call gets a connection or gives it back, perhaps with an open
transaction. -/
inductive ConnectionEvent where
  | acquired (call conn : Nat)
  | released (call conn : Nat) (isOpen : Bool)
deriving DecidableEq

namespace ConnectionEvent

def call : ConnectionEvent → Nat
  | acquired call _ => call
  | released call _ _ => call

/-- The connections that are held after an event. -/
def heldAfter (held : List Nat) : ConnectionEvent → List Nat
  | acquired _ conn => conn :: held
  | released _ conn _ => held.erase conn

end ConnectionEvent

/-- The pool, the server's view of the connections and the variable `conn` of
every call of a data access function. -/
structure PoolUse where
  pool : ConnectionPool
  isOpen : Nat → Bool
  conn : Nat → Option Nat
  log : List ConnectionEvent

/-- What the server answers. -/
structure ServerAnswer where
  succeeds : Bool
  stored : Option (List (List Cell))
  insertId : UInt64
  duplicate : Bool

namespace PoolUse

def create (size : Nat) : PoolUse where
  pool := .create size
  isOpen := fun _ => false
  conn := fun _ => none
  log := []

/-- The connections that some call holds. -/
def held (use : PoolUse) : List Nat := use.log.foldl ConnectionEvent.heldAfter []

/-- The events of one call. -/
def eventsOf (use : PoolUse) (call : Nat) : List ConnectionEvent :=
  use.log.filter fun event => event.call = call

def perform (call : Nat) (answer : ServerAnswer) :
    (op : DbOp) → PoolUse → Option (DbOp.Answer op × PoolUse)
  | .acquire, use =>
      match use.pool.acquire with
      | none => none
      | some (conn, pool) =>
          some (conn.isSome,
            { use with
              pool
              conn := Function.update use.conn call conn
              log := use.log ++ (conn.map (.acquired call)).toList })
  | .release, use =>
      some ((),
        { use with
          pool := use.pool.release (use.conn call)
          log := use.log ++ ((use.conn call).map fun conn =>
            .released call conn (use.isOpen conn)).toList })
  | .query sql, use =>
      some (answer.succeeds,
        { use with
          isOpen := match use.conn call with
            | none => use.isOpen
            | some conn =>
                Function.update use.isOpen conn
                  (transactionAfter sql answer.succeeds (use.isOpen conn)) })
  | .storeResult, use => some (answer.stored, use)
  | .insertId, use => some (answer.insertId, use)
  | .errnoIsDuplicate, use => some (answer.duplicate, use)

end PoolUse

/-- A call of a data access function. -/
inductive DaoCall where
  | pathGetNodeId (userId : UInt64) (virtualPath : Bytes)
  | pathInsertDir (userId : UInt64) (targetPath : Bytes) (parentId : UInt64)
      (fileName : Bytes)
  | pathDirHasChild (userId parentId : UInt64)
  | pathRmdir (targetDirId : UInt64)
  | pathGetLsDir (userId parentId : UInt64)
  | rmFile (userId pathId : UInt64)
  | fileFindByHash (sha256Hex : Bytes) (fileSize : UInt64)
  | linkExistingFile (userId : UInt64) (targetPath : Bytes) (parentId : UInt64)
      (fileName : Bytes) (fileId : UInt64)
  | createFileWithPath (userId : UInt64) (targetPath : Bytes) (parentId : UInt64)
      (fileName sha256Hex : Bytes) (fileSize : UInt64)
  | getFileMeta (stale : Bytes) (userId : UInt64) (targetPath : Bytes)
  | authRegister (username passwordHash : Bytes)
  | authGetLoginInfo (username : Bytes)

namespace DaoCall

def ignoring {α : Type} (program : DbProgram α) : DbProgram Unit := do
  let _ ← program
  pure ()

def program : DaoCall → DbProgram Unit
  | pathGetNodeId userId virtualPath => ignoring (daoPathGetNodeId userId virtualPath)
  | pathInsertDir userId targetPath parentId fileName =>
      ignoring (daoPathInsertDir userId targetPath parentId fileName)
  | pathDirHasChild userId parentId => ignoring (daoPathDirHasChild userId parentId)
  | pathRmdir targetDirId => ignoring (daoPathRmdir targetDirId)
  | pathGetLsDir userId parentId => ignoring (daoPathGetLsDir userId parentId)
  | rmFile userId pathId => ignoring (daoRmFile userId pathId)
  | fileFindByHash sha256Hex fileSize =>
      ignoring (daoFileFindByHash sha256Hex fileSize)
  | linkExistingFile userId targetPath parentId fileName fileId =>
      ignoring (daoLinkExistingFile userId targetPath parentId fileName fileId)
  | createFileWithPath userId targetPath parentId fileName sha256Hex fileSize =>
      ignoring
        (daoCreateFileWithPath userId targetPath parentId fileName sha256Hex fileSize)
  | getFileMeta stale userId targetPath =>
      ignoring (daoGetFileMeta stale userId targetPath)
  | authRegister username passwordHash => ignoring (daoAuthRegister username passwordHash)
  | authGetLoginInfo username => ignoring (daoAuthGetLoginInfo username)

end DaoCall

/-- What a call has done with the pool so far. -/
inductive ConnectionPhase where
  | fresh
  /-- `database_pool_acquire` has returned a null pointer. -/
  | refused
  | holding (isOpen : Bool)
  | returned

namespace ConnectionPhase

/-- A connection is asked for once, used while it is held, and given back without
an open transaction. -/
def Allows : ConnectionPhase → DbOp → Prop
  | fresh, .acquire => True
  | holding _, .query _ => True
  | holding _, .storeResult => True
  | holding _, .insertId => True
  | holding isOpen, .release => isOpen = false
  | returned, .errnoIsDuplicate => True
  | _, _ => False

def learn (phase : ConnectionPhase) : (op : DbOp) → DbOp.Answer op → ConnectionPhase
  | .acquire, succeeds => if succeeds then .holding false else .refused
  | .release, _ => .returned
  | .query sql, succeeds =>
      match phase with
      | holding isOpen => .holding (transactionAfter sql succeeds isOpen)
      | _ => phase
  | .storeResult, _ | .insertId, _ | .errnoIsDuplicate, _ => phase

/-- The call has no connection. -/
def Over : ConnectionPhase → Prop
  | refused | returned => True
  | _ => False

def Holding : ConnectionPhase → Prop
  | holding _ => True
  | _ => False

variable {phase : ConnectionPhase}

theorem Allows.acquire (allowed : phase.Allows .acquire) : phase = .fresh := by
  cases phase with
  | fresh => rfl
  | refused | holding | returned => exact allowed.elim

theorem Allows.release (allowed : phase.Allows .release) : phase = .holding false := by
  cases phase with
  | holding isOpen => exact congrArg holding allowed
  | fresh | refused | returned => exact allowed.elim

theorem Allows.query {sql : Bytes} (allowed : phase.Allows (.query sql)) :
    ∃ isOpen, phase = .holding isOpen := by
  cases phase with
  | holding isOpen => exact ⟨isOpen, rfl⟩
  | fresh | refused | returned => exact allowed.elim

end ConnectionPhase

/-- The program keeps to the discipline and ends without a connection. -/
abbrev Disciplined {α : Type} (phase : ConnectionPhase) (program : DbProgram α) : Prop :=
  program.Obeys ConnectionPhase.Allows ConnectionPhase.learn phase
    fun _ phase => phase.Over

/-- The text opens, ends and changes no transaction. -/
def Plain (sql : Bytes) : Prop :=
  ∀ succeeds isOpen, transactionAfter sql succeeds isOpen = isOpen

section Programs

theorem plain_of_take {sql : Bytes}
    (word : sql.take 2 ∉ [ascii "ST", ascii "BE", ascii "RO", ascii "CO"]) :
    Plain sql := by
  have differs : ∀ keyword : Bytes,
      keyword.take 2 ∈ [ascii "ST", ascii "BE", ascii "RO", ascii "CO"] →
      2 ≤ keyword.length → ¬ keyword <+: sql := by
    rintro keyword listed long ⟨rest, rfl⟩
    rw [List.take_append_of_le_length long] at word
    exact word listed
  intro succeeds isOpen
  rw [transactionAfter, if_neg, if_neg, if_neg]
  · exact differs _ (by decide) (by decide)
  · exact differs _ (by decide) (by decide)
  · exact not_or.mpr ⟨differs _ (by decide) (by decide),
      differs _ (by decide) (by decide)⟩

theorem plain_statement {size : Nat} {bytes : Bytes} {rest : List Sql.Part}
    (room : 2 < size) (long : 2 ≤ bytes.length)
    (word : bytes.take 2 ∉ [ascii "ST", ascii "BE", ascii "RO", ascii "CO"]) :
    Plain (statementText size (.text bytes :: rest)) := by
  refine plain_of_take ?_
  rw [statementText, snprintf, List.take_take, Nat.min_eq_left (by omega), Sql.render,
    List.flatMap_cons, Sql.Part.render, List.take_append_of_le_length long]
  exact word

theorem transactionAfter_start (succeeds : Bool) :
    transactionAfter (statementText 1024 startTransactionText) succeeds false =
      succeeds := by
  cases succeeds <;> decide

theorem transactionAfter_rollback (succeeds isOpen : Bool) :
    transactionAfter (statementText 1024 rollbackText) succeeds isOpen = false := by
  cases succeeds <;> cases isOpen <;> decide

theorem transactionAfter_commit (isOpen : Bool) :
    transactionAfter (statementText 1024 commitText) true isOpen = false := by
  cases isOpen <;> decide

variable {α : Type} {isOpen : Bool}

theorem disciplined_releaseWith (result : α) :
    Disciplined (.holding false) (releaseWith result) := ⟨rfl, fun _ => trivial⟩

theorem disciplined_rollbackWith (result : α) :
    Disciplined (.holding isOpen) (rollbackWith result) := by
  refine ⟨trivial, fun succeeds => ?_⟩
  rw [ConnectionPhase.learn, transactionAfter_rollback]
  exact disciplined_releaseWith result

theorem disciplined_query {sql : Bytes} (plain : Plain sql) {rest : Bool → DbProgram α}
    (disciplined : ∀ succeeds, Disciplined (.holding isOpen) (rest succeeds)) :
    Disciplined (.holding isOpen) (Prog.ask (DbOp.query sql) >>= rest) := by
  refine ⟨trivial, fun succeeds => ?_⟩
  rw [ConnectionPhase.learn, plain succeeds isOpen]
  exact disciplined succeeds

/-- `START TRANSACTION` is followed by a release where it fails. -/
theorem disciplined_transaction {failed refused : α} {body : DbProgram α}
    (disciplined : Disciplined (.holding true) body) :
    Disciplined .fresh (do
      if !(← Prog.ask DbOp.acquire) then pure refused
      else if !(← runStatement startTransactionText) then releaseWith failed
      else body) := by
  refine ⟨trivial, fun succeeds => ?_⟩
  cases succeeds with
  | false => exact trivial
  | true =>
      refine ⟨trivial, fun started => ?_⟩
      change Disciplined (.holding (transactionAfter _ started false)) _
      rw [transactionAfter_start]
      cases started with
      | false => exact disciplined_releaseWith failed
      | true => exact disciplined

theorem disciplined_commit (failed result : α) :
    Disciplined (.holding true) (do
      if !(← runStatement commitText) then rollbackWith failed
      else releaseWith result) := by
  refine ⟨trivial, fun succeeds => ?_⟩
  cases succeeds with
  | false => exact disciplined_rollbackWith failed
  | true =>
      change Disciplined (.holding (transactionAfter _ true true)) _
      rw [transactionAfter_commit]
      exact disciplined_releaseWith result

theorem disciplined_databasePoolExecute {sql : Bytes} (plain : Plain sql) :
    Disciplined .fresh (databasePoolExecute sql) := by
  refine ⟨trivial, fun succeeds => ?_⟩
  cases succeeds with
  | false => exact trivial
  | true =>
      refine disciplined_query plain fun succeeds => ?_
      cases succeeds with
      | false =>
          refine ⟨rfl, fun _ => ⟨trivial, fun duplicate => ?_⟩⟩
          cases duplicate <;> exact trivial
      | true => exact disciplined_releaseWith 0

theorem disciplined_databasePoolQuery {sql : Bytes} (plain : Plain sql) :
    Disciplined .fresh (databasePoolQuery sql) := by
  refine ⟨trivial, fun succeeds => ?_⟩
  cases succeeds with
  | false => exact trivial
  | true =>
      refine disciplined_query plain fun succeeds => ?_
      cases succeeds with
      | false => exact disciplined_releaseWith none
      | true => exact ⟨trivial, fun stored => disciplined_releaseWith stored⟩

/-- What a function does with the stored rows of a query. -/
theorem disciplined_reading {sql : Bytes} (plain : Plain sql)
    {rest : Option (List (List Cell)) → DbProgram α}
    (reads : ∀ phase stored, ConnectionPhase.Over phase → Disciplined phase (rest stored)) :
    Disciplined .fresh (databasePoolQuery sql >>= rest) :=
  (disciplined_databasePoolQuery plain).bind fun stored phase isOver =>
    reads phase stored isOver

section Functions

variable (userId pathId fileId parentId fileSize : UInt64)
  (targetPath fileName sha256Hex : Bytes)

theorem disciplined_daoPathGetNodeId :
    Disciplined .fresh (daoPathGetNodeId userId targetPath) := by
  refine disciplined_reading (plain_statement (by decide) (by decide) (by decide))
    fun phase stored isOver => ?_
  rcases stored with _ | _ | ⟨row, rows⟩
  · exact isOver
  · exact isOver
  · dsimp only
    split_ifs <;> exact isOver

theorem disciplined_daoPathDirHasChild :
    Disciplined .fresh (daoPathDirHasChild userId parentId) := by
  refine disciplined_reading (plain_statement (by decide) (by decide) (by decide))
    fun phase stored isOver => ?_
  cases stored <;> exact isOver

theorem disciplined_daoPathGetLsDir :
    Disciplined .fresh (daoPathGetLsDir userId parentId) := by
  refine disciplined_reading (plain_statement (by decide) (by decide) (by decide))
    fun phase stored isOver => ?_
  cases stored <;> exact isOver

theorem disciplined_daoFileFindByHash :
    Disciplined .fresh (daoFileFindByHash sha256Hex fileSize) := by
  refine disciplined_reading (plain_statement (by decide) (by decide) (by decide))
    fun phase stored isOver => ?_
  rcases stored with _ | _ | ⟨row, rows⟩
  · exact isOver
  · exact isOver
  · dsimp only
    split_ifs <;> exact isOver

theorem disciplined_daoGetFileMeta (stale : Bytes) :
    Disciplined .fresh (daoGetFileMeta stale userId targetPath) := by
  refine disciplined_reading (plain_statement (by decide) (by decide) (by decide))
    fun phase stored isOver => ?_
  rcases stored with _ | _ | ⟨row, rows⟩
  · exact isOver
  · exact isOver
  · dsimp only
    split
    · split_ifs <;> exact isOver
    · exact isOver

theorem disciplined_daoAuthGetLoginInfo (username : Bytes) :
    Disciplined .fresh (daoAuthGetLoginInfo username) := by
  refine disciplined_reading (plain_statement (by decide) (by decide) (by decide))
    fun phase stored isOver => ?_
  rcases stored with _ | _ | ⟨row, rows⟩
  · exact isOver
  · exact isOver
  · dsimp only
    split
    · split_ifs <;> exact isOver
    · exact isOver

theorem disciplined_rmUnreferenced (row : List Cell) :
    Disciplined (.holding true) (rmUnreferenced fileId row) := by
  rw [rmUnreferenced]
  split
  · split_ifs
    · refine disciplined_query (plain_statement (by decide) (by decide) (by decide))
        fun succeeds => ?_
      cases succeeds with
      | false => exact disciplined_rollbackWith _
      | true => exact disciplined_commit _ _
    · exact disciplined_commit _ _
  · exact disciplined_rollbackWith _

theorem disciplined_rmReference :
    Disciplined (.holding true) (rmReference userId pathId fileId) := by
  refine disciplined_query (plain_statement (by decide) (by decide) (by decide))
    fun deleted => ?_
  cases deleted with
  | false => exact disciplined_rollbackWith _
  | true =>
      refine disciplined_query (plain_statement (by decide) (by decide) (by decide))
        fun decremented => ?_
      cases decremented with
      | false => exact disciplined_rollbackWith _
      | true =>
          refine disciplined_query
            (plain_statement (by decide) (by decide) (by decide)) fun selected => ?_
          cases selected with
          | false => exact disciplined_rollbackWith _
          | true =>
              refine ⟨trivial, fun stored => ?_⟩
              cases stored with
              | none => exact disciplined_rollbackWith _
              | some rows => exact disciplined_rmUnreferenced fileId _

theorem disciplined_daoRmFile : Disciplined .fresh (daoRmFile userId pathId) := by
  refine disciplined_transaction ?_
  refine disciplined_query (plain_statement (by decide) (by decide) (by decide))
    fun selected => ?_
  cases selected with
  | false => exact disciplined_rollbackWith _
  | true =>
      refine ⟨trivial, fun stored => ?_⟩
      cases stored with
      | none => exact disciplined_rollbackWith _
      | some rows =>
          change Disciplined (.holding true) (ite _ _ _)
          split_ifs
          · exact disciplined_rollbackWith _
          · exact disciplined_rmReference userId pathId _

theorem disciplined_insertFilePathAndCommit :
    Disciplined (.holding true)
      (insertFilePathAndCommit userId targetPath parentId fileName fileId) := by
  refine disciplined_query (plain_statement (by decide) (by decide) (by decide))
    fun inserted => ?_
  cases inserted with
  | false => exact disciplined_rollbackWith _
  | true => exact disciplined_commit _ _

theorem disciplined_daoLinkExistingFile :
    Disciplined .fresh
      (daoLinkExistingFile userId targetPath parentId fileName fileId) := by
  refine disciplined_transaction ?_
  refine disciplined_query (plain_statement (by decide) (by decide) (by decide))
    fun updated => ?_
  cases updated with
  | false => exact disciplined_rollbackWith _
  | true =>
      exact disciplined_insertFilePathAndCommit userId fileId parentId targetPath fileName

theorem disciplined_daoCreateFileWithPath :
    Disciplined .fresh
      (daoCreateFileWithPath userId targetPath parentId fileName sha256Hex fileSize) := by
  refine disciplined_transaction ?_
  refine disciplined_query (plain_statement (by decide) (by decide) (by decide))
    fun inserted => ?_
  cases inserted with
  | false => exact disciplined_rollbackWith _
  | true =>
      refine ⟨trivial, fun insertId => ?_⟩
      change Disciplined (.holding true) (ite (insertId = 0) _ _)
      split_ifs
      · exact disciplined_rollbackWith _
      · exact disciplined_insertFilePathAndCommit userId insertId parentId targetPath
          fileName

theorem disciplined_daoAuthRegister (username passwordHash : Bytes) :
    Disciplined .fresh (daoAuthRegister username passwordHash) := by
  refine disciplined_transaction ?_
  refine disciplined_query (plain_statement (by decide) (by decide) (by decide))
    fun inserted => ?_
  cases inserted with
  | false => exact disciplined_rollbackWith _
  | true =>
      refine ⟨trivial, fun insertId => ?_⟩
      refine disciplined_query (plain_statement (by decide) (by decide) (by decide))
        fun inserted => ?_
      cases inserted with
      | false => exact disciplined_rollbackWith _
      | true => exact disciplined_commit _ _

end Functions

theorem disciplined_program (call : DaoCall) : Disciplined .fresh call.program := by
  have ignoring : ∀ {α : Type} {program : DbProgram α}, Disciplined .fresh program →
      Disciplined .fresh (DaoCall.ignoring program) :=
    fun disciplined => disciplined.bind fun _ _ isOver => isOver
  cases call with
  | pathGetNodeId => exact ignoring (disciplined_daoPathGetNodeId ..)
  | pathInsertDir =>
      exact ignoring (disciplined_databasePoolExecute
        (plain_statement (by decide) (by decide) (by decide)))
  | pathDirHasChild => exact ignoring (disciplined_daoPathDirHasChild ..)
  | pathRmdir =>
      exact ignoring (disciplined_databasePoolExecute
        (plain_statement (by decide) (by decide) (by decide)))
  | pathGetLsDir => exact ignoring (disciplined_daoPathGetLsDir ..)
  | rmFile => exact ignoring (disciplined_daoRmFile ..)
  | fileFindByHash => exact ignoring (disciplined_daoFileFindByHash ..)
  | linkExistingFile => exact ignoring (disciplined_daoLinkExistingFile ..)
  | createFileWithPath => exact ignoring (disciplined_daoCreateFileWithPath ..)
  | getFileMeta => exact ignoring (disciplined_daoGetFileMeta ..)
  | authRegister => exact ignoring (disciplined_daoAuthRegister ..)
  | authGetLoginInfo => exact ignoring (disciplined_daoAuthGetLoginInfo ..)

end Programs

namespace PoolUse

/-- What the events and the variable of a call say about its phase. -/
def Fits (use : PoolUse) (call : Nat) : ConnectionPhase → Prop
  | .fresh => use.eventsOf call = []
  | .refused => False
  | .holding isOpen => ∃ conn, use.conn call = some conn ∧ conn ∈ use.held ∧
      use.isOpen conn = isOpen ∧ use.eventsOf call = [.acquired call conn]
  | .returned => ∃ conn, use.eventsOf call =
      [.acquired call conn, .released call conn false]

/-- The connections are the ones in the first slots and the ones that are held. -/
structure Sound (use : PoolUse) (size : Nat) (slots : List Nat)
    (phases : Nat → ConnectionPhase) : Prop where
  available : use.pool.available = slots.length
  stored : ∀ index, index < slots.length → use.pool.connections index = slots[index]?
  all : (slots ++ use.held).Perm (List.range size)
  idle : ∀ conn ∈ slots, use.isOpen conn = false
  calls : ∀ call, use.Fits call (phases call)
  alone : ∀ first second, (phases first).Holding → (phases second).Holding →
    use.conn first = use.conn second → first = second
  closed : ∀ call conn isOpen, .released call conn isOpen ∈ use.log → isOpen = false

section Steps

variable {use after : PoolUse} {size call : Nat} {slots : List Nat}
  {phases : Nat → ConnectionPhase} {answer : ServerAnswer}

theorem sound_create (size : Nat) :
    (create size).Sound size (List.range size) fun _ => .fresh where
  available := by simp [create, ConnectionPool.create]
  stored := by
    intro index inside
    rw [List.length_range] at inside
    simp [create, ConnectionPool.create, inside]
  all := by simp [create, held]
  idle := fun _ _ => rfl
  calls := fun _ => rfl
  alone := nofun
  closed := nofun

theorem Sound.distinct (sound : use.Sound size slots phases) :
    (slots ++ use.held).Nodup :=
  sound.all.nodup_iff.mpr List.nodup_range

/-- A step of another call. -/
theorem Fits.congr {other : Nat} {phase : ConnectionPhase} (fits : use.Fits other phase)
    (events : after.eventsOf other = use.eventsOf other)
    (same : ∀ isOpen conn, phase = .holding isOpen → use.conn other = some conn →
      conn ∈ use.held → after.conn other = some conn ∧ conn ∈ after.held ∧
        after.isOpen conn = use.isOpen conn) :
    after.Fits other phase := by
  cases phase with
  | fresh => exact events.trans fits
  | refused => exact fits
  | holding isOpen =>
      obtain ⟨conn, isConn, inHeld, open_eq, own⟩ := fits
      obtain ⟨isConn, inHeld, same⟩ := same isOpen conn rfl isConn inHeld
      exact ⟨conn, isConn, inHeld, same.trans open_eq, events.trans own⟩
  | returned =>
      obtain ⟨conn, own⟩ := fits
      exact ⟨conn, events.trans own⟩

section Logs

variable {event : ConnectionEvent} (log : after.log = use.log ++ [event])

include log

theorem held_of_log : after.held = event.heldAfter use.held := by
  simp [held, log, List.foldl_append]

theorem eventsOf_of_log {other : Nat} (different : event.call ≠ other) :
    after.eventsOf other = use.eventsOf other := by
  simp [eventsOf, log, different]

theorem eventsOf_of_log_self : after.eventsOf event.call =
    use.eventsOf event.call ++ [event] := by
  simp [eventsOf, log]

end Logs

theorem Sound.holds (sound : use.Sound size slots phases) {isOpen : Bool}
    (holding : phases call = .holding isOpen) :
    ∃ conn, use.conn call = some conn ∧ conn ∈ use.held ∧ use.isOpen conn = isOpen ∧
      use.eventsOf call = [.acquired call conn] := by
  have fits := sound.calls call
  rw [holding] at fits
  exact fits

theorem Sound.conn_held (sound : use.Sound size slots phases)
    (holding : (phases call).Holding) {conn : Nat} (isConn : use.conn call = some conn) :
    conn ∈ use.held := by
  cases isPhase : phases call with
  | holding isOpen =>
      obtain ⟨found, isFound, inHeld, -⟩ := sound.holds isPhase
      cases isConn.symm.trans isFound
      exact inHeld
  | fresh | refused | returned =>
      rw [isPhase] at holding
      exact holding.elim

/-- The held connections are not in the array. -/
theorem Sound.not_idle (sound : use.Sound size slots phases) {conn : Nat}
    (inHeld : conn ∈ use.held) : conn ∉ slots := fun listed =>
  (List.nodup_append.mp sound.distinct).2.2 conn listed conn inHeld rfl

section Holding

variable (sound : use.Sound size slots phases) (holding : (phases call).Holding)

include sound holding

theorem Sound.alone_update (phase : ConnectionPhase) {first second : Nat}
    (isFirst : (Function.update phases call phase first).Holding)
    (isSecond : (Function.update phases call phase second).Holding)
    (same : use.conn first = use.conn second) : first = second := by
  have wasHolding : ∀ other, (Function.update phases call phase other).Holding →
      (phases other).Holding := by
    intro other nowHolding
    by_cases isCall : other = call
    · exact isCall ▸ holding
    · rwa [Function.update_of_ne isCall] at nowHolding
  exact sound.alone first second (wasHolding first isFirst) (wasHolding second isSecond)
    same

theorem Sound.conn_ne {conn other found : Nat} {isOpen : Bool}
    (isConn : use.conn call = some conn) (different : other ≠ call)
    (isPhase : phases other = .holding isOpen) (isFound : use.conn other = some found) :
    found ≠ conn := by
  rintro rfl
  refine different (sound.alone other call ?_ holding (isFound.trans isConn.symm))
  rw [isPhase]
  trivial

end Holding

theorem Sound.acquire (sound : use.Sound size slots phases)
    (fresh : phases call = .fresh) {succeeds : Bool}
    (performed : perform call answer .acquire use = some (succeeds, after)) :
    ∃ slots, after.Sound size slots
      (Function.update phases call ((phases call).learn .acquire succeeds)) := by
  have available := sound.available
  have distinct := sound.distinct
  have own := sound.calls call
  rw [fresh] at own
  rcases List.eq_nil_or_concat' slots with rfl | ⟨front, conn, rfl⟩
  · simp [perform, ConnectionPool.acquire, available] at performed
  have taken : use.pool.connections front.length = some conn := by
    rw [sound.stored front.length (by simp)]
    simp
  have next : use.pool.available = front.length + 1 := by
    rw [available, List.length_append]
    rfl
  rw [List.append_assoc, List.singleton_append] at distinct
  have notHeld : conn ∉ use.held :=
    (List.nodup_cons.mp (List.nodup_append.mp distinct).2.1).1
  simp only [perform, ConnectionPool.acquire, next, taken, Option.isSome_some,
    Option.map_some, Option.toList_some, Option.some.injEq, Prod.mk.injEq] at performed
  obtain ⟨rfl, afterIs⟩ := performed
  have log : after.log = use.log ++ [.acquired call conn] := by rw [← afterIs]
  have nowHeld : after.held = conn :: use.held := held_of_log log
  have conns : after.conn = Function.update use.conn call (some conn) := by rw [← afterIs]
  have isOpen : after.isOpen = use.isOpen := by rw [← afterIs]
  refine ⟨front, by rw [← afterIs], ?_, ?_, ?_, ?_, ?_, ?_⟩
  · intro index inside
    have different : index ≠ front.length := by omega
    rw [← afterIs]
    dsimp only
    rw [Function.update_of_ne different, sound.stored index (by simp; omega),
      List.getElem?_append_left inside]
  · rw [nowHeld]
    simpa using sound.all
  · rw [isOpen]
    exact fun other listed => sound.idle other (List.mem_append_left _ listed)
  · intro other
    by_cases same : other = call
    · subst same
      rw [Function.update_self]
      refine ⟨conn, by rw [conns, Function.update_self], by rw [nowHeld]; simp, ?_, ?_⟩
      · rw [isOpen]
        exact sound.idle conn (by simp)
      · exact (eventsOf_of_log_self log).trans (congrArg (· ++ _) own)
    · rw [Function.update_of_ne same]
      refine (sound.calls other).congr (eventsOf_of_log log (Ne.symm same)) ?_
      intro one found _ isConn inHeld
      rw [conns, Function.update_of_ne same, nowHeld, isOpen]
      exact ⟨isConn, List.mem_cons_of_mem _ inHeld, rfl⟩
  · intro first second isFirst isSecond same
    rw [conns] at same
    by_cases firstIs : first = call <;> by_cases secondIs : second = call
    · exact firstIs.trans secondIs.symm
    · subst firstIs
      rw [Function.update_of_ne secondIs] at isSecond same
      rw [Function.update_self] at same
      exact (notHeld (sound.conn_held isSecond same.symm)).elim
    · subst secondIs
      rw [Function.update_of_ne firstIs] at isFirst same
      rw [Function.update_self] at same
      exact (notHeld (sound.conn_held isFirst same)).elim
    · rw [Function.update_of_ne firstIs] at isFirst same
      rw [Function.update_of_ne secondIs] at isSecond same
      exact sound.alone first second isFirst isSecond same
  · intro other found wasOpen listed
    rw [log, List.mem_append, List.mem_singleton] at listed
    rcases listed with before | new
    · exact sound.closed other found wasOpen before
    · cases new

theorem Sound.query (sound : use.Sound size slots phases) {isOpen : Bool}
    (holding : phases call = .holding isOpen) {sql : Bytes} {succeeds : Bool}
    (performed : perform call answer (.query sql) use = some (succeeds, after)) :
    after.Sound size slots
      (Function.update phases call ((phases call).learn (.query sql) succeeds)) := by
  obtain ⟨conn, isConn, inHeld, wasOpen, own⟩ := sound.holds holding
  simp only [perform, isConn, Option.some.injEq, Prod.mk.injEq] at performed
  obtain ⟨rfl, rfl⟩ := performed
  rw [holding]
  have isHolding : (phases call).Holding := by
    rw [holding]
    trivial
  refine ⟨sound.available, sound.stored, sound.all, ?_, ?_, ?_, sound.closed⟩
  · intro other listed
    have different : other ≠ conn := by
      rintro rfl
      exact sound.not_idle inHeld listed
    dsimp only
    rw [Function.update_of_ne different]
    exact sound.idle other listed
  · intro other
    by_cases same : other = call
    · subst same
      rw [Function.update_self]
      refine ⟨conn, isConn, inHeld, ?_, own⟩
      dsimp only
      rw [Function.update_self, wasOpen]
    · rw [Function.update_of_ne same]
      refine (sound.calls other).congr rfl fun one found isPhase isFound inHeld => ?_
      exact ⟨isFound, inHeld, Function.update_of_ne
        (sound.conn_ne isHolding isConn same isPhase isFound) _ _⟩
  · exact fun _ _ => sound.alone_update isHolding _

theorem Sound.release (sound : use.Sound size slots phases)
    (holding : phases call = .holding false)
    (performed : perform call answer .release use = some ((), after)) :
    ∃ slots, after.Sound size slots
      (Function.update phases call ((phases call).learn .release ())) := by
  obtain ⟨conn, isConn, inHeld, wasOpen, own⟩ := sound.holds holding
  have isHolding : (phases call).Holding := by
    rw [holding]
    trivial
  simp only [perform, isConn, ConnectionPool.release, Option.map_some,
    Option.toList_some, wasOpen, Option.some.injEq, Prod.mk.injEq, true_and] at performed
  have log : after.log = use.log ++ [.released call conn false] := by rw [← performed]
  have nowHeld : after.held = use.held.erase conn := held_of_log log
  have conns : after.conn = use.conn := by rw [← performed]
  have isOpen : after.isOpen = use.isOpen := by rw [← performed]
  refine ⟨slots ++ [conn], ?_, ?_, ?_, ?_, ?_, ?_, ?_⟩
  · rw [← performed]
    dsimp only
    rw [sound.available, List.length_append]
    rfl
  · intro index inside
    rw [← performed]
    dsimp only
    rw [sound.available]
    by_cases isLast : index = slots.length
    · subst isLast
      simp
    · have before : index < slots.length := by
        rw [List.length_append, List.length_singleton] at inside
        omega
      rw [Function.update_of_ne isLast, sound.stored index before,
        List.getElem?_append_left before]
  · rw [nowHeld, List.append_assoc, List.singleton_append]
    exact ((List.perm_cons_erase inHeld).symm.append_left slots).trans sound.all
  · intro other listed
    rw [isOpen]
    rcases List.mem_append.mp listed with before | isConn
    · exact sound.idle other before
    · cases List.mem_singleton.mp isConn
      exact wasOpen
  · intro other
    by_cases same : other = call
    · subst same
      rw [Function.update_self]
      exact ⟨conn, (eventsOf_of_log_self log).trans (congrArg (· ++ _) own)⟩
    · rw [Function.update_of_ne same]
      refine (sound.calls other).congr (eventsOf_of_log log (Ne.symm same)) ?_
      intro one found isPhase isFound foundHeld
      rw [conns, nowHeld, isOpen]
      exact ⟨isFound, (List.mem_erase_of_ne
        (sound.conn_ne isHolding isConn same isPhase isFound)).mpr foundHeld, rfl⟩
  · rw [conns]
    exact fun _ _ => sound.alone_update isHolding _
  · intro other found isOpen listed
    rw [log, List.mem_append, List.mem_singleton] at listed
    rcases listed with before | new
    · exact sound.closed other found isOpen before
    · cases new
      rfl

/-- Every operation that the phase of its call allows keeps the pool sound. -/
theorem sound_perform (index : Nat) (choice : ServerAnswer) (op : DbOp)
    (shared : PoolUse) (phases : Nat → ConnectionPhase) (reply : DbOp.Answer op)
    (after : PoolUse) (sound : ∃ slots, shared.Sound size slots phases)
    (allowed : (phases index).Allows op)
    (performed : perform index choice op shared = some (reply, after)) :
    ∃ slots, after.Sound size slots
      (Function.update phases index ((phases index).learn op reply)) := by
  obtain ⟨slots, sound⟩ := sound
  cases op with
  | acquire => exact sound.acquire allowed.acquire performed
  | release => exact sound.release allowed.release performed
  | query sql =>
      obtain ⟨isOpen, holding⟩ := allowed.query
      exact ⟨slots, sound.query holding performed⟩
  | storeResult | insertId | errnoIsDuplicate =>
      cases performed
      rw [ConnectionPhase.learn, Function.update_eq_self]
      exact ⟨slots, sound⟩

end Steps

end PoolUse

theorem guarded_calls {size : Nat} {moves : List (Move DaoCall ServerAnswer)}
    {last : Pool DbOp.Answer PoolUse Unit}
    (reached : runFrom (Pool.step DaoCall.program PoolUse.perform) ⟨.create size, []⟩
      moves = some last) :
    last.GuardedTo ConnectionPhase.Allows ConnectionPhase.learn .fresh
      (fun _ phase => phase.Over)
      fun use phases => ∃ slots, use.Sound size slots phases := by
  refine runFrom_invariant (fun pool move next guarded stepped => ?_) ?_ reached
  · exact guarded.step
      (fun index choice op shared phases reply after sound allowed _ performed =>
        PoolUse.sound_perform index choice op shared phases reply after sound allowed
          performed)
      disciplined_program (pool.meets_true move) stepped
  · exact ⟨fun _ => .fresh, fun _ _ => rfl, by simp,
      List.range size, PoolUse.sound_create size⟩

/-- The first slots hold distinct connections that nobody holds, none is lost,
every call gives back the connection it got, once, and never with an open
transaction. -/
theorem databasePool_keeps_connections {size : Nat}
    {moves : List (Move DaoCall ServerAnswer)} {last : Pool DbOp.Answer PoolUse Unit}
    (reached : runFrom (Pool.step DaoCall.program PoolUse.perform) ⟨.create size, []⟩
      moves = some last) :
    (∃ slots : List Nat, last.shared.pool.available = slots.length ∧
      (∀ index, index < slots.length →
        last.shared.pool.connections index = slots[index]?) ∧
      slots.Nodup ∧ ∀ conn ∈ slots, conn ∉ last.shared.held) ∧
    last.shared.pool.available + last.shared.held.length = size ∧
    (∀ index next, last.programs[index]? = some (.call .release next) →
      last.shared.pool.available < size ∧
      ∃ conn, last.shared.conn index = some conn ∧ conn ∈ last.shared.held ∧
        last.shared.isOpen conn = false) ∧
    (∀ index value, last.programs[index]? = some (.done value) →
      ∃ conn, last.shared.eventsOf index =
        [.acquired index conn, .released index conn false]) ∧
    ∀ call conn isOpen, .released call conn isOpen ∈ last.shared.log →
      isOpen = false := by
  obtain ⟨phases, -, obeys, slots, sound⟩ := guarded_calls reached
  have lengths := sound.all.length_eq
  rw [List.length_append, List.length_range] at lengths
  refine ⟨⟨slots, sound.available, sound.stored, (List.nodup_append.mp sound.distinct).1,
    fun conn listed inHeld => sound.not_idle inHeld listed⟩, ?_, ?_, ?_, sound.closed⟩
  · rw [sound.available, lengths]
  · intro index next isProgram
    obtain ⟨conn, isConn, inHeld, isOpen, -⟩ :=
      sound.holds (obeys index _ isProgram).1.release
    refine ⟨?_, conn, isConn, inHeld, isOpen⟩
    have someHeld := List.length_pos_of_mem inHeld
    rw [sound.available]
    omega
  · intro index value isProgram
    have isOver : (phases index).Over := obeys index _ isProgram
    have fits := sound.calls index
    cases isPhase : phases index with
    | returned =>
        rw [isPhase] at fits
        exact fits
    | refused =>
        rw [isPhase] at fits
        exact fits.elim
    | fresh | holding =>
        rw [isPhase] at isOver
        exact isOver.elim

/-- Two calls share one connection; the transaction of the first one fails. -/
theorem databasePool_keeps_one_connection :
    ∃ last, runFrom (Pool.step DaoCall.program PoolUse.perform) ⟨.create 1, []⟩
      [.start (.rmFile 1 2), .start (.pathRmdir 3), .call 0 ⟨true, none, 0, false⟩,
        .call 0 ⟨true, none, 0, false⟩, .call 0 ⟨false, none, 0, false⟩,
        .call 0 ⟨false, none, 0, false⟩, .call 0 ⟨false, none, 0, false⟩,
        .call 1 ⟨true, none, 0, false⟩] = some last ∧
      last.shared.held = [0] ∧
      last.shared.pool.available + last.shared.held.length = 1 := by
  obtain ⟨last, reached, held⟩ : ∃ last,
      runFrom (Pool.step DaoCall.program PoolUse.perform) ⟨.create 1, []⟩
        [.start (.rmFile 1 2), .start (.pathRmdir 3), .call 0 ⟨true, none, 0, false⟩,
          .call 0 ⟨true, none, 0, false⟩, .call 0 ⟨false, none, 0, false⟩,
          .call 0 ⟨false, none, 0, false⟩, .call 0 ⟨false, none, 0, false⟩,
          .call 1 ⟨true, none, 0, false⟩] = some last ∧
      decide (last.shared.held = [0]) = true :=
    (Option.any_eq_true _ _).mp (by decide +kernel)
  exact ⟨last, reached, of_decide_eq_true held,
    (databasePool_keeps_connections reached).2.1⟩

end CloudDrive
