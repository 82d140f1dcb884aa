import CloudDrive.ConnectionPool

/-!
# The error number of a connection

`database_pool_execute` gives its connection back before it reads the error
number of the failed statement.  Between the two another worker may get the
connection and run a statement on it, which leaves its own error number.
-/

namespace CloudDrive

/-- What a statement comes to, as the error number of its connection says. -/
inductive StatementOutcome where
  | succeeded | duplicate | failed
deriving DecidableEq

/-- What `database_pool_execute` is to return for its statement. -/
def StatementOutcome.code : StatementOutcome → Int
  | succeeded => 0
  | duplicate => 1
  | failed => -1

/-- The pool, the error numbers of its connections and the variable `conn` of every
worker; besides, what the last statement of every worker came to. -/
structure ErrorNumbers where
  pool : ConnectionPool
  errno : Nat → StatementOutcome
  conn : Nat → Option Nat
  outcome : Nat → Option StatementOutcome

/-- What the server answers. -/
structure ErrorChoice where
  outcome : StatementOutcome
  stored : Option (List (List Cell))
  insertId : UInt64

namespace ErrorNumbers

def create (size : Nat) : ErrorNumbers where
  pool := .create size
  errno := fun _ => .succeeded
  conn := fun _ => none
  outcome := fun _ => none

/-- The error numbers after a worker has been answered by the server. -/
def errnoAfter (state : ErrorNumbers) (worker : Nat) (outcome : StatementOutcome) :
    Nat → StatementOutcome :=
  match state.conn worker with
  | none => state.errno
  | some conn => Function.update state.errno conn outcome

def perform (worker : Nat) (choice : ErrorChoice) :
    (op : DbOp) → ErrorNumbers → Option (DbOp.Answer op × ErrorNumbers)
  | .acquire, state =>
      match state.pool.acquire with
      | none => none
      | some (conn, pool) =>
          some (conn.isSome,
            { state with pool, conn := Function.update state.conn worker conn })
  | .release, state =>
      some ((), { state with pool := state.pool.release (state.conn worker) })
  | .query _, state =>
      some (choice.outcome = .succeeded,
        { state with
          errno := state.errnoAfter worker choice.outcome
          outcome := Function.update state.outcome worker (some choice.outcome) })
  | .storeResult, state =>
      some (choice.stored, { state with errno := state.errnoAfter worker choice.outcome })
  | .insertId, state => some (choice.insertId, state)
  | .errnoIsDuplicate, state =>
      some ((state.conn worker).any fun conn => state.errno conn = .duplicate, state)

end ErrorNumbers

/-- What a worker has learned from the answers to its calls. -/
inductive OutcomeKnowledge where
  | nothing
  /-- There was no connection. -/
  | refused
  | succeeded
  | failed
  /-- The statement has failed, and the error number has been read. -/
  | read (duplicate : Bool)
deriving DecidableEq

structure WorkerPhase where
  holding : Bool
  knows : OutcomeKnowledge

namespace WorkerPhase

def initial : WorkerPhase := ⟨false, .nothing⟩

/-- A connection is used between its acquisition and its release. -/
def Allows (phase : WorkerPhase) : DbOp → Prop
  | .acquire => phase.holding = false
  | .release | .query _ | .storeResult | .insertId => phase.holding = true
  | .errnoIsDuplicate => True

def learn (phase : WorkerPhase) : (op : DbOp) → DbOp.Answer op → WorkerPhase
  | .acquire, succeeds => ⟨succeeds, if succeeds then .nothing else .refused⟩
  | .release, _ => ⟨false, phase.knows⟩
  | .query _, succeeds => ⟨phase.holding, if succeeds then .succeeded else .failed⟩
  | .storeResult, _ => ⟨phase.holding, .nothing⟩
  | .insertId, _ => phase
  | .errnoIsDuplicate, duplicate =>
      if phase.knows = .failed then ⟨phase.holding, .read duplicate⟩ else phase

end WorkerPhase

namespace OutcomeKnowledge

/-- What `database_pool_execute` returns in the end. -/
def Returns : OutcomeKnowledge → Int → Prop
  | succeeded, result => result = 0
  | read true, result => result = 1
  | read false, result => result = -1
  | refused, _ => True
  | nothing, _ | failed, _ => False

/-- The knowledge is right about the statement. -/
def Fits : OutcomeKnowledge → Option StatementOutcome → Prop
  | nothing, _ => True
  | refused, _ => False
  | succeeded, outcome => outcome = some .succeeded
  | failed, outcome => outcome = some .duplicate ∨ outcome = some .failed
  | read true, outcome => outcome = some .duplicate
  | read false, outcome => outcome = some .failed

theorem Fits.code {knows : OutcomeKnowledge} {outcome : Option StatementOutcome}
    {result : Int} (fits : knows.Fits outcome) (returns : knows.Returns result) :
    ∃ own, outcome = some own ∧ result = own.code := by
  cases knows with
  | nothing | failed => exact returns.elim
  | refused => exact fits.elim
  | succeeded => exact ⟨_, fits, returns⟩
  | read duplicate =>
      cases duplicate with
      | false => exact ⟨_, fits, returns⟩
      | true => exact ⟨_, fits, returns⟩

end OutcomeKnowledge

/-- The program acquires connections, runs statements on them and gives them back. -/
abbrev UsesConnections (program : DbProgram Unit) : Prop :=
  program.Obeys WorkerPhase.Allows WorkerPhase.learn .initial fun _ _ => True

/-- A call of `database_pool_execute`, or any other use of the pool. -/
inductive PoolWorker where
  | execute (sql : Bytes)
  | other (program : DbProgram Unit) (uses : UsesConnections program)

namespace PoolWorker

/-- Only `database_pool_execute` has a result here. -/
def program : PoolWorker → DbProgram (Option Int)
  | execute sql => do
      let result ← databasePoolExecute sql
      pure (some result)
  | other program _ => do
      program
      pure none

/-- The phase of a worker that has ended tells its result. -/
def Ends (result : Option Int) (phase : WorkerPhase) : Prop :=
  ∀ value, result = some value → phase.knows.Returns value

theorem obeys_program (worker : PoolWorker) :
    worker.program.Obeys WorkerPhase.Allows WorkerPhase.learn .initial Ends := by
  cases worker with
  | other program uses => exact uses.bind fun _ _ _ => nofun
  | execute sql =>
      refine ⟨rfl, fun acquired => ?_⟩
      cases acquired with
      | false =>
          rintro _ ⟨⟩
          trivial
      | true =>
          refine ⟨rfl, fun succeeds => ?_⟩
          cases succeeds with
          | false =>
              refine ⟨rfl, fun _ => ⟨trivial, fun duplicate => ?_⟩⟩
              cases duplicate <;> rintro _ ⟨⟩ <;> rfl
          | true =>
              refine ⟨rfl, fun _ => ?_⟩
              rintro _ ⟨⟩
              rfl

end PoolWorker

namespace ConnectionPool

/-- The array does not hold the connection. -/
def Outside (pool : ConnectionPool) (conn : Nat) : Prop :=
  ∀ index, index < pool.available → pool.connections index ≠ some conn

/-- The array holds different connections. -/
structure Distinct (pool : ConnectionPool) : Prop where
  stored : ∀ index, index < pool.available →
    ∃ conn, pool.connections index = some conn
  injective : ∀ first second, first < pool.available → second < pool.available →
    pool.connections first = pool.connections second → first = second

theorem distinct_create (size : Nat) : (create size).Distinct where
  stored := fun index inside => ⟨index, if_pos inside⟩
  injective := by
    intro first second firstInside secondInside same
    simpa [create, show first < size from firstInside,
      show second < size from secondInside] using same

variable {pool after : ConnectionPool} (distinct : pool.Distinct)

include distinct

/-- A connection leaves the array. -/
theorem Distinct.acquire {acquired : Option Nat}
    (taken : pool.acquire = some (acquired, after)) :
    ∃ conn, acquired = some conn ∧ ¬pool.Outside conn ∧ after.Outside conn ∧
      after.Distinct ∧ ∀ other, pool.Outside other → after.Outside other := by
  rcases number : pool.available with _ | available
  · simp [ConnectionPool.acquire, number] at taken
  have inside : available < pool.available := by omega
  obtain ⟨conn, isConn⟩ := distinct.stored available inside
  simp only [ConnectionPool.acquire, number, isConn, Option.some.injEq,
    Prod.mk.injEq] at taken
  obtain ⟨rfl, rfl⟩ := taken
  have kept : ∀ index, index < available →
      Function.update pool.connections available none index =
        pool.connections index := by
    intro index before
    exact Function.update_of_ne (by omega) _ _
  refine ⟨conn, rfl, fun outside => outside available inside isConn, ?_, ⟨?_, ?_⟩, ?_⟩
  · intro index before same
    have isLast := distinct.injective index available (Nat.lt_trans before inside) inside
      ((kept index before).symm.trans (same.trans isConn.symm))
    exact absurd isLast (Nat.ne_of_lt before)
  · intro index before
    obtain ⟨found, isFound⟩ := distinct.stored index (Nat.lt_trans before inside)
    exact ⟨found, (kept index before).trans isFound⟩
  · intro first second firstBefore secondBefore same
    apply distinct.injective first second (Nat.lt_trans firstBefore inside)
      (Nat.lt_trans secondBefore inside)
    exact (kept first firstBefore).symm.trans (same.trans (kept second secondBefore))
  · intro other outside index before same
    exact outside index (Nat.lt_trans before inside) ((kept index before).symm.trans same)

/-- A connection that was in use returns to the array. -/
theorem Distinct.release {conn : Nat} (outside : pool.Outside conn) :
    (pool.release (some conn)).Distinct ∧
      ∀ other, other ≠ conn → pool.Outside other →
        (pool.release (some conn)).Outside other := by
  have cases_ : ∀ index, index < (pool.release (some conn)).available →
      (pool.release (some conn)).connections index = some conn ∧
          index = pool.available ∨
        (pool.release (some conn)).connections index = pool.connections index ∧
          index < pool.available := by
    intro index inside
    by_cases isLast : index = pool.available
    · left
      exact ⟨by rw [isLast]; exact Function.update_self .., isLast⟩
    · right
      refine ⟨Function.update_of_ne isLast _ _, ?_⟩
      exact Nat.lt_of_le_of_ne (Nat.lt_succ_iff.mp inside) isLast
  refine ⟨⟨?_, ?_⟩, ?_⟩
  · intro index inside
    rcases cases_ index inside with ⟨isConn, -⟩ | ⟨kept, before⟩
    · exact ⟨conn, isConn⟩
    · rw [kept]
      exact distinct.stored index before
  · intro first second firstInside secondInside same
    rcases cases_ first firstInside with ⟨firstIs, rfl⟩ | ⟨firstKept, firstBefore⟩ <;>
      rcases cases_ second secondInside with ⟨secondIs, rfl⟩ | ⟨secondKept, secondBefore⟩
    · rfl
    · exact absurd (secondKept.symm.trans (same.symm.trans firstIs))
        (outside second secondBefore)
    · exact absurd (firstKept.symm.trans (same.trans secondIs))
        (outside first firstBefore)
    · exact distinct.injective first second firstBefore secondBefore
        (firstKept.symm.trans (same.trans secondKept))
  · intro other different otherOutside index inside same
    rcases cases_ index inside with ⟨isConn, -⟩ | ⟨kept, before⟩
    · exact different (Option.some.inj (same.symm.trans isConn))
    · exact otherOutside index before (kept.symm.trans same)

end ConnectionPool

namespace ErrorNumbers

/-- A worker uses a connection that is not in the array, what it knows is right, and
the error number of its connection is that of its last statement. -/
structure Fits (state : ErrorNumbers) (worker : Nat) (phase : WorkerPhase) : Prop where
  holds : phase.holding = true →
    ∃ conn, state.conn worker = some conn ∧ state.pool.Outside conn
  told : phase.knows.Fits (state.outcome worker)
  current : ∀ conn, phase.holding = true → phase.knows = .failed →
    state.conn worker = some conn → state.outcome worker = some (state.errno conn)

/-- No two workers use one connection. -/
structure Sound (state : ErrorNumbers) (phases : Nat → WorkerPhase) : Prop where
  distinct : state.pool.Distinct
  fits : ∀ worker, state.Fits worker (phases worker)
  alone : ∀ first second, (phases first).holding = true →
    (phases second).holding = true → state.conn first = state.conn second →
      first = second

section Steps

variable {state after : ErrorNumbers} {phases : Nat → WorkerPhase}
  {phase : WorkerPhase} {worker : Nat} {choice : ErrorChoice}

theorem sound_create (size : Nat) : (create size).Sound fun _ => .initial where
  distinct := ConnectionPool.distinct_create size
  fits := fun _ => ⟨nofun, trivial, nofun⟩
  alone := nofun

/-- A step of one worker leaves the others alone. -/
theorem Sound.step (sound : state.Sound phases) (distinct : after.pool.Distinct)
    (own : after.Fits worker phase)
    (apart : phase.holding = true → ∀ other, other ≠ worker →
      (phases other).holding = true → state.conn other ≠ after.conn worker)
    (others : ∀ other, other ≠ worker →
      after.conn other = state.conn other ∧ after.outcome other = state.outcome other)
    (kept : ∀ other conn, other ≠ worker → (phases other).holding = true →
      state.conn other = some conn → state.pool.Outside conn →
        after.pool.Outside conn ∧ after.errno conn = state.errno conn) :
    after.Sound (Function.update phases worker phase) := by
  refine ⟨distinct, fun other => ?_, fun first second firstHolds secondHolds same => ?_⟩
  · by_cases isWorker : other = worker
    · rw [isWorker, Function.update_self]
      exact own
    · obtain ⟨sameConn, sameOutcome⟩ := others other isWorker
      obtain ⟨holds, told, current⟩ := sound.fits other
      rw [Function.update_of_ne isWorker]
      refine ⟨fun holding => ?_, ?_, fun conn holding failed isConn => ?_⟩
      · obtain ⟨conn, isConn, outside⟩ := holds holding
        exact ⟨conn, sameConn.trans isConn,
          (kept other conn isWorker holding isConn outside).1⟩
      · rw [sameOutcome]
        exact told
      · rw [sameConn] at isConn
        obtain ⟨found, isFound, outside⟩ := holds holding
        cases isConn.symm.trans isFound
        rw [sameOutcome, (kept other conn isWorker holding isConn outside).2]
        exact current conn holding failed isConn
  · by_cases firstIs : first = worker <;> by_cases secondIs : second = worker
    · exact firstIs.trans secondIs.symm
    · subst firstIs
      rw [Function.update_self] at firstHolds
      rw [Function.update_of_ne secondIs] at secondHolds
      rw [(others second secondIs).1] at same
      exact absurd same.symm (apart firstHolds second secondIs secondHolds)
    · subst secondIs
      rw [Function.update_self] at secondHolds
      rw [Function.update_of_ne firstIs] at firstHolds
      rw [(others first firstIs).1] at same
      exact absurd same (apart secondHolds first firstIs firstHolds)
    · rw [Function.update_of_ne firstIs] at firstHolds
      rw [Function.update_of_ne secondIs] at secondHolds
      rw [(others first firstIs).1, (others second secondIs).1] at same
      exact sound.alone first second firstHolds secondHolds same

theorem Sound.acquire (sound : state.Sound phases) {succeeds : Bool}
    (performed : perform worker choice .acquire state = some (succeeds, after)) :
    after.Sound (Function.update phases worker
      ((phases worker).learn .acquire succeeds)) := by
  rw [perform] at performed
  rcases taken : state.pool.acquire with _ | ⟨acquired, pool⟩
  · rw [taken] at performed
    cases performed
  rw [taken] at performed
  obtain ⟨conn, rfl, wasInside, outside, distinct, others⟩ := sound.distinct.acquire taken
  cases performed
  have isConn : Function.update state.conn worker (some conn) worker = some conn :=
    Function.update_self ..
  apply sound.step
  · exact distinct
  · exact ⟨fun _ => ⟨conn, isConn, outside⟩, trivial, nofun⟩
  · intro _ other _ holding same
    obtain ⟨found, isFound, foundOutside⟩ := (sound.fits other).holds holding
    cases isFound.symm.trans (same.trans isConn)
    exact wasInside foundOutside
  · exact fun other different => ⟨Function.update_of_ne different _ _, rfl⟩
  · exact fun other found _ _ _ foundOutside => ⟨others found foundOutside, rfl⟩

theorem Sound.release (sound : state.Sound phases)
    (holding : (phases worker).holding = true)
    (performed : perform worker choice .release state = some ((), after)) :
    after.Sound (Function.update phases worker
      ((phases worker).learn .release ())) := by
  obtain ⟨conn, isConn, outside⟩ := (sound.fits worker).holds holding
  obtain ⟨distinct, others⟩ := sound.distinct.release outside
  rw [perform, isConn] at performed
  cases performed
  apply sound.step
  · exact distinct
  · exact ⟨nofun, (sound.fits worker).told, nofun⟩
  · exact nofun
  · exact fun other different => ⟨rfl, rfl⟩
  · intro other found different otherHolds isFound foundOutside
    refine ⟨others found ?_ foundOutside, rfl⟩
    rintro rfl
    exact different (sound.alone other worker otherHolds holding
      (isFound.trans isConn.symm))

/-- The server has answered a worker about its connection. -/
theorem Sound.answer (sound : state.Sound phases)
    (holding : (phases worker).holding = true) {outcome : Option StatementOutcome}
    {knows : OutcomeKnowledge} (told : knows.Fits outcome)
    (current : knows = .failed → outcome = some choice.outcome) :
    Sound
      { state with
        errno := state.errnoAfter worker choice.outcome
        outcome := Function.update state.outcome worker outcome }
      (Function.update phases worker ⟨(phases worker).holding, knows⟩) := by
  obtain ⟨conn, isConn, outside⟩ := (sound.fits worker).holds holding
  have isErrno : state.errnoAfter worker choice.outcome =
      Function.update state.errno conn choice.outcome := by
    rw [errnoAfter, isConn]
  rw [isErrno]
  apply sound.step
  · exact sound.distinct
  · refine ⟨fun _ => ⟨conn, isConn, outside⟩, ?_, fun found _ failed isFound => ?_⟩
    · dsimp only
      rw [Function.update_self]
      exact told
    · cases isConn.symm.trans isFound
      dsimp only
      rw [Function.update_self, Function.update_self]
      exact current failed
  · intro _ other different otherHolds same
    exact different (sound.alone other worker otherHolds holding same)
  · exact fun other different => ⟨rfl, Function.update_of_ne different _ _⟩
  · intro other found different otherHolds isFound foundOutside
    refine ⟨foundOutside, Function.update_of_ne ?_ _ _⟩
    rintro rfl
    exact different (sound.alone other worker otherHolds holding
      (isFound.trans isConn.symm))

/-- The error number is still that of the last statement of the worker. -/
def Unread (state : ErrorNumbers) (worker : Nat) : Prop :=
  ∃ conn, state.conn worker = some conn ∧
    state.outcome worker = some (state.errno conn)

theorem Sound.unread (sound : state.Sound phases)
    (holding : (phases worker).holding = true)
    (failed : (phases worker).knows = .failed) : state.Unread worker := by
  obtain ⟨conn, isConn, -⟩ := (sound.fits worker).holds holding
  exact ⟨conn, isConn, (sound.fits worker).current conn holding failed isConn⟩

/-- The error number is read. -/
theorem Sound.readErrno (sound : state.Sound phases)
    (unread : (phases worker).knows = .failed → state.Unread worker) :
    state.Sound (Function.update phases worker
      ((phases worker).learn .errnoIsDuplicate
        ((state.conn worker).any fun conn => state.errno conn = .duplicate))) := by
  have fits := sound.fits worker
  rw [WorkerPhase.learn]
  split_ifs with failed
  · obtain ⟨conn, isConn, own⟩ := unread failed
    have told := fits.told
    rw [failed, own] at told
    apply sound.step sound.distinct
    · refine ⟨fits.holds, ?_, nofun⟩
      rw [isConn, Option.any_some, own]
      rcases told with duplicate | other
      · rw [Option.some.inj duplicate]
        rfl
      · rw [Option.some.inj other]
        rfl
    · intro holding other different otherHolds same
      exact different (sound.alone other worker otherHolds holding same)
    · exact fun _ _ => ⟨rfl, rfl⟩
    · exact fun _ _ _ _ _ outside => ⟨outside, rfl⟩
  · rw [Function.update_eq_self]
    exact sound

theorem Sound.perform (sound : state.Sound phases) {op : DbOp}
    (unread : op = .errnoIsDuplicate → (phases worker).knows = .failed →
      state.Unread worker)
    (allowed : (phases worker).Allows op) {answer : DbOp.Answer op}
    (performed : perform worker choice op state = some (answer, after)) :
    after.Sound (Function.update phases worker ((phases worker).learn op answer)) := by
  cases op with
  | acquire => exact sound.acquire performed
  | release => exact sound.release allowed performed
  | query sql =>
      cases performed
      apply sound.answer allowed
      · rcases choice with ⟨outcome, stored, insertId⟩
        cases outcome with
        | succeeded => rfl
        | duplicate => exact Or.inl rfl
        | failed => exact Or.inr rfl
      · exact fun _ => rfl
  | storeResult =>
      cases performed
      have answered : Sound
          { state with
            errno := state.errnoAfter worker choice.outcome
            outcome := Function.update state.outcome worker (state.outcome worker) }
          (Function.update phases worker ⟨(phases worker).holding, .nothing⟩) :=
        sound.answer allowed trivial nofun
      rwa [Function.update_eq_self] at answered
  | insertId =>
      cases performed
      rw [WorkerPhase.learn, Function.update_eq_self]
      exact sound
  | errnoIsDuplicate =>
      cases performed
      exact sound.readErrno (unread rfl)

/-- The calls after which the error number of the connection is another. -/
def asksServer : DbOp → Bool
  | .query _ | .storeResult => true
  | _ => false

/-- What a step of another worker does to what a worker reads. -/
theorem Unread.perform {reader : Nat} {op : DbOp} (different : reader ≠ worker)
    (unread : state.Unread reader)
    (apart : asksServer op = true → state.conn reader ≠ state.conn worker)
    {answer : DbOp.Answer op}
    (performed : ErrorNumbers.perform worker choice op state = some (answer, after)) :
    after.Unread reader := by
  obtain ⟨conn, isConn, own⟩ := unread
  have kept : asksServer op = true →
      state.errnoAfter worker choice.outcome conn = state.errno conn := by
    intro asks
    rcases isFound : state.conn worker with _ | found
    · rw [errnoAfter, isFound]
    · rw [errnoAfter, isFound]
      apply Function.update_of_ne
      rintro rfl
      exact apart asks (isConn.trans isFound.symm)
  cases op with
  | acquire =>
      rw [ErrorNumbers.perform] at performed
      split at performed
      · cases performed
      · cases performed
        exact ⟨conn, (Function.update_of_ne different _ _).trans isConn, own⟩
  | query sql =>
      cases performed
      rw [← kept rfl] at own
      exact ⟨conn, isConn, (Function.update_of_ne different _ _).trans own⟩
  | storeResult =>
      cases performed
      rw [← kept rfl] at own
      exact ⟨conn, isConn, own⟩
  | release | insertId | errnoIsDuplicate =>
      cases performed
      exact ⟨conn, isConn, own⟩

/-- A worker whose statement has failed finds the error number of it after its own
next call. -/
theorem Sound.unread_perform (sound : state.Sound phases) {op : DbOp}
    (allowed : (phases worker).Allows op) {answer : DbOp.Answer op}
    (performed : ErrorNumbers.perform worker choice op state = some (answer, after))
    (later : after.Sound
      (Function.update phases worker ((phases worker).learn op answer)))
    (failed : ((phases worker).learn op answer).knows = .failed) :
    after.Unread worker := by
  have own : ((phases worker).learn op answer).holding = true → after.Unread worker := by
    intro holding
    apply later.unread
    · rw [Function.update_self]
      exact holding
    · rw [Function.update_self]
      exact failed
  cases op with
  | acquire => cases answer <;> cases failed
  | release =>
      cases performed
      exact sound.unread allowed failed
  | query sql => exact own allowed
  | storeResult => cases failed
  | insertId => exact own allowed
  | errnoIsDuplicate =>
      rw [WorkerPhase.learn] at failed
      split_ifs at failed with wasFailed
      exact absurd failed wasFailed

end Steps

end ErrorNumbers

/-- Workers that share the pool. -/
abbrev PoolWorkers := Pool DbOp.Answer ErrorNumbers (Option Int)

namespace PoolWorkers

def step : PoolWorkers → Move PoolWorker ErrorChoice → Option PoolWorkers :=
  Pool.step PoolWorker.program ErrorNumbers.perform

def awaitsErrno : Option (DbProgram (Option Int)) → Bool
  | some (.call .errnoIsDuplicate _) => true
  | _ => false

def awaitsServer : Option (DbProgram (Option Int)) → Bool
  | some (.call op _) => ErrorNumbers.asksServer op
  | _ => false

/-- No statement runs on a connection whose error number somebody else is about to
read. -/
def Undisturbed (workers : PoolWorkers) : Move PoolWorker ErrorChoice → Prop
  | .start _ => True
  | .call worker _ => awaitsServer workers.programs[worker]? = true →
      ∀ reader < workers.programs.length, reader ≠ worker →
        awaitsErrno workers.programs[reader]? = true →
          workers.shared.conn reader ≠ workers.shared.conn worker

instance (workers : PoolWorkers) :
    ∀ move, Decidable (workers.Undisturbed move)
  | .start _ => isTrue trivial
  | .call .. => inferInstanceAs (Decidable (_ → ∀ _ < _, _))

/-- Every worker that is about to read the error number of its failed statement will
find it. -/
def Reading (workers : PoolWorkers) (phases : Nat → WorkerPhase) : Prop :=
  ∀ reader, awaitsErrno workers.programs[reader]? = true →
    (phases reader).knows = .failed → workers.shared.Unread reader

/-- What holds between the steps. -/
def Settled (workers : PoolWorkers) : Prop :=
  ∃ phases, workers.Follows WorkerPhase.Allows WorkerPhase.learn .initial
      PoolWorker.Ends phases ∧
    workers.shared.Sound phases ∧ workers.Reading phases

variable {workers after last : PoolWorkers}

/-- A new worker has nothing to read yet. -/
theorem Reading.start {phases : Nat → WorkerPhase} (reading : workers.Reading phases)
    (fresh : ∀ index, workers.programs[index]? = none → phases index = .initial)
    (program : DbProgram (Option Int)) :
    Reading { workers with programs := workers.programs ++ [program] } phases := by
  intro reader awaits failed
  apply reading reader _ failed
  rcases old : workers.programs[reader]? with _ | oldProgram
  · rw [fresh reader old] at failed
    cases failed
  · have inside := (List.getElem?_eq_some_iff.mp old).1
    rw [← old]
    simpa [List.getElem?_append_left inside] using awaits

theorem Settled.step {move : Move PoolWorker ErrorChoice} (settled : workers.Settled)
    (undisturbed : workers.Undisturbed move)
    (stepped : step workers move = some after) : after.Settled := by
  obtain ⟨phases, follows, sound, reading⟩ := settled
  cases move with
  | start new =>
      cases stepped
      exact ⟨phases, follows.start new.obeys_program, sound,
        reading.start follows.fresh new.program⟩
  | call worker choice =>
      obtain ⟨op, next, answer, shared, current, performed, rfl⟩ :=
        Pool.step_call.mp stepped
      have allowed := (follows.obeys worker _ current).1
      have reads : op = .errnoIsDuplicate →
          awaitsErrno workers.programs[worker]? = true := by
        rintro rfl
        rw [current]
        rfl
      have later := sound.perform (fun isRead => reading worker (reads isRead)) allowed
        performed
      refine ⟨_, follows.call current answer shared, later, ?_⟩
      intro reader awaits failed
      by_cases isWorker : reader = worker
      · subst isWorker
        rw [Function.update_self] at failed
        exact sound.unread_perform allowed performed later failed
      · rw [Function.update_of_ne isWorker] at failed
        dsimp only at awaits ⊢
        rw [List.getElem?_set_ne (Ne.symm isWorker)] at awaits
        apply (reading reader awaits failed).perform isWorker _ performed
        intro asks
        apply undisturbed (by rw [current]; exact asks) reader _ isWorker awaits
        by_contra outside
        rw [List.getElem?_eq_none (Nat.le_of_not_lt outside)] at awaits
        cases awaits

theorem settled_create (size : Nat) : Settled ⟨.create size, []⟩ :=
  ⟨fun _ => .initial, ⟨fun _ _ => rfl, nofun⟩, ErrorNumbers.sound_create size, nofun⟩

/-- A call of `database_pool_execute` that has returned has told what its own
statement came to, as long as no statement runs on a connection whose error number
another worker is about to read. -/
theorem databasePoolExecute_returns_own_outcome {size : Nat}
    {moves : List (Move PoolWorker ErrorChoice)}
    (undisturbed : StepsMeet step Undisturbed ⟨.create size, []⟩ moves)
    (reached : runFrom step ⟨.create size, []⟩ moves = some last) {worker : Nat}
    {result : Int} (returned : last.programs[worker]? = some (.done (some result))) :
    ∃ outcome, last.shared.outcome worker = some outcome ∧ result = outcome.code := by
  obtain ⟨phases, follows, sound, -⟩ := runFrom_invariant_of_stepsMeet
    (fun _ _ _ settled met stepped => settled.step met stepped)
    (settled_create size) undisturbed reached
  exact (sound.fits worker).told.code (follows.obeys worker _ returned result rfl)

/-- Two calls take turns with one connection: the first one finds a duplicate and
reads the error number before the second one runs its statement. -/
def oneAfterTheOther : List (Move PoolWorker ErrorChoice) :=
  [.start (.execute []), .start (.execute []), .call 0 ⟨.succeeded, none, 0⟩,
    .call 0 ⟨.duplicate, none, 0⟩, .call 0 ⟨.succeeded, none, 0⟩,
    .call 1 ⟨.succeeded, none, 0⟩, .call 0 ⟨.succeeded, none, 0⟩,
    .call 1 ⟨.succeeded, none, 0⟩]

theorem oneAfterTheOther_returns_duplicate :
    ∃ last, runFrom step ⟨.create 1, []⟩ oneAfterTheOther = some last ∧
      last.programs[0]? = some (.done (some 1)) ∧
      ∃ outcome, last.shared.outcome 0 = some outcome ∧ 1 = outcome.code := by
  have undisturbed : StepsMeet step Undisturbed ⟨.create 1, []⟩ oneAfterTheOther := by
    decide
  exact ⟨_, rfl, rfl, databasePoolExecute_returns_own_outcome undisturbed rfl rfl⟩

/-- The statement of the second call runs before the first one reads the error
number. -/
theorem databasePoolExecute_misses_duplicate :
    ∃ last, runFrom step ⟨.create 1, []⟩
        [.start (.execute []), .start (.execute []), .call 0 ⟨.succeeded, none, 0⟩,
          .call 0 ⟨.duplicate, none, 0⟩, .call 0 ⟨.succeeded, none, 0⟩,
          .call 1 ⟨.succeeded, none, 0⟩, .call 1 ⟨.succeeded, none, 0⟩,
          .call 0 ⟨.succeeded, none, 0⟩] = some last ∧
      last.programs[0]? = some (.done (some (-1))) ∧
      last.shared.outcome 0 = some .duplicate :=
  ⟨_, rfl, rfl, rfl⟩

end PoolWorkers

end CloudDrive
