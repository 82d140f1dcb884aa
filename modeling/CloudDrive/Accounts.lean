import CloudDrive.DaoAnswers
import CloudDrive.SessionCalls
import CloudDrive.TaskEnvironment

/-!
# Accounts

`handle_register` and `handle_login` over the database, the session table and
`crypt_r`.  Both read the same payload; the name then has to fit a column of 64
characters and, after the password is checked, an array of 64 bytes.
-/

namespace CloudDrive

open DbSession

/-- `crypt_r`: a password hashed again with its hash as the setting gives the
hash, and a setting without quotes and backslashes gives a string without
them. -/
structure Crypt where
  hash : Bytes → Bytes → Option Bytes
  again : ∀ password setting output,
    hash password setting = some output → hash password output = some output
  plain : ∀ password setting output, hash password setting = some output →
    Sql.Safe setting →
      Sql.Safe output ∧ 0 ∉ output ∧ output.length < cryptOutputSize

/-- The characters of a salt. -/
def saltCharset : Bytes :=
  ascii "abcdefghijklmnopqrstuvwxyzABCDEFGHIJKLMNOPQRSTUVWXYZ0123456789./"

def generateSalt (randomBytes : Vector UInt8 16) : Bytes :=
  ascii "$6$" ++ randomBytes.toList.map fun byte =>
    saltCharset.getD (byte.toNat % saltCharset.length) 0

structure AuthState where
  database : Database
  table : SessionTable

/-- What the environment decides about one call of a handler. -/
structure AuthChoice extends Choice where
  /-- The bytes read from `/dev/urandom` for a salt. -/
  random : Option (Vector UInt8 16)
  /-- Whether the allocations of `session_create` succeed. -/
  allocated : Bool
  draws : List SessionTable.Draw

def performAuth (dialect : Dialect) (crypt : Crypt) (clientFd : Int)
    (choice : AuthChoice) : (op : TaskOp) → AuthState → op.Answer × AuthState
  | .generateSalt, state => (choice.random.map generateSalt, state)
  | .cryptR password setting, state => (crypt.hash password setting, state)
  | .sessionCreate userId username rootPathId, state =>
      let (created, table) := state.table.sessionCreate clientFd userId username
        rootPathId choice.allocated choice.draws
      (created, { state with table })
  | op, state =>
      let (answer, database) :=
        performTask dialect choice.toChoice op state.database
      (answer, { state with database })

theorem safe_generateSalt (randomBytes : Vector UInt8 16) :
    Sql.Safe (generateSalt randomBytes) := by
  have charset : ∀ index < saltCharset.length,
      saltCharset.getD index 0 ≠ 39 ∧ saltCharset.getD index 0 ≠ 92 := by
    decide +kernel
  intro byte inside
  rcases List.mem_append.mp inside with front | digit
  · exact (show Sql.Safe (ascii "$6$") by decide +kernel) byte front
  · obtain ⟨random, -, rfl⟩ := List.mem_map.mp digit
    exact charset _ (Nat.mod_lt _ (by decide))

namespace SessionTable

/-- A fresh identifier is drawn before an attempt fails. -/
def drawsFresh (table : SessionTable) : List Draw → Bool
  | [] => false
  | draw :: draws =>
      match generateSessionId draw, draw.now with
      | some sessionId, some _ =>
          (findSession table sessionId).isNone || drawsFresh table draws
      | _, _ => false

theorem createLoop_of_drawsFresh {table : SessionTable} {clientFd : Int}
    (unbound : findBinding table clientFd = none) (userId : UInt64)
    (username : Bytes) (rootPathId : UInt64) {draws : List Draw}
    (fresh : drawsFresh table draws = true) :
    (createLoop table clientFd userId username rootPathId draws).1.isSome = true := by
  induction draws with
  | nil => cases fresh
  | cons draw draws inductionHypothesis =>
      rw [drawsFresh] at fresh
      unfold createLoop
      cases generated : generateSessionId draw with
      | none => simp [generated] at fresh
      | some sessionId =>
          cases read : draw.now with
          | none => simp [generated, read] at fresh
          | some now =>
              rw [generated, read] at fresh
              cases used : findSession table sessionId with
              | none => simp [unbound, used]
              | some address =>
                  have later : drawsFresh table draws = true := by
                    simpa [used] using fresh
                  simpa [unbound, used] using inductionHypothesis later

theorem sessionCreate_of_drawsFresh {table : SessionTable} {clientFd : Int}
    (nonnegative : 0 ≤ clientFd) (unbound : findBinding table clientFd = none)
    (userId : UInt64) {username : Bytes} (nonempty : username ≠ [])
    (short : username.length < usernameSize) (rootPathId : UInt64) {draws : List Draw}
    (fresh : drawsFresh table (draws.take sessionIdGenerationAttempts) = true) :
    (sessionCreate table clientFd userId username rootPathId true draws).1.isSome =
      true := by
  rw [sessionCreate, if_neg (by simp [nonempty]; omega)]
  exact createLoop_of_drawsFresh unbound userId username rootPathId fresh

end SessionTable

section Handlers

variable {dialect : Dialect} {crypt : Crypt} {clientFd : Int} {task : HandlerTask}
  {username password : Bytes} {choices : Nat → AuthChoice} {state : AuthState}
  {exchange : Prog.Exchange TaskOp.Answer}

theorem not_acknowledges_fail {status : StatusCode}
    (made : exchange ∈ (task.fail status).exchanges
      (performAuth dialect crypt clientFd) choices state) :
    exchange.1.acknowledges = false := by
  have silent := (task.transfers_fail status).silent.of_mem made
  simpa [TaskOp.isSilent] using (Bool.and_eq_true_iff.mp silent).2

theorem eval_respond (type : CmdType) (status : StatusCode) (sessionId : SessionId)
    (payload : Bytes) :
    ((HandlerTask.respond type status sessionId payload).eval
      (performAuth dialect crypt clientFd) choices state).2 = state := by
  unfold HandlerTask.respond HandlerTask.sendPacket
  split <;> rfl

theorem credentials_length
    (credentials : task.credentials = some (username, password)) :
    username ≠ [] ∧ username.length < 128 := by
  rw [HandlerTask.credentials] at credentials
  split at credentials
  · cases credentials
  rename_i payload copied
  split at credentials
  · rename_i first second others tokens
    cases credentials
    have found : username ∈ strtok 10 [] payload := by
      rw [tokens]
      exact List.mem_cons_self
    have short := length_of_strtok found
    rw [HandlerTask.copyPayload] at copied
    split at copied
    · cases copied
    rename_i fits
    cases copied
    have cut : (cString task.packet.payload).length ≤ task.packet.payload.length :=
      (List.takeWhile_sublist _).length_le
    refine ⟨ne_nil_of_strtok found, ?_⟩
    simp only [List.length_nil] at short
    omega
  · cases credentials

/-- An acknowledged registration has stored the user. -/
theorem handleRegister_acknowledged
    (credentials : task.credentials = some (username, password))
    (made : exchange ∈ task.handleRegister.exchanges
      (performAuth dialect crypt clientFd) choices state)
    (acknowledges : exchange.1.acknowledges = true) :
    ∃ random output, crypt.hash password (generateSalt random) = some output ∧
      (DbSession.call dialect (daoAuthRegister username output) (choices 2).faults
        state.database).1 = 0 ∧
      (task.handleRegister.eval (performAuth dialect crypt clientFd) choices
        state).2.database =
          (DbSession.call dialect (daoAuthRegister username output)
            (choices 2).faults state.database).2 := by
  have failed : ∀ {status choices state}, exchange ∉ (task.fail status).exchanges
      (performAuth dialect crypt clientFd) choices state := fun made => by
    rw [not_acknowledges_fail made] at acknowledges
    cases acknowledges
  simp only [HandlerTask.handleRegister, credentials, Prog.ask_bind, Prog.exchanges,
    Prog.eval, performAuth, List.mem_cons] at made ⊢
  rcases made with rfl | made
  · cases acknowledges
  cases random : (choices 0).random with
  | none =>
      rw [random] at made
      exact absurd made failed
  | some randomBytes =>
      rw [random] at made
      simp only [Option.map_some, Prog.exchanges, Prog.eval, performAuth,
        List.mem_cons] at made ⊢
      rcases made with rfl | made
      · cases acknowledges
      cases hashed : crypt.hash password (generateSalt randomBytes) with
      | none =>
          rw [hashed] at made
          exact absurd made failed
      | some output =>
          rw [hashed] at made
          refine ⟨randomBytes, output, hashed, ?_⟩
          simp only [Prog.exchanges, Prog.eval, performAuth, performTask,
            List.mem_cons, Nat.reduceAdd] at made ⊢
          rcases made with rfl | made
          · cases acknowledges
          by_cases stored : (DbSession.call dialect
              (daoAuthRegister username output) (choices 2).faults
              state.database).1 = 0
          · refine ⟨stored, ?_⟩
            simp only [ne_eq, stored, not_true_eq_false, ↓reduceIte,
              HandlerTask.reply, eval_respond]
          · simp only [ne_eq, stored, not_false_eq_true, ↓reduceIte] at made
            exact absurd made failed

/-- A login whose password is right is acknowledged exactly if a session is
created. -/
theorem handleLogin_run {info : LoginInfo}
    (credentials : task.credentials = some (username, password))
    (faultless : (choices 0).faults = noFaults)
    (found : DbSession.call dialect (daoAuthGetLoginInfo username) noFaults
      state.database = ((0, info), state.database))
    (hashed : crypt.hash password info.passwordHash = some info.passwordHash)
    {created : Option SessionId × SessionTable}
    (creates : state.table.sessionCreate clientFd info.userId username
      info.rootPathId (choices 2).allocated (choices 2).draws = created) :
    (created.1 = none → ∀ exchange ∈ task.handleLogin.exchanges
      (performAuth dialect crypt clientFd) choices state,
        exchange.1.acknowledges = false) ∧
    (∀ newId, created.1 = some newId →
      ∃ sent, ⟨.send (Packet.init .ack .ok newId []), sent⟩ ∈
        task.handleLogin.exchanges (performAuth dialect crypt clientFd) choices
          state) ∧
    (task.handleLogin.eval (performAuth dialect crypt clientFd) choices
      state).2.table = created.2 := by
  obtain ⟨created, table⟩ := created
  have finds : performAuth dialect crypt clientFd (choices 0)
      (.daoAuthGetLoginInfo username) state = ((0, info), state) := by
    simp only [performAuth, performTask, faultless, found]
  have hashes : performAuth dialect crypt clientFd
      ((fun index => choices (index + 1)) 0) (.cryptR password info.passwordHash)
      state = (some info.passwordHash, state) := by
    simp only [performAuth, hashed]
  have makes : performAuth dialect crypt clientFd
      ((fun index => (fun index => choices (index + 1)) (index + 1)) 0)
      (.sessionCreate info.userId username info.rootPathId) state =
        (created, { state with table }) := by
    simp only [performAuth, Nat.reduceAdd, creates]
  simp only [HandlerTask.handleLogin, credentials, Prog.ask_bind]
  rw [Prog.exchanges_of_perform finds, Prog.eval_of_perform finds]
  simp only [zero_ne_one, Int.reduceNeg, Int.reduceEq, ↓reduceIte]
  rw [Prog.exchanges_of_perform hashes, Prog.eval_of_perform hashes]
  simp only [ne_eq, not_true_eq_false, ↓reduceIte]
  rw [Prog.exchanges_of_perform makes, Prog.eval_of_perform makes]
  cases created with
  | none =>
      refine ⟨fun _ exchange made => ?_, nofun, ?_⟩
      · simp only [List.mem_cons] at made
        rcases made with rfl | rfl | rfl | made
        · rfl
        · rfl
        · rfl
        · exact not_acknowledges_fail made
      · exact congrArg AuthState.table (eval_respond _ _ _ _)
  | some newId =>
      refine ⟨nofun, ?_, congrArg AuthState.table (eval_respond _ _ _ _)⟩
      rintro _ ⟨⟩
      exact ⟨_, .tail _ (.tail _ (.tail _ (.head _)))⟩

end Handlers

/-- The rows of a user are the same in two databases. -/
structure Database.SameUser (dialect : Dialect) (username : Bytes) (userId : UInt64)
    (before after : Database) : Prop where
  users : (after.tables.users.filter fun row =>
      decide (dialect.collate row.username = dialect.collate username)) =
    before.tables.users.filter fun row =>
      decide (dialect.collate row.username = dialect.collate username)
  paths : (after.tables.paths.filter fun row => decide (row.userId = userId)) =
    before.tables.paths.filter fun row => decide (row.userId = userId)

section Login

variable {dialect : Dialect} {username passwordHash : Bytes}
  {before after later : Database} {user : UserRow} {root : PathRow}

theorem flatMap_ite {α β : Type} (holds : α → Prop) [DecidablePred holds]
    (rows : α → List β) (list : List α) :
    (list.flatMap fun item => if holds item then rows item else []) =
      (list.filter fun item => decide (holds item)).flatMap rows := by
  induction list with
  | nil => rfl
  | cons item list inductionHypothesis =>
      by_cases held : holds item <;> simp [held, inductionHypothesis]

theorem filter_samePath (userId : UInt64) (path : Bytes) (paths : List PathRow) :
    paths.filter (dialect.samePath userId.toNat path) =
      (paths.filter fun row => decide (row.userId = userId)).filter
        (dialect.samePath userId.toNat path) := by
  rw [List.filter_filter]
  congr 1
  funext row
  simp only [Dialect.samePath, UInt64.toNat_inj]
  by_cases owned : row.userId = userId <;> simp [owned]

/-- The login of a registered user finds the stored rows. -/
theorem DbSession.Registered.run_selectLogin
    (registered : Registered dialect username passwordHash before after user root)
    (same : Database.SameUser dialect username user.id after later)
    (safe : Sql.Safe username) (short : username.length < 750) :
    dialect.run (statementText 1024 (selectLoginText username)) later =
      .rows [[.number user.id.toNat, .text passwordHash, .number root.id.toNat]] := by
  have users : (later.tables.users.filter fun row =>
      decide (dialect.collate row.username = dialect.collate username)) = [user] := by
    have others : (before.tables.users.filter fun row =>
        decide (dialect.collate row.username = dialect.collate username)) = [] := by
      rw [List.filter_eq_nil_iff]
      intro other listed
      simpa using registered.freeName other listed
    rw [same.users, registered.users, List.filter_append, others, registered.user_eq]
    simp
  have roots : later.tables.paths.filter
      (dialect.samePath user.id.toNat (ascii "/")) = [root] := by
    have others : before.tables.paths.filter
        (dialect.samePath user.id.toNat (ascii "/")) = [] := by
      rw [List.filter_eq_nil_iff]
      intro other listed
      simp [registered.freeRoot other listed]
    have itself : dialect.samePath user.id.toNat (ascii "/") root = true := by
      simp [Dialect.samePath, registered.root_eq, Database.newPath]
    rw [filter_samePath, same.paths, ← filter_samePath, registered.paths,
      List.filter_append, others]
    simp [itself]
  rw [dialect.run_selectLogin safe short, Dialect.execute, flatMap_ite, users,
    List.flatMap_singleton, roots, registered.user_eq]
  rfl

end Login

/-- Nothing fails while a session is created. -/
structure AuthChoice.Works (table : SessionTable) (choice : AuthChoice) : Prop where
  faults : choice.faults = noFaults
  allocated : choice.allocated = true
  fresh : table.drawsFresh
    (choice.draws.take SessionTable.sessionIdGenerationAttempts) = true

/-- A login is acknowledged with the identifier of a new session of the user. -/
def LogsIn (dialect : Dialect) (crypt : Crypt) (clientFd : Int) (task : HandlerTask)
    (choices : Nat → AuthChoice) (state : AuthState) (context : SessionContext) :
    Prop :=
  ∃ sessionId sent, ⟨.send (Packet.init .ack .ok sessionId []), sent⟩ ∈
      task.handleLogin.exchanges (performAuth dialect crypt clientFd) choices state ∧
    let table := (task.handleLogin.eval (performAuth dialect crypt clientFd) choices
      state).2.table
    table.boundId clientFd = some sessionId ∧ table.contextOf sessionId = some context

/-- A registered user can log in exactly if the name has fewer than 64 bytes. -/
theorem login_after_register_iff (dialect : Dialect) (crypt : Crypt)
    {register login : HandlerTask} {username password : Bytes}
    (credentials : register.credentials = some (username, password))
    (samePayload : login.packet.payload = register.packet.payload)
    (safe : Sql.Safe username) {registerFd : Int} {choices : Nat → AuthChoice}
    {before after : AuthState}
    (registered : (register.handleRegister.eval
      (performAuth dialect crypt registerFd) choices before).2 = after)
    (acknowledged : ∃ exchange ∈ register.handleRegister.exchanges
      (performAuth dialect crypt registerFd) choices before,
        exchange.1.acknowledges = true) :
    ∃ user root,
      after.database.tables.users = before.database.tables.users ++ [user] ∧
      after.database.tables.paths = before.database.tables.paths ++ [root] ∧
      user.username = username ∧
      ∀ (later : AuthState) (clientFd : Int) (loginChoices : Nat → AuthChoice),
        Database.SameUser dialect username user.id after.database later.database →
        later.table.WellFormed → 0 ≤ clientFd →
        later.table.boundId clientFd = none →
        (∀ index, (loginChoices index).Works later.table) →
          (LogsIn dialect crypt clientFd login loginChoices later
              (SessionTable.initialContext user.id username root.id) ↔
            username.length < SessionTable.usernameSize) := by
  subst registered
  obtain ⟨exchange, made, acknowledges⟩ := acknowledged
  obtain ⟨random, output, hashed, stored, isAfter⟩ :=
    handleRegister_acknowledged credentials made acknowledges
  obtain ⟨nonempty, short⟩ := credentials_length credentials
  obtain ⟨hashSafe, noNul, hashShort⟩ :=
    crypt.plain _ _ _ hashed (safe_generateSalt random)
  have sizes : cryptOutputSize = 384 := rfl
  have outcome := (@daoAuthRegister_registers dialect before.database username output
    safe hashSafe (by omega)).call (choices 2).faults
  obtain ⟨user, root, isRegistered⟩ := (outcome.resolve_left fun failed =>
    failed.1 stored).2
  rw [← isAfter] at isRegistered
  refine ⟨user, root, isRegistered.users, isRegistered.paths,
    by rw [isRegistered.user_eq], ?_⟩
  intro later clientFd loginChoices same wellFormed nonnegative unbound works
  have loginCredentials : login.credentials = some (username, password) := by
    rw [← credentials, HandlerTask.credentials, HandlerTask.credentials,
      HandlerTask.copyPayload, HandlerTask.copyPayload, samePayload]
  have found := daoAuthGetLoginInfo_present noNul hashShort
    (isRegistered.run_selectLogin same safe (by omega))
  have runs := handleLogin_run loginCredentials (works 0).faults found
    (crypt.again _ _ _ hashed) (Eq.refl (later.table.sessionCreate clientFd user.id
      username root.id (loginChoices 2).allocated (loginChoices 2).draws))
  obtain ⟨refuses, accepts, table⟩ := runs
  rcases wellFormed.sessionCreate_cases clientFd user.id username root.id
    (loginChoices 2).allocated (loginChoices 2).draws with
    failed | ⟨sessionId, created, -, -, fits, -, -, -, represents⟩
  · constructor
    · rintro ⟨sessionId, sent, made, -⟩
      cases refuses (by rw [failed]) _ made
    · intro fits
      have creates := SessionTable.sessionCreate_of_drawsFresh nonnegative
        (wellFormed.boundId_eq_none.mp unbound) user.id nonempty fits root.id
        (works 2).fresh
      rw [(works 2).allocated] at failed
      rw [failed] at creates
      cases creates
  · constructor
    · exact fun _ => fits
    · intro _
      obtain ⟨sent, made⟩ := accepts sessionId created
      refine ⟨sessionId, sent, made, ?_⟩
      dsimp only
      rw [table, represents.boundId_eq, represents.contextOf_eq]
      simp

section Examples

/-- A hash that depends on nothing. -/
def someCrypt : Crypt where
  hash := fun _ _ => some (ascii "$6$salt$hash")
  again := fun _ _ _ same => same
  plain := by
    rintro _ _ _ ⟨⟩ _
    decide +kernel

/-- Every call succeeds, and the identifier drawn is sixteen ones. -/
def AuthChoice.ordinary : AuthChoice where
  toChoice := .ordinary
  random := some (Vector.replicate 16 0)
  allocated := true
  draws := [⟨some ⟨Vector.replicate 16 1⟩, some ⟨0, 0⟩⟩]

def noAccounts : AuthState := ⟨.empty, .create⟩

/-- A request of a client without a session. -/
def accountTask (payload : Bytes) : HandlerTask where
  packet := ⟨0, 0, .empty, payload⟩
  session := ⟨⟨0, 0, [], []⟩, by decide⟩

/-- The account `a` with the password `b`. -/
theorem login_after_register_of_a :
    ∃ (after : AuthState) (user : UserRow) (root : PathRow),
      after.database.tables.users = [user] ∧
      LogsIn .plain someCrypt 3 (accountTask (ascii "a\nb")) (fun _ => .ordinary) after
        (SessionTable.initialContext user.id (ascii "a") root.id) := by
  obtain ⟨user, root, users, paths, name, logs⟩ :=
    login_after_register_iff .plain someCrypt
      (show (accountTask (ascii "a\nb")).credentials = some (ascii "a", ascii "b") by
        decide) (Eq.refl (accountTask (ascii "a\nb")).packet.payload) (by decide +kernel)
      (Eq.refl ((accountTask (ascii "a\nb")).handleRegister.eval
        (performAuth .plain someCrypt 3) (fun _ => .ordinary) noAccounts).2)
      (List.any_eq_true.mp (by decide +kernel))
  refine ⟨_, user, root, users, (logs _ 3 _ ⟨rfl, rfl⟩
    SessionTable.wellFormed_create (by decide) (by decide) fun _ => ?_).mpr (by decide)⟩
  exact ⟨rfl, rfl, by decide⟩

/-- A name of 64 letters is registered, but its login is not acknowledged. -/
theorem long_name_cannot_log_in :
    let task := accountTask (List.replicate 64 97 ++ ascii "\nb")
    let register := task.handleRegister.eval (performAuth .plain someCrypt 3)
      (fun _ => .ordinary) noAccounts
    (∃ exchange ∈ task.handleRegister.exchanges (performAuth .plain someCrypt 3)
      (fun _ => .ordinary) noAccounts, exchange.1.acknowledges = true) ∧
    ∀ exchange ∈ task.handleLogin.exchanges (performAuth .plain someCrypt 3)
      (fun _ => .ordinary) register.2, exchange.1.acknowledges = false := by
  refine ⟨List.any_eq_true.mp (by decide +kernel), fun exchange made => ?_⟩
  have none := List.all_eq_true.mp (show List.all _
    (fun exchange => !exchange.1.acknowledges) = true by decide +kernel) exchange made
  simpa using none

end Examples

end CloudDrive
