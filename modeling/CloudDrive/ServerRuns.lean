import CloudDrive.ServerSteps

/-!
# Runs of the server

Every action of the main loop and of the workers keeps the server orderly.
Hence an open client descriptor always has one keeper, and a closed one is
remembered nowhere.
-/

namespace CloudDrive.Server

open TimerWheel SessionTable

variable {config : PoolConfig} {server next : Server}

theorem Orderly.not_pending (orderly : Orderly server) {fd : Int}
    (notOpen : fd ∉ server.openFds) : fd ∉ server.pending :=
  fun waiting => notOpen (orderly.pending_watched fd waiting).isOpen

/-- A change of the batch or of the timer flag keeps the server orderly as long
as the batch still names distinct watched clients. -/
theorem Orderly.rebatch (orderly : Orderly server) {batch : List ReadyEvent}
    {timerReady : Bool}
    (nodup : ({ server with batch } : Server).pending.Nodup)
    (registered : ∀ fd ∈ ({ server with batch } : Server).pending,
      fd ∈ server.epoll) :
    Orderly { server with batch, timerReady } where
  linked := orderly.linked
  wellFormed := orderly.wellFormed
  kept := fun fd =>
    (orderly.kept fd).of_sameAt ⟨Iff.rfl, Iff.rfl, rfl, rfl, rfl⟩
  nonnegative := orderly.nonnegative
  pending_nodup := nodup
  pending_watched := fun fd waiting =>
    (orderly.watched_of_registered (registered fd waiting)).of_sameAt
      ⟨Iff.rfl, Iff.rfl, rfl, rfl, rfl⟩
  detached_unbound := orderly.detached_unbound

theorem Orderly.step_wait (orderly : Orderly server) {batch : List ReadyEvent}
    (stepped : step config server (.wait batch) = some next) :
    Orderly next := by
  simp only [step] at stepped
  split at stepped
  · rename_i guard
    cases stepped
    exact orderly.rebatch guard.2.2.2.1 guard.2.2.2.2
  · cases stepped

theorem accept_cases {answers : AcceptAnswers}
    (stepped : step config server (.accept answers) = some next) :
    ∃ batch, server.batch = .listen :: batch ∧
      (∀ fd, answers.accepted = some fd → 0 ≤ fd ∧ fd ∉ server.openFds) ∧
      next = handleAcceptEvent { server with batch } answers := by
  simp only [step] at stepped
  split at stepped
  · rename_i batch _ head
    split at stepped
    · rename_i guard
      refine ⟨batch, head, fun fd accepted => ?_, (Option.some.inj stepped).symm⟩
      simpa [accepted] using guard
    · cases stepped
  · cases stepped

theorem Orderly.step_accept (orderly : Orderly server)
    {answers : AcceptAnswers}
    (stepped : step config server (.accept answers) = some next) :
    Orderly next := by
  obtain ⟨batch, head, fresh, rfl⟩ := accept_cases stepped
  have pending : ({ server with batch } : Server).pending = server.pending := by
    simp [Server.pending, head]
  cases accepted : answers.accepted with
  | none =>
      simp only [handleAcceptEvent, accepted]
      exact @Orderly.rebatch server orderly batch server.timerReady
        (pending ▸ orderly.pending_nodup)
        fun fd waiting =>
          (orderly.pending_watched fd (pending ▸ waiting)).registered
  | some fd =>
      obtain ⟨nonnegative, notOpen⟩ := fresh fd accepted
      have forgotten := orderly.forgotten notOpen
      have touched := @Orderly.touched_batch server orderly fd batch
        (by rw [pending]) (pending ▸ orderly.not_pending notOpen)
      exact touched.orderly_handleAcceptEvent orderly
        ⟨forgotten.notOpen, forgotten.unregistered, forgotten.untracked,
          forgotten.unserved, forgotten.unbound⟩ nonnegative accepted

theorem Orderly.step_timer (orderly : Orderly server) {read : Bool}
    (stepped : step config server (.timer read) = some next) :
    Orderly next := by
  simp only [step] at stepped
  split at stepped
  · rename_i batch _ head
    cases stepped
    have pending :
        ({ server with batch } : Server).pending = server.pending := by
      simp [Server.pending, head]
    exact orderly.rebatch (pending ▸ orderly.pending_nodup) fun fd waiting =>
      (orderly.pending_watched fd (pending ▸ waiting)).registered
  · cases stepped

theorem Orderly.step_client (orderly : Orderly server)
    {answers : ClientAnswers}
    (stepped : step config server (.client answers) = some next) :
    Orderly next := by
  simp only [step] at stepped
  split at stepped
  · rename_i fd hangup readable batch idle head
    cases stepped
    obtain ⟨touched, watched⟩ := orderly.touched_client head
    exact touched.orderly_handleClientEvent orderly
      ⟨watched.isOpen, watched.registered, watched.tracked, watched.unserved⟩
      (orderly.nonnegative fd watched.isOpen) (by simpa [mainFree] using idle) ..
  · cases stepped

theorem Orderly.step_enqueue (orderly : Orderly server) {allocated : Bool}
    (stepped : step config server (.enqueue allocated) = some next) :
    Orderly next := by
  simp only [step] at stepped
  split at stepped
  · cases stepped
  · rename_i task enqueuing
    have counted : ∀ fd, server.servers fd =
        ({ server with enqueuing := none } : Server).servers fd +
          if task.clientFd = fd then 1 else 0 := by
      intro fd
      simp only [servers_eq, enqueuing, Option.toList_some, Option.toList_none,
        List.map_cons, List.map_nil, List.count_cons, List.count_nil,
        beq_iff_eq]
      omega
    have served : Served server task.clientFd := by
      refine orderly.served ?_
      rw [counted, if_pos rfl]
      omega
    have nonnegative := orderly.nonnegative _ served.isOpen
    have notPending : task.clientFd ∉ server.pending := fun waiting =>
      served.unregistered (orderly.pending_watched _ waiting).registered
    have touched : Touched task.clientFd server server :=
      ⟨orderly.linked, orderly.wellFormed, fun _ _ => SameAt.refl _ _,
        fun _ => Or.inl, List.Sublist.refl _, notPending,
        fun _ member _ _ => member⟩
    split at stepped
    · cases stepped
      have dropped := touched.tasks none server.queue server.running
        (fun other different => by
          have := counted other
          rw [if_neg (Ne.symm different)] at this
          exact this.symm)
        (fun _ member _ _ => member)
      have unserved := counted task.clientFd
      rw [if_pos rfl, served.served] at unserved
      exact dropped.orderly_closeClient orderly nonnegative true (by omega)
        (Or.inl rfl)
    · split at stepped
      · cases stepped
        have same : ∀ fd, ({ server with
            enqueuing := none
            queue := server.queue ++ [task] } : Server).servers fd =
              server.servers fd := by
          intro fd
          simp only [servers_eq, enqueuing, Option.toList_some,
            Option.toList_none, List.map_cons, List.map_nil, List.map_append,
            List.count_append, List.count_cons, List.count_nil]
          omega
        exact orderly.of_kept orderly.linked orderly.wellFormed
          (fun fd => Or.inl ⟨Iff.rfl, Iff.rfl, rfl, same fd, rfl⟩)
          (fun _ => Or.inl) (List.Sublist.refl _)
          (fun fd _ => ⟨Iff.rfl, Iff.rfl, rfl, same fd, rfl⟩)
          (fun job member _ => Or.inr
            ⟨member, Iff.rfl, Iff.rfl, rfl, same _, rfl⟩)
      · cases stepped

theorem Orderly.step_expire (orderly : Orderly server) {now : Option Timespec}
    (stepped : step config server (.expire now) = some next) :
    Orderly next := by
  simp only [step] at stepped
  split at stepped
  · rename_i guard
    cases stepped
    have noBatch : server.batch = [] := List.isEmpty_iff.mp guard.2.1
    have reset := @Orderly.rebatch server orderly server.batch false
      orderly.pending_nodup fun fd waiting =>
        (orderly.pending_watched fd waiting).registered
    exact reset.expireIdle noBatch now
  · cases stepped

theorem Orderly.step_start (orderly : Orderly server)
    (stepped : step config server .start = some next) : Orderly next := by
  simp only [step] at stepped
  split at stepped
  · cases stepped
  · rename_i task queue head
    split at stepped
    · cases stepped
      have same : ∀ fd, ({ server with
          queue
          running := server.running ++ [⟨task, .serving⟩] } :
            Server).servers fd = server.servers fd := by
        intro fd
        simp only [servers_eq, head, List.map_append, List.map_cons,
          List.map_nil, List.count_append, List.count_cons, List.count_nil]
        omega
      refine orderly.of_kept orderly.linked orderly.wellFormed
        (fun fd => Or.inl ⟨Iff.rfl, Iff.rfl, rfl, same fd, rfl⟩)
        (fun _ => Or.inl) (List.Sublist.refl _)
        (fun fd _ => ⟨Iff.rfl, Iff.rfl, rfl, same fd, rfl⟩) ?_
      intro job member isDetached
      rcases List.mem_append.mp member with older | new
      · exact Or.inr ⟨older, Iff.rfl, Iff.rfl, rfl, same _, rfl⟩
      · rw [List.mem_singleton.mp new] at isDetached
        cases isDetached
    · cases stepped

theorem Orderly.step_callSessions (orderly : Orderly server) {worker : Nat}
    {call : SessionCall}
    (stepped : step config server (.callSessions worker call) = some next) :
    Orderly next := by
  simp only [step] at stepped
  split at stepped
  · rename_i task found
    split at stepped
    · rename_i own
      cases stepped
      exact orderly.callSessions found own
    · cases stepped
  · cases stepped

theorem Orderly.step_publish (orderly : Orderly server) {worker : Nat}
    {now : Option Timespec} {allocated published : Bool}
    (stepped : step config server
      (.publish worker now allocated published) = some next) :
    Orderly next := by
  simp only [step] at stepped
  split at stepped
  · rename_i task found
    split at stepped
    · obtain ⟨linked, outcome⟩ := trackAndPublish_cases orderly.linked
        task.clientFd now allocated published
      split at stepped
      · rename_i succeeded
        cases stepped
        rcases outcome with ⟨failed, -⟩ | ⟨deadline, -, deadlines⟩
        · exact (failed succeeded).elim
        · exact orderly.publish found linked deadlines
      · rename_i failed
        cases stepped
        rcases outcome with ⟨-, deadlines⟩ | ⟨deadline, succeeded, -⟩
        · exact orderly.rephase found rfl orderly.wellFormed linked
            (fun _ _ => rfl) deadlines (by simp)
        · exact (failed succeeded).elim
    · cases stepped
  · cases stepped

theorem Orderly.step_detach (orderly : Orderly server) {worker : Nat}
    (stepped : step config server (.detach worker) = some next) :
    Orderly next := by
  simp only [step] at stepped
  split at stepped
  · rename_i task phase found
    split at stepped
    · cases stepped
      obtain ⟨wellFormed, bound⟩ :=
        boundId_sessionDetachFd orderly.wellFormed task.clientFd
      exact orderly.rephase found rfl wellFormed orderly.linked
        (fun other different => by rw [bound, Function.update_of_ne different])
        rfl (fun _ => by simp [bound])
    · cases stepped
  · cases stepped

theorem Orderly.step_close (orderly : Orderly server) {worker : Nat}
    (stepped : step config server (.close worker) = some next) :
    Orderly next := by
  simp only [step] at stepped
  split at stepped
  · rename_i task found
    cases stepped
    exact orderly.close found
  · cases stepped

theorem Orderly.step (orderly : Orderly server) (action : ServerAction)
    (stepped : step config server action = some next) : Orderly next := by
  cases action with
  | wait batch => exact orderly.step_wait stepped
  | accept answers => exact orderly.step_accept stepped
  | timer read => exact orderly.step_timer stepped
  | client answers => exact orderly.step_client stepped
  | enqueue allocated => exact orderly.step_enqueue stepped
  | expire now => exact orderly.step_expire stepped
  | start => exact orderly.step_start stepped
  | callSessions worker call => exact orderly.step_callSessions stepped
  | publish worker now allocated published => exact orderly.step_publish stepped
  | detach worker => exact orderly.step_detach stepped
  | close worker => exact orderly.step_close stepped

theorem orderly_of_run {timeoutSeconds : Nat} {origin : Timespec}
    {wheel : TimerWheel}
    (created : TimerWheel.create timeoutSeconds origin = some wheel)
    {actions : List ServerAction}
    (reached : runFrom (Server.step config) (init wheel) actions =
      some server) : Orderly server :=
  runFrom_invariant (fun _ action _ orderly stepped =>
    orderly.step action stepped) (orderly_init created) reached

/-- After every run each open client descriptor is watched by epoll and the
wheel or served by one task, and not both.  No two workers serve the same
descriptor, and the wheel never reports one that a task serves. -/
theorem open_fd_has_one_keeper {timeoutSeconds : Nat} {origin : Timespec}
    {wheel : TimerWheel}
    (created : TimerWheel.create timeoutSeconds origin = some wheel)
    {actions : List ServerAction}
    (reached : runFrom (Server.step config) (init wheel) actions =
      some server) :
    (∀ fd ∈ server.openFds,
      (Watched server fd ∧ ¬Served server fd) ∨
        (Served server fd ∧ ¬Watched server fd)) ∧
    (∀ (worker other : Nat) (job otherJob : Job),
      server.running[worker]? = some job →
      server.running[other]? = some otherJob →
        job.task.clientFd = otherJob.task.clientFd → worker = other) ∧
    (∀ now fd, fd ∈ (server.wheel.advanceAt now).2 →
      server.servers fd = 0) := by
  have orderly := orderly_of_run created reached
  refine ⟨?_, ?_, ?_⟩
  · intro fd isOpen
    rcases orderly.kept fd with forgotten | watched | served
    · exact (forgotten.notOpen isOpen).elim
    · exact Or.inl ⟨watched, fun served =>
        served.unregistered watched.registered⟩
    · exact Or.inr ⟨served, fun watched =>
        served.unregistered watched.registered⟩
  · intro worker other job otherJob found otherFound same
    exact orderly.job_unique otherFound found same
  · intro now fd reported
    obtain ⟨deadline, tracked, -⟩ :=
      (orderly.linked.advanceAt now).1.due fd reported
    exact (orderly.watched (by simp [tracked])).unserved

/-- A wheel with a timeout of two seconds. -/
def twoSeconds : TimerWheel where
  timeoutSeconds := 2
  slotCount := 3
  currentSecond := 0
  slots := fun _ => []
  fdBuckets := fun _ => []
  size := 0
  nodes := fun _ => none
  fresh := 0

theorem twoSeconds_created :
    TimerWheel.create 2 ⟨0, 0⟩ = some twoSeconds := rfl

/-- A client connects with descriptor 5 at second zero. -/
def connectFive : List ServerAction :=
  [.wait [.listen], .accept ⟨some 5, true, some ⟨0, 0⟩, true⟩]

/-- It asks to log in and is served by the only worker. -/
def serveFive : List ServerAction :=
  connectFive ++
    [.wait [.client 5 false true],
      .client ⟨true, some (Packet.init .loginReq .ok .empty (ascii "bob 1")),
        none, true, true, true⟩,
      .enqueue true, .start]

theorem open_fd_has_one_keeper_serving :
    ∃ server, runFrom (Server.step ⟨1, 1⟩) (init twoSeconds) serveFive =
        some server ∧ 5 ∈ server.openFds ∧
      ((Watched server 5 ∧ ¬Served server 5) ∨
        (Served server 5 ∧ ¬Watched server 5)) := by
  have ends : (runFrom (Server.step ⟨1, 1⟩) (init twoSeconds) serveFive).any
      (fun server => 5 ∈ server.openFds) = true := by decide
  obtain ⟨server, reached, isOpen⟩ := (Option.any_eq_true _ _).mp ends
  have isOpen : 5 ∈ server.openFds := by simpa using isOpen
  exact ⟨server, reached, isOpen,
    (open_fd_has_one_keeper twoSeconds_created reached).1 5 isOpen⟩

/-- After every run a closed descriptor has no binding, no deadline, no
registration, no task and no pending event.  A step that closes a descriptor
leaves it so, and a connection that is accepted with its number starts without
a session, with a deadline of its own and with no event to handle. -/
theorem closed_fd_is_forgotten {timeoutSeconds : Nat} {origin : Timespec}
    {wheel : TimerWheel}
    (created : TimerWheel.create timeoutSeconds origin = some wheel)
    {actions : List ServerAction}
    (reached : runFrom (Server.step config) (init wheel) actions =
      some server) :
    (∀ fd, fd ∉ server.openFds →
      Forgotten server fd ∧ fd ∉ server.pending) ∧
    (∀ action next fd, Server.step config server action = some next →
      fd ∈ server.openFds → fd ∉ next.openFds →
        Forgotten next fd ∧ fd ∉ next.pending) ∧
    (∀ answers next fd,
      Server.step config server (.accept answers) = some next →
        answers.accepted = some fd →
          boundId next.sessions fd = none ∧ fd ∉ next.pending ∧
            next.servers fd = 0 ∧
            (fd ∈ next.openFds → ∃ now, answers.now = some now ∧
              deadlineOf next.wheel fd =
                some (now.addSeconds server.wheel.timeoutSeconds))) := by
  have orderly := orderly_of_run created reached
  refine ⟨fun fd notOpen => ⟨orderly.forgotten notOpen,
    orderly.not_pending notOpen⟩, ?_, ?_⟩
  · intro action next fd stepped _ notOpen
    have orderlyNext := orderly.step action stepped
    exact ⟨orderlyNext.forgotten notOpen, orderlyNext.not_pending notOpen⟩
  · intro answers next fd stepped accepted
    obtain ⟨batch, head, fresh, rfl⟩ := accept_cases stepped
    have notOpen := (fresh fd accepted).2
    have forgotten := orderly.forgotten notOpen
    obtain ⟨sessions, tasks, sameBatch, deadline⟩ := @handleAcceptEvent_fresh
      { server with batch } fd orderly.linked answers accepted
    refine ⟨by rw [sessions]; exact forgotten.unbound, ?_, ?_, deadline⟩
    · rw [pending, sameBatch]
      have notPending := orderly.not_pending notOpen
      simpa [Server.pending, head] using notPending
    · rw [servers, tasks]
      exact forgotten.unserved

/-- The client hangs up, and another one gets its number. -/
def hangUpFive : List ServerAction :=
  connectFive ++
    [.wait [.client 5 true false, .listen],
      .client ⟨true, none, none, true, true, true⟩]

theorem closed_fd_is_forgotten_hang_up :
    ∃ server, runFrom (Server.step ⟨1, 1⟩) (init twoSeconds) hangUpFive =
        some server ∧ Forgotten server 5 ∧
      ∃ next, Server.step ⟨1, 1⟩ server
          (.accept ⟨some 5, true, some ⟨9, 0⟩, true⟩) = some next ∧
        boundId next.sessions 5 = none := by
  have ends : (runFrom (Server.step ⟨1, 1⟩) (init twoSeconds) hangUpFive).any
      (fun server => 5 ∉ server.openFds ∧
        (Server.step ⟨1, 1⟩ server
          (.accept ⟨some 5, true, some ⟨9, 0⟩, true⟩)).isSome) = true := by
    decide
  obtain ⟨server, reached, holds⟩ := (Option.any_eq_true _ _).mp ends
  obtain ⟨notOpen, accepts⟩ := of_decide_eq_true holds
  obtain ⟨next, stepped⟩ := Option.isSome_iff_exists.mp accepts
  have forgotten := closed_fd_is_forgotten twoSeconds_created reached
  exact ⟨server, reached, (forgotten.1 5 notOpen).1, next, stepped,
    (forgotten.2.2 _ next 5 stepped rfl).1⟩

end CloudDrive.Server
