import CloudDrive.ServerCustody

/-!
# The steps of the server

One lemma for each event of the main thread and for each step of a worker says
that it keeps the server orderly.
-/

namespace CloudDrive.Server

open TimerWheel SessionTable

section Servers

variable {server : Server} {fd : Int}

theorem servers_eq (server : Server) (fd : Int) :
    server.servers fd =
      (server.enqueuing.toList.map Task.clientFd).count fd +
        (server.queue.map Task.clientFd).count fd +
        (server.running.map fun job => job.task.clientFd).count fd := by
  simp [servers, tasks, List.count_append, Function.comp_def, Nat.add_assoc]

/-- Replacing a job by one for the same descriptor changes no count. -/
theorem servers_set {worker : Nat} {job altered : Job}
    (found : server.running[worker]? = some job)
    (same : altered.task.clientFd = job.task.clientFd) (fd : Int) :
    ({ server with running := server.running.set worker altered } :
      Server).servers fd = server.servers fd := by
  obtain ⟨inRange, here⟩ := List.getElem?_eq_some_iff.mp found
  have unchanged : (server.running.set worker altered).map
      (fun job => job.task.clientFd) =
        server.running.map fun job => job.task.clientFd := by
    rw [List.map_set, same, ← here]
    exact List.ext_getElem (by simp) fun index _ _ => by
      by_cases at_worker : worker = index
      · subst at_worker; simp
      · simp [at_worker]
  rw [servers_eq, servers_eq]
  simp only [unchanged]

theorem servers_eraseIdx {worker : Nat} {job : Job}
    (found : server.running[worker]? = some job) (fd : Int) :
    server.servers fd =
      ({ server with running := server.running.eraseIdx worker } :
        Server).servers fd + if job.task.clientFd = fd then 1 else 0 := by
  obtain ⟨inRange, rfl⟩ := List.getElem?_eq_some_iff.mp found
  have split : (server.running.map fun job => job.task.clientFd).count fd =
      ((server.running.eraseIdx worker).map
        fun job => job.task.clientFd).count fd +
        if server.running[worker].task.clientFd = fd then 1 else 0 := by
    have perm := List.getElem_cons_eraseIdx_perm inRange
    have counted := (perm.map fun job => job.task.clientFd).count_eq fd
    rw [← counted, List.map_cons, List.count_cons]
    simp
  rw [servers_eq, servers_eq]
  simp only [split]
  omega

end Servers

variable {before server after : Server} {fd : Int}

/-- The client at the head of the batch has been taken out of it. -/
theorem Orderly.touched_client (orderly : Orderly server)
    {hangup readable : Bool} {batch : List ReadyEvent}
    (head : server.batch = .client fd hangup readable :: batch) :
    Touched fd server { server with batch } ∧ Watched server fd := by
  have pending : server.pending =
      fd :: ({ server with batch } : Server).pending := by
    simp [Server.pending, head]
  have nodup := orderly.pending_nodup
  rw [pending, List.nodup_cons] at nodup
  exact ⟨orderly.touched_batch fd (by rw [pending]; exact List.sublist_cons_self _ _)
      nodup.1, orderly.pending_watched fd (by simp [pending])⟩

theorem Touched.orderly_replyEventError (touched : Touched fd before server)
    (orderly : Orderly before) (watched : Watched server fd)
    (nonnegative : 0 ≤ fd) (sent : Bool) :
    Orderly (replyEventError server fd sent) := by
  cases sent with
  | true =>
      exact touched.orderly_of_unserved orderly nonnegative
        (Or.inr (Or.inl watched)) watched.unserved
  | false =>
      exact touched.orderly_closeClient orderly nonnegative _ watched.unserved
        (Or.inl rfl)

theorem Touched.orderly_enqueuing (touched : Touched fd before server)
    (orderly : Orderly before) (watched : Watched server fd)
    (nonnegative : 0 ≤ fd) (idle : server.enqueuing = none) {task : Task}
    (serves : task.clientFd = fd) :
    Orderly { server with
      wheel := server.wheel.remove fd
      epoll := server.epoll.erase fd
      enqueuing := some task } := by
  obtain ⟨linked, -, deadlines⟩ := touched.linked.remove nonnegative
  have unwatched := touched.watching (server.wheel.remove fd)
    (server.epoll.erase fd) linked
    (fun other different => by rw [deadlines, Function.update_of_ne different])
    (fun other different => by simp [different])
  have counted : ∀ other, ({ server with
      wheel := server.wheel.remove fd
      epoll := server.epoll.erase fd
      enqueuing := some task } : Server).servers other =
        server.servers other + if fd = other then 1 else 0 := by
    intro other
    simp only [servers_eq, idle, Option.toList_some, Option.toList_none,
      List.map_cons, List.map_nil, List.count_cons, List.count_nil, serves,
      beq_iff_eq]
    omega
  have handed := unwatched.tasks (some task) server.queue server.running
    (fun other different => (counted other).trans
      (by simp [different.symm]; rfl))
    (fun _ member _ _ => member)
  refine handed.orderly orderly nonnegative (Or.inr (Or.inr ?_)) ?_
  · refine ⟨watched.isOpen, by simp, by simp [deadlines], ?_⟩
    rw [counted, watched.unserved]
    simp
  · intro job member _ same
    exact (@servers_pos_of_mem server job member
      (same ▸ watched.unserved)).elim

theorem Touched.orderly_dispatch (touched : Touched fd before server)
    (orderly : Orderly before) (watched : Watched server fd)
    (nonnegative : 0 ≤ fd) (idle : server.enqueuing = none) (packet : Packet)
    (session : Option SessionContext) (transferAllocated : Bool) :
    Orderly (dispatch server fd packet session transferAllocated) := by
  unfold dispatch
  split
  · split
    · obtain ⟨linked, -, deadlines⟩ := touched.linked.remove nonnegative
      have removed := touched.watching (server.wheel.remove fd) server.epoll
        linked (fun other different => by
          rw [deadlines, Function.update_of_ne different])
        (fun _ _ => Iff.rfl)
      exact removed.orderly_closeClient orderly nonnegative _ watched.unserved
        (Or.inl rfl)
    · exact touched.orderly_enqueuing orderly watched nonnegative idle rfl
  · exact touched.orderly_enqueuing orderly watched nonnegative idle rfl

theorem Touched.orderly_handleClientEvent (touched : Touched fd before server)
    (orderly : Orderly before) (watched : Watched server fd)
    (nonnegative : 0 ≤ fd) (idle : server.enqueuing = none)
    (hangup readable : Bool) (answers : ClientAnswers) :
    Orderly (handleClientEvent server fd hangup readable answers) := by
  have closed := touched.orderly_closeClient orderly nonnegative true
    watched.unserved (Or.inl rfl)
  unfold handleClientEvent
  split
  · exact closed
  split
  · exact touched.orderly_of_unserved orderly nonnegative
      (Or.inr (Or.inl watched)) watched.unserved
  split
  · exact closed
  split
  · exact closed
  · rename_i packet _
    split
    · split
      · exact touched.orderly_replyEventError orderly watched nonnegative _
      · exact touched.orderly_dispatch orderly watched nonnegative idle ..
    · rcases touched.wellFormed.sessionAuthorize_cases fd packet.sessionId
        answers.now answers.bindingAllocated with ⟨failed, -⟩ |
        ⟨context, authorized, -, -, -, -, represents⟩
      · rw [failed]
        exact touched.orderly_replyEventError orderly watched nonnegative _
      · have pair : sessionAuthorize server.sessions fd packet.sessionId
            answers.now answers.bindingAllocated =
          (some context, (sessionAuthorize server.sessions fd packet.sessionId
            answers.now answers.bindingAllocated).2) := by
          rw [← authorized]
        rw [pair]
        have bound := touched.sessions represents.wellFormed
          fun other different => by
            rw [represents.boundId_eq, Function.update_of_ne different]
        exact bound.orderly_dispatch orderly ⟨watched.isOpen,
          watched.registered, watched.tracked, watched.unserved⟩ nonnegative
          idle ..

/-- Tracking a descriptor fails and changes nothing, or sets its deadline. -/
theorem track_cases {wheel : TimerWheel} (linked : WellLinked wheel) (fd : Int)
    (now : Option Timespec) (allocated : Bool) :
    WellLinked (track wheel fd now allocated).2 ∧
      ((track wheel fd now allocated).1 ≠ 0 ∧
          deadlineOf (track wheel fd now allocated).2 = deadlineOf wheel ∨
        ∃ time, now = some time ∧ (track wheel fd now allocated).1 = 0 ∧
          deadlineOf (track wheel fd now allocated).2 =
            Function.update (deadlineOf wheel) fd
              (some (time.addSeconds wheel.timeoutSeconds))) := by
  unfold track
  split
  · exact ⟨linked, Or.inl ⟨by simp, rfl⟩⟩
  · cases now with
    | none => exact ⟨linked, Or.inl ⟨by simp, rfl⟩⟩
    | some now =>
        have armed := linked.trackLocked fd now allocated
        refine ⟨armed.linked, ?_⟩
        rcases armed.outcome with ⟨succeeded, deadlines⟩ | ⟨failed, deadlines⟩
        · exact Or.inr ⟨now, rfl, succeeded, deadlines⟩
        · exact Or.inl ⟨by simp [failed], deadlines⟩

/-- So does tracking and publishing it. -/
theorem trackAndPublish_cases (linked : WellLinked server.wheel) (fd : Int)
    (now : Option Timespec) (allocated published : Bool) :
    WellLinked (trackAndPublish server fd now allocated published).2 ∧
      ((trackAndPublish server fd now allocated published).1 ≠ 0 ∧
          deadlineOf (trackAndPublish server fd now allocated published).2 =
            deadlineOf server.wheel ∨
        ∃ deadline,
          (trackAndPublish server fd now allocated published).1 = 0 ∧
          deadlineOf (trackAndPublish server fd now allocated published).2 =
            Function.update (deadlineOf server.wheel) fd (some deadline)) := by
  cases now with
  | none => exact ⟨linked, Or.inl ⟨by simp [trackAndPublish], rfl⟩⟩
  | some now =>
      have armed := linked.trackAndPublish fd now allocated published
      refine ⟨armed.linked, ?_⟩
      rcases armed.outcome with ⟨succeeded, deadlines⟩ | ⟨failed, deadlines⟩
      · exact Or.inr ⟨_, succeeded, deadlines⟩
      · exact Or.inl ⟨by simp [trackAndPublish, failed], deadlines⟩

/-- An accepted connection finds the sessions, the tasks and the batch as they
were, and stays open only with a deadline counted from now. -/
theorem handleAcceptEvent_fresh (linked : WellLinked server.wheel)
    {answers : AcceptAnswers} (accepted : answers.accepted = some fd) :
    (handleAcceptEvent server answers).sessions = server.sessions ∧
      (handleAcceptEvent server answers).tasks = server.tasks ∧
      (handleAcceptEvent server answers).batch = server.batch ∧
      (fd ∈ (handleAcceptEvent server answers).openFds → ∃ now,
        answers.now = some now ∧
          deadlineOf (handleAcceptEvent server answers).wheel fd =
            some (now.addSeconds server.wheel.timeoutSeconds)) := by
  simp only [handleAcceptEvent, accepted]
  split
  · exact ⟨rfl, rfl, rfl, fun isOpen => by simp [closeClient, closeFd] at isOpen⟩
  · split
    · exact ⟨rfl, rfl, rfl,
        fun isOpen => by simp [closeClient, closeFd] at isOpen⟩
    · rename_i succeeded
      refine ⟨rfl, rfl, rfl, fun _ => ?_⟩
      rcases (track_cases linked fd answers.now answers.allocated).2 with
        ⟨failed, -⟩ | ⟨now, read, -, deadlines⟩
      · exact (succeeded failed).elim
      · exact ⟨now, read, by simp [deadlines]⟩

theorem Touched.orderly_handleAcceptEvent (touched : Touched fd before server)
    (orderly : Orderly before) (forgotten : Forgotten server fd)
    (nonnegative : 0 ≤ fd) {answers : AcceptAnswers}
    (accepted : answers.accepted = some fd) :
    Orderly (handleAcceptEvent server answers) := by
  simp only [handleAcceptEvent, accepted]
  have opened := touched.opened
  split
  · exact opened.orderly_closeClient orderly nonnegative _ forgotten.unserved
      (Or.inr forgotten.unbound)
  · obtain ⟨linked, outcome⟩ := track_cases touched.linked fd answers.now
      answers.allocated
    have watching := opened.watching
      (server.wheel.track fd answers.now answers.allocated).2
      (insert fd server.epoll) linked
      (fun other different => by
        rcases outcome with ⟨-, deadlines⟩ | ⟨_, -, -, deadlines⟩
        · rw [deadlines]
        · rw [deadlines, Function.update_of_ne different])
      (fun other different => by simp [different])
    split
    · exact watching.orderly_closeClient orderly nonnegative _ forgotten.unserved
        (Or.inr forgotten.unbound)
    · rename_i succeeded
      rcases outcome with ⟨failed, -⟩ | ⟨_, -, -, deadlines⟩
      · exact (succeeded failed).elim
      · exact watching.orderly_of_unserved orderly nonnegative
          (Or.inr (Or.inl ⟨by simp, by simp, by simp [deadlines],
            forgotten.unserved⟩)) forgotten.unserved

/-- What closing a list of idle clients leaves. -/
theorem closeIdleClients_spec (expired : List Int) {server : Server}
    (wellFormed : WellFormed server.sessions) :
    let closed := expired.foldl closeIdleClient server
    WellFormed closed.sessions ∧ closed.wheel = server.wheel ∧
      closed.batch = server.batch ∧ closed.running = server.running ∧
      closed.tasks = server.tasks ∧
      ∀ fd, (fd ∈ closed.openFds ↔ fd ∈ server.openFds ∧ fd ∉ expired) ∧
        (fd ∈ closed.epoll ↔ fd ∈ server.epoll ∧ fd ∉ expired) ∧
        boundId closed.sessions fd =
          if fd ∈ expired then none else boundId server.sessions fd := by
  induction expired generalizing server with
  | nil => simp [wellFormed]
  | cons first expired inductionHypothesis =>
      obtain ⟨wellFormedOne, boundOne⟩ :=
        boundId_sessionDetachFd wellFormed first
      obtain ⟨wellFormedAll, wheel, batch, running, tasks, each⟩ :=
        @inductionHypothesis (closeIdleClient server first) wellFormedOne
      refine ⟨wellFormedAll, wheel, batch, running, tasks, fun fd => ?_⟩
      obtain ⟨openFds, epoll, bound⟩ := each fd
      refine ⟨openFds.trans ?_, epoll.trans ?_, bound.trans ?_⟩
      · simp [closeIdleClient, closeFd]
        tauto
      · simp [closeIdleClient, closeFd]
        tauto
      · simp only [closeIdleClient, closeFd, boundOne, List.mem_cons]
        rcases eq_or_ne fd first with rfl | different
        · simp
        · simp [different]

theorem Orderly.expireIdle (orderly : Orderly server)
    (noBatch : server.batch = []) (now : Option Timespec) :
    Orderly (expireIdle server now) := by
  cases now with
  | none => exact orderly
  | some now =>
      obtain ⟨advanced, -⟩ := orderly.linked.advanceAt now
      let advancedServer :=
        { server with wheel := (server.wheel.advanceAt now).1 }
      obtain ⟨wellFormed, wheel, batch, running, tasks, each⟩ :=
        @closeIdleClients_spec (server.wheel.advanceAt now).2 advancedServer
          orderly.wellFormed
      change Orderly ((server.wheel.advanceAt now).2.foldl closeIdleClient
        advancedServer)
      have same : ∀ fd, fd ∉ (server.wheel.advanceAt now).2 →
          SameAt server ((server.wheel.advanceAt now).2.foldl closeIdleClient
            advancedServer) fd := by
        intro fd silent
        obtain ⟨openFds, epoll, bound⟩ := each fd
        exact ⟨by simp [openFds, silent, advancedServer],
          by simp [epoll, silent, advancedServer],
          by rw [wheel]; exact advanced.kept fd silent,
          by simp only [servers, tasks]; rfl, by simp [bound, silent, advancedServer]⟩
      have noPending : ((server.wheel.advanceAt now).2.foldl closeIdleClient
          advancedServer).pending = [] := by
        rw [Server.pending, batch.trans noBatch]
        rfl
      refine orderly.of_kept (wheel ▸ advanced.linked) wellFormed ?_ ?_
        (by simp [noPending]) (by simp [noPending]) ?_
      · intro fd
        by_cases silent : fd ∉ (server.wheel.advanceAt now).2
        · exact Or.inl (same fd silent)
        · obtain ⟨openFds, epoll, bound⟩ := each fd
          have expired := not_not.mp silent
          obtain ⟨deadline, tracked, -⟩ := advanced.due fd expired
          have watched := @Orderly.watched server fd orderly (by simp [tracked])
          refine Or.inr (Or.inl ⟨by simp [openFds, expired],
            by simp [epoll, expired], ?_, ?_, by simp [bound, expired]⟩)
          · rw [wheel]
            exact advanced.dropped fd expired
          · simp only [servers, tasks]
            exact watched.unserved
      · exact fun fd isOpen => Or.inl ((each fd).1.mp isOpen).1
      · intro job member _
        by_cases silent : job.task.clientFd ∉ (server.wheel.advanceAt now).2
        · exact Or.inr ⟨by rwa [running] at member, same _ silent⟩
        · exact Or.inl (by simp [(each _).2.2, not_not.mp silent])

/-- A call of a handler changes the binding of its own descriptor only. -/
theorem boundId_perform {table : SessionTable} (wellFormed : WellFormed table)
    (call : SessionCall) {other : Int} (different : other ≠ call.clientFd) :
    boundId (call.perform table).2 other = boundId table other := by
  rw [(SessionCall.perform_follows wellFormed call).boundId_eq]
  cases call with
  | create clientFd userId username rootPathId allocated draws =>
      simp only [SessionCall.perform]
      cases (sessionCreate table clientFd userId username rootPathId allocated
        draws).1 with
      | none => rfl
      | some sessionId => exact Function.update_of_ne different _ _
  | authorize clientFd sessionId now allocated =>
      simp only [SessionCall.perform]
      cases (sessionAuthorize table clientFd sessionId now allocated).1 with
      | none => rfl
      | some context => exact Function.update_of_ne different _ _
  | updateCwd clientFd sessionId cwdId cwd now => rfl
  | detach clientFd => exact Function.update_of_ne different _ _

section Workers

variable {worker : Nat} {job : Job}

/-- The descriptor a running job serves is kept by that job alone. -/
theorem Orderly.touched_job (orderly : Orderly server)
    (found : server.running[worker]? = some job) :
    Touched job.task.clientFd server server ∧
      Served server job.task.clientFd ∧ 0 ≤ job.task.clientFd := by
  have served := orderly.served
    (servers_pos_of_mem (List.mem_of_getElem? found))
  have notPending : job.task.clientFd ∉ server.pending := fun waiting =>
    served.unregistered (orderly.pending_watched _ waiting).registered
  exact ⟨⟨orderly.linked, orderly.wellFormed, fun _ _ => SameAt.refl _ _,
    fun _ => Or.inl, List.Sublist.refl _, notPending, fun _ member _ _ => member⟩,
    served, orderly.nonnegative _ served.isOpen⟩

/-- No other job serves the descriptor. -/
theorem Orderly.job_unique (orderly : Orderly server) {other : Nat}
    {otherJob : Job} (found : server.running[worker]? = some job)
    (otherFound : server.running[other]? = some otherJob)
    (same : otherJob.task.clientFd = job.task.clientFd) : other = worker := by
  by_contra different
  have served := (orderly.touched_job found).2.1.served
  rw [servers_eraseIdx found, if_pos rfl] at served
  have listed : otherJob ∈ server.running.eraseIdx worker :=
    List.mem_eraseIdx_iff_getElem?.mpr ⟨other, different, otherFound⟩
  have := @servers_pos_of_mem
    { server with running := server.running.eraseIdx worker } otherJob listed
  rw [same] at this
  omega

theorem Orderly.callSessions (orderly : Orderly server) {task : Task}
    (found : server.running[worker]? = some ⟨task, .serving⟩)
    {call : SessionCall} (own : call.clientFd = task.clientFd) :
    Orderly { server with sessions := (call.perform server.sessions).2 } := by
  obtain ⟨touched, served, nonnegative⟩ := orderly.touched_job found
  have called := touched.sessions
    (SessionCall.perform_follows orderly.wellFormed call).wellFormed
    (fun other different =>
      boundId_perform orderly.wellFormed call (own ▸ different))
  refine called.orderly orderly nonnegative (Or.inr (Or.inr ⟨served.isOpen,
    served.unregistered, served.untracked, served.served⟩)) ?_
  intro other member isDetached same
  obtain ⟨index, otherFound⟩ := List.mem_iff_getElem?.mp member
  obtain rfl := orderly.job_unique found otherFound same
  obtain rfl := Option.some.inj (found.symm.trans otherFound)
  cases isDetached

theorem Orderly.publish (orderly : Orderly server) {task : Task}
    (found : server.running[worker]? = some ⟨task, .serving⟩)
    {wheel : TimerWheel} (linked : WellLinked wheel) {deadline : Timespec}
    (deadlines : deadlineOf wheel = Function.update (deadlineOf server.wheel)
      task.clientFd (some deadline)) :
    Orderly { server with
      wheel
      epoll := insert task.clientFd server.epoll
      running := server.running.eraseIdx worker } := by
  obtain ⟨touched, served, nonnegative⟩ := orderly.touched_job found
  have counted := fun fd => servers_eraseIdx found fd
  have watching := touched.watching wheel (insert task.clientFd server.epoll)
    linked (fun other different => by
      rw [deadlines, Function.update_of_ne different])
    (fun other different => Finset.mem_insert.trans
      (or_iff_right different))
  have given := watching.tasks server.enqueuing server.queue
    (server.running.eraseIdx worker)
    (fun other different => by
      have := counted other
      rw [if_neg (Ne.symm different)] at this
      exact this.symm)
    (fun job member _ _ => List.mem_of_mem_eraseIdx member)
  have unserved := counted task.clientFd
  rw [if_pos rfl, served.served] at unserved
  have none : ({ server with running := server.running.eraseIdx worker } :
      Server).servers task.clientFd = 0 := by omega
  exact given.orderly_of_unserved orderly nonnegative (Or.inr (Or.inl
    ⟨served.isOpen, Finset.mem_insert_self _ _, by simp [deadlines], none⟩)) none

/-- A worker may give its job another phase, and detach its session on the
way. -/
theorem Orderly.rephase (orderly : Orderly server) {task : Task}
    {phase : JobPhase} (found : server.running[worker]? = some job)
    (same : task = job.task) {sessions : SessionTable} {wheel : TimerWheel}
    (wellFormed : WellFormed sessions) (linked : WellLinked wheel)
    (bound : ∀ other, other ≠ task.clientFd →
      boundId sessions other = boundId server.sessions other)
    (deadlines : deadlineOf wheel = deadlineOf server.wheel)
    (detached : phase = .detached →
      boundId sessions task.clientFd = none) :
    Orderly { server with
      sessions
      wheel
      running := server.running.set worker ⟨task, phase⟩ } := by
  subst same
  obtain ⟨touched, served, nonnegative⟩ := orderly.touched_job found
  have counted := fun fd => @servers_set server worker job ⟨job.task, phase⟩
    found rfl fd
  have called := (touched.sessions wellFormed bound).watching wheel server.epoll
    linked (fun _ _ => by rw [deadlines]) (fun _ _ => Iff.rfl)
  have member_cases : ∀ other ∈ server.running.set worker ⟨job.task, phase⟩,
      other ∈ server.running ∨ other = ⟨job.task, phase⟩ :=
    fun other member => List.mem_or_eq_of_mem_set member
  have given := called.tasks server.enqueuing server.queue
    (server.running.set worker ⟨job.task, phase⟩)
    (fun other _ => counted other)
    (fun other member _ different => by
      rcases member_cases other member with older | rfl
      · exact older
      · exact (different rfl).elim)
  refine given.orderly orderly nonnegative (Or.inr (Or.inr ⟨served.isOpen,
    served.unregistered, by rw [deadlines]; exact served.untracked,
    (counted _).trans served.served⟩)) ?_
  intro other member isDetached sameFd
  obtain ⟨index, otherFound⟩ := List.mem_iff_getElem?.mp member
  rw [List.getElem?_set] at otherFound
  rcases eq_or_ne worker index with rfl | different
  · rw [if_pos rfl] at otherFound
    split at otherFound
    · cases otherFound
      exact detached isDetached
    · cases otherFound
  · rw [if_neg different] at otherFound
    exact (different (orderly.job_unique found otherFound sameFd).symm).elim

theorem Orderly.close (orderly : Orderly server) {task : Task}
    (found : server.running[worker]? = some ⟨task, .detached⟩) :
    Orderly (closeFd
      { server with running := server.running.eraseIdx worker }
      task.clientFd) := by
  obtain ⟨touched, served, nonnegative⟩ := orderly.touched_job found
  have counted := fun fd => servers_eraseIdx found fd
  have given := touched.tasks server.enqueuing server.queue
    (server.running.eraseIdx worker)
    (fun other different => by
      have := counted other
      rw [if_neg (Ne.symm different)] at this
      exact this.symm)
    (fun job member _ _ => List.mem_of_mem_eraseIdx member)
  have unserved := counted task.clientFd
  rw [if_pos rfl, served.served] at unserved
  have none : ({ server with running := server.running.eraseIdx worker } :
      Server).servers task.clientFd = 0 := by omega
  exact given.closeFd.orderly_of_unserved orderly nonnegative (Or.inl
    ⟨by simp [closeFd], served.unregistered, served.untracked, none,
      orderly.detached_unbound _ (List.mem_of_getElem? found) rfl⟩) none

end Workers

theorem orderly_init {timeoutSeconds : Nat} {now : Timespec}
    {wheel : TimerWheel}
    (created : TimerWheel.create timeoutSeconds now = some wheel) :
    Orderly (init wheel) where
  linked := wellLinked_create created
  wellFormed := wellFormed_create
  kept := fun fd => by
    have linked := wellLinked_create created
    refine Or.inl ⟨by simp [init], by simp [init], ?_, by simp [init, servers, tasks],
      rfl⟩
    unfold TimerWheel.create at created
    split at created
    · cases created
    · cases created
      rfl
  nonnegative := by simp [init]
  pending_nodup := by simp [init, pending]
  pending_watched := by simp [init, pending]
  detached_unbound := by simp [init]

end CloudDrive.Server
