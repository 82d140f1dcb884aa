import CloudDrive.ServerLoop
import CloudDrive.TimerWheelExpiry

/-!
# Who keeps a client descriptor

At every step boundary a client descriptor is closed and forgotten by every
structure of the server, or it is watched by epoll and by the wheel, or it is
served by one task.  This file states that invariant and gives one lemma for
each operation that moves a descriptor.
-/

namespace CloudDrive.Server

open TimerWheel SessionTable

/-- The server has forgotten the descriptor. -/
structure Forgotten (server : Server) (fd : Int) : Prop where
  notOpen : fd ∉ server.openFds
  unregistered : fd ∉ server.epoll
  untracked : deadlineOf server.wheel fd = none
  unserved : server.servers fd = 0
  unbound : boundId server.sessions fd = none

/-- Epoll and the wheel watch the descriptor and no task refers to it. -/
structure Watched (server : Server) (fd : Int) : Prop where
  isOpen : fd ∈ server.openFds
  registered : fd ∈ server.epoll
  tracked : deadlineOf server.wheel fd ≠ none
  unserved : server.servers fd = 0

/-- One task refers to the descriptor, and neither epoll nor the wheel. -/
structure Served (server : Server) (fd : Int) : Prop where
  isOpen : fd ∈ server.openFds
  unregistered : fd ∉ server.epoll
  untracked : deadlineOf server.wheel fd = none
  served : server.servers fd = 1

def Kept (server : Server) (fd : Int) : Prop :=
  Forgotten server fd ∨ Watched server fd ∨ Served server fd

/-- What holds of the server at every step boundary. -/
structure Orderly (server : Server) : Prop where
  linked : WellLinked server.wheel
  wellFormed : WellFormed server.sessions
  kept : ∀ fd, Kept server fd
  nonnegative : ∀ fd ∈ server.openFds, 0 ≤ fd
  pending_nodup : server.pending.Nodup
  pending_watched : ∀ fd ∈ server.pending, Watched server fd
  detached_unbound : ∀ job ∈ server.running, job.phase = .detached →
    boundId server.sessions job.task.clientFd = none

/-- A step leaves everything about a descriptor as it is. -/
structure SameAt (before after : Server) (fd : Int) : Prop where
  openFds_iff : fd ∈ after.openFds ↔ fd ∈ before.openFds
  epoll_iff : fd ∈ after.epoll ↔ fd ∈ before.epoll
  deadline_eq : deadlineOf after.wheel fd = deadlineOf before.wheel fd
  servers_eq : after.servers fd = before.servers fd
  bound_eq : boundId after.sessions fd = boundId before.sessions fd

section Frames

variable {before middle after server : Server} {fd : Int}

theorem SameAt.refl (server : Server) (fd : Int) : SameAt server server fd :=
  ⟨Iff.rfl, Iff.rfl, rfl, rfl, rfl⟩

theorem SameAt.trans (one : SameAt before middle fd)
    (two : SameAt middle after fd) : SameAt before after fd :=
  ⟨two.openFds_iff.trans one.openFds_iff, two.epoll_iff.trans one.epoll_iff,
    two.deadline_eq.trans one.deadline_eq, two.servers_eq.trans one.servers_eq,
    two.bound_eq.trans one.bound_eq⟩

theorem Watched.of_sameAt (watched : Watched before fd)
    (same : SameAt before after fd) : Watched after fd :=
  ⟨same.openFds_iff.mpr watched.isOpen, same.epoll_iff.mpr watched.registered,
    same.deadline_eq ▸ watched.tracked, same.servers_eq ▸ watched.unserved⟩

theorem Kept.of_sameAt (kept : Kept before fd) (same : SameAt before after fd) :
    Kept after fd := by
  rcases kept with forgotten | watched | served
  · exact Or.inl ⟨fun isOpen => forgotten.notOpen (same.openFds_iff.mp isOpen),
      fun registered => forgotten.unregistered (same.epoll_iff.mp registered),
      same.deadline_eq ▸ forgotten.untracked,
      same.servers_eq ▸ forgotten.unserved, same.bound_eq ▸ forgotten.unbound⟩
  · exact Or.inr (Or.inl (watched.of_sameAt same))
  · exact Or.inr (Or.inr ⟨same.openFds_iff.mpr served.isOpen,
      fun registered => served.unregistered (same.epoll_iff.mp registered),
      same.deadline_eq ▸ served.untracked, same.servers_eq ▸ served.served⟩)

theorem Orderly.forgotten (orderly : Orderly server)
    (notOpen : fd ∉ server.openFds) : Forgotten server fd := by
  rcases orderly.kept fd with forgotten | watched | served
  · exact forgotten
  · exact (notOpen watched.isOpen).elim
  · exact (notOpen served.isOpen).elim

theorem Orderly.watched (orderly : Orderly server)
    (tracked : deadlineOf server.wheel fd ≠ none) : Watched server fd := by
  rcases orderly.kept fd with forgotten | watched | served
  · exact (tracked forgotten.untracked).elim
  · exact watched
  · exact (tracked served.untracked).elim

theorem Orderly.watched_of_registered (orderly : Orderly server)
    (registered : fd ∈ server.epoll) : Watched server fd := by
  rcases orderly.kept fd with forgotten | watched | served
  · exact (forgotten.unregistered registered).elim
  · exact watched
  · exact (served.unregistered registered).elim

theorem Orderly.served (orderly : Orderly server)
    (serving : server.servers fd ≠ 0) : Served server fd := by
  rcases orderly.kept fd with forgotten | watched | served
  · exact (serving forgotten.unserved).elim
  · exact (serving watched.unserved).elim
  · exact served

theorem servers_pos_of_mem {job : Job} (member : job ∈ server.running) :
    server.servers job.task.clientFd ≠ 0 := by
  have listed : job.task.clientFd ∈ server.tasks.map Task.clientFd := by
    simp only [tasks, List.map_append, List.mem_append, List.mem_map]
    exact Or.inr ⟨job.task, ⟨job, member, rfl⟩, rfl⟩
  exact (List.count_pos_iff.mpr listed).ne'

/-- A step keeps the server orderly if it keeps the wheel and the sessions
consistent and leaves each descriptor alone or in one of the three states. -/
theorem Orderly.of_kept (orderly : Orderly before)
    (linked : WellLinked after.wheel) (wellFormed : WellFormed after.sessions)
    (kept : ∀ fd, SameAt before after fd ∨ Kept after fd)
    (nonnegative : ∀ fd ∈ after.openFds, fd ∈ before.openFds ∨ 0 ≤ fd)
    (pending : after.pending.Sublist before.pending)
    (pending_sameAt : ∀ fd ∈ after.pending, SameAt before after fd)
    (detached : ∀ job ∈ after.running, job.phase = .detached →
      boundId after.sessions job.task.clientFd = none ∨
        job ∈ before.running ∧ SameAt before after job.task.clientFd) :
    Orderly after where
  linked := linked
  wellFormed := wellFormed
  kept := fun fd => (kept fd).elim (orderly.kept fd).of_sameAt id
  nonnegative := fun fd isOpen =>
    (nonnegative fd isOpen).elim (orderly.nonnegative fd) id
  pending_nodup := orderly.pending_nodup.sublist pending
  pending_watched := fun fd waiting =>
    (orderly.pending_watched fd (pending.subset waiting)).of_sameAt
      (pending_sameAt fd waiting)
  detached_unbound := fun job member isDetached => by
    rcases detached job member isDetached with unbound | ⟨older, same⟩
    · exact unbound
    · exact same.bound_eq.trans
        (orderly.detached_unbound job older isDetached)

end Frames

/-- Between two boundaries a step has touched at most one descriptor. -/
structure Touched (fd : Int) (before after : Server) : Prop where
  linked : WellLinked after.wheel
  wellFormed : WellFormed after.sessions
  others : ∀ other, other ≠ fd → SameAt before after other
  openFds_subset : ∀ other ∈ after.openFds, other ∈ before.openFds ∨ other = fd
  pending : after.pending.Sublist before.pending
  notPending : fd ∉ after.pending
  detached_old : ∀ job ∈ after.running, job.phase = .detached →
    job.task.clientFd ≠ fd → job ∈ before.running

section Touched

variable {before middle server : Server} {fd : Int}

/-- A step that has touched one descriptor is complete when that descriptor is
in one of the three states. -/
theorem Touched.orderly {after : Server} (touched : Touched fd before after)
    (orderly : Orderly before) (nonnegative : 0 ≤ fd) (kept : Kept after fd)
    (detached : ∀ job ∈ after.running, job.phase = .detached →
      job.task.clientFd = fd → boundId after.sessions fd = none) :
    Orderly after := by
  refine orderly.of_kept touched.linked touched.wellFormed ?_ ?_ touched.pending
    ?_ ?_
  · intro other
    rcases eq_or_ne other fd with rfl | different
    · exact Or.inr kept
    · exact Or.inl (touched.others other different)
  · intro other isOpen
    rcases touched.openFds_subset other isOpen with older | rfl
    · exact Or.inl older
    · exact Or.inr nonnegative
  · intro other waiting
    exact touched.others other fun same => touched.notPending (same ▸ waiting)
  · intro job member isDetached
    rcases eq_or_ne job.task.clientFd fd with same | different
    · exact Or.inl (same ▸ detached job member isDetached same)
    · exact Or.inr ⟨touched.detached_old job member isDetached different,
        touched.others _ different⟩

theorem Touched.orderly_of_unserved {after : Server}
    (touched : Touched fd before after) (orderly : Orderly before)
    (nonnegative : 0 ≤ fd) (kept : Kept after fd)
    (unserved : after.servers fd = 0) : Orderly after :=
  touched.orderly orderly nonnegative kept fun _ member _ same =>
    (servers_pos_of_mem member (same ▸ unserved)).elim

/-- Nothing but the batch has changed, and the descriptor is not in it. -/
theorem Orderly.touched_batch (orderly : Orderly before) (fd : Int)
    {batch : List ReadyEvent}
    (pending : ({ before with batch } : Server).pending.Sublist before.pending)
    (notPending : fd ∉ ({ before with batch } : Server).pending) :
    Touched fd before { before with batch } where
  linked := orderly.linked
  wellFormed := orderly.wellFormed
  others := fun _ _ => ⟨Iff.rfl, Iff.rfl, rfl, rfl, rfl⟩
  openFds_subset := fun _ => Or.inl
  pending := pending
  notPending := notPending
  detached_old := fun _ member _ _ => member

/-- The sessions may change at the touched descriptor. -/
theorem Touched.sessions (touched : Touched fd before middle)
    {sessions : SessionTable} (wellFormed : WellFormed sessions)
    (others : ∀ other, other ≠ fd →
      boundId sessions other = boundId middle.sessions other) :
    Touched fd before { middle with sessions } where
  linked := touched.linked
  wellFormed := wellFormed
  others := fun other different => (touched.others other different).trans
    ⟨Iff.rfl, Iff.rfl, rfl, rfl, others other different⟩
  openFds_subset := touched.openFds_subset
  pending := touched.pending
  notPending := touched.notPending
  detached_old := touched.detached_old

/-- So may the wheel and the epoll set. -/
theorem Touched.watching (touched : Touched fd before middle)
    (wheel : TimerWheel) (epoll : Finset Int) (linked : WellLinked wheel)
    (deadlines : ∀ other, other ≠ fd →
      deadlineOf wheel other = deadlineOf middle.wheel other)
    (registered : ∀ other, other ≠ fd →
      (other ∈ epoll ↔ other ∈ middle.epoll)) :
    Touched fd before { middle with wheel, epoll } where
  linked := linked
  wellFormed := touched.wellFormed
  others := fun other different => (touched.others other different).trans
    ⟨Iff.rfl, registered other different, deadlines other different, rfl, rfl⟩
  openFds_subset := touched.openFds_subset
  pending := touched.pending
  notPending := touched.notPending
  detached_old := touched.detached_old

theorem Touched.opened (touched : Touched fd before middle) :
    Touched fd before { middle with openFds := insert fd middle.openFds } where
  linked := touched.linked
  wellFormed := touched.wellFormed
  others := fun other different => (touched.others other different).trans
    ⟨by simp [different], Iff.rfl, rfl, rfl, rfl⟩
  openFds_subset := fun other isOpen => by
    rcases Finset.mem_insert.mp isOpen with rfl | older
    · exact Or.inr rfl
    · exact touched.openFds_subset other older
  pending := touched.pending
  notPending := touched.notPending
  detached_old := touched.detached_old

theorem Touched.closeFd (touched : Touched fd before middle) :
    Touched fd before (closeFd middle fd) where
  linked := touched.linked
  wellFormed := touched.wellFormed
  others := fun other different => (touched.others other different).trans
    ⟨by simp [Server.closeFd, different], Iff.rfl, rfl, rfl, rfl⟩
  openFds_subset := fun other isOpen =>
    touched.openFds_subset other (Finset.mem_of_mem_erase isOpen)
  pending := touched.pending
  notPending := touched.notPending
  detached_old := touched.detached_old

/-- The tasks may change as long as the other descriptors keep theirs. -/
theorem Touched.tasks (touched : Touched fd before middle)
    (enqueuing : Option Task) (queue : List Task) (running : List Job)
    (servers : ∀ other, other ≠ fd →
      ({ middle with enqueuing, queue, running } : Server).servers other =
        middle.servers other)
    (detached : ∀ job ∈ running, job.phase = .detached →
      job.task.clientFd ≠ fd → job ∈ middle.running) :
    Touched fd before { middle with enqueuing, queue, running } where
  linked := touched.linked
  wellFormed := touched.wellFormed
  others := fun other different => (touched.others other different).trans
    ⟨Iff.rfl, Iff.rfl, rfl, servers other different, rfl⟩
  openFds_subset := touched.openFds_subset
  pending := touched.pending
  notPending := touched.notPending
  detached_old := fun job member isDetached different =>
    touched.detached_old job (detached job member isDetached different)
      isDetached different

theorem boundId_sessionDetachFd {table : SessionTable}
    (wellFormed : WellFormed table) (clientFd : Int) :
    WellFormed (sessionDetachFd table clientFd) ∧
      boundId (sessionDetachFd table clientFd) =
        Function.update (boundId table) clientFd none := by
  obtain ⟨_, represents, -⟩ := wellFormed.sessionDetachFd_represents clientFd
  exact ⟨represents.wellFormed, represents.boundId_eq⟩

theorem Touched.detachSession (touched : Touched fd before middle) :
    Touched fd before
      { middle with sessions := sessionDetachFd middle.sessions fd } := by
  obtain ⟨wellFormed, bound⟩ := boundId_sessionDetachFd touched.wellFormed fd
  exact touched.sessions wellFormed fun other different => by
    rw [bound, Function.update_of_ne different]

theorem Touched.closeClient (touched : Touched fd before middle)
    (nonnegative : 0 ≤ fd) (withSessions : Bool) :
    Touched fd before (closeClient middle fd withSessions) := by
  obtain ⟨linked, -, deadlines⟩ := touched.linked.remove nonnegative
  have unwatched : Touched fd before
      { middle with
        wheel := middle.wheel.remove fd
        epoll := middle.epoll.erase fd } :=
    touched.watching _ _ linked
      (fun other different => by
        rw [deadlines, Function.update_of_ne different])
      (fun other different => by simp [different])
  cases withSessions with
  | false => exact unwatched.closeFd
  | true => exact unwatched.detachSession.closeFd

/-- Nothing of the server refers to a descriptor after `close_client`, provided
no task does. -/
theorem Touched.forgotten_closeClient (touched : Touched fd before middle)
    (nonnegative : 0 ≤ fd) {withSessions : Bool}
    (unserved : middle.servers fd = 0)
    (unbound : withSessions = true ∨ boundId middle.sessions fd = none) :
    Forgotten (Server.closeClient middle fd withSessions) fd where
  notOpen := by simp [Server.closeClient, Server.closeFd]
  unregistered := by simp [Server.closeClient, Server.closeFd]
  untracked := by
    have deadlines := (touched.linked.remove nonnegative).2.2
    simp [Server.closeClient, Server.closeFd, deadlines]
  unserved := unserved
  unbound := by
    have detached := (boundId_sessionDetachFd touched.wellFormed fd).2
    cases withSessions with
    | false => exact unbound.resolve_left (by simp)
    | true => simp [Server.closeClient, Server.closeFd, detached]

theorem Touched.orderly_closeClient (touched : Touched fd before middle)
    (orderly : Orderly before) (nonnegative : 0 ≤ fd) (withSessions : Bool)
    (unserved : middle.servers fd = 0)
    (unbound : withSessions = true ∨ boundId middle.sessions fd = none) :
    Orderly (Server.closeClient middle fd withSessions) :=
  (touched.closeClient nonnegative withSessions).orderly_of_unserved orderly
    nonnegative
    (Or.inl (touched.forgotten_closeClient nonnegative unserved unbound))
    unserved

end Touched

end CloudDrive.Server
