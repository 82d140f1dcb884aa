import CloudDrive.SessionHistory
import CloudDrive.Runs
import Mathlib.Data.Finset.Basic

/-!
# The server's main loop and its workers

The main thread of `main.c` takes batches of ready descriptors from epoll and
handles them one after the other; `handler_event.c` closes a client or hands
its descriptor to the thread pool.  Workers serve the queued tasks and give
the descriptor back to epoll or close it.  An action is one main-thread event,
one section under the mutex of the wheel or of the session table, one
operation of the queue, or one `close` of a worker, together with the answers
the system gives to it.

The thread pool is modelled by its queue and by the list of running jobs.
-/

namespace CloudDrive

/-- The function a task is queued with. -/
inductive TaskHandler where
  | basicTask
  | transferTask
deriving DecidableEq

/-- `packet_task_t` or `transfer_task_t`; an anonymous command has no
session. -/
structure Task where
  handler : TaskHandler
  clientFd : Int
  packet : Packet
  session : Option SessionContext

/-- How far a worker is with its task: the handler runs, the control
descriptor could not be published again, or its session has been detached. -/
inductive JobPhase where
  | serving
  | unpublished
  | detached
deriving DecidableEq

structure Job where
  task : Task
  phase : JobPhase

/-- A descriptor `epoll_wait` reports, with the flags of a client. -/
inductive ReadyEvent where
  | listen
  | timer
  | client (clientFd : Int) (hangup readable : Bool)

structure Server where
  openFds : Finset Int
  epoll : Finset Int
  wheel : TimerWheel
  sessions : SessionTable
  /-- The events of the current batch that are still to be handled. -/
  batch : List ReadyEvent
  timerReady : Bool
  /-- The task the main thread is about to add to the queue. -/
  enqueuing : Option Task
  queue : List Task
  running : List Job

namespace Server

/-- The server when the main loop starts. -/
def init (wheel : TimerWheel) : Server where
  openFds := ∅
  epoll := ∅
  wheel := wheel
  sessions := SessionTable.create
  batch := []
  timerReady := false
  enqueuing := none
  queue := []
  running := []

/-- Every task that is being enqueued, queued or running. -/
def tasks (server : Server) : List Task :=
  server.enqueuing.toList ++ server.queue ++ server.running.map Job.task

/-- How many tasks serve a descriptor. -/
def servers (server : Server) (clientFd : Int) : Nat :=
  (server.tasks.map Task.clientFd).count clientFd

/-- The clients with an unhandled event in the current batch. -/
def pending (server : Server) : List Int :=
  server.batch.filterMap fun
    | .client clientFd _ _ => some clientFd
    | _ => none

def closeFd (server : Server) (clientFd : Int) : Server :=
  { server with openFds := server.openFds.erase clientFd }

/-- `close_client`; the accept path passes no session table. -/
def closeClient (server : Server) (clientFd : Int) (withSessions : Bool) :
    Server :=
  closeFd
    { server with
      wheel := server.wheel.remove clientFd
      epoll := server.epoll.erase clientFd
      sessions :=
        if withSessions then
          SessionTable.sessionDetachFd server.sessions clientFd
        else server.sessions }
    clientFd

/-- `close_idle_client`. -/
def closeIdleClient (server : Server) (clientFd : Int) : Server :=
  closeFd
    { server with
      epoll := server.epoll.erase clientFd
      sessions := SessionTable.sessionDetachFd server.sessions clientFd }
    clientFd

/-- The answers to the system calls of `handle_accept_event`. -/
structure AcceptAnswers where
  accepted : Option Int
  added : Bool
  now : Option Timespec
  allocated : Bool

def handleAcceptEvent (server : Server) (answers : AcceptAnswers) : Server :=
  match answers.accepted with
  | none => server
  | some clientFd =>
      let accepted :=
        { server with openFds := insert clientFd server.openFds }
      if !answers.added then closeClient accepted clientFd false
      else
        let registered :=
          { accepted with epoll := insert clientFd accepted.epoll }
        match registered.wheel.track clientFd answers.now answers.allocated with
        | (result, wheel) =>
            let tracked := { registered with wheel }
            if result ≠ 0 then closeClient tracked clientFd false
            else tracked

def commandIsAnonymous (type : UInt32) : Bool :=
  type = CmdType.loginReq.code || type = CmdType.registerReq.code

/-- The answers to the calls of `handle_client_event`: the allocation of the
task, the received packet, the clock and allocation of `session_authorize`,
the sending of an error reply, and the allocation of a transfer task. -/
structure ClientAnswers where
  taskAllocated : Bool
  packet : Option Packet
  now : Option Timespec
  bindingAllocated : Bool
  sent : Bool
  transferAllocated : Bool

/-- An error reply of the event layer, and the close when it cannot be sent. -/
def replyEventError (server : Server) (clientFd : Int) (sent : Bool) : Server :=
  if sent then server else closeClient server clientFd true

/-- The end of `handle_client_event`, up to the call of `thread_pool_add`. -/
def dispatch (server : Server) (clientFd : Int) (packet : Packet)
    (session : Option SessionContext) (transferAllocated : Bool) : Server :=
  let removed := { server with wheel := server.wheel.remove clientFd }
  let unregistered := { removed with epoll := removed.epoll.erase clientFd }
  if packet.type = CmdType.putsReq.code ∨ packet.type = CmdType.getsReq.code then
    if !transferAllocated then closeClient removed clientFd true
    else
      { unregistered with
        enqueuing := some ⟨.transferTask, clientFd, packet, session⟩ }
  else
    { unregistered with
      enqueuing := some ⟨.basicTask, clientFd, packet, session⟩ }

def handleClientEvent (server : Server) (clientFd : Int)
    (hangup readable : Bool) (answers : ClientAnswers) : Server :=
  if hangup then closeClient server clientFd true
  else if !readable then server
  else if !answers.taskAllocated then closeClient server clientFd true
  else
    match answers.packet with
    | none => closeClient server clientFd true
    | some packet =>
        if commandIsAnonymous packet.type then
          if !packet.sessionId.isEmpty then
            replyEventError server clientFd answers.sent
          else dispatch server clientFd packet none answers.transferAllocated
        else
          match SessionTable.sessionAuthorize server.sessions clientFd
              packet.sessionId answers.now answers.bindingAllocated with
          | (none, sessions) =>
              replyEventError { server with sessions } clientFd answers.sent
          | (some session, sessions) =>
              dispatch { server with sessions } clientFd packet (some session)
                answers.transferAllocated

/-- The expiry after a batch: `timer_wheel_advance` with `close_idle_client`. -/
def expireIdle (server : Server) (now : Option Timespec) : Server :=
  match now with
  | none => server
  | some now =>
      match server.wheel.advanceAt now with
      | (wheel, expired) =>
          expired.foldl closeIdleClient { server with wheel }

/-- `timer_wheel_track_and_publish` at the end of `handle_basic_task`. -/
def trackAndPublish (server : Server) (clientFd : Int) (now : Option Timespec)
    (allocated published : Bool) : Int × TimerWheel :=
  match now with
  | none => (-1, server.wheel)
  | some now =>
      server.wheel.trackAndPublish clientFd now allocated published

end Server

inductive ServerAction where
  /-- `epoll_wait` returns a batch. -/
  | wait (batch : List ReadyEvent)
  | accept (answers : Server.AcceptAnswers)
  /-- The read of the timer descriptor succeeds or not. -/
  | timer (read : Bool)
  | client (answers : Server.ClientAnswers)
  /-- `thread_pool_add` finds room, or fails to allocate its node. -/
  | enqueue (allocated : Bool)
  | expire (now : Option Timespec)
  /-- A worker takes the first task of the queue. -/
  | start
  /-- A handler calls the session table for the descriptor it serves. -/
  | callSessions (worker : Nat) (call : SessionCall)
  | publish (worker : Nat) (now : Option Timespec) (allocated published : Bool)
  | detach (worker : Nat)
  | close (worker : Nat)

/-- The descriptor a call is about. -/
def SessionCall.clientFd : SessionCall → Int
  | create clientFd _ _ _ _ _ | authorize clientFd _ _ _
  | updateCwd clientFd _ _ _ _ | detach clientFd => clientFd

/-- The capacity of the queue and the number of workers. -/
structure PoolConfig where
  queueCapacity : Nat
  threadNum : Nat

namespace Server

/-- The main thread is at the top of its loop or between two events. -/
def mainFree (server : Server) : Bool := server.enqueuing.isNone

def step (config : PoolConfig) (server : Server) :
    ServerAction → Option Server
  | .wait batch =>
      let woken := { server with batch }
      if server.mainFree ∧ server.batch.isEmpty ∧ server.timerReady = false ∧
          woken.pending.Nodup ∧ ∀ fd ∈ woken.pending, fd ∈ server.epoll then
        some woken
      else none
  | .accept answers =>
      match server.mainFree, server.batch with
      | true, .listen :: batch =>
          if answers.accepted.all fun fd => 0 ≤ fd ∧ fd ∉ server.openFds then
            some (handleAcceptEvent { server with batch } answers)
          else none
      | _, _ => none
  | .timer read =>
      match server.mainFree, server.batch with
      | true, .timer :: batch =>
          some { server with batch, timerReady := server.timerReady || read }
      | _, _ => none
  | .client answers =>
      match server.mainFree, server.batch with
      | true, .client clientFd hangup readable :: batch =>
          some (handleClientEvent { server with batch } clientFd hangup
            readable answers)
      | _, _ => none
  | .enqueue allocated =>
      match server.enqueuing with
      | none => none
      | some task =>
          let added := { server with enqueuing := none }
          if !allocated then some (closeClient added task.clientFd true)
          else if server.queue.length < config.queueCapacity then
            some { added with queue := server.queue ++ [task] }
          else none
  | .expire now =>
      if server.mainFree ∧ server.batch.isEmpty ∧ server.timerReady then
        some (expireIdle { server with timerReady := false } now)
      else none
  | .start =>
      match server.queue with
      | [] => none
      | task :: queue =>
          if server.running.length < config.threadNum then
            some { server with
              queue
              running := server.running ++ [⟨task, .serving⟩] }
          else none
  | .callSessions worker call =>
      match server.running[worker]? with
      | some ⟨task, .serving⟩ =>
          if call.clientFd = task.clientFd then
            some { server with
              sessions := (call.perform server.sessions).2 }
          else none
      | _ => none
  | .publish worker now allocated published =>
      match server.running[worker]? with
      | some ⟨task, .serving⟩ =>
          if task.handler = .basicTask then
            match trackAndPublish server task.clientFd now allocated
                published with
            | (result, wheel) =>
                if result = 0 then
                  some { server with
                    wheel
                    epoll := insert task.clientFd server.epoll
                    running := server.running.eraseIdx worker }
                else
                  some { server with
                    wheel
                    running := server.running.set worker
                      ⟨task, .unpublished⟩ }
          else none
      | _ => none
  | .detach worker =>
      match server.running[worker]? with
      | some ⟨task, phase⟩ =>
          if phase = .unpublished ∨
              (phase = .serving ∧ task.handler = .transferTask) then
            some { server with
              sessions :=
                SessionTable.sessionDetachFd server.sessions task.clientFd
              running := server.running.set worker ⟨task, .detached⟩ }
          else none
      | none => none
  | .close worker =>
      match server.running[worker]? with
      | some ⟨task, .detached⟩ =>
          some (closeFd
            { server with running := server.running.eraseIdx worker }
            task.clientFd)
      | _ => none

end Server

end CloudDrive
