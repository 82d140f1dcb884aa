import CloudDrive.ChainedBuckets
import CloudDrive.SessionHistory

/-!
# The session table in memory

`session.c` with its pointers: the arrays of the two hash tables hold the heads of
chains through `hash_next` and `fd_next`, and every session holds the head of a chain
through `session_next`.  An access through a pointer to nothing has no result, and
neither has a loop that meets more nodes than have ever been allocated.

A session that `session_create` has allocated is local to it until it is linked.
-/

namespace CloudDrive

open SessionTable

/-- `connection_binding_t`. -/
structure BindingNode where
  clientFd : Int
  session : Nat
  fdNext : Option Nat
  sessionNext : Option Nat

/-- `session_t`. -/
structure SessionNode where
  id : SessionId
  userId : UInt64
  cwdId : UInt64
  username : Bytes
  cwd : Bytes
  createdAt : Timespec
  lastActive : Timespec
  connectionCount : Nat
  connections : Option Nat
  hashNext : Option Nat

/-- The table with the allocated sessions and bindings. -/
structure SessionMemory where
  sessionBuckets : Nat → Option Nat
  fdBuckets : Nat → Option Nat
  sessionCount : Nat
  sessions : Nat → Option SessionNode
  bindings : Nat → Option BindingNode
  freshSession : Nat
  freshBinding : Nat

/-- What a binding holds besides its links. -/
def BindingNode.binding (node : BindingNode) : ConnectionBinding :=
  ⟨node.clientFd, node.session⟩

/-- What a session holds besides its pointers. -/
def SessionNode.record (node : SessionNode) : Session where
  id := node.id
  userId := node.userId
  cwdId := node.cwdId
  username := node.username
  cwd := node.cwd
  createdAt := node.createdAt
  lastActive := node.lastActive
  connectionCount := node.connectionCount
  connections := []

namespace SessionMemory

def hashLinks (memory : SessionMemory) : Nat → Option (Option Nat) :=
  keyOf memory.sessions SessionNode.hashNext

def fdLinks (memory : SessionMemory) : Nat → Option (Option Nat) :=
  keyOf memory.bindings BindingNode.fdNext

def connectionLinks (memory : SessionMemory) : Nat → Option (Option Nat) :=
  keyOf memory.bindings BindingNode.sessionNext

def connectionHeads (memory : SessionMemory) (address : Nat) : Option Nat :=
  (memory.sessions address).bind SessionNode.connections

/-- `find_session_locked`. -/
def findSession (memory : SessionMemory) (sessionId : SessionId) :
    Option (Option Nat) :=
  findNode memory.hashLinks
    (fun address => (memory.sessions address).any fun node => node.id = sessionId)
    memory.freshSession (memory.sessionBuckets (hashSessionId sessionId))

/-- `find_binding_locked`. -/
def findBinding (memory : SessionMemory) (clientFd : Int) : Option (Option Nat) :=
  findNode memory.fdLinks
    (fun address => (memory.bindings address).any fun node => node.clientFd = clientFd)
    memory.freshBinding (memory.fdBuckets (hashFd clientFd))

/-- `session_table_create`. -/
def create : SessionMemory where
  sessionBuckets := fun _ => none
  fdBuckets := fun _ => none
  sessionCount := 0
  sessions := fun _ => none
  bindings := fun _ => none
  freshSession := 0
  freshBinding := 0

def setSession (memory : SessionMemory) (address : Nat) (node : SessionNode) :
    SessionMemory :=
  { memory with sessions := Function.update memory.sessions address (some node) }

/-- A new binding is linked into its hash chain and into the connections of its
session. -/
def bindFd (memory : SessionMemory) (clientFd : Int) (address : Nat)
    (node : SessionNode) : SessionMemory :=
  { memory with
    bindings := Function.update memory.bindings memory.freshBinding
      (some
        { clientFd
          session := address
          fdNext := memory.fdBuckets (hashFd clientFd)
          sessionNext := node.connections })
    fdBuckets := Function.update memory.fdBuckets (hashFd clientFd)
      (some memory.freshBinding)
    sessions := Function.update memory.sessions address
      (some
        { node with
          connections := some memory.freshBinding
          connectionCount := node.connectionCount + 1 })
    freshBinding := memory.freshBinding + 1 }

/-- The fields that `session_create` fills in. -/
def newSession (sessionId : SessionId) (userId : UInt64) (username : Bytes)
    (rootPathId : UInt64) (now : Timespec) : SessionNode where
  id := sessionId
  userId := userId
  cwdId := rootPathId
  username := username.take (usernameSize - 1)
  cwd := ascii "/"
  createdAt := now
  lastActive := now
  connectionCount := 0
  connections := none
  hashNext := none

/-- The new session is linked with its first binding. -/
def insertSession (memory : SessionMemory) (clientFd : Int) (node : SessionNode) :
    SessionMemory :=
  let bound := memory.bindFd clientFd memory.freshSession
    { node with hashNext := memory.sessionBuckets (hashSessionId node.id) }
  { bound with
    sessionBuckets := Function.update bound.sessionBuckets (hashSessionId node.id)
      (some memory.freshSession)
    sessionCount := bound.sessionCount + 1
    freshSession := memory.freshSession + 1 }

/-- The loop of `session_create`. -/
def createLoop (memory : SessionMemory) (clientFd : Int) (userId : UInt64)
    (username : Bytes) (rootPathId : UInt64) :
    List Draw → Option (Option SessionId × SessionMemory)
  | [] => some (none, memory)
  | draw :: draws =>
      match generateSessionId draw with
      | none => some (none, memory)
      | some sessionId =>
          match draw.now with
          | none => some (none, memory)
          | some now =>
              match memory.findBinding clientFd with
              | none => none
              | some (some _) => some (none, memory)
              | some none =>
                  match memory.findSession sessionId with
                  | none => none
                  | some (some _) =>
                      createLoop memory clientFd userId username rootPathId draws
                  | some none =>
                      some (some sessionId, memory.insertSession clientFd
                        (newSession sessionId userId username rootPathId now))

/-- `session_create`. -/
def sessionCreate (memory : SessionMemory) (clientFd : Int) (userId : UInt64)
    (username : Bytes) (rootPathId : UInt64) (allocated : Bool)
    (draws : List Draw) : Option (Option SessionId × SessionMemory) :=
  if clientFd < 0 ∨ username = [] ∨ usernameSize ≤ username.length then
    some (none, memory)
  else if !allocated then some (none, memory)
  else
    memory.createLoop clientFd userId username rootPathId
      (draws.take sessionIdGenerationAttempts)

/-- The end of `session_authorize`. -/
def touchSession (memory : SessionMemory) (address : Nat) (now : Timespec) :
    Option (Option SessionContext × SessionMemory) :=
  match memory.sessions address with
  | none => none
  | some node =>
      some (some (copyContext node.record),
        memory.setSession address { node with lastActive := now })

/-- `session_authorize`. -/
def sessionAuthorize (memory : SessionMemory) (clientFd : Int)
    (sessionId : SessionId) (now : Option Timespec) (allocated : Bool) :
    Option (Option SessionContext × SessionMemory) :=
  if clientFd < 0 ∨ sessionId.isEmpty then some (none, memory)
  else
    match now with
    | none => some (none, memory)
    | some now =>
        match memory.findSession sessionId with
        | none => none
        | some none => some (none, memory)
        | some (some address) =>
            match memory.findBinding clientFd with
            | none => none
            | some (some bindingAddress) =>
                match memory.bindings bindingAddress with
                | none => none
                | some binding =>
                    if binding.session ≠ address then some (none, memory)
                    else memory.touchSession address now
            | some none =>
                if !allocated then some (none, memory)
                else
                  match memory.sessions address with
                  | none => none
                  | some node =>
                      (memory.bindFd clientFd address node).touchSession address now

/-- `session_update_cwd`. -/
def sessionUpdateCwd (memory : SessionMemory) (clientFd : Int)
    (sessionId : SessionId) (cwdId : UInt64) (cwd : Bytes)
    (now : Option Timespec) : Option (Bool × SessionMemory) :=
  if clientFd < 0 ∨ sessionId.isEmpty ∨ cwd.head? ≠ some 47 ∨
      pathMax ≤ cwd.length then
    some (false, memory)
  else
    match now with
    | none => some (false, memory)
    | some now =>
        match memory.findSession sessionId, memory.findBinding clientFd with
        | some (some address), some (some bindingAddress) =>
            match memory.bindings bindingAddress, memory.sessions address with
            | some binding, some node =>
                if binding.session ≠ address then some (false, memory)
                else
                  some (true, memory.setSession address
                    { node with
                      cwdId
                      cwd := cwd.take (pathMax - 1)
                      lastActive := now })
            | _, _ => none
        | some _, some _ => some (false, memory)
        | _, _ => none

/-- `*fd_link = value`, where `fd_link` points to a bucket or into a binding. -/
def writeFdLink (memory : SessionMemory) (bucket : Nat) (value : Option Nat) :
    Option Nat → SessionMemory
  | none =>
      { memory with fdBuckets := Function.update memory.fdBuckets bucket value }
  | some address =>
      { memory with
        bindings := Function.update memory.bindings address
          ((memory.bindings address).map fun node => { node with fdNext := value }) }

/-- `*session_link = value`, where `session_link` points into a session or into a
binding. -/
def writeConnectionLink (memory : SessionMemory) (session : Nat)
    (value : Option Nat) : Option Nat → SessionMemory
  | none =>
      { memory with
        sessions := Function.update memory.sessions session
          ((memory.sessions session).map fun node =>
            { node with connections := value }) }
  | some address =>
      { memory with
        bindings := Function.update memory.bindings address
          ((memory.bindings address).map fun node =>
            { node with sessionNext := value }) }

/-- `*session_hash_link = value`, where the link is a bucket or in a session. -/
def writeHashLink (memory : SessionMemory) (bucket : Nat) (value : Option Nat) :
    Option Nat → SessionMemory
  | none =>
      { memory with
        sessionBuckets := Function.update memory.sessionBuckets bucket value }
  | some address =>
      { memory with
        sessions := Function.update memory.sessions address
          ((memory.sessions address).map fun node => { node with hashNext := value }) }

/-- The part of `session_detach_fd` that unlinks and frees a session. -/
def dropSession (memory : SessionMemory) (address : Nat) (node : SessionNode) :
    Option SessionMemory :=
  let bucket := hashSessionId node.id
  let head := memory.sessionBuckets bucket
  match seekLink memory.hashLinks head (fun other => other = address)
      (memory.freshSession + 1) none with
  | none => none
  | some link =>
      let unlinked :=
        if linkValue memory.hashLinks head link = some (some address) then
          memory.writeHashLink bucket node.hashNext link
        else memory
      some
        { unlinked with
          sessionCount := unlinked.sessionCount - 1
          sessions := Function.update unlinked.sessions address none }

/-- The part of `session_detach_fd` that unlinks a binding from its session. -/
def disconnect (memory : SessionMemory) (address bindingAddress : Nat)
    (node : SessionNode) (binding : BindingNode) : Option SessionMemory :=
  match seekLink memory.connectionLinks node.connections
      (fun other => other = bindingAddress) (memory.freshBinding + 1) none with
  | none => none
  | some link =>
      if linkValue memory.connectionLinks node.connections link =
          some (some bindingAddress) then
        some (memory.writeConnectionLink address binding.sessionNext link)
      else some memory

/-- The part of `session_detach_fd` after the unlinking: the count, the binding and
a session without connections. -/
def freeBinding (memory : SessionMemory) (address bindingAddress : Nat) :
    Option SessionMemory :=
  match memory.sessions address with
  | none => none
  | some node =>
      let shortened := { node with connectionCount := node.connectionCount - 1 }
      let freed :=
        { memory.setSession address shortened with
          bindings := Function.update memory.bindings bindingAddress none }
      if shortened.connectionCount = 0 then freed.dropSession address shortened
      else some freed

/-- `session_detach_fd`. -/
def sessionDetachFd (memory : SessionMemory) (clientFd : Int) :
    Option SessionMemory :=
  if clientFd < 0 then some memory
  else
    let bucket := hashFd clientFd
    let head := memory.fdBuckets bucket
    let holds := fun address =>
      (memory.bindings address).any fun node => node.clientFd = clientFd
    match seekLink memory.fdLinks head holds (memory.freshBinding + 1) none with
    | none => none
    | some link =>
        match linkValue memory.fdLinks head link with
        | none => none
        | some none => some memory
        | some (some bindingAddress) =>
            match memory.bindings bindingAddress with
            | none => none
            | some binding =>
                let unlinked := memory.writeFdLink bucket binding.fdNext link
                match unlinked.sessions binding.session with
                | none => none
                | some node =>
                    match unlinked.disconnect binding.session bindingAddress node
                        binding with
                    | none => none
                    | some disconnected =>
                        disconnected.freeBinding binding.session bindingAddress

/-- One call of `session.c`; without a result if it goes wrong. -/
def perform (memory : SessionMemory) :
    SessionCall → Option (SessionEvent × SessionMemory)
  | .create clientFd userId username rootPathId allocated draws =>
      (memory.sessionCreate clientFd userId username rootPathId allocated draws).map
        fun result => (.created clientFd userId username rootPathId result.1, result.2)
  | .authorize clientFd sessionId now allocated =>
      (memory.sessionAuthorize clientFd sessionId now allocated).map fun result =>
        (.authorized clientFd sessionId result.1, result.2)
  | .updateCwd clientFd sessionId cwdId cwd now =>
      (memory.sessionUpdateCwd clientFd sessionId cwdId cwd now).map fun result =>
        (.cwdUpdated clientFd sessionId cwdId cwd result.1, result.2)
  | .detach clientFd =>
      (memory.sessionDetachFd clientFd).map fun after => (.detached clientFd, after)

end SessionMemory

end CloudDrive
