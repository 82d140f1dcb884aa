import CloudDrive.Protocol
import CloudDrive.TimerWheel

/-!
# The session table

`session.c` keeps the authenticated sessions of the server.  A session is
found through a hash chain of its identifier, a bound descriptor through a
hash chain of its number, and each session lists the bindings that point to
it.  A session lives as long as at least one descriptor is bound to it.

As in the timing wheel, the links of a chain or of a connection list are
modelled by the list of addresses they string together.
-/

namespace CloudDrive

structure ConnectionBinding where
  clientFd : Int
  session : Nat
deriving DecidableEq, Repr

structure Session where
  id : SessionId
  userId : UInt64
  cwdId : UInt64
  username : Bytes
  cwd : Bytes
  createdAt : Timespec
  lastActive : Timespec
  connectionCount : Nat
  connections : List Nat

/-- `session_context_t`. -/
structure SessionContext where
  userId : UInt64
  cwdId : UInt64
  username : Bytes
  cwd : Bytes
deriving DecidableEq

structure SessionTable where
  sessionBuckets : Nat → List Nat
  fdBuckets : Nat → List Nat
  sessionCount : Nat
  /-- The allocated sessions by address. -/
  sessions : Nat → Option Session
  /-- The allocated bindings by address. -/
  bindings : Nat → Option ConnectionBinding
  freshSession : Nat
  freshBinding : Nat

namespace SessionTable

def sessionBucketCount : Nat := 1024

def sessionIdGenerationAttempts : Nat := 8

/-- The capacity of `username`, with the terminator. -/
def usernameSize : Nat := 64

/-- `hash_session_id`: the 64-bit FNV-1a hash of the sixteen bytes. -/
def hashSessionId (sessionId : SessionId) : Nat :=
  (sessionId.bytes.toList.foldl
    (fun (hash : UInt64) byte => (hash ^^^ byte.toUInt64) * 1099511628211)
    1469598103934665603).toNat % sessionBucketCount

def hashFd (clientFd : Int) : Nat :=
  (clientFd % 2 ^ 32).toNat % sessionBucketCount

def findSession (table : SessionTable) (sessionId : SessionId) : Option Nat :=
  (table.sessionBuckets (hashSessionId sessionId)).find? fun address =>
    (table.sessions address).any fun session => session.id = sessionId

def findBinding (table : SessionTable) (clientFd : Int) : Option Nat :=
  (table.fdBuckets (hashFd clientFd)).find? fun address =>
    (table.bindings address).any fun binding => binding.clientFd = clientFd

/-- `copy_context`, with the two bounded copies. -/
def copyContext (session : Session) : SessionContext :=
  { userId := session.userId
    cwdId := session.cwdId
    username := session.username.take (usernameSize - 1)
    cwd := session.cwd.take (pathMax - 1) }

/-- `session_table_create`. -/
def create : SessionTable where
  sessionBuckets := fun _ => []
  fdBuckets := fun _ => []
  sessionCount := 0
  sessions := fun _ => none
  bindings := fun _ => none
  freshSession := 0
  freshBinding := 0

/-- What the system answers one attempt to generate an identifier: the bytes
`getrandom` delivers and the time the clock reads. -/
structure Draw where
  random : Option SessionId
  now : Option Timespec

/-- `generate_session_id`. -/
def generateSessionId (draw : Draw) : Option SessionId :=
  match draw.random with
  | none => none
  | some sessionId => if sessionId.isEmpty then none else some sessionId

/-- A session with one more connection, at the head of its list. -/
def connect (session : Session) (bindingAddress : Nat) : Session :=
  { session with
    connections := bindingAddress :: session.connections
    connectionCount := session.connectionCount + 1 }

/-- A session without one of its connections. -/
def disconnect (session : Session) (bindingAddress : Nat) : Session :=
  { session with
    connections := session.connections.erase bindingAddress
    connectionCount := session.connectionCount - 1 }

/-- Allocate a binding of a descriptor and link it into its hash chain and at
the head of the connection list of its session. -/
def bindFd (table : SessionTable) (clientFd : Int) (address : Nat)
    (session : Session) : SessionTable :=
  { table with
    bindings := Function.update table.bindings table.freshBinding
      (some { clientFd, session := address })
    fdBuckets := Function.update table.fdBuckets (hashFd clientFd)
      (table.freshBinding :: table.fdBuckets (hashFd clientFd))
    sessions := Function.update table.sessions address
      (some (connect session table.freshBinding))
    freshBinding := table.freshBinding + 1 }

/-- The session `session_create` fills in, before its first binding. -/
def newSession (sessionId : SessionId) (userId : UInt64) (username : Bytes)
    (rootPathId : UInt64) (now : Timespec) : Session where
  id := sessionId
  userId := userId
  cwdId := rootPathId
  username := username.take (usernameSize - 1)
  cwd := ascii "/"
  createdAt := now
  lastActive := now
  connectionCount := 0
  connections := []

/-- The body of the loop of `session_create` once an identifier has been
drawn: the session is linked with one binding. -/
def insertSession (table : SessionTable) (clientFd : Int)
    (session : Session) : SessionTable :=
  let bound := bindFd table clientFd table.freshSession session
  { bound with
    sessionBuckets := Function.update bound.sessionBuckets
      (hashSessionId session.id)
      (table.freshSession :: bound.sessionBuckets (hashSessionId session.id))
    sessionCount := bound.sessionCount + 1
    freshSession := table.freshSession + 1 }

/-- The loop of `session_create`, over the answers to its attempts. -/
def createLoop (table : SessionTable) (clientFd : Int) (userId : UInt64)
    (username : Bytes) (rootPathId : UInt64) :
    List Draw → Option SessionId × SessionTable
  | [] => (none, table)
  | draw :: draws =>
      match generateSessionId draw with
      | none => (none, table)
      | some sessionId =>
          match draw.now with
          | none => (none, table)
          | some now =>
              if (findBinding table clientFd).isSome then (none, table)
              else if (findSession table sessionId).isSome then
                createLoop table clientFd userId username rootPathId draws
              else
                (some sessionId, insertSession table clientFd
                  (newSession sessionId userId username rootPathId now))

/-- `session_create`.  A returned identifier stands for result 0, none for
-1; `allocated` tells whether both allocations succeed. -/
def sessionCreate (table : SessionTable) (clientFd : Int) (userId : UInt64)
    (username : Bytes) (rootPathId : UInt64) (allocated : Bool)
    (draws : List Draw) : Option SessionId × SessionTable :=
  if clientFd < 0 ∨ username = [] ∨ usernameSize ≤ username.length then
    (none, table)
  else if !allocated then (none, table)
  else
    createLoop table clientFd userId username rootPathId
      (draws.take sessionIdGenerationAttempts)

/-- Replace a session by itself with a later activity time. -/
def touchSession (table : SessionTable) (address : Nat) (now : Timespec) :
    SessionTable :=
  { table with
    sessions := Function.update table.sessions address
      ((table.sessions address).map fun session =>
        { session with lastActive := now }) }

/-- `session_authorize`.  A returned context stands for result 0. -/
def sessionAuthorize (table : SessionTable) (clientFd : Int)
    (sessionId : SessionId) (now : Option Timespec) (allocated : Bool) :
    Option SessionContext × SessionTable :=
  if clientFd < 0 ∨ sessionId.isEmpty then (none, table)
  else
    match now with
    | none => (none, table)
    | some now =>
        match findSession table sessionId with
        | none => (none, table)
        | some address =>
            match table.sessions address, findBinding table clientFd with
            | none, _ => (none, table)
            | some session, some bindingAddress =>
                if (table.bindings bindingAddress).any fun binding =>
                    binding.session ≠ address then
                  (none, table)
                else
                  (some (copyContext session), touchSession table address now)
            | some session, none =>
                if !allocated then (none, table)
                else
                  (some (copyContext session),
                    touchSession (bindFd table clientFd address session)
                      address now)

/-- `session_update_cwd`; true stands for result 0. -/
def sessionUpdateCwd (table : SessionTable) (clientFd : Int)
    (sessionId : SessionId) (cwdId : UInt64) (cwd : Bytes)
    (now : Option Timespec) : Bool × SessionTable :=
  if clientFd < 0 ∨ sessionId.isEmpty ∨ cwd.head? ≠ some 47 ∨
      pathMax ≤ cwd.length then
    (false, table)
  else
    match now with
    | none => (false, table)
    | some now =>
        match findSession table sessionId, findBinding table clientFd with
        | some address, some bindingAddress =>
            if (table.bindings bindingAddress).any fun binding =>
                binding.session ≠ address then
              (false, table)
            else
              (true,
                { table with
                  sessions := Function.update table.sessions address
                    ((table.sessions address).map fun session =>
                      { session with
                        cwdId
                        cwd := cwd.take (pathMax - 1)
                        lastActive := now }) })
        | _, _ => (false, table)

/-- The end of `session_detach_fd`: a session without connections is unlinked
and freed. -/
def dropIfUnused (table : SessionTable) (address : Nat) (session : Session) :
    SessionTable :=
  if session.connectionCount = 0 then
    { table with
      sessionBuckets := Function.update table.sessionBuckets
        (hashSessionId session.id)
        ((table.sessionBuckets (hashSessionId session.id)).erase address)
      sessions := Function.update table.sessions address none
      sessionCount := table.sessionCount - 1 }
  else table

def sessionDetachFd (table : SessionTable) (clientFd : Int) : SessionTable :=
  if clientFd < 0 then table
  else
    match findBinding table clientFd with
    | none => table
    | some bindingAddress =>
        match table.bindings bindingAddress with
        | none => table
        | some binding =>
            let unlinked :=
              { table with
                fdBuckets := Function.update table.fdBuckets (hashFd clientFd)
                  ((table.fdBuckets (hashFd clientFd)).erase bindingAddress)
                bindings := Function.update table.bindings bindingAddress none }
            match table.sessions binding.session with
            | none => unlinked
            | some session =>
                let shortened := disconnect session bindingAddress
                dropIfUnused
                  { unlinked with
                    sessions := Function.update unlinked.sessions
                      binding.session (some shortened) }
                  binding.session shortened

end SessionTable

end CloudDrive
