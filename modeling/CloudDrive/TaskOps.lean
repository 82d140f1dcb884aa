import CloudDrive.Interaction
import CloudDrive.SessionTable
import CloudDrive.DaoPrograms

/-!
# What a request handler asks of its environment

The handlers of `handler_basic.c` and `handler_transfer.c` are programs over
the operations below: the data access functions, the session table (always for
the descriptor the task serves), the file system, the random source, `crypt_r`
and the client's socket.  An answer holds the result of the call and what it
writes through its pointers.
-/

namespace CloudDrive

/-- A context whose strings fit the arrays of `session_context_t`. -/
def SessionContext.Fits (context : SessionContext) : Prop :=
  context.username.length < SessionTable.usernameSize ∧
    context.cwd.length < pathMax

instance (context : SessionContext) : Decidable context.Fits :=
  inferInstanceAs (Decidable (_ ∧ _))

abbrev FittingContext := { context : SessionContext // context.Fits }

/-- The two families of files the server keeps on disk: the temporary file and
the published object of a hash. -/
inductive StoredFile where
  | part (sha256Hex : Bytes)
  | object (sha256Hex : Bytes)
deriving DecidableEq

/-- The outcomes of `rename`; `alreadyExists` is a failure with `EEXIST`. -/
inductive RenameResult where
  | renamed | alreadyExists | failed
deriving DecidableEq

/-- The texts that `utils_get_file_sha256` writes. -/
def IsDigest (sha256Hex : Bytes) : Prop := unhex sha256Hex = some sha256Hex

inductive TaskOp where
  | daoAuthRegister (username passwordHash : Bytes)
  | daoAuthGetLoginInfo (username : Bytes)
  | daoPathGetNodeId (userId : UInt64) (virtualPath : Bytes)
  | daoPathInsertDir (userId : UInt64) (targetPath : Bytes)
      (parentId : UInt64) (fileName : Bytes)
  | daoPathDirHasChild (userId parentId : UInt64)
  | daoPathRmdir (targetDirId : UInt64)
  | daoPathGetLsDir (userId parentId : UInt64)
  | daoRmFile (userId pathId : UInt64)
  | daoFileFindByHash (sha256Hex : Bytes) (fileSize : UInt64)
  | daoLinkExistingFile (userId : UInt64) (targetPath : Bytes)
      (parentId : UInt64) (fileName : Bytes) (fileId : UInt64)
  | daoCreateFileWithPath (userId : UInt64) (targetPath : Bytes)
      (parentId : UInt64) (fileName sha256Hex : Bytes) (fileSize : UInt64)
  | daoGetFileMeta (userId : UInt64) (targetPath : Bytes)
  | sessionAuthorize (sessionId : SessionId)
  | sessionCreate (userId : UInt64) (username : Bytes) (rootPathId : UInt64)
  | sessionUpdateCwd (sessionId : SessionId) (cwdId : UInt64) (cwd : Bytes)
  | generateSalt
  | cryptR (password setting : Bytes)
  /-- `protocol_send_packet` to the client of the task. -/
  | send (packet : Packet)
  /-- `protocol_send_header` of a data packet. -/
  | sendHeader (sessionId : SessionId) (payloadLen : Nat)
  /-- The next `sendfile` of at most `count` bytes from an offset that is not
  interrupted. -/
  | sendfile (fd : Nat) (offset count : Nat)
  /-- `protocol_recv_packet` from the client of the task. -/
  | recv
  /-- `open` with `O_CREAT | O_RDWR` for a temporary file, with `O_RDONLY` for
  an object. -/
  | openFile (file : StoredFile)
  | fstat (fd : Nat)
  /-- `ftruncate` to length zero. -/
  | truncate (fd : Nat)
  | lseek (fd : Nat) (offset : UInt64)
  /-- The next `write` that is not interrupted. -/
  | write (fd : Nat) (data : Bytes)
  | fsync (fd : Nat)
  /-- `utils_get_file_sha256`. -/
  | digest (fd : Nat)
  | close (fd : Nat)
  | unlink (file : StoredFile)
  /-- `rename` of the temporary file of a hash to its object. -/
  | publish (sha256Hex : Bytes)
  /-- `access` of the object of a hash. -/
  | objectExists (sha256Hex : Bytes)
  /-- `timer_wheel_track_and_publish` for the client of the task. -/
  | trackAndPublish

namespace TaskOp

@[reducible]
def Answer : TaskOp → Type
  | daoAuthRegister .. | daoPathInsertDir .. | daoPathDirHasChild ..
  | daoPathRmdir .. | daoLinkExistingFile .. | daoCreateFileWithPath .. => Int
  | daoAuthGetLoginInfo .. => Int × LoginInfo
  | daoPathGetNodeId .. => DaoPathResult × UInt64
  -- The listing is written to a buffer of `MAX_PACKET_PAYLOAD` bytes.
  | daoPathGetLsDir .. =>
      Int × { listing : Bytes // listing.length < maxPacketPayload }
  | daoRmFile .. => DaoStatus × Bytes
  | daoFileFindByHash .. => Int × UInt64
  -- Nothing if a null pointer is used as a string.
  | daoGetFileMeta .. => Option (DaoStatus × FileMeta)
  | sessionAuthorize .. => Option FittingContext
  | sessionCreate .. => Option SessionId
  | sessionUpdateCwd .. => Bool
  | generateSalt => Option Bytes
  | cryptR .. => Option Bytes
  | send .. | sendHeader .. => Bool
  -- One less than the number of bytes sent; nothing on failure.
  | sendfile _ _ count => Option (Fin count)
  | recv => Option Packet
  | openFile .. => Option Nat
  | fstat .. => Option UInt64
  | truncate .. | lseek .. | fsync .. => Bool
  -- One less than the number of bytes written; nothing on failure.
  | write _ data => Option (Fin data.length)
  | digest .. => Option { sha256Hex : Bytes // IsDigest sha256Hex }
  | close .. => Unit
  | unlink .. | objectExists .. | trackAndPublish => Bool
  | publish .. => RenameResult

end TaskOp

/-- A handler that returns a value. -/
abbrev Handler := Prog TaskOp.Answer

/-- What a handler reads of its `packet_task_t` or `transfer_task_t`. -/
structure HandlerTask where
  packet : Packet
  session : FittingContext

namespace HandlerTask

/-- `packet_init` followed by `protocol_send_packet`; a payload beyond the
limit is not sent. -/
def sendPacket (type : CmdType) (status : StatusCode) (sessionId : SessionId)
    (payload : Bytes) : Handler Bool :=
  if maxPacketPayload < payload.length then pure false
  else Prog.ask (TaskOp.send (Packet.init type status sessionId payload))

/-- A response whose result is not used. -/
def respond (type : CmdType) (status : StatusCode) (sessionId : SessionId)
    (payload : Bytes) : Handler Unit := do
  let _ ← sendPacket type status sessionId payload
  pure ()

/-- `send_response` and `send_transfer_packet` answer under the identifier of
the request. -/
def reply (task : HandlerTask) (type : CmdType) (status : StatusCode)
    (payload : Bytes) : Handler Unit :=
  respond type status task.packet.sessionId payload

/-- An error response without a payload. -/
def fail (task : HandlerTask) (status : StatusCode) : Handler Unit :=
  task.reply .error status []

/-- `copy_payload`: the payload as a C string in a buffer of `capacity`
bytes. -/
def copyPayload (task : HandlerTask) (capacity : Nat) (requireNonempty : Bool) :
    Option Bytes :=
  if capacity ≤ task.packet.payload.length ∨
      (requireNonempty ∧ task.packet.payload = []) then none
  else some (cString task.packet.payload)

end HandlerTask

end CloudDrive
