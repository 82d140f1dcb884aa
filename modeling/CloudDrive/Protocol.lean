import CloudDrive.ByteStrings

/-!
# Protocol data

The command and status codes of `protocol.h`, session identifiers and decoded
packets.  A type or status read from the wire is any 32-bit number; the
enumerations name the codes the server and the client give a meaning to.
-/

namespace CloudDrive

def pathMax : Nat := 4096

def nameMax : Nat := 255

def maxPacketPayload : Nat := 64 * 1024

def fileChunkSize : Nat := 4096

/-- `session_id_t`. -/
structure SessionId where
  bytes : Vector UInt8 16
deriving DecidableEq

namespace SessionId

/-- The identifier of an anonymous packet. -/
def empty : SessionId := ⟨Vector.replicate 16 0⟩

/-- `session_id_is_empty`. -/
def isEmpty (sessionId : SessionId) : Bool := sessionId = empty

@[simp]
theorem isEmpty_iff (sessionId : SessionId) :
    sessionId.isEmpty = true ↔ sessionId = empty := by
  simp [isEmpty]

end SessionId

/-- `cmd_type_t`. -/
inductive CmdType where
  | invalid | loginReq | registerReq | pwd | cd | ls | ll | tree | mkdir
  | rmdir | rm | cat | putsReq | putsResp | getsReq | getsResp | resumePos
  | fileData | fileEnd | ack | error
deriving DecidableEq, Repr

def CmdType.code : CmdType → UInt32
  | invalid => 0 | loginReq => 1 | registerReq => 2 | pwd => 3 | cd => 4
  | ls => 5 | ll => 6 | tree => 7 | mkdir => 8 | rmdir => 9 | rm => 10
  | cat => 11 | putsReq => 12 | putsResp => 13 | getsReq => 14
  | getsResp => 15 | resumePos => 16 | fileData => 17 | fileEnd => 18
  | ack => 19 | error => 20

theorem CmdType.code_injective : Function.Injective CmdType.code := by
  intro first second same
  cases first <;> cases second <;> first
    | rfl
    | exact absurd same (by decide)

/-- `status_code_t`. -/
inductive StatusCode where
  | ok | badRequest | notFound | ioError | protocolError | userNotexist
  | passwdError | otherError | notDir | isDir | dirNotexist
  | dirAlreadyExists | dirNotempty | fileNotexist | dbError | unauthorized
deriving DecidableEq, Repr

def StatusCode.code : StatusCode → UInt32
  | ok => 0 | badRequest => 2 | notFound => 3 | ioError => 4
  | protocolError => 5 | userNotexist => 6 | passwdError => 7
  | otherError => 8 | notDir => 9 | isDir => 10 | dirNotexist => 11
  | dirAlreadyExists => 12 | dirNotempty => 13 | fileNotexist => 14
  | dbError => 15 | unauthorized => 16

/-- A decoded `packet_t`. -/
structure Packet where
  type : UInt32
  status : UInt32
  sessionId : SessionId
  payload : Bytes
deriving DecidableEq

/-- `packet_init` on a payload that fits a packet. -/
def Packet.init (type : CmdType) (status : StatusCode) (sessionId : SessionId)
    (payload : Bytes) : Packet :=
  { type := type.code, status := status.code, sessionId, payload }

end CloudDrive
