import CloudDrive.TaskOps
import CloudDrive.VirtualPaths

/-!
# The handlers of transfers

`handle_puts` and `handle_gets` of `handler_transfer.c`.  The loops of the
source run on fuel that covers their bytes: every packet, `write` and
`sendfile` they go on after has at least one.
-/

namespace CloudDrive

/-- `net_to_host_u64`. -/
def netToHost (bytes : Bytes) : UInt64 :=
  bytes.foldl (fun value byte => value * 256 + byte.toUInt64) 0

/-- The eight bytes of `host_to_net_u64`. -/
def hostToNet (value : UInt64) : Bytes :=
  ([56, 48, 40, 32, 24, 16, 8, 0] : List UInt64).map fun shift =>
    (value >>> shift).toUInt8

@[simp]
theorem length_hostToNet (value : UInt64) : (hostToNet value).length = 8 := rfl

@[simp]
theorem netToHost_hostToNet (value : UInt64) :
    netToHost (hostToNet value) = value := by
  apply UInt64.toNat_inj.mp
  have bound := value.toNat_lt
  simp [netToHost, hostToNet, Nat.shiftRight_eq_div_pow]
  omega

/-- `upload_request_payload_t`. -/
structure UploadRequest where
  remotePath : Bytes
  fileSize : UInt64
  sha256Hex : Bytes

/-- The request in a payload of the size of the structure. -/
def UploadRequest.read (payload : Bytes) : Option UploadRequest :=
  if payload.length ≠ 4176 then none
  else some
    { remotePath := payload.take pathMax
      fileSize := netToHost ((payload.drop 4096).take 8)
      sha256Hex := (payload.drop 4104).take 65 }

/-- `utils_is_valid_sha256_hex`. -/
def isValidSha256Hex (text : Bytes) : Bool :=
  text.length = 64 && text.all isHexDigit

theorem IsDigest.valid {text : Bytes} (isDigest : IsDigest text) :
    isValidSha256Hex text = true := by
  rw [IsDigest, unhex] at isDigest
  split at isDigest
  · assumption
  · cases isDigest

/-- Zeros up to the end of a field. -/
def padTo (size : Nat) (bytes : Bytes) : Bytes :=
  bytes ++ List.replicate (size - bytes.length) 0

/-- The bytes of the `file_info_payload_t` of a file. -/
def FileMeta.payload (found : FileMeta) : Bytes :=
  padTo 256 (found.fileName.take (nameMax - 1)) ++ hostToNet found.size ++
    padTo 72 (found.sha256Hex.take 64)

theorem FileMeta.length_payload (found : FileMeta) :
    found.payload.length ≤ maxPacketPayload := by
  have name : (found.fileName.take (nameMax - 1)).length ≤ 256 := by
    rw [List.length_take]
    exact Nat.le_trans (Nat.min_le_left _ _) (by decide)
  have hash : (found.sha256Hex.take 64).length ≤ 72 := by
    rw [List.length_take]
    omega
  have limit : maxPacketPayload = 65536 := by decide
  simp only [payload, padTo, List.length_append, List.length_replicate,
    length_hostToNet]
  omega

/-- What a handler reads of its `transfer_task_t`. -/
structure TransferTask extends HandlerTask where
  transferTempDir : Bytes
  storageRoot : Bytes

/-- Where a step of an upload leads: on, or to the end of the handler with an
error response or without one. -/
inductive UploadStep where
  | goesOn
  | stops (status : Option StatusCode)
deriving DecidableEq

/-- A target of an upload: its path, the path of its parent and its name. -/
structure UploadTarget where
  targetPath : Bytes
  parentPath : Bytes
  fileName : Bytes
  fileSize : UInt64
  sha256Hex : Bytes
deriving DecidableEq

namespace TransferTask

def recvTransferPacket (task : TransferTask) : Handler (Option Packet) := do
  match ← Prog.ask TaskOp.recv with
  | none => pure none
  | some packet =>
      if packet.sessionId ≠ task.packet.sessionId then do
        task.fail .unauthorized
        pure none
      else pure (some packet)

def sendPutsResume (task : TransferTask) (offset : UInt64) : Handler Bool :=
  HandlerTask.sendPacket .putsResp .ok task.packet.sessionId (hostToNet offset)

/-- `write_n`. -/
def writeN (fd : Nat) : Nat → Bytes → Handler Bool
  | 0, _ | _, [] => pure true
  | fuel + 1, byte :: rest => do
      match ← Prog.ask (TaskOp.write fd (byte :: rest)) with
      | none => pure false
      | some more => writeN fd fuel (rest.drop more)

/-- The loop that receives the missing bytes, of which `remaining` are left;
whether it ended with a packet of type `CMD_FILE_END` is part of the result. -/
def receiveData (task : TransferTask) (fd : Nat) :
    Nat → Nat → Handler (UploadStep × Bool × Nat)
  | 0, remaining | _, remaining@0 => pure (.goesOn, false, remaining)
  | fuel + 1, remaining => do
      match ← task.recvTransferPacket with
      | none => pure (.stops none, false, remaining)
      | some packet =>
          if packet.type = CmdType.fileEnd.code then
            pure (.goesOn, true, remaining)
          else if packet.type ≠ CmdType.fileData.code ∨ packet.payload = [] ∨
              fileChunkSize < packet.payload.length ∨
              remaining < packet.payload.length then
            pure (.stops (some .protocolError), false, remaining)
          else if !(← writeN fd packet.payload.length packet.payload) then
            pure (.stops (some .ioError), false, remaining)
          else receiveData task fd fuel (remaining - packet.payload.length)

/-- The missing bytes and the packet that ends them. -/
def receiveFile (task : TransferTask) (fd : Nat) (offset fileSize : UInt64) :
    Handler UploadStep :=
  if fileSize ≤ offset then pure .goesOn
  else do
    if !(← Prog.ask (TaskOp.lseek fd offset)) then
      pure (.stops (some .ioError))
    else
      let expected := (fileSize - offset).toNat
      match ← task.receiveData fd expected expected with
      | (.stops status, _, _) => pure (.stops status)
      | (.goesOn, gotFileEnd, remaining) =>
          if remaining ≠ 0 then pure (.stops (some .protocolError))
          else if gotFileEnd then pure .goesOn
          else
            match ← task.recvTransferPacket with
            | none => pure (.stops none)
            | some packet =>
                if packet.type ≠ CmdType.fileEnd.code then
                  pure (.stops (some .protocolError))
                else pure .goesOn

/-- The temporary file is opened, and resumed at the end of what it holds. -/
def openPart (task : TransferTask) (target : UploadTarget) (fd : Nat) :
    Handler UploadStep := do
  match ← Prog.ask (TaskOp.fstat fd) with
  | none => pure (.stops (some .ioError))
  | some size =>
      if target.fileSize < size then
        if !(← Prog.ask (TaskOp.truncate fd)) then
          pure (.stops (some .ioError))
        else if !(← task.sendPutsResume 0) then pure (.stops none)
        else task.receiveFile fd 0 target.fileSize
      else if !(← task.sendPutsResume size) then pure (.stops none)
      else task.receiveFile fd size target.fileSize

/-- The digest of the completed temporary file. -/
def digestPart (fd : Nat) :
    Handler (Option { sha256Hex : Bytes // IsDigest sha256Hex }) := do
  if !(← Prog.ask (TaskOp.fsync fd)) then pure none
  else if !(← Prog.ask (TaskOp.lseek fd 0)) then pure none
  else Prog.ask (TaskOp.digest fd)

/-- The rename, which may find the object published by another worker. -/
def publishPart (sha256Hex : Bytes) : Handler Bool := do
  match ← Prog.ask (TaskOp.publish sha256Hex) with
  | .renamed => pure true
  | .alreadyExists => do
      let _ ← Prog.ask (TaskOp.unlink (.part sha256Hex))
      pure true
  | .failed => do
      if ← Prog.ask (TaskOp.objectExists sha256Hex) then do
        let _ ← Prog.ask (TaskOp.unlink (.part sha256Hex))
        pure true
      else pure false

/-- The end of a transfer that fails with an open descriptor. -/
def closeAndFail (task : TransferTask) (fd : Nat)
    (status : Option StatusCode) : Handler Unit := do
  Prog.ask (TaskOp.close fd)
  match status with
  | none => pure ()
  | some status => task.fail status

/-- The record of a published object. -/
def createFile (task : TransferTask) (target : UploadTarget)
    (parentId : UInt64) : Handler Unit := do
  let created ← Prog.ask (TaskOp.daoCreateFileWithPath task.session.1.userId
    target.targetPath parentId target.fileName target.sha256Hex target.fileSize)
  if created ≠ (0 : Int) then task.fail .otherError
  else task.reply .ack .ok []

/-- An upload of a content that is not stored yet. -/
def uploadFile (task : TransferTask) (target : UploadTarget)
    (parentId : UInt64) : Handler Unit :=
  if pathMax ≤ task.transferTempDir.length + 1 + target.sha256Hex.length + 5 ∨
      pathMax ≤ task.storageRoot.length + 1 + target.sha256Hex.length then
    task.fail .badRequest
  else do
    match ← Prog.ask (TaskOp.openFile (.part target.sha256Hex)) with
    | none => task.fail .ioError
    | some fd =>
        match ← task.openPart target fd with
        | .stops status => task.closeAndFail fd status
        | .goesOn =>
            match ← digestPart fd with
            | none => task.closeAndFail fd (some .ioError)
            | some actual => do
                Prog.ask (TaskOp.close fd)
                if actual.1 ≠ target.sha256Hex then do
                  let _ ← Prog.ask (TaskOp.unlink (.part target.sha256Hex))
                  task.fail .badRequest
                else if !(← publishPart target.sha256Hex) then task.fail .ioError
                else task.createFile target parentId

/-- An upload of a content that is stored already. -/
def linkFile (task : TransferTask) (target : UploadTarget)
    (parentId fileId : UInt64) : Handler Unit := do
  let linked ← Prog.ask (TaskOp.daoLinkExistingFile task.session.1.userId
    target.targetPath parentId target.fileName fileId)
  if linked ≠ (0 : Int) then task.fail .otherError
  else if !(← task.sendPutsResume target.fileSize) then pure ()
  else task.reply .ack .ok []

/-- The request of an upload as far as it is checked before the database is
asked; the status is that of the error response. -/
def uploadTarget (task : TransferTask) : Except StatusCode UploadTarget :=
  match UploadRequest.read task.packet.payload with
  | none => .error .protocolError
  | some request =>
      let sha256Hex := cString request.sha256Hex
      if 0 ∉ request.remotePath ∨ 0 ∉ request.sha256Hex ∨
          request.remotePath.head? ≠ some slash ∨
          !isValidSha256Hex sha256Hex then .error .badRequest
      else
        match normalizeCdPath (ascii "/") (cString request.remotePath)
            pathMax with
        | none => .error .badRequest
        | some targetPath =>
            if targetPath = ascii "/" then .error .badRequest
            else
              match splitAtLastSlash targetPath with
              | none => .error .badRequest
              | some (before, fileName) =>
                  if fileName = [] ∨ nameMax ≤ fileName.length then
                    .error .badRequest
                  else .ok
                    { targetPath, fileName, sha256Hex
                      parentPath := parentOf before
                      fileSize := request.fileSize }

/-- The `target_path` that `handle_puts` computes. -/
def putsTargetPath (task : TransferTask) : Option Bytes :=
  match UploadRequest.read task.packet.payload with
  | none => none
  | some request =>
      if 0 ∉ request.remotePath ∨ 0 ∉ request.sha256Hex ∨
          request.remotePath.head? ≠ some slash ∨
          !isValidSha256Hex (cString request.sha256Hex) then none
      else normalizeCdPath (ascii "/") (cString request.remotePath) pathMax

def handlePuts (task : TransferTask) : Handler Unit :=
  match task.uploadTarget with
  | .error status => task.fail status
  | .ok target => do
      match ← Prog.ask (TaskOp.daoPathGetNodeId task.session.1.userId
          target.parentPath) with
      | (.notFound, _) | (.isFile, _) => task.fail .badRequest
      | (.isDir, parentId) =>
          match ← Prog.ask (TaskOp.daoPathGetNodeId task.session.1.userId
              target.targetPath) with
          | (.isDir, _) | (.isFile, _) => task.fail .badRequest
          | (.notFound, _) =>
              let (found, fileId) ← Prog.ask
                (TaskOp.daoFileFindByHash target.sha256Hex target.fileSize)
              if found < (0 : Int) then task.fail .otherError
              else if found = (1 : Int) then
                task.linkFile target parentId fileId
              else task.uploadFile target parentId
          | _ => task.fail .otherError
      | _ => task.fail .otherError

/-- `sendfile_exact`; the answer holds whether all bytes were sent. -/
def sendfileExact (fd : Nat) : Nat → Nat → Nat → Handler Bool
  | 0, _, _ | _, _, 0 => pure true
  | fuel + 1, offset, remaining + 1 => do
      match ← Prog.ask (TaskOp.sendfile fd offset (remaining + 1)) with
      | none => pure false
      | some more => sendfileExact fd fuel (offset + more + 1) (remaining - more)

/-- The loop that sends the file in chunks. -/
def sendChunks (task : TransferTask) (fd : Nat) : Nat → Nat → Nat → Handler Bool
  | 0, _, _ | _, _, 0 => pure true
  | fuel + 1, offset, remaining + 1 => do
      let chunkSize := min fileChunkSize (remaining + 1)
      if !(← Prog.ask
          (TaskOp.sendHeader task.packet.sessionId chunkSize)) then
        pure false
      else if !(← sendfileExact fd chunkSize offset chunkSize) then pure false
      else sendChunks task fd fuel (offset + chunkSize) (remaining + 1 - chunkSize)

/-- The end of a download, after the bytes. -/
def endDownload (task : TransferTask) : Handler Unit := do
  if !(← HandlerTask.sendPacket .fileEnd .ok task.packet.sessionId []) then
    pure ()
  else
    let _ ← task.recvTransferPacket
    pure ()

/-- A download from the offset the client has chosen. -/
def download (task : TransferTask) (sha256Hex : Bytes) (startOffset : UInt64) :
    Handler Unit := do
  match ← Prog.ask (TaskOp.openFile (.object sha256Hex)) with
  | none => pure ()
  | some fd =>
      match ← Prog.ask (TaskOp.fstat fd) with
      | none => Prog.ask (TaskOp.close fd)
      | some size =>
          if size < startOffset then Prog.ask (TaskOp.close fd)
          else
            let remaining := (size - startOffset).toNat
            let sent ← task.sendChunks fd remaining startOffset.toNat remaining
            Prog.ask (TaskOp.close fd)
            if !sent then pure () else task.endDownload

/-- The `target_path` that `handle_gets` computes. -/
def getsTargetPath (task : TransferTask) : Option Bytes :=
  match task.copyPayload pathMax true with
  | none => none
  | some payload => normalizeCdPath task.session.1.cwd payload pathMax

def handleGets (task : TransferTask) : Handler Unit :=
  match task.copyPayload pathMax true with
  | none => task.fail .badRequest
  | some payload =>
      match normalizeCdPath task.session.1.cwd payload pathMax with
      | none => task.fail .badRequest
      | some targetPath => do
          match ← Prog.ask
              (TaskOp.daoGetFileMeta task.session.1.userId targetPath) with
          -- The process ends where the null pointer is used.
          | none => pure ()
          | some (.notFound, _) => task.fail .fileNotexist
          | some (.typeMismatch, _) => task.fail .isDir
          | some (.dbError, _) => task.fail .dbError
          | some (_, found) =>
              if !(← HandlerTask.sendPacket .getsResp .ok task.packet.sessionId
                  found.payload) then pure ()
              else
                match ← task.recvTransferPacket with
                | none => pure ()
                | some packet =>
                    if packet.type ≠ CmdType.resumePos.code ∨
                        packet.payload.length ≠ 8 then
                      task.fail .protocolError
                    else task.download found.sha256Hex (netToHost packet.payload)

/-- The switch of `handle_transfer_task`. -/
def handleTransferTask (task : TransferTask) : Handler Unit :=
  if task.packet.type = CmdType.putsReq.code then task.handlePuts
  else if task.packet.type = CmdType.getsReq.code then task.handleGets
  else task.fail .protocolError

end TransferTask

end CloudDrive
