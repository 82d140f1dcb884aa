import CloudDrive.ClientTasks

/-!
# The transfers of a client worker

`run_upload` and `run_download` of the client's `transfer.c`, as programs over
the calls they make.  As on the server, the loops run on fuel that covers their
bytes.
-/

namespace CloudDrive

inductive ClientOp where
  /-- `task_is_canceled`. -/
  | canceled
  /-- `protocol_send_packet` on the socket of the task. -/
  | send (packet : Packet)
  /-- `protocol_recv_packet` on the socket of the task. -/
  | recv
  /-- `open` with `O_RDONLY`. -/
  | openFile (path : Bytes)
  /-- `open` with `O_CREAT | O_RDWR`. -/
  | openOrCreate (path : Bytes)
  /-- `fstat` of a regular file. -/
  | fstat (fd : Nat)
  /-- `ftruncate` to length zero. -/
  | truncate (fd : Nat)
  | lseek (fd : Nat) (offset : UInt64)
  /-- The next `read` that is not interrupted. -/
  | read (fd count : Nat)
  /-- The next `write` that is not interrupted. -/
  | write (fd : Nat) (data : Bytes)
  | fsync (fd : Nat)
  /-- `task_compute_sha256`. -/
  | digest (fd : Nat)
  | close (fd : Nat)
  | rename (source target : Bytes)

@[reducible]
def ClientOp.Answer : ClientOp → Type
  | canceled | send .. | truncate .. | lseek .. | fsync .. | rename .. => Bool
  | recv => Option Packet
  | openFile .. | openOrCreate .. => Option Nat
  | fstat .. => Option UInt64
  -- Nothing at the end of the file.
  | read _ count => Option { data : Bytes // data.length ≤ count }
  -- One less than the number of bytes written; nothing on failure.
  | write _ data => Option (Fin data.length)
  | digest .. => Option { sha256Hex : Bytes // IsDigest sha256Hex }
  | close .. => Unit

abbrev ClientProgram := Prog ClientOp.Answer

/-- What `run_download` reads of a `file_info_payload_t`. -/
structure FileInfo where
  fileSize : UInt64
  sha256Hex : Bytes
deriving DecidableEq

/-- The fields of a payload of the size of the structure; the last byte of the
hash is replaced by a terminator. -/
def FileInfo.read (payload : Bytes) : Option FileInfo :=
  if payload.length ≠ 336 then none
  else some
    { fileSize := netToHost ((payload.drop 256).take 8)
      sha256Hex := cString ((payload.drop 264).take 64) }

namespace ClientTask

def taskSend (task : ClientTask) (type : CmdType) (status : StatusCode)
    (payload : Bytes) : ClientProgram Bool := do
  if ← Prog.ask ClientOp.canceled then pure false
  else if maxPacketPayload < payload.length then pure false
  else Prog.ask (ClientOp.send (Packet.init type status task.sessionId payload))

def taskRecv (task : ClientTask) : ClientProgram (Option Packet) := do
  if ← Prog.ask ClientOp.canceled then pure none
  else
    match ← Prog.ask ClientOp.recv with
    | none => pure none
    | some packet =>
        if packet.sessionId ≠ task.sessionId then do
          let _ ← task.taskSend .error .unauthorized []
          pure none
        else pure (some packet)

/-- `task_report_error`, after which every caller fails. -/
def reportError (task : ClientTask) (status : StatusCode) :
    ClientProgram Bool := do
  if ← Prog.ask ClientOp.canceled then pure false
  else do
    let _ ← task.taskSend .error status []
    pure false

/-- The loop of `run_upload` that sends the bytes, of which `remaining` are
left. -/
def sendData (task : ClientTask) (fd : Nat) : Nat → Nat → ClientProgram Bool
  | 0, _ | _, 0 => pure true
  | fuel + 1, remaining + 1 => do
      if ← Prog.ask ClientOp.canceled then pure false
      else
        let wanted := min fileChunkSize (remaining + 1)
        match ← Prog.ask (ClientOp.read fd wanted) with
        | none | some ⟨[], _⟩ => task.reportError .ioError
        | some ⟨byte :: rest, _⟩ => do
            if !(← task.taskSend .fileData .ok (byte :: rest)) then pure false
            else task.sendData fd fuel (remaining - rest.length)

/-- The answer that ends an upload. -/
def awaitAck (task : ClientTask) : ClientProgram Bool := do
  match ← task.taskRecv with
  | none => pure false
  | some packet =>
      pure (packet.type = CmdType.ack.code && packet.status = StatusCode.ok.code)

/-- An upload from the offset the server has named. -/
def uploadFrom (task : ClientTask) (fd : Nat) (fileSize offset : UInt64) :
    ClientProgram Bool := do
  if fileSize < offset then task.reportError .protocolError
  -- Even an instant upload ends with an acknowledgement.
  else if offset = fileSize then task.awaitAck
  else if !(← Prog.ask (ClientOp.lseek fd offset)) then task.reportError .ioError
  else
    let remaining := (fileSize - offset).toNat
    if !(← task.sendData fd remaining remaining) then pure false
    else if !(← task.taskSend .fileEnd .ok []) then pure false
    else task.awaitAck

/-- An upload of an open file of known size. -/
def uploadFile (task : ClientTask) (fd : Nat) (fileSize : UInt64) :
    ClientProgram Bool :=
  if pathMax ≤ task.remotePath.length then pure false
  else do
    match ← Prog.ask (ClientOp.digest fd) with
    | none => pure false
    | some sha256Hex =>
        if !(← Prog.ask (ClientOp.lseek fd 0)) then pure false
        else if !(← task.taskSend .putsReq .ok
            (UploadRequest.payload ⟨task.remotePath, fileSize, sha256Hex.1⟩)) then
          pure false
        else
          match ← task.taskRecv with
          | none => pure false
          | some packet =>
              if packet.type ≠ CmdType.putsResp.code ∨
                  packet.status ≠ StatusCode.ok.code ∨
                  packet.payload.length ≠ 8 then pure false
              else task.uploadFrom fd fileSize (netToHost packet.payload)

/-- `run_upload`, whether it returns zero. -/
def runUpload (task : ClientTask) : ClientProgram Bool := do
  match ← Prog.ask (ClientOp.openFile task.localPath) with
  | none => pure false
  | some fd =>
      let result ← do
        match ← Prog.ask (ClientOp.fstat fd) with
        | none => pure false
        | some fileSize => task.uploadFile fd fileSize
      Prog.ask (ClientOp.close fd)
      pure result

/-- `hash_matches`. -/
def hashMatches (fd : Nat) (size : UInt64) (expected : Bytes) :
    ClientProgram Bool := do
  match ← Prog.ask (ClientOp.fstat fd) with
  | none => pure false
  | some actualSize =>
      if actualSize ≠ size then pure false
      else
        match ← Prog.ask (ClientOp.digest fd) with
        | none => pure false
        | some actual => pure (actual.1.map toLower = expected.map toLower)

/-- `write_n`. -/
def writeN (fd : Nat) : Nat → Bytes → ClientProgram Bool
  | 0, _ | _, [] => pure true
  | fuel + 1, byte :: rest => do
      match ← Prog.ask (ClientOp.write fd (byte :: rest)) with
      | none => pure false
      | some more => writeN fd fuel (rest.drop more)

/-- The loop of `run_download` that receives the bytes, of which `remaining`
are left. -/
def receiveData (task : ClientTask) (fd : Nat) : Nat → Nat → ClientProgram Bool
  | 0, _ | _, 0 => pure true
  | fuel + 1, remaining + 1 => do
      if ← Prog.ask ClientOp.canceled then pure false
      else
        match ← task.taskRecv with
        | none => pure false
        | some packet =>
            if packet.type ≠ CmdType.fileData.code ∨
                packet.status ≠ StatusCode.ok.code ∨ packet.payload = [] ∨
                fileChunkSize < packet.payload.length ∨
                remaining + 1 < packet.payload.length then
              task.reportError .protocolError
            else if !(← writeN fd packet.payload.length packet.payload) then
              task.reportError .ioError
            else task.receiveData fd fuel (remaining + 1 - packet.payload.length)

/-- The end of `run_download` with an open file. -/
def closeWith (fd : Nat) (body : ClientProgram Bool) : ClientProgram Bool := do
  let result ← body
  Prog.ask (ClientOp.close fd)
  pure result

/-- `run_download` after the bytes: a partial file is verified and renamed. -/
def endDownload (task : ClientTask) (fd : Nat) (info : FileInfo)
    (useFinal : Bool) : ClientProgram Bool := do
  match ← task.taskRecv with
  | none => closeWith fd (pure false)
  | some packet =>
      if packet.type ≠ CmdType.fileEnd.code ∨
          packet.status ≠ StatusCode.ok.code ∨ packet.payload ≠ [] then
        closeWith fd (task.reportError .protocolError)
      else if useFinal then closeWith fd (task.taskSend .ack .ok [])
      else if !(← Prog.ask (ClientOp.fsync fd)) then
        closeWith fd (task.reportError .protocolError)
      else if !(← hashMatches fd info.fileSize info.sha256Hex) then
        closeWith fd (task.reportError .protocolError)
      else
        Prog.ask (ClientOp.close fd)
        if !(← Prog.ask (ClientOp.rename task.partPath task.targetPath)) then
          task.reportError .ioError
        else task.taskSend .ack .ok []

/-- A download from the offset the client has chosen. -/
def downloadFrom (task : ClientTask) (fd : Nat) (info : FileInfo)
    (offset : UInt64) (useFinal : Bool) : ClientProgram Bool := do
  if !(← task.taskSend .resumePos .ok (hostToNet offset)) then
    closeWith fd (pure false)
  else
    let remaining := (info.fileSize - offset).toNat
    if !(← task.receiveData fd remaining remaining) then
      closeWith fd (pure false)
    else task.endDownload fd info useFinal

/-- A download that resumes an open partial file at an offset. -/
def resumeAt (task : ClientTask) (fd : Nat) (info : FileInfo)
    (offset : UInt64) : ClientProgram Bool := do
  if !(← Prog.ask (ClientOp.lseek fd offset)) then
    closeWith fd (task.reportError .ioError)
  else task.downloadFrom fd info offset false

/-- A download into the partial file. -/
def downloadPart (task : ClientTask) (info : FileInfo) :
    ClientProgram Bool := do
  match ← Prog.ask (ClientOp.openOrCreate task.partPath) with
  | none => task.reportError .ioError
  | some fd =>
      match ← Prog.ask (ClientOp.fstat fd) with
      | none => closeWith fd (task.reportError .ioError)
      | some size =>
          if info.fileSize < size then
            if !(← Prog.ask (ClientOp.truncate fd)) then
              closeWith fd (task.reportError .ioError)
            else task.resumeAt fd info 0
          else task.resumeAt fd info size

/-- A download whose metadata has arrived: the target may hold the content
already. -/
def downloadFile (task : ClientTask) (info : FileInfo) : ClientProgram Bool :=
  if !isValidSha256Hex info.sha256Hex then task.reportError .protocolError
  else do
    match ← Prog.ask (ClientOp.openFile task.targetPath) with
    | none => task.downloadPart info
    | some fd =>
        if ← hashMatches fd info.fileSize info.sha256Hex then
          task.downloadFrom fd info info.fileSize true
        else
          Prog.ask (ClientOp.close fd)
          task.downloadPart info

/-- `run_download`, whether it returns zero. -/
def runDownload (task : ClientTask) : ClientProgram Bool := do
  if !(← task.taskSend .getsReq .ok task.remotePath) then pure false
  else
    match ← task.taskRecv with
    | none => pure false
    | some packet =>
        if packet.type ≠ CmdType.getsResp.code ∨
            packet.status ≠ StatusCode.ok.code then pure false
        else
          match FileInfo.read packet.payload with
          | none => pure false
          | some info => task.downloadFile info

end ClientTask

end CloudDrive
