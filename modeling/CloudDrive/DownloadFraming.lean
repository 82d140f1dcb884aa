import CloudDrive.Framing
import CloudDrive.TaskEnvironment

/-!
# The bytes of a download

`handle_gets` writes the header of a data packet with `send` and its payload with
`sendfile`.  On the connection this is what `protocol_send_packet` would have
written, whatever the calls move at a time.
-/

namespace CloudDrive

/-- Evaluate a program with calls that may wait forever. -/
def Prog.attempt {Op : Type} {Answer : Op → Type} {σ α : Type}
    (act : (op : Op) → σ → Option (Answer op) × σ) :
    Prog Answer α → σ → Option α × σ
  | .done value, state => (some value, state)
  | .call op next, state =>
      match act op state with
      | (some answer, after) => attempt act (next answer) after
      | (none, after) => (none, after)

/-- Go on with the result of an evaluation. -/
def Prog.andThen {σ α β : Type} :
    Option α × σ → (α → σ → Option β × σ) → Option β × σ
  | (some value, state), next => next value state
  | (none, state), _ => (none, state)

theorem Prog.attempt_bind {Op : Type} {Answer : Op → Type} {σ α β : Type}
    {act : (op : Op) → σ → Option (Answer op) × σ} (program : Prog Answer α)
    (rest : α → Prog Answer β) (state : σ) :
    (program >>= rest).attempt act state =
      andThen (program.attempt act state) fun value => (rest value).attempt act := by
  induction program generalizing state with
  | done value => rfl
  | call op next inductionHypothesis =>
      rw [Prog.call_bind, attempt, attempt]
      rcases act op state with ⟨_ | answer, after⟩
      · rfl
      · exact inductionHypothesis answer after

theorem Prog.attempt_ask {Op : Type} {Answer : Op → Type} {σ : Type}
    {act : (op : Op) → σ → Option (Answer op) × σ} (op : Op) (state : σ) :
    (Prog.ask op).attempt act state = act op state := by
  rw [Prog.ask, attempt]
  rcases act op state with ⟨_ | answer, after⟩ <;> rfl

/-- The calls still to come on a connection and the bytes that are on it. -/
abbrev Wire := List SocketEvent × Bytes

/-- The header that `handle_gets` sends before a part of the file. -/
def encodeDataHeader (sessionId : SessionId) (payloadLen : Nat) : Bytes :=
  [(0, writeNetU32 tlvMagic), (4, writeNetU32 tlvVersion),
    (8, writeNetU32 CmdType.fileData.code), (12, writeNetU32 StatusCode.ok.code),
    (16, writeNetU32 (UInt32.ofNat payloadLen)),
    (20, sessionId.bytes.toList)].foldl writeAt (List.replicate wireHeaderSize 0)

/-- `sendfile` until it is not interrupted; at the end of the file it moves nothing. -/
def sendfileCall (content : Bytes) (offset count : Nat) :
    List SocketEvent → Bytes → Option (Option (Fin count)) × Wire
  | [], stream => (none, [], stream)
  | .interrupted :: events, stream => sendfileCall content offset count events stream
  | .failed :: events, stream => (some none, events, stream)
  | .moves more :: events, stream =>
      let data := (content.drop offset).take (min count (more + 1))
      if moves : 0 < data.length then
        (some (some ⟨data.length - 1, by
          simp only [data, List.length_take] at moves ⊢
          omega⟩), events, stream ++ data)
      else (some none, events, stream)

/-- A call of a worker that sends the file `content`; all but the calls on the
connection are answered as the environment likes. -/
def wireAct (answers : (op : TaskOp) → op.Answer) (content : Bytes) :
    (op : TaskOp) → Wire → Option op.Answer × Wire
  | .send packet, (events, stream) => protocolSendPacket events packet stream
  | .sendHeader sessionId payloadLen, (events, stream) =>
      if maxPacketPayload < payloadLen then (some false, events, stream)
      else sendN events (encodeDataHeader sessionId payloadLen) stream
  | .sendfile _ offset count, (events, stream) =>
      sendfileCall content offset count events stream
  | op, wire => (some (answers op), wire)

/-- The chunks of `FILE_CHUNK_SIZE` bytes, of which the last may be shorter. -/
def fileChunks (data : Bytes) : List Bytes :=
  if data = [] then []
  else data.take fileChunkSize :: fileChunks (data.drop fileChunkSize)
termination_by data.length
decreasing_by
  rename_i nonempty
  have positive := List.length_pos_iff.mpr nonempty
  have : fileChunkSize = 4096 := rfl
  rw [List.length_drop]
  omega

/-- The packets that would carry the chunks. -/
def chunkPackets (sessionId : SessionId) (data : Bytes) : List Packet :=
  (fileChunks data).map (Packet.init .fileData .ok sessionId)

section Chunks

variable {data : Bytes} {sessionId : SessionId}

theorem fileChunks_nil : fileChunks [] = [] := by
  rw [fileChunks, if_pos rfl]

theorem fileChunks_cons (nonempty : data ≠ []) :
    fileChunks data =
      data.take fileChunkSize :: fileChunks (data.drop fileChunkSize) := by
  rw [fileChunks, if_neg nonempty]

theorem flatten_fileChunks (data : Bytes) : (fileChunks data).flatten = data := by
  fun_induction fileChunks data with
  | case1 => rfl
  | case2 data nonempty inductionHypothesis =>
      rw [List.flatten_cons, inductionHypothesis, List.take_append_drop]

theorem length_fileChunks (data : Bytes) :
    ∀ chunk ∈ fileChunks data, 1 ≤ chunk.length ∧ chunk.length ≤ fileChunkSize := by
  fun_induction fileChunks data with
  | case1 => exact nofun
  | case2 data nonempty inductionHypothesis =>
      intro chunk isChunk
      rcases List.mem_cons.mp isChunk with rfl | later
      · have positive := List.length_pos_iff.mpr nonempty
        have : fileChunkSize = 4096 := rfl
        rw [List.length_take]
        omega
      · exact inductionHypothesis chunk later

/-- Only the last chunk is shorter. -/
theorem length_dropLast_fileChunks (data : Bytes) :
    ∀ chunk ∈ (fileChunks data).dropLast, chunk.length = fileChunkSize := by
  fun_induction fileChunks data with
  | case1 => exact nofun
  | case2 data nonempty inductionHypothesis =>
      intro chunk isChunk
      by_cases isLast : data.drop fileChunkSize = []
      · rw [isLast, fileChunks_nil] at isChunk
        cases isChunk
      · have more : fileChunks (data.drop fileChunkSize) ≠ [] := by
          rw [fileChunks_cons isLast]
          exact List.cons_ne_nil _ _
        rw [List.dropLast_cons_of_ne_nil more] at isChunk
        rcases List.mem_cons.mp isChunk with rfl | later
        · have := List.length_pos_iff.mpr isLast
          rw [List.length_drop] at this
          rw [List.length_take]
          omega
        · exact inductionHypothesis chunk later

theorem fits_chunkPackets :
    ∀ packet ∈ chunkPackets sessionId data, packet.Fits := by
  intro packet isPacket
  obtain ⟨chunk, isChunk, rfl⟩ := List.mem_map.mp isPacket
  have short := (length_fileChunks data chunk isChunk).2
  exact Nat.le_trans short (by decide)

end Chunks

section Sending

variable {answers : (op : TaskOp) → op.Answer} {content : Bytes}

/-- One `sendfile` and what is left to send is like one `send`. -/
theorem sendN_eq_sendfileCall {offset count : Nat} (inside : offset + count < content.length)
    (events : List SocketEvent) (stream : Bytes) :
    sendN events ((content.drop offset).take (count + 1)) stream =
      Prog.andThen (sendfileCall content offset (count + 1) events stream)
        fun moved wire =>
          match moved with
          | none => (some false, wire)
          | some more => sendN wire.1
              ((content.drop (offset + more + 1)).take (count - more)) wire.2 := by
  have longer : 0 < (content.drop offset).length := by
    rw [List.length_drop]
    omega
  obtain ⟨byte, rest, isRest⟩ := List.exists_cons_of_length_pos longer
  induction events generalizing stream with
  | nil =>
      rw [isRest, List.take_succ_cons]
      rfl
  | cons event events inductionHypothesis =>
      cases event with
      | interrupted =>
          rw [sendfileCall, ← inductionHypothesis, isRest, List.take_succ_cons, sendN]
      | failed =>
          rw [isRest, List.take_succ_cons]
          rfl
      | moves more =>
          have length : rest.length = content.length - offset - 1 := by
            have := congrArg List.length isRest
            rw [List.length_drop, List.length_cons] at this
            omega
          have data : (content.drop offset).take (min (count + 1) (more + 1)) =
              byte :: rest.take (min count more) := by
            rw [isRest, Nat.add_min_add_right, List.take_succ_cons]
          have moved : (byte :: rest.take (min count more)).length - 1 =
              min count more := by
            rw [List.length_cons, List.length_take]
            omega
          have left : content.drop (offset + min count more + 1) =
              rest.drop (min count more) := by
            rw [Nat.add_assoc, ← List.drop_drop, isRest, List.drop_succ_cons]
          rw [isRest, List.take_succ_cons, sendN, List.take_take, List.drop_take]
          simp only [sendfileCall, data]
          have positive : 0 < (byte :: rest.take (min count more)).length :=
            Nat.zero_lt_succ _
          rw [dif_pos positive]
          simp only [Prog.andThen, moved, left]
          rcases Nat.le_total more count with fewer | enough
          · rw [Nat.min_eq_left fewer, Nat.min_eq_right fewer]
          · rw [Nat.min_eq_right enough, Nat.min_eq_left enough,
              Nat.sub_eq_zero_of_le enough, Nat.sub_self, List.take_zero, List.take_zero]

/-- `sendfile_exact` sends a part of the file as `send_n` would. -/
theorem attempt_sendfileExact {fd fuel offset count : Nat} (enough : count ≤ fuel)
    (inside : offset + count ≤ content.length) (events : List SocketEvent)
    (stream : Bytes) :
    (TransferTask.sendfileExact fd fuel offset count).attempt (wireAct answers content)
        (events, stream) =
      sendN events ((content.drop offset).take count) stream := by
  induction fuel generalizing offset count events stream with
  | zero =>
      obtain rfl := Nat.le_zero.mp enough
      cases events <;> rfl
  | succ fuel inductionHypothesis =>
      rcases count with _ | count
      · cases events <;> rfl
      rw [TransferTask.sendfileExact, Prog.attempt_bind, Prog.attempt_ask,
        sendN_eq_sendfileCall (by omega)]
      change Prog.andThen (sendfileCall content offset (count + 1) events stream) _ = _
      congr 1
      funext moved wire
      cases moved with
      | none => rfl
      | some more =>
          have bound := more.isLt
          exact inductionHypothesis (by omega) (by omega) wire.1 wire.2

/-- A header and the part of the file behind it are a packet. -/
theorem protocolSendPacket_data {sessionId : SessionId} {chunk : Bytes}
    (fits : chunk.length ≤ maxPacketPayload) (events : List SocketEvent)
    (stream : Bytes) :
    protocolSendPacket events (Packet.init .fileData .ok sessionId chunk) stream =
      Prog.andThen (sendN events (encodeDataHeader sessionId chunk.length) stream)
        fun sent wire => if !sent then (some false, wire) else sendN wire.1 chunk wire.2 := by
  have header : encodeWireHeader (Packet.init .fileData .ok sessionId chunk) =
      encodeDataHeader sessionId chunk.length := rfl
  have small :
      ¬maxPacketPayload < (Packet.init .fileData .ok sessionId chunk).payload.length :=
    Nat.not_lt.mpr fits
  rw [protocolSendPacket, if_neg small, header]
  rcases sendN events (encodeDataHeader sessionId chunk.length) stream with
    ⟨_ | sent, wire⟩
  · rfl
  · cases sent <;> rfl

theorem sendPackets_cons (packet : Packet) (packets : List Packet)
    (events : List SocketEvent) (stream : Bytes) :
    sendPackets events (packet :: packets) stream =
      Prog.andThen (protocolSendPacket events packet stream) fun sent wire =>
        if !sent then (some false, wire) else sendPackets wire.1 packets wire.2 := by
  rw [sendPackets]
  rcases protocolSendPacket events packet stream with ⟨_ | sent, wire⟩
  · rfl
  · cases sent <;> rfl

/-- The loop of `handle_gets` sends the chunks as `protocol_send_packet` would. -/
theorem attempt_sendChunks {task : TransferTask} {fd fuel offset remaining : Nat}
    (enough : remaining ≤ fuel) (inside : offset + remaining = content.length)
    (events : List SocketEvent) (stream : Bytes) :
    (task.sendChunks fd fuel offset remaining).attempt (wireAct answers content)
        (events, stream) =
      sendPackets events (chunkPackets task.packet.sessionId (content.drop offset))
        stream := by
  have finished {fuel offset : Nat} (events : List SocketEvent) (stream : Bytes)
      (atEnd : offset = content.length) :
      (task.sendChunks fd fuel offset 0).attempt (wireAct answers content)
          (events, stream) =
        sendPackets events (chunkPackets task.packet.sessionId (content.drop offset))
          stream := by
    rw [List.drop_of_length_le (Nat.le_of_eq atEnd.symm), chunkPackets, fileChunks_nil]
    cases fuel <;> rfl
  induction fuel generalizing offset remaining events stream with
  | zero =>
      obtain rfl := Nat.le_zero.mp enough
      exact finished events stream inside
  | succ fuel inductionHypothesis =>
      rcases remaining with _ | remaining
      · exact finished events stream inside
      have length : (content.drop offset).length = remaining + 1 := by
        rw [List.length_drop]
        omega
      have nonempty : content.drop offset ≠ [] := by
        rw [← List.length_pos_iff, length]
        exact Nat.zero_lt_succ _
      have chunk : (content.drop offset).take fileChunkSize =
          (content.drop offset).take (min fileChunkSize (remaining + 1)) := by
        rw [← length, List.take_eq_take_min]
      have chunkLength : ((content.drop offset).take fileChunkSize).length =
          min fileChunkSize (remaining + 1) := by
        rw [List.length_take, length]
      have rest : (content.drop offset).drop fileChunkSize =
          content.drop (offset + min fileChunkSize (remaining + 1)) := by
        rw [List.drop_drop]
        rcases Nat.le_total fileChunkSize (remaining + 1) with more | isLast
        · rw [Nat.min_eq_left more]
        · rw [Nat.min_eq_right isLast, List.drop_of_length_le (by omega),
            List.drop_of_length_le (by omega)]
      have small : ¬maxPacketPayload < min fileChunkSize (remaining + 1) := by
        have : fileChunkSize ≤ maxPacketPayload := by decide
        omega
      rw [chunkPackets, fileChunks_cons nonempty, List.map_cons, sendPackets_cons,
        protocolSendPacket_data (by rw [chunkLength]; exact Nat.not_lt.mp small),
        chunkLength, chunk, rest]
      rw [TransferTask.sendChunks, Prog.attempt_bind, Prog.attempt_ask, wireAct,
        if_neg small]
      rcases sendN events (encodeDataHeader task.packet.sessionId
          (min fileChunkSize (remaining + 1))) stream with ⟨_ | _ | _, events, stream⟩
      · rfl
      · rfl
      change Prog.attempt _ (TransferTask.sendfileExact fd _ offset _ >>= _) _ = _
      rw [Prog.attempt_bind, attempt_sendfileExact (Nat.le_refl _) (by omega)]
      change _ = Prog.andThen (sendN events _ stream) _
      congr 1
      funext sent wire
      cases sent with
      | false => rfl
      | true =>
          have positive : 1 ≤ fileChunkSize := by decide
          exact inductionHypothesis (by omega) (by omega) wire.1 wire.2

end Sending

namespace TransferTask

/-- `chunk_size`. -/
def chunkSize (remaining : UInt64) : UInt32 :=
  if 4096 < remaining then 4096 else remaining.toUInt32

/-- `sendfile_exact` with the counter of the source. -/
def sendfileWords (fd : Nat) : Nat → Nat → UInt64 → Handler Bool
  | 0, _, _ => pure true
  | fuel + 1, offset, remaining =>
      if 0 < remaining then do
        let moved ← Prog.ask (TaskOp.sendfile fd offset remaining.toNat)
        match Option.map Fin.val moved with
        | none => pure false
        | some more =>
            sendfileWords fd fuel (offset + more + 1)
              (remaining - UInt64.ofNat (more + 1))
      else pure true

/-- The loop of `handle_gets` with the counters of the source. -/
def sendChunksWords (task : TransferTask) (fd : Nat) : Nat → Nat → UInt64 → Handler Bool
  | 0, _, _ => pure true
  | fuel + 1, offset, remaining =>
      if 0 < remaining then do
        let size := chunkSize remaining
        if !(← Prog.ask (TaskOp.sendHeader task.packet.sessionId size.toNat)) then
          pure false
        else if !(← sendfileWords fd size.toNat offset size.toUInt64) then pure false
        else
          sendChunksWords task fd fuel (offset + size.toNat)
            (remaining - size.toUInt64)
      else pure true

theorem toNat_chunkSize (remaining : UInt64) :
    (chunkSize remaining).toNat = min fileChunkSize remaining.toNat := by
  rw [chunkSize]
  split_ifs with large
  · have := UInt64.lt_iff_toNat_lt.mp large
    exact (Nat.min_eq_left (Nat.le_of_lt this)).symm
  · have small := UInt64.le_iff_toNat_le.mp (UInt64.not_lt.mp large)
    have isSmall : remaining.toNat ≤ 4096 := small
    rw [UInt64.toNat_toUInt32, Nat.mod_eq_of_lt (by omega)]
    exact (Nat.min_eq_right isSmall).symm

theorem sendfileWords_eq {fd offset count : Nat} (fuel : Nat) (small : count < 2 ^ 64) :
    sendfileWords fd fuel offset (UInt64.ofNat count) =
      sendfileExact fd fuel offset count := by
  induction fuel generalizing offset count with
  | zero => rw [sendfileWords, sendfileExact]
  | succ fuel inductionHypothesis =>
      rcases count with _ | count
      · rw [sendfileWords, if_neg (by decide), sendfileExact]
        exact nofun
      have isCount : (UInt64.ofNat (count + 1)).toNat = count + 1 := by
        rw [UInt64.toNat_ofNat', Nat.mod_eq_of_lt small]
      have positive : 0 < UInt64.ofNat (count + 1) := by
        rw [UInt64.lt_iff_toNat_lt, isCount]
        exact Nat.zero_lt_succ count
      rw [sendfileWords, if_pos positive, isCount, sendfileExact]
      congr 1
      funext moved
      cases moved with
      | none => rfl
      | some more =>
          have bound := more.isLt
          have left : UInt64.ofNat (count + 1) - UInt64.ofNat (more.1 + 1) =
              UInt64.ofNat (count - more) := by
            rw [← UInt64.ofNat_sub bound, Nat.add_sub_add_right]
          dsimp only [Option.map_some]
          rw [left]
          exact inductionHypothesis (by omega)

theorem sendChunksWords_eq (task : TransferTask) {fd offset count : Nat} (fuel : Nat)
    (small : count < 2 ^ 64) :
    task.sendChunksWords fd fuel offset (UInt64.ofNat count) =
      task.sendChunks fd fuel offset count := by
  induction fuel generalizing offset count with
  | zero => rw [sendChunksWords, sendChunks]
  | succ fuel inductionHypothesis =>
      rcases count with _ | count
      · rw [sendChunksWords, if_neg (by decide), sendChunks]
        exact nofun
      have isCount : (UInt64.ofNat (count + 1)).toNat = count + 1 := by
        rw [UInt64.toNat_ofNat', Nat.mod_eq_of_lt small]
      have positive : 0 < UInt64.ofNat (count + 1) := by
        rw [UInt64.lt_iff_toNat_lt, isCount]
        exact Nat.zero_lt_succ count
      have toNat_size := toNat_chunkSize (UInt64.ofNat (count + 1))
      rw [isCount] at toNat_size
      have size : (chunkSize (UInt64.ofNat (count + 1))).toUInt64 =
          UInt64.ofNat (min fileChunkSize (count + 1)) := by
        rw [← toNat_size, UInt64.ofNat_uInt32ToNat]
      have bound : min fileChunkSize (count + 1) ≤ count + 1 := Nat.min_le_right _ _
      rw [sendChunksWords, if_pos positive, sendChunks]
      dsimp only
      rw [toNat_size, size, sendfileWords_eq _ (by omega), ← UInt64.ofNat_sub bound]
      simp only [inductionHypothesis (Nat.lt_of_le_of_lt (Nat.sub_le _ _) small)]

/-- The request of a download is answered: its file has the metadata `found` and the
bytes `content`, and the client asks for what follows `start`. -/
structure ServesFile (answers : (op : TaskOp) → op.Answer) (task : TransferTask)
    (found : FileMeta) (content : Bytes) (fd : Nat) (start : UInt64) : Prop where
  located : ∃ targetPath, task.getsTargetPath = some targetPath ∧
    answers (.daoGetFileMeta task.session.1.userId targetPath) = some (.ok, found)
  resumed : ∃ packet, answers .recv = some packet ∧
    packet.sessionId = task.packet.sessionId ∧
    packet.type = CmdType.resumePos.code ∧ packet.payload.length = 8 ∧
    netToHost packet.payload = start
  opened : answers (.openFile (.object found.sha256Hex)) = some fd
  measured : answers (.fstat fd) = some (UInt64.ofNat content.length)

section Downloads

variable {answers : (op : TaskOp) → op.Answer} {task : TransferTask} {found : FileMeta}
  {content : Bytes} {fd : Nat} {start : UInt64}

/-- The part of `handle_gets` that sends the file. -/
theorem attempt_download (serves : task.ServesFile answers found content fd start)
    (measurable : content.length < 2 ^ 63) (inside : start.toNat ≤ content.length)
    (wire : Wire) :
    (task.download found.sha256Hex start).attempt (wireAct answers content) wire =
      Prog.andThen (sendPackets wire.1
        (chunkPackets task.packet.sessionId (content.drop start.toNat)) wire.2)
        fun sent wire =>
          if !sent then (some (), wire)
          else task.endDownload.attempt (wireAct answers content) wire := by
  have size : (UInt64.ofNat content.length).toNat = content.length := by
    rw [UInt64.toNat_ofNat', Nat.mod_eq_of_lt (by omega)]
  have notBeyond : ¬UInt64.ofNat content.length < start := by
    rw [UInt64.lt_iff_toNat_lt, size]
    exact Nat.not_lt.mpr inside
  have remaining : (UInt64.ofNat content.length - start).toNat =
      content.length - start.toNat := by
    rw [UInt64.toNat_sub_of_le _ _ (UInt64.not_lt.mp notBeyond), size]
  rw [download, Prog.attempt_bind, Prog.attempt_ask]
  simp only [wireAct, Prog.andThen, serves.opened]
  rw [Prog.attempt_bind, Prog.attempt_ask]
  simp only [wireAct, Prog.andThen, serves.measured]
  rw [if_neg notBeyond, remaining, Prog.attempt_bind,
    attempt_sendChunks (Nat.le_refl _) (by omega)]
  congr 1
  funext sent wire
  cases sent <;> rfl

theorem attempt_handleGets (serves : task.ServesFile answers found content fd start)
    (wire : Wire) :
    task.handleGets.attempt (wireAct answers content) wire =
      Prog.andThen (protocolSendPacket wire.1
        (Packet.init .getsResp .ok task.packet.sessionId found.payload) wire.2)
        fun sent wire =>
          if !sent then (some (), wire)
          else (task.download found.sha256Hex start).attempt (wireAct answers content)
            wire := by
  obtain ⟨targetPath, located, isMeta⟩ := serves.located
  obtain ⟨packet, arrives, ours, isResume, isLong, isStart⟩ := serves.resumed
  rw [getsTargetPath] at located
  rw [handleGets]
  split at located
  · cases located
  rename_i payload copied
  rw [located]
  dsimp only
  rw [Prog.attempt_bind, Prog.attempt_ask]
  simp only [wireAct, Prog.andThen, isMeta]
  rw [Prog.attempt_bind, HandlerTask.sendPacket,
    if_neg (Nat.not_lt.mpr found.length_payload), Prog.attempt_ask]
  congr 1
  funext sent wire
  cases sent with
  | false => rfl
  | true =>
      have received : task.recvTransferPacket.attempt (wireAct answers content) wire =
          (some (some packet), wire) := by
        rw [recvTransferPacket, Prog.attempt_bind, Prog.attempt_ask]
        simp only [wireAct, Prog.andThen, arrives]
        rw [if_neg (not_not.mpr ours)]
        rfl
      have expected : ¬(packet.type ≠ CmdType.resumePos.code ∨
          packet.payload.length ≠ 8) := by
        simp [isResume, isLong]
      rw [if_neg (by decide), if_neg (by decide), Prog.attempt_bind, received]
      simp only [Prog.andThen]
      rw [if_neg expected, isStart]

/-- Between `CMD_GETS_RESP` and `CMD_FILE_END` a download writes what
`protocol_send_packet` writes for the chunks of the file, with the same schedule of
calls; if that fails, nothing more is written.  The length in every header is that of
the chunk behind it, and the counters of the source do not lose a bit. -/
theorem handleGets_frames_content
    (serves : task.ServesFile answers found content fd start)
    (measurable : content.length < 2 ^ 63) (inside : start.toNat ≤ content.length) :
    (∀ events stream, task.handleGets.attempt (wireAct answers content) (events, stream) =
      Prog.andThen (protocolSendPacket events
        (Packet.init .getsResp .ok task.packet.sessionId found.payload) stream)
        fun sent wire =>
          if !sent then (some (), wire)
          else
            Prog.andThen (sendPackets wire.1
              (chunkPackets task.packet.sessionId (content.drop start.toNat)) wire.2)
              fun sent wire =>
                if !sent then (some (), wire)
                else task.endDownload.attempt (wireAct answers content) wire) ∧
    (fileChunks (content.drop start.toNat)).flatten = content.drop start.toNat ∧
    (∀ chunk ∈ fileChunks (content.drop start.toNat), 1 ≤ chunk.length ∧
      chunk.length ≤ fileChunkSize) ∧
    (∀ chunk ∈ (fileChunks (content.drop start.toNat)).dropLast,
      chunk.length = fileChunkSize) ∧
    (∀ events stream, Flows ((chunkPackets task.packet.sessionId
        (content.drop start.toNat)).flatMap Packet.encode).length events →
      ∃ after, sendPackets events
          (chunkPackets task.packet.sessionId (content.drop start.toNat)) stream =
        (some true, after, stream ++ (chunkPackets task.packet.sessionId
          (content.drop start.toNat)).flatMap Packet.encode)) ∧
    (∀ packet ∈ chunkPackets task.packet.sessionId (content.drop start.toNat),
      (readNetU32 (packet.encode.drop 16)).toNat =
        (packet.encode.drop wireHeaderSize).length) ∧
    ∀ fuel offset count, count < 2 ^ 64 →
      task.sendChunksWords fd fuel offset (UInt64.ofNat count) =
        task.sendChunks fd fuel offset count := by
  refine ⟨?_, flatten_fileChunks _, length_fileChunks _, length_dropLast_fileChunks _,
    fun events stream flows => sendPackets_flows fits_chunkPackets stream flows, ?_,
    fun fuel offset count small => sendChunksWords_eq task fuel small⟩
  · intro events stream
    rw [attempt_handleGets serves]
    congr 1
    funext sent wire
    rw [attempt_download serves measurable inside]
  · intro packet isPacket
    rw [Packet.encode, List.drop_left' (length_encodeWireHeader packet),
      encodeWireHeader_eq]
    simp only [List.append_assoc, drop_writeNetU32, List.drop_zero, readNetU32_write]
    exact toNat_length (fits_chunkPackets packet isPacket)

/-- The object has three bytes, and the client has the first of them. -/
def answersDownload : (op : TaskOp) → op.Answer
  | .daoGetFileMeta .. => some (.ok, ⟨1, 1, ascii "f", 3, List.replicate 64 98⟩)
  | .recv => some (.init .resumePos .ok .empty (hostToNet 1))
  | .fstat _ => some 3
  | op => Choice.ordinary.answer op

def requestOfF : TransferTask where
  packet := ⟨CmdType.getsReq.code, 0, .empty, ascii "f"⟩
  session := ⟨⟨1, 1, ascii "a", ascii "/"⟩, fits_rootContext⟩
  transferTempDir := ascii "temp"
  storageRoot := ascii "storage"

/-- The other two bytes go out one by one, in one packet. -/
theorem two_bytes_framed :
    ∃ after, sendPackets (List.replicate 38 (.moves 0)) (chunkPackets .empty [98, 99]) [] =
      (some true, after, (Packet.init .fileData .ok .empty [98, 99]).encode) := by
  have serves : requestOfF.ServesFile answersDownload
      ⟨1, 1, ascii "f", 3, List.replicate 64 98⟩ [97, 98, 99] 3 1 := by
    refine ⟨⟨ascii "/f", by decide +kernel, rfl⟩, ⟨_, rfl, rfl, rfl, rfl, ?_⟩, rfl, rfl⟩
    exact netToHost_hostToNet 1
  have packets : chunkPackets .empty [98, 99] =
      [Packet.init .fileData .ok .empty [98, 99]] := by
    have rest : ([98, 99] : Bytes).drop fileChunkSize = [] := rfl
    rw [chunkPackets, fileChunks_cons (List.cons_ne_nil _ _), rest, fileChunks_nil]
    rfl
  have flows : Flows 38 (List.replicate 38 (.moves 0)) := by
    unfold Flows
    decide +kernel
  have framed := (handleGets_frames_content serves (by decide) (by decide)).2.2.2.2.1
    (List.replicate 38 (.moves 0)) []
  change Flows ((chunkPackets .empty [98, 99]).flatMap Packet.encode).length _ →
    ∃ after, sendPackets _ (chunkPackets .empty [98, 99]) [] =
      (some true, after, [] ++ (chunkPackets .empty [98, 99]).flatMap Packet.encode) at framed
  rw [packets] at framed ⊢
  exact framed flows

end Downloads

end TransferTask

end CloudDrive
