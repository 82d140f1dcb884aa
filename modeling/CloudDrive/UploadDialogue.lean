import CloudDrive.TransferDialogue

/-!
# Uploads

`run_upload` of the client against `handle_puts` of the server, over a
connection without faults.
-/

namespace CloudDrive

namespace Transfer

variable {sha256 : Sha256} {dialect : Dialect} {post : Transfer → Prop}

section Client

variable {files : ClientFiles} {inbox sent received : List Packet}
  {server : ServerEnd} {fd offset : Nat} {name content : Bytes}

/-- The loop of `run_upload` sends the rest of the file in data packets. -/
theorem leads_sendData {task : ClientTask} {fuel remaining : Nat}
    {rest : Bool → ClientProgram Bool} (enough : remaining ≤ fuel)
    (isOpen : files.IsOpen fd name content offset)
    (inside : offset + remaining = content.length)
    (leads : ∀ packets (after : ClientFiles),
      CarryData task.sessionId packets (content.drop offset) →
      after.IsOpen fd name content content.length →
      Leads sha256 dialect post
        ⟨⟨rest true, after, inbox, sent ++ packets, received⟩,
          server.deliver packets⟩) :
    Leads sha256 dialect post
      ⟨⟨task.sendData fd fuel remaining >>= rest, files, inbox, sent, received⟩,
        server⟩ := by
  have finished : ∀ {files : ClientFiles} {offset : Nat} {sent : List Packet}
      {server : ServerEnd}, files.IsOpen fd name content offset →
      offset = content.length →
      (∀ packets (after : ClientFiles),
        CarryData task.sessionId packets (content.drop offset) →
        after.IsOpen fd name content content.length →
        Leads sha256 dialect post
          ⟨⟨rest true, after, inbox, sent ++ packets, received⟩,
            server.deliver packets⟩) →
      Leads sha256 dialect post
        ⟨⟨rest true, files, inbox, sent, received⟩, server⟩ := by
    intro files offset sent server isOpen atEnd leads
    subst atEnd
    have leadsOn := leads [] files (by rw [List.drop_length]; exact .nil _) isOpen
    rwa [Endpoint.deliver_nil, List.append_nil] at leadsOn
  induction fuel generalizing files offset remaining sent server with
  | zero => exact finished isOpen (by omega) leads
  | succ fuel inductionHypothesis =>
      cases remaining with
      | zero => exact finished isOpen (by omega) leads
      | succ remaining =>
          rw [ClientTask.sendData]
          simp only [Prog.ask_bind, Prog.call_bind]
          refine leads_canceled ?_
          rw [if_neg Bool.false_ne_true, Prog.call_bind]
          refine leads_clientRead isOpen (by omega) (by simp [fileChunkSize]) ?_
          rintro ⟨chunk, bound⟩ nonempty isPrefix
          cases chunk with
          | nil => exact absurd rfl nonempty
          | cons byte chunk =>
              dsimp only at isPrefix bound ⊢
              have fits : (byte :: chunk).length ≤ fileChunkSize :=
                bound.trans (Nat.min_le_left _ _)
              have short : (byte :: chunk).length ≤ remaining + 1 :=
                bound.trans (Nat.min_le_right _ _)
              rw [List.length_cons] at short
              rw [Prog.bind_bind]
              refine leads_taskSend (fits.trans (by decide)) ?_
              rw [if_neg (by decide)]
              refine inductionHypothesis (by omega) (isOpen.seek _) ?_
                fun packets after carry isAfter => ?_
              · rw [List.length_cons]
                omega
              · rw [Endpoint.deliver_deliver, List.append_assoc]
                refine leads _ after ?_ isAfter
                have carried := carry.cons nonempty fits
                rw [← List.drop_drop, List.prefix_iff_eq_append.mp isPrefix]
                  at carried
                exact carried

end Client

section Server

variable {state : ServerState} {inbox sent received : List Packet}
  {client : ClientEnd} {fd : Nat} {name : StoredFile} {data : Bytes}

/-- The loop of `handle_puts` appends what data packets carry to the open
file. -/
theorem leads_receiveUpload {task : TransferTask} {fuel : Nat}
    {rest : UploadStep × Bool × Nat → Handler Unit} {packets : List Packet}
    {new : Bytes} (carry : CarryData task.packet.sessionId packets new)
    (enough : new.length ≤ fuel)
    (isOpen : state.files.IsOpen fd name data data.length)
    (leads : ∀ after : ServerFiles,
      after.IsOpen fd name (data ++ new) (data ++ new).length →
      Leads sha256 dialect post
        ⟨client, ⟨rest (.goesOn, false, 0), { state with files := after }, inbox,
          sent, received ++ packets⟩⟩) :
    Leads sha256 dialect post
      ⟨client, ⟨task.receiveData fd fuel new.length >>= rest, state,
        packets ++ inbox, sent, received⟩⟩ := by
  induction packets generalizing state data new fuel received with
  | nil =>
      obtain rfl : new = [] := carry.data.symm
      rw [List.append_nil, List.append_nil] at leads
      have leadsOn := leads state.files isOpen
      cases fuel <;> exact leadsOn
  | cons packet packets inductionHypothesis =>
      obtain ⟨isData, nonempty, fits⟩ :=
        carry.chunks packet List.mem_cons_self
      obtain ⟨more, carryMore, rfl⟩ : ∃ more,
          CarryData task.packet.sessionId packets more ∧
            packet.payload ++ more = new :=
        ⟨_, ⟨fun other listed => carry.chunks other
          (List.mem_cons_of_mem _ listed), rfl⟩, carry.data⟩
      have length : (packet.payload ++ more).length =
          packet.payload.length + more.length := List.length_append
      have positive : 0 < packet.payload.length :=
        List.length_pos_iff.mpr nonempty
      obtain ⟨fuel, rfl⟩ := Nat.exists_eq_add_of_le'
        (show 1 ≤ fuel by omega)
      rw [TransferTask.receiveData, Prog.bind_bind]
      · refine leads_recvTransferPacket (by rw [isData]; rfl) ?_
        dsimp only
        have isType : packet.type = CmdType.fileData.code := by rw [isData]; rfl
        have expected : ¬(packet.type ≠ CmdType.fileData.code ∨
            packet.payload = [] ∨ fileChunkSize < packet.payload.length ∨
            (packet.payload ++ more).length < packet.payload.length) := by
          simp only [isType, ne_eq, not_true_eq_false, nonempty, false_or]
          omega
        rw [if_neg (by rw [isType]; decide), if_neg expected, Prog.bind_bind]
        refine leads_serverWriteN (Nat.le_refl _) isOpen fun after isAfter => ?_
        have left : (packet.payload ++ more).length - packet.payload.length =
            more.length := by omega
        rw [if_neg (by decide), left]
        refine inductionHypothesis carryMore (by omega) isAfter
          fun last isLast => ?_
        rw [List.append_assoc] at isLast ⊢
        exact leads last isLast
      · omega

theorem leads_digestPart {offset : Nat}
    {rest : Option { sha256Hex : Bytes // IsDigest sha256Hex } → Handler Unit}
    (isOpen : state.files.IsOpen fd name data offset)
    (leads : ∀ after : ServerFiles,
      (∀ other, FileSystem.SameAt state.files after other) →
      Leads sha256 dialect post
        ⟨client, ⟨rest (some (sha256 data)), { state with files := after }, inbox,
          sent, received⟩⟩) :
    Leads sha256 dialect post
      ⟨client, ⟨TransferTask.digestPart fd >>= rest, state, inbox, sent,
        received⟩⟩ := by
  rw [TransferTask.digestPart]
  simp only [Prog.ask_bind, Prog.call_bind]
  refine leads_stored (fun _ _ => rfl) fun choice works => ?_
  rw [performStored, works]
  dsimp only
  rw [if_neg (by decide), Prog.call_bind]
  refine leads_serverLseek ?_
  rw [if_neg (by decide)]
  refine leads_stored (fun _ _ => rfl) fun choice works => ?_
  rw [performStored, works, if_neg Bool.false_ne_true, (isOpen.seek _).bytes]
  exact leads _ fun other => ((FileSystem.SameAt.refl _ other).seek _).seek _

theorem leads_serverFail {task : TransferTask} {status : StatusCode}
    (leads : Leads sha256 dialect post
      ⟨client.deliver [Packet.init .error status task.packet.sessionId []],
        ⟨pure (), state, inbox,
          sent ++ [Packet.init .error status task.packet.sessionId []],
          received⟩⟩) :
    Leads sha256 dialect post
      ⟨client, ⟨task.fail status, state, inbox, sent, received⟩⟩ :=
  leads_sendPacket (by decide) leads

end Server

end Transfer

/-- A connection over which the client uploads. -/
abbrev Upload := TransferConnection

namespace TransferTask

/-- The rest of `handle_puts` after the temporary file is complete, or is not. -/
def afterPart (task : TransferTask) (target : UploadTarget) (parentId : UInt64)
    (fd : Nat) : UploadStep → Handler Unit
  | .stops status => task.closeAndFail fd status
  | .goesOn => do
      match ← digestPart fd with
      | none => task.closeAndFail fd (some .ioError)
      | some actual => do
          Prog.ask (TaskOp.close fd)
          if actual.1 ≠ target.sha256Hex then do
            let _ ← Prog.ask (TaskOp.unlink (.part target.sha256Hex))
            task.fail .badRequest
          else if !(← publishPart target.sha256Hex) then task.fail .ioError
          else task.createFile target parentId

end TransferTask

/-- The part of `run_upload` from the answer to its request on. -/
def ClientTask.awaitOffset (task : ClientTask) (fd : Nat) (fileSize : UInt64) :
    ClientProgram Bool := do
  match ← task.taskRecv with
  | none => pure false
  | some packet =>
      if packet.type ≠ CmdType.putsResp.code ∨
          packet.status ≠ StatusCode.ok.code ∨ packet.payload.length ≠ 8 then
        pure false
      else task.uploadFrom fd fileSize (netToHost packet.payload)

namespace Upload

/-- The start of a run, with nothing open on either side. -/
def start (upload : Upload) (clientFiles : ClientFiles)
    (serverFiles : ServerFiles) (database : Database) : Transfer where
  left := .start upload.task.runUpload clientFiles.closeAll
  right := .start
    (serveTransfer upload.session upload.transferTempDir upload.storageRoot)
    ⟨serverFiles.closeAll, database, none⟩

/-- The first packet of an upload of a content. -/
def request (sha256 : Sha256) (upload : Upload) (content : Bytes) : Packet :=
  upload.task.putsRequest (UInt64.ofNat content.length) (sha256 content).1

/-- What the server reads of its `transfer_task_t`. -/
def served (sha256 : Sha256) (upload : Upload) (content : Bytes) :
    TransferTask where
  packet := upload.request sha256 content
  session := upload.session
  transferTempDir := upload.transferTempDir
  storageRoot := upload.storageRoot

/-- The destination of an upload is free: its parent is a directory, nothing has
its path, no file has its content and the database takes it. -/
structure Free (sha256 : Sha256) (dialect : Dialect) (upload : Upload)
    (content : Bytes) (target : UploadTarget) (parentId : UInt64)
    (database : Database) : Prop where
  accepted : (upload.served sha256 content).uploadTarget = .ok target
  parent : ∀ choice : Choice, choice.FaultFree →
    performTask dialect choice
      (.daoPathGetNodeId upload.session.1.userId target.parentPath) database =
      ((.isDir, parentId), database)
  free : ∀ choice : Choice, choice.FaultFree →
    ∃ pathId, performTask dialect choice
      (.daoPathGetNodeId upload.session.1.userId target.targetPath) database =
      ((.notFound, pathId), database)
  unknown : ∀ choice : Choice, choice.FaultFree →
    ∃ fileId, performTask dialect choice
      (.daoFileFindByHash target.sha256Hex target.fileSize) database =
      ((0, fileId), database)
  created : ∀ choice : Choice, choice.FaultFree →
    (performTask dialect choice
      (.daoCreateFileWithPath upload.session.1.userId target.targetPath parentId
        target.fileName target.sha256Hex target.fileSize) database).1 = (0 : Int)
  /-- The paths of the temporary file and of the object fit their buffers. -/
  tempFits : upload.transferTempDir.length + 1 + 64 + 5 < pathMax
  rootFits : upload.storageRoot.length + 1 + 64 < pathMax

variable {sha256 : Sha256} {dialect : Dialect} {post : Transfer → Prop}
  {upload : Upload} {clientFiles : ClientFiles} {serverFiles : ServerFiles}
  {database : Database} {content : Bytes} {target : UploadTarget}
  {parentId : UInt64}

open Transfer

/-- The server reads the size and the hash of the request. -/
theorem Free.announced (snapshot : upload.task.Snapshot)
    (free : upload.Free sha256 dialect content target parentId database) :
    target.fileSize = UInt64.ofNat content.length ∧
      target.sha256Hex = (sha256 content).1 := by
  have accepted := free.accepted
  have isDigest := (sha256 content).2
  rw [TransferTask.uploadTarget, served, request, ClientTask.putsRequest,
    Packet.init, UploadRequest.read_payload snapshot.fits isDigest.length]
    at accepted
  dsimp only at accepted
  split_ifs at accepted
  split at accepted
  · cases accepted
  · split_ifs at accepted
    split at accepted
    · cases accepted
    · split_ifs at accepted
      cases accepted
      exact ⟨rfl, cString_padTo isDigest.noNul 65⟩

theorem session_served : (upload.served sha256 content).session = upload.session :=
  rfl

/-- The server finds the destination free and opens the temporary file. -/
theorem leads_handlePuts (snapshot : upload.task.Snapshot)
    (free : upload.Free sha256 dialect content target parentId database)
    {inbox sent received : List Packet} {client : ClientEnd}
    (leads : ∀ fd, Leads sha256 dialect post
      ⟨client,
        ⟨(upload.served sha256 content).openPart target fd >>=
            (upload.served sha256 content).afterPart target parentId fd,
          ⟨serverFiles.closeAll.openOrCreate (.part (sha256 content).1) fd,
            database, none⟩, inbox, sent, received⟩⟩) :
    Leads sha256 dialect post
      ⟨client, ⟨(upload.served sha256 content).handlePuts,
        ⟨serverFiles.closeAll, database, none⟩, inbox, sent, received⟩⟩ := by
  obtain ⟨isSize, isHash⟩ := free.announced snapshot
  rw [TransferTask.handlePuts, free.accepted]
  simp only [Prog.ask_bind, session_served]
  refine leads_dao (fun _ _ => rfl) fun choice faultFree => ?_
  dsimp only
  rw [free.parent choice faultFree]
  dsimp only
  refine leads_dao (fun _ _ => rfl) fun choice faultFree => ?_
  obtain ⟨pathId, missing⟩ := free.free choice faultFree
  rw [missing]
  dsimp only
  refine leads_dao (fun _ _ => rfl) fun choice faultFree => ?_
  obtain ⟨fileId, unknown⟩ := free.unknown choice faultFree
  rw [unknown]
  dsimp only
  rw [if_neg (by decide), if_neg (by decide), TransferTask.uploadFile, isHash,
    (sha256 content).2.length, if_neg]
  · simp only [Prog.ask_bind]
    refine leads_stored (fun _ _ => rfl) fun choice works => ?_
    simp only [performStored, openStored, works, FileSystem.descriptors_closeAll,
      ne_eq, not_true_eq_false, or_false, Bool.false_eq_true, ↓reduceIte]
    have leadsOn := leads choice.fd
    rw [← isHash] at leadsOn ⊢
    exact leadsOn
  · rw [not_or, not_le, not_le]
    exact ⟨free.tempFits, free.rootFits⟩

/-- A run begins with the request and the temporary file. -/
theorem leads_start (snapshot : upload.task.Snapshot)
    (held : clientFiles.content upload.task.localPath = some content)
    (free : upload.Free sha256 dialect content target parentId database)
    (leads : ∀ (fd fdServer : Nat) (files : ClientFiles),
      files.IsOpen fd upload.task.localPath content 0 →
      Leads sha256 dialect post
        ⟨⟨upload.task.awaitOffset fd (UInt64.ofNat content.length) >>=
            fun result => .call (.close fd) fun _ => pure result,
          files, [], [upload.request sha256 content], []⟩,
        ⟨(upload.served sha256 content).openPart target fdServer >>=
            (upload.served sha256 content).afterPart target parentId fdServer,
          ⟨serverFiles.closeAll.openOrCreate (.part (sha256 content).1) fdServer,
            database, none⟩, [], [], [upload.request sha256 content]⟩⟩) :
    Leads sha256 dialect post (upload.start clientFiles serverFiles database) := by
  have present := FileSystem.names_ne_none held
  rw [start, Endpoint.start, ClientTask.runUpload]
  simp only [Prog.ask_bind]
  refine leads_client (fun _ _ => rfl) fun choice works _ => ?_
  simp only [performClient, openClient, works, FileSystem.descriptors_closeAll,
    FileSystem.names_closeAll, present, ne_eq, not_true_eq_false, or_false,
    Bool.false_eq_true, ↓reduceIte]
  have isOpen := @FileSystem.isOpen_openFile _ _ clientFiles.closeAll _ choice.fd _
    held
  refine leads_clientFstat isOpen ?_
  dsimp only
  rw [ClientTask.uploadFile, if_neg (not_le.mpr snapshot.fits)]
  simp only [Prog.ask_bind]
  rw [Prog.call_bind]
  refine leads_clientDigest isOpen ?_
  dsimp only
  rw [Prog.call_bind]
  refine leads_clientLseek ?_
  have fits : (UploadRequest.payload ⟨upload.task.remotePath,
      UInt64.ofNat content.length, (sha256 content).1⟩).length ≤
      maxPacketPayload := by
    have read := @UploadRequest.read_payload
      ⟨upload.task.remotePath, UInt64.ofNat content.length, (sha256 content).1⟩
      snapshot.fits (sha256 content).2.length
    rw [UploadRequest.read] at read
    split_ifs at read with short
    rw [ne_eq, not_not] at short
    rw [short]
    decide
  rw [if_neg (by decide), Prog.bind_bind]
  refine leads_taskSend fits ?_
  rw [if_neg (by decide), Endpoint.start, serveTransfer, Prog.ask_bind,
    Endpoint.deliver_mk]
  refine leads_serverRecv ?_
  change Leads sha256 dialect post
    ⟨_, ⟨(upload.served sha256 content).handleTransferTask, _, _, _, _⟩⟩
  have isPuts : (upload.served sha256 content).packet.type =
      CmdType.putsReq.code := rfl
  rw [TransferTask.handleTransferTask, isPuts, if_pos rfl]
  refine leads_handlePuts snapshot free fun fdServer => ?_
  have isReady : (((clientFiles.closeAll.openFile upload.task.localPath
      choice.fd).seek choice.fd content.length).seek choice.fd
        (UInt64.toNat 0)).IsOpen choice.fd upload.task.localPath content 0 :=
    (isOpen.seek _).seek _
  exact leads choice.fd fdServer _ isReady

section Parts

variable {state : ServerState} {inbox sent received : List Packet}
  {client : ClientEnd} {fd : Nat} {name : StoredFile}
  (measurable : content.length < 2 ^ 63)

include measurable

/-- The server announces the size of the temporary file, which is cut if it is
too long. -/
theorem leads_openPart {task : TransferTask} {part : Bytes}
    {rest : UploadStep → Handler Unit}
    (isSize : target.fileSize = UInt64.ofNat content.length)
    (partMeasurable : part.length < 2 ^ 63)
    (isOpen : state.files.IsOpen fd name part 0)
    (leads : ∀ (after : ServerFiles) (position : Nat),
      after.IsOpen fd name (kept content part) position →
      Leads sha256 dialect post
        ⟨client.deliver [Packet.init .putsResp .ok task.packet.sessionId
            (hostToNet (UInt64.ofNat (kept content part).length))],
          ⟨task.receiveFile fd (UInt64.ofNat (kept content part).length)
              (UInt64.ofNat content.length) >>= rest,
            { state with files := after }, inbox,
            sent ++ [Packet.init .putsResp .ok task.packet.sessionId
              (hostToNet (UInt64.ofNat (kept content part).length))],
            received⟩⟩) :
    Leads sha256 dialect post
      ⟨client, ⟨task.openPart target fd >>= rest, state, inbox, sent,
        received⟩⟩ := by
  have tooLong : UInt64.ofNat content.length < UInt64.ofNat part.length ↔
      content.length < part.length := by
    rw [UInt64.lt_iff_toNat_lt, toNat_fileSize measurable,
      toNat_fileSize partMeasurable]
  rw [TransferTask.openPart]
  simp only [Prog.ask_bind, Prog.call_bind]
  refine leads_serverFstat isOpen ?_
  dsimp only
  rw [isSize]
  rw [kept] at leads
  split_ifs with cut
  · rw [if_pos (tooLong.mp cut)] at leads
    rw [Prog.call_bind]
    refine leads_stored (fun _ _ => rfl) fun choice works => ?_
    rw [performStored, works, if_neg Bool.false_ne_true]
    dsimp only
    rw [if_neg (by decide), Prog.bind_bind, TransferTask.sendPutsResume]
    refine leads_sendPacket (by rw [length_hostToNet]; decide) ?_
    rw [if_neg (by decide)]
    exact leads _ 0 isOpen.truncate
  · rw [if_neg fun long => cut (tooLong.mpr long)] at leads
    rw [Prog.bind_bind, TransferTask.sendPutsResume]
    refine leads_sendPacket (by rw [length_hostToNet]; decide) ?_
    rw [if_neg (by decide)]
    exact leads _ 0 isOpen

/-- The bytes that are missing from the temporary file are uploaded. -/
theorem leads_missing {files : ClientFiles} {fdServer position : Nat}
    {start : Bytes} {rest : UploadStep → Handler Unit}
    {finish : Bool → ClientProgram Bool} {task : TransferTask}
    (sameSession : task.packet.sessionId = upload.task.sessionId)
    (reads : files.IsOpen fd upload.task.localPath content 0)
    (isOpen : state.files.IsOpen fdServer name start position)
    (short : start.length ≤ content.length)
    (leads : ∀ (afterClient : ClientFiles) (after : ServerFiles) packets more,
      afterClient.content upload.task.localPath = some content →
      after.IsOpen fdServer name (start ++ content.drop start.length) more →
      dataBytes packets = content.length - start.length →
      Leads sha256 dialect post
        ⟨⟨upload.task.awaitAck >>= finish, afterClient, [],
            [upload.request sha256 content] ++ packets,
            [Packet.init .putsResp .ok upload.task.sessionId
              (hostToNet (UInt64.ofNat start.length))]⟩,
          ⟨rest .goesOn, { state with files := after }, [], sent,
            received ++ packets⟩⟩) :
    Leads sha256 dialect post
      ⟨⟨upload.task.awaitOffset fd (UInt64.ofNat content.length) >>= finish, files,
          [Packet.init .putsResp .ok upload.task.sessionId
            (hostToNet (UInt64.ofNat start.length))],
          [upload.request sha256 content], []⟩,
        ⟨task.receiveFile fdServer (UInt64.ofNat start.length)
            (UInt64.ofNat content.length) >>= rest, state, [], sent,
          received⟩⟩ := by
  have size := toNat_fileSize measurable
  have offset := toNat_fileSize (Nat.lt_of_le_of_lt short measurable)
  rw [ClientTask.awaitOffset, Prog.bind_bind]
  refine leads_taskRecv rfl ?_
  dsimp only [Packet.init]
  rw [if_neg (by simp), netToHost_hostToNet, ClientTask.uploadFrom,
    TransferTask.receiveFile, if_neg (by
      rw [UInt64.lt_iff_toNat_lt, size, offset]
      omega)]
  by_cases whole : start.length = content.length
  · rw [if_pos (by rw [whole]), if_pos (by rw [whole]; exact UInt64.le_refl _)]
    have leadsOn := leads files state.files [] position reads.content
    rw [whole, List.drop_length, List.append_nil, List.append_nil, List.append_nil,
      Nat.sub_self] at leadsOn
    rw [whole]
    exact leadsOn isOpen rfl
  · have less : start.length < content.length := by omega
    have remaining : (UInt64.ofNat content.length -
        UInt64.ofNat start.length).toNat =
        (content.drop start.length).length := by
      rw [UInt64.toNat_sub_of_le, size, offset, List.length_drop]
      rw [UInt64.le_iff_toNat_le, size, offset]
      exact short
    rw [if_neg (by
        rw [← UInt64.toNat_inj, size, offset]
        exact whole),
      if_neg (by
        rw [UInt64.le_iff_toNat_le, size, offset]
        omega)]
    dsimp only
    rw [remaining]
    simp only [Prog.ask_bind, Prog.call_bind]
    refine leads_clientLseek ?_
    rw [if_neg (by decide), Prog.bind_bind]
    refine leads_sendData (Nat.le_refl _) (reads.seek _) ?_
      fun packets after carry isAfter => ?_
    · rw [offset, List.length_drop]
      omega
    rw [if_neg (by decide), Prog.bind_bind]
    refine leads_taskSend (by decide) ?_
    rw [if_neg (by decide), Endpoint.deliver_deliver, Endpoint.deliver_mk]
    simp only [List.nil_append]
    refine leads_serverLseek ?_
    rw [if_neg (by decide), Prog.bind_bind]
    rw [offset, ← sameSession] at carry
    have atEnd := isOpen.seek (UInt64.ofNat start.length).toNat
    rw [offset] at atEnd
    refine leads_receiveUpload carry (Nat.le_refl _) (by rw [offset]; exact atEnd)
      fun last isLast => ?_
    dsimp only
    rw [if_neg (by simp), if_neg (by decide), Prog.bind_bind]
    refine leads_recvTransferPacket (by exact sameSession.symm) ?_
    dsimp only
    rw [if_neg (by simp [Packet.init]), List.append_assoc, List.append_assoc]
    refine leads after last (packets ++ _) _ isAfter.content isLast ?_
    rw [dataBytes, dataPackets_append, carry.dataPackets, List.map_append,
      List.sum_append, carry.length, List.length_drop]
    simp [dataPackets, Packet.init, CmdType.code]

end Parts

/-- A run that has been acknowledged. -/
structure Acknowledged (sha256 : Sha256) (upload : Upload) (content : Bytes)
    (last : Transfer) : Prop where
  returnsZero : last.left.program = .done true
  sends : last.right.sent.getLast? =
    some (Packet.init .ack .ok upload.task.sessionId [])
  receives : last.left.received.getLast? =
    some (Packet.init .ack .ok upload.task.sessionId [])
  object : last.right.state.files.content (.object (sha256 content).1) =
    some content

/-- A run that has failed because the temporary file held something else. -/
structure Rejected (sha256 : Sha256) (upload : Upload) (content : Bytes)
    (database : Database) (last : Transfer) : Prop where
  returnsOne : last.left.program = .done false
  part : last.right.state.files.content (.part (sha256 content).1) = none
  database : last.right.state.database = database
  source : last.left.state.content upload.task.localPath = some content

section Endings

variable {files : ClientFiles} {serverFiles : ServerFiles}
  {clientSent clientReceived sent received : List Packet} {fd fdServer more : Nat}
  {part : Bytes}
  (snapshot : upload.task.Snapshot)
  (free : upload.Free sha256 dialect content target parentId database)
  (isOpen : serverFiles.IsOpen fdServer (.part (sha256 content).1) part more)

include snapshot free isOpen

/-- The database after the run is the one after the creation of the file. -/
theorem leads_acknowledged (whole : part = content)
    (holds : ∀ (last : Transfer) (choice : Choice),
      upload.Acknowledged sha256 content last → last.left.sent = clientSent →
      choice.FaultFree → last.right.state.database = (performTask dialect choice
        (.daoCreateFileWithPath upload.session.1.userId target.targetPath parentId
          target.fileName target.sha256Hex target.fileSize) database).2 → post last) :
    Leads sha256 dialect post
      ⟨⟨upload.task.awaitAck >>= fun result => .call (.close fd) fun _ => pure result,
          files, [], clientSent, clientReceived⟩,
        ⟨(upload.served sha256 content).afterPart target parentId fdServer .goesOn,
          ⟨serverFiles, database, none⟩, [], sent, received⟩⟩ := by
  obtain ⟨isSize, isHash⟩ := free.announced snapshot
  rw [whole] at isOpen
  rw [TransferTask.afterPart]
  refine leads_digestPart isOpen fun after same => ?_
  dsimp only
  rw [Prog.ask_bind]
  refine leads_serverClose ?_
  have held : (after.close fdServer).content (.part (sha256 content).1) =
      some content := (same _).content.trans isOpen.content
  have present := FileSystem.names_ne_none held
  rw [if_neg (not_not.mpr isHash.symm), TransferTask.publishPart, isHash]
  simp only [Prog.ask_bind, Prog.call_bind]
  refine leads_stored (fun _ _ => rfl) fun choice works => ?_
  rw [performStored, works, if_neg (by simpa using present)]
  dsimp only [Prog.pure_eq, Prog.done_bind]
  rw [if_neg (by decide), TransferTask.createFile, Prog.ask_bind]
  refine leads_dao (fun _ _ => rfl) fun choice faultFree => ?_
  dsimp only [session_served]
  rw [if_neg (not_not.mpr (free.created choice faultFree))]
  refine leads_sendPacket (by decide) ?_
  rw [Endpoint.deliver_mk, ClientTask.awaitAck, Prog.bind_bind]
  refine leads_taskRecv rfl ?_
  refine leads_clientClose (.ended rfl rfl
    (holds _ choice ⟨?_, ?_, ?_, ?_⟩ rfl faultFree rfl))
  · rfl
  · exact List.getLast?_concat
  · exact List.getLast?_concat
  · exact (FileSystem.content_rename present).trans held

theorem leads_rejected (wrong : sha256 part ≠ sha256 content)
    (source : files.content upload.task.localPath = some content) :
    Leads sha256 dialect (upload.Rejected sha256 content database)
      ⟨⟨upload.task.awaitAck >>= fun result => .call (.close fd) fun _ => pure result,
          files, [], clientSent, clientReceived⟩,
        ⟨(upload.served sha256 content).afterPart target parentId fdServer .goesOn,
          ⟨serverFiles, database, none⟩, [], sent, received⟩⟩ := by
  obtain ⟨isSize, isHash⟩ := free.announced snapshot
  rw [TransferTask.afterPart]
  refine leads_digestPart isOpen fun after same => ?_
  dsimp only
  rw [Prog.ask_bind]
  refine leads_serverClose ?_
  have held : (after.close fdServer).content (.part (sha256 content).1) =
      some part := (same _).content.trans isOpen.content
  have present := FileSystem.names_ne_none held
  rw [isHash, if_pos fun isSame => wrong (Subtype.ext isSame), Prog.ask_bind]
  refine leads_stored (fun _ _ => rfl) fun choice works => ?_
  rw [performStored, works, if_neg (by simpa using present)]
  dsimp only
  refine leads_serverFail ?_
  rw [Endpoint.deliver_mk, ClientTask.awaitAck, Prog.bind_bind]
  refine leads_taskRecv rfl ?_
  refine leads_clientClose (.ended rfl rfl ⟨?_, FileSystem.content_unlink, rfl, ?_⟩)
  · rfl
  · exact source

end Endings

/-- What a run makes of the temporary file. -/
def resumed (sha256 : Sha256) (files : ServerFiles) (content : Bytes) : Bytes :=
  let start := kept content
    ((files.content (.part (sha256 content).1)).getD [])
  start ++ content.drop start.length

section Runs

variable (snapshot : upload.task.Snapshot)
  (held : clientFiles.content upload.task.localPath = some content)
  (free : upload.Free sha256 dialect content target parentId database)
  (measurable : content.length < 2 ^ 63)
  (partMeasurable :
    ((serverFiles.content (.part (sha256 content).1)).getD []).length < 2 ^ 63)

include snapshot held free measurable partMeasurable

/-- A run gets as far as the end of the data. -/
theorem leads_uploaded
    (leads : ∀ (fd fdServer more : Nat) (files : ClientFiles)
      (after : ServerFiles) clientSent clientReceived sent received,
      files.content upload.task.localPath = some content →
      after.IsOpen fdServer (.part (sha256 content).1)
        (resumed sha256 serverFiles content) more →
      dataBytes clientSent = content.length - (kept content
        ((serverFiles.content (.part (sha256 content).1)).getD [])).length →
      Leads sha256 dialect post
        ⟨⟨upload.task.awaitAck >>=
              fun result => .call (.close fd) fun _ => pure result,
            files, [], clientSent, clientReceived⟩,
          ⟨(upload.served sha256 content).afterPart target parentId fdServer
              .goesOn,
            ⟨after, database, none⟩, [], sent, received⟩⟩) :
    Leads sha256 dialect post (upload.start clientFiles serverFiles database) := by
  refine leads_start snapshot held free fun fd fdServer files reads => ?_
  refine leads_openPart measurable (free.announced snapshot).1 partMeasurable
    FileSystem.isOpen_openOrCreate fun after position isOpen => ?_
  rw [Endpoint.deliver_mk]
  refine leads_missing measurable rfl reads isOpen (length_kept _ _)
    fun afterClient last packets more source isLast bytes => ?_
  refine leads fd fdServer more afterClient last _ _ _ _ source isLast ?_
  rw [dataBytes, dataPackets_append, List.map_append, List.sum_append, ← dataBytes,
    ← dataBytes, bytes]
  simp [dataBytes, dataPackets, request, ClientTask.putsRequest, Packet.init,
    CmdType.code]

theorem ends_acknowledged
    (isPrefix : kept content
      ((serverFiles.content (.part (sha256 content).1)).getD []) <+: content) :
    Ends sha256 dialect
      (fun last => upload.Acknowledged sha256 content last ∧
        dataBytes last.left.sent = content.length - (kept content
          ((serverFiles.content (.part (sha256 content).1)).getD [])).length)
      (upload.start clientFiles serverFiles database) := by
  refine Leads.ends (leads_uploaded snapshot held free measurable partMeasurable ?_)
  intro fd fdServer more files after clientSent clientReceived sent received _
    isOpen bytes
  refine leads_acknowledged snapshot free isOpen
    (List.prefix_iff_eq_append.mp isPrefix) fun last _ acknowledged isSent _ _ => ?_
  rw [isSent]
  exact ⟨acknowledged, bytes⟩

theorem ends_rejected
    (wrong : sha256 (resumed sha256 serverFiles content) ≠ sha256 content) :
    Ends sha256 dialect (upload.Rejected sha256 content database)
      (upload.start clientFiles serverFiles database) := by
  refine Leads.ends (leads_uploaded snapshot held free measurable partMeasurable ?_)
  intro fd fdServer more files after clientSent clientReceived sent received source
    isOpen _
  exact leads_rejected snapshot free isOpen wrong source

end Runs

end Upload

end CloudDrive
