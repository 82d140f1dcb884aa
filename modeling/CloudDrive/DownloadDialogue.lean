import CloudDrive.TransferDialogue

/-!
# Downloads

`run_download` of the client against `handle_gets` of the server, over a
connection without faults.
-/

namespace CloudDrive

/-- The checks of `run_download` on the sizes of the data packets of a download
of which `remaining` bytes are missing. -/
def SizeChecked : Nat → List Packet → Prop
  | _, [] => True
  | remaining, packet :: packets =>
      packet.payload ≠ [] ∧ packet.payload.length ≤ fileChunkSize ∧
        packet.payload.length ≤ remaining ∧
        SizeChecked (remaining - packet.payload.length) packets

theorem CarryData.sizeChecked {sessionId : SessionId} {packets : List Packet}
    {data : Bytes} (carry : CarryData sessionId packets data) :
    SizeChecked data.length packets := by
  induction packets generalizing data with
  | nil => trivial
  | cons packet packets inductionHypothesis =>
      obtain ⟨chunks, rfl⟩ := carry
      obtain ⟨-, nonempty, fits⟩ := chunks packet List.mem_cons_self
      rw [List.flatMap_cons, List.length_append]
      refine ⟨nonempty, fits, Nat.le_add_right _ _, ?_⟩
      rw [Nat.add_sub_cancel_left]
      exact inductionHypothesis
        ⟨fun other listed => chunks other (List.mem_cons_of_mem _ listed), rfl⟩

namespace Transfer

variable {sha256 : Sha256} {dialect : Dialect} {post : Transfer → Prop}

section Server

variable {files : ServerFiles} {database : Database}
  {inbox sent received : List Packet} {client : ClientEnd} {fd offset position : Nat}
  {name : StoredFile} {content : Bytes} {sessionId : SessionId}

theorem leads_sendHeader {unsent : Option (SessionId × Nat × Bytes)}
    {payloadLen : Nat} {next : Bool → Handler Unit} (positive : 0 < payloadLen)
    (leads : Leads sha256 dialect post
      ⟨client, ⟨next true,
        ⟨files, database, some (sessionId, payloadLen, [])⟩, inbox, sent,
        received⟩⟩) :
    Leads sha256 dialect post
      ⟨client, ⟨.call (.sendHeader sessionId payloadLen) next,
        ⟨files, database, unsent⟩, inbox, sent, received⟩⟩ := by
  refine .right fun choice faultFree => ?_
  have acts : serverAct sha256 dialect choice (.sendHeader sessionId payloadLen)
      ⟨files, database, unsent⟩ =
      .inner true ⟨files, database, some (sessionId, payloadLen, [])⟩ := by
    rw [serverAct, faultFree.1, if_neg Bool.false_ne_true, ServerState.emit,
      List.length_nil, if_pos positive]
  refine ⟨_, _, Endpoint.step_eq_some.mpr (.inner rfl acts), ?_⟩
  rw [Endpoint.deliver_nil]
  exact leads

/-- A `sendfile` inside the file moves at least one byte; the packet is sent
with its last byte. -/
theorem leads_sendfile {count total : Nat} {payload : Bytes}
    {next : Option (Fin count) → Handler Unit}
    (isTotal : payload.length + count = total)
    (isOpen : files.IsOpen fd name content position)
    (inside : offset + count ≤ content.length) (positive : 0 < count)
    (goesOn : ∀ more : Fin count, more + 1 < count →
      Leads sha256 dialect post
        ⟨client, ⟨next (some more),
          ⟨files, database, some (sessionId, total,
            payload ++ (content.drop offset).take (more + 1))⟩,
          inbox, sent, received⟩⟩)
    (completes : ∀ more : Fin count, more + 1 = count →
      Leads sha256 dialect post
        ⟨client.deliver [Packet.init .fileData .ok sessionId
            (payload ++ (content.drop offset).take count)],
          ⟨next (some more), ⟨files, database, none⟩, inbox,
            sent ++ [Packet.init .fileData .ok sessionId
              (payload ++ (content.drop offset).take count)], received⟩⟩) :
    Leads sha256 dialect post
      ⟨client, ⟨.call (.sendfile fd offset count) next,
        ⟨files, database, some (sessionId, total, payload)⟩,
        inbox, sent, received⟩⟩ := by
  refine .right fun choice faultFree => ?_
  obtain ⟨more, bound, isMin⟩ : ∃ more, ∃ bound : more < count,
      more + 1 = min count (choice.more + 1) :=
    ⟨min count (choice.more + 1) - 1, by omega, by omega⟩
  have moved : ((content.drop offset).take (more + 1)).length = more + 1 := by
    rw [List.length_take, List.length_drop]
    omega
  have acts : serverAct sha256 dialect choice (.sendfile fd offset count)
      ⟨files, database, some (sessionId, total, payload)⟩ =
      ServerState.emit
        ⟨files, database, some (sessionId, total, payload)⟩
        sessionId total
        (payload ++ (content.drop offset).take (more + 1))
        (some (⟨more, bound⟩ : Fin count)) := by
    simp only [serverAct, isOpen.bytes, Option.getD_some, faultFree.1, ← isMin,
      moved, Nat.zero_lt_succ, and_self, ↓reduceDIte, Nat.add_one_sub_one]
  rw [ServerState.emit, List.length_append, moved] at acts
  split_ifs at acts with short
  · refine ⟨_, _, Endpoint.step_eq_some.mpr (.inner rfl acts), ?_⟩
    rw [Endpoint.deliver_nil]
    exact goesOn ⟨more, bound⟩ (by rw [Fin.val_mk]; omega)
  · have whole : more + 1 = count := by omega
    refine ⟨_, _, Endpoint.step_eq_some.mpr (.sends rfl acts), ?_⟩
    rw [whole]
    exact completes ⟨more, bound⟩ whole

theorem leads_sendfileExact {fuel remaining total : Nat} {payload : Bytes}
    {rest : Bool → Handler Unit} (isTotal : payload.length + remaining = total)
    (enough : remaining ≤ fuel)
    (positive : 0 < remaining) (isOpen : files.IsOpen fd name content position)
    (inside : offset + remaining ≤ content.length)
    (leads : Leads sha256 dialect post
      ⟨client.deliver [Packet.init .fileData .ok sessionId
          (payload ++ (content.drop offset).take remaining)],
        ⟨rest true, ⟨files, database, none⟩, inbox,
          sent ++ [Packet.init .fileData .ok sessionId
            (payload ++ (content.drop offset).take remaining)], received⟩⟩) :
    Leads sha256 dialect post
      ⟨client,
        ⟨TransferTask.sendfileExact fd fuel offset remaining >>= rest,
          ⟨files, database, some (sessionId, total, payload)⟩, inbox, sent,
          received⟩⟩ := by
  induction fuel generalizing offset remaining payload with
  | zero => omega
  | succ fuel inductionHypothesis =>
      obtain ⟨remaining, rfl⟩ := Nat.exists_eq_add_of_le' positive
      rw [TransferTask.sendfileExact]
      simp only [Prog.ask_bind, Prog.call_bind]
      refine leads_sendfile isTotal isOpen inside positive ?_ ?_
      · intro more short
        have moved : ((content.drop offset).take (more + 1)).length =
            more + 1 := by
          rw [List.length_take, List.length_drop]
          omega
        have whole : (payload ++ (content.drop offset).take (more + 1)) ++
            (content.drop (offset + more + 1)).take (remaining - more) =
            payload ++ (content.drop offset).take (remaining + 1) := by
          rw [List.append_assoc, Nat.add_assoc, ← List.drop_drop, ← List.take_add]
          congr 2
          omega
        refine inductionHypothesis ?_ (by omega) (by omega) (by omega) ?_
        · rw [List.length_append, moved]
          omega
        rw [whole]
        exact leads
      · intro more whole
        have none : remaining - more = 0 := by omega
        dsimp only
        rw [none]
        cases fuel <;> exact leads

/-- The loop of `handle_gets` sends the rest of the file in data packets. -/
theorem leads_sendChunks {task : TransferTask} {fuel remaining : Nat}
    {rest : Bool → Handler Unit} (enough : remaining ≤ fuel)
    (isOpen : files.IsOpen fd name content position)
    (inside : offset + remaining = content.length)
    (leads : ∀ packets,
      CarryData task.packet.sessionId packets (content.drop offset) →
      Leads sha256 dialect post
        ⟨client.deliver packets, ⟨rest true, ⟨files, database, none⟩, inbox,
          sent ++ packets, received⟩⟩) :
    Leads sha256 dialect post
      ⟨client, ⟨task.sendChunks fd fuel offset remaining >>= rest,
        ⟨files, database, none⟩, inbox, sent, received⟩⟩ := by
  induction fuel generalizing offset remaining client sent with
  | zero =>
      have empty : content.drop offset = [] := List.drop_eq_nil_of_le (by omega)
      have leadsOn := leads [] (by rw [empty]; exact .nil _)
      rwa [Endpoint.deliver_nil, List.append_nil] at leadsOn
  | succ fuel inductionHypothesis =>
      cases remaining with
      | zero =>
          have empty : content.drop offset = [] :=
            List.drop_eq_nil_of_le (by omega)
          have leadsOn := leads [] (by rw [empty]; exact .nil _)
          rwa [Endpoint.deliver_nil, List.append_nil] at leadsOn
      | succ remaining =>
          rw [TransferTask.sendChunks]
          simp only [Prog.ask_bind, Prog.call_bind]
          have chunkPositive : 0 < min fileChunkSize (remaining + 1) := by
            simp [fileChunkSize]
          have chunkFits : min fileChunkSize (remaining + 1) ≤ remaining + 1 :=
            Nat.min_le_right _ _
          generalize isChunk : min fileChunkSize (remaining + 1) = chunk at *
          refine leads_sendHeader chunkPositive ?_
          rw [if_neg (by decide), Prog.bind_bind]
          refine leads_sendfileExact (Nat.zero_add chunk) (Nat.le_refl _)
            chunkPositive isOpen (by omega) ?_
          rw [if_neg (by decide), List.nil_append]
          refine inductionHypothesis (by omega) (by omega) fun packets carry => ?_
          rw [Endpoint.deliver_deliver, List.append_assoc]
          have whole : (content.drop offset).take chunk ++
              content.drop (offset + chunk) = content.drop offset := by
            rw [← List.drop_drop, List.take_append_drop]
          have nonempty : (content.drop offset).take chunk ≠ [] := by
            rw [← List.length_pos_iff, List.length_take, List.length_drop]
            omega
          have fits : ((content.drop offset).take chunk).length ≤
              fileChunkSize := by
            rw [List.length_take]
            omega
          have carried := carry.cons nonempty fits
          rw [whole] at carried
          exact leads _ carried

end Server

section Client

variable {files : ClientFiles} {inbox sent received : List Packet}
  {server : ServerEnd} {fd : Nat} {name data : Bytes}

/-- The loop of `run_download` appends what data packets carry to the open
file. -/
theorem leads_receiveData {task : ClientTask} {fuel : Nat}
    {rest : Bool → ClientProgram Bool} {packets : List Packet} {new : Bytes}
    (carry : CarryData task.sessionId packets new) (enough : new.length ≤ fuel)
    (isOpen : files.IsOpen fd name data data.length)
    (leads : ∀ after : ClientFiles,
      after.IsOpen fd name (data ++ new) (data ++ new).length →
      (∀ other ≠ name, FileSystem.SameAt files after other) →
      Leads sha256 dialect post
        ⟨⟨rest true, after, inbox, sent, received ++ packets⟩, server⟩) :
    Leads sha256 dialect post
      ⟨⟨task.receiveData fd fuel new.length >>= rest, files, packets ++ inbox,
        sent, received⟩, server⟩ := by
  induction packets generalizing files data new fuel received with
  | nil =>
      obtain rfl : new = [] := carry.data.symm
      rw [List.append_nil, List.append_nil] at leads
      have leadsOn := leads files isOpen fun other _ => .refl files other
      cases fuel <;> exact leadsOn
  | cons packet packets inductionHypothesis =>
      obtain ⟨isData, nonempty, fits⟩ :=
        carry.chunks packet List.mem_cons_self
      obtain ⟨more, carryMore, rfl⟩ : ∃ more,
          CarryData task.sessionId packets more ∧
            packet.payload ++ more = new :=
        ⟨_, ⟨fun other listed => carry.chunks other
          (List.mem_cons_of_mem _ listed), rfl⟩, carry.data⟩
      have length : (packet.payload ++ more).length =
          packet.payload.length + more.length := List.length_append
      have positive : 0 < packet.payload.length :=
        List.length_pos_iff.mpr nonempty
      obtain ⟨fuel, rfl⟩ := Nat.exists_eq_add_of_le'
        (show 1 ≤ fuel by omega)
      obtain ⟨remaining, isRemaining⟩ := Nat.exists_eq_add_of_le'
        (show 1 ≤ (packet.payload ++ more).length by omega)
      rw [isRemaining, ClientTask.receiveData]
      simp only [Prog.ask_bind, Prog.call_bind]
      refine leads_canceled ?_
      rw [if_neg Bool.false_ne_true, Prog.bind_bind]
      refine leads_taskRecv (by rw [isData]; rfl) ?_
      dsimp only
      have expected : ¬(packet.type ≠ CmdType.fileData.code ∨
          packet.status ≠ StatusCode.ok.code ∨ packet.payload = [] ∨
          fileChunkSize < packet.payload.length ∨
          remaining + 1 < packet.payload.length) := by
        rw [isData]
        simp only [Packet.init, ne_eq, not_true_eq_false, nonempty, false_or]
        omega
      rw [if_neg expected, Prog.bind_bind]
      refine leads_clientWriteN (Nat.le_refl _) isOpen fun after isAfter same => ?_
      have left : remaining + 1 - packet.payload.length = more.length := by omega
      rw [if_neg (by decide), left]
      refine inductionHypothesis carryMore (by omega) isAfter
        fun last isLast sameLast => ?_
      rw [List.append_assoc] at isLast ⊢
      exact leads last isLast fun other different =>
        (same other different).trans (sameLast other different)

theorem leads_hashMatches {offset : Nat} {content : Bytes}
    {rest : Bool → ClientProgram Bool}
    (isOpen : files.IsOpen fd name data offset)
    (distinct : sha256 data = sha256 content → data = content)
    (leads : ∀ (after : ClientFiles) (result : Bool),
      FileSystem.Sought files after fd → (result = true ↔ data = content) →
      Leads sha256 dialect post
        ⟨⟨rest result, after, inbox, sent, received⟩, server⟩) :
    Leads sha256 dialect post
      ⟨⟨ClientTask.hashMatches fd (UInt64.ofNat content.length)
          (sha256 content).1 >>= rest, files, inbox, sent, received⟩, server⟩ := by
  rw [ClientTask.hashMatches]
  simp only [Prog.ask_bind, Prog.call_bind]
  refine leads_clientFstat isOpen ?_
  dsimp only
  split_ifs with differs
  · refine leads files false (.refl files fd) ?_
    simp only [Bool.false_eq_true, false_iff]
    rintro rfl
    exact differs rfl
  · refine leads_clientDigest isOpen (leads _ _ (FileSystem.sought_seek files fd _) ?_)
    rw [(sha256 data).2.map_toLower, (sha256 content).2.map_toLower,
      decide_eq_true_iff]
    exact ⟨fun same => distinct (Subtype.ext same), fun same => by rw [same]⟩

end Client

end Transfer

/-- A connection over which the client downloads. -/
abbrev Download := TransferConnection

namespace Download

/-- The start of a run, with nothing open on either side. -/
def start (download : Download) (clientFiles : ClientFiles)
    (serverFiles : ServerFiles) (database : Database) : Transfer where
  left := .start download.task.runDownload clientFiles.closeAll
  right := .start
    (serveTransfer download.session download.transferTempDir download.storageRoot)
    ⟨serverFiles.closeAll, database, none⟩

/-- What the server reads of its `transfer_task_t`. -/
def served (download : Download) : TransferTask where
  packet := download.task.getsRequest
  session := download.session
  transferTempDir := download.transferTempDir
  storageRoot := download.storageRoot

end Download

/-- The rest of `handle_gets` after the metadata. -/
def TransferTask.awaitOffset (task : TransferTask) (sha256Hex : Bytes) :
    Handler Unit := do
  match ← task.recvTransferPacket with
  | none => pure ()
  | some packet =>
      if packet.type ≠ CmdType.resumePos.code ∨ packet.payload.length ≠ 8 then
        task.fail .protocolError
      else task.download sha256Hex (netToHost packet.payload)

/-- A content whose object is on the disk and whose metadata
`dao_get_file_meta` returns. -/
structure Stores (sha256 : Sha256) (dialect : Dialect) (userId : UInt64)
    (path : Bytes) (files : ServerFiles) (database : Database)
    (content : Bytes) : Prop where
  object : files.content (.object (sha256 content).1) = some content
  row : ∀ choice : Choice, choice.FaultFree →
    ∃ found : FileMeta,
      performTask dialect choice (.daoGetFileMeta userId path) database =
        (some (.ok, found), database) ∧
      found.size = UInt64.ofNat content.length ∧
      found.sha256Hex = (sha256 content).1

/-- The client reads the metadata the server has written. -/
theorem FileInfo.read_payload {found : FileMeta}
    (isDigest : IsDigest found.sha256Hex) :
    FileInfo.read found.payload = some ⟨found.size, found.sha256Hex⟩ := by
  have whole : found.sha256Hex.take 64 = found.sha256Hex :=
    List.take_of_length_le isDigest.length.le
  have name : (padTo 256 (found.fileName.take (nameMax - 1))).length = 256 :=
    length_padTo ((List.length_take_le _ _).trans (by decide))
  have hash : (padTo 72 found.sha256Hex).length = 72 :=
    length_padTo (by rw [isDigest.length]; decide)
  have size : found.payload.length = 336 := by
    simp only [FileMeta.payload, whole, List.length_append, name, hash,
      length_hostToNet]
  have kept : (padTo 72 found.sha256Hex).take 64 = found.sha256Hex := by
    rw [padTo, List.take_left' isDigest.length]
  rw [FileInfo.read, if_neg (by simp [size]), FileMeta.payload, whole,
    List.append_assoc, List.drop_left' name, List.take_left' (length_hostToNet _),
    netToHost_hostToNet, show 264 = 256 + 8 from rfl, ← List.drop_drop,
    List.drop_left' name, List.drop_left' (length_hostToNet _), kept,
    cString_of_noNul isDigest.noNul]

namespace Download

variable {sha256 : Sha256} {dialect : Dialect} {post : Transfer → Prop}
  {download : Download} {clientFiles : ClientFiles} {serverFiles : ServerFiles}
  {database : Database} {content : Bytes}

open Transfer

theorem leads_handleGets {task : TransferTask} {path : Bytes}
    {files : ServerFiles} {unsent : Option (SessionId × Nat × Bytes)}
    {inbox sent received : List Packet} {client : ClientEnd}
    (computed : task.getsTargetPath = some path)
    (stores : Stores sha256 dialect task.session.1.userId path serverFiles
      database content)
    (leads : ∀ info : Bytes,
      FileInfo.read info =
        some ⟨UInt64.ofNat content.length, (sha256 content).1⟩ →
      Leads sha256 dialect post
        ⟨client.deliver [Packet.init .getsResp .ok task.packet.sessionId info],
          ⟨task.awaitOffset (sha256 content).1, ⟨files, database, unsent⟩, inbox,
            sent ++ [Packet.init .getsResp .ok task.packet.sessionId info],
            received⟩⟩) :
    Leads sha256 dialect post
      ⟨client, ⟨task.handleGets, ⟨files, database, unsent⟩, inbox, sent,
        received⟩⟩ := by
  rw [TransferTask.getsTargetPath] at computed
  split at computed
  · cases computed
  rename_i payload copied
  rw [TransferTask.handleGets, copied]
  dsimp only
  rw [computed]
  simp only [Prog.ask_bind]
  refine leads_dao (fun _ _ => rfl) fun choice faultFree => ?_
  obtain ⟨found, performed, isSize, isHash⟩ := stores.row choice faultFree
  rw [performed]
  dsimp only
  have read := FileInfo.read_payload (isHash ▸ (sha256 content).2)
  have fits : found.payload.length ≤ maxPacketPayload := by
    rw [FileInfo.read] at read
    split_ifs at read with short
    rw [ne_eq, not_not] at short
    rw [short]
    decide
  refine leads_sendPacket fits ?_
  rw [if_neg (by decide)]
  have leadsOn := leads found.payload (by rw [read, isSize, isHash])
  rw [← isHash] at leadsOn
  exact leadsOn

/-- A run begins with the metadata. -/
theorem leads_start (snapshot : download.task.Snapshot)
    (stores : Stores sha256 dialect download.session.1.userId
      download.task.remotePath serverFiles database content)
    (leads : ∀ info : Bytes,
      Leads sha256 dialect post
        ⟨⟨download.task.downloadFile
            ⟨UInt64.ofNat content.length, (sha256 content).1⟩,
          clientFiles.closeAll, [], [download.task.getsRequest],
          [Packet.init .getsResp .ok download.task.sessionId info]⟩,
        ⟨download.served.awaitOffset (sha256 content).1,
          ⟨serverFiles.closeAll, database, none⟩, [],
          [Packet.init .getsResp .ok download.task.sessionId info],
          [download.task.getsRequest]⟩⟩) :
    Leads sha256 dialect post
      (download.start clientFiles serverFiles database) := by
  rw [start, Endpoint.start, ClientTask.runDownload]
  refine leads_taskSend (snapshot.fits.le.trans (by decide)) ?_
  rw [if_neg (by decide), Endpoint.start, serveTransfer, Prog.ask_bind,
    Endpoint.deliver_mk]
  refine leads_serverRecv ?_
  change Leads sha256 dialect post
    ⟨_, ⟨download.served.handleTransferTask, _, _, _, _⟩⟩
  have isGets : download.served.packet.type = CmdType.getsReq.code := rfl
  rw [TransferTask.handleTransferTask, isGets, if_neg (by decide), if_pos rfl]
  refine leads_handleGets (snapshot.getsTargetPath rfl) stores
    fun info read => ?_
  rw [Endpoint.deliver_mk]
  refine leads_taskRecv rfl ?_
  dsimp only
  rw [if_neg (by simp [Packet.init])]
  dsimp only [Packet.init]
  rw [read]
  exact leads info

/-- The server sends the rest of the object and the packet that ends it, and
waits for an answer. -/
theorem leads_awaitOffset {task : TransferTask} {files : ServerFiles}
    {inbox sent received : List Packet} {client : ClientEnd} {offset : UInt64}
    (measurable : content.length < 2 ^ 63)
    (inside : offset.toNat ≤ content.length)
    (object : files.content (.object (sha256 content).1) = some content)
    (closed : ∀ fd, files.descriptors fd = none)
    (leads : ∀ packets after,
      CarryData task.packet.sessionId packets (content.drop offset.toNat) →
      after.content (.object (sha256 content).1) = some content →
      Leads sha256 dialect post
        ⟨client.deliver (packets ++
            [Packet.init .fileEnd .ok task.packet.sessionId []]),
          ⟨task.recvTransferPacket >>= fun _ => pure (), ⟨after, database, none⟩,
            inbox, sent ++ (packets ++
              [Packet.init .fileEnd .ok task.packet.sessionId []]),
            received ++ [Packet.init .resumePos .ok task.packet.sessionId
              (hostToNet offset)]⟩⟩) :
    Leads sha256 dialect post
      ⟨client, ⟨task.awaitOffset (sha256 content).1, ⟨files, database, none⟩,
        Packet.init .resumePos .ok task.packet.sessionId (hostToNet offset) ::
          inbox, sent, received⟩⟩ := by
  rw [TransferTask.awaitOffset]
  refine leads_recvTransferPacket rfl ?_
  dsimp only [Packet.init]
  rw [if_neg (by simp), netToHost_hostToNet, TransferTask.download]
  simp only [Prog.ask_bind]
  refine leads_stored (fun _ _ => rfl) fun choice works => ?_
  obtain ⟨file, named, -⟩ := Option.map_eq_some_iff.mp object
  simp only [performStored, openStored, works, closed, named, ne_eq,
    not_true_eq_false, or_false, Bool.false_eq_true, ↓reduceIte, reduceCtorEq]
  have isOpen := @FileSystem.isOpen_openFile _ _ files _ choice.fd _ object
  refine leads_serverFstat isOpen ?_
  dsimp only
  have size := toNat_fileSize measurable
  have notShort : ¬UInt64.ofNat content.length < offset := by
    rw [UInt64.lt_iff_toNat_lt, size]
    omega
  have remaining : (UInt64.ofNat content.length - offset).toNat =
      content.length - offset.toNat := by
    rw [UInt64.toNat_sub_of_le _ _ (UInt64.not_lt.mp notShort), size]
  rw [if_neg notShort, remaining]
  refine leads_sendChunks (Nat.le_refl _) isOpen (by omega)
    fun packets carry => ?_
  refine leads_serverClose ?_
  rw [if_neg (by decide), TransferTask.endDownload]
  refine leads_sendPacket (by decide) ?_
  rw [if_neg (by decide), Endpoint.deliver_deliver, List.append_assoc]
  exact leads packets _ carry object

/-- A run that has succeeded. -/
structure Completed (download : Download) (content : Bytes) (last : Transfer) :
    Prop where
  returnsZero : last.left.program = .done true
  acknowledged : last.right.received.getLast? =
    some (Packet.init .ack .ok download.task.sessionId [])
  target : last.left.state.content download.task.targetPath = some content
  /-- The data on the wire is what is missing from the announced offset on. -/
  wire : ∃ offset : UInt64,
    Packet.init .resumePos .ok download.task.sessionId (hostToNet offset) ∈
      last.left.sent ∧
    offset.toNat ≤ content.length ∧
    dataBytes last.right.sent = content.length - offset.toNat ∧
    SizeChecked (content.length - offset.toNat) (dataPackets last.right.sent)

/-- What a run makes of the partial file. -/
def resumed (download : Download) (files : ClientFiles) (content : Bytes) :
    Bytes :=
  let start := kept content ((files.content download.task.partPath).getD [])
  start ++ content.drop start.length

/-- A run that has failed because the partial file holds something else. -/
structure Failed (sha256 : Sha256) (download : Download) (content : Bytes)
    (before : ClientFiles) (database : Database) (last : Transfer) : Prop where
  returnsOne : last.left.program = .done false
  part : last.left.state.content download.task.partPath =
    some (download.resumed before content)
  target : last.left.state.content download.task.targetPath =
    before.content download.task.targetPath
  object : last.right.state.files.content (.object (sha256 content).1) =
    some content
  database : last.right.state.database = database

section Runs

variable {files : ClientFiles} {fd : Nat} {info : Bytes}
  (measurable : content.length < 2 ^ 63)
  (object : serverFiles.content (.object (sha256 content).1) = some content)

include measurable object

/-- The target holds the content already. -/
theorem leads_final
    (target : files.content download.task.targetPath = some content) :
    Leads sha256 dialect (download.Completed content)
      ⟨⟨download.task.downloadFrom fd
          ⟨UInt64.ofNat content.length, (sha256 content).1⟩
          (UInt64.ofNat content.length) true,
        files, [], [download.task.getsRequest],
        [Packet.init .getsResp .ok download.task.sessionId info]⟩,
      ⟨download.served.awaitOffset (sha256 content).1,
        ⟨serverFiles.closeAll, database, none⟩, [],
        [Packet.init .getsResp .ok download.task.sessionId info],
        [download.task.getsRequest]⟩⟩ := by
  have size := toNat_fileSize measurable
  rw [ClientTask.downloadFrom]
  refine leads_taskSend (by rw [length_hostToNet]; decide) ?_
  rw [if_neg (by decide), Endpoint.deliver_mk]
  refine leads_awaitOffset measurable size.le object (fun _ => rfl)
    fun packets after carry _ => ?_
  rw [size, List.drop_length] at carry
  rw [carry.eq_nil, UInt64.sub_self, Endpoint.deliver_mk]
  change Leads sha256 dialect _ ⟨⟨ClientTask.endDownload _ _ _ _, _, _, _, _⟩, _⟩
  rw [ClientTask.endDownload]
  refine leads_taskRecv rfl ?_
  dsimp only
  rw [if_neg (by simp [Packet.init]), if_pos rfl, ClientTask.closeWith]
  refine leads_taskSend (by decide) (leads_clientClose ?_)
  rw [Endpoint.deliver_mk]
  refine leads_recvTransferPacket rfl (.ended rfl rfl ⟨rfl, rfl, target, ?_⟩)
  refine ⟨UInt64.ofNat content.length, by simp, size.le, ?_, ?_⟩
  · simp [dataBytes, dataPackets, Packet.init, size, CmdType.code]
  · simp [dataPackets, Packet.init, CmdType.code, SizeChecked]

section Part

variable {start : Bytes}
  (isOpen : files.IsOpen fd download.task.partPath start start.length)
  (short : start.length ≤ content.length)

include isOpen short

/-- The bytes that are missing from the partial file arrive. -/
theorem leads_resumed
    (leads : ∀ (after : ClientFiles) (afterServer : ServerFiles) packets,
      after.IsOpen fd download.task.partPath
        (start ++ content.drop start.length) content.length →
      (∀ other ≠ download.task.partPath, FileSystem.SameAt files after other) →
      afterServer.content (.object (sha256 content).1) = some content →
      CarryData download.task.sessionId packets (content.drop start.length) →
      Leads sha256 dialect post
        ⟨⟨download.task.endDownload fd
            ⟨UInt64.ofNat content.length, (sha256 content).1⟩ false,
          after, [Packet.init .fileEnd .ok download.task.sessionId []],
          [download.task.getsRequest, Packet.init .resumePos .ok
            download.task.sessionId (hostToNet (UInt64.ofNat start.length))],
          [Packet.init .getsResp .ok download.task.sessionId info] ++ packets⟩,
        ⟨download.served.recvTransferPacket >>= fun _ => pure (),
          ⟨afterServer, database, none⟩, [],
          [Packet.init .getsResp .ok download.task.sessionId info] ++
            (packets ++ [Packet.init .fileEnd .ok download.task.sessionId []]),
          [download.task.getsRequest, Packet.init .resumePos .ok
            download.task.sessionId (hostToNet (UInt64.ofNat start.length))]⟩⟩) :
    Leads sha256 dialect post
      ⟨⟨download.task.downloadFrom fd
          ⟨UInt64.ofNat content.length, (sha256 content).1⟩
          (UInt64.ofNat start.length) false,
        files, [], [download.task.getsRequest],
        [Packet.init .getsResp .ok download.task.sessionId info]⟩,
      ⟨download.served.awaitOffset (sha256 content).1,
        ⟨serverFiles.closeAll, database, none⟩, [],
        [Packet.init .getsResp .ok download.task.sessionId info],
        [download.task.getsRequest]⟩⟩ := by
  have size := toNat_fileSize measurable
  have offset := toNat_fileSize (Nat.lt_of_le_of_lt short measurable)
  have remaining : (UInt64.ofNat content.length -
      UInt64.ofNat start.length).toNat = (content.drop start.length).length := by
    rw [UInt64.toNat_sub_of_le, size, offset, List.length_drop]
    rw [UInt64.le_iff_toNat_le, size, offset]
    exact short
  have whole : (start ++ content.drop start.length).length = content.length := by
    rw [List.length_append, List.length_drop]
    omega
  rw [ClientTask.downloadFrom]
  refine leads_taskSend (by rw [length_hostToNet]; decide) ?_
  rw [if_neg (by decide), Endpoint.deliver_mk]
  refine leads_awaitOffset measurable (offset.le.trans short) object (fun _ => rfl)
    fun packets afterServer carry stored => ?_
  rw [offset] at carry
  dsimp only
  rw [remaining, Endpoint.deliver_mk, List.nil_append]
  refine leads_receiveData carry (Nat.le_refl _) isOpen fun after isAfter same => ?_
  rw [whole] at isAfter
  exact leads after afterServer packets isAfter same stored carry

/-- The partial file holds a prefix of the content. -/
theorem leads_part_completed (isPrefix : start <+: content) :
    Leads sha256 dialect (download.Completed content)
      ⟨⟨download.task.downloadFrom fd
          ⟨UInt64.ofNat content.length, (sha256 content).1⟩
          (UInt64.ofNat start.length) false,
        files, [], [download.task.getsRequest],
        [Packet.init .getsResp .ok download.task.sessionId info]⟩,
      ⟨download.served.awaitOffset (sha256 content).1,
        ⟨serverFiles.closeAll, database, none⟩, [],
        [Packet.init .getsResp .ok download.task.sessionId info],
        [download.task.getsRequest]⟩⟩ := by
  have offset := toNat_fileSize (Nat.lt_of_le_of_lt short measurable)
  refine leads_resumed measurable object isOpen short
    fun after afterServer packets isAfter same stored carry => ?_
  rw [List.prefix_iff_eq_append.mp isPrefix] at isAfter
  rw [ClientTask.endDownload]
  refine leads_taskRecv rfl ?_
  dsimp only
  rw [if_neg (by simp [Packet.init]), if_neg Bool.false_ne_true]
  simp only [Prog.ask_bind]
  refine leads_clientFsync ?_
  rw [if_neg (by decide)]
  refine leads_hashMatches isAfter (fun _ => rfl) fun last result sought isMatch => ?_
  rw [isMatch.mpr rfl, if_neg (by decide)]
  refine leads_clientClose ?_
  have held : (last.close fd).content download.task.partPath = some content :=
    (sought.sameAt _).content.trans isAfter.content
  have present := FileSystem.names_ne_none held
  refine leads_clientRename present ?_
  rw [if_neg (by decide), ← Prog.bind_pure (ClientTask.taskSend _ _ _ _)]
  refine leads_taskSend (by decide) ?_
  rw [Endpoint.deliver_mk]
  refine leads_recvTransferPacket rfl (.ended rfl rfl ⟨rfl, rfl, ?_, ?_⟩)
  · exact (FileSystem.content_rename present).trans held
  · have isData : dataPackets ([Packet.init .getsResp .ok download.task.sessionId
        info] ++ (packets ++
        [Packet.init .fileEnd .ok download.task.sessionId []])) = packets := by
      rw [dataPackets_append, dataPackets_append, carry.dataPackets]
      simp [dataPackets, Packet.init, CmdType.code]
    refine ⟨UInt64.ofNat start.length, by simp, offset.le.trans short, ?_, ?_⟩
    · rw [dataBytes, isData, carry.length, List.length_drop, offset]
    · rw [isData, offset, ← List.length_drop]
      exact carry.sizeChecked

/-- The partial file holds something else. -/
theorem leads_part_failed {before : ClientFiles}
    (isResumed : start ++ content.drop start.length =
      download.resumed before content)
    (distinct : sha256 (download.resumed before content) = sha256 content →
      download.resumed before content = content)
    (wrong : download.resumed before content ≠ content)
    (different : download.task.targetPath ≠ download.task.partPath)
    (target : files.content download.task.targetPath =
      before.content download.task.targetPath) :
    Leads sha256 dialect (download.Failed sha256 content before database)
      ⟨⟨download.task.downloadFrom fd
          ⟨UInt64.ofNat content.length, (sha256 content).1⟩
          (UInt64.ofNat start.length) false,
        files, [], [download.task.getsRequest],
        [Packet.init .getsResp .ok download.task.sessionId info]⟩,
      ⟨download.served.awaitOffset (sha256 content).1,
        ⟨serverFiles.closeAll, database, none⟩, [],
        [Packet.init .getsResp .ok download.task.sessionId info],
        [download.task.getsRequest]⟩⟩ := by
  refine leads_resumed measurable object isOpen short
    fun after afterServer packets isAfter same stored carry => ?_
  rw [isResumed] at isAfter
  rw [ClientTask.endDownload]
  refine leads_taskRecv rfl ?_
  dsimp only
  rw [if_neg (by simp [Packet.init]), if_neg Bool.false_ne_true]
  simp only [Prog.ask_bind]
  refine leads_clientFsync ?_
  rw [if_neg (by decide)]
  refine leads_hashMatches isAfter distinct fun last result sought isMatch => ?_
  rw [Bool.eq_false_iff.mpr fun isTrue => wrong (isMatch.mp isTrue),
    if_pos (by decide), ClientTask.closeWith]
  refine leads_reportError (leads_clientClose ?_)
  rw [Endpoint.deliver_mk]
  refine leads_recvTransferPacket rfl (.ended rfl rfl ⟨rfl, ?_, ?_, stored, rfl⟩)
  · exact (sought.sameAt _).content.trans isAfter.content
  · exact ((sought.sameAt _).content.trans (same _ different).content).trans target

end Part

end Runs

/-- The partial file is opened, and cut if it is too long. -/
theorem leads_downloadPart {files : ClientFiles}
    {inbox sent received : List Packet} {server : ServerEnd} {part : Bytes}
    (measurable : content.length < 2 ^ 63 ∧ part.length < 2 ^ 63)
    (closed : ∀ fd, files.descriptors fd = none)
    (holds : (files.content download.task.partPath).getD [] = part)
    (leads : ∀ (fd : Nat) (after : ClientFiles),
      after.IsOpen fd download.task.partPath (kept content part)
        (kept content part).length →
      (∀ other ≠ download.task.partPath, FileSystem.SameAt files after other) →
      Leads sha256 dialect post
        ⟨⟨download.task.downloadFrom fd
            ⟨UInt64.ofNat content.length, (sha256 content).1⟩
            (UInt64.ofNat (kept content part).length) false,
          after, inbox, sent, received⟩, server⟩) :
    Leads sha256 dialect post
      ⟨⟨download.task.downloadPart
          ⟨UInt64.ofNat content.length, (sha256 content).1⟩,
        files, inbox, sent, received⟩, server⟩ := by
  have size := toNat_fileSize measurable.1
  have partSize := toNat_fileSize measurable.2
  rw [ClientTask.downloadPart]
  simp only [Prog.ask_bind]
  refine leads_client (fun _ _ => rfl) fun choice works _ => ?_
  simp only [performClient, openClient, works, closed, ne_eq, not_true_eq_false,
    or_false, Bool.false_eq_true, ↓reduceIte]
  have isOpen := @FileSystem.isOpen_openOrCreate _ _ files download.task.partPath
    choice.fd _
  rw [holds] at isOpen
  refine leads_clientFstat isOpen ?_
  dsimp only
  have tooLong : UInt64.ofNat content.length < UInt64.ofNat part.length ↔
      content.length < part.length := by
    rw [UInt64.lt_iff_toNat_lt, size, partSize]
  rw [kept] at leads
  split_ifs with cut
  · rw [if_pos (tooLong.mp cut)] at leads
    refine leads_client (fun _ _ => rfl) fun choice works _ => ?_
    rw [performClient, works, if_neg Bool.false_ne_true]
    dsimp only
    rw [if_neg (by decide), ClientTask.resumeAt]
    simp only [Prog.ask_bind]
    refine leads_clientLseek ?_
    rw [if_neg (by decide)]
    refine leads _ _ (isOpen.truncate.seek 0) fun other different => ?_
    exact ((FileSystem.sameAt_openOrCreate different).trans
      (isOpen.refers.sameAt_replace _ different)).seek 0
  · rw [if_neg fun long => cut (tooLong.mpr long)] at leads
    rw [ClientTask.resumeAt]
    simp only [Prog.ask_bind]
    refine leads_clientLseek ?_
    rw [if_neg (by decide), partSize]
    exact leads _ _ (isOpen.seek part.length) fun other different =>
      (FileSystem.sameAt_openOrCreate different).seek _

/-- The target holds the content, or the partial file a prefix of it or more
than it. -/
def Resumable (download : Download) (files : ClientFiles) (content : Bytes) :
    Prop :=
  files.content download.task.targetPath = some content ∨
    (files.content download.task.partPath).getD [] <+: content ∨
    content.length < ((files.content download.task.partPath).getD []).length

/-- No content that a run digests has the digest of another. -/
def CollisionFree (sha256 : Sha256) (download : Download) (files : ClientFiles)
    (content : Bytes) : Prop :=
  ∀ data, files.content download.task.targetPath = some data ∨
      data = download.resumed files content →
    sha256 data = sha256 content → data = content

theorem length_resumed
    (short : ¬content.length <
      ((clientFiles.content download.task.partPath).getD []).length) :
    (download.resumed clientFiles content).length = content.length := by
  rw [resumed, kept_of_not_lt short, List.length_append, List.length_drop]
  omega

theorem resumed_ne
    (notPrefix : ¬(clientFiles.content download.task.partPath).getD [] <+: content)
    (short : ¬content.length <
      ((clientFiles.content download.task.partPath).getD []).length) :
    download.resumed clientFiles content ≠ content := by
  rw [resumed, kept_of_not_lt short]
  exact fun same => notPrefix (List.prefix_iff_eq_append.mpr same)

theorem leads_downloadFile {inbox sent received : List Packet}
    {server : ServerEnd}
    (distinct : ∀ data, clientFiles.content download.task.targetPath = some data →
      sha256 data = sha256 content → data = content)
    (final : clientFiles.content download.task.targetPath = some content →
      ∀ (fd : Nat) (after : ClientFiles),
        after.content download.task.targetPath = some content →
        Leads sha256 dialect post
          ⟨⟨download.task.downloadFrom fd
              ⟨UInt64.ofNat content.length, (sha256 content).1⟩
              (UInt64.ofNat content.length) true,
            after, inbox, sent, received⟩, server⟩)
    (unfinished : clientFiles.content download.task.targetPath ≠ some content →
      ∀ after : ClientFiles, (∀ fd, after.descriptors fd = none) →
        (∀ name, FileSystem.SameAt clientFiles after name) →
        Leads sha256 dialect post
          ⟨⟨download.task.downloadPart
              ⟨UInt64.ofNat content.length, (sha256 content).1⟩,
            after, inbox, sent, received⟩, server⟩) :
    Leads sha256 dialect post
      ⟨⟨download.task.downloadFile
          ⟨UInt64.ofNat content.length, (sha256 content).1⟩,
        clientFiles.closeAll, inbox, sent, received⟩, server⟩ := by
  have isClosed : ∀ name,
      FileSystem.SameAt clientFiles clientFiles.closeAll name :=
    fun name => ⟨rfl, rfl⟩
  rw [ClientTask.downloadFile, (sha256 content).2.valid, if_neg (by decide)]
  simp only [Prog.ask_bind]
  refine leads_client (fun _ _ => rfl) fun choice works _ => ?_
  simp only [performClient, openClient, works, FileSystem.descriptors_closeAll,
    FileSystem.names_closeAll, ne_eq, not_true_eq_false, or_false,
    Bool.false_eq_true, ↓reduceIte]
  rcases held : clientFiles.content download.task.targetPath with _ | data
  · simp only [Option.map_eq_none_iff.mp held, ↓reduceIte]
    exact unfinished (by simp [held]) _ (fun _ => rfl) isClosed
  · simp only [FileSystem.names_ne_none held, ↓reduceIte]
    have isOpen := @FileSystem.isOpen_openFile _ _ clientFiles.closeAll _ choice.fd
      _ held
    refine leads_hashMatches isOpen (distinct data held)
      fun after result sought isMatch => ?_
    split_ifs with isTrue
    · rw [isMatch.mp isTrue] at held
      exact final held _ after ((sought.sameAt _).content.trans held)
    · refine leads_clientClose (unfinished ?_ _ (fun fd => ?_) fun name => ?_)
      · rw [held]
        exact fun same => isTrue (isMatch.mpr (Option.some.inj same))
      · rw [FileSystem.descriptors_close, Function.update_apply]
        split_ifs with same
        · rfl
        · rw [sought.others fd same]
          exact Function.update_of_ne same _ _
      · exact ⟨(sought.sameAt name).names, (sought.sameAt name).content⟩

section Runs

variable (snapshot : download.task.Snapshot)
  (stores : Stores sha256 dialect download.session.1.userId
    download.task.remotePath serverFiles database content)
  (measurable : content.length < 2 ^ 63)
  (partMeasurable :
    ((clientFiles.content download.task.partPath).getD []).length < 2 ^ 63)
  (distinct : download.CollisionFree sha256 clientFiles content)

include snapshot stores measurable partMeasurable distinct

theorem ends_completed (resumable : download.Resumable clientFiles content) :
    Ends sha256 dialect (download.Completed content)
      (download.start clientFiles serverFiles database) := by
  refine Leads.ends (leads_start snapshot stores fun info => ?_)
  refine leads_downloadFile (fun data held => distinct data (Or.inl held)) ?_ ?_
  · intro _ fd after held
    exact leads_final measurable stores.object held
  · intro notHeld after closed same
    refine leads_downloadPart ⟨measurable, partMeasurable⟩ closed
      (by rw [(same _).content]) fun fd last isOpen _ => ?_
    have isPrefix : kept content
        ((clientFiles.content download.task.partPath).getD []) <+: content := by
      rw [kept]
      split_ifs with long
      · exact List.nil_prefix
      · exact (resumable.resolve_left notHeld).resolve_right long
    exact leads_part_completed measurable stores.object isOpen isPrefix.length_le
      isPrefix

theorem ends_failed
    (different : download.task.targetPath ≠ download.task.partPath)
    (notResumable : ¬download.Resumable clientFiles content) :
    Ends sha256 dialect (download.Failed sha256 content clientFiles database)
      (download.start clientFiles serverFiles database) := by
  rw [Resumable, not_or, not_or] at notResumable
  obtain ⟨notHeld, notPrefix, short⟩ := notResumable
  refine Leads.ends (leads_start snapshot stores fun info => ?_)
  refine leads_downloadFile (fun data held => distinct data (Or.inl held)) ?_ ?_
  · exact fun held => absurd held notHeld
  · intro _ after closed same
    refine leads_downloadPart ⟨measurable, partMeasurable⟩ closed
      (by rw [(same _).content]) fun fd last isOpen others => ?_
    have whole := kept_of_not_lt short
    rw [whole] at isOpen ⊢
    exact leads_part_failed measurable stores.object isOpen (not_lt.mp short)
      (by rw [resumed, whole]) (distinct _ (Or.inr rfl))
      (resumed_ne notPrefix short) different
      ((others _ different).content.trans (same _).content)

end Runs

end Download

end CloudDrive
