import CloudDrive.ClientEnvironment
import CloudDrive.Dialogue
import CloudDrive.TaskEnvironment

/-!
# A transfer over its connection

A client worker and the server worker that serves its connection, each with its
own files.  The environment decides which calls fail, how much a call moves and
which descriptors are given out; a transfer is fault-free if it lets every call
succeed.
-/

namespace CloudDrive

/-- The temporary files and the objects of the server. -/
abbrev ServerFiles := FileSystem StoredFile UInt8

/-- What the environment decides about a call of a server worker. -/
structure ServerChoice extends Choice where
  fails : Bool
  /-- Whether a `rename` that fails does so with `EEXIST`. -/
  isTaken : Bool
  /-- The descriptor that `open` returns. -/
  fd : Nat
  /-- How many bytes move besides the first. -/
  more : Nat

/-- Every call succeeds as far as it can. -/
def ServerChoice.ordinary : ServerChoice :=
  { Choice.ordinary with fails := false, isTaken := false, fd := 3, more := 4096 }

/-- The `open` of a temporary file or of an object. -/
def openStored (choice : ServerChoice) (file : StoredFile) (files : ServerFiles) :
    Option Nat × ServerFiles :=
  if choice.fails ∨ files.descriptors choice.fd ≠ none then (none, files)
  else
    match file with
    | .part sha256Hex =>
        (some choice.fd, files.openOrCreate (.part sha256Hex) choice.fd)
    | .object sha256Hex =>
        if files.names (.object sha256Hex) = none then (none, files)
        else (some choice.fd, files.openFile (.object sha256Hex) choice.fd)

/-- The calls of a server worker on its files. -/
def performStored (sha256 : Sha256) (choice : ServerChoice) :
    (op : TaskOp) → ServerFiles → op.Answer × ServerFiles
  | .openFile file, files => openStored choice file files
  | .fstat fd, files =>
      (if choice.fails then none
        else (files.bytes fd).map fun data => UInt64.ofNat data.length, files)
  | .truncate fd, files =>
      if choice.fails then (false, files) else (true, files.truncate fd)
  | .lseek fd offset, files =>
      if choice.fails then (false, files)
      else (true, files.seek fd offset.toNat)
  | .write fd data, files =>
      if positive : 0 < data.length ∧ choice.fails = false then
        let more := min choice.more (data.length - 1)
        (some ⟨more, by omega⟩, files.write fd (data.take (more + 1)))
      else (none, files)
  | .fsync _, files => (!choice.fails, files)
  | .digest fd, files =>
      if choice.fails then (none, files)
      else
        ((files.bytes fd).map sha256,
          files.seek fd ((files.bytes fd).getD []).length)
  | .close fd, files => ((), files.close fd)
  | .unlink file, files =>
      if choice.fails ∨ files.names file = none then (false, files)
      else (true, files.unlink file)
  | .publish sha256Hex, files =>
      if choice.fails ∨ files.names (.part sha256Hex) = none then
        (if choice.isTaken then .alreadyExists else .failed, files)
      else (.renamed, files.rename (.part sha256Hex) (.object sha256Hex))
  | .objectExists sha256Hex, files =>
      (!choice.fails && (files.names (.object sha256Hex)).isSome, files)
  | op, files => (choice.answer op, files)

/-- The server at its end of a connection. -/
structure ServerState where
  files : ServerFiles
  database : Database
  /-- The data packet that is being sent: its session, the length in its header
  and the bytes of its payload so far. -/
  unsent : Option (SessionId × Nat × Bytes)

/-- More bytes of a data packet, which arrives when it is complete. -/
def ServerState.emit {α : Type} (state : ServerState) (sessionId : SessionId)
    (payloadLen : Nat) (payload : Bytes) (answer : α) :
    Act α ServerState Packet :=
  if payload.length < payloadLen then
    .inner answer { state with unsent := some (sessionId, payloadLen, payload) }
  else
    .sends (Packet.init .fileData .ok sessionId payload) answer
      { state with unsent := none }

/-- A call of the server worker. -/
def serverAct (sha256 : Sha256) (dialect : Dialect) (choice : ServerChoice) :
    (op : TaskOp) → ServerState → Act op.Answer ServerState Packet
  | .send packet, state =>
      if choice.fails then .inner false state else .sends packet true state
  | .recv, state =>
      if choice.fails then .inner none state else .receives fun packet => packet
  | .sendHeader sessionId payloadLen, state =>
      if choice.fails then .inner false state
      else state.emit sessionId payloadLen [] true
  | .sendfile fd offset count, state =>
      let data := (((state.files.bytes fd).getD []).drop offset).take
        (min count (choice.more + 1))
      if moves : 0 < data.length ∧ choice.fails = false then
        have bound : data.length - 1 < count := by
          simp only [data, List.length_take] at moves ⊢
          omega
        match state.unsent with
        | none => .inner (some ⟨_, bound⟩) state
        | some (sessionId, payloadLen, payload) =>
            state.emit sessionId payloadLen (payload ++ data) (some ⟨_, bound⟩)
      else .inner none state
  | op, state =>
      if op.isDao then
        let (answer, database) :=
          performTask dialect choice.toChoice op state.database
        .inner answer { state with database }
      else
        let (answer, files) := performStored sha256 choice op state.files
        .inner answer { state with files }

/-- A call of the client worker. -/
def clientAct (sha256 : Sha256) (choice : ClientChoice) :
    (op : ClientOp) → ClientFiles → Act op.Answer ClientFiles Packet
  | .send packet, files =>
      if choice.fails then .inner false files else .sends packet true files
  | .recv, files =>
      if choice.fails then .inner none files else .receives fun packet => packet
  | op, files =>
      let (answer, files) := performClient sha256 choice op files
      .inner answer files

/-- A connection of a client: its first packet decides which handler serves
it. -/
def serveTransfer (session : FittingContext)
    (transferTempDir storageRoot : Bytes) : Handler Unit := do
  match ← Prog.ask TaskOp.recv with
  | none => pure ()
  | some packet =>
      TransferTask.handleTransferTask
        { packet, session, transferTempDir, storageRoot }

/-- What the workers at the two ends of a connection are started with. -/
structure TransferConnection where
  task : ClientTask
  session : FittingContext
  transferTempDir : Bytes
  storageRoot : Bytes

abbrev ClientEnd := Endpoint ClientOp.Answer Bool ClientFiles Packet

abbrev ServerEnd := Endpoint TaskOp.Answer Unit ServerState Packet

abbrev Transfer :=
  Dialogue ClientOp.Answer TaskOp.Answer Bool Unit ClientFiles ServerState Packet

abbrev TransferTurn := Turn ClientChoice ServerChoice

/-- No statement fails, and the hash that `dao_get_file_meta` copies happens to
be terminated. -/
structure Choice.FaultFree (choice : Choice) : Prop where
  faults : choice.faults = fun _ => ⟨false, false⟩
  stale : cString choice.stale = []

/-- A turn without a fault. -/
def TransferTurn.FaultFree : TransferTurn → Prop
  | .left choice => choice.fails = false ∧ choice.canceled = false
  | .right choice => choice.fails = false ∧ choice.toChoice.FaultFree

theorem IsDigest.length {text : Bytes} (isDigest : IsDigest text) :
    text.length = 64 := by
  have valid := isDigest.valid
  simp only [isValidSha256Hex, Bool.and_eq_true, decide_eq_true_eq] at valid
  exact valid.1

theorem IsDigest.noNul {text : Bytes} (isDigest : IsDigest text) : 0 ∉ text := by
  have valid := isDigest.valid
  simp only [isValidSha256Hex, Bool.and_eq_true, decide_eq_true_eq,
    List.all_eq_true] at valid
  exact fun inside => absurd (valid.2 0 inside) (by decide)

theorem IsDigest.map_toLower {text : Bytes} (isDigest : IsDigest text) :
    text.map toLower = text := by
  rw [IsDigest, unhex] at isDigest
  split_ifs at isDigest
  exact Option.some.inj isDigest

/-- The sizes of files are values of `off_t`. -/
theorem toNat_fileSize {data : Bytes} (measurable : data.length < 2 ^ 63) :
    (UInt64.ofNat data.length).toNat = data.length :=
  UInt64.toNat_ofNat_of_lt' (by simp [UInt64.size]; omega)

/-- The bytes of a partial file that a run resumes from. -/
def kept (content part : Bytes) : Bytes :=
  if content.length < part.length then [] else part

theorem kept_of_not_lt {content part : Bytes}
    (short : ¬content.length < part.length) : kept content part = part :=
  if_neg short

theorem length_kept (content part : Bytes) :
    (kept content part).length ≤ content.length := by
  rw [kept]
  split_ifs with long
  · exact Nat.zero_le _
  · exact not_lt.mp long

/-- Packets that carry data of a file in chunks. -/
structure CarryData (sessionId : SessionId) (packets : List Packet)
    (data : Bytes) : Prop where
  chunks : ∀ packet ∈ packets,
    packet = Packet.init .fileData .ok sessionId packet.payload ∧
      packet.payload ≠ [] ∧ packet.payload.length ≤ fileChunkSize
  data : packets.flatMap Packet.payload = data

theorem CarryData.nil (sessionId : SessionId) : CarryData sessionId [] [] :=
  ⟨by simp, rfl⟩

theorem CarryData.cons {sessionId : SessionId} {packets : List Packet}
    {data chunk : Bytes} (carry : CarryData sessionId packets data)
    (nonempty : chunk ≠ []) (fits : chunk.length ≤ fileChunkSize) :
    CarryData sessionId (Packet.init .fileData .ok sessionId chunk :: packets)
      (chunk ++ data) where
  chunks := by
    intro packet listed
    rcases List.mem_cons.mp listed with rfl | later
    · exact ⟨rfl, nonempty, fits⟩
    · exact carry.chunks packet later
  data := by rw [List.flatMap_cons, carry.data]; rfl

theorem CarryData.eq_nil {sessionId : SessionId} {packets : List Packet}
    (carry : CarryData sessionId packets []) : packets = [] := by
  cases packets with
  | nil => rfl
  | cons packet packets =>
      have nothing := carry.data
      rw [List.flatMap_cons, List.append_eq_nil_iff] at nothing
      exact absurd nothing.1 (carry.chunks packet List.mem_cons_self).2.1

/-- The packets that carry data. -/
def dataPackets (packets : List Packet) : List Packet :=
  packets.filter fun packet => packet.type = CmdType.fileData.code

/-- The bytes of file data among packets. -/
def dataBytes (packets : List Packet) : Nat :=
  ((dataPackets packets).map fun packet => packet.payload.length).sum

@[simp]
theorem dataPackets_append (first second : List Packet) :
    dataPackets (first ++ second) = dataPackets first ++ dataPackets second :=
  List.filter_append _ _

theorem CarryData.dataPackets {sessionId : SessionId} {packets : List Packet}
    {data : Bytes} (carry : CarryData sessionId packets data) :
    CloudDrive.dataPackets packets = packets := by
  rw [CloudDrive.dataPackets, List.filter_eq_self]
  intro packet listed
  rw [(carry.chunks packet listed).1]
  rfl

theorem CarryData.length {sessionId : SessionId} {packets : List Packet}
    {data : Bytes} (carry : CarryData sessionId packets data) :
    (packets.map fun packet => packet.payload.length).sum = data.length := by
  rw [← carry.data, List.length_flatMap]

namespace Transfer

variable (sha256 : Sha256) (dialect : Dialect)

abbrev step : Transfer → TransferTurn → Option Transfer :=
  Dialogue.step (clientAct sha256) (serverAct sha256 dialect)

/-- Every fault-free run, in whatever order the two sides move, ends with the
property. -/
abbrev Ends (post : Transfer → Prop) (transfer : Transfer) : Prop :=
  Dialogue.Ends (clientAct sha256) (serverAct sha256 dialect)
    TransferTurn.FaultFree post transfer

abbrev Leads (post : Transfer → Prop) (transfer : Transfer) : Prop :=
  Dialogue.Leads (clientAct sha256) (serverAct sha256 dialect)
    TransferTurn.FaultFree post transfer

variable {sha256 dialect} {post : Transfer → Prop}

theorem Leads.ends {transfer : Transfer} (leads : Leads sha256 dialect post transfer) :
    Ends sha256 dialect post transfer :=
  Dialogue.Leads.ends leads ⟨.ordinary, rfl, rfl⟩ ⟨.ordinary, rfl, rfl, rfl⟩

section Client

variable {files : ClientFiles} {inbox sent received : List Packet}
  {server : ServerEnd}

/-- A call that concerns the client alone. -/
theorem leads_client {op : ClientOp} {next : op.Answer → ClientProgram Bool}
    (inner : ∀ choice files, clientAct sha256 choice op files =
      .inner (performClient sha256 choice op files).1
        (performClient sha256 choice op files).2)
    (leads : ∀ choice : ClientChoice, choice.fails = false →
      choice.canceled = false →
      Leads sha256 dialect post
        ⟨⟨next (performClient sha256 choice op files).1,
          (performClient sha256 choice op files).2, inbox, sent, received⟩, server⟩) :
    Leads sha256 dialect post
      ⟨⟨.call op next, files, inbox, sent, received⟩, server⟩ := by
  refine .left fun choice faultFree => ⟨_, _,
    Endpoint.step_eq_some.mpr (.inner rfl (inner choice files)), ?_⟩
  rw [Endpoint.deliver_nil]
  exact leads choice faultFree.1 faultFree.2

theorem leads_clientSend {packet : Packet} {next : Bool → ClientProgram Bool}
    (leads : Leads sha256 dialect post
      ⟨⟨next true, files, inbox, sent ++ [packet], received⟩,
        server.deliver [packet]⟩) :
    Leads sha256 dialect post
      ⟨⟨.call (.send packet) next, files, inbox, sent, received⟩, server⟩ := by
  refine .left fun choice faultFree => ⟨_, _,
    Endpoint.step_eq_some.mpr (.sends rfl ?_), leads⟩
  rw [clientAct, faultFree.1]
  rfl

theorem leads_clientRecv {packet : Packet}
    {next : Option Packet → ClientProgram Bool}
    (leads : Leads sha256 dialect post
      ⟨⟨next (some packet), files, inbox, sent, received ++ [packet]⟩, server⟩) :
    Leads sha256 dialect post
      ⟨⟨.call .recv next, files, packet :: inbox, sent, received⟩, server⟩ := by
  refine .left fun choice faultFree => ?_
  have acts : clientAct sha256 choice .recv files =
      .receives fun packet => packet := by
    rw [clientAct, faultFree.1]
    rfl
  refine ⟨_, _, Endpoint.step_eq_some.mpr (.receives rfl acts rfl), ?_⟩
  rw [Endpoint.deliver_nil]
  exact leads

variable {fd offset : Nat} {name data : Bytes}

theorem leads_canceled {next : Bool → ClientProgram Bool}
    (leads : Leads sha256 dialect post
      ⟨⟨next false, files, inbox, sent, received⟩, server⟩) :
    Leads sha256 dialect post
      ⟨⟨.call .canceled next, files, inbox, sent, received⟩, server⟩ := by
  refine leads_client (fun _ _ => rfl) fun choice _ canceled => ?_
  rw [performClient, canceled]
  exact leads

theorem leads_clientFstat {next : Option UInt64 → ClientProgram Bool}
    (isOpen : files.IsOpen fd name data offset)
    (leads : Leads sha256 dialect post
      ⟨⟨next (some (UInt64.ofNat data.length)), files, inbox, sent, received⟩,
        server⟩) :
    Leads sha256 dialect post
      ⟨⟨.call (.fstat fd) next, files, inbox, sent, received⟩, server⟩ := by
  refine leads_client (fun _ _ => rfl) fun choice works _ => ?_
  rw [performClient, works, isOpen.bytes]
  exact leads

theorem leads_clientDigest
    {next : (ClientOp.digest fd).Answer → ClientProgram Bool}
    (isOpen : files.IsOpen fd name data offset)
    (leads : Leads sha256 dialect post
      ⟨⟨next (some (sha256 data)), files.seek fd data.length, inbox, sent,
        received⟩, server⟩) :
    Leads sha256 dialect post
      ⟨⟨.call (.digest fd) next, files, inbox, sent, received⟩, server⟩ := by
  refine leads_client (fun _ _ => rfl) fun choice works _ => ?_
  rw [performClient, works, isOpen.bytes]
  exact leads

theorem leads_clientLseek {position : UInt64} {next : Bool → ClientProgram Bool}
    (leads : Leads sha256 dialect post
      ⟨⟨next true, files.seek fd position.toNat, inbox, sent, received⟩,
        server⟩) :
    Leads sha256 dialect post
      ⟨⟨.call (.lseek fd position) next, files, inbox, sent, received⟩, server⟩ := by
  refine leads_client (fun _ _ => rfl) fun choice works _ => ?_
  rw [performClient, works]
  exact leads

theorem leads_clientFsync {next : Bool → ClientProgram Bool}
    (leads : Leads sha256 dialect post
      ⟨⟨next true, files, inbox, sent, received⟩, server⟩) :
    Leads sha256 dialect post
      ⟨⟨.call (.fsync fd) next, files, inbox, sent, received⟩, server⟩ := by
  refine leads_client (fun _ _ => rfl) fun choice works _ => ?_
  rw [performClient, works]
  exact leads

theorem leads_clientClose {next : Unit → ClientProgram Bool}
    (leads : Leads sha256 dialect post
      ⟨⟨next (), files.close fd, inbox, sent, received⟩, server⟩) :
    Leads sha256 dialect post
      ⟨⟨.call (.close fd) next, files, inbox, sent, received⟩, server⟩ :=
  leads_client (fun _ _ => rfl) fun _ _ _ => leads

/-- A `read` before the end of the file moves at least one byte. -/
theorem leads_clientRead {count : Nat}
    {next : (ClientOp.read fd count).Answer → ClientProgram Bool}
    (isOpen : files.IsOpen fd name data offset) (inside : offset < data.length)
    (positive : 0 < count)
    (leads : ∀ chunk : { chunk : Bytes // chunk.length ≤ count }, chunk.1 ≠ [] →
      chunk.1 <+: data.drop offset →
      Leads sha256 dialect post
        ⟨⟨next (some chunk), files.seek fd (offset + chunk.1.length), inbox, sent,
          received⟩, server⟩) :
    Leads sha256 dialect post
      ⟨⟨.call (.read fd count) next, files, inbox, sent, received⟩, server⟩ := by
  refine leads_client (fun _ _ => rfl) fun choice works _ => ?_
  simp only [performClient, works, isOpen.unread, isOpen.position]
  refine leads ⟨_, _⟩ ?_ (List.take_prefix _ _)
  rw [← List.length_pos_iff, List.length_take, List.length_drop]
  omega

theorem leads_taskSend {task : ClientTask} {type : CmdType} {status : StatusCode}
    {payload : Bytes} {rest : Bool → ClientProgram Bool}
    (fits : payload.length ≤ maxPacketPayload)
    (leads : Leads sha256 dialect post
      ⟨⟨rest true, files, inbox,
          sent ++ [Packet.init type status task.sessionId payload], received⟩,
        server.deliver [Packet.init type status task.sessionId payload]⟩) :
    Leads sha256 dialect post
      ⟨⟨task.taskSend type status payload >>= rest, files, inbox, sent, received⟩,
        server⟩ := by
  rw [ClientTask.taskSend]
  simp only [Prog.ask_bind, Prog.call_bind]
  refine leads_canceled ?_
  rw [if_neg Bool.false_ne_true, if_neg (by omega)]
  exact leads_clientSend leads

theorem leads_taskRecv {task : ClientTask} {packet : Packet}
    {rest : Option Packet → ClientProgram Bool}
    (ours : packet.sessionId = task.sessionId)
    (leads : Leads sha256 dialect post
      ⟨⟨rest (some packet), files, inbox, sent, received ++ [packet]⟩, server⟩) :
    Leads sha256 dialect post
      ⟨⟨task.taskRecv >>= rest, files, packet :: inbox, sent, received⟩,
        server⟩ := by
  rw [ClientTask.taskRecv]
  simp only [Prog.ask_bind, Prog.call_bind]
  refine leads_canceled ?_
  rw [if_neg Bool.false_ne_true]
  refine leads_clientRecv ?_
  dsimp only
  rw [if_neg (not_not.mpr ours)]
  exact leads

theorem leads_reportError {task : ClientTask} {status : StatusCode}
    {rest : Bool → ClientProgram Bool}
    (leads : Leads sha256 dialect post
      ⟨⟨rest false, files, inbox,
          sent ++ [Packet.init .error status task.sessionId []], received⟩,
        server.deliver [Packet.init .error status task.sessionId []]⟩) :
    Leads sha256 dialect post
      ⟨⟨task.reportError status >>= rest, files, inbox, sent, received⟩,
        server⟩ := by
  rw [ClientTask.reportError]
  simp only [Prog.ask_bind, Prog.call_bind]
  refine leads_canceled ?_
  rw [if_neg Bool.false_ne_true, Prog.bind_bind]
  exact leads_taskSend (by decide) leads

theorem leads_clientRename {source target : Bytes}
    {next : Bool → ClientProgram Bool} (present : files.names source ≠ none)
    (leads : Leads sha256 dialect post
      ⟨⟨next true, files.rename source target, inbox, sent, received⟩, server⟩) :
    Leads sha256 dialect post
      ⟨⟨.call (.rename source target) next, files, inbox, sent, received⟩,
        server⟩ := by
  refine leads_client (fun _ _ => rfl) fun choice works _ => ?_
  rw [performClient, works, if_neg (by simpa using present)]
  exact leads

/-- `write_n` at the end of a file appends. -/
theorem leads_clientWriteN {rest : Bool → ClientProgram Bool} {fuel : Nat}
    {new : Bytes} (enough : new.length ≤ fuel)
    (isOpen : files.IsOpen fd name data data.length)
    (leads : ∀ after : ClientFiles,
      after.IsOpen fd name (data ++ new) (data ++ new).length →
      (∀ other ≠ name, FileSystem.SameAt files after other) →
      Leads sha256 dialect post
        ⟨⟨rest true, after, inbox, sent, received⟩, server⟩) :
    Leads sha256 dialect post
      ⟨⟨ClientTask.writeN fd fuel new >>= rest, files, inbox, sent, received⟩,
        server⟩ := by
  induction fuel generalizing files data new with
  | zero =>
      rw [List.eq_nil_of_length_eq_zero (Nat.le_zero.mp enough)] at leads ⊢
      rw [List.append_nil] at leads
      exact leads files isOpen fun other _ => .refl files other
  | succ fuel inductionHypothesis =>
      cases new with
      | nil =>
          rw [List.append_nil] at leads
          exact leads files isOpen fun other _ => .refl files other
      | cons byte new =>
          rw [ClientTask.writeN]
          simp only [Prog.ask_bind, Prog.call_bind]
          refine leads_client (fun _ _ => rfl) fun choice works _ => ?_
          simp only [performClient, works, List.length_cons, Nat.zero_lt_succ,
            and_self, ↓reduceDIte, Nat.add_one_sub_one, List.take_succ_cons]
          generalize min choice.more new.length = more
          have written := isOpen.write rfl (byte :: new.take more)
          rw [← List.length_append] at written
          refine inductionHypothesis ?_ written fun after isAfter same => ?_
          · rw [List.length_cons] at enough
            rw [List.length_drop]
            omega
          · have whole : data ++ byte :: new.take more ++ new.drop more =
                data ++ byte :: new := by simp
            rw [whole] at isAfter
            exact leads after isAfter fun other different =>
              (isOpen.sameAt_write different _).trans (same other different)

end Client

section Server

variable {state : ServerState} {inbox sent received : List Packet}
  {client : ClientEnd}

theorem leads_serverSend {packet : Packet} {next : Bool → Handler Unit}
    (leads : Leads sha256 dialect post
      ⟨client.deliver [packet],
        ⟨next true, state, inbox, sent ++ [packet], received⟩⟩) :
    Leads sha256 dialect post
      ⟨client, ⟨.call (.send packet) next, state, inbox, sent, received⟩⟩ := by
  refine .right fun choice faultFree => ⟨_, _,
    Endpoint.step_eq_some.mpr (.sends rfl ?_), leads⟩
  rw [serverAct, faultFree.1]
  rfl

theorem leads_serverRecv {packet : Packet}
    {next : Option Packet → Handler Unit}
    (leads : Leads sha256 dialect post
      ⟨client,
        ⟨next (some packet), state, inbox, sent, received ++ [packet]⟩⟩) :
    Leads sha256 dialect post
      ⟨client, ⟨.call .recv next, state, packet :: inbox, sent, received⟩⟩ := by
  refine .right fun choice faultFree => ?_
  have acts : serverAct sha256 dialect choice .recv state =
      .receives fun packet => packet := by
    rw [serverAct, faultFree.1]
    rfl
  refine ⟨_, _, Endpoint.step_eq_some.mpr (.receives rfl acts rfl), ?_⟩
  rw [Endpoint.deliver_nil]
  exact leads

/-- A call of the server on its files. -/
theorem leads_stored {op : TaskOp} {next : op.Answer → Handler Unit}
    (inner : ∀ choice state, serverAct sha256 dialect choice op state =
      .inner (performStored sha256 choice op state.files).1
        { state with files := (performStored sha256 choice op state.files).2 })
    (leads : ∀ choice : ServerChoice, choice.fails = false →
      Leads sha256 dialect post
        ⟨client, ⟨next (performStored sha256 choice op state.files).1,
          { state with files := (performStored sha256 choice op state.files).2 },
          inbox, sent, received⟩⟩) :
    Leads sha256 dialect post
      ⟨client, ⟨.call op next, state, inbox, sent, received⟩⟩ := by
  refine .right fun choice faultFree => ⟨_, _,
    Endpoint.step_eq_some.mpr (.inner rfl (inner choice state)), ?_⟩
  rw [Endpoint.deliver_nil]
  exact leads choice faultFree.1

/-- A call of the server to a data access function. -/
theorem leads_dao {op : TaskOp} {next : op.Answer → Handler Unit}
    (inner : ∀ choice state, serverAct sha256 dialect choice op state =
      .inner (performTask dialect choice.toChoice op state.database).1
        { state with
          database :=
            (performTask dialect choice.toChoice op state.database).2 })
    (leads : ∀ choice : Choice, choice.FaultFree →
      Leads sha256 dialect post
        ⟨client, ⟨next (performTask dialect choice op state.database).1,
          { state with
            database := (performTask dialect choice op state.database).2 },
          inbox, sent, received⟩⟩) :
    Leads sha256 dialect post
      ⟨client, ⟨.call op next, state, inbox, sent, received⟩⟩ := by
  refine .right fun choice faultFree => ⟨_, _,
    Endpoint.step_eq_some.mpr (.inner rfl (inner choice state)), ?_⟩
  rw [Endpoint.deliver_nil]
  exact leads choice.toChoice faultFree.2

variable {fd offset : Nat} {name : StoredFile} {data : Bytes}

theorem leads_serverFstat {next : Option UInt64 → Handler Unit}
    (isOpen : state.files.IsOpen fd name data offset)
    (leads : Leads sha256 dialect post
      ⟨client, ⟨next (some (UInt64.ofNat data.length)), state, inbox, sent,
        received⟩⟩) :
    Leads sha256 dialect post
      ⟨client, ⟨.call (.fstat fd) next, state, inbox, sent, received⟩⟩ := by
  refine leads_stored (fun _ _ => rfl) fun choice works => ?_
  rw [performStored, works, isOpen.bytes]
  exact leads

theorem leads_serverLseek {position : UInt64} {next : Bool → Handler Unit}
    (leads : Leads sha256 dialect post
      ⟨client, ⟨next true,
        { state with files := state.files.seek fd position.toNat }, inbox, sent,
        received⟩⟩) :
    Leads sha256 dialect post
      ⟨client, ⟨.call (.lseek fd position) next, state, inbox, sent,
        received⟩⟩ := by
  refine leads_stored (fun _ _ => rfl) fun choice works => ?_
  rw [performStored, works]
  exact leads

theorem leads_serverClose {next : Unit → Handler Unit}
    (leads : Leads sha256 dialect post
      ⟨client, ⟨next (), { state with files := state.files.close fd }, inbox,
        sent, received⟩⟩) :
    Leads sha256 dialect post
      ⟨client, ⟨.call (.close fd) next, state, inbox, sent, received⟩⟩ :=
  leads_stored (fun _ _ => rfl) fun _ _ => leads

theorem leads_sendPacket {type : CmdType} {status : StatusCode}
    {sessionId : SessionId} {payload : Bytes} {rest : Bool → Handler Unit}
    (fits : payload.length ≤ maxPacketPayload)
    (leads : Leads sha256 dialect post
      ⟨client.deliver [Packet.init type status sessionId payload],
        ⟨rest true, state, inbox,
          sent ++ [Packet.init type status sessionId payload], received⟩⟩) :
    Leads sha256 dialect post
      ⟨client,
        ⟨HandlerTask.sendPacket type status sessionId payload >>= rest, state,
          inbox, sent, received⟩⟩ := by
  rw [HandlerTask.sendPacket, if_neg (by omega)]
  exact leads_serverSend leads

theorem leads_recvTransferPacket {task : TransferTask} {packet : Packet}
    {rest : Option Packet → Handler Unit}
    (ours : packet.sessionId = task.packet.sessionId)
    (leads : Leads sha256 dialect post
      ⟨client, ⟨rest (some packet), state, inbox, sent,
        received ++ [packet]⟩⟩) :
    Leads sha256 dialect post
      ⟨client, ⟨task.recvTransferPacket >>= rest, state, packet :: inbox, sent,
        received⟩⟩ := by
  rw [TransferTask.recvTransferPacket]
  simp only [Prog.ask_bind, Prog.call_bind]
  refine leads_serverRecv ?_
  dsimp only
  rw [if_neg (not_not.mpr ours)]
  exact leads

/-- `write_n` at the end of a file appends. -/
theorem leads_serverWriteN {rest : Bool → Handler Unit} {fuel : Nat} {new : Bytes}
    (enough : new.length ≤ fuel)
    (isOpen : state.files.IsOpen fd name data data.length)
    (leads : ∀ after : ServerFiles,
      after.IsOpen fd name (data ++ new) (data ++ new).length →
      Leads sha256 dialect post
        ⟨client, ⟨rest true, { state with files := after }, inbox, sent,
          received⟩⟩) :
    Leads sha256 dialect post
      ⟨client, ⟨TransferTask.writeN fd fuel new >>= rest, state, inbox, sent,
        received⟩⟩ := by
  induction fuel generalizing state data new with
  | zero =>
      rw [List.eq_nil_of_length_eq_zero (Nat.le_zero.mp enough)] at leads ⊢
      rw [List.append_nil] at leads
      exact leads state.files isOpen
  | succ fuel inductionHypothesis =>
      cases new with
      | nil =>
          rw [List.append_nil] at leads
          exact leads state.files isOpen
      | cons byte new =>
          rw [TransferTask.writeN]
          simp only [Prog.ask_bind, Prog.call_bind]
          refine leads_stored (fun _ _ => rfl) fun choice works => ?_
          simp only [performStored, works, List.length_cons, Nat.zero_lt_succ,
            and_self, ↓reduceDIte, Nat.add_one_sub_one, List.take_succ_cons]
          generalize min choice.more new.length = more
          have written := isOpen.write rfl (byte :: new.take more)
          rw [← List.length_append] at written
          refine inductionHypothesis ?_ written fun after isAfter => ?_
          · rw [List.length_cons] at enough
            rw [List.length_drop]
            omega
          · have whole : data ++ byte :: new.take more ++ new.drop more =
                data ++ byte :: new := by simp
            rw [whole] at isAfter
            exact leads after isAfter

end Server

end Transfer

end CloudDrive
