import CloudDrive.DaoAnswers
import CloudDrive.UploadReceiver

/-!
# Instant uploads

`handle_puts` links a content that is stored already and receives one that is not.
The database finds a stored content by the number that its digest denotes; the digest
of a received content is compared with the text of the request.
-/

namespace CloudDrive

open DbSession

section Insertions

/-- The columns of `paths` can hold a row, and its path is free. -/
structure Dialect.Takes (dialect : Dialect) (database : Database) (userId : UInt64)
    (path : Bytes) (parentId : UInt64) (fileName : Bytes) : Prop where
  user : userId.toNat < intLimit
  pathFits : dialect.varchar 768 path = true
  parent : parentId.toNat < bigintLimit
  nameFits : dialect.varchar 255 fileName = true
  next : database.counters.path < bigintLimit
  free : ∀ row ∈ database.tables.paths, dialect.samePath userId.toNat path row = false

variable {dialect : Dialect} {database : Database} {userId parentId : UInt64}
  {path fileName : Bytes}

theorem Dialect.Takes.of_same {other : Database}
    (takes : dialect.Takes database userId path parentId fileName)
    (paths : other.tables.paths = database.tables.paths)
    (counter : other.counters.path = database.counters.path) :
    dialect.Takes other userId path parentId fileName where
  user := takes.user
  pathFits := takes.pathFits
  parent := takes.parent
  nameFits := takes.nameFits
  next := counter ▸ takes.next
  free := paths ▸ takes.free

theorem Dialect.Takes.inserts
    (takes : dialect.Takes database userId path parentId fileName) {fileId : UInt64}
    (numbered : fileId.toNat < bigintLimit) :
    let row := database.newPath userId path (some fileId) (some parentId) fileName 0
    dialect.insertPath database userId.toNat path (some fileId.toNat)
      (some parentId.toNat) fileName 0 = .changed row.id (database.addPath row) := by
  have absent : database.tables.paths.any (dialect.samePath userId.toNat path) =
      false := by
    simpa using takes.free
  intro row
  rw [Dialect.insertPath]
  dsimp only
  rw [if_neg (by simp [takes.user, takes.pathFits, takes.parent, takes.nameFits, takes.next,
    numbered]), if_neg (by simp [absent])]
  simp [row, Database.newPath, Database.addPath]

theorem Dialect.insertPath_refused
    (refused : ¬dialect.Takes database userId path parentId fileName)
    (fileId : UInt64) :
    ∃ duplicate counters, dialect.insertPath database userId.toNat path
      (some fileId.toNat) (some parentId.toNat) fileName 0 =
        .failed duplicate counters := by
  rw [Dialect.insertPath]
  dsimp only
  split_ifs with unfit taken
  · exact ⟨_, _, rfl⟩
  · exact ⟨_, _, rfl⟩
  · refine absurd ?_ refused
    simp only [Option.all_some, Bool.not_eq_true', Bool.not_eq_false,
      Bool.and_eq_true, decide_eq_true_eq] at unfit
    obtain ⟨⟨⟨⟨⟨user, isPath⟩, -⟩, parent⟩, name⟩, next⟩ := unfit
    exact ⟨user, isPath, parent, name, next, by simpa using taken⟩

end Insertions

/-- The choice without its faults. -/
def ServerChoice.faultless (choice : ServerChoice) : ServerChoice :=
  { choice with
    faults := noFaults
    answer := Choice.ordinary.answer
    fails := false }

/-- The offset that a call tells the client. -/
def TaskOp.toldOffset : TaskOp → Option UInt64
  | .send packet =>
      if packet.type = CmdType.putsResp.code then some (netToHost packet.payload)
      else none
  | _ => none

/-- A server worker with its files and its database. -/
structure Serving extends Arrivals where
  database : Database

/-- A call of a worker without faults; its client answers an offset with packets. -/
def performServing (sha256 : Sha256) (dialect : Dialect)
    (client : UInt64 → List Packet) (choice : ServerChoice) (op : TaskOp)
    (state : Serving) : op.Answer × Serving :=
  if op.isDao then
    let (answer, database) :=
      performTask dialect choice.faultless.toChoice op state.database
    (answer, { state with database })
  else
    let (answer, arrivals) :=
      performArrivals sha256 choice.faultless op state.toArrivals
    (answer,
      { arrivals with
        database := state.database
        arriving := (op.toldOffset.map client).getD arrivals.arriving })

/-- A worker starts with nothing open. -/
def Serving.start (files : ServerFiles) (database : Database) : Serving where
  files := files.closeAll
  arriving := []
  examined := []
  responses := []
  verifying := false
  database := database

/-- The last response acknowledges the request. -/
def Serving.Acknowledged (state : Serving) (sessionId : SessionId) : Prop :=
  state.responses.getLast? = some (Packet.init .ack .ok sessionId [])

/-- One row was inserted for an upload, and it refers to the one file with the hash
and the size of the upload. -/
def Database.Records (before after : Database) (userId : UInt64)
    (target : UploadTarget) (hash : Bytes) : Prop :=
  ∃ row, after.tables.paths = before.tables.paths ++ [row] ∧
    row.userId = userId ∧ row.path = target.targetPath ∧
    ∃ file, (∀ other, other ∈ after.tables.files ∧ row.fileId = some other.id ↔
      other = file) ∧ file.hash = hash ∧ file.size = target.fileSize

namespace TransferTask

/-- What `handle_puts` leaves. -/
def serve (task : TransferTask) (sha256 : Sha256) (dialect : Dialect)
    (client : UInt64 → List Packet) (choices : Nat → ServerChoice)
    (files : ServerFiles) (database : Database) : Serving :=
  (task.handlePuts.eval (performServing sha256 dialect client) choices
    (.start files database)).2

/-- An accepted request announces the size of a content, and its digest as a
hexadecimal number. -/
structure Announces (task : TransferTask) (sha256 : Sha256) (target : UploadTarget)
    (content : Bytes) : Prop where
  accepted : task.uploadTarget = .ok target
  size : target.fileSize.toNat = content.length
  digest : unhex target.sha256Hex = some (sha256 content).1

/-- The sizes of the files and the lengths of their paths are in range. -/
structure HasRoom (task : TransferTask) (files : ServerFiles) (content : Bytes) :
    Prop where
  measurable : files.Measurable
  content : content.length < 2 ^ 63
  tempFits : task.transferTempDir.length + 1 + 64 + 5 < pathMax
  rootFits : task.storageRoot.length + 1 + 64 < pathMax

/-- The lookups of `handle_puts` find the parent of a destination and nothing under
its path, and a file can be numbered. -/
structure FreeIn (task : TransferTask) (dialect : Dialect) (target : UploadTarget)
    (parentId : UInt64) (database : Database) : Prop where
  schema : database.Schema
  parent : DbSession.call dialect
    (daoPathGetNodeId task.session.1.userId target.parentPath) noFaults database =
      ((.isDir, parentId), database)
  free : DbSession.call dialect
    (daoPathGetNodeId task.session.1.userId target.targetPath) noFaults database =
      ((.notFound, 0), database)
  counted : 0 < database.counters.file
  numbered : database.counters.file < bigintLimit

/-- A client answers an offset with the rest of its content in chunks. -/
def SentBy (task : TransferTask) (client : UInt64 → List Packet) (content : Bytes) :
    Prop :=
  ∀ offset : UInt64, offset.toNat < content.length →
    ∃ packets, CarryData task.packet.sessionId packets (content.drop offset.toNat) ∧
      client offset =
        packets ++ [Packet.init .fileEnd .ok task.packet.sessionId []]

/-- What an upload of a content makes of its temporary file. -/
def completed (files : ServerFiles) (sha256Hex content : Bytes) : Bytes :=
  let start := kept content ((files.content (.part sha256Hex)).getD [])
  start ++ content.drop start.length

section Rules

variable {sha256 : Sha256} {dialect : Dialect} {client : UInt64 → List Packet}
  {task : TransferTask} {state : Serving}

abbrev AlwaysServes {α : Type} (sha256 : Sha256) (dialect : Dialect)
    (client : UInt64 → List Packet) (program : Handler α) (state : Serving)
    (post : α → Serving → Prop) : Prop :=
  Prog.Always (performServing sha256 dialect client) program state post

theorem serves_dao {β : Type} {op : TaskOp} {rest : op.Answer → Handler β}
    {post : β → Serving → Prop} (isDao : op.isDao = true) {answer : op.Answer}
    {database : Database}
    (performs : ∀ choice : ServerChoice, performTask dialect choice.faultless.toChoice
      op state.database = (answer, database))
    (serves : AlwaysServes sha256 dialect client (rest answer)
      { state with database } post) :
    AlwaysServes sha256 dialect client (Prog.ask op >>= rest) state post := by
  refine .ask fun choice => ?_
  rw [performServing, if_pos isDao, performs]
  exact serves

/-- A program that receives does not touch the database. -/
theorem serves_of_receives {α : Type} {program : Handler α}
    {post : α → Arrivals → Prop} (receives : Receives program)
    (always : AlwaysReceives sha256 program state.toArrivals post) :
    AlwaysServes sha256 dialect client program state fun value after =>
      post value after.toArrivals ∧ after.database = state.database := by
  induction program generalizing state with
  | done value => exact ⟨always, rfl⟩
  | call op next inductionHypothesis =>
      intro choice
      obtain ⟨transfers, quiet⟩ := Bool.and_eq_true_iff.mp receives.1
      have isOther : op.isDao = false := by
        cases op <;> first | rfl | cases transfers
      have untold : op.toldOffset = none := by
        cases op with
        | send packet =>
            simp only [TaskOp.announces, Bool.not_eq_true', decide_eq_false_iff_not]
              at quiet
            exact if_neg quiet
        | _ => rfl
      rw [performServing, if_neg (by rw [isOther]; exact Bool.false_ne_true), untold]
      exact (inductionHypothesis _ (receives.2 _) (always choice.faultless)).mono
        fun _ _ holds => holds

/-- The calls on the files of the server. -/
theorem serves_stored {β : Type} {op : TaskOp} {rest : op.Answer → Handler β}
    {post : β → Serving → Prop}
    (plain : ∀ choice, performServing sha256 dialect client choice op state =
      ((performStored sha256 choice.faultless op state.files).1,
        { state with files := (performStored sha256 choice.faultless op state.files).2 }))
    (serves : ∀ choice : ServerChoice, AlwaysServes sha256 dialect client
      (rest (performStored sha256 choice.faultless op state.files).1)
      { state with files := (performStored sha256 choice.faultless op state.files).2 }
      post) :
    AlwaysServes sha256 dialect client (Prog.ask op >>= rest) state post := by
  refine .ask fun choice => ?_
  rw [plain]
  exact serves choice

theorem serves_reply {type : CmdType} (untold : type.code ≠ CmdType.putsResp.code)
    (status : StatusCode) :
    AlwaysServes sha256 dialect client (task.reply type status []) state
      fun _ after => after =
        { state with
          responses := state.responses ++
            [Packet.init type status task.packet.sessionId []] } := by
  have isOther (packet : Packet) : (TaskOp.send packet).isDao ≠ true :=
    Bool.false_ne_true
  have untoldPacket : (TaskOp.send
      (Packet.init type status task.packet.sessionId [])).toldOffset = none :=
    if_neg untold
  intro choice
  rw [performServing, if_neg (isOther _), untoldPacket]
  rfl

/-- An error response is no acknowledgement. -/
theorem serves_fail (status : StatusCode) :
    AlwaysServes sha256 dialect client (task.fail status) state fun _ after =>
      ¬after.Acknowledged task.packet.sessionId := by
  refine (serves_reply (by decide) status).mono ?_
  rintro _ _ rfl acknowledged
  rw [Serving.Acknowledged, List.getLast?_concat, Option.some.injEq] at acknowledged
  cases congrArg Packet.type acknowledged

theorem serves_ack :
    AlwaysServes sha256 dialect client (task.reply .ack .ok []) state fun _ after =>
      after.Acknowledged task.packet.sessionId ∧ after.database = state.database := by
  refine (serves_reply (by decide) .ok).mono ?_
  rintro _ _ rfl
  exact ⟨List.getLast?_concat, rfl⟩

/-- The client is told an offset and answers it. -/
theorem serves_sendPutsResume {β : Type} {rest : Bool → Handler β}
    {post : β → Serving → Prop} (offset : UInt64)
    (serves : AlwaysServes sha256 dialect client (rest true)
      { state with
        responses := state.responses ++
          [Packet.init .putsResp .ok task.packet.sessionId (hostToNet offset)]
        arriving := client offset } post) :
    AlwaysServes sha256 dialect client (task.sendPutsResume offset >>= rest) state
      post := by
  have fits : ¬maxPacketPayload < (hostToNet offset).length := by
    rw [length_hostToNet]
    decide
  rw [sendPutsResume, HandlerTask.sendPacket, if_neg fits]
  refine .ask fun choice => ?_
  rw [performServing, if_neg (by exact Bool.false_ne_true)]
  have told : (TaskOp.send (Packet.init .putsResp .ok task.packet.sessionId
      (hostToNet offset))).toldOffset = some offset := by
    rw [TaskOp.toldOffset, if_pos (by rfl)]
    exact congrArg some (netToHost_hostToNet offset)
  rw [told]
  exact serves

end Rules

section Receiving

variable {sha256 : Sha256} {dialect : Dialect} {client : UInt64 → List Packet}
  {task : TransferTask} {state : Serving} {fd : Nat} {name : StoredFile}
  {content start : Bytes}

/-- The packets that carry the missing data are all taken. -/
theorem takenBytes_carry {sessionId : SessionId} {packets rest : List Packet}
    {data : Bytes} (carry : CarryData sessionId packets data) :
    takenBytes sessionId data.length (packets ++ rest) = data := by
  induction packets generalizing data with
  | nil =>
      obtain rfl := carry.data
      cases rest with
      | nil => rfl
      | cons packet rest =>
          have taken := @takenData_of_not sessionId 0 packet rest not_isPiece_zero
          exact congrArg (List.flatMap Packet.payload) taken
  | cons packet packets inductionHypothesis =>
      obtain ⟨isData, nonempty, fits⟩ := carry.chunks packet List.mem_cons_self
      have carryRest : CarryData sessionId packets (packets.flatMap Packet.payload) :=
        ⟨fun other listed => carry.chunks other (List.mem_cons_of_mem _ listed), rfl⟩
      obtain rfl : packet.payload ++ packets.flatMap Packet.payload = data := carry.data
      have piece : IsPiece sessionId
          (packet.payload ++ packets.flatMap Packet.payload).length packet := by
        rw [List.length_append]
        refine ⟨by rw [isData]; rfl, by rw [isData]; rfl,
          List.length_pos_iff.mpr nonempty, fits, Nat.le_add_right _ _⟩
      rw [List.cons_append, takenBytes_of_piece piece, List.length_append,
        Nat.add_sub_cancel_left, inductionHypothesis carryRest]

theorem beginsWithUpload_carry {sessionId : SessionId} {packets : List Packet}
    {data : Bytes} (carry : CarryData sessionId packets data) :
    BeginsWithUpload sessionId data.length
      (packets ++ [Packet.init .fileEnd .ok sessionId []]) := by
  refine ⟨packets, Packet.init .fileEnd .ok sessionId [], [], rfl, ?_, carry.length, rfl,
    rfl⟩
  intro packet listed
  obtain ⟨isData, nonempty, fits⟩ := carry.chunks packet listed
  exact ⟨by rw [isData]; rfl, by rw [isData]; rfl, List.length_pos_iff.mpr nonempty,
    fits⟩

/-- The missing bytes of the temporary file arrive. -/
theorem serves_receiveFile (sent : task.SentBy client content) {offset fileSize : UInt64}
    {position : Nat} (isOpen : state.files.IsOpen fd name start position)
    (isOffset : offset.toNat = start.length) (isSize : fileSize.toNat = content.length)
    (inside : start.length ≤ content.length) (answered : state.arriving = client offset) :
    AlwaysServes sha256 dialect client (task.receiveFile fd offset fileSize) state
      fun step after => step = .goesOn ∧ after.database = state.database ∧
        ∃ position, after.files.IsOpen fd name (start ++ content.drop start.length)
          position := by
  by_cases whole : start.length = content.length
  · have isWhole : fileSize ≤ offset := by
      rw [UInt64.le_iff_toNat_le, isOffset, isSize]
      omega
    rw [receiveFile, if_pos isWhole, whole, List.drop_length, List.append_nil]
    exact ⟨rfl, rfl, position, isOpen⟩
  · have isMissing : offset < fileSize := by
      rw [UInt64.lt_iff_toNat_lt, isOffset, isSize]
      omega
    obtain ⟨packets, carry, arrives⟩ := sent offset (by omega)
    rw [isOffset] at carry
    have missing : (fileSize - offset).toNat = (content.drop start.length).length := by
      rw [UInt64.toNat_sub_of_le _ _ (UInt64.le_of_lt isMissing), isSize, isOffset,
        List.length_drop]
    have sought : (state.files.seek fd offset.toNat).IsOpen fd name start
        start.length := by
      rw [isOffset]
      exact isOpen.seek start.length
    have receives : AlwaysReceives sha256 (task.receiveFile fd offset fileSize)
        state.toArrivals (Received task.packet.sessionId fd name
          { state.toArrivals with files := state.files.seek fd offset.toNat } start
          (content.drop start.length).length) := by
      rw [receiveFile_eq task fd isMissing, missing]
      exact fun choice => receives_rest (Nat.le_refl _) sought
    refine (serves_of_receives (task.receiving_receiveFile fd offset fileSize)
      receives).mono ?_
    rintro step after ⟨⟨verdict, -, holds, -⟩, kept⟩
    dsimp only at verdict holds
    rw [answered, arrives] at verdict holds
    rw [takenBytes_carry carry] at holds
    exact ⟨verdict.mpr (beginsWithUpload_carry carry), kept, _, holds⟩

/-- The temporary file is resumed and completed. -/
theorem serves_openPart (sent : task.SentBy client content) {target : UploadTarget}
    {part : Bytes} (isOpen : state.files.IsOpen fd name part 0)
    (isSize : target.fileSize.toNat = content.length)
    (measurable : part.length < 2 ^ 63) :
    AlwaysServes sha256 dialect client (task.openPart target fd) state
      fun step after => step = .goesOn ∧ after.database = state.database ∧
        ∃ position, after.files.IsOpen fd name
          (kept content part ++ content.drop (kept content part).length) position := by
  have isLength := toNat_fileSize measurable
  have tooLong : target.fileSize < UInt64.ofNat part.length ↔
      content.length < part.length := by
    rw [UInt64.lt_iff_toNat_lt, isSize, isLength]
  rw [openPart]
  refine serves_stored (fun _ => rfl) fun choice => ?_
  simp only [performStored, ServerChoice.faultless, Bool.false_eq_true, ↓reduceIte,
    isOpen.bytes, Option.map_some]
  by_cases long : content.length < part.length
  · rw [if_pos (tooLong.mpr long), kept, if_pos long]
    refine serves_stored (fun _ => rfl) fun choice => ?_
    simp only [performStored, ServerChoice.faultless, Bool.false_eq_true, ↓reduceIte]
    rw [if_neg (by decide)]
    apply serves_sendPutsResume
    rw [if_neg (by decide)]
    exact serves_receiveFile sent isOpen.truncate rfl isSize (Nat.zero_le _) rfl
  · rw [if_neg fun cut => long (tooLong.mp cut), kept_of_not_lt long]
    apply serves_sendPutsResume
    rw [if_neg (by decide)]
    exact serves_receiveFile sent isOpen isLength isSize (not_lt.mp long) rfl

theorem serves_digestPart {data : Bytes} {position : Nat}
    (isOpen : state.files.IsOpen fd name data position) :
    AlwaysServes sha256 dialect client (digestPart fd) state fun digest after =>
      digest = some (sha256 data) ∧ after.database = state.database ∧
        after.files.content name = some data := by
  have isSynced (choice : ServerChoice) :
      performServing sha256 dialect client choice (.fsync fd) state =
        (true, { state with verifying := true }) := rfl
  rw [digestPart]
  refine .ask fun choice => ?_
  rw [isSynced]
  dsimp only
  rw [if_neg (by decide)]
  refine serves_stored (fun _ => rfl) fun choice => ?_
  simp only [performStored, ServerChoice.faultless, Bool.false_eq_true, ↓reduceIte]
  rw [if_neg (by decide)]
  intro choice
  have isDigest : (performServing sha256 dialect client choice (.digest fd)
      { state with verifying := true, files := state.files.seek fd 0 }).1 =
      some (sha256 data) := by
    change ((state.files.seek fd 0).bytes fd).map sha256 = some (sha256 data)
    rw [(isOpen.seek 0).bytes]
    rfl
  exact ⟨isDigest, rfl, isOpen.content⟩

end Receiving

section Storing

variable {dialect : Dialect} {database : Database}

theorem insertFile_new {hash : Bytes} {fileSize : UInt64}
    (unknown : ∀ file ∈ database.tables.files, file.hash ≠ hash)
    (small : fileSize.toNat < bigintLimit)
    (numbered : database.counters.file < bigintLimit) :
    let file : FileRow := ⟨UInt64.ofNat database.counters.file, hash, fileSize, 1⟩
    insertFile database hash fileSize.toNat =
      .changed file.id (database.addFile file) := by
  have absent : database.tables.files.find? (fun file => file.hash = hash) = none := by
    simpa using unknown
  intro file
  rw [insertFile]
  dsimp only
  rw [if_neg (by simp [small, numbered]), absent]
  simp [file, Database.addFile]

theorem execute_incrementRefs {fileId : UInt64}
    (fits : ∀ file ∈ database.tables.files, file.id = fileId →
      file.refs + 1 < intLimit) :
    dialect.execute database .incrementRefs [.number fileId.toNat] =
      .changed 0 (database.addReference fileId) := by
  have counted (file : FileRow) :
      (if file.id = fileId then { file with refs := file.refs + 1 } else file) =
      { file with refs := if file.id = fileId then file.refs + 1 else file.refs } := by
    split_ifs <;> rfl
  have inRange : (database.tables.files.all fun row =>
      !decide (row.id.toNat = fileId.toNat) || decide (row.refs + 1 < intLimit)) =
      true := by
    rw [List.all_eq_true]
    intro file listed
    by_cases same : file.id = fileId
    · simp [fits file listed same]
    · simp [UInt64.toNat_inj, same]
  rw [Dialect.execute, updateRefs, if_pos inRange]
  simp [Database.addReference, Database.mapRefs, UInt64.toNat_inj, counted]

theorem addReference_records (schema : database.Schema) {file : FileRow}
    (listed : file ∈ database.tables.files) (userId parentId : UInt64)
    {target : UploadTarget} (isSize : file.size = target.fileSize) :
    database.Records ((database.addReference file.id).addPath
      (database.newPath userId target.targetPath (some file.id) (some parentId)
        target.fileName 0)) userId target file.hash := by
  refine ⟨_, rfl, rfl, rfl, { file with refs := file.refs + 1 }, ?_, rfl, isSize⟩
  intro other
  have unique (first : FileRow) (inside : first ∈ database.tables.files)
      (same : first.id = file.id) : first = file :=
    List.inj_on_of_nodup_map schema.file_ids inside listed same
  constructor
  · rintro ⟨inside, same⟩
    obtain ⟨former, wasListed, rfl⟩ := List.mem_map.mp inside
    obtain rfl := unique former wasListed (Option.some.inj same).symm
    dsimp only
    rw [if_pos rfl]
  · rintro rfl
    refine ⟨List.mem_map.mpr ⟨file, listed, ?_⟩, rfl⟩
    dsimp only
    rw [if_pos rfl]

theorem addFile_records (schema : database.Schema) {file : FileRow}
    (new : file.id.toNat = database.counters.file) (userId parentId : UInt64)
    {target : UploadTarget} (isSize : file.size = target.fileSize) :
    database.Records ((database.addFile file).addPath
      (database.newPath userId target.targetPath (some file.id) (some parentId)
        target.fileName 0)) userId target file.hash := by
  refine ⟨_, rfl, rfl, rfl, file, ?_, rfl, isSize⟩
  intro other
  constructor
  · rintro ⟨inside, same⟩
    rcases List.mem_append.mp inside with wasListed | isNew
    · have below := schema.file_below other wasListed
      rw [← Option.some.inj same, new] at below
      exact absurd below (Nat.lt_irrefl _)
    · exact List.mem_singleton.mp isNew
  · rintro rfl
    exact ⟨List.mem_append_right _ (List.mem_singleton_self _), rfl⟩

end Storing

section Outcomes

variable {sha256 : Sha256} {dialect : Dialect} {client : UInt64 → List Packet}
  {task : TransferTask} {target : UploadTarget} {parentId : UInt64} {state : Serving}
  {database : Database} {hash : Bytes}
  (accepted : task.uploadTarget = .ok target)
  (free : task.FreeIn dialect target parentId database)
  (current : state.database = database)

/-- The upload ends with an acknowledgement under a condition, and then it is
recorded. -/
abbrev EndsIf (task : TransferTask) (target : UploadTarget) (hash : Bytes)
    (database : Database) (condition : Prop) (after : Serving) : Prop :=
  (after.Acknowledged task.packet.sessionId ↔ condition) ∧
    (after.Acknowledged task.packet.sessionId →
      database.Records after.database task.session.1.userId target hash)

theorem serves_fail_endsIf (status : StatusCode)
    {condition : Prop} (unmet : ¬condition) :
    AlwaysServes sha256 dialect client (task.fail status) state fun _ after =>
      task.EndsIf target hash database condition after :=
  (serves_fail status).mono fun _ _ refused =>
    ⟨iff_of_false refused unmet, fun acknowledged => absurd acknowledged refused⟩

theorem serves_ack_endsIf {condition : Prop} (met : condition)
    (records : database.Records state.database task.session.1.userId target hash) :
    AlwaysServes sha256 dialect client (task.reply .ack .ok []) state fun _ after =>
      task.EndsIf target hash database condition after :=
  serves_ack.mono fun _ _ ⟨acknowledged, same⟩ =>
    ⟨iff_of_true acknowledged met, fun _ => same ▸ records⟩

include accepted free current

theorem serves_linkFile {file : FileRow} (listed : file ∈ database.tables.files)
    (isSize : file.size = target.fileSize) (countable : file.refs + 1 < intLimit) :
    AlwaysServes sha256 dialect client (task.linkFile target parentId file.id) state
      fun _ after => task.EndsIf target file.hash database
        (dialect.Takes database task.session.1.userId target.targetPath parentId
          target.fileName) after := by
  subst current
  obtain ⟨pathShort, nameShort, -⟩ := uploadTarget_fits accepted
  have counts := @execute_incrementRefs dialect state.database file.id
    fun other inside same => by
      rwa [List.inj_on_of_nodup_map free.schema.file_ids inside listed same]
  rw [linkFile]
  by_cases takes : dialect.Takes state.database task.session.1.userId
      target.targetPath parentId target.fileName
  · have takesNow : dialect.Takes (state.database.addReference file.id)
        task.session.1.userId target.targetPath parentId target.fileName :=
      takes.of_same rfl rfl
    have works := daoLinkExistingFile_works pathShort nameShort counts
      (takesNow.inserts ((free.schema.file_below file listed).trans free.numbered))
    refine serves_dao rfl (fun _ => works) ?_
    rw [if_neg (not_not.mpr rfl)]
    apply serves_sendPutsResume
    rw [if_neg (by decide)]
    exact serves_ack_endsIf takes (addReference_records free.schema listed _ _ isSize)
  · have refusesNow : ¬dialect.Takes (state.database.addReference file.id)
        task.session.1.userId target.targetPath parentId target.fileName :=
      fun takesNow => takes (takesNow.of_same rfl rfl)
    obtain ⟨duplicate, counters, refused⟩ :=
      Dialect.insertPath_refused refusesNow file.id
    obtain ⟨after, fails⟩ :=
      daoLinkExistingFile_refused pathShort nameShort counts refused
    refine serves_dao rfl (fun _ => fails) ?_
    rw [if_pos (show (-1 : Int) ≠ 0 by decide)]
    exact serves_fail_endsIf _ takes

theorem serves_createFile (isHash : unhex target.sha256Hex = some hash)
    (unknown : ∀ file ∈ database.tables.files, file.hash ≠ hash)
    (small : target.fileSize.toNat < bigintLimit) :
    AlwaysServes sha256 dialect client (task.createFile target parentId) state
      fun _ after => task.EndsIf target hash database
        (dialect.Takes database task.session.1.userId target.targetPath parentId
          target.fileName) after := by
  subst current
  obtain ⟨pathShort, nameShort, valid⟩ := uploadTarget_fits accepted
  obtain ⟨safe, short⟩ := isValidSha256Hex.safe valid
  have stores := insertFile_new unknown small free.numbered
  have isNumber : (UInt64.ofNat state.database.counters.file).toNat =
      state.database.counters.file :=
    UInt64.toNat_ofNat_of_lt' (free.numbered.trans (by decide))
  have notZero : UInt64.ofNat state.database.counters.file ≠ 0 := by
    intro isZero
    have counted := free.counted
    rw [← isNumber, isZero] at counted
    exact absurd counted (Nat.lt_irrefl _)
  rw [createFile]
  by_cases takes : dialect.Takes state.database task.session.1.userId
      target.targetPath parentId target.fileName
  · have takesNow : dialect.Takes (state.database.addFile
        ⟨UInt64.ofNat state.database.counters.file, hash, target.fileSize, 1⟩)
        task.session.1.userId target.targetPath parentId target.fileName :=
      takes.of_same rfl rfl
    have works := daoCreateFileWithPath_works pathShort nameShort safe short isHash
      notZero stores (takesNow.inserts (by rw [isNumber]; exact free.numbered))
    refine serves_dao rfl (fun _ => works) ?_
    rw [if_neg (not_not.mpr rfl)]
    exact serves_ack_endsIf takes (addFile_records free.schema isNumber _ _ rfl)
  · have refusesNow : ¬dialect.Takes (state.database.addFile
        ⟨UInt64.ofNat state.database.counters.file, hash, target.fileSize, 1⟩)
        task.session.1.userId target.targetPath parentId target.fileName :=
      fun takesNow => takes (takesNow.of_same rfl rfl)
    obtain ⟨duplicate, counters, refused⟩ := Dialect.insertPath_refused refusesNow
      (UInt64.ofNat state.database.counters.file)
    obtain ⟨after, fails⟩ := daoCreateFileWithPath_refused pathShort nameShort safe
      short isHash notZero stores refused
    refine serves_dao rfl (fun _ => fails) ?_
    rw [if_pos (show (-1 : Int) ≠ 0 by decide)]
    exact serves_fail_endsIf _ takes

/-- A completed temporary file is compared with the digest of the request. -/
theorem serves_afterPart {fd position : Nat} {data : Bytes}
    (isOpen : state.files.IsOpen fd (.part target.sha256Hex) data position)
    (isHash : unhex target.sha256Hex = some hash)
    (unknown : ∀ file ∈ database.tables.files, file.hash ≠ hash)
    (small : target.fileSize.toNat < bigintLimit) :
    AlwaysServes sha256 dialect client (task.afterPart target parentId fd .goesOn) state
      fun _ after => task.EndsIf target hash database
        (dialect.Takes database task.session.1.userId target.targetPath parentId
          target.fileName ∧ (sha256 data).1 = target.sha256Hex) after := by
  subst current
  rw [afterPart]
  refine (serves_digestPart isOpen).bind ?_
  rintro _ after ⟨rfl, same, holds⟩
  refine serves_stored (fun _ => rfl) fun choice => ?_
  simp only [performStored]
  have present : (after.files.close fd).names (.part target.sha256Hex) ≠ none :=
    FileSystem.names_ne_none holds
  by_cases isDigest : (sha256 data).1 = target.sha256Hex
  · rw [if_neg (not_not.mpr isDigest), publishPart]
    simp only [Prog.bind_bind]
    refine serves_stored (fun _ => rfl) fun choice => ?_
    simp only [performStored, ServerChoice.faultless, Bool.false_eq_true, present,
      or_false, ↓reduceIte, Prog.pure_eq, Prog.done_bind]
    rw [if_neg (by decide)]
    refine (serves_createFile accepted free (by exact same) isHash unknown small).mono ?_
    rintro _ after ⟨ends, records⟩
    exact ⟨ends.trans (and_iff_left isDigest).symm, records⟩
  · rw [if_pos isDigest]
    refine serves_stored (fun _ => rfl) fun choice => ?_
    exact serves_fail_endsIf _ fun ends => isDigest ends.2

end Outcomes

section Paths

variable {sha256 : Sha256} {dialect : Dialect} {client : UInt64 → List Packet}
  {task : TransferTask} {target : UploadTarget} {content : Bytes} {files : ServerFiles}
  {parentId : UInt64} {database : Database}
  (announces : task.Announces sha256 target content)
  (free : task.FreeIn dialect target parentId database)

include announces free

/-- The lookups of the destination and of the content. -/
theorem serves_handlePuts {post : Unit → Serving → Prop} {found : Int}
    {fileId : UInt64}
    (finds : DbSession.call dialect
      (daoFileFindByHash target.sha256Hex target.fileSize) noFaults database =
        ((found, fileId), database))
    (works : ¬found < 0)
    (serves : AlwaysServes sha256 dialect client
      (if found = 1 then task.linkFile target parentId fileId
        else task.uploadFile target parentId) (.start files database) post) :
    AlwaysServes sha256 dialect client task.handlePuts (.start files database) post := by
  rw [handlePuts, announces.accepted]
  refine serves_dao rfl (fun _ => free.parent) ?_
  refine serves_dao rfl (fun _ => free.free) ?_
  refine serves_dao rfl (fun _ => finds) ?_
  dsimp only
  rw [if_neg works]
  exact serves

theorem handlePuts_known {file : FileRow} (listed : file ∈ database.tables.files)
    (isHash : file.hash = (sha256 content).1) (isSize : file.size = target.fileSize)
    (countable : file.refs + 1 < intLimit) :
    AlwaysServes sha256 dialect client task.handlePuts (.start files database)
      fun _ after => task.EndsIf target (sha256 content).1 database
        (dialect.Takes database task.session.1.userId target.targetPath parentId
          target.fileName) after := by
  obtain ⟨-, -, valid⟩ := uploadTarget_fits announces.accepted
  obtain ⟨safe, short⟩ := isValidSha256Hex.safe valid
  have found : database.tables.files.filter (fun row =>
      unhex target.sha256Hex = some row.hash &&
        row.size.toNat = target.fileSize.toNat) = [file] := by
    have isFile (row : FileRow) (inside : row ∈ database.tables.files) :
        (unhex target.sha256Hex = some row.hash &&
          row.size.toNat = target.fileSize.toNat : Bool) = (row == file) := by
      rw [announces.digest, ← isHash, ← isSize, Bool.eq_iff_iff]
      simp only [Bool.and_eq_true, decide_eq_true_eq, Option.some.injEq, beq_iff_eq]
      constructor
      · rintro ⟨same, -⟩
        exact List.inj_on_of_nodup_map free.schema.hashes inside listed same.symm
      · rintro rfl
        exact ⟨rfl, rfl⟩
    rw [List.filter_congr isFile, List.filter_beq,
      List.count_eq_one_of_mem (List.Nodup.of_map _ free.schema.hashes) listed]
    rfl
  have finds : DbSession.call dialect
      (daoFileFindByHash target.sha256Hex target.fileSize) noFaults database =
        ((1, file.id), database) := by
    apply daoFileFindByHash_present
    rw [dialect.run_selectByHash safe short, Dialect.execute, found]
    rfl
  refine serves_handlePuts announces free finds (by decide) ?_
  rw [if_pos rfl, ← isHash]
  exact serves_linkFile announces.accepted free rfl listed isSize countable

theorem handlePuts_unknown (room : task.HasRoom files content)
    (sent : task.SentBy client content)
    (unknown : ∀ file ∈ database.tables.files, file.hash ≠ (sha256 content).1) :
    AlwaysServes sha256 dialect client task.handlePuts (.start files database)
      fun _ after => task.EndsIf target (sha256 content).1 database
        (dialect.Takes database task.session.1.userId target.targetPath parentId
          target.fileName ∧
          (sha256 (completed files target.sha256Hex content)).1 = target.sha256Hex)
        after := by
  obtain ⟨-, -, valid⟩ := uploadTarget_fits announces.accepted
  obtain ⟨safe, short⟩ := isValidSha256Hex.safe valid
  have finds : DbSession.call dialect
      (daoFileFindByHash target.sha256Hex target.fileSize) noFaults database =
        ((0, 0), database) := by
    apply daoFileFindByHash_absent
    have absent : database.tables.files.filter (fun row =>
        unhex target.sha256Hex = some row.hash &&
          row.size.toNat = target.fileSize.toNat) = [] := by
      rw [List.filter_eq_nil_iff]
      intro row inside isRow
      rw [announces.digest, Bool.and_eq_true, decide_eq_true_eq] at isRow
      exact unknown row inside (Option.some.inj isRow.1).symm
    rw [dialect.run_selectByHash safe short, Dialect.execute, absent]
    rfl
  refine serves_handlePuts announces free finds (by decide) ?_
  have length : target.sha256Hex.length = 64 := by
    have digits := valid
    simp only [isValidSha256Hex, Bool.and_eq_true, decide_eq_true_eq] at digits
    exact digits.1
  have fits : ¬(pathMax ≤ task.transferTempDir.length + 1 + target.sha256Hex.length + 5 ∨
      pathMax ≤ task.storageRoot.length + 1 + target.sha256Hex.length) := by
    rw [length, not_or, not_le, not_le]
    exact ⟨room.tempFits, room.rootFits⟩
  rw [if_neg (by decide), uploadFile, if_neg fits]
  refine serves_stored (fun _ => rfl) fun choice => ?_
  simp only [performStored, openStored, ServerChoice.faultless, Serving.start,
    FileSystem.descriptors_closeAll, ne_eq, not_true_eq_false, or_false,
    Bool.false_eq_true, ↓reduceIte]
  refine (serves_openPart sent FileSystem.isOpen_openOrCreate announces.size
    (room.measurable.getD _)).bind ?_
  rintro _ after ⟨rfl, same, position, isOpen⟩
  refine serves_afterPart announces.accepted free same isOpen announces.digest unknown ?_
  rw [announces.size]
  exact room.content

end Paths

/-- Whether an upload is acknowledged does not depend on whether its content is stored
already, and both ways end with the same record, if and only if the digest of the
request is written as the server writes it and the temporary file is completed to a
content with it, unless the database refuses the path. -/
theorem instant_upload_agrees_iff {sha256 : Sha256} {dialect : Dialect}
    {client : UInt64 → List Packet} {task : TransferTask} {target : UploadTarget}
    {content : Bytes} {files : ServerFiles} {parentId : UInt64}
    {fresh stored : Database} (announces : task.Announces sha256 target content)
    (room : task.HasRoom files content) (sent : task.SentBy client content)
    (freeFresh : task.FreeIn dialect target parentId fresh)
    (freeStored : task.FreeIn dialect target parentId stored)
    (samePaths : stored.tables.paths = fresh.tables.paths)
    (sameCounters : stored.counters = fresh.counters)
    (unknown : ∀ file ∈ fresh.tables.files, file.hash ≠ (sha256 content).1)
    (known : ∃ file ∈ stored.tables.files, file.hash = (sha256 content).1 ∧
      file.size = target.fileSize ∧ file.refs + 1 < intLimit) :
    (∀ slowChoices fastChoices,
      let slow := task.serve sha256 dialect client slowChoices files fresh
      let fast := task.serve sha256 dialect client fastChoices files stored
      (fast.Acknowledged task.packet.sessionId ↔
        slow.Acknowledged task.packet.sessionId) ∧
      (fast.Acknowledged task.packet.sessionId → stored.Records fast.database
        task.session.1.userId target (sha256 content).1) ∧
      (slow.Acknowledged task.packet.sessionId → fresh.Records slow.database
        task.session.1.userId target (sha256 content).1)) ↔
    (dialect.Takes fresh task.session.1.userId target.targetPath parentId
        target.fileName →
      target.sha256Hex = (sha256 content).1 ∧
        sha256 (completed files target.sha256Hex content) = sha256 content) := by
  obtain ⟨file, listed, isHash, isSize, countable⟩ := known
  have slowEnds (choices : Nat → ServerChoice) :=
    (handlePuts_unknown announces freeFresh room sent unknown).eval choices
  have fastEnds (choices : Nat → ServerChoice) :=
    (@handlePuts_known sha256 dialect client task target content files parentId stored
      announces freeStored file listed isHash isSize countable).eval choices
  have takesBoth : dialect.Takes stored task.session.1.userId target.targetPath parentId
      target.fileName ↔ dialect.Takes fresh task.session.1.userId target.targetPath
        parentId target.fileName :=
    ⟨fun takes => takes.of_same samePaths.symm (by rw [sameCounters]),
      fun takes => takes.of_same samePaths (by rw [sameCounters])⟩
  have spelled : (sha256 (completed files target.sha256Hex content)).1 =
      target.sha256Hex ↔ target.sha256Hex = (sha256 content).1 ∧
        sha256 (completed files target.sha256Hex content) = sha256 content := by
    constructor
    · intro isDigest
      have same : target.sha256Hex = (sha256 content).1 := by
        have digits : unhex target.sha256Hex = some target.sha256Hex := by
          rw [← isDigest]
          exact (sha256 _).2
        exact Option.some.inj (digits.symm.trans announces.digest)
      exact ⟨same, Subtype.ext (isDigest.trans same)⟩
    · rintro ⟨same, isDigest⟩
      rw [isDigest, same]
  rw [← spelled]
  constructor
  · intro agrees takes
    obtain ⟨acknowledged, -⟩ :=
      agrees (fun _ => .ordinary) fun _ => .ordinary
    have isFast := (fastEnds fun _ => .ordinary).1.mpr (takesBoth.mpr takes)
    exact ((slowEnds fun _ => .ordinary).1.mp (acknowledged.mp isFast)).2
  · intro condition slowChoices fastChoices
    obtain ⟨slowIff, slowRecords⟩ := slowEnds slowChoices
    obtain ⟨fastIff, fastRecords⟩ := fastEnds fastChoices
    refine ⟨?_, fastRecords, slowRecords⟩
    rw [serve, serve, fastIff, slowIff, takesBoth]
    exact ⟨fun takes => ⟨takes, condition takes⟩, And.left⟩

/-- Every content has the same digest. -/
def sameDigest : Sha256 := fun _ => ⟨List.replicate 64 98, isDigest_replicate⟩

/-- An upload of three bytes with a digest of 64 equal digits. -/
def uploadOf (digit : UInt8) : TransferTask :=
  { requestingTask with
    packet := ⟨0, 0, .empty,
      padTo 4096 (ascii "/g") ++ hostToNet 3 ++ padTo 72 (List.replicate 64 digit)⟩ }

def targetOf (digit : UInt8) : UploadTarget :=
  ⟨ascii "/g", ascii "/", ascii "g", 3, List.replicate 64 digit⟩

/-- User 1 has nothing but a root. -/
def rootWith (files : List FileRow) : Database where
  tables :=
    { users := []
      files := files
      paths := [⟨1, 1, ascii "/", none, none, ascii "/", 1⟩] }
  counters := ⟨2, 2, 2⟩

def storedFile : FileRow := ⟨1, List.replicate 64 98, 3, 1⟩

/-- The client has three bytes and sends what is missing in one packet. -/
def sendRest (offset : UInt64) : List Packet :=
  [Packet.init .fileData .ok .empty ([1, 2, 3].drop offset.toNat),
    Packet.init .fileEnd .ok .empty []]

theorem sentBy_sendRest (digit : UInt8) :
    (uploadOf digit).SentBy sendRest [1, 2, 3] := by
  intro offset inside
  refine ⟨[Packet.init .fileData .ok .empty ([1, 2, 3].drop offset.toNat)], ⟨?_, ?_⟩,
    rfl⟩
  · rintro packet listed
    obtain rfl := List.mem_singleton.mp listed
    refine ⟨rfl, List.ne_nil_of_length_pos ?_, ?_⟩
    · change 0 < (List.drop offset.toNat [1, 2, 3]).length
      rw [List.length_drop]
      exact Nat.sub_pos_of_lt inside
    · change (List.drop offset.toNat [1, 2, 3]).length ≤ fileChunkSize
      rw [List.length_drop]
      exact (Nat.sub_le _ _).trans (by decide)
  · exact List.append_nil _

theorem schema_rootWith {files : List FileRow}
    (listed : files.Sublist [storedFile]) :
    (rootWith files).Schema where
  path_ids := List.nodup_singleton _
  path_below := fun row inside => by
    rw [List.mem_singleton.mp inside]
    exact Nat.lt_add_one 1
  types := fun row inside => by
    rw [List.mem_singleton.mp inside]
  file_ids := (listed.map _).nodup (by decide +kernel)
  file_below := fun file inside => by
    rw [List.mem_singleton.mp (listed.subset inside)]
    exact Nat.lt_add_one 1
  hashes := (listed.map _).nodup (by decide +kernel)
  stored := fun file inside => by
    rw [List.mem_singleton.mp (listed.subset inside)]
    exact ⟨List.replicate 64 98, by decide +kernel⟩
  counts := fun file inside => by
    rw [List.mem_singleton.mp (listed.subset inside)]
    decide +kernel

theorem hasRoom_nothing (digit : UInt8) :
    (uploadOf digit).HasRoom (FileSystem.single (.object []) []) [1, 2, 3] where
  measurable := FileSystem.measurable_single (by decide)
  content := by decide
  tempFits := show (ascii "temp").length + 1 + 64 + 5 < pathMax by decide +kernel
  rootFits := show (ascii "storage").length + 1 + 64 < pathMax by decide +kernel

instance (state : Serving) (sessionId : SessionId) :
    Decidable (state.Acknowledged sessionId) :=
  inferInstanceAs (Decidable (_ = _))

/-- An upload of three bytes under a digest in lower or upper case, where the content
is stored or not. -/
def serveUpload (digit : UInt8) (files : List FileRow) : Serving :=
  (uploadOf digit).serve sameDigest .plain sendRest (fun _ => .ordinary)
    (FileSystem.single (.object []) []) (rootWith files)

set_option maxRecDepth 20000 in
theorem lower_case_agrees :
    (serveUpload 98 [storedFile]).Acknowledged .empty ∧
      (serveUpload 98 []).Acknowledged .empty := by
  have announces : (uploadOf 98).Announces sameDigest (targetOf 98) [1, 2, 3] :=
    ⟨by decide +kernel, rfl, by decide +kernel⟩
  have freeFresh : (uploadOf 98).FreeIn .plain (targetOf 98) 1 (rootWith []) :=
    ⟨schema_rootWith (List.nil_sublist _), by decide +kernel, by decide +kernel,
      by decide, by decide⟩
  have freeStored : (uploadOf 98).FreeIn .plain (targetOf 98) 1
      (rootWith [storedFile]) :=
    ⟨schema_rootWith (List.Sublist.refl _), by decide +kernel, by decide +kernel,
      by decide, by decide⟩
  have agrees := (instant_upload_agrees_iff announces (hasRoom_nothing 98)
    (sentBy_sendRest 98) freeFresh freeStored rfl rfl (by simp [rootWith])
    ⟨storedFile, List.mem_singleton_self _, rfl, rfl, by decide⟩).mpr
      (fun _ => ⟨rfl, rfl⟩) (fun _ => .ordinary) fun _ => .ordinary
  have isFast : (serveUpload 98 [storedFile]).Acknowledged .empty := by decide +kernel
  exact ⟨isFast, agrees.1.mp isFast⟩

set_option maxRecDepth 20000 in
/-- The digest in upper case denotes the same number.  The stored content is found, and
the received one is refused. -/
theorem upper_case_disagrees :
    (uploadOf 66).uploadTarget = .ok (targetOf 66) ∧
      unhex (targetOf 66).sha256Hex = some (sameDigest [1, 2, 3]).1 ∧
      (serveUpload 66 [storedFile]).Acknowledged .empty ∧
      ¬(serveUpload 66 []).Acknowledged .empty := by
  decide +kernel

end TransferTask

end CloudDrive
