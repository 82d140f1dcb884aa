import CloudDrive.FileMetadata

/-!
# The names of objects

An upload publishes a content under its digest, a removal unlinks the object of
the hash it has read from the database, and a download opens the object of the
hash it has copied.  Each handler prints the path of the object to a buffer of
its own.
-/

namespace CloudDrive

open DbSession

/-- `%s/%s` with the storage root and the name of an object, in a buffer of
`size` bytes. -/
def objectPath (size : Nat) (storageRoot name : Bytes) : Bytes :=
  snprintf size (storageRoot ++ slash :: name)

/-- The calls that change no object and record none. -/
def TaskOp.isFree : TaskOp → Bool
  | .publish .. | .daoCreateFileWithPath .. | .unlink (.object _) => false
  | _ => true

/-- Where the name of an object that is changed or recorded comes from. -/
def NamesObject (storageRoot : Bytes) (history : List (Prog.Exchange TaskOp.Answer)) :
    TaskOp → Prop
  | .publish sha256Hex =>
      (∃ fd isDigest, ⟨.digest fd, some ⟨sha256Hex, isDigest⟩⟩ ∈ history) ∧
        storageRoot.length + 1 + sha256Hex.length < pathMax
  | .daoCreateFileWithPath _ _ _ _ sha256Hex _ =>
      ∃ result, ⟨.publish sha256Hex, result⟩ ∈ history
  | .unlink (.object name) => ∃ userId pathId,
      ⟨.daoRmFile userId pathId, (.shouldDeletePhysical, name)⟩ ∈ history
  | _ => True

/-- A handler takes the names of objects from where they have to come from. -/
abbrev Names {α : Type} (storageRoot : Bytes)
    (history : List (Prog.Exchange TaskOp.Answer)) (program : Handler α)
    (post : α → List (Prog.Exchange TaskOp.Answer) → Prop) : Prop :=
  program.Justified (NamesObject storageRoot) history post

section Walk

variable {storageRoot : Bytes} {history : List (Prog.Exchange TaskOp.Answer)}

theorem namesObject_of_isFree {op : TaskOp} (free : op.isFree = true) :
    NamesObject storageRoot history op := by
  cases op with
  | publish | daoCreateFileWithPath => cases free
  | unlink file => cases file <;> trivial
  | _ => trivial

theorem isFree_of_isTransfer {op : TaskOp} (transfer : op.isTransfer = true) :
    op.isFree = true := by
  cases op <;> first | rfl | cases transfer

/-- A program without such calls only adds to the history. -/
theorem CallsOnly.names {α : Type} {program : Handler α}
    (free : CallsOnly TaskOp.isFree program)
    (history : List (Prog.Exchange TaskOp.Answer)) :
    Names storageRoot history program fun _ after => history <+: after := by
  induction program generalizing history with
  | done value => exact List.prefix_refl history
  | call op next inductionHypothesis =>
      refine ⟨namesObject_of_isFree free.1, fun answer => ?_⟩
      exact (inductionHypothesis answer (free.2 answer) _).mono
        fun _ _ longer => (List.prefix_append _ _).trans longer

theorem Transfers.names {α : Type} {program : Handler α}
    (transfers : Transfers program)
    (history : List (Prog.Exchange TaskOp.Answer)) :
    Names storageRoot history program fun _ after => history <+: after :=
  CallsOnly.names (CallsOnly.mono transfers fun _ => isFree_of_isTransfer) history

theorem names_respond (type : CmdType) (status : StatusCode) (sessionId : SessionId)
    (payload : Bytes) :
    Names storageRoot history (HandlerTask.respond type status sessionId payload)
      fun _ _ => True := by
  have sends : CallsOnly TaskOp.isFree
      (HandlerTask.sendPacket type status sessionId payload) :=
    callsOnly_sendPacket rfl
  exact (sends.names history).bind fun _ _ _ => trivial

end Walk

namespace TransferTask

variable (task : TransferTask) (history : List (Prog.Exchange TaskOp.Answer))

theorem names_digestPart (fd : Nat) :
    Names task.storageRoot history (digestPart fd) fun digest after =>
      ∀ actual, digest = some actual → ⟨.digest fd, some actual⟩ ∈ after := by
  refine Prog.Obeys.ask trivial fun synced => ?_
  cases synced with
  | false => exact nofun
  | true =>
      refine Prog.Obeys.ask trivial fun sought => ?_
      cases sought with
      | false => exact nofun
      | true =>
          refine ⟨trivial, fun digest => ?_⟩
          rintro actual rfl
          simp

theorem names_publishPart {sha256Hex : Bytes}
    (named : NamesObject task.storageRoot history (.publish sha256Hex)) :
    Names task.storageRoot history (publishPart sha256Hex) fun _ after =>
      ∃ result, ⟨.publish sha256Hex, result⟩ ∈ after := by
  refine Prog.Obeys.ask named fun result => ?_
  cases result with
  | renamed => exact ⟨.renamed, by simp⟩
  | alreadyExists => exact ⟨trivial, fun _ => ⟨.alreadyExists, by simp⟩⟩
  | failed =>
      refine Prog.Obeys.ask trivial fun present => ?_
      cases present with
      | true => exact ⟨trivial, fun _ => ⟨.failed, by simp⟩⟩
      | false => exact ⟨.failed, by simp⟩

theorem names_uploadFile (target : UploadTarget) (parentId : UInt64) :
    Names task.storageRoot history (task.uploadFile target parentId)
      fun _ _ => True := by
  unfold uploadFile
  split
  · exact names_respond _ _ _ _
  rename_i fits
  refine Prog.Obeys.ask trivial fun opened => ?_
  cases opened with
  | none => exact names_respond _ _ _ _
  | some fd =>
      refine ((task.transfers_openPart fd target).names _).bind
        fun step history _ => ?_
      cases step with
      | stops status =>
          exact ((task.transfers_closeAndFail fd status).names history).mono
            fun _ _ _ => trivial
      | goesOn =>
          refine (task.names_digestPart history fd).bind
            fun digest history digested => ?_
          cases digest with
          | none =>
              exact ((task.transfers_closeAndFail fd _).names history).mono
                fun _ _ _ => trivial
          | some actual =>
              refine Prog.Obeys.ask trivial fun closed => ?_
              split_ifs with differs
              · exact Prog.Obeys.ask trivial fun _ => names_respond _ _ _ _
              · rw [ne_eq, not_not] at differs
                obtain ⟨sha256Hex, isDigest⟩ := actual
                obtain rfl : sha256Hex = target.sha256Hex := differs
                have named : NamesObject task.storageRoot
                    (history ++ [⟨.close fd, closed⟩])
                    (.publish target.sha256Hex) := by
                  refine ⟨⟨fd, isDigest, ?_⟩, Nat.not_le.mp (not_or.mp fits).2⟩
                  exact List.mem_append_left _ (digested _ rfl)
                refine (task.names_publishPart _ named).bind
                  fun published history recorded => ?_
                cases published with
                | false => exact names_respond _ _ _ _
                | true =>
                    refine Prog.Obeys.ask recorded fun created => ?_
                    split_ifs <;> exact names_respond _ _ _ _

theorem names_handlePuts :
    Names task.storageRoot [] task.handlePuts fun _ _ => True := by
  unfold handlePuts
  split
  · exact names_respond _ _ _ _
  refine Prog.Obeys.ask trivial ?_
  rintro ⟨result, parentId⟩
  cases result with
  | isDir =>
      refine Prog.Obeys.ask trivial ?_
      rintro ⟨result, pathId⟩
      cases result with
      | notFound =>
          refine Prog.Obeys.ask trivial ?_
          rintro ⟨found, fileId⟩
          dsimp only
          split_ifs
          · exact names_respond _ _ _ _
          · refine Prog.Obeys.ask trivial fun linked => ?_
            split_ifs
            · exact names_respond _ _ _ _
            · refine ((task.transfers_sendPutsResume _).names _).bind
                fun sent history _ => ?_
              split_ifs
              · trivial
              · exact names_respond _ _ _ _
          · exact task.names_uploadFile _ _ _
      | isDir | isFile | dbError | badArg => exact names_respond _ _ _ _
  | notFound | isFile | dbError | badArg => exact names_respond _ _ _ _

end TransferTask

theorem HandlerTask.names_handleRm (task : HandlerTask) (storageRoot : Bytes) :
    Names storageRoot [] task.handleRm fun _ _ => True := by
  unfold handleRm
  split
  · exact names_respond _ _ _ _
  split
  · exact names_respond _ _ _ _
  refine Prog.Obeys.ask trivial ?_
  rintro ⟨result, targetFileId⟩
  cases result with
  | isFile =>
      refine Prog.Obeys.ask trivial ?_
      rintro ⟨status, hash⟩
      cases status with
      | shouldDeletePhysical =>
          refine Prog.Obeys.ask ⟨_, _, List.mem_append_right _ List.mem_cons_self⟩
            fun unlinked => ?_
          cases unlinked with
          | true => exact names_respond _ _ _ _
          | false =>
              exact Prog.Obeys.bind (names_respond _ _ _ _)
                fun _ _ _ => names_respond _ _ _ _
      | ok | notFound | alreadyExists | typeMismatch | badArg | dbError
      | conflict => exact names_respond _ _ _ _
  | isDir | notFound | dbError | badArg => exact names_respond _ _ _ _

/-- No other object than that of a name is opened. -/
def TaskOp.opensOnly (name : Bytes) : TaskOp → Bool
  | .openFile file => file = .object name
  | _ => true

theorem opensOnly_of_isTransfer {name : Bytes} {op : TaskOp}
    (transfer : op.isTransfer = true) : op.opensOnly name = true := by
  cases op <;> first | rfl | cases transfer

namespace TransferTask

variable (task : TransferTask) (name : Bytes)

theorem opensOnly_recvTransferPacket :
    CallsOnly (TaskOp.opensOnly name) task.recvTransferPacket :=
  CallsOnly.mono task.receiving_recvTransferPacket.transfers
    fun _ => opensOnly_of_isTransfer

theorem opensOnly_download (startOffset : UInt64) :
    CallsOnly (TaskOp.opensOnly name) (task.download name startOffset) :=
  task.callsOnly_download (fun _ => opensOnly_of_isTransfer)
    (by simp [TaskOp.opensOnly]) startOffset

/-- A download opens the object whose name the metadata gives. -/
theorem handleGets_opens {targetPath : Bytes}
    (computed : task.getsTargetPath = some targetPath) :
    ∃ next, task.handleGets =
        .call (.daoGetFileMeta task.session.1.userId targetPath) next ∧
      ∀ status found name, status = .dbError ∨ name = found.sha256Hex →
        CallsOnly (TaskOp.opensOnly name) (next (some (status, found))) := by
  rw [getsTargetPath] at computed
  rw [handleGets]
  split at computed
  · cases computed
  rw [computed]
  refine ⟨_, rfl, fun status found name opens => ?_⟩
  have fails : ∀ status, CallsOnly (TaskOp.opensOnly name) (task.fail status) :=
    fun status => CallsOnly.mono (task.transfers_fail status)
      fun _ => opensOnly_of_isTransfer
  have sends : CallsOnly (TaskOp.opensOnly name)
      (HandlerTask.sendPacket .getsResp .ok task.packet.sessionId found.payload) :=
    callsOnly_sendPacket rfl
  cases status with
  | notFound | typeMismatch | dbError => exact fails _
  | ok | alreadyExists | shouldDeletePhysical | badArg | conflict =>
      obtain rfl : name = found.sha256Hex := opens.resolve_left (DaoStatus.noConfusion ·)
      refine sends.bind fun sent _ _ => ?_
      cases sent with
      | false => trivial
      | true =>
          refine (task.opensOnly_recvTransferPacket _).bind fun packet _ _ => ?_
          cases packet with
          | none => trivial
          | some packet =>
              dsimp only
              split
              · exact fails _
              · exact task.opensOnly_download _ _

end TransferTask

section Paths

variable (dialect : Dialect) (storageRoot : Bytes)

/-- An upload publishes a content under its digest, and records no other. -/
def PublishesDigests : Prop :=
  ∀ (task : TransferTask) (choices : Nat → Choice) (database : Database),
    task.storageRoot = storageRoot →
    let log := task.handlePuts.exchanges (performTask dialect) choices database
    (∀ name result, ⟨.publish name, result⟩ ∈ log →
      (∃ fd isDigest, ⟨.digest fd, some ⟨name, isDigest⟩⟩ ∈ log) ∧
        objectPath pathMax storageRoot name = storageRoot ++ slash :: name) ∧
    ∀ userId targetPath parentId fileName name fileSize result,
      ⟨.daoCreateFileWithPath userId targetPath parentId fileName name fileSize,
        result⟩ ∈ log → ∃ published, ⟨.publish name, published⟩ ∈ log

/-- A removal unlinks the object of the hash to which it has removed the last
path. -/
def UnlinksHashes : Prop :=
  ∀ (task : HandlerTask) (choices : Nat → Choice) (database : Database),
    database.Consistent →
    ∀ name unlinked, ⟨.unlink (.object name), unlinked⟩ ∈
        task.handleRm.exchanges (performTask dialect) choices database →
      RemovesLast database
        (task.handleRm.eval (performTask dialect) choices database).2 name ∧
      objectPath (pathMax + nameMax + 1) storageRoot name =
        storageRoot ++ slash :: name

/-- A download opens the object of a hash, whatever calls fail. -/
def OpensHash (database : Database) (task : TransferTask) (stale hash : Bytes) :
    Prop :=
  ∀ choices : Nat → Choice, (choices 0).stale = stale →
    ∀ name opened, ⟨.openFile (.object name), opened⟩ ∈
        task.handleGets.exchanges (performTask dialect) choices database →
      objectPath (pathMax + nameMax + 1) task.storageRoot name =
        task.storageRoot ++ slash :: hash

end Paths

theorem objectPath_of_fits {size : Nat} {storageRoot name : Bytes}
    (fits : storageRoot.length + 1 + name.length < size) :
    objectPath size storageRoot name = storageRoot ++ slash :: name := by
  apply snprintf_of_fits
  rw [List.length_append, List.length_cons]
  omega

theorem publishesDigests (dialect : Dialect) (storageRoot : Bytes) :
    PublishesDigests dialect storageRoot := by
  rintro task choices database rfl
  refine ⟨fun name result made => ?_, ?_⟩
  · obtain ⟨before, earlier, ⟨fd, isDigest, digested⟩, fits⟩ :=
      Prog.Justified.of_mem task.names_handlePuts made
    refine ⟨⟨fd, isDigest, earlier.subset ?_⟩, objectPath_of_fits fits⟩
    simpa using digested
  · intro userId targetPath parentId fileName name fileSize result made
    obtain ⟨before, earlier, published, recorded⟩ :=
      Prog.Justified.of_mem task.names_handlePuts made
    exact ⟨published, earlier.subset (by simpa using recorded)⟩

theorem unlinksHashes (dialect : Dialect) {storageRoot : Bytes}
    (rootFits : storageRoot.length < pathMax) :
    UnlinksHashes dialect storageRoot := by
  intro task choices database consistent name unlinked made
  obtain ⟨before, earlier, userId, pathId, removed⟩ :=
    Prog.Justified.of_mem (task.names_handleRm storageRoot) made
  have served := @served_of_keeps dialect database consistent _ task.handleRm
    .nothing (task.handleRm_keeps rfl) rfl (Known.holds_nothing database) choices
  have removes := (served.removed _ (earlier.subset (by simpa using removed)) _ rfl
    name).mp rfl
  refine ⟨removes, objectPath_of_fits ?_⟩
  obtain ⟨file, stored, rfl, -⟩ := removes
  rw [(stored_digits (consistent.stored file stored)).1]
  have sizes : 65 ≤ nameMax := by decide
  omega

/-- The client answers the metadata with a resume position. -/
def Choice.resuming (stale : Bytes) (sessionId : SessionId) : Choice where
  faults := noFaults
  stale
  answer
    | .recv => some (Packet.init .resumePos .ok sessionId (hostToNet 0))
    | op => Choice.ordinary.answer op

section Download

variable {dialect : Dialect} {database : Database} (schema : database.Schema)
  {task : TransferTask} {targetPath : Bytes}
  (computed : task.getsTargetPath = some targetPath) {row : PathRow} {file : FileRow}
  (stored : file ∈ database.tables.files) (refers : row.fileId = some file.id)
  (answered : dialect.run
    (statementText 1024 (selectMetaLimitText task.session.1.userId targetPath))
    database = .rows [metaRow database.tables.files row])

include schema computed stored refers answered

/-- What is opened is the hash, with the bytes behind it. -/
theorem opened_name {choices : Nat → Choice} {name : Bytes} {opened : Option Nat}
    (made : ⟨.openFile (.object name), opened⟩ ∈
      task.handleGets.exchanges (performTask dialect) choices database) :
    name = file.hash ++ cString (choices 0).stale := by
  obtain ⟨next, called, opens⟩ := task.handleGets_opens computed
  rw [called, Prog.exchanges] at made
  rcases List.mem_cons.mp made with first | later
  · cases congrArg Sigma.fst first
  obtain ⟨-, answer⟩ := (@daoGetFileMeta_finds dialect database _ targetPath
    (choices 0).stale row answered file refers
    (schema.find_file stored refers)).call (choices 0).faults
  have copied := copySha256Hex_of_stored (schema.stored file stored)
    (choices 0).stale
  rcases answer with failed | found
  · have nothing : ∀ other, TaskOp.opensOnly other (.openFile (.object name)) = true :=
      fun other => (opens .dbError _ other (Or.inl rfl)).of_mem (failed ▸ later)
    have short := of_decide_eq_true (nothing (0 :: name))
    exact absurd (congrArg List.length (StoredFile.object.inj short)) (by simp)
  · have only : TaskOp.opensOnly _ (.openFile (.object name)) = true :=
      (opens _ _ _ (Or.inr rfl)).of_mem (found ▸ later)
    rw [← copied]
    exact StoredFile.object.inj (of_decide_eq_true only)

/-- Some download opens it. -/
theorem exists_opened (isFile : row.type = 0) (stale : Bytes) :
    ∃ choices : Nat → Choice, (choices 0).stale = stale ∧ ∃ opened,
      ⟨.openFile (.object (file.hash ++ cString stale)), opened⟩ ∈
        task.handleGets.exchanges (performTask dialect) choices database := by
  have found := daoGetFileMeta_found stale answered refers
    (schema.find_file stored refers)
  rw [isFile] at found
  rw [TransferTask.getsTargetPath] at computed
  refine ⟨fun _ => .resuming stale task.packet.sessionId, rfl, some 3, ?_⟩
  rw [TransferTask.handleGets]
  split at computed
  · cases computed
  rw [computed]
  have performed : (performTask dialect (.resuming stale task.packet.sessionId)
      (.daoGetFileMeta task.session.1.userId targetPath) database).1 =
        some (.ok, .ofRows stale row file) := found
  have sends := (FileMeta.ofRows stale row file).length_payload
  have copied := copySha256Hex_of_stored (schema.stored file stored) stale
  have sent : ∀ packet, (Choice.resuming stale task.packet.sessionId).answer
    (.send packet) = true := fun _ => rfl
  have received : (Choice.resuming stale task.packet.sessionId).answer .recv =
    some (Packet.init .resumePos .ok task.packet.sessionId (hostToNet 0)) := rfl
  have opened : ∀ file, (Choice.resuming stale task.packet.sessionId).answer
    (.openFile file) = some 3 := fun _ => rfl
  have named : (FileMeta.ofRows stale row file).sha256Hex =
    file.hash ++ cString stale := copied
  simp only [Prog.ask_bind, Prog.exchanges, performed]
  simp [HandlerTask.sendPacket, Nat.not_lt.mpr sends, TransferTask.recvTransferPacket,
    Prog.exchanges, Prog.ask, performTask, sent, received, Packet.init,
    TransferTask.download, named, opened]

end Download

/-- The object of a file is opened under its name exactly if the byte behind the
digits was zero before; it is published and unlinked under its name anyway. -/
theorem download_opens_object_iff (dialect : Dialect) {database : Database}
    (schema : database.Schema) {task : TransferTask}
    (rootFits : task.storageRoot.length < pathMax) {targetPath : Bytes}
    (computed : task.getsTargetPath = some targetPath) {row : PathRow}
    (isFile : row.type = 0) {file : FileRow} (stored : file ∈ database.tables.files)
    (refers : row.fileId = some file.id)
    (answered : dialect.run
      (statementText 1024 (selectMetaLimitText task.session.1.userId targetPath))
      database = .rows [metaRow database.tables.files row])
    (stale : Bytes) :
    (OpensHash dialect database task stale file.hash ∧
        PublishesDigests dialect task.storageRoot ∧
        UnlinksHashes dialect task.storageRoot) ↔
      cString stale = [] := by
  have digits := (stored_digits (schema.stored file stored)).1
  have buffer : pathMax + 65 < pathMax + nameMax + 1 := by decide
  constructor
  · rintro ⟨opens, -, -⟩
    obtain ⟨choices, same, opened, made⟩ :=
      exists_opened schema computed stored refers answered isFile stale
    have lengths := congrArg List.length (opens choices same _ opened made)
    simp only [objectPath, snprintf, List.length_take, List.length_append,
      List.length_cons, digits] at lengths
    rw [← List.length_eq_zero_iff]
    omega
  · intro terminated
    refine ⟨fun choices same name opened made => ?_, publishesDigests _ _,
      unlinksHashes dialect rootFits⟩
    have isHash := opened_name schema computed stored refers answered made
    rw [same, terminated, List.append_nil] at isHash
    rw [isHash]
    exact objectPath_of_fits (by omega)

section Examples

/-- The row of `/f` in the database of one file. -/
def rowOfF : PathRow := ⟨2, 1, ascii "/f", some 1, some 1, ascii "f", 0⟩

theorem computed_f :
    (Store.userTask (ascii "f")).getsTargetPath = some (ascii "/f") := by
  decide +kernel

theorem answered_f : Dialect.plain.run
    (statementText 1024 (selectMetaLimitText 1 (ascii "/f"))) Store.oneFile.database =
      .rows [metaRow Store.oneFile.database.tables.files rowOfF] := by
  have isRow : Store.oneFile.database.rowAt .plain 1 (ascii "/f") = some rowOfF := by
    decide +kernel
  rw [run_selectMetaLimit_rowAt (by decide) (by decide +kernel), isRow]
  rfl

theorem stored_f : (⟨1, Store.someHash, 3, 1⟩ : FileRow) ∈
    Store.oneFile.database.tables.files := List.mem_singleton_self _

/-- The download of the file `/f`. -/
theorem download_opens_object_of_f :
    OpensHash .plain Store.oneFile.database (Store.userTask (ascii "f")) []
      Store.someHash :=
  ((download_opens_object_iff .plain Store.oneFile_sound.consistent.toSchema
    (by decide) computed_f rfl stored_f rfl answered_f []).mpr rfl).1

/-- The byte behind the digits was an `x`. -/
theorem download_opens_another_object :
    ¬OpensHash .plain Store.oneFile.database (Store.userTask (ascii "f")) (ascii "x")
      Store.someHash := by
  intro opens
  obtain ⟨choices, same, opened, made⟩ := exists_opened
    Store.oneFile_sound.consistent.toSchema computed_f stored_f rfl answered_f rfl
    (ascii "x")
  exact absurd (opens choices same _ opened made) (by decide +kernel)

end Examples

end CloudDrive
