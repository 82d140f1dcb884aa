import CloudDrive.BasicHandlers
import CloudDrive.TransferHandlers

/-!
# What a handler asks of the database and of the sessions

Most calls of a handler concern neither: they move packets and files.  A ghost
that follows only the others is obeyed by a handler if it allows the few calls
that are left, in the order and with the arguments in which the handler makes
them.
-/

namespace CloudDrive

/-- The calls that concern neither the database nor the sessions. -/
def TaskOp.isOutside : TaskOp → Bool
  | .generateSalt | .cryptR .. | .send .. | .sendHeader .. | .sendfile ..
  | .recv | .openFile .. | .fstat .. | .truncate .. | .lseek .. | .write ..
  | .fsync .. | .digest .. | .close .. | .unlink .. | .publish ..
  | .objectExists .. | .trackAndPublish => true
  | _ => false

/-- The response that acknowledges a request. -/
def TaskOp.acknowledges : TaskOp → Bool
  | .send packet => packet.type = CmdType.ack.code
  | _ => false

/-- The calls that say nothing about the outcome either. -/
def TaskOp.isSilent (op : TaskOp) : Bool := op.isOutside && !op.acknowledges

/-- The calls that concern a file by its name. -/
def TaskOp.namesFile : TaskOp → Bool
  | .openFile .. | .unlink .. | .publish .. | .objectExists .. => true
  | _ => false

/-- The calls that move the bytes of an open file. -/
def TaskOp.isTransfer (op : TaskOp) : Bool := op.isSilent && !op.namesFile

/-- The response that says where an upload continues. -/
def TaskOp.announces : TaskOp → Bool
  | .send packet => packet.type = CmdType.putsResp.code
  | _ => false

/-- The calls that move bytes after the client has been told from where. -/
def TaskOp.isReceiving (op : TaskOp) : Bool := op.isTransfer && !op.announces

/-- A program makes only calls of one kind. -/
abbrev CallsOnly {α : Type} (allowed : TaskOp → Bool) (program : Handler α) :
    Prop :=
  program.Obeys (fun (_ : Unit) op => allowed op = true) (fun _ _ _ => ()) ()
    fun _ _ => True

abbrev Quiet {α : Type} (program : Handler α) : Prop :=
  CallsOnly TaskOp.isOutside program

abbrev Silent {α : Type} (program : Handler α) : Prop :=
  CallsOnly TaskOp.isSilent program

abbrev Transfers {α : Type} (program : Handler α) : Prop :=
  CallsOnly TaskOp.isTransfer program

abbrev Receives {α : Type} (program : Handler α) : Prop :=
  CallsOnly TaskOp.isReceiving program

/-- A ghost that follows only the calls to the database and the sessions. -/
structure FollowsState {γ : Type} (guard : γ → TaskOp → Prop)
    (update : γ → (op : TaskOp) → op.Answer → γ) : Prop where
  allows : ∀ ghost op, op.isOutside = true → guard ghost op
  keeps : ∀ ghost op (answer : op.Answer), op.isOutside = true →
    update ghost op answer = ghost

section Quiet

open HandlerTask

theorem CallsOnly.mono {α : Type} {narrow wide : TaskOp → Bool}
    {program : Handler α} (calls : CallsOnly narrow program)
    (allowed : ∀ op, narrow op = true → wide op = true) :
    CallsOnly wide program := by
  induction program with
  | done value => trivial
  | call op next inductionHypothesis =>
      exact ⟨allowed op calls.1,
        fun answer => inductionHypothesis answer (calls.2 answer)⟩

theorem CallsOnly.of_mem {α σ φ : Type} {allowed : TaskOp → Bool}
    {program : Handler α} (calls : CallsOnly allowed program)
    {perform : φ → (op : TaskOp) → σ → op.Answer × σ} {choices : Nat → φ} {state : σ}
    {exchange : Prog.Exchange TaskOp.Answer}
    (made : exchange ∈ program.exchanges perform choices state) :
    allowed exchange.1 = true := by
  induction program generalizing choices state with
  | done value => cases made
  | call op next inductionHypothesis =>
      rw [Prog.exchanges] at made
      rcases List.mem_cons.mp made with rfl | later
      · exact calls.1
      · exact inductionHypothesis _ (calls.2 _) later

theorem Silent.quiet {α : Type} {program : Handler α} (silent : Silent program) :
    Quiet program :=
  CallsOnly.mono silent fun _ isSilent => (Bool.and_eq_true_iff.mp isSilent).1

theorem Transfers.silent {α : Type} {program : Handler α}
    (transfers : Transfers program) : Silent program :=
  CallsOnly.mono transfers fun _ isTransfer => (Bool.and_eq_true_iff.mp isTransfer).1

theorem Receives.transfers {α : Type} {program : Handler α}
    (receives : Receives program) : Transfers program :=
  CallsOnly.mono receives fun _ isReceiving => (Bool.and_eq_true_iff.mp isReceiving).1

theorem callsOnly_sendPacket {allowed : TaskOp → Bool} {type : CmdType}
    {status : StatusCode} {sessionId : SessionId} {payload : Bytes}
    (sends : allowed (.send (Packet.init type status sessionId payload)) = true) :
    CallsOnly allowed (sendPacket type status sessionId payload) := by
  unfold sendPacket
  split
  · trivial
  · exact ⟨sends, fun _ => trivial⟩

theorem quiet_respond (type : CmdType) (status : StatusCode)
    (sessionId : SessionId) (payload : Bytes) :
    Quiet (respond type status sessionId payload) := by
  have sent : Quiet (sendPacket type status sessionId payload) :=
    callsOnly_sendPacket rfl
  exact sent.bind fun _ _ _ => trivial

theorem HandlerTask.receiving_fail (task : HandlerTask) (status : StatusCode) :
    Receives (task.fail status) := by
  have sent : Receives (sendPacket .error status task.packet.sessionId []) :=
    callsOnly_sendPacket rfl
  exact sent.bind fun _ _ _ => trivial

theorem HandlerTask.transfers_fail (task : HandlerTask) (status : StatusCode) :
    Transfers (task.fail status) :=
  (task.receiving_fail status).transfers

namespace TransferTask

variable (task : TransferTask) (fd : Nat)

theorem transfers_sendPutsResume (offset : UInt64) :
    Transfers (task.sendPutsResume offset) :=
  callsOnly_sendPacket rfl

theorem receiving_recvTransferPacket : Receives task.recvTransferPacket := by
  refine ⟨rfl, fun packet => ?_⟩
  cases packet with
  | none => trivial
  | some packet =>
      change Receives (if _ then task.fail _ >>= _ else _)
      split
      · exact (task.receiving_fail _).bind fun _ _ _ => trivial
      · trivial

theorem receiving_writeN (fuel : Nat) (data : Bytes) : Receives (writeN fd fuel data) := by
  induction fuel generalizing data with
  | zero => trivial
  | succ fuel inductionHypothesis =>
      cases data with
      | nil => trivial
      | cons byte rest =>
          refine ⟨rfl, fun more => ?_⟩
          cases more with
          | none => trivial
          | some more => exact inductionHypothesis (rest.drop more)

theorem receiving_receiveData (fuel remaining : Nat) :
    Receives (task.receiveData fd fuel remaining) := by
  induction fuel generalizing remaining with
  | zero => trivial
  | succ fuel inductionHypothesis =>
      cases remaining with
      | zero => trivial
      | succ remaining =>
          refine task.receiving_recvTransferPacket.bind fun packet _ _ => ?_
          cases packet with
          | none => trivial
          | some packet =>
              dsimp only
              split_ifs
              · trivial
              · trivial
              refine (receiving_writeN fd _ _).bind fun written _ _ => ?_
              cases written with
              | false => trivial
              | true => exact inductionHypothesis _

theorem receiving_receiveFile (offset fileSize : UInt64) :
    Receives (task.receiveFile fd offset fileSize) := by
  unfold receiveFile
  split
  · trivial
  refine Prog.Obeys.ask rfl fun sought => ?_
  cases sought with
  | false => trivial
  | true =>
      refine (task.receiving_receiveData fd _ _).bind ?_
      rintro ⟨_ | status, gotFileEnd, remaining⟩ _ _
      · dsimp only
        split_ifs
        · trivial
        · trivial
        refine task.receiving_recvTransferPacket.bind fun packet _ _ => ?_
        cases packet with
        | none => trivial
        | some packet =>
            dsimp only
            split <;> trivial
      · trivial

theorem transfers_openPart (target : UploadTarget) : Transfers (task.openPart target fd) := by
  have resume : ∀ offset, Transfers
      (task.sendPutsResume offset >>= fun sent =>
        if !sent then pure (.stops none)
        else task.receiveFile fd offset target.fileSize) := by
    intro offset
    refine (task.transfers_sendPutsResume offset).bind fun sent _ _ => ?_
    cases sent with
    | false => trivial
    | true => exact (task.receiving_receiveFile fd offset target.fileSize).transfers
  refine ⟨rfl, fun size => ?_⟩
  cases size with
  | none => trivial
  | some size =>
      change Transfers (if _ then _ else _)
      split
      · refine ⟨rfl, fun truncated => ?_⟩
        cases truncated with
        | false => trivial
        | true => exact resume 0
      · exact resume size

theorem transfers_digestPart : Transfers (digestPart fd) := by
  refine ⟨rfl, fun synced => ?_⟩
  cases synced with
  | false => trivial
  | true =>
      refine ⟨rfl, fun sought => ?_⟩
      cases sought with
      | false => trivial
      | true => exact ⟨rfl, fun _ => trivial⟩

theorem silent_publishPart (sha256Hex : Bytes) : Silent (publishPart sha256Hex) := by
  refine ⟨rfl, fun result => ?_⟩
  cases result with
  | renamed => trivial
  | alreadyExists => exact ⟨rfl, fun _ => trivial⟩
  | failed =>
      refine ⟨rfl, fun seen => ?_⟩
      cases seen with
      | true => exact ⟨rfl, fun _ => trivial⟩
      | false => trivial

theorem transfers_closeAndFail (status : Option StatusCode) :
    Transfers (task.closeAndFail fd status) := by
  refine ⟨rfl, fun _ => ?_⟩
  cases status with
  | none => trivial
  | some status => exact task.transfers_fail status

theorem transfers_sendfileExact (fuel offset remaining : Nat) :
    Transfers (sendfileExact fd fuel offset remaining) := by
  induction fuel generalizing offset remaining with
  | zero => trivial
  | succ fuel inductionHypothesis =>
      cases remaining with
      | zero => trivial
      | succ remaining =>
          refine Prog.Obeys.ask rfl fun more => ?_
          cases more with
          | none => trivial
          | some more => exact inductionHypothesis _ _

theorem transfers_sendChunks (fuel offset remaining : Nat) :
    Transfers (task.sendChunks fd fuel offset remaining) := by
  induction fuel generalizing offset remaining with
  | zero => trivial
  | succ fuel inductionHypothesis =>
      cases remaining with
      | zero => trivial
      | succ remaining =>
          refine Prog.Obeys.ask rfl fun sent => ?_
          cases sent with
          | false => trivial
          | true =>
              refine (transfers_sendfileExact fd _ _ _).bind fun copied _ _ => ?_
              cases copied with
              | false => trivial
              | true => exact inductionHypothesis _ _

theorem transfers_endDownload : Transfers task.endDownload := by
  have ends : Transfers
      (HandlerTask.sendPacket .fileEnd .ok task.packet.sessionId []) :=
    callsOnly_sendPacket rfl
  refine ends.bind fun ended _ _ => ?_
  cases ended with
  | false => trivial
  | true => exact task.receiving_recvTransferPacket.transfers.bind fun _ _ _ => trivial

/-- A download opens one object and moves its bytes. -/
theorem callsOnly_download {allowed : TaskOp → Bool}
    (moves : ∀ op, op.isTransfer = true → allowed op = true) {name : Bytes}
    (opens : allowed (.openFile (.object name)) = true) (startOffset : UInt64) :
    CallsOnly allowed (task.download name startOffset) := by
  refine Prog.Obeys.ask opens fun opened => ?_
  cases opened with
  | none => trivial
  | some fd =>
      refine Prog.Obeys.ask (moves _ rfl) fun size => ?_
      cases size with
      | none => exact ⟨moves _ rfl, fun _ => trivial⟩
      | some size =>
          dsimp only
          split
          · exact ⟨moves _ rfl, fun _ => trivial⟩
          · refine (CallsOnly.mono (task.transfers_sendChunks fd _ _ _) moves).bind
              fun sent _ _ => ?_
            refine Prog.Obeys.ask (moves _ rfl) fun _ => ?_
            cases sent with
            | false => trivial
            | true => exact CallsOnly.mono task.transfers_endDownload moves

end TransferTask

end Quiet

section Shapes

variable {γ : Type} {guard : γ → TaskOp → Prop}
  {update : γ → (op : TaskOp) → op.Answer → γ} {ghost : γ}
  (follows : FollowsState guard update)

include follows

/-- Such a ghost does not notice a quiet program. -/
theorem FollowsState.quiet {α : Type} {program : Handler α}
    (quiet : Quiet program) (ghost : γ) :
    program.Obeys guard update ghost fun _ after => after = ghost := by
  induction program with
  | done value => rfl
  | call op next inductionHypothesis =>
      refine ⟨follows.allows ghost op quiet.1, fun answer => ?_⟩
      rw [follows.keeps ghost op answer quiet.1]
      exact inductionHypothesis answer (quiet.2 answer)

theorem FollowsState.ask {α : Type} {op : TaskOp} {rest : op.Answer → Handler α}
    {post : α → γ → Prop} (outside : op.isOutside = true)
    (obeys : ∀ answer, (rest answer).Obeys guard update ghost post) :
    (Prog.ask op >>= rest).Obeys guard update ghost post := by
  refine Prog.Obeys.ask (follows.allows ghost op outside) fun answer => ?_
  rw [follows.keeps ghost op answer outside]
  exact obeys answer

theorem FollowsState.bind {α β : Type} {program : Handler α}
    {rest : α → Handler β} {post : β → γ → Prop} (quiet : Quiet program)
    (obeys : ∀ value, (rest value).Obeys guard update ghost post) :
    (program >>= rest).Obeys guard update ghost post := by
  refine (follows.quiet quiet ghost).bind ?_
  rintro value _ rfl
  exact obeys value

theorem FollowsState.respond (ghost : γ) (type : CmdType) (status : StatusCode)
    (sessionId : SessionId) (payload : Bytes) :
    (HandlerTask.respond type status sessionId payload).Obeys guard update ghost
      fun _ _ => True :=
  (follows.quiet (quiet_respond type status sessionId payload) ghost).mono
    fun _ _ _ => trivial

namespace HandlerTask

variable (task : HandlerTask)

theorem obeys_handleRegister
    (registers : ∀ username password passwordHash,
      task.credentials = some (username, password) →
      guard ghost (.daoAuthRegister username passwordHash)) :
    task.handleRegister.Obeys guard update ghost fun _ _ => True := by
  unfold handleRegister
  split
  · exact follows.respond _ _ _ _ _
  rename_i username password credentials
  refine follows.ask rfl fun salt => ?_
  cases salt with
  | none => exact follows.respond _ _ _ _ _
  | some salt =>
      refine follows.ask rfl fun passwordHash => ?_
      cases passwordHash with
      | none => exact follows.respond _ _ _ _ _
      | some passwordHash =>
          refine Prog.Obeys.ask (registers username password passwordHash credentials)
            fun result => ?_
          split_ifs <;> exact follows.respond _ _ _ _ _

theorem obeys_handleCd
    (changes : ∀ payload virtualPath, task.copyPayload pathMax false = some payload →
      (if payload = [] then some (ascii "/")
        else normalizeCdPath task.session.1.cwd payload pathMax) = some virtualPath →
      guard ghost (.daoPathGetNodeId task.session.1.userId virtualPath) ∧
      ∀ pathId,
        guard (update ghost
            (.daoPathGetNodeId task.session.1.userId virtualPath) (.isDir, pathId))
          (.sessionUpdateCwd task.packet.sessionId pathId virtualPath)) :
    task.handleCd.Obeys guard update ghost fun _ _ => True := by
  unfold handleCd
  split
  · exact follows.respond _ _ _ _ _
  rename_i payload copied
  dsimp only
  split
  · exact follows.respond _ _ _ _ _
  rename_i virtualPath normalized
  obtain ⟨looks, moves⟩ := changes payload virtualPath copied normalized
  refine Prog.Obeys.ask looks ?_
  rintro ⟨result, pathId⟩
  cases result with
  | isDir =>
      refine Prog.Obeys.ask (moves pathId) fun updated => ?_
      split <;> exact follows.respond _ _ _ _ _
  | isFile | notFound | dbError | badArg => exact follows.respond _ _ _ _ _

theorem obeys_handleLs
    (lists : ∀ payload targetPath, task.copyPayload pathMax false = some payload →
      (if payload = [] then some task.session.1.cwd
        else normalizeCdPath task.session.1.cwd payload pathMax) = some targetPath →
      guard ghost (.daoPathGetNodeId task.session.1.userId targetPath) ∧
      ∀ targetId,
        guard (update ghost
            (.daoPathGetNodeId task.session.1.userId targetPath) (.isDir, targetId))
          (.daoPathGetLsDir task.session.1.userId targetId)) :
    task.handleLs.Obeys guard update ghost fun _ _ => True := by
  unfold handleLs
  split
  · exact follows.respond _ _ _ _ _
  rename_i payload copied
  dsimp only
  split
  · exact follows.respond _ _ _ _ _
  rename_i targetPath normalized
  obtain ⟨looks, reads⟩ := lists payload targetPath copied normalized
  refine Prog.Obeys.ask looks ?_
  rintro ⟨result, targetId⟩
  cases result with
  | isDir =>
      refine Prog.Obeys.ask (reads targetId) ?_
      rintro ⟨count, listing⟩
      dsimp only
      split <;> exact follows.respond _ _ _ _ _
  | isFile =>
      dsimp only
      split <;> exact follows.respond _ _ _ _ _
  | notFound | dbError | badArg => exact follows.respond _ _ _ _ _

theorem obeys_handleMkdir
    (makes : ∀ targetPath parentPath fileName,
      task.directoryTarget = some (targetPath, parentPath, fileName) →
      guard ghost (.daoPathGetNodeId task.session.1.userId parentPath) ∧
      ∀ parentId,
        guard (update ghost
            (.daoPathGetNodeId task.session.1.userId parentPath) (.isDir, parentId))
          (.daoPathInsertDir task.session.1.userId targetPath parentId
            fileName)) :
    task.handleMkdir.Obeys guard update ghost fun _ _ => True := by
  unfold handleMkdir
  split
  · exact follows.respond _ _ _ _ _
  rename_i targetPath parentPath fileName target
  obtain ⟨looks, inserts⟩ := makes targetPath parentPath fileName target
  refine Prog.Obeys.ask looks ?_
  rintro ⟨result, parentId⟩
  cases result with
  | isDir =>
      refine Prog.Obeys.ask (inserts parentId) fun result => ?_
      split_ifs <;> exact follows.respond _ _ _ _ _
  | isFile | notFound | dbError | badArg => exact follows.respond _ _ _ _ _

theorem obeys_handleRmdir
    (removes : ∀ targetPath parentPath fileName,
      task.directoryTarget = some (targetPath, parentPath, fileName) →
      guard ghost (.daoPathGetNodeId task.session.1.userId targetPath) ∧
      ∀ targetDirId, ∀ found, found = update ghost
          (.daoPathGetNodeId task.session.1.userId targetPath)
          (.isDir, targetDirId) →
        guard found (.daoPathDirHasChild task.session.1.userId targetDirId) ∧
        guard (update found
            (.daoPathDirHasChild task.session.1.userId targetDirId) (0 : Int))
          (.daoPathRmdir targetDirId)) :
    task.handleRmdir.Obeys guard update ghost fun _ _ => True := by
  unfold handleRmdir
  split
  · exact follows.respond _ _ _ _ _
  rename_i targetPath parentPath fileName target
  obtain ⟨looks, deletes⟩ := removes targetPath parentPath fileName target
  refine Prog.Obeys.ask looks ?_
  rintro ⟨result, targetDirId⟩
  cases result with
  | isDir =>
      obtain ⟨counts, deletes⟩ := deletes targetDirId _ rfl
      refine Prog.Obeys.ask counts fun children => ?_
      split_ifs with many failed
      · exact follows.respond _ _ _ _ _
      · exact follows.respond _ _ _ _ _
      · have none : children = 0 := le_antisymm (not_lt.mp many) (not_lt.mp failed)
        subst none
        refine Prog.Obeys.ask deletes fun result => ?_
        split_ifs <;> exact follows.respond _ _ _ _ _
  | isFile | notFound | dbError | badArg => exact follows.respond _ _ _ _ _

theorem obeys_handleRm
    (removes : ∀ payload targetPath, task.copyPayload nameMax false = some payload →
      normalizeCdPath task.session.1.cwd payload pathMax = some targetPath →
      guard ghost (.daoPathGetNodeId task.session.1.userId targetPath) ∧
      ∀ pathId,
        guard (update ghost
            (.daoPathGetNodeId task.session.1.userId targetPath) (.isFile, pathId))
          (.daoRmFile task.session.1.userId pathId)) :
    task.handleRm.Obeys guard update ghost fun _ _ => True := by
  unfold handleRm
  split
  · exact follows.respond _ _ _ _ _
  rename_i payload copied
  split
  · exact follows.respond _ _ _ _ _
  rename_i targetPath normalized
  obtain ⟨looks, deletes⟩ := removes payload targetPath copied normalized
  refine Prog.Obeys.ask looks ?_
  rintro ⟨result, targetFileId⟩
  cases result with
  | isFile =>
      refine Prog.Obeys.ask (deletes targetFileId) ?_
      rintro ⟨status, hash⟩
      cases status with
      | shouldDeletePhysical =>
          refine follows.ask rfl fun unlinked => ?_
          cases unlinked with
          | true => exact follows.respond _ _ _ _ _
          | false =>
              exact follows.bind (quiet_respond _ _ _ _)
                fun _ => follows.respond _ _ _ _ _
      | ok | notFound | alreadyExists | typeMismatch | badArg | dbError
      | conflict => exact follows.respond _ _ _ _ _
  | isDir | notFound | dbError | badArg => exact follows.respond _ _ _ _ _

end HandlerTask

namespace TransferTask

variable (task : TransferTask) {target : UploadTarget} {parentId : UInt64}

theorem obeys_uploadFile
    (creates : IsDigest target.sha256Hex →
      guard ghost (.daoCreateFileWithPath task.session.1.userId target.targetPath
        parentId target.fileName target.sha256Hex target.fileSize)) :
    (task.uploadFile target parentId).Obeys guard update ghost
      fun _ _ => True := by
  unfold uploadFile
  split
  · exact follows.respond _ _ _ _ _
  refine follows.ask rfl fun opened => ?_
  cases opened with
  | none => exact follows.respond _ _ _ _ _
  | some fd =>
      have fails : ∀ status, (task.closeAndFail fd status).Obeys guard update ghost
          fun _ _ => True := fun status =>
        (follows.quiet (task.transfers_closeAndFail fd status).silent.quiet ghost).mono
          fun _ _ _ => trivial
      refine follows.bind (task.transfers_openPart fd target).silent.quiet fun step => ?_
      cases step with
      | stops status => exact fails status
      | goesOn =>
          refine follows.bind (transfers_digestPart fd).silent.quiet fun digest => ?_
          cases digest with
          | none => exact fails _
          | some actual =>
              refine follows.ask rfl fun _ => ?_
              split_ifs with differs
              · exact follows.ask rfl fun _ => follows.respond _ _ _ _ _
              · rw [ne_eq, not_not] at differs
                refine follows.bind (silent_publishPart _).quiet fun published => ?_
                cases published with
                | false => exact follows.respond _ _ _ _ _
                | true =>
                    refine Prog.Obeys.ask (creates (differs ▸ actual.2))
                      fun created => ?_
                    split_ifs <;> exact follows.respond _ _ _ _ _

theorem obeys_handlePuts
    (puts : ∀ target, task.uploadTarget = .ok target →
      guard ghost (.daoPathGetNodeId task.session.1.userId target.parentPath) ∧
      ∀ parentId parent, parent = update ghost
          (.daoPathGetNodeId task.session.1.userId target.parentPath)
          (.isDir, parentId) →
        guard parent (.daoPathGetNodeId task.session.1.userId target.targetPath) ∧
        ∀ pathId free, free = update parent
            (.daoPathGetNodeId task.session.1.userId target.targetPath)
            (.notFound, pathId) →
          guard free (.daoFileFindByHash target.sha256Hex target.fileSize) ∧
          ∀ fileId found, 0 ≤ found → ∀ known, known = update free
              (.daoFileFindByHash target.sha256Hex target.fileSize)
              (found, fileId) →
            (found = 1 →
              guard known (.daoLinkExistingFile task.session.1.userId
                target.targetPath parentId target.fileName fileId)) ∧
            (IsDigest target.sha256Hex →
              guard known (.daoCreateFileWithPath task.session.1.userId
                target.targetPath parentId target.fileName target.sha256Hex
                target.fileSize))) :
    task.handlePuts.Obeys guard update ghost fun _ _ => True := by
  unfold handlePuts
  split
  · exact follows.respond _ _ _ _ _
  rename_i target accepted
  obtain ⟨looks, puts⟩ := puts target accepted
  refine Prog.Obeys.ask looks ?_
  rintro ⟨result, parentId⟩
  cases result with
  | isDir =>
      obtain ⟨looks, puts⟩ := puts parentId _ rfl
      refine Prog.Obeys.ask looks ?_
      rintro ⟨result, pathId⟩
      cases result with
      | notFound =>
          obtain ⟨looks, puts⟩ := puts pathId _ rfl
          refine Prog.Obeys.ask looks ?_
          rintro ⟨found, fileId⟩
          dsimp only
          split_ifs with failed isFound
          · exact follows.respond _ _ _ _ _
          · obtain ⟨links, -⟩ := puts fileId found (not_lt.mp failed) _ rfl
            refine Prog.Obeys.ask (links isFound) fun linked => ?_
            split_ifs
            · exact follows.respond _ _ _ _ _
            · refine follows.bind (task.transfers_sendPutsResume _).silent.quiet fun sent => ?_
              split_ifs
              · trivial
              · exact follows.respond _ _ _ _ _
          · obtain ⟨-, creates⟩ := puts fileId found (not_lt.mp failed) _ rfl
            exact task.obeys_uploadFile follows creates
      | isDir | isFile | dbError | badArg => exact follows.respond _ _ _ _ _
  | notFound | isFile | dbError | badArg => exact follows.respond _ _ _ _ _

theorem obeys_handleGets
    (gets : ∀ targetPath, task.getsTargetPath = some targetPath →
      guard ghost (.daoGetFileMeta task.session.1.userId targetPath)) :
    task.handleGets.Obeys guard update ghost fun _ _ => True := by
  have quiet : ∀ {program : Handler Unit} (ghost : γ), Quiet program →
      program.Obeys guard update ghost fun _ _ => True := fun ghost isQuiet =>
    (follows.quiet isQuiet ghost).mono fun _ _ _ => trivial
  unfold handleGets
  split
  · exact follows.respond _ _ _ _ _
  rename_i payload copied
  split
  · exact follows.respond _ _ _ _ _
  rename_i targetPath normalized
  have computed : task.getsTargetPath = some targetPath := by
    rw [getsTargetPath, copied]
    exact normalized
  refine Prog.Obeys.ask (gets targetPath computed) fun found => ?_
  split
  · trivial
  · exact follows.respond _ _ _ _ _
  · exact follows.respond _ _ _ _ _
  · exact follows.respond _ _ _ _ _
  · rename_i status found _ _ _
    have sends : Quiet
        (HandlerTask.sendPacket .getsResp .ok task.packet.sessionId found.payload) :=
      callsOnly_sendPacket rfl
    refine follows.bind sends fun sent => ?_
    split
    · trivial
    refine follows.bind task.receiving_recvTransferPacket.transfers.silent.quiet
      fun packet => ?_
    cases packet with
    | none => trivial
    | some packet =>
        dsimp only
        split
        · exact follows.respond _ _ _ _ _
        · apply quiet
          apply task.callsOnly_download
          · exact fun op isTransfer => by
              simp only [TaskOp.isTransfer, TaskOp.isSilent, Bool.and_eq_true] at isTransfer
              exact isTransfer.1.1
          · rfl

end TransferTask

end Shapes

end CloudDrive
