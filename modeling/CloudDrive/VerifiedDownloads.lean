import CloudDrive.DownloadRuns
import CloudDrive.Framing

/-!
# Verified downloads

A download from a server that may send any bytes.  Its steps change nothing but
the partial file, until that file has the size and the digest that the server
has announced and is renamed to the target.
-/

namespace CloudDrive

open FileSystem

/-- The files of the client and the connection of a transfer. -/
structure TransferLink where
  files : ClientFiles
  /-- What the server sends and the client has not received. -/
  stream : Bytes
  /-- The packets that have arrived. -/
  received : List Packet

/-- What the environment decides about a call, and when bytes arrive. -/
structure LinkChoice where
  client : ClientChoice
  events : List SocketEvent

/-- A call of a worker.  A receive that still waits at the end of its schedule
fails. -/
def performLink (sha256 : Sha256) (choice : LinkChoice) (op : ClientOp)
    (link : TransferLink) : op.Answer × TransferLink :=
  match op with
  | .recv =>
      let (outcome, _, stream) := protocolRecvPacket choice.events link.stream
      let packet := outcome.getD none
      (packet,
        { link with stream, received := link.received ++ packet.toList })
  | op =>
      let (answer, files) := performClient sha256 choice.client op link.files
      (answer, { link with files })

/-- What the first packet announces, if the download accepts it. -/
def ClientTask.announced (task : ClientTask) : List Packet → Option FileInfo
  | [] => none
  | packet :: _ =>
      if packet.sessionId = task.sessionId ∧ packet.type = CmdType.getsResp.code ∧
          packet.status = StatusCode.ok.code then FileInfo.read packet.payload
      else none

/-- A content has the size and the digest of an announcement, whose digits may
be in either case. -/
structure FileInfo.Describes (sha256 : Sha256) (info : FileInfo) (data : Bytes) :
    Prop where
  size : data.length = info.fileSize.toNat
  digest : (sha256 data).1 = info.sha256Hex.map toLower

/-- The target holds what the server has announced. -/
def TransferLink.Complete (sha256 : Sha256) (task : ClientTask)
    (link : TransferLink) : Prop :=
  ∃ info data, task.announced link.received = some info ∧
    link.files.content task.targetPath = some data ∧ info.Describes sha256 data

/-- The partial file of a task has taken the name of its target. -/
def ClientTask.replaces (task : ClientTask) : Prog.Exchange ClientOp.Answer :=
  ⟨.rename task.partPath task.targetPath, true⟩

/-- No name but that of the partial file is affected, unless it replaces the
target with what the server has announced. -/
structure Careful (sha256 : Sha256) (task : ClientTask) (before : TransferLink)
    (exchange : Prog.Exchange ClientOp.Answer) (after : TransferLink) : Prop where
  others : ∀ name, name ≠ task.partPath → name ≠ task.targetPath →
    SameAt before.files after.files name
  target : SameAt before.files after.files task.targetPath ∨
    exchange = task.replaces ∧ after.Complete sha256 task

section Calls

variable {sha256 : Sha256} {task : ClientTask} {link : TransferLink}
  {exchange : Prog.Exchange ClientOp.Answer} {after : TransferLink}

theorem careful_of_same
    (same : ∀ name ≠ task.partPath, SameAt link.files after.files name)
    (different : task.targetPath ≠ task.partPath) :
    Careful sha256 task link exchange after :=
  ⟨fun name notPart _ => same name notPart, Or.inl (same _ different)⟩

theorem careful_of_files (same : after.files = link.files) :
    Careful sha256 task link exchange after := by
  have sameAt (name : Bytes) : SameAt link.files after.files name := by
    rw [same]
    exact .refl link.files name
  exact ⟨fun name _ _ => sameAt name, Or.inl (sameAt _)⟩

theorem announced_of_isPrefix {received later : List Packet} {info : FileInfo}
    (earlier : received <+: later)
    (announced : task.announced received = some info) :
    task.announced later = some info := by
  obtain ⟨more, rfl⟩ := earlier
  cases received with
  | nil => cases announced
  | cons packet received => exact announced

theorem TransferLink.Complete.later (complete : link.Complete sha256 task)
    (same : SameAt link.files after.files task.targetPath)
    (earlier : link.received <+: after.received) :
    after.Complete sha256 task := by
  obtain ⟨info, data, announced, holds, describes⟩ := complete
  exact ⟨info, data, announced_of_isPrefix earlier announced,
    same.content.trans holds, describes⟩

end Calls

namespace ClientTask

/-- The evaluations of a worker on its connection, all of whose steps are
careful. -/
abbrev Secures (sha256 : Sha256) (task : ClientTask) {α : Type}
    (program : ClientProgram α) (link : TransferLink)
    (post : α → TransferLink → Prop) : Prop :=
  Prog.Throughout (performLink sha256) (Careful sha256 task) program link post

section Walk

variable {sha256 : Sha256} {task : ClientTask} {link : TransferLink}

theorem secures_taskSend (type : CmdType) (status : StatusCode) (payload : Bytes) :
    task.Secures sha256 (task.taskSend type status payload) link
      fun _ after => after = link := by
  refine fun choice => ⟨careful_of_files rfl, ?_⟩
  change task.Secures sha256 (ite _ _ _) link _
  split_ifs
  · exact rfl
  · exact rfl
  · exact fun choice => ⟨careful_of_files rfl, rfl⟩

theorem secures_reportError (status : StatusCode) :
    task.Secures sha256 (task.reportError status) link
      fun result after => result = false ∧ after = link := by
  refine fun choice => ⟨careful_of_files rfl, ?_⟩
  change task.Secures sha256 (ite _ _ _) link _
  split_ifs
  · exact ⟨rfl, rfl⟩
  · refine (secures_taskSend .error status []).bind ?_
    rintro _ _ rfl
    exact ⟨rfl, rfl⟩

/-- A download that reports an error does not succeed. -/
theorem secures_refusal (status : StatusCode) :
    task.Secures sha256 (task.reportError status) link
      fun result after => result = true → after.Complete sha256 task := by
  refine (secures_reportError status).mono ?_
  rintro _ _ ⟨rfl, -⟩ success
  cases success

/-- A packet that is returned is the last that has arrived. -/
theorem secures_taskRecv :
    task.Secures sha256 task.taskRecv link fun packet after =>
      after.files = link.files ∧ link.received <+: after.received ∧
        ∀ arrived, packet = some arrived →
          arrived.sessionId = task.sessionId ∧
            after.received = link.received ++ [arrived] := by
  refine fun choice => ⟨careful_of_files rfl, ?_⟩
  change task.Secures sha256 (ite _ _ _) link _
  split_ifs
  · exact ⟨rfl, List.prefix_rfl, nofun⟩
  · refine fun choice => ⟨careful_of_files rfl, ?_⟩
    dsimp only [performLink]
    rcases (protocolRecvPacket choice.events link.stream).1.getD none with
      _ | packet
    · exact ⟨rfl, List.prefix_append _ _, nofun⟩
    · change task.Secures sha256 (ite _ _ _) _ _
      split_ifs with foreign
      · refine (secures_taskSend .error .unauthorized []).bind ?_
        rintro _ _ rfl
        exact ⟨rfl, List.prefix_append _ _, nofun⟩
      · refine ⟨rfl, List.prefix_append _ _, ?_⟩
        rintro _ ⟨⟩
        exact ⟨Decidable.not_not.mp foreign, rfl⟩

/-- Nothing is said about a transfer that fails. -/
theorem secures_closeWith {fd : Nat} {body : ClientProgram Bool}
    {good : TransferLink → Prop}
    (secures : task.Secures sha256 body link fun result after =>
      result = true → good { after with files := after.files.close fd }) :
    task.Secures sha256 (closeWith fd body) link fun result after =>
      result = true → good after := by
  refine secures.bind fun result after finished => ?_
  refine fun choice => ⟨?_, finished⟩
  exact ⟨fun _ _ _ => sameAt_of_eq rfl rfl, Or.inl (sameAt_of_eq rfl rfl)⟩

theorem secures_closeWith_error {fd : Nat} {status : StatusCode}
    {good : TransferLink → Prop} :
    task.Secures sha256 (closeWith fd (task.reportError status)) link
      fun result after => result = true → good after :=
  secures_closeWith ((secures_reportError status).mono
    fun _ _ failed succeeded => by cases failed.1.symm.trans succeeded)

theorem secures_closeWith_false {fd : Nat} {good : TransferLink → Prop} :
    task.Secures sha256 (closeWith fd (pure false)) link
      fun result after => result = true → good after :=
  secures_closeWith nofun

/-- What `hash_matches` compares. -/
theorem secures_hashMatches {fd : Nat} {name data : Bytes} {offset : Nat}
    (isOpen : link.files.IsOpen fd name data offset) (info : FileInfo) :
    task.Secures sha256 (hashMatches fd info.fileSize info.sha256Hex) link
      fun result after => after.received = link.received ∧
        (∀ name, SameAt link.files after.files name) ∧
        (∃ position, after.files.IsOpen fd name data position) ∧
        (result = true → UInt64.ofNat data.length = info.fileSize ∧
          (sha256 data).1 = info.sha256Hex.map toLower) := by
  refine fun choice => ⟨careful_of_files rfl, ?_⟩
  dsimp only [performLink, performClient]
  rw [isOpen.bytes]
  cases choice.client.fails with
  | true => exact ⟨rfl, .refl _, ⟨offset, isOpen⟩, nofun⟩
  | false =>
      change task.Secures sha256 (ite _ _ _) link _
      split_ifs with differs
      · exact ⟨rfl, .refl _, ⟨offset, isOpen⟩, nofun⟩
      · refine fun choice => ?_
        dsimp only [performLink, performClient]
        rw [isOpen.bytes]
        cases choice.client.fails with
        | true =>
            exact ⟨careful_of_files rfl, rfl, .refl _, ⟨offset, isOpen⟩, nofun⟩
        | false =>
            have sought := sought_seek link.files fd data.length
            refine ⟨⟨fun name _ _ => sought.sameAt name,
              Or.inl (sought.sameAt _)⟩, rfl, sought.sameAt,
              ⟨_, isOpen.seek _⟩, fun equal => ?_⟩
            have equal := of_decide_eq_true equal
            rw [(sha256 data).2.map_toLower] at equal
            exact ⟨Decidable.not_not.mp differs, equal⟩

/-- The target is complete already. -/
theorem secures_endDownload_final {fd : Nat} {info : FileInfo}
    (complete : link.Complete sha256 task) :
    task.Secures sha256 (task.endDownload fd info true) link
      fun result after => result = true → after.Complete sha256 task := by
  refine secures_taskRecv.bind ?_
  rintro (_ | packet) after ⟨same, earlier, -⟩
  · exact secures_closeWith_false
  change task.Secures sha256 (ite _ _ _) after _
  split_ifs
  · exact secures_closeWith_error
  · have unchanged : SameAt link.files (after.files.close fd) task.targetPath := by
      rw [same]
      exact sameAt_of_eq rfl rfl
    refine secures_closeWith ((secures_taskSend .ack .ok []).mono ?_)
    rintro _ _ rfl -
    exact complete.later unchanged earlier
  · exact absurd rfl ‹¬true = true›

theorem secures_downloadFrom_final {fd : Nat} {info : FileInfo}
    (complete : link.Complete sha256 task) :
    task.Secures sha256 (task.downloadFrom fd info info.fileSize true) link
      fun result after => result = true → after.Complete sha256 task := by
  refine (secures_taskSend .resumePos .ok _).bind ?_
  rintro (_ | _) _ rfl
  · exact secures_closeWith_false
  · rw [UInt64.sub_self]
    exact secures_endDownload_final complete

/-- The partial file is renamed only if it is what the server has announced. -/
theorem secures_endDownload_part {fd : Nat} {info : FileInfo}
    {data : Bytes} {offset : Nat}
    (announced : task.announced link.received = some info)
    (isOpen : link.files.IsOpen fd task.partPath data offset)
    (small : data.length < 2 ^ 64) :
    task.Secures sha256 (task.endDownload fd info false) link
      fun result after => result = true → after.Complete sha256 task := by
  refine secures_taskRecv.bind ?_
  rintro (_ | packet) after ⟨same, earlier, -⟩
  · exact secures_closeWith_false
  change task.Secures sha256 (ite _ _ _) after _
  split_ifs with malformed isFinal
  · exact secures_closeWith_error
  · cases isFinal
  refine fun choice => ⟨careful_of_files rfl, ?_⟩
  change task.Secures sha256 (ite _ _ _) after _
  split_ifs
  · exact secures_closeWith_error
  rw [← same] at isOpen
  refine (secures_hashMatches isOpen info).bind ?_
  rintro (_ | _) checked ⟨sameReceived, -, ⟨position, isOpenNow⟩, equal⟩
  · exact secures_closeWith_error
  obtain ⟨size, digest⟩ := equal rfl
  have describes : info.Describes sha256 data := by
    refine ⟨?_, digest⟩
    rw [← size, UInt64.toNat_ofNat', Nat.mod_eq_of_lt small]
  have announcedNow : task.announced checked.received = some info := by
    rw [sameReceived]
    exact announced_of_isPrefix earlier announced
  refine fun choice => ⟨⟨fun _ _ _ => sameAt_of_eq rfl rfl,
    Or.inl (sameAt_of_eq rfl rfl)⟩, fun choice => ?_⟩
  dsimp only [performLink, performClient]
  have holds : (checked.files.close fd).content task.partPath = some data :=
    isOpenNow.content
  split_ifs with fails
  · exact ⟨careful_of_files rfl, secures_refusal .ioError⟩
  · have present := names_ne_none holds
    have complete : TransferLink.Complete sha256 task
        { checked with
          files := (checked.files.close fd).rename task.partPath task.targetPath } :=
      ⟨info, data, announcedNow, (content_rename present).trans holds, describes⟩
    refine ⟨⟨fun name notPart notTarget => sameAt_rename notPart notTarget,
      Or.inr ⟨rfl, complete⟩⟩, (secures_taskSend .ack .ok []).mono ?_⟩
    rintro _ _ rfl -
    exact complete

section Part

variable (different : task.targetPath ≠ task.partPath) {fd : Nat} {data : Bytes}
  {info : FileInfo}

include different

theorem secures_writeN {fuel : Nat} {new : Bytes} (enough : new.length ≤ fuel)
    (isOpen : link.files.IsOpen fd task.partPath data data.length) :
    task.Secures sha256 (writeN fd fuel new) link fun result after =>
      after.received = link.received ∧ (result = true →
        after.files.IsOpen fd task.partPath (data ++ new) (data ++ new).length) := by
  induction fuel generalizing link data new with
  | zero =>
      rw [List.eq_nil_of_length_eq_zero (Nat.le_zero.mp enough), List.append_nil]
      exact ⟨rfl, fun _ => isOpen⟩
  | succ fuel inductionHypothesis =>
      cases new with
      | nil =>
          rw [List.append_nil]
          exact ⟨rfl, fun _ => isOpen⟩
      | cons byte new =>
          -- The rest of the bytes after a write that moves some of them.
          have rest (more : Nat) : task.Secures sha256
              (writeN fd fuel (new.drop more))
              { link with files := link.files.write fd (byte :: new.take more) }
              fun result after => after.received = link.received ∧
                (result = true → after.files.IsOpen fd task.partPath
                  (data ++ byte :: new) (data ++ byte :: new).length) := by
            have written := isOpen.write rfl (byte :: new.take more)
            rw [← List.length_append] at written
            have short : (new.drop more).length ≤ fuel := by
              rw [List.length_cons] at enough
              rw [List.length_drop]
              omega
            have whole : data ++ byte :: new.take more ++ new.drop more =
                data ++ byte :: new := by
              simp
            rw [← whole]
            exact inductionHypothesis short written
          refine fun choice => ?_
          dsimp only [performLink, performClient]
          split_ifs with writes
          · simp only [List.length_cons, Nat.add_one_sub_one, List.take_succ_cons]
            exact ⟨careful_of_same (fun name notPart =>
              isOpen.sameAt_write notPart _) different, rest _⟩
          · exact ⟨careful_of_files rfl, rfl, nofun⟩

theorem secures_receiveData {fuel remaining : Nat}
    (isOpen : link.files.IsOpen fd task.partPath data data.length) :
    task.Secures sha256 (task.receiveData fd fuel remaining) link
      fun result after => link.received <+: after.received ∧
        (result = true → ∃ new : Bytes, new.length ≤ remaining ∧
          ∃ offset, after.files.IsOpen fd task.partPath (data ++ new) offset) := by
  have finished {link : TransferLink} {data : Bytes} (remaining : Nat)
      (isOpen : link.files.IsOpen fd task.partPath data data.length) :
      ∃ new : Bytes, new.length ≤ remaining ∧
        ∃ offset, link.files.IsOpen fd task.partPath (data ++ new) offset :=
    ⟨[], Nat.zero_le _, data.length, by rwa [List.append_nil]⟩
  induction fuel generalizing link data remaining with
  | zero =>
      cases remaining <;> exact ⟨List.prefix_rfl, fun _ => finished _ isOpen⟩
  | succ fuel inductionHypothesis =>
      cases remaining with
      | zero => exact ⟨List.prefix_rfl, fun _ => finished _ isOpen⟩
      | succ remaining =>
          refine fun choice => ⟨careful_of_files rfl, ?_⟩
          change task.Secures sha256 (ite _ _ _) link _
          split_ifs
          · exact ⟨List.prefix_rfl, nofun⟩
          refine secures_taskRecv.bind ?_
          rintro (_ | packet) after ⟨same, earlier, -⟩
          · exact ⟨earlier, nofun⟩
          change task.Secures sha256 (ite _ _ _) after _
          rw [← same] at isOpen
          split_ifs with malformed
          · refine (secures_reportError .protocolError).mono ?_
            rintro _ _ ⟨rfl, rfl⟩
            exact ⟨earlier, nofun⟩
          refine (secures_writeN different le_rfl isOpen).bind ?_
          rintro (_ | _) last ⟨sameReceived, written⟩
          · refine (secures_reportError .ioError).mono ?_
            rintro _ _ ⟨rfl, rfl⟩
            exact ⟨sameReceived ▸ earlier, nofun⟩
          simp only [not_or, Nat.not_lt] at malformed
          obtain ⟨-, -, -, -, fits⟩ := malformed
          refine (inductionHypothesis (written rfl)).mono ?_
          rintro result final ⟨later, received⟩
          refine ⟨(sameReceived ▸ earlier).trans later, fun succeeded => ?_⟩
          obtain ⟨new, short, offset, isOpenNow⟩ := received succeeded
          refine ⟨packet.payload ++ new, ?_, offset, ?_⟩
          · rw [List.length_append]
            omega
          · rwa [← List.append_assoc]

theorem secures_downloadFrom_part {offset : UInt64}
    (announced : task.announced link.received = some info)
    (isOpen : link.files.IsOpen fd task.partPath data data.length)
    (atEnd : offset.toNat = data.length) (within : offset ≤ info.fileSize) :
    task.Secures sha256 (task.downloadFrom fd info offset false) link
      fun result after => result = true → after.Complete sha256 task := by
  refine (secures_taskSend .resumePos .ok _).bind ?_
  rintro (_ | _) _ rfl
  · exact secures_closeWith_false
  refine (secures_receiveData different isOpen).bind ?_
  rintro (_ | _) after ⟨earlier, received⟩
  · exact secures_closeWith_false
  obtain ⟨new, short, position, isOpenNow⟩ := received rfl
  refine secures_endDownload_part
    (announced_of_isPrefix earlier announced) isOpenNow ?_
  rw [UInt64.toNat_sub_of_le _ _ within] at short
  have bound := info.fileSize.toNat_lt
  have withinNat := UInt64.le_iff_toNat_le.mp within
  rw [List.length_append]
  omega

theorem secures_resumeAt {offset : UInt64} {position : Nat}
    (announced : task.announced link.received = some info)
    (isOpen : link.files.IsOpen fd task.partPath data position)
    (atEnd : offset.toNat = data.length) (within : offset ≤ info.fileSize) :
    task.Secures sha256 (task.resumeAt fd info offset) link
      fun result after => result = true → after.Complete sha256 task := by
  refine fun choice => ?_
  dsimp only [performLink, performClient]
  cases choice.client.fails with
  | true => exact ⟨careful_of_files rfl, secures_closeWith_error⟩
  | false =>
      have sought := isOpen.seek offset.toNat
      rw [atEnd] at sought
      refine ⟨careful_of_same (fun _ _ => sameAt_of_eq rfl rfl) different, ?_⟩
      refine secures_downloadFrom_part different announced ?_ atEnd within
      rw [atEnd]
      exact sought

theorem secures_downloadPart
    (announced : task.announced link.received = some info)
    (small : ((link.files.content task.partPath).getD []).length < 2 ^ 63) :
    task.Secures sha256 (task.downloadPart info) link
      fun result after => result = true → after.Complete sha256 task := by
  refine fun choice => ?_
  dsimp only [performLink]
  rcases performed : performClient sha256 choice.client
    (.openOrCreate task.partPath) link.files with ⟨opened, files⟩
  rcases openClient_creates performed with ⟨rfl, rfl⟩ | ⟨rfl, -, rfl⟩
  · exact ⟨careful_of_files rfl, secures_refusal .ioError⟩
  clear performed
  generalize choice.client.fd = fd
  have isOpen : (link.files.openOrCreate task.partPath fd).IsOpen fd task.partPath
      ((link.files.content task.partPath).getD []) 0 := isOpen_openOrCreate
  refine ⟨careful_of_same (fun _ notPart => sameAt_openOrCreate notPart) different,
    fun choice => ⟨careful_of_files rfl, ?_⟩⟩
  generalize (link.files.content task.partPath).getD [] = data at small isOpen
  dsimp only [performLink, performClient]
  rw [isOpen.bytes]
  cases choice.client.fails with
  | true => exact secures_closeWith_error
  | false =>
      change task.Secures sha256 (ite _ _ _) _ _
      split_ifs with larger
      · refine fun choice => ?_
        dsimp only [performLink, performClient]
        cases choice.client.fails with
        | true => exact ⟨careful_of_files rfl, secures_closeWith_error⟩
        | false =>
            refine ⟨careful_of_same (fun _ notPart =>
              isOpen.refers.sameAt_replace _ notPart) different, ?_⟩
            exact secures_resumeAt different announced isOpen.truncate rfl
              (UInt64.le_iff_toNat_le.mpr (Nat.zero_le _))
      · exact secures_resumeAt different announced isOpen (toNat_fileSize small)
          (UInt64.not_lt.mp larger)

/-- The target may hold the content already. -/
theorem secures_downloadFile (measurable : link.files.Measurable)
    (announced : task.announced link.received = some info) :
    task.Secures sha256 (task.downloadFile info) link
      fun result after => result = true → after.Complete sha256 task := by
  rw [downloadFile]
  split_ifs
  · exact secures_refusal .protocolError
  refine fun choice => ?_
  dsimp only [performLink]
  rcases performed : performClient sha256 choice.client
    (.openFile task.targetPath) link.files with ⟨opened, files⟩
  rcases openClient_existing performed with
    ⟨rfl, rfl⟩ | ⟨rfl, -, rfl, file, named⟩
  · exact ⟨careful_of_files rfl,
      secures_downloadPart different announced (measurable.getD _)⟩
  clear performed
  generalize choice.client.fd = fd
  obtain ⟨data, holds⟩ : ∃ data, link.files.content task.targetPath = some data :=
    ⟨_, by rw [FileSystem.content, named, Option.map_some]⟩
  have isOpen : (link.files.openFile task.targetPath fd).IsOpen fd
      task.targetPath data 0 := isOpen_openFile holds
  refine ⟨careful_of_same (fun _ _ => sameAt_of_eq rfl rfl) different, ?_⟩
  refine (secures_hashMatches isOpen info).bind ?_
  rintro (_ | _) checked ⟨sameReceived, same, -, equal⟩
  · refine fun choice => ⟨careful_of_same (fun _ _ => sameAt_of_eq rfl rfl) different,
      secures_downloadPart different (sameReceived ▸ announced) ?_⟩
    have unchanged : (checked.files.close fd).content task.partPath =
        link.files.content task.partPath := (same task.partPath).content
    change List.length (((checked.files.close fd).content _).getD []) < _
    rw [unchanged]
    exact measurable.getD _
  · obtain ⟨size, digest⟩ := equal rfl
    refine secures_downloadFrom_final ⟨info, data, sameReceived ▸ announced,
      (same _).content.trans holds, ?_, digest⟩
    rw [← size, toNat_fileSize (measurable _ _ holds)]

theorem secures_runDownload (measurable : link.files.Measurable)
    (first : link.received = []) :
    task.Secures sha256 task.runDownload link
      fun result after => result = true → after.Complete sha256 task := by
  refine (secures_taskSend .getsReq .ok task.remotePath).bind ?_
  rintro (_ | _) _ rfl
  · exact nofun
  refine secures_taskRecv.bind ?_
  rintro (_ | packet) after ⟨same, -, arrived⟩
  · exact nofun
  obtain ⟨session, received⟩ := arrived packet rfl
  change task.Secures sha256 (ite _ _ _) after _
  split_ifs with refused
  · exact nofun
  rw [not_or, Decidable.not_not, Decidable.not_not] at refused
  have announced : task.announced after.received =
      FileInfo.read packet.payload := by
    rw [received, first]
    exact if_pos ⟨session, refused⟩
  rcases read : FileInfo.read packet.payload with _ | info
  · exact nofun
  · exact secures_downloadFile different (by rwa [same]) (announced.trans read)

end Part

end Walk

end ClientTask

theorem sameAt_of_steps {sha256 : Sha256} {α : Type} {program : ClientProgram α}
    {choices : Nat → LinkChoice} (link : TransferLink) {name : Bytes}
    (all : ∀ step ∈ program.steps (performLink sha256) choices link,
      SameAt step.1.files step.2.2.files name) :
    SameAt link.files (program.eval (performLink sha256) choices link).2.files
      name :=
  Prog.eval_of_steps
    (fun before after : TransferLink => SameAt before.files after.files name)
    (fun link => .refl link.files name) SameAt.trans all

/-- The packets of a server that sends the file `/f`. -/
def someReply : Bytes :=
  ([Packet.init .getsResp .ok someRuntime.sessionId
      (FileMeta.payload ⟨2, 1, ascii "f", 3, Store.someHash⟩),
    Packet.init .fileData .ok someRuntime.sessionId (ascii "abc"),
    Packet.init .fileEnd .ok someRuntime.sessionId []].map Packet.encode).flatten

/-- The file of an earlier version, and a server that answers. -/
def someLink : TransferLink :=
  ⟨.single (ascii "downloads/f") (ascii "old"), someReply, []⟩

end CloudDrive
