import CloudDrive.TransferHandlers

/-!
# The phases of an upload on the server

What `handle_puts` has done with its temporary file when it makes a call, as a
ghost automaton along its calls: the file is opened once, its size is announced,
what is written is what was received, and what is published was digested.
-/

namespace CloudDrive

/-- What has happened to the temporary file since it was opened. -/
inductive PartStage where
  | fresh
  | sized (size : UInt64)
  /-- The size has been sent to the client. -/
  | announced (size : UInt64)
  /-- The position is behind the announced size and everything written since;
  `pending` has been received and is to be written. -/
  | receiving (pending : Bytes)
  /-- Nothing will be written any more. -/
  | ended
deriving DecidableEq

inductive PutsPhase where
  /-- No temporary file is open; `ready` says that no size was announced and
  that no data was received. -/
  | idle (ready : Bool)
  | writing (sha256Hex : Bytes) (fd : Nat) (stage : PartStage)
  | digested (sha256Hex : Bytes) (fd : Nat) (actual : Bytes)
  | closed (sha256Hex : Bytes) (verified : Bool)
deriving DecidableEq

namespace PutsPhase

/-- The calls of an upload in each phase. -/
def Allows : PutsPhase → TaskOp → Prop
  | .idle ready, .openFile (.part _) => ready = true
  | .idle _, .truncate _ | .idle _, .lseek .. | .idle _, .write ..
  | .idle _, .fsync _ | .idle _, .digest _ | .idle _, .unlink _
  | .idle _, .publish _ | .idle _, .objectExists _ => False
  | .idle _, _ => True
  | .writing _ own stage, .fstat fd => fd = own ∧ stage = .fresh
  | .writing _ own stage, .truncate fd => fd = own ∧ ∃ size, stage = .sized size
  | .writing _ _ stage, .send packet =>
      packet.type = CmdType.putsResp.code →
        ∃ size, stage = .sized size ∧ packet.payload = hostToNet size
  | .writing _ own stage, .lseek fd offset =>
      fd = own ∧ (stage = .announced offset ∨ stage = .ended)
  | .writing _ _ stage, .recv => stage = .receiving []
  | .writing _ own stage, .write fd data => fd = own ∧ stage = .receiving data
  | .writing _ own _, .fsync fd | .writing _ own _, .close fd => fd = own
  | .writing _ own stage, .digest fd => fd = own ∧ stage = .ended
  | .digested _ own _, .close fd => fd = own
  | .closed sha256Hex _, .unlink file => file = .part sha256Hex
  | .closed sha256Hex verified, .publish published =>
      published = sha256Hex ∧ verified = true
  | .closed .., .send packet => packet.type ≠ CmdType.putsResp.code
  | .closed .., .objectExists _ | .closed .., .daoCreateFileWithPath .. => True
  | _, _ => False

def learn (phase : PutsPhase) (op : TaskOp) (answer : op.Answer) : PutsPhase :=
  match phase, op, answer with
  | .idle _, .openFile (.part sha256Hex), some fd => .writing sha256Hex fd .fresh
  | .idle ready, .send packet, _ =>
      .idle (ready && packet.type ≠ CmdType.putsResp.code)
  | .idle ready, .recv, some packet =>
      .idle (ready && packet.type ≠ CmdType.fileData.code)
  | .writing hash fd _, .fstat _, some size => .writing hash fd (.sized size)
  | .writing hash fd _, .fstat _, none => .writing hash fd .ended
  | .writing hash fd _, .truncate _, truncated =>
      .writing hash fd (if truncated then .sized 0 else .ended)
  | .writing hash fd (.sized size), .send packet, sent =>
      if packet.type = CmdType.putsResp.code then
        .writing hash fd (if sent then .announced size else .ended)
      else .writing hash fd (.sized size)
  | .writing hash fd (.announced _), .lseek .., positioned =>
      .writing hash fd (if positioned then .receiving [] else .ended)
  | .writing hash fd _, .recv, some packet =>
      .writing hash fd
        (if packet.type = CmdType.fileData.code then .receiving packet.payload
          else .ended)
  | .writing hash fd _, .recv, none => .writing hash fd .ended
  | .writing hash fd (.receiving pending), .write .., some more =>
      .writing hash fd (.receiving (pending.drop (more + 1)))
  | .writing hash fd _, .write .., none => .writing hash fd .ended
  | .writing hash fd _, .fsync _, _ => .writing hash fd .ended
  | .writing hash fd _, .digest _, some actual => .digested hash fd actual.1
  | .writing hash _ _, .close _, _ => .closed hash false
  | .digested hash _ actual, .close _, _ => .closed hash (actual = hash)
  | phase, _, _ => phase

theorem learn_send_resume {hash : Bytes} {fd : Nat} {size : UInt64}
    {packet : Packet} (isResume : packet.type = CmdType.putsResp.code)
    (sent : Bool) :
    (writing hash fd (.sized size)).learn (.send packet) sent =
      .writing hash fd (if sent then .announced size else .ended) :=
  if_pos isResume

theorem learn_send_other {hash : Bytes} {fd : Nat} {packet : Packet}
    (other : packet.type ≠ CmdType.putsResp.code) (stage : PartStage)
    (sent : Bool) :
    (writing hash fd stage).learn (.send packet) sent = .writing hash fd stage := by
  cases stage with
  | sized size => exact if_neg other
  | fresh | announced | receiving | ended => rfl

end PutsPhase

/-- A handler goes through the phases of an upload. -/
abbrev Passes {α : Type} (phase : PutsPhase) (program : Handler α)
    (post : α → PutsPhase → Prop) : Prop :=
  program.Obeys PutsPhase.Allows PutsPhase.learn phase post

theorem CmdType.code_ne_putsResp {type : CmdType} (other : type ≠ .putsResp) :
    type.code ≠ CmdType.putsResp.code := by
  cases type <;> first | exact absurd rfl other | decide

section Responses

variable {type : CmdType} {status : StatusCode} {sessionId : SessionId}
  {payload : Bytes} {hash : Bytes}

/-- What is sent while the temporary file is not open leaves it closed. -/
theorem passes_respond_idle (ready : Bool) :
    Passes (.idle ready) (HandlerTask.respond type status sessionId payload)
      fun _ after => ∃ ready, after = .idle ready := by
  unfold HandlerTask.respond HandlerTask.sendPacket
  split
  · exact ⟨ready, rfl⟩
  · exact ⟨trivial, fun _ => ⟨_, rfl⟩⟩

theorem passes_respond_writing (other : type ≠ .putsResp) (fd : Nat)
    (stage : PartStage) :
    Passes (.writing hash fd stage)
      (HandlerTask.respond type status sessionId payload)
      fun _ after => after = .writing hash fd stage := by
  have notResume := CmdType.code_ne_putsResp other
  unfold HandlerTask.respond HandlerTask.sendPacket
  split
  · rfl
  · exact ⟨fun isResume => absurd isResume notResume,
      fun sent => PutsPhase.learn_send_other notResume stage sent⟩

theorem passes_respond_closed (other : type ≠ .putsResp) (verified : Bool) :
    Passes (.closed hash verified)
      (HandlerTask.respond type status sessionId payload)
      fun _ after => after = .closed hash verified := by
  unfold HandlerTask.respond HandlerTask.sendPacket
  split
  · rfl
  · exact ⟨CmdType.code_ne_putsResp other, fun _ => rfl⟩

end Responses

namespace TransferTask

variable (task : TransferTask) {hash : Bytes} {fd : Nat}

theorem passes_recvTransferPacket :
    Passes (.writing hash fd (.receiving [])) task.recvTransferPacket
      fun received after => ∃ stage, after = .writing hash fd stage ∧
        ∀ packet, received = some packet →
          stage = if packet.type = CmdType.fileData.code then
            .receiving packet.payload else .ended := by
  unfold recvTransferPacket
  refine Prog.Obeys.ask rfl fun received => ?_
  cases received with
  | none => exact ⟨.ended, rfl, nofun⟩
  | some packet =>
      change Passes (.writing hash fd _) (if _ then _ else _) _
      by_cases ours : packet.sessionId ≠ task.packet.sessionId
      · rw [if_pos ours]
        refine (passes_respond_writing (by decide) fd _).bind fun _ after same => ?_
        exact ⟨_, same, nofun⟩
      · rw [if_neg ours]
        exact ⟨_, rfl, by rintro _ ⟨⟩; rfl⟩

theorem passes_writeN {fuel : Nat} {data : Bytes} (enough : data.length ≤ fuel) :
    Passes (.writing hash fd (.receiving data)) (writeN fd fuel data)
      fun written after => ∃ stage, after = .writing hash fd stage ∧
        (written = true → stage = .receiving []) := by
  induction fuel generalizing data with
  | zero =>
      rw [List.eq_nil_of_length_eq_zero (Nat.le_zero.mp enough)]
      exact ⟨_, rfl, fun _ => rfl⟩
  | succ fuel inductionHypothesis =>
      cases data with
      | nil => exact ⟨_, rfl, fun _ => rfl⟩
      | cons byte data =>
          refine Prog.Obeys.ask ⟨rfl, rfl⟩ fun written => ?_
          cases written with
          | none => exact ⟨.ended, rfl, nofun⟩
          | some more =>
              refine inductionHypothesis ?_
              rw [List.length_drop]
              omega

theorem passes_receiveData (fuel remaining : Nat) :
    Passes (.writing hash fd (.receiving []))
      (task.receiveData fd fuel remaining)
      fun result after => ∃ stage, after = .writing hash fd stage ∧
        ∀ left, result = (.goesOn, false, left) → stage = .receiving [] := by
  induction fuel generalizing remaining with
  | zero => exact ⟨_, rfl, fun _ _ => rfl⟩
  | succ fuel inductionHypothesis =>
      cases remaining with
      | zero => exact ⟨_, rfl, fun _ _ => rfl⟩
      | succ remaining =>
          refine task.passes_recvTransferPacket.bind fun received after reached => ?_
          obtain ⟨stage, rfl, isStage⟩ := reached
          cases received with
          | none => exact ⟨stage, rfl, nofun⟩
          | some packet =>
              dsimp only
              split_ifs with isEnd unexpected
              · exact ⟨stage, rfl, nofun⟩
              · exact ⟨stage, rfl, nofun⟩
              · rw [not_or, not_not] at unexpected
                rw [isStage packet rfl, if_pos unexpected.1]
                refine (passes_writeN (Nat.le_refl _)).bind
                  fun written after reached => ?_
                obtain ⟨stage, rfl, isStage⟩ := reached
                cases written with
                | false => exact ⟨stage, rfl, nofun⟩
                | true =>
                    rw [isStage rfl]
                    exact inductionHypothesis _

theorem passes_receiveFile (offset fileSize : UInt64) :
    Passes (.writing hash fd (.announced offset))
      (task.receiveFile fd offset fileSize)
      fun _ after => ∃ stage, after = .writing hash fd stage := by
  unfold receiveFile
  split_ifs
  · exact ⟨_, rfl⟩
  · refine Prog.Obeys.ask ⟨rfl, Or.inl rfl⟩ fun positioned => ?_
    cases positioned with
    | false => exact ⟨_, rfl⟩
    | true =>
        refine (task.passes_receiveData _ _).bind fun result after reached => ?_
        obtain ⟨stage, rfl, isStage⟩ := reached
        obtain ⟨step, gotFileEnd, remaining⟩ := result
        cases step with
        | stops status => exact ⟨stage, rfl⟩
        | goesOn =>
            change Passes _ (if _ then _ else _) _
            split_ifs with missing gotEnd
            · exact ⟨stage, rfl⟩
            · exact ⟨stage, rfl⟩
            · rw [Bool.not_eq_true] at gotEnd
              rw [isStage remaining (by rw [gotEnd])]
              refine task.passes_recvTransferPacket.bind
                fun received after reached => ?_
              obtain ⟨stage, rfl, -⟩ := reached
              cases received with
              | none => exact ⟨stage, rfl⟩
              | some packet =>
                  dsimp only
                  split_ifs <;> exact ⟨stage, rfl⟩

theorem passes_sendPutsResume (size : UInt64) :
    Passes (.writing hash fd (.sized size)) (task.sendPutsResume size)
      fun sent after => after =
        .writing hash fd (if sent then .announced size else .ended) := by
  unfold sendPutsResume HandlerTask.sendPacket
  rw [if_neg (by rw [length_hostToNet]; decide)]
  exact ⟨fun _ => ⟨size, rfl, rfl⟩, fun sent => PutsPhase.learn_send_resume rfl sent⟩

theorem passes_openPart (target : UploadTarget) :
    Passes (.writing hash fd .fresh) (task.openPart target fd)
      fun _ after => ∃ stage, after = .writing hash fd stage := by
  have resumes : ∀ size, Passes (.writing hash fd (.sized size))
      (do
        if !(← task.sendPutsResume size) then pure (.stops none)
        else task.receiveFile fd size target.fileSize)
      fun _ after => ∃ stage, after = .writing hash fd stage := by
    intro size
    refine (task.passes_sendPutsResume size).bind fun sent after same => ?_
    subst same
    cases sent with
    | false => exact ⟨_, rfl⟩
    | true => exact task.passes_receiveFile size target.fileSize
  unfold openPart
  refine Prog.Obeys.ask ⟨rfl, rfl⟩ fun size => ?_
  cases size with
  | none => exact ⟨_, rfl⟩
  | some size =>
      change Passes (.writing hash fd (.sized size)) (if _ then _ else _) _
      split_ifs
      · refine Prog.Obeys.ask ⟨rfl, size, rfl⟩ fun truncated => ?_
        cases truncated with
        | false => exact ⟨_, rfl⟩
        | true => exact resumes 0
      · exact resumes size

theorem passes_digestPart (stage : PartStage) :
    Passes (.writing hash fd stage) (digestPart fd)
      fun digest after => match digest with
        | none => ∃ stage, after = .writing hash fd stage
        | some actual => after = .digested hash fd actual.1 := by
  unfold digestPart
  have synced : ∀ answer, (PutsPhase.writing hash fd stage).learn (.fsync fd)
      answer = .writing hash fd .ended := by
    intro answer
    cases stage <;> rfl
  refine Prog.Obeys.ask (by cases stage <;> rfl) fun works => ?_
  rw [synced]
  cases works with
  | false => exact ⟨_, rfl⟩
  | true =>
      refine Prog.Obeys.ask ⟨rfl, Or.inr rfl⟩ fun positioned => ?_
      cases positioned with
      | false => exact ⟨_, rfl⟩
      | true =>
          refine Prog.Obeys.ask ⟨rfl, rfl⟩ fun digest => ?_
          cases digest with
          | none => exact ⟨_, rfl⟩
          | some actual => rfl

theorem passes_publishPart :
    Passes (.closed hash true) (publishPart hash)
      fun _ after => after = .closed hash true := by
  unfold publishPart
  refine Prog.Obeys.ask ⟨rfl, rfl⟩ fun result => ?_
  cases result with
  | renamed => rfl
  | alreadyExists => exact ⟨rfl, fun _ => rfl⟩
  | failed =>
      refine Prog.Obeys.ask trivial fun present => ?_
      cases present with
      | false => rfl
      | true => exact ⟨rfl, fun _ => rfl⟩

theorem passes_closeAndFail (stage : PartStage) (status : Option StatusCode) :
    Passes (.writing hash fd stage) (task.closeAndFail fd status)
      fun _ _ => True := by
  have closes : ∀ answer, (PutsPhase.writing hash fd stage).learn (.close fd)
      answer = .closed hash false := by
    intro answer
    cases stage <;> rfl
  unfold closeAndFail
  refine Prog.Obeys.ask (by cases stage <;> rfl) fun closed => ?_
  rw [closes]
  cases status with
  | none => trivial
  | some status =>
      exact (passes_respond_closed (by decide) false).mono fun _ _ _ => trivial

theorem passes_createFile (target : UploadTarget) (parentId : UInt64)
    (verified : Bool) :
    Passes (.closed hash verified) (task.createFile target parentId)
      fun _ _ => True := by
  unfold createFile
  refine Prog.Obeys.ask trivial fun created => ?_
  change Passes (.closed hash verified) (if _ then _ else _) _
  split_ifs
  · exact (passes_respond_closed (by decide) verified).mono fun _ _ _ => trivial
  · exact (passes_respond_closed (by decide) verified).mono fun _ _ _ => trivial

theorem passes_uploadFile (target : UploadTarget) (parentId : UInt64) :
    Passes (.idle true) (task.uploadFile target parentId) fun _ _ => True := by
  unfold uploadFile
  split_ifs
  · exact (passes_respond_idle true).mono fun _ _ _ => trivial
  refine Prog.Obeys.ask rfl fun opened => ?_
  cases opened with
  | none => exact (passes_respond_idle true).mono fun _ _ _ => trivial
  | some fd =>
      refine (task.passes_openPart target).bind fun step after reached => ?_
      obtain ⟨stage, rfl⟩ := reached
      cases step with
      | stops status => exact task.passes_closeAndFail stage status
      | goesOn =>
          refine (passes_digestPart stage).bind fun digest after reached => ?_
          cases digest with
          | none =>
              obtain ⟨stage, rfl⟩ := reached
              exact task.passes_closeAndFail stage _
          | some actual =>
              rw [show after = _ from reached]
              refine Prog.Obeys.ask rfl fun closed => ?_
              change Passes (.closed target.sha256Hex _) (if _ then _ else _) _
              split_ifs with differs
              · refine Prog.Obeys.ask rfl fun removed => ?_
                exact (passes_respond_closed (by decide) _).mono
                  fun _ _ _ => trivial
              · rw [ne_eq, not_not] at differs
                rw [decide_eq_true differs]
                refine passes_publishPart.bind fun published after same => ?_
                subst same
                cases published with
                | false =>
                    exact (passes_respond_closed (by decide) true).mono
                      fun _ _ _ => trivial
                | true => exact task.passes_createFile target parentId true

theorem passes_fail_idle (ready : Bool) (status : StatusCode) :
    Passes (.idle ready) (task.fail status) fun _ _ => True :=
  (passes_respond_idle ready).mono fun _ _ _ => trivial

theorem passes_linkFile (target : UploadTarget) (parentId fileId : UInt64)
    (ready : Bool) :
    Passes (.idle ready) (task.linkFile target parentId fileId)
      fun _ _ => True := by
  unfold linkFile
  refine Prog.Obeys.ask trivial fun linked => ?_
  change Passes (.idle ready) (if _ then _ else _) _
  split_ifs
  · exact task.passes_fail_idle ready _
  · unfold sendPutsResume HandlerTask.sendPacket
    rw [if_neg (by rw [length_hostToNet]; decide)]
    refine Prog.Obeys.ask trivial fun sent => ?_
    change Passes (.idle _) (if _ then _ else _) _
    split_ifs
    · trivial
    · exact (passes_respond_idle _).mono fun _ _ _ => trivial

theorem passes_handlePuts :
    Passes (.idle true) task.handlePuts fun _ _ => True := by
  unfold handlePuts
  split
  · exact task.passes_fail_idle true _
  · rename_i target accepted
    refine Prog.Obeys.ask trivial fun parent => ?_
    obtain ⟨result, parentId⟩ := parent
    cases result with
    | isDir =>
        refine Prog.Obeys.ask trivial fun node => ?_
        obtain ⟨result, pathId⟩ := node
        cases result with
        | notFound =>
            refine Prog.Obeys.ask trivial fun file => ?_
            change Passes (.idle true) (if _ then _ else _) _
            split_ifs
            · exact task.passes_fail_idle true _
            · exact task.passes_linkFile target parentId _ true
            · exact task.passes_uploadFile target parentId
        | isDir | isFile | dbError | badArg => exact task.passes_fail_idle true _
    | notFound | isFile | dbError | badArg => exact task.passes_fail_idle true _

/-- A download opens no temporary file. -/
abbrev StaysIdle {α : Type} (program : Handler α) : Prop :=
  ∀ ready, Passes (.idle ready) program fun _ after => ∃ ready, after = .idle ready

theorem staysIdle_recvTransferPacket : StaysIdle task.recvTransferPacket := by
  intro ready
  unfold recvTransferPacket
  refine Prog.Obeys.ask trivial fun received => ?_
  cases received with
  | none => exact ⟨ready, rfl⟩
  | some packet =>
      change Passes (.idle _) (if _ then _ else _) _
      split_ifs
      · exact (passes_respond_idle _).bind fun _ _ idle => idle
      · exact ⟨_, rfl⟩

theorem staysIdle_sendfileExact (fuel offset remaining : Nat) :
    StaysIdle (sendfileExact fd fuel offset remaining) := by
  intro ready
  induction fuel generalizing offset remaining with
  | zero => exact ⟨ready, rfl⟩
  | succ fuel inductionHypothesis =>
      cases remaining with
      | zero => exact ⟨ready, rfl⟩
      | succ remaining =>
          refine Prog.Obeys.ask trivial fun moved => ?_
          cases moved with
          | none => exact ⟨ready, rfl⟩
          | some more => exact inductionHypothesis _ _

theorem staysIdle_sendChunks (fuel offset remaining : Nat) :
    StaysIdle (task.sendChunks fd fuel offset remaining) := by
  intro ready
  induction fuel generalizing ready offset remaining with
  | zero => exact ⟨ready, rfl⟩
  | succ fuel inductionHypothesis =>
      cases remaining with
      | zero => exact ⟨ready, rfl⟩
      | succ remaining =>
          refine Prog.Obeys.ask trivial fun sent => ?_
          cases sent with
          | false => exact ⟨ready, rfl⟩
          | true =>
              refine (staysIdle_sendfileExact _ _ _ ready).bind
                fun moved after idle => ?_
              obtain ⟨ready, rfl⟩ := idle
              cases moved with
              | false => exact ⟨ready, rfl⟩
              | true => exact inductionHypothesis _ _ _

theorem staysIdle_download (sha256Hex : Bytes) (startOffset : UInt64) :
    StaysIdle (task.download sha256Hex startOffset) := by
  intro ready
  unfold download
  refine Prog.Obeys.ask trivial fun opened => ?_
  cases opened with
  | none => exact ⟨ready, rfl⟩
  | some fd =>
      refine Prog.Obeys.ask trivial fun size => ?_
      cases size with
      | none => exact ⟨trivial, fun _ => ⟨ready, rfl⟩⟩
      | some size =>
          change Passes (.idle ready) (if _ then _ else _) _
          split_ifs
          · exact ⟨trivial, fun _ => ⟨ready, rfl⟩⟩
          · refine (task.staysIdle_sendChunks _ _ _ ready).bind
              fun sent after idle => ?_
            obtain ⟨ready, rfl⟩ := idle
            refine Prog.Obeys.ask trivial fun closed => ?_
            change Passes (.idle ready) (if _ then _ else _) _
            split_ifs
            · exact ⟨ready, rfl⟩
            · unfold endDownload HandlerTask.sendPacket
              rw [if_neg (by decide)]
              refine Prog.Obeys.ask trivial fun ended => ?_
              change Passes (.idle _) (if _ then _ else _) _
              split_ifs
              · exact ⟨_, rfl⟩
              · exact (task.staysIdle_recvTransferPacket _).bind fun _ _ idle => idle

theorem passes_handleGets (ready : Bool) :
    Passes (.idle ready) task.handleGets fun _ _ => True := by
  unfold handleGets
  split
  · exact task.passes_fail_idle ready _
  split
  · exact task.passes_fail_idle ready _
  refine Prog.Obeys.ask trivial fun found => ?_
  change Passes (.idle ready) _ _
  split
  · trivial
  · exact task.passes_fail_idle ready _
  · exact task.passes_fail_idle ready _
  · exact task.passes_fail_idle ready _
  · unfold HandlerTask.sendPacket
    split_ifs
    · trivial
    refine Prog.Obeys.ask trivial fun sent => ?_
    change Passes (.idle _) (if _ then _ else _) _
    split_ifs
    · trivial
    · refine (task.staysIdle_recvTransferPacket _).bind fun received after idle => ?_
      obtain ⟨ready, rfl⟩ := idle
      cases received with
      | none => trivial
      | some packet =>
          dsimp only
          split_ifs
          · exact task.passes_fail_idle ready _
          · exact (task.staysIdle_download _ _ ready).mono fun _ _ _ => trivial

/-- Only a request for an upload opens a temporary file. -/
theorem passes_handleTransferTask {ready : Bool}
    (isReady : task.packet.type = CmdType.putsReq.code → ready = true) :
    Passes (.idle ready) task.handleTransferTask fun _ _ => True := by
  unfold handleTransferTask
  split_ifs with isPuts
  · rw [isReady isPuts]
    exact task.passes_handlePuts
  · exact task.passes_handleGets ready
  · exact task.passes_fail_idle ready _

end TransferTask

end CloudDrive
