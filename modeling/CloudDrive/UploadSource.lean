import CloudDrive.UploadResume

/-!
# The source of an upload

What `run_upload` sends of its file, whatever it receives: the bytes from the
offset it has been told, as the phases of a ghost automaton.
-/

namespace CloudDrive

inductive SourcePhase where
  | unopened
  /-- Nothing has been received. -/
  | asking (fd : Nat)
  | offered (fd : Nat) (offset : UInt64)
  /-- The position is behind the bytes that have been sent. -/
  | reading (fd : Nat)
  /-- Bytes have been read that are not sent yet. -/
  | holding (fd : Nat) (data : Bytes)
  /-- No data will be sent any more. -/
  | finished
deriving DecidableEq

namespace SourcePhase

/-- The calls of an upload of the file at a path in each phase. -/
def Allows (path : Bytes) : SourcePhase → ClientOp → Prop
  | .unopened, .openFile opened => opened = path
  | .unopened, _ => False
  | _, .canceled | _, .close _ => True
  | .holding _ data, .send packet =>
      packet.type = CmdType.fileData.code → packet.payload = data
  | _, .send packet => packet.type ≠ CmdType.fileData.code
  | .asking own, .fstat fd | .asking own, .digest fd => fd = own
  | .asking own, .lseek fd _ => fd = own
  | .offered own offset, .lseek fd target => fd = own ∧ target = offset
  | .reading own, .read fd _ => fd = own
  | .holding .., .recv => False
  | _, .recv => True
  | _, _ => False

def learn (phase : SourcePhase) (op : ClientOp) (answer : op.Answer) :
    SourcePhase :=
  match phase, op, answer with
  | .unopened, .openFile _, some fd => .asking fd
  | .asking fd, .recv, some packet =>
      if packet.type = CmdType.putsResp.code then
        .offered fd (netToHost packet.payload)
      else .finished
  | .offered fd _, .lseek .., true => .reading fd
  | .offered .., .recv, some _ => .finished
  | .reading fd, .read .., some data => .holding fd data.1
  | .reading _, .recv, some _ => .finished
  | .holding fd _, .send packet, sent =>
      if packet.type = CmdType.fileData.code ∧ sent = true then .reading fd
      else .finished
  | _, .close _, _ => .finished
  | phase, _, _ => phase

theorem allows_canceled {path : Bytes} {phase : SourcePhase}
    (opened : phase ≠ .unopened) : phase.Allows path .canceled := by
  cases phase with
  | unopened => exact opened rfl
  | asking | offered | reading | holding | finished => trivial

theorem allows_close {path : Bytes} {phase : SourcePhase}
    (opened : phase ≠ .unopened) (fd : Nat) : phase.Allows path (.close fd) := by
  cases phase with
  | unopened => exact opened rfl
  | asking | offered | reading | holding | finished => trivial

theorem learn_canceled (phase : SourcePhase) (answer : Bool) :
    phase.learn .canceled answer = phase := by
  cases phase <;> rfl

theorem learn_recv_ne_unopened {phase : SourcePhase} (opened : phase ≠ .unopened)
    (received : Option Packet) : phase.learn .recv received ≠ .unopened := by
  cases phase with
  | unopened => exact absurd rfl opened
  | asking fd =>
      cases received with
      | none => exact nofun
      | some packet =>
          change (if _ then _ else _) ≠ _
          split_ifs <;> exact nofun
  | offered | reading => cases received <;> exact nofun
  | holding | finished => exact nofun

end SourcePhase

theorem CmdType.code_ne_fileData {type : CmdType} (other : type ≠ .fileData) :
    type.code ≠ CmdType.fileData.code := by
  cases type <;> first | exact absurd rfl other | decide

namespace ClientTask

variable (task : ClientTask)

/-- A program goes through the phases of an upload. -/
abbrev Draws {α : Type} (phase : SourcePhase) (program : ClientProgram α)
    (post : α → SourcePhase → Prop) : Prop :=
  program.Obeys (SourcePhase.Allows task.localPath) SourcePhase.learn phase post

variable {status : StatusCode} {payload : Bytes} {fd : Nat}

/-- What carries no data may be sent in every phase after the file is open. -/
theorem draws_taskSend (phase : SourcePhase) (type : CmdType)
    (other : type ≠ .fileData) (opened : phase ≠ .unopened) :
    task.Draws phase (task.taskSend type status payload) fun _ after =>
      after ≠ .unopened ∧ ((∀ fd data, phase ≠ .holding fd data) →
        after = phase) := by
  have notData := CmdType.code_ne_fileData other
  refine Prog.Obeys.ask (SourcePhase.allows_canceled opened) fun canceled => ?_
  rw [phase.learn_canceled]
  split_ifs
  · exact ⟨opened, fun _ => rfl⟩
  · exact ⟨opened, fun _ => rfl⟩
  · cases phase with
    | unopened => exact absurd rfl opened
    | holding fd data =>
        refine ⟨fun isData => absurd isData notData, fun sent => ?_⟩
        change (if _ then _ else _) ≠ _ ∧ _
        rw [if_neg fun isData => notData isData.1]
        exact ⟨nofun, fun notHolding => absurd rfl (notHolding fd data)⟩
    | asking | offered | reading | finished =>
        exact ⟨notData, fun sent => ⟨nofun, fun _ => rfl⟩⟩

theorem draws_reportError (phase : SourcePhase) (opened : phase ≠ .unopened) :
    task.Draws phase (task.reportError status)
      fun result after => result = false ∧ after ≠ .unopened := by
  refine Prog.Obeys.ask (SourcePhase.allows_canceled opened) fun canceled => ?_
  rw [phase.learn_canceled]
  split_ifs
  · exact ⟨rfl, opened⟩
  · exact (task.draws_taskSend phase .error (by decide) opened).bind
      fun _ _ sent => ⟨rfl, sent.1⟩

theorem draws_sendChunk {data : Bytes} :
    task.Draws (.holding fd data) (task.taskSend .fileData .ok data)
      fun sent after => after ≠ .unopened ∧ (sent = true → after = .reading fd) := by
  refine Prog.Obeys.ask trivial fun canceled => ?_
  change task.Draws (.holding fd data) (if _ then _ else _) _
  split_ifs
  · exact ⟨nofun, nofun⟩
  · exact ⟨nofun, nofun⟩
  · refine ⟨fun _ => rfl, fun sent => ?_⟩
    cases sent with
    | false => exact ⟨nofun, nofun⟩
    | true => exact ⟨nofun, fun _ => rfl⟩

theorem draws_taskRecv (phase : SourcePhase)
    (waits : phase.Allows task.localPath .recv) (opened : phase ≠ .unopened) :
    task.Draws phase task.taskRecv fun received after =>
      after ≠ .unopened ∧ ∀ packet, received = some packet →
        after = phase.learn .recv (some packet) := by
  refine Prog.Obeys.ask (SourcePhase.allows_canceled opened) fun canceled => ?_
  rw [phase.learn_canceled]
  split_ifs
  · exact ⟨opened, nofun⟩
  · refine Prog.Obeys.ask waits fun received => ?_
    have stillOpen := SourcePhase.learn_recv_ne_unopened opened received
    cases received with
    | none => exact ⟨stillOpen, nofun⟩
    | some packet =>
        change task.Draws _ (if _ then _ else _) _
        split_ifs
        · exact (task.draws_taskSend _ .error (by decide) stillOpen).bind
            fun _ _ sent => ⟨sent.1, nofun⟩
        · exact ⟨stillOpen, fun _ same => by cases same; rfl⟩

theorem draws_awaitAck {phase : SourcePhase}
    (waits : phase.Allows task.localPath .recv) (opened : phase ≠ .unopened) :
    task.Draws phase task.awaitAck fun _ after => after ≠ .unopened := by
  refine (task.draws_taskRecv phase waits opened).bind fun received after reached => ?_
  cases received with
  | none => exact reached.1
  | some packet => exact reached.1

theorem draws_sendData (fuel remaining : Nat) :
    task.Draws (.reading fd) (task.sendData fd fuel remaining)
      fun sent after => after ≠ .unopened ∧ (sent = true → after = .reading fd) := by
  induction fuel generalizing remaining with
  | zero => exact ⟨nofun, fun _ => rfl⟩
  | succ fuel inductionHypothesis =>
      cases remaining with
      | zero => exact ⟨nofun, fun _ => rfl⟩
      | succ remaining =>
          refine Prog.Obeys.ask trivial fun canceled => ?_
          change task.Draws (.reading fd) (if _ then _ else _) _
          split_ifs
          · exact ⟨nofun, nofun⟩
          · refine Prog.Obeys.ask rfl fun data => ?_
            have fails : ∀ {phase : SourcePhase}, phase ≠ .unopened →
                task.Draws phase (task.reportError .ioError) fun sent after =>
                  after ≠ .unopened ∧ (sent = true → after = .reading fd) :=
              fun opened => (task.draws_reportError _ opened).mono
                fun _ _ failed => ⟨failed.2, fun sent => by
                  cases failed.1.symm.trans sent⟩
            match data with
            | none => exact fails nofun
            | some ⟨[], _⟩ => exact fails nofun
            | some ⟨byte :: rest, _⟩ =>
                refine task.draws_sendChunk.bind fun sent after reached => ?_
                cases sent with
                | false => exact ⟨reached.1, nofun⟩
                | true =>
                    rw [reached.2 rfl]
                    exact inductionHypothesis _

theorem draws_uploadFrom (fileSize offset : UInt64) :
    task.Draws (.offered fd offset) (task.uploadFrom fd fileSize offset)
      fun _ after => after ≠ .unopened := by
  unfold uploadFrom
  have fails : ∀ status, task.Draws (.offered fd offset) (task.reportError status)
      fun _ after => after ≠ .unopened :=
    fun status => (task.draws_reportError (.offered fd offset) nofun).mono
      fun _ _ failed => failed.2
  split_ifs
  · exact fails _
  · exact task.draws_awaitAck trivial nofun
  · refine Prog.Obeys.ask ⟨rfl, rfl⟩ fun positioned => ?_
    cases positioned with
    | false => exact fails _
    | true =>
        refine (task.draws_sendData _ _).bind fun sent after reached => ?_
        cases sent with
        | false => exact reached.1
        | true =>
            rw [reached.2 rfl]
            refine (task.draws_taskSend (.reading fd) .fileEnd (by decide) nofun).bind
              fun ended after reached => ?_
            cases ended with
            | false => exact reached.1
            | true =>
                rw [reached.2 nofun]
                exact task.draws_awaitAck trivial nofun

theorem draws_uploadFile (fileSize : UInt64) :
    task.Draws (.asking fd) (task.uploadFile fd fileSize)
      fun _ after => after ≠ .unopened := by
  unfold uploadFile
  split_ifs
  · exact nofun
  · refine Prog.Obeys.ask rfl fun digest => ?_
    cases digest with
    | none => exact nofun
    | some sha256Hex =>
        refine Prog.Obeys.ask rfl fun positioned => ?_
        cases positioned with
        | false => exact nofun
        | true =>
            refine (task.draws_taskSend (.asking fd) .putsReq (by decide) nofun).bind
              fun sent after reached => ?_
            cases sent with
            | false => exact reached.1
            | true =>
                rw [reached.2 nofun]
                refine (task.draws_taskRecv (.asking fd) trivial nofun).bind
                  fun received after reached => ?_
                cases received with
                | none => exact reached.1
                | some packet =>
                    change task.Draws _ (if _ then _ else _) _
                    split_ifs with unexpected
                    · exact reached.1
                    · rw [not_or, not_not] at unexpected
                      rw [reached.2 packet rfl]
                      have isOffered : (SourcePhase.asking fd).learn .recv
                          (some packet) = .offered fd (netToHost packet.payload) :=
                        if_pos unexpected.1
                      rw [isOffered]
                      exact task.draws_uploadFrom fileSize _

theorem draws_runUpload :
    task.Draws .unopened task.runUpload fun _ _ => True := by
  unfold runUpload
  refine Prog.Obeys.ask rfl fun opened => ?_
  cases opened with
  | none => trivial
  | some fd =>
      have closes : ∀ {result : Bool} {after : SourcePhase}, after ≠ .unopened →
          task.Draws after (Prog.ask (ClientOp.close fd) >>= fun _ => pure result)
            fun _ _ => True :=
        fun stillOpen => ⟨SourcePhase.allows_close stillOpen fd, fun _ => trivial⟩
      refine Prog.Obeys.ask rfl fun size => ?_
      cases size with
      | none => exact closes nofun
      | some fileSize =>
          exact (task.draws_uploadFile fileSize).bind fun _ _ => closes

end ClientTask

/-- The data sent are bytes of the content from the announced offset on. -/
def SentFine (content : Bytes) (sent received : List Packet) : Prop :=
  dataOf sent = [] ∨ ∃ offset, announcedOffset received = some offset ∧
    dataOf sent <+: content.drop offset.toNat

theorem SentFine.receive {content : Bytes} {sent received : List Packet}
    (fine : SentFine content sent received) (packet : Packet) :
    SentFine content sent (received ++ [packet]) := by
  rcases fine with nothing | ⟨offset, announced, isPrefix⟩
  · exact Or.inl nothing
  · exact Or.inr ⟨offset, announcedOffset_append announced _, isPrefix⟩

namespace SourcePhase

/-- What is known about the file and the packets in each phase. -/
def Holds (path content : Bytes) (files : ClientFiles)
    (sent received : List Packet) : SourcePhase → Prop
  | .unopened => files.content path = some content ∧
      announcedOffset received = none ∧ dataOf sent = []
  | .asking fd => (∃ position, files.IsOpen fd path content position) ∧
      announcedOffset received = none ∧ dataOf sent = []
  | .offered fd offset => (∃ position, files.IsOpen fd path content position) ∧
      announcedOffset received = some offset ∧ dataOf sent = []
  | .reading fd => ∃ position offset, files.IsOpen fd path content position ∧
      announcedOffset received = some offset ∧
      dataOf sent ++ content.drop position = content.drop offset.toNat
  | .holding fd data => ∃ position offset,
      files.IsOpen fd path content position ∧
      announcedOffset received = some offset ∧
      dataOf sent ++ data ++ content.drop position = content.drop offset.toNat
  | .finished => SentFine content sent received

variable {sha256 : Sha256} {path content : Bytes} {files : ClientFiles}
  {choice : ClientChoice} {op : ClientOp} {sent received : List Packet}
  {phase : SourcePhase}

theorem Holds.sentFine (holds : phase.Holds path content files sent received) :
    SentFine content sent received := by
  cases phase with
  | unopened | asking | offered => exact Or.inl holds.2.2
  | reading fd =>
      obtain ⟨position, offset, -, announced, isData⟩ := holds
      exact Or.inr ⟨offset, announced, isData ▸ List.prefix_append _ _⟩
  | holding fd data =>
      obtain ⟨position, offset, -, announced, isData⟩ := holds
      rw [List.append_assoc] at isData
      exact Or.inr ⟨offset, announced, isData ▸ List.prefix_append _ _⟩
  | finished => exact holds

theorem Holds.of_sent {sentAfter : List Packet}
    (holds : phase.Holds path content files sent received)
    (same : dataOf sentAfter = dataOf sent) :
    phase.Holds path content files sentAfter received := by
  cases phase with
  | unopened | asking | offered | reading | holding =>
      rw [Holds] at holds ⊢
      rw [same]
      exact holds
  | finished =>
      rw [Holds, SentFine] at holds ⊢
      rw [same]
      exact holds

/-- What a call of the client keeps. -/
abbrev KeptBy (sha256 : Sha256) (path content : Bytes) (choice : ClientChoice)
    (op : ClientOp) (files : ClientFiles) (sent received : List Packet)
    (phase : SourcePhase) : Prop :=
  (clientAct sha256 choice op files).After files sent received
    fun answer after => (phase.learn op answer).Holds path content after

theorem Holds.keptBy_send {packet : Packet}
    (allowed : phase.Allows path (.send packet))
    (holds : phase.Holds path content files sent received) :
    phase.KeptBy sha256 path content choice (.send packet) files sent received := by
  have quiet : packet.type ≠ CmdType.fileData.code →
      dataOf (sent ++ [packet]) = dataOf sent := by
    intro other
    rw [dataOf_append, dataOf_other other, List.append_nil]
  rw [KeptBy, clientAct]
  split_ifs
  · cases phase with
    | unopened => exact allowed.elim
    | asking | offered | reading | finished => exact holds
    | holding fd data =>
        change Holds path content files sent received (if _ then _ else _)
        rw [if_neg fun isSent => Bool.false_ne_true isSent.2]
        exact holds.sentFine
  · cases phase with
    | unopened => exact allowed.elim
    | asking | offered | reading | finished => exact holds.of_sent (quiet allowed)
    | holding fd data =>
        change Holds path content files (sent ++ [packet]) received
          (if _ then _ else _)
        by_cases isData : packet.type = CmdType.fileData.code
        · rw [if_pos ⟨isData, rfl⟩]
          obtain ⟨position, offset, isOpen, announced, rest⟩ := holds
          refine ⟨position, offset, isOpen, announced, ?_⟩
          rw [dataOf_append, dataOf_data isData, allowed isData, rest]
        · rw [if_neg fun isSent => isData isSent.1]
          exact (holds.of_sent (quiet isData)).sentFine

theorem Holds.keptBy_recv (allowed : phase.Allows path .recv)
    (holds : phase.Holds path content files sent received) :
    phase.KeptBy sha256 path content choice .recv files sent received := by
  have nothing : (phase.learn .recv none).Holds path content files sent received := by
    cases phase <;> exact holds
  rw [KeptBy, clientAct]
  split_ifs
  · exact nothing
  · refine ⟨nothing, fun packet => ?_⟩
    cases phase with
    | unopened | holding => exact allowed.elim
    | asking fd =>
        change Holds path content files sent (received ++ [packet])
          (if _ then _ else _)
        split_ifs with isResume
        · exact ⟨holds.1, announcedOffset_first holds.2.1 isResume, holds.2.2⟩
        · exact Or.inl holds.2.2
    | offered | reading | finished => exact holds.sentFine.receive packet

theorem Holds.keptBy_openFile {opened : Bytes}
    (allowed : phase.Allows path (.openFile opened))
    (holds : phase.Holds path content files sent received) :
    phase.KeptBy sha256 path content choice (.openFile opened) files sent
      received := by
  cases phase with
  | unopened =>
      obtain rfl : opened = path := allowed
      change Act.After _ _ _ _ (Act.inner (openClient choice false opened files).1
        (openClient choice false opened files).2)
      rcases openClient_existing (Prod.mk.eta (p := openClient choice false opened
        files)).symm with ⟨failed, same⟩ | ⟨opens, -, isAfter, -⟩
      · rw [failed, same]
        exact holds
      · rw [opens, isAfter]
        exact ⟨⟨0, FileSystem.isOpen_openFile holds.1⟩, holds.2⟩
  | asking | offered | reading | holding | finished => exact allowed.elim

/-- The calls on files change nothing else. -/
theorem keptBy_performed
    (acts : clientAct sha256 choice op files =
      .inner (performClient sha256 choice op files).1
        (performClient sha256 choice op files).2)
    (holds : (phase.learn op (performClient sha256 choice op files).1).Holds path
      content (performClient sha256 choice op files).2 sent received) :
    phase.KeptBy sha256 path content choice op files sent received := by
  rw [KeptBy, acts]
  exact holds

theorem Holds.keptBy_lseek {fd : Nat} {target : UInt64}
    (allowed : phase.Allows path (.lseek fd target))
    (holds : phase.Holds path content files sent received) :
    phase.KeptBy sha256 path content choice (.lseek fd target) files sent
      received := by
  refine keptBy_performed rfl ?_
  rw [performClient]
  cases phase with
  | unopened | reading | holding | finished => exact allowed.elim
  | asking own =>
      obtain rfl : fd = own := allowed
      obtain ⟨⟨position, isOpen⟩, known⟩ := holds
      split_ifs
      · exact ⟨⟨position, isOpen⟩, known⟩
      · exact ⟨⟨_, isOpen.seek _⟩, known⟩
  | offered own offset =>
      obtain ⟨rfl, rfl⟩ := allowed
      split_ifs
      · exact holds
      · obtain ⟨⟨position, isOpen⟩, announced, nothing⟩ := holds
        refine ⟨_, target, isOpen.seek _, announced, ?_⟩
        rw [nothing, List.nil_append]

theorem Holds.keptBy_read {fd count : Nat}
    (allowed : phase.Allows path (.read fd count))
    (holds : phase.Holds path content files sent received) :
    phase.KeptBy sha256 path content choice (.read fd count) files sent
      received := by
  refine keptBy_performed rfl ?_
  rw [performClient]
  cases phase with
  | unopened | asking | offered | holding | finished => exact allowed.elim
  | reading own =>
      obtain rfl : fd = own := allowed
      obtain ⟨position, offset, isOpen, announced, rest⟩ := holds
      split_ifs
      · exact ⟨position, offset, isOpen, announced, rest⟩
      · refine ⟨_, offset, isOpen.seek _, announced, ?_⟩
        dsimp only
        rw [isOpen.unread, isOpen.position, List.append_assoc, ← List.drop_drop,
          List.prefix_iff_eq_append.mp (List.take_prefix _ _), rest]

/-- Every call of the client keeps what is known of its file. -/
theorem Holds.keptBy (holds : phase.Holds path content files sent received)
    (allowed : phase.Allows path op) :
    phase.KeptBy sha256 path content choice op files sent received := by
  cases op with
  | canceled => cases phase <;> exact holds
  | send packet => exact holds.keptBy_send allowed
  | recv => exact holds.keptBy_recv allowed
  | openFile opened => exact holds.keptBy_openFile allowed
  | fstat fd => cases phase <;> first | exact allowed.elim | exact holds
  | lseek fd target => exact holds.keptBy_lseek allowed
  | read fd count => exact holds.keptBy_read allowed
  | digest fd =>
      cases phase with
      | unopened | offered | reading | holding | finished => exact allowed.elim
      | asking own =>
          obtain rfl : fd = own := allowed
          obtain ⟨⟨position, isOpen⟩, known⟩ := holds
          refine keptBy_performed rfl ?_
          rw [performClient]
          split_ifs
          · exact ⟨⟨position, isOpen⟩, known⟩
          · exact ⟨⟨_, isOpen.seek _⟩, known⟩
  | close fd =>
      cases phase with
      | unopened => exact allowed.elim
      | asking | offered | reading | holding | finished => exact holds.sentFine
  | openOrCreate | truncate | write | fsync | rename =>
      cases phase <;> exact allowed.elim

end SourcePhase

end CloudDrive
