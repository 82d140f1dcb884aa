import CloudDrive.UploadPhases
import CloudDrive.UploadRuns

/-!
# The temporary file of an upload

What the server makes of the temporary file of a content, whatever it receives:
it writes the data behind the bytes whose number it has announced.
-/

namespace CloudDrive

/-- The offset that the first answer to an upload request announces. -/
def announcedOffset (packets : List Packet) : Option UInt64 :=
  packets.findSome? fun packet =>
    if packet.type = CmdType.putsResp.code then some (netToHost packet.payload)
    else none

/-- The file data among packets. -/
def dataOf (packets : List Packet) : Bytes :=
  (dataPackets packets).flatMap Packet.payload

@[simp]
theorem dataOf_append (first second : List Packet) :
    dataOf (first ++ second) = dataOf first ++ dataOf second := by
  simp [dataOf]

theorem dataOf_data {packet : Packet}
    (isData : packet.type = CmdType.fileData.code) :
    dataOf [packet] = packet.payload := by
  simp [dataOf, dataPackets, isData]

theorem dataOf_other {packet : Packet}
    (other : packet.type ≠ CmdType.fileData.code) : dataOf [packet] = [] := by
  simp [dataOf, dataPackets, other]

theorem announcedOffset_append {packets : List Packet} {offset : UInt64}
    (announced : announcedOffset packets = some offset) (more : List Packet) :
    announcedOffset (packets ++ more) = some offset := by
  rw [announcedOffset] at announced ⊢
  rw [List.findSome?_append, announced]
  rfl

theorem announcedOffset_other {packets : List Packet} {packet : Packet}
    (other : packet.type ≠ CmdType.putsResp.code) :
    announcedOffset (packets ++ [packet]) = announcedOffset packets := by
  rw [announcedOffset, announcedOffset, List.findSome?_append]
  simp [other]

theorem announcedOffset_first {packets : List Packet} {packet : Packet}
    (nothing : announcedOffset packets = none)
    (isResume : packet.type = CmdType.putsResp.code) :
    announcedOffset (packets ++ [packet]) = some (netToHost packet.payload) := by
  rw [announcedOffset] at nothing ⊢
  rw [List.findSome?_append, nothing]
  simp [isResume]

/-- What is in the temporary file is a prefix of the content, or of the
announced number of its bytes and the data received. -/
def PartFine (content hash : Bytes) (files : ServerFiles)
    (sent received : List Packet) : Prop :=
  ∀ part, files.content (.part hash) = some part →
    part <+: content ∨ ∃ offset, announcedOffset sent = some offset ∧
      offset.toNat ≤ content.length ∧
      part <+: content.take offset.toNat ++ dataOf received

namespace PartFine

variable {content hash : Bytes} {files after : ServerFiles}
  {sent received : List Packet}

theorem of_content (fine : PartFine content hash files sent received)
    (same : after.content (.part hash) = files.content (.part hash)) :
    PartFine content hash after sent received := by
  rw [PartFine, same]
  exact fine

theorem of_isPrefix {part : Bytes} (holds : files.content (.part hash) = some part)
    (isPrefix : part <+: content) : PartFine content hash files sent received := by
  intro other isOther
  cases holds.symm.trans isOther
  exact Or.inl isPrefix

theorem mono (fine : PartFine content hash files sent received)
    {sentAfter receivedAfter : List Packet} (sentMore : sent <+: sentAfter)
    (receivedMore : received <+: receivedAfter) :
    PartFine content hash files sentAfter receivedAfter := by
  obtain ⟨moreSent, rfl⟩ := sentMore
  obtain ⟨moreReceived, rfl⟩ := receivedMore
  intro part holds
  rcases fine part holds with isPrefix | ⟨offset, announced, inside, isPrefix⟩
  · exact Or.inl isPrefix
  · refine Or.inr ⟨offset, announcedOffset_append announced _, inside, ?_⟩
    rw [dataOf_append, ← List.append_assoc]
    exact isPrefix.trans (List.prefix_append _ _)

theorem send (fine : PartFine content hash files sent received) (packet : Packet) :
    PartFine content hash files (sent ++ [packet]) received :=
  fine.mono (List.prefix_append _ _) (List.prefix_refl _)

theorem receive (fine : PartFine content hash files sent received)
    (packet : Packet) :
    PartFine content hash files sent (received ++ [packet]) :=
  fine.mono (List.prefix_refl _) (List.prefix_append _ _)

theorem isPrefix (fine : PartFine content hash files sent received)
    (nothing : announcedOffset sent = none) {part : Bytes}
    (holds : files.content (.part hash) = some part) : part <+: content := by
  rcases fine part holds with isPrefix | ⟨offset, announced, -⟩
  · exact isPrefix
  · rw [nothing] at announced
    cases announced

/-- Opening a temporary file creates it empty or leaves its content. -/
theorem openOrCreate (fine : PartFine content hash files sent received)
    (opened : Bytes) (fd : Nat) :
    PartFine content hash (files.openOrCreate (.part opened) fd) sent received := by
  by_cases same : opened = hash
  · subst same
    intro part holds
    cases FileSystem.content_openOrCreate.symm.trans holds
    rcases held : files.content (.part opened) with _ | part
    · exact Or.inl List.nil_prefix
    · exact fine part held
  · exact fine.of_content (FileSystem.sameAt_openOrCreate
      fun isSame => same (StoredFile.part.inj isSame).symm).content

end PartFine

/-- What is known about an open temporary file of the content. -/
def PartStage.Holds (content : Bytes) (sent received : List Packet) (part : Bytes)
    (position : Nat) : PartStage → Prop
  | .fresh => announcedOffset sent = none ∧ dataOf received = []
  | .sized size => (announcedOffset sent = none ∧ dataOf received = []) ∧
      size = UInt64.ofNat part.length
  | .announced size => announcedOffset sent = some size ∧ dataOf received = [] ∧
      size = UInt64.ofNat part.length ∧ part <+: content
  | .receiving pending => position = part.length ∧
      ∃ offset, announcedOffset sent = some offset ∧
        offset.toNat ≤ content.length ∧
        part ++ pending = content.take offset.toNat ++ dataOf received
  | .ended => True

theorem PartStage.Holds.of_announced {content part : Bytes}
    {sent sentAfter received : List Packet} {position : Nat} {stage : PartStage}
    (holds : stage.Holds content sent received part position)
    (same : announcedOffset sentAfter = announcedOffset sent) :
    stage.Holds content sentAfter received part position := by
  cases stage with
  | fresh | sized | announced | receiving =>
      rw [PartStage.Holds] at holds ⊢
      rw [same]
      exact holds
  | ended => trivial

def PutsPhase.Holds (content hash : Bytes) (files : ServerFiles)
    (sent received : List Packet) (phase : PutsPhase) : Prop :=
  PartFine content hash files sent received ∧
    match phase with
    | .idle ready =>
        ready = true → announcedOffset sent = none ∧ dataOf received = []
    | .writing opened fd stage => ∃ part position,
        files.IsOpen fd (.part opened) part position ∧
          (opened = hash → stage.Holds content sent received part position)
    | .digested .. | .closed .. => True

section Server

variable {sha256 : Sha256} {dialect : Dialect} {content hash : Bytes}
  {choice : ServerChoice} {op : TaskOp} {state : ServerState}
  {sent received : List Packet}

/-- What a call of the server keeps. -/
abbrev KeptBy (sha256 : Sha256) (dialect : Dialect) (content hash : Bytes)
    (choice : ServerChoice) (op : TaskOp) (state : ServerState)
    (sent received : List Packet) (phase : PutsPhase) : Prop :=
  (serverAct sha256 dialect choice op state).After state sent received
    fun answer after => (phase.learn op answer).Holds content hash after.files

variable {ready verified : Bool} {opened : Bytes} {own : Nat} {stage : PartStage}

theorem keptBy_idle (allowed : (PutsPhase.idle ready).Allows op)
    (holds : (PutsPhase.idle ready).Holds content hash state.files sent received) :
    KeptBy sha256 dialect content hash choice op state sent received
      (.idle ready) := by
  have emits : ∀ {α : Type} (answer : α) sessionId payloadLen payload,
      (state.emit sessionId payloadLen payload answer).After state sent received
        fun _ after => (PutsPhase.idle ready).Holds content hash after.files := by
    intro α answer sessionId payloadLen payload
    rw [ServerState.emit]
    split_ifs
    · exact holds
    · refine ⟨holds.1.send _, fun isReady => ?_⟩
      rw [announcedOffset_other
        (show CmdType.fileData.code ≠ CmdType.putsResp.code by decide)]
      exact holds.2 isReady
  cases op with
  | send packet =>
      rw [KeptBy, serverAct]
      split_ifs
      · exact ⟨holds.1, fun isReady => holds.2 (Bool.and_eq_true_iff.mp isReady).1⟩
      · refine ⟨holds.1.send _, fun isReady => ?_⟩
        obtain ⟨wasReady, other⟩ := Bool.and_eq_true_iff.mp isReady
        rw [announcedOffset_other (of_decide_eq_true other)]
        exact holds.2 wasReady
  | recv =>
      rw [KeptBy, serverAct]
      split_ifs
      · exact holds
      · refine ⟨holds, fun packet => ⟨holds.1.receive _, fun isReady => ?_⟩⟩
        obtain ⟨wasReady, other⟩ := Bool.and_eq_true_iff.mp isReady
        rw [dataOf_append, dataOf_other (of_decide_eq_true other), List.append_nil]
        exact holds.2 wasReady
  | sendHeader sessionId payloadLen =>
      rw [KeptBy, serverAct]
      split_ifs
      · exact holds
      · exact emits _ _ _ _
  | sendfile fd offset count =>
      rw [KeptBy, serverAct]
      dsimp only
      split_ifs
      · split
        · exact holds
        · exact emits _ _ _ _
      · exact holds
  | openFile file =>
      change Act.After _ _ _ _ (Act.inner (openStored choice file state.files).1
        { state with files := (openStored choice file state.files).2 })
      unfold openStored
      split_ifs
      · cases file <;> exact holds
      · cases file with
        | part opened =>
            exact ⟨holds.1.openOrCreate opened choice.fd, _, 0,
              FileSystem.isOpen_openOrCreate, fun _ => holds.2 allowed⟩
        | object opened =>
            dsimp only
            split_ifs
            · exact holds
            · exact ⟨holds.1.of_content rfl, holds.2⟩
  | truncate | lseek | write | fsync | digest | unlink | publish
  | objectExists => exact allowed.elim
  | close fd => exact ⟨holds.1.of_content rfl, holds.2⟩
  | _ => exact holds

/-- The calls on files change nothing else. -/
theorem keptBy_stored {phase : PutsPhase}
    (stored : serverAct sha256 dialect choice op state =
      .inner (performStored sha256 choice op state.files).1
        { state with files := (performStored sha256 choice op state.files).2 })
    (holds : (phase.learn op (performStored sha256 choice op state.files).1).Holds
      content hash (performStored sha256 choice op state.files).2 sent received) :
    KeptBy sha256 dialect content hash choice op state sent received phase := by
  rw [KeptBy, stored]
  exact holds

section Writing

variable {part : Bytes} {position : Nat}
  (fine : PartFine content hash state.files sent received)
  (isOpen : state.files.IsOpen own (.part opened) part position)

include fine isOpen

theorem keptBy_fstat
    (known : opened = hash → announcedOffset sent = none ∧ dataOf received = []) :
    KeptBy sha256 dialect content hash choice (.fstat own) state sent received
      (.writing opened own .fresh) := by
  refine keptBy_stored rfl ?_
  rw [performStored]
  split_ifs
  · exact ⟨fine, part, position, isOpen, fun _ => trivial⟩
  · rw [isOpen.bytes]
    exact ⟨fine, part, position, isOpen, fun same => ⟨known same, rfl⟩⟩

theorem keptBy_truncate {size : UInt64}
    (known : opened = hash → announcedOffset sent = none ∧ dataOf received = []) :
    KeptBy sha256 dialect content hash choice (.truncate own) state sent received
      (.writing opened own (.sized size)) := by
  refine keptBy_stored rfl ?_
  rw [performStored]
  split_ifs
  · exact ⟨fine, part, position, isOpen, fun _ => trivial⟩
  · refine ⟨?_, [], position, isOpen.truncate, fun same => ⟨known same, rfl⟩⟩
    by_cases same : opened = hash
    · subst same
      exact .of_isPrefix isOpen.truncate.content List.nil_prefix
    · exact fine.of_content (isOpen.refers.sameAt_replace _
        fun isSame => same (StoredFile.part.inj isSame).symm).content

/-- The size that is announced is that of a prefix of the content. -/
theorem keptBy_send {packet : Packet}
    (allowed : (PutsPhase.writing opened own stage).Allows (.send packet))
    (known : opened = hash → stage.Holds content sent received part position) :
    KeptBy sha256 dialect content hash choice (.send packet) state sent received
      (.writing opened own stage) := by
  rw [KeptBy, serverAct]
  by_cases isResume : packet.type = CmdType.putsResp.code
  · obtain ⟨size, rfl, isPayload⟩ := allowed isResume
    split_ifs
    · rw [Act.After, PutsPhase.learn_send_resume isResume]
      exact ⟨fine, part, position, isOpen, fun _ => trivial⟩
    · rw [Act.After, PutsPhase.learn_send_resume isResume]
      refine ⟨fine.send _, part, position, isOpen, fun same => ?_⟩
      obtain ⟨⟨nothing, noData⟩, isSize⟩ := known same
      subst same
      refine ⟨?_, noData, isSize, fine.isPrefix nothing isOpen.content⟩
      rw [announcedOffset_first nothing isResume, isPayload, netToHost_hostToNet]
  · split_ifs
    · rw [Act.After, PutsPhase.learn_send_other isResume]
      exact ⟨fine, part, position, isOpen, known⟩
    · rw [Act.After, PutsPhase.learn_send_other isResume]
      exact ⟨fine.send _, part, position, isOpen,
        fun same => (known same).of_announced (announcedOffset_other isResume)⟩

/-- What is received continues what is announced. -/
theorem keptBy_lseek {offset : UInt64} (measurable : content.length < 2 ^ 63)
    (known : opened = hash →
      (PartStage.announced offset).Holds content sent received part position) :
    KeptBy sha256 dialect content hash choice (.lseek own offset) state sent
      received (.writing opened own (.announced offset)) := by
  refine keptBy_stored rfl ?_
  rw [performStored]
  split_ifs
  · exact ⟨fine, part, position, isOpen, fun _ => trivial⟩
  · refine ⟨fine.of_content rfl, part, offset.toNat, isOpen.seek _, fun same => ?_⟩
    obtain ⟨announced, noData, isSize, isPrefix⟩ := known same
    have isLength : offset.toNat = part.length := by
      rw [isSize]
      exact toNat_fileSize (isPrefix.length_le.trans_lt measurable)
    refine ⟨isLength, offset, announced, isLength ▸ isPrefix.length_le, ?_⟩
    rw [noData, isLength, List.append_nil, List.append_nil]
    exact List.prefix_iff_eq_take.mp isPrefix

theorem keptBy_recv
    (known : opened = hash →
      (PartStage.receiving []).Holds content sent received part position) :
    KeptBy sha256 dialect content hash choice .recv state sent received
      (.writing opened own (.receiving [])) := by
  rw [KeptBy, serverAct]
  split_ifs
  · exact ⟨fine, part, position, isOpen, fun _ => trivial⟩
  · refine ⟨⟨fine, part, position, isOpen, fun _ => trivial⟩, fun packet =>
      ⟨fine.receive packet, part, position, isOpen, fun same => ?_⟩⟩
    split_ifs with isData
    · obtain ⟨atEnd, offset, announced, inside, isPart⟩ := known same
      refine ⟨atEnd, offset, announced, inside, ?_⟩
      rw [List.append_nil] at isPart
      rw [dataOf_append, dataOf_data isData, ← List.append_assoc, isPart]
    · trivial

theorem keptBy_write {data : Bytes}
    (known : opened = hash →
      (PartStage.receiving data).Holds content sent received part position) :
    KeptBy sha256 dialect content hash choice (.write own data) state sent received
      (.writing opened own (.receiving data)) := by
  refine keptBy_stored rfl ?_
  rw [performStored]
  split_ifs with positive
  · dsimp only
    have written := isOpen.overwrite
      (data.take (min choice.more (data.length - 1) + 1))
    by_cases same : opened = hash
    · subst same
      obtain ⟨atEnd, offset, announced, inside, isPart⟩ := known rfl
      rw [overwrite_length atEnd] at written
      have rest : part ++ data.take (min choice.more (data.length - 1) + 1) ++
          data.drop (min choice.more (data.length - 1) + 1) =
          content.take offset.toNat ++ dataOf received := by
        rw [List.append_assoc, List.take_append_drop, isPart]
      refine ⟨fun other holds => ?_, _, _, written,
        fun _ => ⟨by rw [List.length_append, atEnd], offset, announced, inside, rest⟩⟩
      cases written.content.symm.trans holds
      exact Or.inr ⟨offset, announced, inside, rest ▸ List.prefix_append _ _⟩
    · exact ⟨fine.of_content (isOpen.sameAt_write
        (fun isSame => same (StoredFile.part.inj isSame).symm) _).content, _, _,
        written, fun isSame => absurd isSame same⟩
  · exact ⟨fine, part, position, isOpen, fun _ => trivial⟩

theorem keptBy_digest :
    KeptBy sha256 dialect content hash choice (.digest own) state sent received
      (.writing opened own .ended) := by
  refine keptBy_stored rfl ?_
  rw [performStored]
  split_ifs
  · exact ⟨fine, part, position, isOpen, fun _ => trivial⟩
  · rw [isOpen.bytes]
    exact ⟨fine.of_content rfl, trivial⟩

end Writing

theorem keptBy_writing (measurable : content.length < 2 ^ 63)
    (allowed : (PutsPhase.writing opened own stage).Allows op)
    (holds : (PutsPhase.writing opened own stage).Holds content hash state.files
      sent received) :
    KeptBy sha256 dialect content hash choice op state sent received
      (.writing opened own stage) := by
  obtain ⟨fine, part, position, isOpen, known⟩ := holds
  cases op with
  | fstat fd =>
      obtain ⟨rfl, rfl⟩ := allowed
      exact keptBy_fstat fine isOpen known
  | truncate fd =>
      obtain ⟨rfl, size, rfl⟩ := allowed
      exact keptBy_truncate fine isOpen fun same => (known same).1
  | send packet => exact keptBy_send fine isOpen allowed known
  | lseek fd offset =>
      obtain ⟨rfl, rfl | rfl⟩ := allowed
      · exact keptBy_lseek fine isOpen measurable known
      · refine keptBy_stored rfl ?_
        rw [performStored]
        split_ifs
        · exact ⟨fine, part, position, isOpen, fun _ => trivial⟩
        · exact ⟨fine.of_content rfl, part, _, isOpen.seek _, fun _ => trivial⟩
  | recv =>
      cases allowed
      exact keptBy_recv fine isOpen known
  | write fd data =>
      obtain ⟨rfl, rfl⟩ := allowed
      exact keptBy_write fine isOpen known
  | fsync fd =>
      cases stage <;> exact ⟨fine, part, position, isOpen, fun _ => trivial⟩
  | digest fd =>
      obtain ⟨rfl, rfl⟩ := allowed
      exact keptBy_digest fine isOpen
  | close fd => cases stage <;> exact ⟨fine.of_content rfl, trivial⟩
  | _ => cases stage <;> exact allowed.elim

theorem keptBy_closed (allowed : (PutsPhase.closed opened verified).Allows op)
    (holds : (PutsPhase.closed opened verified).Holds content hash state.files
      sent received) :
    KeptBy sha256 dialect content hash choice op state sent received
      (.closed opened verified) := by
  have different : opened ≠ hash → StoredFile.part hash ≠ .part opened :=
    fun differs isSame => differs (StoredFile.part.inj isSame).symm
  have notObject : ∀ published, StoredFile.part hash ≠ .object published := nofun
  cases op with
  | send packet =>
      rw [KeptBy, serverAct]
      split_ifs
      · exact holds
      · exact ⟨holds.1.send _, trivial⟩
  | unlink file =>
      obtain rfl : file = .part opened := allowed
      refine keptBy_stored rfl ?_
      rw [performStored]
      split_ifs
      · exact holds
      · refine ⟨?_, trivial⟩
        by_cases same : opened = hash
        · subst same
          intro part isPart
          cases FileSystem.content_unlink.symm.trans isPart
        · exact holds.1.of_content
            (FileSystem.sameAt_unlink (different same)).content
  | publish published =>
      obtain ⟨rfl, -⟩ := allowed
      refine keptBy_stored rfl ?_
      rw [performStored]
      split_ifs
      · exact holds
      · exact holds
      · refine ⟨?_, trivial⟩
        by_cases same : published = hash
        · subst same
          intro part isPart
          cases (FileSystem.content_rename_source
            (notObject published)).symm.trans isPart
        · exact holds.1.of_content (FileSystem.sameAt_rename (different same)
            (notObject published)).content
  | objectExists | daoCreateFileWithPath => exact holds
  | _ => exact allowed.elim

/-- Every call of the server keeps what is known of the temporary file. -/
theorem PutsPhase.Holds.keptBy {phase : PutsPhase}
    (measurable : content.length < 2 ^ 63)
    (holds : phase.Holds content hash state.files sent received)
    (allowed : phase.Allows op) :
    KeptBy sha256 dialect content hash choice op state sent received phase := by
  cases phase with
  | idle ready => exact keptBy_idle allowed holds
  | writing opened fd stage => exact keptBy_writing measurable allowed holds
  | digested opened fd actual =>
      cases op with
      | close fd => exact ⟨holds.1.of_content rfl, trivial⟩
      | _ => exact allowed.elim
  | closed opened verified => exact keptBy_closed allowed holds

theorem passes_serveTransfer (session : FittingContext)
    (transferTempDir storageRoot : Bytes) :
    Passes (.idle true) (serveTransfer session transferTempDir storageRoot)
      fun _ _ => True := by
  unfold serveTransfer
  refine Prog.Obeys.ask trivial fun received => ?_
  cases received with
  | none => trivial
  | some packet =>
      refine TransferTask.passes_handleTransferTask _ fun isPuts => ?_
      have isPuts : packet.type = CmdType.putsReq.code := isPuts
      rw [isPuts]
      decide

end Server

end CloudDrive
