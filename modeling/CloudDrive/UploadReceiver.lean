import CloudDrive.UploadDialogue

/-!
# What an upload accepts

`handle_puts` after it has sent `CMD_PUTS_RESP`: which packets bring it to the
verification of the temporary file, what it has read when it stops, and what the
temporary file then holds.
-/

namespace CloudDrive

/-- A data packet that the receiver takes when `missing` bytes are left. -/
def IsPiece (sessionId : SessionId) (missing : Nat) (packet : Packet) : Prop :=
  packet.sessionId = sessionId ∧ packet.type = CmdType.fileData.code ∧
    1 ≤ packet.payload.length ∧ packet.payload.length ≤ fileChunkSize ∧
    packet.payload.length ≤ missing

instance (sessionId : SessionId) (missing : Nat) (packet : Packet) :
    Decidable (IsPiece sessionId missing packet) :=
  inferInstanceAs (Decidable (_ ∧ _))

/-- The packets begin with data packets that carry the missing bytes and the packet
that ends them. -/
def BeginsWithUpload (sessionId : SessionId) (missing : Nat) (packets : List Packet) :
    Prop :=
  ∃ data last rest, packets = data ++ last :: rest ∧
    (∀ packet ∈ data, packet.sessionId = sessionId ∧
      packet.type = CmdType.fileData.code ∧ 1 ≤ packet.payload.length ∧
      packet.payload.length ≤ fileChunkSize) ∧
    (data.map fun packet => packet.payload.length).sum = missing ∧
    last.sessionId = sessionId ∧ last.type = CmdType.fileEnd.code

/-- The data packets that are taken. -/
def takenData (sessionId : SessionId) : Nat → List Packet → List Packet
  | _, [] => []
  | missing, packet :: packets =>
      if IsPiece sessionId missing packet then
        packet :: takenData sessionId (missing - packet.payload.length) packets
      else []

/-- The bytes of the data packets that are taken. -/
def takenBytes (sessionId : SessionId) (missing : Nat) (packets : List Packet) : Bytes :=
  (takenData sessionId missing packets).flatMap Packet.payload

section Grammar

variable {sessionId : SessionId} {missing : Nat} {packet : Packet}
  {packets : List Packet}

theorem fileEnd_ne_fileData : CmdType.fileEnd.code ≠ CmdType.fileData.code := by decide

theorem not_beginsWithUpload_nil : ¬BeginsWithUpload sessionId missing [] := by
  rintro ⟨data, last, rest, isSplit, -⟩
  simp at isSplit

theorem beginsWithUpload_cons :
    BeginsWithUpload sessionId missing (packet :: packets) ↔
      IsPiece sessionId missing packet ∧
          BeginsWithUpload sessionId (missing - packet.payload.length) packets ∨
        missing = 0 ∧ packet.sessionId = sessionId ∧
          packet.type = CmdType.fileEnd.code := by
  constructor
  · rintro ⟨data, last, rest, isSplit, pieces, total, ours, isEnd⟩
    cases data with
    | nil =>
        obtain ⟨rfl, rfl⟩ := List.cons.inj isSplit
        exact Or.inr ⟨total.symm, ours, isEnd⟩
    | cons first data =>
        obtain ⟨rfl, rfl⟩ := List.cons.inj isSplit
        rw [List.map_cons, List.sum_cons] at total
        obtain ⟨isOurs, isData, positive, fits⟩ := pieces packet List.mem_cons_self
        refine Or.inl ⟨⟨isOurs, isData, positive, fits, by omega⟩, data, last, rest, rfl,
          fun other isOther => pieces other (List.mem_cons_of_mem _ isOther), ?_, ours,
          isEnd⟩
        omega
  · rintro (⟨⟨isOurs, isData, positive, fits, inside⟩, data, last, rest, rfl, pieces,
      total, ours, isEnd⟩ | ⟨rfl, ours, isEnd⟩)
    · refine ⟨packet :: data, last, rest, rfl, ?_, ?_, ours, isEnd⟩
      · intro other isOther
        rcases List.mem_cons.mp isOther with rfl | inData
        · exact ⟨isOurs, isData, positive, fits⟩
        · exact pieces other inData
      · rw [List.map_cons, List.sum_cons]
        omega
    · exact ⟨[], packet, packets, rfl, nofun, rfl, ours, isEnd⟩

theorem takenData_of_not (other : ¬IsPiece sessionId missing packet) :
    takenData sessionId missing (packet :: packets) = [] := by
  rw [takenData, if_neg other]

theorem takenData_of_piece (piece : IsPiece sessionId missing packet) :
    takenData sessionId missing (packet :: packets) =
      packet :: takenData sessionId (missing - packet.payload.length) packets := by
  rw [takenData, if_pos piece]

theorem takenBytes_of_piece (piece : IsPiece sessionId missing packet) :
    takenBytes sessionId missing (packet :: packets) =
      packet.payload ++
        takenBytes sessionId (missing - packet.payload.length) packets := by
  rw [takenBytes, takenData_of_piece piece, List.flatMap_cons]
  rfl

/-- No more bytes are taken than are missing. -/
theorem length_takenBytes (sessionId : SessionId) (missing : Nat)
    (packets : List Packet) :
    (takenBytes sessionId missing packets).length ≤ missing := by
  induction packets generalizing missing with
  | nil => exact Nat.zero_le _
  | cons packet packets inductionHypothesis =>
      by_cases piece : IsPiece sessionId missing packet
      · have rest := inductionHypothesis (missing - packet.payload.length)
        have inside := piece.2.2.2.2
        rw [takenBytes_of_piece piece, List.length_append]
        omega
      · rw [takenBytes, takenData_of_not piece]
        exact Nat.zero_le _

theorem not_isPiece_zero : ¬IsPiece sessionId 0 packet := by
  rintro ⟨-, -, positive, -, inside⟩
  omega

end Grammar

/-- A server worker that receives: packets arrive until the connection ends, and the
calls on its files succeed. -/
structure Arrivals where
  files : ServerFiles
  arriving : List Packet
  /-- The packets that have been read. -/
  examined : List Packet
  responses : List Packet
  /-- The verification has begun. -/
  verifying : Bool

def performArrivals (sha256 : Sha256) (choice : ServerChoice) :
    (op : TaskOp) → Arrivals → op.Answer × Arrivals
  | .recv, state =>
      match state.arriving with
      | [] => (none, state)
      | packet :: packets =>
          (some packet,
            { state with arriving := packets, examined := state.examined ++ [packet] })
  | .send packet, state =>
      (choice.answer (.send packet), { state with responses := state.responses ++ [packet] })
  | .fsync _, state => (true, { state with verifying := true })
  | op, state =>
      let (answer, files) := performStored sha256 { choice with fails := false } op state.files
      (answer, { state with files })

namespace TransferTask

/-- The end of the data, after the loop that receives it. -/
def endData (task : TransferTask) : UploadStep × Bool × Nat → Handler UploadStep
  | (.stops status, _, _) => pure (.stops status)
  | (.goesOn, gotFileEnd, remaining) =>
      if remaining ≠ 0 then pure (.stops (some .protocolError))
      else if gotFileEnd then pure .goesOn
      else do
        match ← task.recvTransferPacket with
        | none => pure (.stops none)
        | some packet =>
            if packet.type ≠ CmdType.fileEnd.code then
              pure (.stops (some .protocolError))
            else pure .goesOn

theorem receiveFile_eq (task : TransferTask) (fd : Nat) {offset fileSize : UInt64}
    (missing : offset < fileSize) :
    task.receiveFile fd offset fileSize = (do
      if !(← Prog.ask (TaskOp.lseek fd offset)) then pure (.stops (some .ioError))
      else task.receiveData fd (fileSize - offset).toNat (fileSize - offset).toNat >>=
        task.endData) := by
  rw [receiveFile, if_neg (by simpa using missing)]
  rfl

section Receiving

variable {sha256 : Sha256} {task : TransferTask} {state : Arrivals} {fd : Nat}
  {name : StoredFile} {data : Bytes}

abbrev AlwaysReceives {α : Type} (sha256 : Sha256) (program : Handler α)
    (state : Arrivals) (post : α → Arrivals → Prop) : Prop :=
  Prog.Always (performArrivals sha256) program state post

theorem receives_nothing (isEmpty : state.arriving = []) :
    AlwaysReceives sha256 task.recvTransferPacket state fun answer after =>
      answer = none ∧ after = state := by
  intro choice
  rw [performArrivals, isEmpty]
  exact ⟨rfl, rfl⟩

theorem receives_packet {packet : Packet} {packets : List Packet}
    (arrives : state.arriving = packet :: packets) :
    AlwaysReceives sha256 task.recvTransferPacket state fun answer after =>
      (answer = if packet.sessionId = task.packet.sessionId then some packet else none) ∧
      after.arriving = packets ∧ after.examined = state.examined ++ [packet] ∧
      after.files = state.files ∧ after.verifying = state.verifying := by
  refine .ask fun choice => ?_
  rw [performArrivals, arrives]
  dsimp only
  by_cases ours : packet.sessionId = task.packet.sessionId
  · rw [if_neg (not_not.mpr ours), if_pos ours]
    exact ⟨rfl, rfl, rfl, rfl, rfl⟩
  · rw [if_pos ours, if_neg ours]
    exact fun _ => ⟨rfl, rfl, rfl, rfl, rfl⟩

theorem receives_writeN {fuel : Nat} {new : Bytes} (enough : new.length ≤ fuel)
    (isOpen : state.files.IsOpen fd name data data.length) :
    AlwaysReceives sha256 (writeN fd fuel new) state fun written after =>
      written = true ∧ ∃ files : ServerFiles, after = { state with files } ∧
        files.IsOpen fd name (data ++ new) (data ++ new).length := by
  induction fuel generalizing state data new with
  | zero =>
      rw [List.eq_nil_of_length_eq_zero (Nat.le_zero.mp enough), List.append_nil]
      exact ⟨rfl, state.files, rfl, isOpen⟩
  | succ fuel inductionHypothesis =>
      cases new with
      | nil =>
          rw [List.append_nil]
          exact ⟨rfl, state.files, rfl, isOpen⟩
      | cons byte new =>
          -- The rest of the bytes after a write that moves some of them.
          have rest (more : Nat) : AlwaysReceives sha256 (writeN fd fuel (new.drop more))
              { state with files := state.files.write fd (byte :: new.take more) }
              fun written after => written = true ∧
                ∃ files : ServerFiles, after = { state with files } ∧
                  files.IsOpen fd name (data ++ byte :: new)
                    (data ++ byte :: new).length := by
            have written := isOpen.write rfl (byte :: new.take more)
            rw [← List.length_append] at written
            have short : (new.drop more).length ≤ fuel := by
              rw [List.length_cons] at enough
              rw [List.length_drop]
              omega
            have whole : data ++ byte :: new.take more ++ new.drop more =
                data ++ byte :: new := by
              simp
            rw [← whole]
            exact inductionHypothesis short written
          refine fun choice => ?_
          simp only [performArrivals, performStored, List.length_cons, Nat.zero_lt_succ,
            and_self, ↓reduceDIte, Nat.add_one_sub_one, List.take_succ_cons]
          exact rest _

/-- What the receiver has done when it stops or goes on to the verification: it has
read the data packets it takes and one more packet, and appended what they carry. -/
structure Received (sessionId : SessionId) (fd : Nat) (name : StoredFile)
    (before : Arrivals) (data : Bytes) (missing : Nat) (step : UploadStep)
    (after : Arrivals) : Prop where
  verdict : step = .goesOn ↔ BeginsWithUpload sessionId missing before.arriving
  examined : after.examined = before.examined ++ before.arriving.take
    ((takenData sessionId missing before.arriving).length + 1)
  holds : after.files.IsOpen fd name
    (data ++ takenBytes sessionId missing before.arriving)
    (data ++ takenBytes sessionId missing before.arriving).length
  verifying : after.verifying = before.verifying

variable {sessionId : SessionId} {missing : Nat} {packet : Packet}
  {packets : List Packet} {after : Arrivals}

/-- The connection has ended. -/
theorem received_nothing (isEmpty : state.arriving = [])
    (isOpen : state.files.IsOpen fd name data data.length) (status : Option StatusCode) :
    Received sessionId fd name state data missing (.stops status) state := by
  constructor
  · rw [isEmpty]
    exact ⟨nofun, fun begins => absurd begins not_beginsWithUpload_nil⟩
  · rw [isEmpty, List.take_nil, List.append_nil]
  · rw [isEmpty, takenBytes, takenData, List.flatMap_nil, List.append_nil]
    exact isOpen
  · rfl

/-- A packet that is no data packet for the receiver is the last one it reads. -/
theorem received_last (arrives : state.arriving = packet :: packets)
    (other : ¬IsPiece sessionId missing packet)
    (isOpen : state.files.IsOpen fd name data data.length) {step : UploadStep}
    (verdict : step = .goesOn ↔ missing = 0 ∧ packet.sessionId = sessionId ∧
      packet.type = CmdType.fileEnd.code)
    (examined : after.examined = state.examined ++ [packet])
    (files : after.files = state.files) (verifying : after.verifying = state.verifying) :
    Received sessionId fd name state data missing step after := by
  constructor
  · rw [arrives, beginsWithUpload_cons, verdict]
    exact ⟨Or.inr, Or.rec (fun begins => absurd begins.1 other) id⟩
  · rw [arrives, takenData_of_not other, examined]
    rfl
  · rw [arrives, takenBytes, takenData_of_not other, List.flatMap_nil, List.append_nil,
      files]
    exact isOpen
  · exact verifying

/-- A data packet that is taken comes before the others. -/
theorem Received.piece {later : Arrivals} {step : UploadStep}
    (received : Received sessionId fd name after (data ++ packet.payload)
      (missing - packet.payload.length) step later)
    (arrives : state.arriving = packet :: packets)
    (piece : IsPiece sessionId missing packet) (rest : after.arriving = packets)
    (examined : after.examined = state.examined ++ [packet])
    (verifying : after.verifying = state.verifying) :
    Received sessionId fd name state data missing step later := by
  obtain ⟨verdict, laterExamined, holds, laterVerifying⟩ := received
  rw [rest] at verdict laterExamined holds
  constructor
  · rw [arrives, beginsWithUpload_cons, verdict]
    refine ⟨fun begins => Or.inl ⟨piece, begins⟩, ?_⟩
    rintro (⟨-, begins⟩ | ⟨rfl, -⟩)
    · exact begins
    · exact absurd piece not_isPiece_zero
  · rw [laterExamined, examined, arrives, takenData_of_piece piece, List.length_cons,
      List.take_succ_cons, List.append_assoc]
    rfl
  · rw [arrives, takenBytes_of_piece piece, ← List.append_assoc]
    exact holds
  · exact laterVerifying.trans verifying

/-- No byte is missing: the next packet has to be the end. -/
theorem receives_end (isOpen : state.files.IsOpen fd name data data.length) :
    AlwaysReceives sha256 (task.endData (.goesOn, false, 0)) state
      (Received task.packet.sessionId fd name state data 0) := by
  rw [endData, if_neg (not_not.mpr rfl), if_neg Bool.false_ne_true]
  cases arrives : state.arriving with
  | nil =>
      apply (receives_nothing arrives).bind
      rintro _ _ ⟨rfl, rfl⟩
      exact received_nothing arrives isOpen none
  | cons packet packets =>
      apply (receives_packet arrives).bind
      rintro answer after ⟨isAnswer, -, examined, files, verifying⟩
      have last {step : UploadStep} (verdict : step = .goesOn ↔ 0 = 0 ∧
          packet.sessionId = task.packet.sessionId ∧
            packet.type = CmdType.fileEnd.code) :=
        received_last arrives not_isPiece_zero isOpen verdict examined files verifying
      split_ifs at isAnswer with ours
      · subst isAnswer
        dsimp only
        split_ifs with other
        · exact last ⟨nofun, fun ends => absurd ends.2.2 other⟩
        · exact last ⟨fun _ => ⟨rfl, ours, not_not.mp other⟩, fun _ => rfl⟩
      · subst isAnswer
        exact last ⟨nofun, fun ends => absurd ends.2.1 ours⟩

theorem receives_rest {fuel : Nat} (enough : missing ≤ fuel)
    (isOpen : state.files.IsOpen fd name data data.length) :
    AlwaysReceives sha256 (task.receiveData fd fuel missing >>= task.endData) state
      (Received task.packet.sessionId fd name state data missing) := by
  induction fuel generalizing state data missing with
  | zero =>
      obtain rfl := Nat.le_zero.mp enough
      exact receives_end isOpen
  | succ fuel inductionHypothesis =>
      rcases missing with _ | missing
      · exact receives_end isOpen
      rw [receiveData, Prog.bind_bind]
      swap
      · omega
      cases arrives : state.arriving with
      | nil =>
          apply (receives_nothing arrives).bind
          rintro _ _ ⟨rfl, rfl⟩
          exact received_nothing arrives isOpen none
      | cons packet packets =>
          apply (receives_packet arrives).bind
          rintro answer after ⟨isAnswer, rest, examined, files, verifying⟩
          have stops {status : Option StatusCode}
              (other : ¬IsPiece task.packet.sessionId (missing + 1) packet) :
              Received task.packet.sessionId fd name state data (missing + 1)
                (.stops status) after := by
            refine received_last arrives other isOpen (iff_of_false ?_ ?_) examined files
              verifying
            · exact UploadStep.noConfusion
            · exact fun ends => Nat.succ_ne_zero _ ends.1
          split_ifs at isAnswer with ours
          · subst isAnswer
            dsimp only
            split_ifs with isEnd unfit
            · refine stops fun piece => fileEnd_ne_fileData ?_
              exact isEnd.symm.trans piece.2.1
            · refine stops fun piece => ?_
              obtain ⟨-, isData, positive, fits, inside⟩ := piece
              rcases unfit with other | isEmpty | large | beyond
              · exact other isData
              · rw [isEmpty] at positive
                exact absurd positive (by decide)
              · omega
              · omega
            · have piece : IsPiece task.packet.sessionId (missing + 1) packet := by
                push Not at unfit
                obtain ⟨isData, nonempty, fits, inside⟩ := unfit
                exact ⟨ours, isData, List.length_pos_iff.mpr nonempty, fits, inside⟩
              rw [← files] at isOpen
              rw [Prog.bind_bind]
              apply (receives_writeN (Nat.le_refl _) isOpen).bind
              rintro _ _ ⟨rfl, written, rfl, isWritten⟩
              rw [if_neg (by decide)]
              refine (inductionHypothesis ?_ isWritten).mono fun step later received => ?_
              · have positive := piece.2.2.1
                omega
              · exact received.piece arrives piece rest examined verifying
          · subst isAnswer
            exact stops fun piece => ours piece.1

end Receiving

section Counters

/-- A sum of unsigned counters that does not wrap. -/
def checkedAdd (first : UInt64) (more : Nat) : Option UInt64 :=
  if first.toNat + more < 2 ^ 64 then some (first + UInt64.ofNat more) else none

/-- A difference of unsigned counters that does not wrap. -/
def checkedSub (first second : UInt64) : Option UInt64 :=
  if second ≤ first then some (first - second) else none

/-- The loop of `receiveData` with the counters of the source; without a result if one
of them wraps. -/
def receiveCounted (task : TransferTask) (fd : Nat) (expected : UInt64) :
    Nat → UInt64 → Handler (Option (UploadStep × Bool × UInt64))
  | 0, received => pure (some (.goesOn, false, received))
  | fuel + 1, received =>
      if received < expected then do
        match ← task.recvTransferPacket with
        | none => pure (some (.stops none, false, received))
        | some packet =>
            if packet.type = CmdType.fileEnd.code then
              pure (some (.goesOn, true, received))
            else if packet.type ≠ CmdType.fileData.code ∨ packet.payload = [] ∨
                fileChunkSize < packet.payload.length then
              pure (some (.stops (some .protocolError), false, received))
            else
              match checkedSub expected received with
              | none => pure none
              | some left =>
                  if left.toNat < packet.payload.length then
                    pure (some (.stops (some .protocolError), false, received))
                  else if !(← writeN fd packet.payload.length packet.payload) then
                    pure (some (.stops (some .ioError), false, received))
                  else
                    match checkedAdd received packet.payload.length with
                    | none => pure none
                    | some received => receiveCounted task fd expected fuel received
      else pure (some (.goesOn, false, received))

/-- The counter that belongs to a number of missing bytes. -/
def counted (expected : UInt64) :
    UploadStep × Bool × Nat → UploadStep × Bool × UInt64
  | (step, gotFileEnd, remaining) =>
      (step, gotFileEnd, UInt64.ofNat (expected.toNat - remaining))

/-- A loop that ends here ends with the counter of the missing bytes. -/
theorem pure_counted {expected received : UInt64} (inside : received ≤ expected)
    (step : UploadStep) (gotFileEnd : Bool) :
    (pure (some (step, gotFileEnd, received)) : Handler _) =
      pure (step, gotFileEnd, expected.toNat - received.toNat) >>= fun result =>
        pure (some (counted expected result)) := by
  change _ = pure (some (step, gotFileEnd,
    UInt64.ofNat (expected.toNat - (expected.toNat - received.toNat))))
  rw [Nat.sub_sub_self (UInt64.le_iff_toNat_le.mp inside), UInt64.ofNat_toNat]

/-- No counter wraps, and `receiveData` counts what is left. -/
theorem receiveCounted_eq (task : TransferTask) (fd : Nat) {expected received : UInt64}
    (fuel : Nat) (inside : received ≤ expected) :
    task.receiveCounted fd expected fuel received =
      task.receiveData fd fuel (expected.toNat - received.toNat) >>= fun result =>
        pure (some (counted expected result)) := by
  induction fuel generalizing received with
  | zero =>
      rw [receiveCounted, receiveData]
      exact pure_counted inside .goesOn false
  | succ fuel inductionHypothesis =>
      rw [receiveCounted]
      split_ifs with less
      · have difference := UInt64.lt_iff_toNat_lt.mp less
        have limit := expected.toNat_lt
        have isLeft : checkedSub expected received = some (expected - received) :=
          if_pos inside
        have toNat_left : (expected - received).toNat =
            expected.toNat - received.toNat := UInt64.toNat_sub_of_le _ _ inside
        rw [receiveData, Prog.bind_bind]
        swap
        · omega
        congr 1
        funext answer
        rcases answer with _ | packet
        · exact pure_counted inside (.stops none) false
        dsimp only
        rw [isLeft]
        dsimp only
        rw [toNat_left]
        by_cases isEnd : packet.type = CmdType.fileEnd.code
        · rw [if_pos isEnd, if_pos isEnd]
          exact pure_counted inside .goesOn true
        rw [if_neg isEnd, if_neg isEnd]
        by_cases unfit : packet.type ≠ CmdType.fileData.code ∨ packet.payload = [] ∨
            fileChunkSize < packet.payload.length
        · rw [if_pos unfit, if_pos (by tauto)]
          exact pure_counted inside (.stops (some .protocolError)) false
        by_cases beyond : expected.toNat - received.toNat < packet.payload.length
        · rw [if_neg unfit, if_pos beyond, if_pos (by tauto)]
          exact pure_counted inside (.stops (some .protocolError)) false
        rw [if_neg unfit, if_neg beyond, if_neg (by tauto), Prog.bind_bind]
        congr 1
        funext written
        cases written with
        | false => exact pure_counted inside (.stops (some .ioError)) false
        | true =>
            have sum : received.toNat + packet.payload.length < 2 ^ 64 := by omega
            have toNat_sum : (received + UInt64.ofNat packet.payload.length).toNat =
                received.toNat + packet.payload.length := by
              have short : packet.payload.length < 2 ^ 64 := by omega
              rw [UInt64.toNat_add, UInt64.toNat_ofNat', Nat.mod_eq_of_lt short,
                Nat.mod_eq_of_lt sum]
            rw [if_neg (by decide), if_neg (by decide), checkedAdd, if_pos sum]
            dsimp only
            rw [inductionHypothesis, toNat_sum, Nat.sub_add_eq]
            rw [UInt64.le_iff_toNat_le, toNat_sum]
            omega
      · have isAll : expected.toNat - received.toNat = 0 := by
          have := UInt64.le_iff_toNat_le.mp (UInt64.not_lt.mp less)
          omega
        have ends := pure_counted inside .goesOn false
        rw [isAll] at ends ⊢
        rw [receiveData]
        · exact ends
        · omega

end Counters

section Verification

variable {sha256 : Sha256} {task : TransferTask} {state : Arrivals} {fd : Nat}

/-- A verification that has begun stays begun. -/
theorem verifying_kept {α : Type} (program : Handler α) (begun : state.verifying = true) :
    AlwaysReceives sha256 program state fun _ after => after.verifying = true := by
  induction program generalizing state with
  | done value => exact begun
  | call op next inductionHypothesis =>
      intro choice
      apply inductionHypothesis
      cases op with
      | recv =>
          rw [performArrivals]
          split <;> exact begun
      | fsync => rfl
      | _ => exact begun

/-- The verification begins if the receiver goes on. -/
theorem verifying_afterPart (target : UploadTarget) (parentId : UInt64)
    (step : UploadStep) (waiting : state.verifying = false) :
    AlwaysReceives sha256 (task.afterPart target parentId fd step) state
      fun _ after => after.verifying = true ↔ step = .goesOn := by
  have never {after : Arrivals} {status : Option StatusCode}
      (same : after.verifying = state.verifying) :
      after.verifying = true ↔ UploadStep.stops status = .goesOn := by
    rw [same, waiting]
    exact ⟨nofun, nofun⟩
  cases step with
  | goesOn =>
      intro choice
      apply (verifying_kept _ rfl).mono
      exact fun _ _ begun => ⟨fun _ => rfl, fun _ => begun⟩
  | stops status =>
      cases status with
      | none => exact fun _ => never rfl
      | some status => exact fun _ _ => never rfl

end Verification

/-- What follows the data packets that are taken is no data packet for the receiver. -/
theorem takenData_append (sessionId : SessionId) (missing : Nat)
    (packets : List Packet) :
    ∃ rest, packets = takenData sessionId missing packets ++ rest ∧
      ∀ next, rest.head? = some next → ¬IsPiece sessionId
        (missing - (takenBytes sessionId missing packets).length) next := by
  induction packets generalizing missing with
  | nil => exact ⟨[], rfl, nofun⟩
  | cons packet packets inductionHypothesis =>
      by_cases piece : IsPiece sessionId missing packet
      · obtain ⟨rest, isRest, refused⟩ :=
          inductionHypothesis (missing - packet.payload.length)
        rw [takenData_of_piece piece, takenBytes_of_piece piece, List.length_append,
          Nat.sub_add_eq]
        exact ⟨rest, by rw [List.cons_append, ← isRest], refused⟩
      · rw [takenBytes, takenData_of_not piece]
        refine ⟨packet :: packets, rfl, ?_⟩
        rintro _ ⟨⟩
        exact piece

/-- After `CMD_PUTS_RESP` the receiver goes on to the verification exactly for the
packets that begin with the missing bytes and their end.  It reads one packet after the
data packets it takes, the temporary file holds what it held and their bytes, never more
than the announced size, and no counter wraps. -/
theorem handlePuts_receives_upload {sha256 : Sha256} {task : TransferTask}
    {target : UploadTarget} {parentId offset : UInt64} {fd position : Nat} {part : Bytes}
    {state : Arrivals}
    (isOpen : state.files.IsOpen fd (.part target.sha256Hex) part position)
    (isOffset : offset.toNat = part.length) (isMissing : offset < target.fileSize)
    (waiting : state.verifying = false) :
    let sessionId := task.packet.sessionId
    let missing := target.fileSize.toNat - offset.toNat
    let taken := takenData sessionId missing state.arriving
    let content := part.take offset.toNat ++ takenBytes sessionId missing state.arriving
    AlwaysReceives sha256 (task.receiveFile fd offset target.fileSize) state
      (fun step after =>
        (step = .goesOn ↔ BeginsWithUpload sessionId missing state.arriving) ∧
        after.examined = state.examined ++ state.arriving.take (taken.length + 1) ∧
        after.files.content (.part target.sha256Hex) = some content) ∧
    AlwaysReceives sha256
      (task.receiveFile fd offset target.fileSize >>=
        task.afterPart target parentId fd) state
      (fun _ after => after.verifying = true ↔
        BeginsWithUpload sessionId missing state.arriving) ∧
    (∃ rest, state.arriving = taken ++ rest ∧ ∀ next, rest.head? = some next →
      ¬IsPiece sessionId
        (missing - (takenBytes sessionId missing state.arriving).length) next) ∧
    content.length ≤ target.fileSize.toNat ∧
    (target.fileSize - offset).toNat = missing ∧
    ∀ fuel, task.receiveCounted fd (target.fileSize - offset) fuel 0 =
      task.receiveData fd fuel missing >>= fun result =>
        pure (some (counted (target.fileSize - offset) result)) := by
  have toNat_missing : (target.fileSize - offset).toNat =
      target.fileSize.toNat - offset.toNat :=
    UInt64.toNat_sub_of_le _ _ (UInt64.le_of_lt isMissing)
  have less := UInt64.lt_iff_toNat_lt.mp isMissing
  have whole : part.take offset.toNat = part := by
    rw [isOffset, List.take_length]
  have receives : AlwaysReceives sha256 (task.receiveFile fd offset target.fileSize)
      state (Received task.packet.sessionId fd (.part target.sha256Hex) state part
        (target.fileSize.toNat - offset.toNat)) := by
    rw [receiveFile_eq task fd isMissing, toNat_missing]
    have sought : (state.files.seek fd offset.toNat).IsOpen fd
        (.part target.sha256Hex) part part.length := by
      rw [isOffset]
      exact isOpen.seek part.length
    have received : AlwaysReceives sha256
        (task.receiveData fd (target.fileSize.toNat - offset.toNat)
          (target.fileSize.toNat - offset.toNat) >>= task.endData)
        { state with files := state.files.seek fd offset.toNat } _ :=
      receives_rest (Nat.le_refl _) sought
    exact fun choice => received.mono fun step after result =>
      ⟨result.verdict, result.examined, result.holds, result.verifying⟩
  refine ⟨receives.mono ?_, receives.bind ?_, takenData_append .., ?_, toNat_missing, ?_⟩
  · intro step after received
    rw [whole]
    exact ⟨received.verdict, received.examined, received.holds.content⟩
  · intro step after received
    apply (verifying_afterPart target parentId step
      (received.verifying.trans waiting)).mono
    intro _ _ verdict
    exact verdict.trans received.verdict
  · have bound := length_takenBytes task.packet.sessionId
      (target.fileSize.toNat - offset.toNat) state.arriving
    rw [whole, List.length_append]
    omega
  · intro fuel
    rw [receiveCounted_eq task fd fuel UInt64.zero_le, toNat_missing]
    rfl

/-- One of two bytes is there. -/
def halfUpload : UploadTarget :=
  ⟨ascii "/a", ascii "/", ascii "a", 2, List.replicate 64 98⟩

/-- The other byte and the end of the upload arrive. -/
def otherHalf : Arrivals where
  files := (FileSystem.single (.part (List.replicate 64 98)) [97]).openFile
    (.part (List.replicate 64 98)) 3
  arriving := [.init .fileData .ok .empty [98], .init .fileEnd .ok .empty []]
  examined := []
  responses := []
  verifying := false

def requestingTask : TransferTask where
  packet := ⟨0, 0, .empty, []⟩
  session := ⟨⟨1, 1, ascii "a", ascii "/"⟩, fits_rootContext⟩
  transferTempDir := ascii "temp"
  storageRoot := ascii "storage"

theorem otherHalf_is_verified :
    AlwaysReceives (fun _ => ⟨List.replicate 64 98, isDigest_replicate⟩)
      (requestingTask.receiveFile 3 1 2 >>= requestingTask.afterPart halfUpload 1 3)
      otherHalf fun _ after => after.verifying = true := by
  have isOpen : otherHalf.files.IsOpen 3 (.part halfUpload.sha256Hex) [97] 0 :=
    FileSystem.isOpen_openFile (FileSystem.content_single.trans (if_pos rfl))
  have begins : BeginsWithUpload requestingTask.packet.sessionId 1 otherHalf.arriving :=
    ⟨[.init .fileData .ok .empty [98]], .init .fileEnd .ok .empty [], [], rfl,
      by decide, rfl, rfl, rfl⟩
  have isMissing : (1 : UInt64) < halfUpload.fileSize := by decide
  exact (handlePuts_receives_upload isOpen rfl isMissing rfl).2.1.mono
    fun _ _ verdict => verdict.mpr begins

end TransferTask

end CloudDrive
