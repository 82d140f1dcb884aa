import CloudDrive.BasicHandlers
import CloudDrive.ServerLoop

/-!
# Responses of the handlers

How many packets a request other than a transfer makes the server write, for
every answer of the database, the session table and the file system.
-/

namespace CloudDrive

/-- The session of a task of an anonymous command, as `calloc` leaves it. -/
def anonymousSession : FittingContext :=
  ⟨⟨0, 0, [], []⟩, by decide, by decide⟩

/-- One request, from `handle_client_event` to the end of `handle_basic_task`.
The result says whether the connection stays open. -/
def serveRequest (packet : Packet) : Handler Bool :=
  if Server.commandIsAnonymous packet.type then
    if !packet.sessionId.isEmpty then
      HandlerTask.sendPacket .error .badRequest packet.sessionId []
    else do
      HandlerTask.handleBasicTask ⟨packet, anonymousSession⟩
      Prog.ask TaskOp.trackAndPublish
  else do
    match ← Prog.ask (TaskOp.sessionAuthorize packet.sessionId) with
    | none => HandlerTask.sendPacket .error .unauthorized packet.sessionId []
    | some session => do
        HandlerTask.handleBasicTask ⟨packet, session⟩
        Prog.ask TaskOp.trackAndPublish

/-- A packet is written to the client. -/
def isResponse : Prog.Exchange TaskOp.Answer → Bool
  | ⟨.send _, _⟩ => true
  | _ => false

/-- An `unlink` fails. -/
def isFailedUnlink : Prog.Exchange TaskOp.Answer → Bool
  | ⟨.unlink _, unlinked⟩ => !unlinked
  | _ => false

/-- Responses count for a request and failed unlinks against it. -/
def responseWeight (op : TaskOp) (answer : TaskOp.Answer op) : Int :=
  (if isResponse ⟨op, answer⟩ then 1 else 0) -
    (if isFailedUnlink ⟨op, answer⟩ then 1 else 0)

namespace HandlerTask

variable {task : HandlerTask}

theorem sendPacket_costs (type : CmdType) (status : StatusCode)
    (sessionId : SessionId) {payload : Bytes}
    (fits : payload.length ≤ maxPacketPayload) :
    (sendPacket type status sessionId payload).Costs responseWeight 1 := by
  rw [sendPacket, if_neg (by omega)]
  intro answer
  rfl

theorem respond_costs (type : CmdType) (status : StatusCode)
    (sessionId : SessionId) {payload : Bytes}
    (fits : payload.length ≤ maxPacketPayload) :
    (respond type status sessionId payload).Costs responseWeight 1 := by
  change Prog.Costs responseWeight _ (1 + 0)
  exact (sendPacket_costs type status sessionId fits).bind fun _ => rfl

/-- A path or a name fits a packet. -/
theorem reply_costs (type : CmdType) (status : StatusCode) {payload : Bytes}
    (short : payload.length < pathMax) :
    (task.reply type status payload).Costs responseWeight 1 :=
  respond_costs type status task.packet.sessionId
    (Nat.le_trans (Nat.le_of_lt short) (by decide))

theorem fail_costs (status : StatusCode) :
    (task.fail status).Costs responseWeight 1 :=
  reply_costs .error status (by decide)

theorem handleRegister_costs : task.handleRegister.Costs responseWeight 1 := by
  unfold handleRegister
  split
  · exact fail_costs .badRequest
  · refine .ask_free (fun _ => rfl) fun salt => ?_
    cases salt with
    | none => exact fail_costs .otherError
    | some salt =>
        refine .ask_free (fun _ => rfl) fun passwordHash => ?_
        cases passwordHash with
        | none => exact fail_costs .otherError
        | some passwordHash =>
            refine .ask_free (fun _ => rfl) fun result => ?_
            split
            · exact fail_costs .dbError
            · exact reply_costs .ack .ok (by decide)

theorem handleLogin_costs : task.handleLogin.Costs responseWeight 1 := by
  unfold handleLogin
  split
  · exact fail_costs .badRequest
  · refine .ask_free (fun _ => rfl) fun answer => ?_
    obtain ⟨result, info⟩ := answer
    dsimp only
    split
    · exact fail_costs .userNotexist
    · split
      · exact fail_costs .otherError
      · refine .ask_free (fun _ => rfl) fun encrypted => ?_
        split
        · exact fail_costs .passwdError
        · refine .ask_free (fun _ => rfl) fun created => ?_
          cases created with
          | none => exact fail_costs .otherError
          | some newId => exact respond_costs .ack .ok newId (by decide)

theorem handlePwd_costs : task.handlePwd.Costs responseWeight 1 :=
  reply_costs .ack .ok task.session.2.2

theorem handleCd_costs : task.handleCd.Costs responseWeight 1 := by
  unfold handleCd
  split
  · exact fail_costs .badRequest
  · rename_i payload copied
    dsimp only
    split
    · exact fail_costs .otherError
    · rename_i virtualPath normalized
      have short : virtualPath.length < pathMax := by
        split at normalized
        · cases normalized
          decide
        · exact length_normalizeCdPath (by decide) normalized
      refine .ask_free (fun _ => rfl) fun node => ?_
      obtain ⟨result, pathId⟩ := node
      cases result with
      | isDir =>
          refine .ask_free (fun _ => rfl) fun updated => ?_
          split
          · exact fail_costs .otherError
          · exact reply_costs .ack .ok short
      | notFound => exact reply_costs .error .dirNotexist short
      | isFile => exact reply_costs .error .notDir short
      | dbError => exact fail_costs .otherError
      | badArg => exact fail_costs .otherError

/-- The name and the parent of a path are no longer than the path. -/
theorem length_splitTarget {targetPath parentPath fileName : Bytes}
    (target : splitTarget targetPath = some (parentPath, fileName))
    (short : targetPath.length < pathMax) :
    parentPath.length < pathMax ∧ fileName.length < pathMax := by
  unfold splitTarget at target
  split at target
  · cases target
  · rename_i before name parts
    have bound := length_splitAtLastSlash parts
    dsimp only at target
    split at target
    · cases target
    · simp only [Option.some.injEq, Prod.mk.injEq] at target
      obtain ⟨rfl, rfl⟩ := target
      constructor
      · unfold parentOf
        split
        · decide
        · omega
      · rw [List.length_take]
        omega

theorem handleLs_costs : task.handleLs.Costs responseWeight 1 := by
  unfold handleLs
  split
  · exact fail_costs .badRequest
  · rename_i payload copied
    dsimp only
    split
    · exact fail_costs .badRequest
    · rename_i targetPath normalized
      have short : targetPath.length < pathMax := by
        split at normalized
        · cases normalized
          exact task.session.2.2
        · exact length_normalizeCdPath (by decide) normalized
      refine .ask_free (fun _ => rfl) fun node => ?_
      obtain ⟨result, targetId⟩ := node
      cases result with
      | isFile =>
          dsimp only
          split
          · exact fail_costs .badRequest
          · rename_i target
            exact reply_costs .ack .ok (length_splitTarget target short).2
      | isDir =>
          refine .ask_free (fun _ => rfl) fun children => ?_
          obtain ⟨count, listing⟩ := children
          dsimp only
          split
          · exact reply_costs .error .otherError short
          · exact respond_costs .ack .ok _ (Nat.le_of_lt listing.2)
      | notFound => exact reply_costs .error .dirNotexist short
      | dbError => exact reply_costs .error .otherError short
      | badArg => exact reply_costs .error .otherError short

theorem length_directoryTarget {targetPath parentPath fileName : Bytes}
    (target : task.directoryTarget = some (targetPath, parentPath, fileName)) :
    targetPath.length < pathMax ∧ parentPath.length < pathMax ∧
      fileName.length < pathMax := by
  unfold directoryTarget at target
  split at target
  · cases target
  · split at target
    · cases target
    · rename_i normalized
      have short := length_normalizeCdPath (by decide) normalized
      split at target
      · cases target
      · split at target
        · cases target
        · rename_i parts
          cases target
          exact ⟨short, length_splitTarget parts short⟩

theorem handleMkdir_costs : task.handleMkdir.Costs responseWeight 1 := by
  unfold handleMkdir
  split
  · exact fail_costs .badRequest
  · rename_i targetPath parentPath fileName target
    obtain ⟨-, parentShort, nameShort⟩ := length_directoryTarget target
    refine .ask_free (fun _ => rfl) fun node => ?_
    obtain ⟨result, parentId⟩ := node
    cases result with
    | isDir =>
        refine .ask_free (fun _ => rfl) fun result => ?_
        split
        · exact reply_costs .error .dirAlreadyExists nameShort
        · split
          · exact reply_costs .error .otherError nameShort
          · exact reply_costs .ack .ok nameShort
    | notFound => exact reply_costs .error .dirNotexist parentShort
    | isFile => exact reply_costs .error .notDir parentShort
    | dbError => exact reply_costs .error .otherError parentShort
    | badArg => exact reply_costs .error .otherError parentShort

theorem handleRmdir_costs : task.handleRmdir.Costs responseWeight 1 := by
  unfold handleRmdir
  split
  · exact fail_costs .badRequest
  · rename_i targetPath parentPath fileName target
    obtain ⟨short, -, nameShort⟩ := length_directoryTarget target
    refine .ask_free (fun _ => rfl) fun node => ?_
    obtain ⟨result, targetDirId⟩ := node
    cases result with
    | isDir =>
        refine .ask_free (fun _ => rfl) fun children => ?_
        split
        · exact reply_costs .error .dirNotempty nameShort
        · split
          · exact reply_costs .error .otherError nameShort
          · refine .ask_free (fun _ => rfl) fun removed => ?_
            split
            · exact reply_costs .error .otherError nameShort
            · exact reply_costs .ack .ok short
    | notFound => exact reply_costs .error .dirNotexist nameShort
    | isFile => exact reply_costs .error .notDir nameShort
    | dbError => exact reply_costs .error .otherError nameShort
    | badArg => exact reply_costs .error .otherError nameShort

theorem length_basename {path : Bytes} (short : path.length < pathMax) :
    (basename path).length < pathMax := by
  unfold basename
  split
  · decide
  · dsimp only
    split
    · decide
    · have dropped := (List.dropWhile_suffix (l := path.reverse)
        (fun byte => decide (byte = slash))).length_le
      have taken := (List.takeWhile_prefix
        (l := path.reverse.dropWhile fun byte => decide (byte = slash))
        (p := fun byte => decide (byte ≠ slash))).length_le
      simp only [List.length_reverse, List.reverse_reverse] at dropped taken ⊢
      omega

theorem handleRm_costs : task.handleRm.Costs responseWeight 1 := by
  unfold handleRm
  split
  · exact fail_costs .badRequest
  · split
    · exact fail_costs .badRequest
    · rename_i targetPath normalized
      have short := length_basename
        (length_normalizeCdPath (by decide) normalized)
      refine .ask_free (fun _ => rfl) fun node => ?_
      obtain ⟨result, targetFileId⟩ := node
      cases result with
      | isFile =>
          refine .ask_free (fun _ => rfl) fun removed => ?_
          obtain ⟨status, hashedFilename⟩ := removed
          cases status with
          | ok => exact reply_costs .ack .ok short
          | notFound => exact reply_costs .error .fileNotexist short
          | shouldDeletePhysical =>
              intro unlinked
              cases unlinked with
              | true => exact reply_costs .ack .ok short
              | false =>
                  change Prog.Costs responseWeight _ (1 + 1)
                  exact (reply_costs .error .ioError short).bind
                    fun _ => reply_costs .ack .ok short
          | dbError => exact fail_costs .dbError
          | alreadyExists => exact reply_costs .error .otherError short
          | typeMismatch => exact reply_costs .error .otherError short
          | badArg => exact reply_costs .error .otherError short
          | conflict => exact reply_costs .error .otherError short
      | isDir => exact reply_costs .error .isDir short
      | notFound => exact reply_costs .error .fileNotexist short
      | dbError => exact reply_costs .error .otherError short
      | badArg => exact reply_costs .error .otherError short

/-- Every task sends one response, and one more for a failed unlink. -/
theorem handleBasicTask_costs :
    task.handleBasicTask.Costs responseWeight 1 := by
  unfold handleBasicTask
  split
  · exact handleRegister_costs
  split
  · exact handleLogin_costs
  split
  · exact handlePwd_costs
  split
  · exact handleCd_costs
  split
  · exact handleLs_costs
  split
  · exact handleMkdir_costs
  split
  · exact handleRmdir_costs
  split
  · exact handleRm_costs
  · exact fail_costs .protocolError

end HandlerTask

theorem serveRequest_costs (packet : Packet) :
    (serveRequest packet).Costs responseWeight 1 := by
  have served : ∀ session, Prog.Costs responseWeight (do
      HandlerTask.handleBasicTask ⟨packet, session⟩
      Prog.ask TaskOp.trackAndPublish) 1 := by
    intro session
    change Prog.Costs responseWeight _ (1 + 0)
    exact HandlerTask.handleBasicTask_costs.bind fun _ _ => rfl
  unfold serveRequest
  split
  · split
    · exact HandlerTask.sendPacket_costs .error .badRequest _ (by decide)
    · exact served anonymousSession
  · refine .ask_free (fun _ => rfl) fun session => ?_
    cases session with
    | none =>
        exact HandlerTask.sendPacket_costs .error .unauthorized _ (by decide)
    | some session => exact served session

end CloudDrive
