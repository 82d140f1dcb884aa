import CloudDrive.HandlerCalls
import CloudDrive.ServerLoop

/-!
# For whom a request acts

The data access functions take the numbers of rows from their caller, and
`dao_path_rmdir` does not ask whose row it deletes.  What keeps the users apart is
the order of the calls: a task acts for the user of its session, on rows that a
lookup for this user has returned before.
-/

namespace CloudDrive

/-- Exchanges with the database and the session table. -/
abbrev Asked := List (Prog.Exchange TaskOp.Answer)

/-- An exchange that concerns neither is not noted. -/
def Asked.note (asked : Asked) (op : TaskOp) (answer : op.Answer) : Asked :=
  if op.isOutside then asked else asked ++ [⟨op, answer⟩]

/-- A lookup for the user has returned the number of a row. -/
def Asked.Found (asked : Asked) (userId : UInt64) (result : DaoPathResult)
    (pathId : UInt64) : Prop :=
  ∃ path, ⟨.daoPathGetNodeId userId path, (result, pathId)⟩ ∈ asked

/-- The call acts for the user of a session, on rows that were found before. -/
def TaskOp.ActsFor (sessionId : SessionId) (userId : UInt64) (asked : Asked) :
    TaskOp → Prop
  | daoPathGetNodeId user _ | daoGetFileMeta user _ => user = userId
  | daoPathInsertDir user _ parentId _ | daoPathGetLsDir user parentId
  | daoPathDirHasChild user parentId
  | daoCreateFileWithPath user _ parentId _ _ _ =>
      user = userId ∧ asked.Found userId .isDir parentId
  | daoLinkExistingFile user _ parentId _ fileId =>
      user = userId ∧ asked.Found userId .isDir parentId ∧
        ∃ hash size, ⟨.daoFileFindByHash hash size, (1, fileId)⟩ ∈ asked
  | daoPathRmdir pathId =>
      asked.Found userId .isDir pathId ∧
        ⟨.daoPathDirHasChild userId pathId, (0 : Int)⟩ ∈ asked
  | daoRmFile user pathId => user = userId ∧ asked.Found userId .isFile pathId
  | sessionUpdateCwd session pathId path =>
      session = sessionId ∧
        ⟨.daoPathGetNodeId userId path, (.isDir, pathId)⟩ ∈ asked
  | daoAuthRegister .. | daoAuthGetLoginInfo .. | sessionCreate ..
  | sessionAuthorize .. => False
  | _ => True

/-- The task that `handle_client_event` makes of an authorised request. -/
def authorizedTask (packet : Packet) (session : FittingContext)
    (transferTempDir storageRoot : Bytes) : Handler Unit :=
  if packet.type = CmdType.putsReq.code ∨ packet.type = CmdType.getsReq.code then
    TransferTask.handleTransferTask { packet, session, transferTempDir, storageRoot }
  else HandlerTask.handleBasicTask ⟨packet, session⟩

theorem Asked.foldl_note (asked exchanges : Asked) :
    exchanges.foldl (fun asked exchange => asked.note exchange.1 exchange.2) asked =
      asked ++ exchanges.filter fun exchange => !exchange.1.isOutside := by
  induction exchanges generalizing asked with
  | nil => simp
  | cons exchange exchanges inductionHypothesis =>
      rw [List.foldl_cons, inductionHypothesis, note, List.filter_cons]
      cases exchange.1.isOutside <;> simp

namespace HandlerTask

/-- Every call of a program acts for the user of the task. -/
abbrev Serves (task : HandlerTask) (program : Handler Unit) : Prop :=
  program.Obeys (fun asked op =>
    op.ActsFor task.packet.sessionId task.session.1.userId asked) Asked.note []
    fun _ _ => True

theorem followsState_actsFor (task : HandlerTask) :
    FollowsState (fun asked op =>
      op.ActsFor task.packet.sessionId task.session.1.userId asked) Asked.note where
  allows _ op outside := by cases op <;> trivial
  keeps _ _ _ outside := if_pos outside

theorem serves_handleBasicTask (task : HandlerTask)
    (named : Server.commandIsAnonymous task.packet.type = false) :
    task.Serves task.handleBasicTask := by
  have follows := task.followsState_actsFor
  unfold handleBasicTask
  split_ifs
  · simp_all [Server.commandIsAnonymous]
  · simp_all [Server.commandIsAnonymous]
  · exact follows.respond _ _ _ _ _
  · apply obeys_handleCd follows
    intro _ path _ _
    exact ⟨rfl, fun _ => ⟨rfl, List.mem_singleton_self _⟩⟩
  · apply obeys_handleLs follows
    intro _ path _ _
    exact ⟨rfl, fun _ => ⟨rfl, path, List.mem_singleton_self _⟩⟩
  · apply obeys_handleMkdir follows
    intro _ path _ _
    exact ⟨rfl, fun _ => ⟨rfl, path, List.mem_singleton_self _⟩⟩
  · apply obeys_handleRmdir follows
    intro path _ _ _
    refine ⟨rfl, ?_⟩
    rintro pathId _ rfl
    refine ⟨⟨rfl, path, List.mem_singleton_self _⟩, ⟨path, List.mem_cons_self⟩, ?_⟩
    exact List.mem_cons_of_mem _ List.mem_cons_self
  · apply obeys_handleRm follows
    intro _ path _ _
    exact ⟨rfl, fun _ => ⟨rfl, path, List.mem_singleton_self _⟩⟩
  · exact follows.respond _ _ _ _ _

end HandlerTask

theorem TransferTask.serves_handleTransferTask (task : TransferTask) :
    task.Serves task.handleTransferTask := by
  have follows := task.followsState_actsFor
  unfold handleTransferTask
  split_ifs
  · apply obeys_handlePuts follows
    intro target _
    refine ⟨rfl, ?_⟩
    rintro parentId _ rfl
    refine ⟨rfl, ?_⟩
    rintro pathId _ rfl
    refine ⟨trivial, ?_⟩
    rintro fileId found _ _ rfl
    refine ⟨?_, fun _ => ⟨rfl, _, List.mem_cons_self⟩⟩
    rintro rfl
    exact ⟨rfl, ⟨_, List.mem_cons_self⟩, _, _, List.mem_cons_of_mem _
      (List.mem_cons_of_mem _ List.mem_cons_self)⟩
  · apply obeys_handleGets follows
    exact fun _ _ => rfl
  · exact follows.respond _ _ _ _ _

/-- Every call of the task of an authorised request acts for the user of its
session, whatever the exchanges before it have returned. -/
theorem requests_act_for_their_user {packet : Packet} {session : FittingContext}
    {transferTempDir storageRoot : Bytes} {before after : Asked}
    {exchange : Prog.Exchange TaskOp.Answer}
    (named : Server.commandIsAnonymous packet.type = false)
    (trace : Prog.Trace (authorizedTask packet session transferTempDir storageRoot)
      (before ++ exchange :: after) ()) :
    exchange.1.ActsFor packet.sessionId session.1.userId
      (before.filter fun earlier => !earlier.1.isOutside) := by
  have serves : HandlerTask.Serves ⟨packet, session⟩
      (authorizedTask packet session transferTempDir storageRoot) := by
    unfold authorizedTask
    split_ifs
    · exact TransferTask.serves_handleTransferTask
        ⟨⟨packet, session⟩, transferTempDir, storageRoot⟩
    · exact HandlerTask.serves_handleBasicTask ⟨packet, session⟩ named
  have acts := serves.trace trace rfl
  rwa [Asked.foldl_note, List.nil_append] at acts

/-- The directory that user 1 lists has been looked up for user 1. -/
theorem listing_acts_for_user_1 :
    TaskOp.ActsFor SessionId.empty 1
      [⟨.daoPathGetNodeId 1 (ascii "/"), (.isDir, 5)⟩] (.daoPathGetLsDir 1 5) := by
  have trace : Prog.Trace (authorizedTask (Packet.init .ls .ok SessionId.empty [])
      ⟨⟨1, 5, ascii "u", ascii "/"⟩, by decide⟩ [] [])
      ([⟨.daoPathGetNodeId 1 (ascii "/"), (.isDir, 5)⟩] ++
        ⟨.daoPathGetLsDir 1 5, (0, ⟨[], by decide⟩)⟩ ::
          [⟨.send (Packet.init .ack .ok SessionId.empty []), true⟩]) () :=
    .call _ (.call _ (.call _ (.done ())))
  exact requests_act_for_their_user rfl trace

end CloudDrive
