import CloudDrive.ConcurrentTasks

/-!
# Directories in parallel

Any number of `handle_mkdir`, `handle_puts` and `handle_rmdir` tasks,
interleaved at every call they make.  A data access function is one step.  The
existence of a parent and the emptiness of a directory are seen in one step and
relied on in a later one.
-/

namespace CloudDrive

/-- Every parent number names a row. -/
def Database.Parented (database : Database) : Prop :=
  ∀ row ∈ database.tables.paths, ∀ parentId, row.parentId = some parentId →
    ∃ parent ∈ database.tables.paths, parent.id = parentId

namespace Directories

/-- The tasks that run in parallel. -/
inductive Task where
  | mkdir (task : HandlerTask)
  | rmdir (task : HandlerTask)
  | puts (task : TransferTask)

def Task.program : Task → Handler Unit
  | mkdir task => task.handleMkdir
  | rmdir task => task.handleRmdir
  | puts task => task.handlePuts

def perform (dialect : Dialect) (_index : Nat) (choice : Choice) (op : TaskOp)
    (database : Database) : Option (op.Answer × Database) :=
  some (performTask dialect choice op database)

def step (dialect : Dialect) : Pool TaskOp.Answer Database Unit →
    Move Task Choice → Option (Pool TaskOp.Answer Database Unit) :=
  Pool.step Task.program (perform dialect)

/-- No other task has come between a call and what its task has seen: the
parent of a new row is still stored, and a directory that is removed still has
no children.  The strings of a new directory are free of quotes and
backslashes. -/
def Undisturbed (_index : Nat) (_choice : Choice) : TaskOp → Database → Prop
  | .daoPathInsertDir _ targetPath parentId fileName, database =>
      (Sql.Safe targetPath ∧ Sql.Safe fileName) ∧
        ∃ parent ∈ database.tables.paths, parent.id = parentId
  | .daoLinkExistingFile _ _ parentId _ _, database
  | .daoCreateFileWithPath _ _ parentId _ _ _, database =>
      ∃ parent ∈ database.tables.paths, parent.id = parentId
  | .daoPathRmdir targetDirId, database =>
      ∀ row ∈ database.tables.paths, row.parentId ≠ some targetDirId
  | _, _ => True

instance (index : Nat) (choice : Choice) (op : TaskOp) (database : Database) :
    Decidable (Undisturbed index choice op database) :=
  match op with
  | .daoPathInsertDir .. =>
      inferInstanceAs (Decidable (_ ∧ ∃ parent ∈ database.tables.paths, _))
  | .daoLinkExistingFile .. | .daoCreateFileWithPath .. =>
      inferInstanceAs (Decidable (∃ parent ∈ database.tables.paths, _))
  | .daoPathRmdir _ => inferInstanceAs (Decidable (∀ row ∈ database.tables.paths, _))
  | .daoAuthRegister .. | .daoAuthGetLoginInfo .. | .daoPathGetNodeId ..
  | .daoPathDirHasChild .. | .daoPathGetLsDir .. | .daoRmFile ..
  | .daoFileFindByHash .. | .daoGetFileMeta .. | .sessionAuthorize ..
  | .sessionCreate .. | .sessionUpdateCwd .. | .generateSalt | .cryptR ..
  | .send .. | .sendHeader .. | .sendfile .. | .recv | .openFile .. | .fstat ..
  | .truncate .. | .lseek .. | .write .. | .fsync .. | .digest .. | .close ..
  | .unlink .. | .publish .. | .objectExists .. | .trackAndPublish => isTrue trivial

/-- The calls of these tasks; what they splice into the statements for files
fits. -/
def Makes : TaskOp → Prop
  | .daoFileFindByHash sha256Hex _ => isValidSha256Hex sha256Hex = true
  | .daoLinkExistingFile _ targetPath _ fileName _ =>
      targetPath.length < pathMax ∧ fileName.length < nameMax
  | .daoCreateFileWithPath _ targetPath _ fileName sha256Hex _ =>
      targetPath.length < pathMax ∧ fileName.length < nameMax ∧
        isValidSha256Hex sha256Hex = true
  | .daoAuthRegister .. | .daoAuthGetLoginInfo .. | .daoPathGetLsDir ..
  | .daoRmFile .. | .daoGetFileMeta .. => False
  | _ => True

theorem makes_followsState :
    FollowsState (fun _ : Unit => Makes) (fun _ _ _ => ()) where
  allows := by
    intro _ op outside
    cases op <;> trivial
  keeps := fun _ _ _ _ => rfl

theorem Task.program_makes (task : Task) :
    task.program.Obeys (fun _ : Unit => Makes) (fun _ _ _ => ()) ()
      fun _ _ => True := by
  cases task with
  | mkdir task =>
      exact task.obeys_handleMkdir makes_followsState fun _ _ _ _ =>
        ⟨trivial, fun _ => trivial⟩
  | rmdir task =>
      exact task.obeys_handleRmdir makes_followsState fun _ _ _ _ =>
        ⟨trivial, fun _ _ _ => ⟨trivial, trivial⟩⟩
  | puts task =>
      refine task.obeys_handlePuts makes_followsState fun target accepted => ?_
      obtain ⟨pathFits, nameFits, valid⟩ := TransferTask.uploadTarget_fits accepted
      exact ⟨trivial, fun _ _ _ => ⟨trivial, fun _ _ _ => ⟨valid, fun _ _ _ _ _ =>
        ⟨fun _ => ⟨pathFits, nameFits⟩, fun _ => ⟨pathFits, nameFits, valid⟩⟩⟩⟩⟩

end Directories

namespace Database.Parented

variable {database after : Database} (parented : database.Parented)

include parented

theorem of_paths (same : after.tables.paths = database.tables.paths) :
    after.Parented := by
  rw [Parented, same]
  exact parented

/-- A row with a stored parent. -/
theorem addPath {row : PathRow}
    (exists_parent : ∀ parentId, row.parentId = some parentId →
      ∃ parent ∈ database.tables.paths, parent.id = parentId) :
    (database.addPath row).Parented := by
  intro other stored parentId isParent
  have found : ∃ parent ∈ database.tables.paths, parent.id = parentId := by
    rcases List.mem_append.mp stored with old | new
    · exact parented other old parentId isParent
    · obtain rfl : other = row := List.mem_singleton.mp new
      exact exists_parent parentId isParent
  obtain ⟨parent, listed, same⟩ := found
  exact ⟨parent, List.mem_append_left _ listed, same⟩

/-- A row without children. -/
theorem removePath {pathId : UInt64}
    (childless : ∀ row ∈ database.tables.paths, row.parentId ≠ some pathId) :
    (database.removePaths fun row => row.id = pathId).Parented := by
  intro row stored parentId isParent
  have listed := List.mem_of_mem_filter stored
  obtain ⟨parent, parentListed, same⟩ := parented row listed parentId isParent
  refine ⟨parent, List.mem_filter.mpr ⟨parentListed, ?_⟩, same⟩
  have different : parent.id ≠ pathId := by
    rintro rfl
    exact childless row listed (isParent.trans (congrArg some same.symm))
  simpa using different

end Database.Parented

namespace Directories

open DbSession

/-- A call keeps all parents. -/
theorem Makes.parented {dialect : Dialect} {choice : Choice} {op : TaskOp}
    {database : Database} {index : Nat} (makes : Makes op)
    (parented : database.Parented)
    (undisturbed : Undisturbed index choice op database) :
    (performTask dialect choice op database).2.Parented := by
  by_cases dao : op.isDao = false
  · rw [performTask_other dao]
    exact parented
  have fails : ∀ value kept, (value : Int) ≠ 0 → database.Kept kept →
      kept.Parented := fun _ _ _ kept => parented.of_paths (by rw [kept.tables])
  cases op with
  | daoPathGetNodeId userId path =>
      have same := (@daoPathGetNodeId_reads dialect database userId path).call
        choice.faults
      rw [performTask, same]
      exact parented
  | daoPathInsertDir userId path parentId name =>
      obtain ⟨⟨pathSafe, nameSafe⟩, stored⟩ := undisturbed
      refine (@daoPathInsertDir_ends dialect database (fun _ => Database.Parented)
        userId path pathSafe parentId name nameSafe fails
        fun _ _ => parented.addPath ?_).call choice.faults
      rintro _ ⟨⟩
      exact stored
  | daoPathDirHasChild userId parentId =>
      have same := (@daoPathDirHasChild_returns dialect database userId
        parentId).call choice.faults
      rw [performTask, same]
      exact parented
  | daoPathRmdir targetDirId =>
      rcases (@daoPathRmdir_returns dialect database targetDirId).call
        choice.faults with ⟨reported, kept⟩ | ⟨-, after⟩
      · exact fails _ _ reported kept
      · rw [performTask, after]
        exact parented.removePath undisturbed
  | daoFileFindByHash hash size =>
      obtain ⟨safe, short⟩ := isValidSha256Hex.safe makes
      have outcome := (@daoFileFindByHash_returns dialect database hash safe short
        size).call choice.faults
      rw [performTask, outcome.1]
      exact parented
  | daoLinkExistingFile userId path parentId name fileId =>
      refine (@daoLinkExistingFile_ends dialect database (fun _ => Database.Parented)
        userId path makes.1 parentId name makes.2 fileId
        (fun kept isKept => fails (-1) kept (by decide) isKept)
        fun _ _ => Database.Parented.addPath (parented.of_paths rfl) ?_).call
          choice.faults
      rintro _ ⟨⟩
      exact undisturbed
  | daoCreateFileWithPath userId path parentId name hash size =>
      obtain ⟨pathFits, nameFits, valid⟩ := makes
      obtain ⟨safe, short⟩ := isValidSha256Hex.safe valid
      refine (@daoCreateFileWithPath_ends dialect database
        (fun _ => Database.Parented) userId path pathFits parentId name nameFits
        hash safe short size
        (fun kept isKept => fails (-1) kept (by decide) isKept) ?_ ?_).call
          choice.faults
      · intro file _ _ _ _
        refine Database.Parented.addPath (parented.of_paths rfl) ?_
        rintro _ ⟨⟩
        exact undisturbed
      · intro file _ _ _ _ _
        refine Database.Parented.addPath (parented.of_paths rfl) ?_
        rintro _ ⟨⟩
        exact undisturbed
  | daoAuthRegister | daoAuthGetLoginInfo | daoPathGetLsDir | daoRmFile
  | daoGetFileMeta => exact makes.elim
  | _ => exact (dao rfl).elim

/-- User 1 has an empty directory. -/
def oneDirectory : Database where
  tables :=
    { users := []
      files := []
      paths := [⟨1, 1, ascii "/", none, none, ascii "/", 1⟩,
        ⟨2, 1, ascii "/d", none, some 1, ascii "d", 1⟩] }
  counters := ⟨2, 1, 3⟩

instance (database : Database) : Decidable database.Parented :=
  decidable_of_iff (database.tables.paths.all fun row =>
      row.parentId.all fun parentId =>
        database.tables.paths.any fun parent => parent.id == parentId)
    (by simp [Database.Parented, Option.all_eq_true])

def makeChild : Task := .mkdir (Store.userTask (ascii "d/x")).toHandlerTask

def removeDirectory : Task := .rmdir (Store.userTask (ascii "d")).toHandlerTask

end Directories

end CloudDrive
