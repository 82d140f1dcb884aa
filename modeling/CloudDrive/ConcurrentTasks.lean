import CloudDrive.TaskEnvironment
import CloudDrive.Interleaving

/-!
# Uploads and removals in parallel

Any number of `handle_puts` and `handle_rm` tasks, interleaved at every call
they make.  A data access function is one step; a rename, an unlink and a test
for existence are one step each.
-/

namespace CloudDrive

/-- The database and the names of the files on disk. -/
structure Store where
  database : Database
  /-- The hashes of the temporary files. -/
  parts : List Bytes
  /-- The hashes of the objects under `storage_root`. -/
  objects : List Bytes

namespace Store

/-- A call of a task.  The environment may let any of them fail; a rename needs
its source, `EEXIST` and `access` tell the truth about an object. -/
def perform (dialect : Dialect) (_index : Nat) (choice : Choice) :
    (op : TaskOp) → Store → Option (op.Answer × Store)
  | .openFile (.part hash), store =>
      match choice.answer (.openFile (.part hash)) with
      | none => some (none, store)
      | some fd => some (some fd, { store with parts := hash :: store.parts })
  | .unlink (.part hash), store =>
      if choice.answer (.unlink (.part hash)) && hash ∈ store.parts then
        some (true, { store with parts := store.parts.filter (· ≠ hash) })
      else some (false, store)
  | .unlink (.object hash), store =>
      if choice.answer (.unlink (.object hash)) && hash ∈ store.objects then
        some (true, { store with objects := store.objects.filter (· ≠ hash) })
      else some (false, store)
  | .publish hash, store =>
      match choice.answer (.publish hash) with
      | .renamed =>
          if hash ∈ store.parts then
            some (.renamed,
              { store with
                parts := store.parts.filter (· ≠ hash)
                objects := hash :: store.objects })
          else some (.failed, store)
      | .alreadyExists =>
          if hash ∈ store.objects then some (.alreadyExists, store)
          else some (.failed, store)
      | .failed => some (.failed, store)
  | .objectExists hash, store =>
      some (choice.answer (.objectExists hash) && hash ∈ store.objects, store)
  | op, store =>
      let (answer, database) := performTask dialect choice op store.database
      some (answer, { store with database })

/-- The tasks that run in parallel. -/
inductive Task where
  | puts (task : TransferTask)
  | rm (task : HandlerTask)

def Task.program : Task → Handler Unit
  | puts task => task.handlePuts
  | rm task => task.handleRm

def step (dialect : Dialect) : Pool TaskOp.Answer Store Unit →
    Move Task Choice → Option (Pool TaskOp.Answer Store Unit) :=
  Pool.step Task.program (perform dialect)

/-- No other task has come between a call and what its task has seen: the file
that is linked is still stored, an object that is unlinked has not been stored
again, and an object that is recorded is still there. -/
def Undisturbed (_index : Nat) (_choice : Choice) : TaskOp → Store → Prop
  | .daoLinkExistingFile _ _ _ _ fileId, store =>
      ∃ file ∈ store.database.tables.files, file.id = fileId
  | .unlink (.object hash), store =>
      ∀ file ∈ store.database.tables.files, file.hash ≠ hash
  | .daoCreateFileWithPath _ _ _ _ sha256Hex _, store =>
      sha256Hex ∈ store.objects
  | _, _ => True

instance (index : Nat) (choice : Choice) (op : TaskOp) (store : Store) :
    Decidable (Undisturbed index choice op store) := by
  unfold Undisturbed
  split <;> infer_instance

/-- The counts are right and the objects of all files are there. -/
structure Sound (store : Store) : Prop where
  consistent : store.database.Consistent
  present : ∀ file ∈ store.database.tables.files, file.hash ∈ store.objects

theorem Task.program_keeps (task : Task) {known : Known}
    (unsettled : known.settled = false) :
    Keeps known task.program fun _ _ => True := by
  cases task with
  | puts task => exact task.handlePuts_keeps unsettled
  | rm task => exact task.handleRm_keeps unsettled

section Steps

open DbSession

variable {dialect : Dialect} {choice : Choice} {store : Store}
  (sound : store.Sound)

include sound

theorem Sound.withDatabase {database : Database}
    (consistent : database.Consistent)
    (hashes : HashesFrom store.database database) :
    Sound { store with database } := by
  refine ⟨consistent, fun file stored => ?_⟩
  obtain ⟨old, oldStored, same⟩ := hashes file stored
  exact same ▸ sound.present old oldStored

/-- A call to the database keeps the objects of all files. -/
theorem Sound.performTask {known : Known} (files : known.removes = false)
    {index : Nat} {op : TaskOp} (allowed : known.Allows op)
    (undisturbed : Undisturbed index choice op store) :
    Sound { store with
      database := (performTask dialect choice op store.database).2 } := by
  by_cases dao : op.isDao = false
  · rw [performTask_other dao]
    exact sound
  have schema := sound.consistent.toSchema
  cases op with
  | daoAuthRegister username passwordHash =>
      have outcome := (@daoAuthRegister_returns dialect store.database username
        passwordHash).call choice.faults
      refine sound.withDatabase (outcome.consistent sound.consistent) ?_
      rcases outcome with ⟨-, kept⟩ | ⟨users, row, -, usersOnly, -, -, after⟩
      · exact hashesFrom_of_eq (by rw [CloudDrive.performTask, kept.tables])
      · apply hashesFrom_of_eq
        rw [CloudDrive.performTask, after]
        exact usersOnly.files
  | daoPathGetNodeId userId path =>
      have outcome := (@daoPathGetNodeId_returns dialect store.database schema
        userId path).call choice.faults
      rw [CloudDrive.performTask, outcome.1]
      exact sound
  | daoPathInsertDir userId path parentId name =>
      have outcome := (@daoPathInsertDir_returns dialect store.database userId
        path allowed.2.1 parentId name allowed.2.2).call choice.faults
      refine sound.withDatabase (outcome.consistent sound.consistent) ?_
      rcases outcome with ⟨-, kept⟩ | ⟨row, -, -, -, -, after⟩
      · exact hashesFrom_of_eq (by rw [CloudDrive.performTask, kept.tables])
      · apply hashesFrom_of_eq
        rw [CloudDrive.performTask, after]
        rfl
  | daoPathDirHasChild userId parentId =>
      have same := (@daoPathDirHasChild_returns dialect store.database userId
        parentId).call choice.faults
      rw [CloudDrive.performTask, same]
      exact sound
  | daoPathRmdir targetDirId =>
      exact (Bool.false_ne_true (files.symm.trans allowed.2.1)).elim
  | daoRmFile userId pathId =>
      have outcome := (@daoRmFile_returns dialect store.database schema userId
        pathId).call choice.faults
      exact sound.withDatabase (outcome.consistent sound.consistent)
        outcome.hashes
  | daoFileFindByHash hash size =>
      obtain ⟨safe, short⟩ := isValidSha256Hex.safe allowed.2
      have outcome := (@daoFileFindByHash_returns dialect store.database hash
        safe short size).call choice.faults
      rw [CloudDrive.performTask, outcome.1]
      exact sound
  | daoLinkExistingFile userId path parentId name fileId =>
      obtain ⟨-, pathFits, nameFits, -⟩ := allowed
      obtain ⟨file, stored, rfl⟩ := undisturbed
      have outcome := (@daoLinkExistingFile_returns dialect store.database userId
        path pathFits parentId name nameFits file.id).call choice.faults
      exact sound.withDatabase (outcome.consistent sound.consistent stored)
        outcome.hashes
  | daoCreateFileWithPath userId path parentId name hash size =>
      obtain ⟨-, pathFits, nameFits, isDigest⟩ := allowed
      obtain ⟨safe, short⟩ := isValidSha256Hex.safe isDigest.valid
      have outcome := (@daoCreateFileWithPath_returns dialect store.database
        userId path pathFits parentId name nameFits hash safe short size).call
        choice.faults
      refine ⟨outcome.consistent sound.consistent, fun file stored => ?_⟩
      rcases outcome.hashes file stored with ⟨old, oldStored, same⟩ | new
      · exact same ▸ sound.present old oldStored
      · rw [IsDigest.eq_1] at isDigest
        cases isDigest.symm.trans new
        exact undisturbed
  | daoAuthGetLoginInfo | daoPathGetLsDir | daoGetFileMeta =>
      exact allowed.elim
  | _ => exact (dao rfl).elim

/-- A call of a task keeps the objects of all files. -/
theorem Sound.perform {known : Known} (files : known.removes = false)
    {index : Nat} {op : TaskOp} (allowed : known.Allows op)
    (undisturbed : Undisturbed index choice op store) {answer : op.Answer}
    {after : Store}
    (performed : store.perform dialect index choice op = some (answer, after)) :
    after.Sound := by
  unfold Store.perform at performed
  split at performed
  · -- Opening a temporary file.
    split at performed <;> cases performed <;>
      exact ⟨sound.consistent, sound.present⟩
  · split at performed <;> cases performed <;>
      exact ⟨sound.consistent, sound.present⟩
  · -- The unlinked object has no row.
    split at performed
    · cases performed
      refine ⟨sound.consistent, fun file stored => ?_⟩
      simpa [sound.present file stored] using undisturbed file stored
    · cases performed
      exact sound
  · split at performed
    · split at performed
      · cases performed
        exact ⟨sound.consistent, fun file stored =>
          List.mem_cons_of_mem _ (sound.present file stored)⟩
      · cases performed
        exact sound
    · split at performed <;> cases performed <;> exact sound
    · cases performed
      exact sound
  · cases performed
    exact sound
  · cases performed
    exact sound.performTask files allowed undisturbed

end Steps

/-- A hash of 64 digits. -/
def someHash : Bytes := List.replicate 64 97

/-- User 1 has one file, of three bytes. -/
def oneFile : Store where
  database :=
    { tables :=
        { users := []
          files := [⟨1, someHash, 3, 1⟩]
          paths := [⟨1, 1, ascii "/", none, none, ascii "/", 1⟩,
            ⟨2, 1, ascii "/f", some 1, some 1, ascii "f", 0⟩] }
      counters := ⟨2, 2, 3⟩ }
  parts := []
  objects := [someHash]

theorem oneFile_sound : oneFile.Sound where
  consistent :=
    { path_ids := by decide +kernel
      path_below := by decide +kernel
      types := by decide +kernel
      file_ids := by decide +kernel
      file_below := by decide +kernel
      hashes := by decide +kernel
      stored := by
        intro file stored
        rw [List.mem_singleton.mp stored]
        exact ⟨someHash, by decide +kernel⟩
      counts := by decide +kernel
      refs := by decide +kernel
      filed := by decide +kernel
      referenced := by decide +kernel }
  present := by decide +kernel

/-- A task of user 1 in the root directory. -/
def userTask (payload : Bytes) : TransferTask where
  packet := ⟨0, 0, .empty, payload⟩
  session := ⟨⟨1, 1, ascii "a", ascii "/"⟩, fits_rootContext⟩
  transferTempDir := ascii "temp"
  storageRoot := ascii "storage"

def removeFile : Task := .rm (userTask (ascii "f")).toHandlerTask

/-- The upload of a stored content as `/g`. -/
def uploadAgain : Task :=
  .puts (userTask (padTo 4096 (ascii "/g") ++ hostToNet 3 ++ padTo 72 someHash))

end Store

end CloudDrive
