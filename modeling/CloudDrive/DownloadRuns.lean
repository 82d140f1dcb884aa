import CloudDrive.ConcurrentTasks
import CloudDrive.DownloadDialogue

/-!
# Resuming and repeating a download

A fault-free download completes whatever prefix of the content the partial file
holds.  A partial file that is no longer than the content and not a prefix of it
fails the verification and stays, so that every further run fails in the same
way.
-/

namespace CloudDrive

theorem ClientRuntime.paths_downloadTask {runtime : ClientRuntime}
    {remotePath : CText} {task : ClientTask}
    (made : runtime.downloadTask remotePath = some task) :
    task.targetPath ≠ task.partPath := by
  rw [(prepares_downloadTask made).part]
  intro same
  exact absurd (List.self_eq_append_right.mp same) (by decide)

namespace Download

open Transfer

/-- `run_download` has returned zero and the target holds the content. -/
def Repaired (download : Download) (content : Bytes) (last : Transfer) : Prop :=
  last.left.program = .done true ∧
    last.left.state.content download.task.targetPath = some content

/-- One of two consecutive fault-free runs succeeds. -/
def Repairs (sha256 : Sha256) (dialect : Dialect) (download : Download)
    (content : Bytes) (clientFiles : ClientFiles) (serverFiles : ServerFiles)
    (database : Database) : Prop :=
  Ends sha256 dialect
    (fun first => download.Repaired content first ∨
      Ends sha256 dialect (download.Repaired content)
        (download.start first.left.state first.right.state.files
          first.right.state.database))
    (download.start clientFiles serverFiles database)

section Runs

variable {sha256 : Sha256} {dialect : Dialect} {runtime : ClientRuntime}
  {remotePath : CText} {download : Download} {clientFiles : ClientFiles}
  {serverFiles : ServerFiles} {database : Database} {content : Bytes}

/-- A download of a stored content resumes at the end of a partial file that is
a prefix of it, and starts over if the partial file is too long. -/
theorem resumable_download_completes
    (submitted : runtime.downloadTask remotePath = some download.task)
    (clientSizes : clientFiles.Measurable) (serverSizes : serverFiles.Measurable)
    (stores : Stores sha256 dialect download.session.1.userId
      download.task.remotePath serverFiles database content)
    (distinct : download.CollisionFree sha256 clientFiles content)
    (resumable : download.Resumable clientFiles content) :
    Ends sha256 dialect (download.Completed content)
      (download.start clientFiles serverFiles database) :=
  ends_completed (ClientRuntime.snapshot_downloadTask submitted) stores
    (serverSizes _ _ stores.object) (clientSizes.getD _) distinct resumable

/-- What a failed run leaves fails in the same way. -/
theorem Failed.again {first : Transfer}
    (failed : download.Failed sha256 content clientFiles database first)
    (stores : Stores sha256 dialect download.session.1.userId
      download.task.remotePath serverFiles database content)
    (distinct : download.CollisionFree sha256 clientFiles content)
    (notResumable : ¬download.Resumable clientFiles content) :
    ¬download.Resumable first.left.state content ∧
      download.CollisionFree sha256 first.left.state content ∧
      Stores sha256 dialect download.session.1.userId download.task.remotePath
        first.right.state.files first.right.state.database content := by
  rw [Resumable, not_or, not_or] at notResumable
  obtain ⟨notHeld, notPrefix, short⟩ := notResumable
  have whole := length_resumed short
  have wrong := resumed_ne notPrefix short
  have same : download.resumed first.left.state content =
      download.resumed clientFiles content := by
    rw [resumed, failed.part, Option.getD_some, kept_of_not_lt (by omega), whole,
      List.drop_length, List.append_nil]
  refine ⟨?_, ?_, failed.object, ?_⟩
  · rw [Resumable, failed.target, failed.part, Option.getD_some, whole]
    rintro (held | isPrefix | long)
    · exact notHeld held
    · exact wrong (isPrefix.eq_of_length whole)
    · exact absurd long (Nat.lt_irrefl _)
  · rw [CollisionFree, failed.target, same]
    exact distinct
  · rw [failed.database]
    exact stores.row

theorem not_repairs
    (submitted : runtime.downloadTask remotePath = some download.task)
    (clientSizes : clientFiles.Measurable) (serverSizes : serverFiles.Measurable)
    (stores : Stores sha256 dialect download.session.1.userId
      download.task.remotePath serverFiles database content)
    (distinct : download.CollisionFree sha256 clientFiles content)
    (notResumable : ¬download.Resumable clientFiles content) :
    ¬download.Repairs sha256 dialect content clientFiles serverFiles database := by
  intro repairs
  have snapshot := ClientRuntime.snapshot_downloadTask submitted
  have different := ClientRuntime.paths_downloadTask submitted
  have measurable := serverSizes _ _ stores.object
  obtain ⟨first, failed, repaired | repaired⟩ := Dialogue.Ends.exists_and
    (ends_failed snapshot stores measurable (clientSizes.getD _) distinct different
      notResumable) repairs
  · cases failed.returnsOne.symm.trans repaired.1
  · obtain ⟨stillNot, stillDistinct, stillStores⟩ :=
      failed.again stores distinct notResumable
    have partMeasurable : ((first.left.state.content
        download.task.partPath).getD []).length < 2 ^ 63 := by
      rw [failed.part, Option.getD_some, length_resumed]
      · exact measurable
      · exact (not_or.mp (not_or.mp notResumable).2).2
    obtain ⟨second, failedAgain, repairedAgain⟩ := Dialogue.Ends.exists_and
      (ends_failed snapshot stillStores measurable partMeasurable stillDistinct
        different stillNot) repaired
    cases failedAgain.returnsOne.symm.trans repairedAgain.1

/-- Two runs are enough exactly if one is: unless the target holds the content,
the partial file has to be a prefix of it or longer than it. -/
theorem download_repairs_iff
    (submitted : runtime.downloadTask remotePath = some download.task)
    (clientSizes : clientFiles.Measurable) (serverSizes : serverFiles.Measurable)
    (stores : Stores sha256 dialect download.session.1.userId
      download.task.remotePath serverFiles database content)
    (distinct : download.CollisionFree sha256 clientFiles content) :
    download.Repairs sha256 dialect content clientFiles serverFiles database ↔
      download.Resumable clientFiles content := by
  constructor
  · intro repairs
    by_contra notResumable
    exact not_repairs submitted clientSizes serverSizes stores distinct notResumable
      repairs
  · intro resumable
    refine (ends_completed (ClientRuntime.snapshot_downloadTask submitted) stores
      (serverSizes _ _ stores.object) (clientSizes.getD _) distinct
      resumable).mono fun last completed => Or.inl ?_
    exact ⟨completed.returnsZero, completed.target⟩

end Runs

section Examples

/-- A function that tells one content from all others. -/
def someSha256 : Sha256 := fun data =>
  if data = ascii "abc" then ⟨Store.someHash, by unfold IsDigest; decide⟩
  else ⟨List.replicate 64 98, isDigest_replicate⟩

theorem fits_someContext : SessionContext.Fits ⟨1, 1, ascii "u", ascii "/"⟩ := by
  decide

/-- The download of the file `/f`. -/
def someDownload : Download where
  task :=
    { kind := .download
      sessionId := someRuntime.sessionId
      localPath := []
      remotePath := ascii "/f"
      targetPath := ascii "downloads/f"
      partPath := ascii "downloads/f.part" }
  session := ⟨⟨1, 1, ascii "u", ascii "/"⟩, fits_someContext⟩
  transferTempDir := ascii "temp"
  storageRoot := ascii "storage"

theorem someDownload_submitted :
    someRuntime.downloadTask ⟨ascii "/f", by decide⟩ = some someDownload.task := by
  decide +kernel

/-- The object of the file `/f`. -/
def someObject : ServerFiles := .single (.object Store.someHash) (ascii "abc")

theorem daoGetFileMeta_of_terminated {stale : Bytes} (terminated : cString stale = []) :
    daoGetFileMeta stale = daoGetFileMeta [] := by
  funext userId targetPath
  simp only [daoGetFileMeta, copySha256Hex, terminated]
  rfl

theorem someDownload_stores :
    Stores someSha256 .plain someDownload.session.1.userId
      someDownload.task.remotePath someObject Store.oneFile.database
      (ascii "abc") where
  object := by decide +kernel
  row := by
    rintro ⟨faults, stale, answer⟩ ⟨noFaults, terminated⟩
    refine ⟨⟨2, 1, ascii "f", 3, Store.someHash⟩, ?_, by decide, by decide⟩
    dsimp only at noFaults terminated
    rw [performTask, noFaults, daoGetFileMeta_of_terminated terminated]
    dsimp only
    decide +kernel

theorem someSha256_collisionFree (files : ClientFiles) :
    someDownload.CollisionFree someSha256 files (ascii "abc") := by
  intro data _ same
  by_contra different
  rw [someSha256, if_neg different] at same
  exact absurd (congrArg Subtype.val same) (by decide)

/-- The client has the first byte of the file. -/
theorem resumable_download_completes_after_one_byte :
    Ends someSha256 .plain (someDownload.Completed (ascii "abc"))
      (someDownload.start (.single (ascii "downloads/f.part") (ascii "a")) someObject
        Store.oneFile.database) :=
  resumable_download_completes someDownload_submitted
    (FileSystem.measurable_single (by decide))
    (FileSystem.measurable_single (by decide)) someDownload_stores
    (someSha256_collisionFree _) (Or.inr (Or.inl (by decide +kernel)))

/-- One run is enough after the first byte. -/
theorem download_repairs_iff_after_one_byte :
    someDownload.Repairs someSha256 .plain (ascii "abc")
      (.single (ascii "downloads/f.part") (ascii "a")) someObject
      Store.oneFile.database :=
  (download_repairs_iff someDownload_submitted
    (FileSystem.measurable_single (by decide))
    (FileSystem.measurable_single (by decide)) someDownload_stores
    (someSha256_collisionFree _)).mpr (Or.inr (Or.inl (by decide +kernel)))

/-- A byte of another file is never replaced. -/
theorem stale_part_is_never_repaired :
    ¬someDownload.Repairs someSha256 .plain (ascii "abc")
      (.single (ascii "downloads/f.part") (ascii "x")) someObject
      Store.oneFile.database := by
  refine not_repairs someDownload_submitted
    (FileSystem.measurable_single (by decide))
    (FileSystem.measurable_single (by decide)) someDownload_stores
    (someSha256_collisionFree _) ?_
  rintro (held | isPrefix | long)
  · exact absurd held (by decide +kernel)
  · exact absurd isPrefix (by decide +kernel)
  · exact absurd long (by decide +kernel)

end Examples

end Download

end CloudDrive
