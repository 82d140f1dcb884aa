import CloudDrive.FileMetadata
import CloudDrive.InstantUploads
import CloudDrive.UploadRuns

/-!
# An upload and then a download

The rows that an acknowledged upload leaves are those that a download of its path
reads, so that the content comes back to whoever asks for it as the same user.
-/

namespace CloudDrive

namespace Upload

open DbSession Transfer

section Definitions

variable (upload : Upload) (target : UploadTarget) (parentId : UInt64)
  (database : Database)

/-- The row of a new content. -/
def newFile : FileRow :=
  ⟨UInt64.ofNat database.counters.file, target.sha256Hex, target.fileSize, 1⟩

/-- The path that leads to a new content. -/
def newEntry : PathRow :=
  database.newPath upload.session.1.userId target.targetPath
    (some (newFile target database).id) (some parentId) target.fileName 0

/-- The database with both rows of an upload. -/
def recorded : Database :=
  (database.addFile (newFile target database)).addPath
    (upload.newEntry target parentId database)

/-- The content of an upload is new, and the next file has a number. -/
structure Admits : Prop extends database.Schema where
  unknown : ∀ file ∈ database.tables.files, file.hash ≠ target.sha256Hex
  counted : 0 < database.counters.file
  numbered : database.counters.file < bigintLimit

end Definitions

variable {sha256 : Sha256} {dialect : Dialect} {upload : Upload} {content : Bytes}
  {target : UploadTarget} {parentId : UInt64} {database : Database}
  (snapshot : upload.task.Snapshot) (measurable : content.length < 2 ^ 63)
  (free : upload.Free sha256 dialect content target parentId database)
  (admits : Admits target database)

section Rows

include admits

theorem toNat_newFile_id :
    (newFile target database).id.toNat = database.counters.file :=
  UInt64.toNat_ofNat_of_lt' (admits.numbered.trans (by decide))

include snapshot measurable free

/-- The creation that returns zero has stored both rows. -/
theorem Free.records :
    dialect.Takes database upload.session.1.userId target.targetPath parentId
        target.fileName ∧
      ∀ choice : Choice, choice.FaultFree →
        (performTask dialect choice
          (.daoCreateFileWithPath upload.session.1.userId target.targetPath parentId
            target.fileName target.sha256Hex target.fileSize) database).2 =
          upload.recorded target parentId database := by
  obtain ⟨isSize, isDigest⟩ := free.announced snapshot
  obtain ⟨pathShort, nameShort, valid⟩ :=
    TransferTask.uploadTarget_fits free.accepted
  obtain ⟨safe, short⟩ := isValidSha256Hex.safe valid
  have isHash : unhex target.sha256Hex = some target.sha256Hex :=
    isDigest ▸ (sha256 content).2
  have small : target.fileSize.toNat < bigintLimit := by
    rw [isSize, toNat_fileSize measurable]
    exact measurable
  have stores := TransferTask.insertFile_new admits.unknown small admits.numbered
  have isNumber := toNat_newFile_id admits
  have notZero : (newFile target database).id ≠ 0 := by
    intro isZero
    have counted := admits.counted
    rw [← isNumber, isZero] at counted
    exact Nat.lt_irrefl _ counted
  by_cases takes : dialect.Takes (database.addFile (newFile target database))
      upload.session.1.userId target.targetPath parentId target.fileName
  · refine ⟨takes.of_same rfl rfl, fun choice faultFree => ?_⟩
    rw [performTask, faultFree.faults]
    exact congrArg Prod.snd (daoCreateFileWithPath_works pathShort nameShort safe
      short isHash notZero stores
      (takes.inserts (isNumber.trans_lt admits.numbered)))
  · obtain ⟨_, _, refused⟩ := Dialect.insertPath_refused takes
      (newFile target database).id
    obtain ⟨after, fails⟩ := daoCreateFileWithPath_refused pathShort nameShort safe
      short isHash notZero stores refused
    have created := free.created .ordinary ⟨rfl, rfl⟩
    cases created.symm.trans (congrArg Prod.fst fails)

theorem schema_recorded : (upload.recorded target parentId database).Schema := by
  obtain ⟨takes, -⟩ := free.records snapshot measurable admits
  have isDigest := (free.announced snapshot).2
  apply Database.Schema.addPath
  · apply admits.toSchema.addFile (toNat_newFile_id admits) admits.unknown
    · exact ⟨_, isDigest ▸ (sha256 content).2⟩
    · rfl
  · exact UInt64.toNat_ofNat_of_lt' (takes.next.trans (by decide))
  · exact Nat.zero_le 1

/-- The path of the upload names its new row. -/
theorem rowAt_recorded :
    (upload.recorded target parentId database).rowAt dialect upload.session.1.userId
        target.targetPath =
      some (upload.newEntry target parentId database) := by
  obtain ⟨takes, -⟩ := free.records snapshot measurable admits
  have old : database.tables.paths.find?
      (dialect.samePath upload.session.1.userId.toNat target.targetPath) = none := by
    simpa using takes.free
  have new : dialect.samePath upload.session.1.userId.toNat target.targetPath
      (upload.newEntry target parentId database) = true := by
    simp [Dialect.samePath, newEntry, Database.newPath]
  rw [Database.rowAt, recorded, Database.addPath, List.find?_append]
  simp [Database.addFile, old, new]

/-- A download of the path finds what the upload has left. -/
theorem stores_recorded {files : ServerFiles} (safe : Sql.Safe target.targetPath)
    (fits : (Sql.render (selectMetaLimitText upload.session.1.userId
      target.targetPath)).length < 1024)
    (object : files.content (.object (sha256 content).1) = some content) :
    Stores sha256 dialect upload.session.1.userId target.targetPath files
      (upload.recorded target parentId database) content where
  object := object
  row := by
    intro choice faultFree
    obtain ⟨isSize, isDigest⟩ := free.announced snapshot
    have isHash : IsDigest target.sha256Hex := isDigest ▸ (sha256 content).2
    have schema := schema_recorded snapshot measurable free admits
    have found := rowAt_recorded snapshot measurable free admits
    have listed : newFile target database ∈
        (upload.recorded target parentId database).tables.files :=
      List.mem_append_right _ (List.mem_singleton_self _)
    have answered := @run_selectMetaLimit_rowAt dialect
      (upload.recorded target parentId database) _ _ safe fits
    rw [found] at answered
    have unchanged := ((daoGetFileMeta_finds choice.stale answered rfl
      (schema.find_file listed rfl)).call choice.faults).1
    have answer := fileMetaAnswer_of_stored safe fits choice.stale found schema
      listed rfl
    refine ⟨.ofRows choice.stale (upload.newEntry target parentId database)
      (newFile target database), Prod.ext ?_ unchanged, isSize, ?_⟩
    · rw [performTask, faultFree.faults]
      exact answer
    · have copied := copySha256Hex_of_stored ⟨_, isHash⟩ choice.stale
      rw [faultFree.stale, List.append_nil] at copied
      exact copied.trans isDigest

end Rows

theorem noFiles_admits : Admits someTarget noFiles :=
  ⟨⟨by decide, by decide, by decide, by decide, nofun, by decide, nofun, nofun⟩, nofun,
    by decide, by decide⟩

end Upload

end CloudDrive
