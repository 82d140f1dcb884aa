import CloudDrive.ConcurrentTasks
import CloudDrive.DaoAnswers

/-!
# The metadata of a file

What `dao_get_file_meta` answers for the path of a directory and of a file.  The
columns of the file are read before the type of the row, and a directory has no
file.
-/

namespace CloudDrive

open DbSession

section Metadata

variable (dialect : Dialect) (database : Database) (stale : Bytes)
  (userId : UInt64) (targetPath : Bytes)

/-- What the function answers when no call fails. -/
def fileMetaAnswer : Option (DaoStatus × FileMeta) :=
  (DbSession.call dialect (daoGetFileMeta stale userId targetPath) noFaults
    database).1

/-- The row that the path names. -/
def Database.rowAt (dialect : Dialect) (database : Database) (userId : UInt64)
    (targetPath : Bytes) : Option PathRow :=
  database.tables.paths.find? (dialect.samePath userId.toNat targetPath)

/-- Every download of the path is answered with `STATUS_IS_DIR`. -/
def AnswersIsDir : Prop :=
  ∀ (task : TransferTask) (choices : Nat → Choice),
    task.session.1.userId = userId → task.getsTargetPath = some targetPath →
    (choices 0).faults = noFaults → (choices 0).stale = stale →
      (task.handleGets.exchanges (performTask dialect) choices database).map
          Sigma.fst =
        [.daoGetFileMeta userId targetPath,
          .send (Packet.init .error .isDir task.packet.sessionId [])]

/-- The answer fits the row, and no null column is used. -/
structure MetadataFits : Prop where
  absent : database.rowAt dialect userId targetPath = none →
    ∃ found, fileMetaAnswer dialect database stale userId targetPath =
      some (.notFound, found)
  directory : ∀ row, database.rowAt dialect userId targetPath = some row →
    row.type = 1 →
      (∃ found, fileMetaAnswer dialect database stale userId targetPath =
        some (.typeMismatch, found)) ∧
      AnswersIsDir dialect database stale userId targetPath
  file : ∀ row, database.rowAt dialect userId targetPath = some row →
    row.type = 0 → ∃ file ∈ database.tables.files, row.fileId = some file.id ∧
      fileMetaAnswer dialect database stale userId targetPath =
        some (.ok, ⟨row.id, file.id, row.fileName, file.size, file.hash⟩)

/-- A row whose columns are all copied as they are. -/
structure PathRow.Copied (row : PathRow) : Prop where
  isFile : row.type = 0
  stored : ∃ file ∈ database.tables.files, row.fileId = some file.id
  name : row.fileName.length < nameMax ∧ 0 ∉ row.fileName
  terminated : cString stale = []

end Metadata

theorem cString_take_eq_self {count : Nat} {text : Bytes} :
    (cString text).take count = text ↔ text.length ≤ count ∧ 0 ∉ text := by
  constructor
  · intro same
    have short := congrArg List.length same
    have shorter : (cString text).length ≤ text.length :=
      (List.takeWhile_sublist _).length_le
    rw [List.length_take] at short
    refine ⟨by omega, cString_eq_self.mp ?_⟩
    rwa [List.take_of_length_le (by omega)] at same
  · rintro ⟨short, noNul⟩
    rw [cString_of_noNul noNul, List.take_of_length_le short]

theorem copySha256Hex_of_stored {hash : Bytes} (stored : IsStoredHash hash)
    (stale : Bytes) : copySha256Hex (cString hash) stale = hash ++ cString stale := by
  obtain ⟨length, digits⟩ := stored_digits stored
  rw [copySha256Hex, digits, if_neg (by omega), List.take_of_length_le length.le]

/-- The columns are copied as they are exactly if the name fits its array and
the byte behind the digits was zero before. -/
theorem FileMeta.ofRows_eq_iff {stale : Bytes} {row : PathRow} {file : FileRow}
    (stored : IsStoredHash file.hash) :
    ofRows stale row file =
        ⟨row.id, file.id, row.fileName, file.size, file.hash⟩ ↔
      (row.fileName.length < nameMax ∧ 0 ∉ row.fileName) ∧ cString stale = [] := by
  rw [ofRows, copySha256Hex_of_stored stored]
  simp only [FileMeta.mk.injEq, true_and, List.append_right_eq_self]
  rw [cString_take_eq_self, Nat.lt_iff_le_pred (by decide)]

theorem Database.Schema.find_file {database : Database} (schema : database.Schema)
    {row : PathRow} {file : FileRow} (stored : file ∈ database.tables.files)
    (refers : row.fileId = some file.id) :
    database.tables.files.find? (fun other => decide (row.fileId = some other.id)) =
      some file := by
  obtain ⟨other, found⟩ : ∃ other, database.tables.files.find?
      (fun other => decide (row.fileId = some other.id)) = some other := by
    rw [← Option.isSome_iff_exists, List.find?_isSome]
    exact ⟨file, stored, by simp [refers]⟩
  have refersOther : row.fileId = some other.id := by
    simpa using List.find?_some found
  rw [found, List.inj_on_of_nodup_map schema.file_ids (List.mem_of_find?_eq_some found)
    stored (Option.some.inj (refersOther.symm.trans refers))]

section Answers

variable {dialect : Dialect} {database : Database} {userId : UInt64}
  {targetPath : Bytes} (safe : Sql.Safe targetPath)
  (fits : (Sql.render (selectMetaLimitText userId targetPath)).length < 1024)

include safe fits

theorem run_selectMetaLimit_rowAt :
    dialect.run (statementText 1024 (selectMetaLimitText userId targetPath))
        database =
      .rows ((database.rowAt dialect userId targetPath).toList.map
        (metaRow database.tables.files)) := by
  rw [dialect.run_selectMetaLimit userId safe.verbatim fits, Dialect.execute,
    Database.rowAt, ← List.map_take, List.take_one, List.head?_filter]

variable (stale : Bytes) {row : PathRow}
  (found : database.rowAt dialect userId targetPath = some row)

include found

theorem fileMetaAnswer_of_stored (schema : database.Schema) {file : FileRow}
    (stored : file ∈ database.tables.files) (refers : row.fileId = some file.id) :
    fileMetaAnswer dialect database stale userId targetPath =
      some (if UInt64.ofNat row.type = 1 then .typeMismatch else .ok,
        .ofRows stale row file) := by
  have answered := @run_selectMetaLimit_rowAt dialect database userId targetPath safe fits
  rw [found] at answered
  exact daoGetFileMeta_found stale answered refers (schema.find_file stored refers)

theorem fileMetaAnswer_of_null
    (missing : ∀ file ∈ database.tables.files, row.fileId ≠ some file.id) :
    fileMetaAnswer dialect database stale userId targetPath = none := by
  have answered := @run_selectMetaLimit_rowAt dialect database userId targetPath safe fits
  rw [found] at answered
  refine daoGetFileMeta_null stale answered ?_
  rw [List.find?_eq_none]
  exact fun file stored refers => missing file stored (of_decide_eq_true refers)

end Answers

/-- The answer fits the row exactly if there is no row, or if the row is that of
a stored file whose name fits and the byte behind the digits was zero before. -/
theorem fileMeta_fits_iff (dialect : Dialect) {database : Database}
    (schema : database.Schema)
    (directories : ∀ row ∈ database.tables.paths, row.type = 1 → row.fileId = none)
    (userId : UInt64) {targetPath : Bytes} (safe : Sql.Safe targetPath)
    (fits : (Sql.render (selectMetaLimitText userId targetPath)).length < 1024)
    (stale : Bytes) :
    MetadataFits dialect database stale userId targetPath ↔
      ∀ row, database.rowAt dialect userId targetPath = some row →
        row.Copied database stale := by
  constructor
  · intro answers row found
    have listed : row ∈ database.tables.paths := List.mem_of_find?_eq_some found
    rcases Nat.le_one_iff_eq_zero_or_eq_one.mp (schema.types row listed) with
      isFile | isDirectory
    · obtain ⟨file, stored, refers, answer⟩ := answers.file row found isFile
      rw [fileMetaAnswer_of_stored safe fits stale found schema stored refers,
        isFile] at answer
      have copied := congrArg Prod.snd (Option.some.inj answer)
      obtain ⟨name, terminated⟩ :=
        (FileMeta.ofRows_eq_iff (schema.stored file stored)).mp copied
      exact ⟨isFile, ⟨file, stored, refers⟩, name, terminated⟩
    · obtain ⟨⟨other, answer⟩, -⟩ := answers.directory row found isDirectory
      have isNull := fileMetaAnswer_of_null safe fits stale found fun file _ => by
        rw [directories row listed isDirectory]
        exact nofun
      cases isNull.symm.trans answer
  · intro copied
    refine ⟨fun absent => ?_, fun row found isDirectory => ?_,
      fun row found isFile => ?_⟩
    · have answered :=
        @run_selectMetaLimit_rowAt dialect database userId targetPath safe fits
      rw [absent] at answered
      exact ⟨_, daoGetFileMeta_absent stale answered⟩
    · rw [(copied row found).isFile] at isDirectory
      cases isDirectory
    · obtain ⟨-, ⟨file, stored, refers⟩, name, terminated⟩ := copied row found
      refine ⟨file, stored, refers, ?_⟩
      rw [fileMetaAnswer_of_stored safe fits stale found schema stored refers, isFile,
        (FileMeta.ofRows_eq_iff (schema.stored file stored)).mpr ⟨name, terminated⟩]
      rfl

/-- The metadata of the file `/f`. -/
theorem fileMeta_fits_of_f :
    MetadataFits .plain Store.oneFile.database [] 1 (ascii "/f") := by
  refine (fileMeta_fits_iff .plain Store.oneFile_sound.consistent.toSchema
    (by decide +kernel) 1 (by decide) (by decide +kernel) []).mpr fun row found => ?_
  have isRow : Store.oneFile.database.rowAt .plain 1 (ascii "/f") =
      some ⟨2, 1, ascii "/f", some 1, some 1, ascii "f", 0⟩ := by decide +kernel
  cases isRow.symm.trans found
  exact ⟨rfl, by decide +kernel, by decide, rfl⟩

/-- The lookup of the root directory uses a null pointer. -/
theorem directory_metadata_reads_null :
    (∃ row, Store.oneFile.database.rowAt .plain 1 (ascii "/") = some row ∧
      row.type = 1 ∧ row.fileId = none) ∧
    fileMetaAnswer .plain Store.oneFile.database [] 1 (ascii "/") = none := by
  decide +kernel

end CloudDrive
