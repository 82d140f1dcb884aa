import CloudDrive.DbSession
import CloudDrive.ReferenceCounts

/-!
# The outcomes of the data access functions

What each function does to the tables when its statements are not interleaved
with those of another session, whichever of its calls fail: it has its effect
as a whole or none at all.
-/

namespace CloudDrive

/-- The row that `dao_rm_file` removes. -/
def isFileOf (userId pathId : UInt64) (row : PathRow) : Bool :=
  row.id = pathId && row.userId = userId && row.type = 0

theorem isFileOf_eq (userId pathId : UInt64) :
    isFileOf userId pathId = fun row =>
      row.id.toNat = pathId.toNat && row.userId.toNat = userId.toNat &&
        row.type = 0 := by
  funext row
  simp [isFileOf, UInt64.toNat_inj]

/-- A count that is not positive stays. -/
theorem FileRow.decrement_eq (fileId : UInt64) (file : FileRow) :
    (if file.id = fileId ∧ 0 < file.refs then { file with refs := file.refs - 1 }
      else file) =
    { file with refs := if file.id = fileId then file.refs - 1 else file.refs } := by
  obtain ⟨id, hash, size, refs⟩ := file
  grind

namespace Dialect

variable (dialect : Dialect) (database : Database)

theorem fileId_rows (pathId userId : UInt64) :
    dialect.run (statementText 1024 (selectFileIdText pathId userId)) database =
      .rows ((database.tables.paths.filter (isFileOf userId pathId)).map
        fun row => [Cell.ofOption row.fileId]) := by
  rw [run_selectFileId, isFileOf_eq]
  rfl

theorem deleteFilePath_changed (pathId userId : UInt64) :
    dialect.run (statementText 1024 (deleteFilePathText pathId userId))
        database =
      .changed 0 (database.removePaths (isFileOf userId pathId)) := by
  rw [run_deleteFilePath, isFileOf_eq]
  rfl

theorem refs_rows (fileId : UInt64) :
    dialect.run (statementText 1024 (selectRefsText fileId)) database =
      .rows ((database.tables.files.filter fun file => file.id = fileId).map
        fun file => [.number file.refs, .text file.hash]) := by
  rw [run_selectRefs]
  simp [execute, UInt64.toNat_inj]

theorem deleteUnreferenced_changed (fileId : UInt64) :
    dialect.run (statementText 1024 (deleteUnreferencedText fileId)) database =
      .changed 0 (database.removeUnreferenced fileId) := by
  rw [run_deleteUnreferenced]
  simp [execute, deleteFiles, Database.removeUnreferenced, UInt64.toNat_inj]

/-- The path of a user is free, and a row of it can be numbered. -/
structure Insertable (userId : UInt64) (path : Bytes) : Prop where
  user : userId.toNat < intLimit
  next : (UInt64.ofNat database.counters.path).toNat = database.counters.path
  free : ∀ row ∈ database.tables.paths,
    dialect.samePath userId.toNat path row = false

/-- A row is inserted with the next number, or the statement fails. -/
theorem insertPath_cases (userId : UInt64) (path : Bytes)
    (fileId parentId : Option UInt64) (fileName : Bytes) (type : Nat) :
    let reply := dialect.insertPath database userId.toNat path
      (fileId.map UInt64.toNat) (parentId.map UInt64.toNat) fileName type
    let row := database.newPath userId path fileId parentId fileName type
    (∃ duplicate counters, DbSession.Advances database counters ∧
      reply = .failed duplicate counters) ∨
    (dialect.Insertable database userId path ∧
      reply = .changed row.id (database.addPath row)) := by
  unfold insertPath
  dsimp only
  split_ifs with refused exists_path
  · exact Or.inl ⟨_, _, DbSession.advances_refl _, rfl⟩
  · refine Or.inl ⟨_, _, ?_, rfl⟩
    exact ⟨Nat.le_refl _, Nat.le_succ _⟩
  · simp only [Bool.not_eq_true', Bool.not_eq_false, Bool.and_eq_true,
      decide_eq_true_eq] at refused
    have room : database.counters.path < bigintLimit := refused.2
    refine Or.inr ⟨⟨refused.1.1.1.1.1,
      UInt64.toNat_ofNat_of_lt' (room.trans (by decide)), ?_⟩, ?_⟩
    · simpa using exists_path
    · simp [Database.addPath, Database.newPath, Function.comp_def]

end Dialect

namespace DbSession

variable {dialect : Dialect} {database : Database}

section Statements

variable {base : Database} {holds : DbSession → Prop}

theorem succeeds_decrementRefs (fileId : UInt64)
    (works : ∀ after, Opened base (database.dropReference fileId) after →
      holds after) :
    Succeeds base database holds
      (dialect.run (statementText 1024 (decrementRefsText fileId)) database) := by
  rw [dialect.run_decrementRefs]
  simp only [Dialect.execute, updateRefs]
  split_ifs
  · refine ⟨advances_refl _, fun after opened _ => works after ?_⟩
    simpa [Database.dropReference, Database.mapRefs, UInt64.toNat_inj,
      FileRow.decrement_eq] using opened
  · exact advances_refl _

theorem succeeds_incrementRefs (fileId : UInt64)
    (works : ∀ after, Opened base (database.addReference fileId) after →
      (∀ file ∈ database.tables.files, file.id = fileId →
        file.refs + 1 < intLimit) → holds after) :
    Succeeds base database holds
      (dialect.run (statementText 10240 (incrementRefsText fileId)) database) := by
  rw [dialect.run_incrementRefs]
  have counted : ∀ file : FileRow,
      (if file.id = fileId then { file with refs := file.refs + 1 } else file) =
      { file with
        refs := if file.id = fileId then file.refs + 1 else file.refs } := by
    intro file
    split_ifs <;> rfl
  simp only [Dialect.execute, updateRefs]
  split_ifs with fits
  · refine ⟨advances_refl _, fun after opened _ => works after ?_ ?_⟩
    · simpa [Database.addReference, Database.mapRefs, UInt64.toNat_inj,
        counted] using opened
    · intro file stored same
      have inRange := List.all_eq_true.mp fits file stored
      simpa [same] using inRange
  · exact advances_refl _

theorem succeeds_insertPath (userId : UInt64) (path : Bytes)
    (fileId parentId : Option UInt64) (fileName : Bytes) (type : Nat)
    (works : dialect.Insertable database userId path → ∀ after,
      Opened base (database.addPath
        (database.newPath userId path fileId parentId fileName type)) after →
      holds after) :
    Succeeds base database holds
      (dialect.insertPath database userId.toNat path
        (fileId.map UInt64.toNat) (parentId.map UInt64.toNat) fileName type) := by
  rcases dialect.insertPath_cases database userId path fileId parentId fileName
    type with ⟨duplicate, counters, moved, failed⟩ | ⟨insertable, inserted⟩
  · rw [failed]
    exact moved
  · rw [inserted]
    refine ⟨⟨Nat.le_refl _, Nat.le_succ _⟩, fun after opened _ => ?_⟩
    exact works insertable after opened

end Statements

inductive RmOutcome (database : Database) (userId pathId : UInt64) :
    DaoStatus × Bytes → Database → Prop where
  | failed {status : DaoStatus} {hash : Bytes} {after : Database}
      (reported : status = .dbError ∨ status = .notFound)
      (kept : database.Kept after) :
      RmOutcome database userId pathId (status, hash) after
  | dropped {path : PathRow} {file : FileRow}
      (listed : path ∈ database.tables.paths)
      (named : isFileOf userId pathId path = true)
      (stored : file ∈ database.tables.files)
      (refers : path.fileId = some file.id) (remaining : file.refs - 1 ≠ 0) :
      RmOutcome database userId pathId (.ok, [])
        ((database.removePaths (isFileOf userId pathId)).dropReference file.id)
  | removed {path : PathRow} {file : FileRow}
      (listed : path ∈ database.tables.paths)
      (named : isFileOf userId pathId path = true)
      (stored : file ∈ database.tables.files)
      (refers : path.fileId = some file.id) (last : file.refs - 1 = 0) :
      RmOutcome database userId pathId
        (.shouldDeletePhysical, (cString file.hash).take (nameMax - 1))
        (((database.removePaths (isFileOf userId pathId)).dropReference
          file.id).removeUnreferenced file.id)

theorem RmOutcome.dbError {userId pathId : UInt64} (hash : Bytes) :
    ∀ kept, database.Kept kept →
      RmOutcome database userId pathId (.dbError, hash) kept :=
  fun _ isKept => .failed (Or.inl rfl) isKept

/-- The file that the last part of `dao_rm_file` looks at. -/
theorem rmUnreferenced_ends (schema : database.Schema)
    {userId pathId : UInt64} {path : PathRow} (listed : path ∈ database.tables.paths)
    (named : isFileOf userId pathId path = true) {file : FileRow}
    (stored : file ∈ database.tables.files)
    (refers : path.fileId = some file.id) {session : DbSession}
    (opened : Opened database ((database.removePaths
      (isFileOf userId pathId)).dropReference file.id) session) :
    (rmUnreferenced file.id [.number (file.refs - 1), .text file.hash]).Always
      (perform dialect) session (Ends (RmOutcome database userId pathId)) := by
  by_cases last : file.refs - 1 = 0
  · have zero : UInt64.ofNat (file.refs - 1) = 0 := by
      rw [last]
      rfl
    simp only [rmUnreferenced, runStatement, Prog.ask_bind, column_zero,
      column_succ, Cell.isNull_number, Cell.string_text, Cell.strtoull_number,
      zero, if_true]
    refine always_statement opened (RmOutcome.dbError _) ?_
    rw [dialect.deleteUnreferenced_changed]
    refine ⟨advances_refl _, fun session opened _ => ?_⟩
    refine always_commit opened (RmOutcome.dbError _) ?_
    exact .removed listed named stored refers last
  · have counted : UInt64.ofNat (file.refs - 1) ≠ 0 := by
      intro zero
      have small : file.refs - 1 < 2 ^ 64 :=
        (Nat.sub_le _ _).trans_lt ((schema.counts file stored).trans (by decide))
      apply last
      simpa [UInt64.toNat_ofNat_of_lt' small] using congrArg UInt64.toNat zero
    simp only [rmUnreferenced, runStatement, Prog.ask_bind, column_zero,
      column_succ, Cell.isNull_number, Cell.string_text, Cell.strtoull_number,
      counted, if_false]
    refine always_commit opened (RmOutcome.dbError _) ?_
    exact .dropped listed named stored refers last

theorem rmReference_ends (schema : database.Schema)
    {userId pathId fileId : UInt64} {path : PathRow} (listed : path ∈ database.tables.paths)
    (named : isFileOf userId pathId path = true)
    (refers : path.fileId = some fileId) {session : DbSession}
    (opened : Opened database database session) :
    (rmReference userId pathId fileId).Always (perform dialect) session
      (Ends (RmOutcome database userId pathId)) := by
  simp only [rmReference, runStatement, Prog.ask_bind]
  refine always_statement opened (RmOutcome.dbError _) ?_
  rw [dialect.deleteFilePath_changed]
  refine ⟨advances_refl _, fun session opened _ => ?_⟩
  refine always_statement opened (RmOutcome.dbError _) ?_
  refine succeeds_decrementRefs fileId fun session opened => ?_
  refine always_statement opened (RmOutcome.dbError _) ?_
  rw [dialect.refs_rows]
  intro session opened result
  refine always_storeResult result
    (always_rollbackWith opened (RmOutcome.dbError _)) ?_
  cases found : ((database.removePaths (isFileOf userId pathId)).dropReference
      fileId).tables.files.filter fun file => file.id = fileId with
  | nil => exact always_rollbackWith opened (RmOutcome.dbError _)
  | cons counted others =>
      obtain ⟨file, stored, rfl, rfl⟩ : ∃ file ∈ database.tables.files,
          { file with refs := file.refs - 1 } = counted ∧ file.id = fileId := by
        have member := List.mem_filter.mp (found ▸ List.mem_cons_self)
        obtain ⟨file, stored, rfl⟩ := List.mem_map.mp member.1
        have same : file.id = fileId := by simpa using member.2
        exact ⟨file, stored, by simp [same], same⟩
      exact rmUnreferenced_ends schema listed named stored refers opened

theorem daoRmFile_returns (schema : database.Schema) (userId pathId : UInt64) :
    Returns dialect (daoRmFile userId pathId) database
      (RmOutcome database userId pathId) := by
  simp only [daoRmFile, runStatement, Prog.ask_bind, Prog.pure_eq]
  refine always_begin (RmOutcome.dbError _) fun session opened => ?_
  refine always_statement opened (RmOutcome.dbError _) ?_
  rw [dialect.fileId_rows]
  intro session opened result
  refine always_storeResult result
    (always_rollbackWith opened (RmOutcome.dbError _)) ?_
  have notFound : (rollbackWith (DaoStatus.notFound, [])).Always
      (perform dialect) session (Ends (RmOutcome database userId pathId)) :=
    always_rollbackWith opened fun _ isKept => .failed (Or.inr rfl) isKept
  cases found : database.tables.paths.filter (isFileOf userId pathId) with
  | nil => exact notFound
  | cons path others =>
      have member : path ∈ database.tables.paths.filter
          (isFileOf userId pathId) := by simp [found]
      obtain ⟨listed, named⟩ := List.mem_filter.mp member
      cases refers : path.fileId with
      | none =>
          simp only [List.map_cons, refers]
          exact notFound
      | some fileId =>
          simp only [List.map_cons, List.headD_cons, refers, Cell.ofOption,
            column_zero, Cell.isNull_number, Cell.strtoull_number,
            UInt64.ofNat_toNat, Bool.false_eq_true, if_false]
          exact rmReference_ends schema listed named refers opened

/-- A directory is inserted, or the function reports that it is not. -/
def InsertDirOutcome (database : Database) (userId : UInt64) (value : Int)
    (after : Database) : Prop :=
  (value ≠ 0 ∧ database.Kept after) ∨
    ∃ row : PathRow, value = 0 ∧ row.id.toNat = database.counters.path ∧
      row.userId = userId ∧ row.type = 1 ∧ after = database.addPath row

theorem daoPathInsertDir_ends {outcome : Int → Database → Prop} (userId : UInt64)
    {targetPath : Bytes} (pathSafe : Sql.Safe targetPath) (parentId : UInt64)
    {fileName : Bytes} (nameSafe : Sql.Safe fileName)
    (fails : ∀ value kept, value ≠ 0 → database.Kept kept → outcome value kept)
    (works : (Sql.render
        (insertDirectoryText userId targetPath parentId fileName)).length < 1024 →
      dialect.Insertable database userId targetPath →
      outcome 0 (database.addPath
        (database.newPath userId targetPath none (some parentId) fileName 1))) :
    Returns dialect (daoPathInsertDir userId targetPath parentId fileName)
      database outcome := by
  refine databasePoolExecute_returns fails ?_
  by_cases fits : (Sql.render
      (insertDirectoryText userId targetPath parentId fileName)).length < 1024
  · have insertion : dialect.run (statementText 1024
          (insertDirectoryText userId targetPath parentId fileName)) database =
        dialect.insertPath database userId.toNat targetPath
          (Option.map UInt64.toNat none) (Option.map UInt64.toNat (some parentId))
          fileName 1 :=
      dialect.run_insertDirectory_fits userId pathSafe parentId nameSafe fits database
    rw [insertion]
    rcases dialect.insertPath_cases database userId targetPath none
      (some parentId) fileName 1 with
        ⟨duplicate, counters, moved, failed⟩ | ⟨insertable, inserted⟩
    · rw [failed]
      exact moved
    · rw [inserted]
      exact works fits insertable
  · rw [dialect.run_unread
      (Dialect.unread_insertDirectory userId pathSafe parentId nameSafe fits)]
    exact advances_refl _

theorem daoPathInsertDir_returns (userId : UInt64) {targetPath : Bytes}
    (pathSafe : Sql.Safe targetPath) (parentId : UInt64) {fileName : Bytes}
    (nameSafe : Sql.Safe fileName) :
    Returns dialect (daoPathInsertDir userId targetPath parentId fileName)
      database (InsertDirOutcome database userId) :=
  daoPathInsertDir_ends userId pathSafe parentId nameSafe
    (fun _ _ reported isKept => Or.inl ⟨reported, isKept⟩)
    fun _ insertable => Or.inr ⟨_, rfl, insertable.next, rfl, rfl, rfl⟩

/-- The directory is removed, or the function reports that it is not. -/
def RmdirOutcome (database : Database) (targetDirId : UInt64) (value : Int)
    (after : Database) : Prop :=
  (value ≠ 0 ∧ database.Kept after) ∨
    (value = 0 ∧ after = database.removePaths fun row => row.id = targetDirId)

theorem daoPathRmdir_returns (targetDirId : UInt64) :
    Returns dialect (daoPathRmdir targetDirId) database
      (RmdirOutcome database targetDirId) := by
  refine databasePoolExecute_returns
    (fun value kept reported isKept => Or.inl ⟨reported, isKept⟩) ?_
  rw [dialect.run_deletePath]
  refine Or.inr ⟨rfl, ?_⟩
  simp [Database.removePaths, UInt64.toNat_inj]

/-- A file is linked to a path as a whole, or nothing has happened. -/
def LinkOutcome (database : Database) (userId fileId : UInt64) (value : Int)
    (after : Database) : Prop :=
  (value ≠ 0 ∧ database.Kept after) ∨
    ∃ row : PathRow, value = 0 ∧ row.id.toNat = database.counters.path ∧
      row.userId = userId ∧ row.refersTo fileId = true ∧
      (∀ file ∈ database.tables.files, file.id = fileId →
        file.refs + 1 < intLimit) ∧
      after = (database.addReference fileId).addPath row

/-- The end of the two transactions that insert the path of a file. -/
theorem insertFilePathAndCommit_ends {base : Database}
    {outcome : Int → Database → Prop} (userId : UInt64) {targetPath : Bytes}
    (pathShort : targetPath.length < pathMax) (parentId : UInt64)
    {fileName : Bytes} (nameShort : fileName.length < nameMax) (fileId : UInt64)
    {session : DbSession} (opened : Opened base database session)
    (restored : ∀ kept, base.Kept kept → outcome (-1) kept)
    (works : dialect.Insertable database userId targetPath →
      outcome 0 (database.addPath (database.newPath userId targetPath
        (some fileId) (some parentId) fileName 0))) :
    (insertFilePathAndCommit userId targetPath parentId fileName fileId).Always
      (perform dialect) session (Ends outcome) := by
  simp only [insertFilePathAndCommit, runStatement, Prog.ask_bind]
  refine always_statement opened restored ?_
  rw [dialect.run_insertFilePath userId pathShort fileId parentId nameShort]
  refine succeeds_insertPath userId targetPath (some fileId) (some parentId)
    fileName 0 fun insertable session opened => ?_
  exact always_commit opened restored (works insertable)

theorem daoLinkExistingFile_ends {outcome : Int → Database → Prop}
    (userId : UInt64) {targetPath : Bytes}
    (pathShort : targetPath.length < pathMax) (parentId : UInt64)
    {fileName : Bytes} (nameShort : fileName.length < nameMax) (fileId : UInt64)
    (restored : ∀ kept, database.Kept kept → outcome (-1) kept)
    (works : dialect.Insertable (database.addReference fileId) userId targetPath →
      (∀ file ∈ database.tables.files, file.id = fileId →
        file.refs + 1 < intLimit) →
      outcome 0 ((database.addReference fileId).addPath (database.newPath userId
        targetPath (some fileId) (some parentId) fileName 0))) :
    Returns dialect
      (daoLinkExistingFile userId targetPath parentId fileName fileId) database
      outcome := by
  simp only [daoLinkExistingFile, runStatement, Prog.ask_bind, Prog.pure_eq]
  refine always_begin restored fun session opened => ?_
  refine always_statement opened restored ?_
  refine succeeds_incrementRefs fileId fun session opened fits => ?_
  exact insertFilePathAndCommit_ends userId pathShort parentId nameShort fileId
    opened restored fun insertable => works insertable fits

theorem daoLinkExistingFile_returns (userId : UInt64) {targetPath : Bytes}
    (pathShort : targetPath.length < pathMax) (parentId : UInt64)
    {fileName : Bytes} (nameShort : fileName.length < nameMax)
    (fileId : UInt64) :
    Returns dialect
      (daoLinkExistingFile userId targetPath parentId fileName fileId) database
      (LinkOutcome database userId fileId) := by
  refine daoLinkExistingFile_ends userId pathShort parentId nameShort fileId
    (fun kept isKept => Or.inl ⟨by decide, isKept⟩) fun insertable fits => ?_
  exact Or.inr ⟨_, rfl, insertable.next, rfl,
    PathRow.refersTo_iff.mpr ⟨rfl, rfl⟩, fits, rfl⟩

/-- A file is stored with a path, or counted if it is stored already, or
nothing has happened. -/
inductive CreateOutcome (database : Database) (userId : UInt64)
    (sha256Hex : Bytes) : Int → Database → Prop where
  | failed {value : Int} {after : Database} (reported : value ≠ 0)
      (kept : database.Kept after) :
      CreateOutcome database userId sha256Hex value after
  | counted {file : FileRow} {row : PathRow}
      (stored : file ∈ database.tables.files)
      (hash : unhex sha256Hex = some file.hash)
      (fits : ∀ other ∈ database.tables.files, other.id = file.id →
        other.refs + 1 < intLimit)
      (next : row.id.toNat = database.counters.path)
      (user : row.userId = userId) (refers : row.refersTo file.id = true) :
      CreateOutcome database userId sha256Hex 0
        ((database.skipFile.addReference file.id).addPath row)
  | created {file : FileRow} {row : PathRow}
      (new : ∀ other ∈ database.tables.files, other.hash ≠ file.hash)
      (hash : unhex sha256Hex = some file.hash) (one : file.refs = 1)
      (nextFile : file.id.toNat = database.counters.file)
      (next : row.id.toNat = database.counters.path)
      (user : row.userId = userId) (refers : row.refersTo file.id = true) :
      CreateOutcome database userId sha256Hex 0
        ((database.addFile file).addPath row)

theorem succeeds_insertFile {base : Database} {holds : DbSession → Prop}
    (hash : Bytes) (size : Nat)
    (counts : ∀ file ∈ database.tables.files, file.hash = hash →
      (∀ other ∈ database.tables.files, other.id = file.id →
        other.refs + 1 < intLimit) →
      ∀ after, Opened base (database.skipFile.addReference file.id) after →
        after.insertId = file.id → holds after)
    (creates : ∀ file : FileRow, (∀ other ∈ database.tables.files,
        other.hash ≠ file.hash) → file.hash = hash → file.refs = 1 →
      file.id.toNat = database.counters.file →
      ∀ after, Opened base (database.addFile file) after →
        after.insertId = file.id → holds after) :
    Succeeds base database holds (insertFile database hash size) := by
  have skipped : Advances database database.skipFile.counters :=
    ⟨Nat.le_succ _, Nat.le_refl _⟩
  have counted : ∀ fileId (file : FileRow),
      (if file.id = fileId then { file with refs := file.refs + 1 } else file) =
      { file with
        refs := if file.id = fileId then file.refs + 1 else file.refs } := by
    intro fileId file
    split_ifs <;> rfl
  unfold insertFile
  dsimp only
  split_ifs with refused
  · exact advances_refl _
  cases found : database.tables.files.find? fun file => file.hash = hash with
  | some file =>
      have stored := List.mem_of_find?_eq_some found
      have same : file.hash = hash := by simpa using List.find?_some found
      simp only [updateRefs, decide_eq_true_eq]
      split_ifs with fits
      · refine ⟨skipped, fun after opened inserted => ?_⟩
        refine counts file stored same ?_ after ?_ inserted
        · intro other listed sameId
          have inRange := List.all_eq_true.mp fits other listed
          simpa [sameId] using inRange
        · simpa [Database.addReference, Database.mapRefs, Database.skipFile,
            counted] using opened
      · exact skipped
  | none =>
      have room : database.counters.file < bigintLimit := by
        simp only [Bool.not_eq_true', Bool.not_eq_false, Bool.and_eq_true,
          decide_eq_true_eq] at refused
        exact refused.2
      have absent := List.find?_eq_none.mp found
      refine ⟨skipped, fun after opened inserted => ?_⟩
      refine creates _ (fun other listed => ?_) rfl rfl ?_ after opened inserted
      · simpa using absent other listed
      · exact UInt64.toNat_ofNat_of_lt' (room.trans (by decide))

theorem daoCreateFileWithPath_ends {outcome : Int → Database → Prop}
    (userId : UInt64) {targetPath : Bytes}
    (pathShort : targetPath.length < pathMax) (parentId : UInt64)
    {fileName : Bytes} (nameShort : fileName.length < nameMax)
    {sha256Hex : Bytes} (safe : Sql.Safe sha256Hex)
    (short : sha256Hex.length ≤ 64) (fileSize : UInt64)
    (restored : ∀ kept, database.Kept kept → outcome (-1) kept)
    (counted : ∀ file ∈ database.tables.files, unhex sha256Hex = some file.hash →
      (∀ other ∈ database.tables.files, other.id = file.id →
        other.refs + 1 < intLimit) →
      dialect.Insertable (database.skipFile.addReference file.id) userId
        targetPath →
      outcome 0 ((database.skipFile.addReference file.id).addPath
        (database.newPath userId targetPath (some file.id) (some parentId)
          fileName 0)))
    (created : ∀ file : FileRow, (∀ other ∈ database.tables.files,
        other.hash ≠ file.hash) → unhex sha256Hex = some file.hash →
      file.refs = 1 → file.id.toNat = database.counters.file →
      dialect.Insertable (database.addFile file) userId targetPath →
      outcome 0 ((database.addFile file).addPath (database.newPath userId
        targetPath (some file.id) (some parentId) fileName 0))) :
    Returns dialect
      (daoCreateFileWithPath userId targetPath parentId fileName sha256Hex
        fileSize) database outcome := by
  simp only [daoCreateFileWithPath, runStatement, Prog.ask_bind, Prog.pure_eq]
  refine always_begin restored fun session opened => ?_
  refine always_statement opened restored ?_
  rw [dialect.run_insertFile safe short]
  simp only [Dialect.execute]
  cases hash : unhex sha256Hex with
  | none => exact advances_refl _
  | some stored =>
      refine succeeds_insertFile stored fileSize.toNat ?_ ?_
      · intro file listed same fits session opened inserted
        refine always_insertId inserted ?_
        split
        · exact always_rollbackWith opened restored
        · exact insertFilePathAndCommit_ends userId pathShort parentId nameShort
            file.id opened restored fun insertable =>
              counted file listed (by rw [hash, same]) fits insertable
      · intro file new same one nextFile session opened inserted
        refine always_insertId inserted ?_
        split
        · exact always_rollbackWith opened restored
        · exact insertFilePathAndCommit_ends userId pathShort parentId nameShort
            file.id opened restored fun insertable =>
              created file new (by rw [hash, same]) one nextFile insertable

theorem daoCreateFileWithPath_returns (userId : UInt64) {targetPath : Bytes}
    (pathShort : targetPath.length < pathMax) (parentId : UInt64)
    {fileName : Bytes} (nameShort : fileName.length < nameMax)
    {sha256Hex : Bytes} (safe : Sql.Safe sha256Hex)
    (short : sha256Hex.length ≤ 64) (fileSize : UInt64) :
    Returns dialect
      (daoCreateFileWithPath userId targetPath parentId fileName sha256Hex
        fileSize) database (CreateOutcome database userId sha256Hex) := by
  refine daoCreateFileWithPath_ends userId pathShort parentId nameShort safe short
    fileSize (fun kept isKept => .failed (by decide) isKept) ?_ ?_
  · intro file listed hash fits insertable
    exact .counted listed hash fits insertable.next rfl
      (PathRow.refersTo_iff.mpr ⟨rfl, rfl⟩)
  · intro file new hash one nextFile insertable
    exact .created new hash one nextFile insertable.next rfl
      (PathRow.refersTo_iff.mpr ⟨rfl, rfl⟩)

/-- A user is stored with a root directory, or nothing has happened. -/
def RegisterOutcome (database : Database) (value : Int) (after : Database) :
    Prop :=
  (value ≠ 0 ∧ database.Kept after) ∨
    ∃ (users : Database) (row : PathRow), value = 0 ∧
      database.UsersOnly users ∧ row.id.toNat = database.counters.path ∧
      row.type = 1 ∧ after = users.addPath row

/-- The root directory of a user that has been inserted. -/
theorem insertRootAndCommit_ends {users : Database} {session : DbSession}
    {outcome : Int → Database → Prop} (opened : Opened database users session)
    (restored : ∀ kept, database.Kept kept → outcome (-1) kept)
    (works : dialect.Insertable users session.insertId (ascii "/") →
      outcome 0 (users.addPath (users.newPath session.insertId (ascii "/") none none
        (ascii "/") 1))) :
    Prog.Always (perform dialect)
      (.call .insertId fun userId =>
        .call (.query (statementText 1024 (insertRootText userId)))
          fun inserted => if !inserted then rollbackWith (-1)
            else .call (.query (statementText 1024 commitText))
              fun done => if !done then rollbackWith (-1) else releaseWith 0)
      session (Ends outcome) := by
  refine always_insertId rfl (always_statement opened restored ?_)
  rw [dialect.run_insertRoot]
  refine succeeds_insertPath session.insertId (ascii "/") none none
    (ascii "/") 1 fun insertable session opened => ?_
  exact always_commit opened restored (works insertable)

theorem daoAuthRegister_returns (username passwordHash : Bytes) :
    Returns dialect (daoAuthRegister username passwordHash) database
      (RegisterOutcome database) := by
  have restored : ∀ kept, database.Kept kept →
      RegisterOutcome database (-1) kept :=
    fun kept isKept => Or.inl ⟨by decide, isKept⟩
  simp only [daoAuthRegister, runStatement, Prog.ask_bind, Prog.pure_eq]
  refine always_begin restored fun session opened => ?_
  refine always_statement opened restored ?_
  have root := fun (session : DbSession) (users : Database)
      (usersOnly : database.UsersOnly users)
      (opened : Opened database users session) =>
    @insertRootAndCommit_ends dialect database users session _ opened restored
      fun insertable => Or.inr ⟨users, _, rfl, usersOnly,
        insertable.next.trans usersOnly.path, rfl, rfl⟩
  have usersOnly := dialect.run_insertUser username passwordHash database
  cases reply : dialect.run
      (statementText 1024 (insertUserText username passwordHash)) database with
  | failed duplicate counters =>
      rw [reply] at usersOnly
      exact ⟨usersOnly.1.ge, usersOnly.2.ge⟩
  | rows rows =>
      exact fun session opened _ => root session database ⟨rfl, rfl, rfl, rfl⟩ opened
  | changed insertId users =>
      rw [reply] at usersOnly
      exact ⟨⟨usersOnly.file.ge, usersOnly.path.ge⟩,
        fun session opened _ => root session users usersOnly opened⟩
  | control command =>
      rw [reply] at usersOnly
      exact usersOnly.elim

/-- A user has been stored with a root directory. -/
structure Registered (dialect : Dialect) (username passwordHash : Bytes)
    (before after : Database) (user : UserRow) (root : PathRow) : Prop where
  user_eq : user = ⟨UInt64.ofNat before.counters.user, username, passwordHash⟩
  numbered : before.counters.user < intLimit
  freeName : ∀ other ∈ before.tables.users,
    dialect.collate other.username ≠ dialect.collate username
  root_eq : root = before.newPath user.id (ascii "/") none none (ascii "/") 1
  freeRoot : ∀ row ∈ before.tables.paths,
    dialect.samePath user.id.toNat (ascii "/") row = false
  users : after.tables.users = before.tables.users ++ [user]
  files : after.tables.files = before.tables.files
  paths : after.tables.paths = before.tables.paths ++ [root]

/-- A registration whose strings mean themselves stores the user, or nothing has
happened. -/
theorem daoAuthRegister_registers {username passwordHash : Bytes}
    (nameSafe : Sql.Safe username) (hashSafe : Sql.Safe passwordHash)
    (short : username.length + passwordHash.length < 750) :
    Returns dialect (daoAuthRegister username passwordHash) database
      fun value after => (value ≠ 0 ∧ database.Kept after) ∨ (value = 0 ∧
        ∃ user root,
          Registered dialect username passwordHash database after user root) := by
  have restored : ∀ kept, database.Kept kept → ((-1 : Int) ≠ 0 ∧ database.Kept kept) ∨
      ((-1 : Int) = 0 ∧ ∃ user root,
        Registered dialect username passwordHash database kept user root) :=
    fun kept isKept => Or.inl ⟨by decide, isKept⟩
  simp only [daoAuthRegister, runStatement, Prog.ask_bind, Prog.pure_eq]
  refine always_begin restored fun session opened => ?_
  refine always_statement opened restored ?_
  rw [dialect.run_insertUser_safe nameSafe hashSafe short, Dialect.execute,
    Dialect.insertUser]
  dsimp only
  split_ifs with refused taken
  · exact ⟨Nat.le_refl _, Nat.le_refl _⟩
  · exact ⟨Nat.le_refl _, Nat.le_refl _⟩
  refine ⟨⟨Nat.le_refl _, Nat.le_refl _⟩, fun session opened inserted => ?_⟩
  simp only [Bool.not_eq_true', Bool.not_eq_false, Bool.and_eq_true,
    decide_eq_true_eq] at refused
  simp only [List.any_eq_true, decide_eq_true_eq, not_exists, not_and] at taken
  refine insertRootAndCommit_ends opened restored fun insertable => ?_
  rw [inserted] at insertable ⊢
  exact Or.inr ⟨rfl, _, _, rfl, refused.2, taken, rfl, insertable.free, rfl, rfl, rfl⟩

/-- A query leaves the database as it is. -/
theorem databasePoolQuery_returns {sql : Bytes}
    (reads : (dialect.run sql database).Reads database) :
    Returns dialect (databasePoolQuery sql) database fun value after =>
      after = database ∧
        ∀ rows, value = some rows → dialect.run sql database = .rows rows := by
  refine always_databasePoolQuery (closed_start database) reads ?_ ?_
  · exact fun session closed => closed.ends ⟨rfl, by simp⟩
  · intro rows session run closed
    refine closed.ends ⟨rfl, fun stored same => ?_⟩
    rw [run, Option.some.inj same]

theorem daoPathDirHasChild_returns (userId parentId : UInt64) :
    Returns dialect (daoPathDirHasChild userId parentId) database
      fun _ after => after = database := by
  have reads : (dialect.run (statementText 1024
      (selectChildrenText userId parentId)) database).Reads database := by
    rw [dialect.run_selectChildren]
    trivial
  refine (Prog.Always.bind (databasePoolQuery_returns reads) ?_)
  rintro (_ | rows) session ⟨saved, same, -⟩
  · exact ⟨saved, same⟩
  · exact ⟨saved, same⟩

theorem daoPathGetNodeId_reads (userId : UInt64) (virtualPath : Bytes) :
    Returns dialect (daoPathGetNodeId userId virtualPath) database
      fun _ after => after = database := by
  refine Prog.Always.bind (databasePoolQuery_returns
    (dialect.run_selectNode_reads userId virtualPath database)) ?_
  rintro stored session ⟨saved, same, -⟩
  rcases stored with _ | _ | ⟨row, rows⟩
  · exact ⟨saved, same⟩
  · exact ⟨saved, same⟩
  · dsimp only
    split_ifs <;> exact ⟨saved, same⟩

/-- What is known about a node that was found. -/
def NodeOutcome (dialect : Dialect) (database : Database) (userId : UInt64)
    (virtualPath : Bytes) : DaoPathResult × UInt64 → Prop
  | (.isDir, pathId) => ∃ row ∈ database.tables.paths, row.id = pathId ∧
      dialect.samePath userId.toNat virtualPath row = true ∧ row.type = 1
  | (.isFile, pathId) => ∃ row ∈ database.tables.paths, row.id = pathId ∧
      dialect.samePath userId.toNat virtualPath row = true ∧ row.type = 0
  | _ => True

/-- A lookup reads, and what it finds is a row of the path if nothing in the
path ends its literal. -/
theorem daoPathGetNodeId_returns (schema : database.Schema) (userId : UInt64)
    (virtualPath : Bytes) :
    Returns dialect (daoPathGetNodeId userId virtualPath) database
      fun value after => after = database ∧ (Sql.Safe virtualPath →
        NodeOutcome dialect database userId virtualPath value) := by
  refine Prog.Always.bind (databasePoolQuery_returns
    (dialect.run_selectNode_reads userId virtualPath database)) ?_
  rintro stored session ⟨saved, same, run⟩
  rcases stored with _ | _ | ⟨row, rows⟩
  · exact ⟨saved, same, fun _ => trivial⟩
  · exact ⟨saved, same, fun _ => trivial⟩
  have known : ∀ (value : DaoPathResult × UInt64),
      (Sql.Safe virtualPath → NodeOutcome dialect database userId virtualPath
        value) → (Prog.done value : DbProgram _).Always (perform dialect) session
      (Ends fun value after => after = database ∧ (Sql.Safe virtualPath →
        NodeOutcome dialect database userId virtualPath value)) :=
    fun value holds => ⟨saved, same, holds⟩
  have found : Sql.Safe virtualPath → ∃ path ∈ database.tables.paths,
      dialect.samePath userId.toNat virtualPath path = true ∧
        row = [.number path.id.toNat, .number path.type] := by
    intro safe
    have replied := run _ rfl
    rcases dialect.run_selectNode userId safe.verbatim with unread | executed
    · rw [unread] at replied
      exact (Reply.noConfusion replied)
    · rw [executed] at replied
      have member : row ∈ (database.tables.paths.filter
          (dialect.samePath userId.toNat virtualPath)).map fun path =>
            [Cell.number path.id.toNat, Cell.number path.type] := by
        rw [Reply.rows.inj replied]
        exact List.mem_cons_self
      obtain ⟨path, filtered, rfl⟩ := List.mem_map.mp member
      obtain ⟨listed, isPath⟩ := List.mem_filter.mp filtered
      exact ⟨path, listed, isPath, rfl⟩
  dsimp only
  split_ifs with missing file directory
  · exact known _ fun _ => trivial
  · refine known _ fun safe => ?_
    obtain ⟨path, listed, isPath, rfl⟩ := found safe
    have type := schema.types path listed
    refine ⟨path, listed, by simp, isPath, ?_⟩
    interval_cases path.type
    · rfl
    · simp at file
  · refine known _ fun safe => ?_
    obtain ⟨path, listed, isPath, rfl⟩ := found safe
    have type := schema.types path listed
    refine ⟨path, listed, by simp, isPath, ?_⟩
    interval_cases path.type
    · simp at directory
    · rfl
  · exact known _ fun _ => trivial

/-- A file that was found has the hash. -/
def FoundOutcome (database : Database) (sha256Hex : Bytes)
    (value : Int × UInt64) : Prop :=
  value.1 = 1 → ∃ file ∈ database.tables.files, file.id = value.2 ∧
    unhex sha256Hex = some file.hash

theorem daoFileFindByHash_returns {sha256Hex : Bytes}
    (safe : Sql.Safe sha256Hex) (short : sha256Hex.length ≤ 64)
    (fileSize : UInt64) :
    Returns dialect (daoFileFindByHash sha256Hex fileSize) database
      fun value after => after = database ∧
        FoundOutcome database sha256Hex value := by
  have executed := dialect.run_selectByHash safe short fileSize database
  have reads : (dialect.run (statementText 1024
      (selectByHashText sha256Hex fileSize)) database).Reads database := by
    rw [executed]
    trivial
  refine Prog.Always.bind (databasePoolQuery_returns reads) ?_
  rintro stored session ⟨saved, same, run⟩
  rcases stored with _ | _ | ⟨row, rows⟩
  · exact ⟨saved, same, nofun⟩
  · exact ⟨saved, same, nofun⟩
  obtain ⟨file, listed, hash, rfl⟩ : ∃ file ∈ database.tables.files,
      unhex sha256Hex = some file.hash ∧ row = [.number file.id.toNat] := by
    have replied := (run _ rfl).symm.trans executed
    have member := List.mem_of_mem_take
      (Reply.rows.inj replied ▸ List.mem_cons_self (a := row) (l := rows))
    obtain ⟨file, filtered, rfl⟩ := List.mem_map.mp member
    obtain ⟨listed, matches_⟩ := List.mem_filter.mp filtered
    simp only [Bool.and_eq_true, decide_eq_true_eq] at matches_
    exact ⟨file, listed, matches_.1, rfl⟩
  exact ⟨saved, same, fun _ => ⟨file, listed, by simp, hash⟩⟩

end DbSession

end CloudDrive
