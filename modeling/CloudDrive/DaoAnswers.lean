import CloudDrive.DaoOutcomes

/-!
# The answers of the data access functions

What the functions answer when no call fails, as far as it depends on the rows
that their queries return.
-/

namespace CloudDrive

open DbSession

/-- No call fails. -/
def noFaults : Nat → Fault := fun _ => ⟨false, false⟩

/-- What `dao_get_file_meta` copies from a row and its file. -/
def FileMeta.ofRows (stale : Bytes) (row : PathRow) (file : FileRow) : FileMeta where
  pathId := row.id
  fileId := file.id
  fileName := (cString row.fileName).take (nameMax - 1)
  size := file.size
  sha256Hex := copySha256Hex (cString file.hash) stale

section Answers

variable {dialect : Dialect} {database : Database} {userId : UInt64}
  {virtualPath : Bytes}

theorem daoPathGetNodeId_absent
    (absent : dialect.run (statementText 1024 (selectNodeText userId virtualPath))
      database = .rows []) :
    DbSession.call dialect (daoPathGetNodeId userId virtualPath) noFaults
      database = ((.notFound, 0), database) := by
  simp [DbSession.call, daoPathGetNodeId, databasePoolQuery, Prog.eval, perform,
    query, start, noFaults, absent, releaseWith]

theorem daoPathGetNodeId_present {pathId : UInt64} {type : Nat}
    {others : List (List Cell)}
    (present : dialect.run (statementText 1024 (selectNodeText userId virtualPath))
      database = .rows ([.number pathId.toNat, .number type] :: others)) :
    (type = 0 → DbSession.call dialect (daoPathGetNodeId userId virtualPath)
      noFaults database = ((.isFile, pathId), database)) ∧
    (type = 1 → DbSession.call dialect (daoPathGetNodeId userId virtualPath)
      noFaults database = ((.isDir, pathId), database)) := by
  constructor <;> rintro rfl <;>
  simp [DbSession.call, daoPathGetNodeId, databasePoolQuery, Prog.eval, perform,
    query, start, noFaults, present, releaseWith]

/-- What the answer to a lookup says about its rows, whichever call fails. -/
theorem daoPathGetNodeId_replies :
    Returns dialect (daoPathGetNodeId userId virtualPath) database
      fun value after => after = database ∧
        (value.1 = .isDir → ∃ cells others,
          dialect.run (statementText 1024 (selectNodeText userId virtualPath))
            database = .rows (cells :: others)) ∧
        (value.1 = .notFound →
          dialect.run (statementText 1024 (selectNodeText userId virtualPath))
            database = .rows []) := by
  refine Prog.Always.bind (databasePoolQuery_returns
    (dialect.run_selectNode_reads userId virtualPath database)) ?_
  rintro stored session ⟨saved, same, run⟩
  rcases stored with _ | _ | ⟨row, rows⟩
  · exact ⟨saved, same, nofun, nofun⟩
  · exact ⟨saved, same, nofun, fun _ => run _ rfl⟩
  · dsimp only
    split_ifs
    · exact ⟨saved, same, nofun, nofun⟩
    · exact ⟨saved, same, nofun, nofun⟩
    · exact ⟨saved, same, fun _ => ⟨row, rows, run _ rfl⟩, nofun⟩
    · exact ⟨saved, same, nofun, nofun⟩

theorem daoGetFileMeta_failed (stale : Bytes) {counters : Counters}
    (failed : dialect.run
      (statementText 1024 (selectMetaLimitText userId virtualPath)) database =
        .failed false counters) :
    (DbSession.call dialect (daoGetFileMeta stale userId virtualPath) noFaults
      database).1 = some (.dbError, ⟨0, 0, [], 0, []⟩) := by
  simp [DbSession.call, daoGetFileMeta, databasePoolQuery, Prog.eval, perform,
    query, start, noFaults, failed, releaseWith]

theorem daoGetFileMeta_absent (stale : Bytes)
    (absent : dialect.run
      (statementText 1024 (selectMetaLimitText userId virtualPath)) database =
        .rows []) :
    (DbSession.call dialect (daoGetFileMeta stale userId virtualPath) noFaults
      database).1 = some (.notFound, ⟨0, 0, [], 0, []⟩) := by
  simp [DbSession.call, daoGetFileMeta, databasePoolQuery, Prog.eval, perform,
    query, start, noFaults, absent, releaseWith]

section MetaRows

variable (stale : Bytes) {row : PathRow}
  (present : dialect.run
    (statementText 1024 (selectMetaLimitText userId virtualPath)) database =
      .rows [metaRow database.tables.files row])

include present

section Stored

variable {file : FileRow} (refers : row.fileId = some file.id)
  (found : database.tables.files.find?
    (fun other => decide (row.fileId = some other.id)) = some file)

include refers found

theorem run_selectMeta_found : dialect.run
    (statementText 1024 (selectMetaLimitText userId virtualPath)) database =
      .rows [[.number row.id.toNat, .number file.id.toNat, .text row.fileName,
        .number row.type, .number file.size.toNat, .text file.hash]] := by
  rw [present]
  simp only [metaRow, found]
  rw [refers]
  rfl

/-- The file of the row is stored. -/
theorem daoGetFileMeta_found :
    (DbSession.call dialect (daoGetFileMeta stale userId virtualPath) noFaults
      database).1 =
        some (if UInt64.ofNat row.type = 1 then .typeMismatch else .ok,
          .ofRows stale row file) := by
  have answered := run_selectMeta_found present refers found
  simp [DbSession.call, daoGetFileMeta, databasePoolQuery, Prog.eval, perform,
    query, start, noFaults, answered, releaseWith, FileMeta.ofRows]
  split_ifs <;> rfl

/-- The function may fail, but it finds no other file. -/
theorem daoGetFileMeta_finds :
    Returns dialect (daoGetFileMeta stale userId virtualPath) database
      fun value after => after = database ∧
        (value = some (.dbError, ⟨0, 0, [], 0, []⟩) ∨
          value = some (if UInt64.ofNat row.type = 1 then .typeMismatch else .ok,
            .ofRows stale row file)) := by
  have answered := run_selectMeta_found present refers found
  have reads : (dialect.run (statementText 1024
      (selectMetaLimitText userId virtualPath)) database).Reads database := by
    rw [answered]
    trivial
  refine Prog.Always.bind (databasePoolQuery_returns reads) ?_
  rintro (_ | rows) session ⟨saved, same, run⟩
  · exact ⟨saved, same, Or.inl rfl⟩
  · cases answered.symm.trans (run rows rfl)
    simp only [column_succ, column_zero, Cell.string_text, Cell.isNull_number,
      Cell.strtoull_number, UInt64.ofNat_toNat, Bool.or_false, Bool.false_eq_true,
      ↓reduceIte]
    split_ifs
    · exact ⟨saved, same, Or.inr rfl⟩
    · exact ⟨saved, same, Or.inr rfl⟩

end Stored

/-- The row has no file: the null columns are read. -/
theorem daoGetFileMeta_null (missing : database.tables.files.find?
      (fun other => decide (row.fileId = some other.id)) = none) :
    (DbSession.call dialect (daoGetFileMeta stale userId virtualPath) noFaults
      database).1 = none := by
  simp [DbSession.call, daoGetFileMeta, databasePoolQuery, Prog.eval, perform,
    query, start, noFaults, present, releaseWith, metaRow, missing, Cell.string]

theorem daoGetFileMeta_present {file : FileRow}
    (stored : file ∈ database.tables.files) (refers : row.fileId = some file.id)
    (isFile : row.type = 0) :
    ∃ found, (DbSession.call dialect (daoGetFileMeta stale userId virtualPath)
      noFaults database).1 = some (.ok, found) ∧ found.pathId = row.id := by
  obtain ⟨other, found⟩ : ∃ other, database.tables.files.find?
      (fun other => decide (row.fileId = some other.id)) = some other := by
    rw [← Option.isSome_iff_exists, List.find?_isSome]
    exact ⟨file, stored, by simp [refers]⟩
  have refersOther : row.fileId = some other.id := by
    simpa using List.find?_some found
  rw [daoGetFileMeta_found stale present refersOther found, isFile]
  exact ⟨_, rfl, rfl⟩

end MetaRows

theorem daoFileFindByHash_present {sha256Hex : Bytes} {fileSize fileId : UInt64}
    (present : dialect.run
      (statementText 1024 (selectByHashText sha256Hex fileSize)) database =
        .rows [[.number fileId.toNat]]) :
    DbSession.call dialect (daoFileFindByHash sha256Hex fileSize) noFaults
      database = ((1, fileId), database) := by
  simp [DbSession.call, daoFileFindByHash, databasePoolQuery, Prog.eval, perform,
    query, start, noFaults, present, releaseWith]

theorem daoFileFindByHash_absent {sha256Hex : Bytes} {fileSize : UInt64}
    (absent : dialect.run
      (statementText 1024 (selectByHashText sha256Hex fileSize)) database = .rows []) :
    DbSession.call dialect (daoFileFindByHash sha256Hex fileSize) noFaults
      database = ((0, 0), database) := by
  simp [DbSession.call, daoFileFindByHash, databasePoolQuery, Prog.eval, perform,
    query, start, noFaults, absent, releaseWith]

theorem daoAuthGetLoginInfo_present {username passwordHash : Bytes}
    {rootPathId : UInt64} (noNul : 0 ∉ passwordHash)
    (short : passwordHash.length < cryptOutputSize)
    (present : dialect.run (statementText 1024 (selectLoginText username)) database =
      .rows [[.number userId.toNat, .text passwordHash, .number rootPathId.toNat]]) :
    DbSession.call dialect (daoAuthGetLoginInfo username) noFaults database =
      ((0, ⟨userId, passwordHash, rootPathId⟩), database) := by
  simp [DbSession.call, daoAuthGetLoginInfo, databasePoolQuery, Prog.eval, perform,
    query, start, noFaults, present, releaseWith, cString_of_noNul noNul,
    Nat.not_le.mpr short]

theorem daoLinkExistingFile_works (pathShort : virtualPath.length < pathMax)
    {parentId fileId : UInt64} {fileName : Bytes}
    (nameShort : fileName.length < nameMax) {counted after : Database}
    {pathId : UInt64}
    (counts : dialect.execute database .incrementRefs [.number fileId.toNat] =
      .changed 0 counted)
    (inserts : dialect.insertPath counted userId.toNat virtualPath
      (some fileId.toNat) (some parentId.toNat) fileName 0 =
        .changed pathId after) :
    DbSession.call dialect
      (daoLinkExistingFile userId virtualPath parentId fileName fileId) noFaults
      database = (0, after) := by
  have begun : dialect.run (statementText 1024 startTransactionText) database =
      .control .startTransaction := dialect.run_startTransaction database
  have counts : dialect.run (statementText 10240 (incrementRefsText fileId))
      database = .changed 0 counted :=
    (dialect.run_incrementRefs fileId database).trans counts
  have inserted := (dialect.run_insertFilePath userId pathShort fileId parentId
    nameShort counted).trans inserts
  have committed : dialect.run (statementText 1024 commitText) after =
      .control .commit := dialect.run_commit after
  simp [DbSession.call, daoLinkExistingFile, runStatement, Prog.eval, perform,
    query, start, noFaults, insertFilePathAndCommit, releaseWith, begun, counts,
    inserted, committed]

theorem daoLinkExistingFile_refused (pathShort : virtualPath.length < pathMax)
    {parentId fileId : UInt64} {fileName : Bytes}
    (nameShort : fileName.length < nameMax) {counted : Database}
    {duplicate : Bool} {counters : Counters}
    (counts : dialect.execute database .incrementRefs [.number fileId.toNat] =
      .changed 0 counted)
    (refuses : dialect.insertPath counted userId.toNat virtualPath
      (some fileId.toNat) (some parentId.toNat) fileName 0 =
        .failed duplicate counters) :
    ∃ after, DbSession.call dialect
      (daoLinkExistingFile userId virtualPath parentId fileName fileId) noFaults
      database = (-1, after) := by
  have begun : dialect.run (statementText 1024 startTransactionText) database =
      .control .startTransaction := dialect.run_startTransaction database
  have counts : dialect.run (statementText 10240 (incrementRefsText fileId))
      database = .changed 0 counted :=
    (dialect.run_incrementRefs fileId database).trans counts
  have refused := (dialect.run_insertFilePath userId pathShort fileId parentId
    nameShort counted).trans refuses
  refine ⟨_, Prod.ext ?_ rfl⟩
  simp [DbSession.call, daoLinkExistingFile, runStatement, Prog.eval, perform,
    query, start, noFaults, insertFilePathAndCommit, releaseWith, rollbackWith,
    begun, counts, refused]

section Creation

variable (pathShort : virtualPath.length < pathMax) {parentId fileId : UInt64}
  {fileName sha256Hex hash : Bytes} (nameShort : fileName.length < nameMax)
  (safe : Sql.Safe sha256Hex) (short : sha256Hex.length ≤ 64)
  (isHash : unhex sha256Hex = some hash) {fileSize : UInt64} (isNumber : fileId ≠ 0)
  {stored : Database}
  (stores : insertFile database hash fileSize.toNat = .changed fileId stored)

include pathShort nameShort safe short isHash isNumber stores

theorem daoCreateFileWithPath_works {after : Database} {pathId : UInt64}
    (inserts : dialect.insertPath stored userId.toNat virtualPath
      (some fileId.toNat) (some parentId.toNat) fileName 0 =
        .changed pathId after) :
    DbSession.call dialect (daoCreateFileWithPath userId virtualPath parentId
      fileName sha256Hex fileSize) noFaults database = (0, after) := by
  have begun : dialect.run (statementText 1024 startTransactionText) database =
      .control .startTransaction := dialect.run_startTransaction database
  have stores : dialect.run (statementText 10240 (insertFileText sha256Hex fileSize))
      database = .changed fileId stored := by
    rw [dialect.run_insertFile safe short, Dialect.execute, isHash]
    exact stores
  have inserted := (dialect.run_insertFilePath userId pathShort fileId parentId
    nameShort stored).trans inserts
  have committed : dialect.run (statementText 1024 commitText) after =
      .control .commit := dialect.run_commit after
  simp [DbSession.call, daoCreateFileWithPath, runStatement, Prog.eval, perform,
    query, start, noFaults, insertFilePathAndCommit, releaseWith, begun, stores,
    isNumber, inserted, committed]

theorem daoCreateFileWithPath_refused {duplicate : Bool} {counters : Counters}
    (refuses : dialect.insertPath stored userId.toNat virtualPath
      (some fileId.toNat) (some parentId.toNat) fileName 0 =
        .failed duplicate counters) :
    ∃ after, DbSession.call dialect (daoCreateFileWithPath userId virtualPath parentId
      fileName sha256Hex fileSize) noFaults database = (-1, after) := by
  have begun : dialect.run (statementText 1024 startTransactionText) database =
      .control .startTransaction := dialect.run_startTransaction database
  have stores : dialect.run (statementText 10240 (insertFileText sha256Hex fileSize))
      database = .changed fileId stored := by
    rw [dialect.run_insertFile safe short, Dialect.execute, isHash]
    exact stores
  have refused := (dialect.run_insertFilePath userId pathShort fileId parentId
    nameShort stored).trans refuses
  refine ⟨_, Prod.ext ?_ rfl⟩
  simp [DbSession.call, daoCreateFileWithPath, runStatement, Prog.eval, perform,
    query, start, noFaults, insertFilePathAndCommit, releaseWith, rollbackWith,
    begun, stores, isNumber, refused]

end Creation

end Answers

end CloudDrive
