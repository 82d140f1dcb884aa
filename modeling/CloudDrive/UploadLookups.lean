import CloudDrive.DaoAnswers
import CloudDrive.LookupTexts
import CloudDrive.ConcurrentTasks

/-!
# Lookups of uploaded paths

The path of an upload is escaped where it is stored and spliced as it is where
it is looked up, into a shorter text.  `handle_puts` acknowledges an upload
after one of two functions has inserted a row; whether the lookups find that
row depends on the path alone.
-/

namespace CloudDrive

open DbSession

/-- A handler served alone; the second part of the state says whether it has
acknowledged its request. -/
def performUpload (dialect : Dialect) (choice : Choice) (op : TaskOp)
    (state : Database × Bool) : op.Answer × Database × Bool :=
  ((performTask dialect choice op state.1).1,
    (performTask dialect choice op state.1).2, state.2 || op.acknowledges)

/-- The upload of a task is acknowledged and leads from one database to
another. -/
def TransferTask.Acknowledged (task : TransferTask) (dialect : Dialect)
    (before after : Database) : Prop :=
  ∃ choices, (task.handlePuts.eval (performUpload dialect) choices
    (before, false)).2 = (after, true)

/-- Both lookups of a path find the row with a number when nothing fails. -/
structure Database.Finds (database : Database) (dialect : Dialect)
    (userId : UInt64) (virtualPath : Bytes) (pathId : UInt64) : Prop where
  node : (DbSession.call dialect (daoPathGetNodeId userId virtualPath) noFaults
    database).1 = (.isFile, pathId)
  metadata : ∀ stale, ∃ found,
    (DbSession.call dialect (daoGetFileMeta stale userId virtualPath) noFaults
      database).1 = some (.ok, found) ∧ found.pathId = pathId

/-- The lookups find the one row that was inserted. -/
def FindsInserted (dialect : Dialect) (userId : UInt64) (virtualPath : Bytes)
    (before after : Database) : Prop :=
  ∃ row, after.tables.paths = before.tables.paths ++ [row] ∧
    after.Finds dialect userId virtualPath row.id

section Uploads

variable {dialect : Dialect}

theorem Silent.always {α : Type} {program : Handler α} (silent : Silent program)
    (state : Database × Bool) :
    program.Always (performUpload dialect) state fun _ after => after = state := by
  induction program with
  | done value => rfl
  | call op next inductionHypothesis =>
      intro choice
      obtain ⟨outside, unsaid⟩ := Bool.and_eq_true_iff.mp silent.1
      have other : op.isDao = false := by cases op <;> trivial
      have same : (performUpload dialect choice op state).2 = state := by
        simp only [performUpload, performTask_other other]
        simp only [Bool.not_eq_true'] at unsaid
        rw [unsaid, Bool.or_false]
      rw [same]
      exact inductionHypothesis _ (silent.2 _)

theorem Quiet.always {α : Type} {program : Handler α} (quiet : Quiet program)
    (state : Database × Bool) :
    program.Always (performUpload dialect) state
      fun _ after => after.1 = state.1 := by
  induction program generalizing state with
  | done value => rfl
  | call op next inductionHypothesis =>
      intro choice
      have outside := quiet.1
      have other : op.isDao = false := by cases op <;> trivial
      have same : (performUpload dialect choice op state).2.1 = state.1 := by
        simp only [performUpload, performTask_other other]
      rw [← same]
      exact inductionHypothesis _ (quiet.2 _) _

/-- A call to a data access function whose outcome is known. -/
theorem always_dao {op : TaskOp} {rest : op.Answer → Handler Unit}
    {database : Database} {post : Unit → Database × Bool → Prop}
    {program : DbProgram op.Answer} {outcome : op.Answer → Database → Prop}
    (returns : Returns dialect program database outcome)
    (performs : ∀ choice, performTask dialect choice op database =
      DbSession.call dialect program choice.faults database)
    (unsaid : op.acknowledges = false)
    (works : ∀ answer after, outcome answer after →
      (rest answer).Always (performUpload dialect) (after, false) post) :
    (Prog.ask op >>= rest).Always (performUpload dialect) (database, false)
      post := by
  refine Prog.Always.ask fun choice => ?_
  have holds := works _ _ (returns.call choice.faults)
  simpa [performUpload, unsaid, performs] using holds

/-- The row of an insertion that has been reported. -/
structure NewFile (dialect : Dialect) (userId : UInt64) (target : UploadTarget)
    (before after : Database) (row : PathRow) : Prop where
  appended : after.tables.paths = before.tables.paths ++ [row]
  path : row.userId = userId ∧ row.path = target.targetPath ∧ row.type = 0
  file : ∃ file ∈ after.tables.files, row.fileId = some file.id
  user : userId.toNat < intLimit
  free : ∀ other ∈ before.tables.paths,
    dialect.samePath userId.toNat target.targetPath other = false

section Insertions

variable {userId parentId : UInt64} {target : UploadTarget} {before : Database}
  (pathShort : target.targetPath.length < pathMax)
  (nameShort : target.fileName.length < nameMax)

include pathShort nameShort

theorem daoLinkExistingFile_inserts {fileId : UInt64}
    (stored : ∃ file ∈ before.tables.files, file.id = fileId) :
    Returns dialect (daoLinkExistingFile userId target.targetPath parentId
      target.fileName fileId) before fun value after =>
        value = 0 → ∃ row, NewFile dialect userId target before after row := by
  refine daoLinkExistingFile_ends userId pathShort parentId nameShort fileId
    (fun _ _ => nofun) fun insertable _ _ => ⟨_, rfl, ⟨rfl, rfl, rfl⟩, ?_,
      insertable.user, insertable.free⟩
  obtain ⟨file, listed, rfl⟩ := stored
  exact ⟨_, List.mem_map_of_mem listed, rfl⟩

theorem daoCreateFileWithPath_inserts (safe : Sql.Safe target.sha256Hex)
    (short : target.sha256Hex.length ≤ 64) :
    Returns dialect (daoCreateFileWithPath userId target.targetPath parentId
      target.fileName target.sha256Hex target.fileSize) before
      fun value after =>
        value = 0 → ∃ row, NewFile dialect userId target before after row := by
  refine daoCreateFileWithPath_ends userId pathShort parentId nameShort safe short
    target.fileSize (fun _ _ => nofun) ?_ ?_
  · intro file listed _ _ insertable _
    exact ⟨_, rfl, ⟨rfl, rfl, rfl⟩, ⟨_, List.mem_map_of_mem listed, rfl⟩,
      insertable.user, insertable.free⟩
  · intro file _ _ _ _ insertable _
    exact ⟨_, rfl, ⟨rfl, rfl, rfl⟩, ⟨file, by simp [Database.addPath,
      Database.addFile], rfl⟩, insertable.user, insertable.free⟩

end Insertions

/-- An upload is acknowledged after its path was not found under a directory
and a row of it was inserted. -/
structure Inserted (dialect : Dialect) (userId : UInt64) (target : UploadTarget)
    (before after : Database) : Prop where
  parent : ∃ cells others, dialect.run (statementText 1024
    (selectNodeText userId target.parentPath)) before = .rows (cells :: others)
  absent : dialect.run (statementText 1024
    (selectNodeText userId target.targetPath)) before = .rows []
  row : ∃ row, NewFile dialect userId target before after row

namespace TransferTask

variable {task : TransferTask} {target : UploadTarget} {holds : Database → Prop}

/-- An error response does not acknowledge anything. -/
theorem fail_unacknowledged (status : StatusCode) (database : Database) :
    (task.fail status).Always (performUpload dialect) (database, false)
      fun _ after => after.2 = true → holds after.1 :=
  ((task.transfers_fail status).silent.always _).mono fun _ _ same acknowledged => by
    simp [same] at acknowledged

theorem reply_holds {type : CmdType} {status : StatusCode} {payload : Bytes}
    {database : Database} (stored : holds database) :
    (task.reply type status payload).Always (performUpload dialect)
      (database, false) fun _ after => after.2 = true → holds after.1 :=
  (Quiet.always (quiet_respond type status _ payload) _).mono
    fun _ _ same _ => same ▸ stored

variable {parentId fileId : UInt64} {before : Database}

theorem linkFile_inserts
    (returns : Returns dialect (daoLinkExistingFile task.session.1.userId
      target.targetPath parentId target.fileName fileId) before
      fun value after => value = 0 → holds after) :
    (task.linkFile target parentId fileId).Always (performUpload dialect)
      (before, false) fun _ after => after.2 = true → holds after.1 := by
  refine always_dao returns (fun _ => rfl) rfl fun linked after stored => ?_
  split_ifs with refused
  · exact fail_unacknowledged _ _
  · rw [ne_eq, not_not] at refused
    refine ((task.transfers_sendPutsResume _).silent.always _).bind ?_
    rintro sent _ rfl
    split_ifs
    · exact nofun
    · exact reply_holds (stored refused)

theorem uploadFile_inserts
    (returns : Returns dialect (daoCreateFileWithPath task.session.1.userId
      target.targetPath parentId target.fileName target.sha256Hex target.fileSize)
      before fun value after => value = 0 → holds after) :
    (task.uploadFile target parentId).Always (performUpload dialect)
      (before, false) fun _ after => after.2 = true → holds after.1 := by
  unfold uploadFile
  split
  · exact fail_unacknowledged _ _
  have silently : ∀ {α : Type} {program : Handler α} {rest : α → Handler Unit},
      Silent program → (∀ value, (rest value).Always (performUpload dialect)
        (before, false) fun _ after => after.2 = true → holds after.1) →
      (program >>= rest).Always (performUpload dialect) (before, false)
        fun _ after => after.2 = true → holds after.1 := by
    intro α program rest silent always
    refine (silent.always _).bind ?_
    rintro value _ rfl
    exact always value
  refine silently ⟨rfl, fun _ => trivial⟩ fun opened => ?_
  cases opened with
  | none => exact fail_unacknowledged _ _
  | some fd =>
      have fails : ∀ status, (task.closeAndFail fd status).Always
          (performUpload dialect) (before, false)
          fun _ after => after.2 = true → holds after.1 := fun status =>
        ((task.transfers_closeAndFail fd status).silent.always _).mono
          fun _ _ same acknowledged => by simp [same] at acknowledged
      refine silently (task.transfers_openPart fd target).silent fun step => ?_
      cases step with
      | stops status => exact fails status
      | goesOn =>
          refine silently (transfers_digestPart fd).silent fun digest => ?_
          cases digest with
          | none => exact fails _
          | some actual =>
              refine silently ⟨rfl, fun _ => trivial⟩ fun _ => ?_
              split_ifs
              · exact silently ⟨rfl, fun _ => trivial⟩
                  fun _ => fail_unacknowledged _ _
              · refine silently (silent_publishPart _) fun published => ?_
                cases published with
                | false => exact fail_unacknowledged _ _
                | true =>
                    refine always_dao returns (fun _ => rfl) rfl
                      fun created after stored => ?_
                    split_ifs with refused
                    · exact fail_unacknowledged _ _
                    · exact reply_holds (stored (not_not.mp refused))

theorem handlePuts_inserts (accepted : task.uploadTarget = .ok target)
    (before : Database) :
    task.handlePuts.Always (performUpload dialect) (before, false)
      fun _ after => after.2 = true →
        Inserted dialect task.session.1.userId target before after.1 := by
  obtain ⟨pathShort, nameShort, valid⟩ := uploadTarget_fits accepted
  obtain ⟨safe, short⟩ := isValidSha256Hex.safe valid
  unfold handlePuts
  rw [accepted]
  refine always_dao (daoPathGetNodeId_replies) (fun _ => rfl) rfl ?_
  rintro ⟨result, parentId⟩ _ ⟨rfl, parent, -⟩
  cases result with
  | isFile | notFound | dbError | badArg => exact fail_unacknowledged _ _
  | isDir =>
  refine always_dao (daoPathGetNodeId_replies) (fun _ => rfl) rfl ?_
  rintro ⟨result, pathId⟩ _ ⟨rfl, -, absent⟩
  cases result with
  | isFile | isDir | dbError | badArg => exact fail_unacknowledged _ _
  | notFound =>
  refine always_dao (daoFileFindByHash_returns safe short target.fileSize)
    (fun _ => rfl) rfl ?_
  rintro ⟨found, fileId⟩ _ ⟨rfl, stored⟩
  dsimp only
  split_ifs with failed isFound
  · exact fail_unacknowledged _ _
  · obtain ⟨file, listed, same, -⟩ := stored isFound
    refine (linkFile_inserts (daoLinkExistingFile_inserts pathShort nameShort
      ⟨file, listed, same⟩)).mono ?_
    exact fun _ _ inserted done => ⟨parent rfl, absent rfl, inserted done⟩
  · refine (uploadFile_inserts (daoCreateFileWithPath_inserts pathShort nameShort
      safe short)).mono ?_
    exact fun _ _ inserted done => ⟨parent rfl, absent rfl, inserted done⟩

end TransferTask

theorem TransferTask.Acknowledged.inserted {task : TransferTask}
    {before after : Database} (acknowledged : task.Acknowledged dialect before after)
    {target : UploadTarget} (accepted : task.uploadTarget = .ok target) :
    Inserted dialect task.session.1.userId target before after := by
  obtain ⟨choices, same⟩ := acknowledged
  have inserted := (@handlePuts_inserts dialect task target accepted before).eval
    choices
  rw [same] at inserted
  exact inserted rfl

/-- Where the path of the lookup is the path that was stored, the row is
found. -/
theorem Inserted.finds {userId : UInt64} {target : UploadTarget}
    {before after : Database} (inserted : Inserted dialect userId target before after)
    (verbatim : Sql.Verbatim target.targetPath)
    (fits : MetaFits userId target.targetPath) :
    FindsInserted dialect userId target.targetPath before after := by
  obtain ⟨row, new⟩ := inserted.row
  obtain ⟨user, path, isFile⟩ := new.path
  obtain ⟨file, stored, refers⟩ := new.file
  have selected : after.tables.paths.filter
      (dialect.samePath userId.toNat target.targetPath) = [row] := by
    have others : before.tables.paths.filter
        (dialect.samePath userId.toNat target.targetPath) = [] := by
      rw [List.filter_eq_nil_iff]
      intro other listed
      simp [new.free other listed]
    have itself : dialect.samePath userId.toNat target.targetPath row = true := by
      simp [Dialect.samePath, user, path]
    simp [new.appended, List.filter_append, others, itself]
  refine ⟨row, new.appended, ?_, fun stale => ?_⟩
  · have run : dialect.run (statementText 1024
        (selectNodeText userId target.targetPath)) after =
        .rows [[.number row.id.toNat, .number row.type]] := by
      rcases dialect.run_selectNode userId verbatim with unread | executed
      · exact Reply.noConfusion ((unread before).symm.trans inserted.absent)
      · rw [executed, Dialect.execute, selected]
        rfl
    rw [(daoPathGetNodeId_present run).1 isFile]
  · refine daoGetFileMeta_present stale ?_ stored refers isFile
    rcases dialect.run_selectMeta userId verbatim fits after with run | run
    · rw [run, Dialect.execute, selected]
      rfl
    · rw [run, Dialect.execute, selected]
      rfl

/-- A stored content is linked to a path that is not found. -/
theorem TransferTask.acknowledged_of_link {task : TransferTask}
    {target : UploadTarget} (accepted : task.uploadTarget = .ok target)
    {before after : Database} {parentId fileId : UInt64}
    (parent : DbSession.call dialect
      (daoPathGetNodeId task.session.1.userId target.parentPath) noFaults before =
        ((.isDir, parentId), before))
    (absent : DbSession.call dialect
      (daoPathGetNodeId task.session.1.userId target.targetPath) noFaults before =
        ((.notFound, 0), before))
    (found : DbSession.call dialect
      (daoFileFindByHash target.sha256Hex target.fileSize) noFaults before =
        ((1, fileId), before))
    (linked : DbSession.call dialect (daoLinkExistingFile task.session.1.userId
      target.targetPath parentId target.fileName fileId) noFaults before =
        (0, after)) :
    task.Acknowledged dialect before after := by
  refine ⟨fun _ => .ordinary, ?_⟩
  have faultless : Choice.ordinary.faults = noFaults := rfl
  have sent : ∀ packet, Choice.ordinary.answer (.send packet) = true :=
    fun _ => rfl
  have short : ¬maxPacketPayload < 8 := by decide
  simp [handlePuts, accepted, Prog.eval, performUpload, performTask, faultless,
    parent, absent, found, linked, linkFile, sendPutsResume,
    HandlerTask.sendPacket, HandlerTask.reply, HandlerTask.respond,
    TaskOp.acknowledges, Packet.init, sent, short]

/-- A server that compares bytes and answers one statement of another form with
a directory. -/
def Dialect.answering (parent : Lookup) : Dialect where
  collate := id
  charLength := fun _ => some 0
  other := fun tokens _ =>
    .rows (if parent = .other tokens then [[.number 1, .number 1]] else [])
  select_reads := fun _ _ _ => trivial
  insert_users := fun _ _ _ => trivial

/-- The directory that a lookup finds, and a stored content. -/
def Lookup.database (userId : UInt64) (file : FileRow) (parent : Lookup) :
    Database where
  tables :=
    { users := []
      files := [file]
      paths := match parent with
        | .path decoded => [⟨1, userId, decoded, none, none, [], 1⟩]
        | _ => [] }
  counters := ⟨1, 2, 2⟩

theorem Lookup.parent_found {parent : Lookup} (read : parent ≠ .unread)
    (userId : UInt64) (file : FileRow) :
    parent.reply (.answering parent) userId (parent.database userId file) =
      .rows [[.number 1, .number 1]] := by
  cases parent with
  | unread => exact (read rfl).elim
  | other tokens => simp [reply, Dialect.answering]
  | path decoded =>
      simp [reply, Dialect.execute, Lookup.database, Dialect.samePath]

/-- No other lookup finds anything. -/
theorem Lookup.others_absent {parent lookup : Lookup} (read : lookup ≠ .unread)
    (different : lookup ≠ parent) (userId : UInt64) (file : FileRow)
    {database : Database} {rows : List PathRow}
    (paths : database.tables.paths =
      (parent.database userId file).tables.paths ++ rows)
    (elsewhere : ∀ row ∈ rows, lookup ≠ .path row.path) :
    lookup.reply (.answering parent) userId database = .rows [] := by
  cases lookup with
  | unread => exact (read rfl).elim
  | other tokens => simp [reply, Dialect.answering, different.symm]
  | path decoded =>
      have none : database.tables.paths.filter
          ((Dialect.answering parent).samePath userId.toNat decoded) = [] := by
        rw [paths, List.filter_eq_nil_iff]
        intro row listed same
        have isPath : row.path = decoded :=
          of_decide_eq_true (Bool.and_eq_true_iff.mp same).2
        subst isPath
        rcases List.mem_append.mp listed with old | new
        · cases parent with
          | path decoded =>
              obtain rfl := List.mem_singleton.mp old
              exact different rfl
          | unread | other => cases old
        · exact elsewhere row new rfl
      rw [reply, Dialect.execute, none]
      rfl

theorem TransferTask.parentPath_shorter {task : TransferTask}
    {target : UploadTarget} (accepted : task.uploadTarget = .ok target) :
    target.parentPath.length < target.targetPath.length := by
  unfold uploadTarget at accepted
  split at accepted
  · cases accepted
  dsimp only at accepted
  split at accepted
  · cases accepted
  split at accepted
  · cases accepted
  split at accepted
  · cases accepted
  split at accepted
  · cases accepted
  rename_i before fileName parts
  split at accepted
  · cases accepted
  rename_i named
  cases accepted
  have lengths := length_splitAtLastSlash parts
  have nonempty := List.length_pos_iff.mpr (not_or.mp named).1
  have root : (ascii "/").length = 1 := rfl
  dsimp only
  unfold parentOf
  split_ifs <;> omega

/-- The row that an upload of a stored content inserts. -/
theorem Lookup.insertPath_works {userId : UInt64} (user : userId.toNat < intLimit)
    {parent : Lookup} {path : Bytes} (free : parent ≠ .path path)
    (fileName : Bytes) (file : FileRow) :
    let database := parent.database userId file
    let row := database.newPath userId path (some 1) (some 1) fileName 0
    (Dialect.answering parent).insertPath database userId.toNat path (some 1)
      (some 1) fileName 0 = .changed row.id (database.addPath row) := by
  have absent : (parent.database userId file).tables.paths.any
      ((Dialect.answering parent).samePath userId.toNat path) = false := by
    cases parent with
    | path decoded =>
        have other : decoded ≠ path := fun same => free (congrArg _ same)
        simp [Lookup.database, Dialect.samePath, Dialect.answering, other]
    | unread | other => rfl
  intro database row
  rw [Dialect.insertPath]
  dsimp only
  rw [if_neg (by simp [user, Dialect.varchar, Dialect.answering, bigintLimit,
    database, Lookup.database]), if_neg (by simp [database, absent])]
  simp [database, row, Database.newPath, Database.addPath]

/-- An upload that the server misreads: it is acknowledged, and the lookup of
its path means what it meant before. -/
theorem TransferTask.exists_misread {task : TransferTask} {target : UploadTarget}
    (accepted : task.uploadTarget = .ok target)
    (user : task.session.1.userId.toNat < intLimit) {parent lookup : Lookup}
    (parentRuns : ∀ dialect database,
      Dialect.run dialect (statementText 1024
        (selectNodeText task.session.1.userId target.parentPath)) database =
      parent.reply dialect task.session.1.userId database)
    (parentRead : parent ≠ .unread)
    (runs : ∀ dialect database,
      Dialect.run dialect (statementText 1024
        (selectNodeText task.session.1.userId target.targetPath)) database =
      lookup.reply dialect task.session.1.userId database)
    (read : lookup ≠ .unread) (different : lookup ≠ parent)
    (free : parent ≠ .path target.targetPath) :
    ∃ before after, task.Acknowledged (.answering parent) before after ∧
      (lookup ≠ .path target.targetPath →
        lookup.reply (.answering parent) task.session.1.userId after =
          .rows []) := by
  obtain ⟨pathShort, nameShort, valid⟩ := uploadTarget_fits accepted
  obtain ⟨safe, short⟩ := isValidSha256Hex.safe valid
  obtain ⟨hash, isHash⟩ : ∃ hash, unhex target.sha256Hex = some hash :=
    ⟨_, if_pos valid⟩
  have inserted := Lookup.insertPath_works user free target.fileName
    ⟨1, hash, target.fileSize, 1⟩
  refine ⟨parent.database task.session.1.userId ⟨1, hash, target.fileSize, 0⟩, _,
    @acknowledged_of_link _ task target accepted _ _ 1 1 ?_ ?_ ?_
      (daoLinkExistingFile_works pathShort nameShort ?_ inserted),
    fun elsewhere => ?_⟩
  · exact (@daoPathGetNodeId_present _ _ _ _ 1 1 [] ((parentRuns _ _).trans
      (Lookup.parent_found parentRead _ _))).2 rfl
  · apply daoPathGetNodeId_absent
    rw [runs]
    exact Lookup.others_absent read different _ _ (List.append_nil _).symm (by simp)
  · apply daoFileFindByHash_present
    rw [Dialect.run_selectByHash _ safe short]
    simp [Dialect.execute, Lookup.database, isHash]
  · simp [Dialect.execute, updateRefs, Lookup.database, intLimit]
  · refine Lookup.others_absent read different _ _ rfl fun other listed => ?_
    rw [List.mem_singleton.mp listed]
    exact elsewhere

end Uploads

/-- The lookups find what an acknowledged upload has stored, on every server
that compares paths exactly, if and only if the path has no quote, has
backslashes only before wildcards, and is short enough for the metadata
query. -/
theorem lookups_find_upload_iff {task : TransferTask} {target : UploadTarget}
    (accepted : task.uploadTarget = .ok target)
    (admitted : ∃ dialect before after,
      task.Acknowledged dialect before after) :
    (∀ dialect before after, dialect.collate = id →
      task.Acknowledged dialect before after →
        FindsInserted dialect task.session.1.userId target.targetPath before
          after) ↔
      Sql.Verbatim target.targetPath ∧
        MetaFits task.session.1.userId target.targetPath := by
  constructor
  · intro finds
    obtain ⟨parent, parentRuns, parentBound⟩ := Lookup.exists_lookup
      task.session.1.userId target.parentPath
    obtain ⟨lookup, runs, bound⟩ := Lookup.exists_lookup task.session.1.userId
      target.targetPath
    have misread : ∃ before after,
        task.Acknowledged (.answering parent) before after ∧
        (lookup ≠ .path target.targetPath →
          lookup.reply (.answering parent) task.session.1.userId after =
            .rows []) := by
      obtain ⟨dialect, before, after, acknowledged⟩ := admitted
      obtain ⟨⟨cells, others, found⟩, absent, row, new⟩ :=
        acknowledged.inserted accepted
      rw [parentRuns] at found
      rw [runs] at absent
      refine task.exists_misread accepted new.user parentRuns ?_ runs ?_ ?_ ?_
      · rintro rfl
        cases found
      · rintro rfl
        cases absent
      · rintro rfl
        cases found.symm.trans absent
      · intro same
        have shorter := task.parentPath_shorter accepted
        have upper := (parentBound _ same).1
        omega
    obtain ⟨before, after, acknowledged, unfound⟩ := misread
    obtain ⟨row, -, ⟨node, metadata⟩⟩ := finds _ before after rfl acknowledged
    have isPath : lookup = .path target.targetPath := by
      by_contra elsewhere
      have absent := daoPathGetNodeId_absent ((runs _ after).trans (unfound elsewhere))
      rw [absent] at node
      cases node
    have verbatim := (bound _ isPath).2 rfl
    refine ⟨verbatim, ?_⟩
    by_contra cut
    obtain ⟨found, answered, -⟩ := metadata []
    rw [daoGetFileMeta_failed [] (Dialect.run_selectMeta_cut _ _ verbatim cut after)]
      at answered
    cases answered
  · rintro ⟨verbatim, fits⟩ dialect before after - acknowledged
    exact (acknowledged.inserted accepted).finds verbatim fits

/-- User 1 uploads a content of three bytes that is stored already. -/
def uploadStored (path : Bytes) : TransferTask :=
  Store.userTask (padTo 4096 path ++ hostToNet 3 ++ padTo 72 Store.someHash)

def storedTarget (path fileName : Bytes) : UploadTarget :=
  ⟨path, ascii "/", fileName, 3, Store.someHash⟩

/-- The content with one more path. -/
def storedAgain (path fileName : Bytes) : Database where
  tables :=
    { users := []
      files := [⟨1, Store.someHash, 3, 2⟩]
      paths := Store.oneFile.database.tables.paths ++
        [⟨3, 1, path, some 1, some 1, fileName, 0⟩] }
  counters := ⟨2, 2, 4⟩

set_option maxRecDepth 20000 in
theorem lookups_find_upload_of_g :
    (uploadStored (ascii "/g")).Acknowledged .plain Store.oneFile.database
        (storedAgain (ascii "/g") (ascii "g")) ∧
      FindsInserted .plain 1 (ascii "/g") Store.oneFile.database
        (storedAgain (ascii "/g") (ascii "g")) := by
  have accepted : (uploadStored (ascii "/g")).uploadTarget =
      .ok (storedTarget (ascii "/g") (ascii "g")) := by decide +kernel
  have acknowledged : (uploadStored (ascii "/g")).Acknowledged .plain
      Store.oneFile.database (storedAgain (ascii "/g") (ascii "g")) :=
    ⟨fun _ => .ordinary, by decide +kernel⟩
  have safe : Sql.Safe (ascii "/g") := by decide
  refine ⟨acknowledged, (lookups_find_upload_iff accepted
    ⟨_, _, _, acknowledged⟩).mpr ⟨safe.verbatim, ?_⟩ _ _ _ rfl acknowledged⟩
  decide +kernel

set_option maxRecDepth 20000 in
/-- The path is stored with its backslash and looked up without. -/
theorem backslash_is_not_found :
    (uploadStored (ascii "/a\\b")).uploadTarget =
        .ok (storedTarget (ascii "/a\\b") (ascii "a\\b")) ∧
      (uploadStored (ascii "/a\\b")).Acknowledged .plain Store.oneFile.database
        (storedAgain (ascii "/a\\b") (ascii "a\\b")) ∧
      ¬FindsInserted .plain 1 (ascii "/a\\b") Store.oneFile.database
        (storedAgain (ascii "/a\\b") (ascii "a\\b")) := by
  refine ⟨by decide +kernel, ⟨fun _ => .ordinary, by decide +kernel⟩, ?_⟩
  rintro ⟨row, -, node, -⟩
  have absent : (DbSession.call .plain (daoPathGetNodeId 1 (ascii "/a\\b"))
      noFaults (storedAgain (ascii "/a\\b") (ascii "a\\b"))).1 = (.notFound, 0) := by
    decide +kernel
  cases absent.symm.trans node

end CloudDrive
