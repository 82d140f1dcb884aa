import CloudDrive.DaoConsistency
import CloudDrive.HandlerKnowledge

/-!
# Handlers served one at a time

The environment of a handler when nothing else uses the database: a call to a
data access function runs its statements, any of which may fail; every other
call is answered as the environment likes.  A handler that keeps to the calls
it may make leaves a consistent database consistent.
-/

namespace CloudDrive

/-- What the environment decides about one call of a handler. -/
structure Choice where
  faults : Nat → Fault
  /-- The bytes that follow `sha256_hex` in an uninitialised `file_meta_t`. -/
  stale : Bytes
  answer : (op : TaskOp) → op.Answer

theorem fits_rootContext : SessionContext.Fits ⟨1, 1, ascii "a", ascii "/"⟩ := by
  decide

/-- Every call succeeds. -/
def Choice.ordinary : Choice where
  faults := fun _ => ⟨false, false⟩
  stale := []
  answer
    | .daoAuthRegister .. | .daoPathInsertDir .. | .daoPathDirHasChild ..
    | .daoPathRmdir .. | .daoLinkExistingFile .. | .daoCreateFileWithPath .. => 0
    | .daoAuthGetLoginInfo .. => (1, ⟨0, [], 0⟩)
    | .daoPathGetNodeId .. => (.notFound, 0)
    | .daoPathGetLsDir .. => (0, ⟨[], nil_fits⟩)
    | .daoRmFile .. => (.notFound, [])
    | .daoFileFindByHash .. => (0, 0)
    | .daoGetFileMeta .. => none
    | .sessionAuthorize .. => none
    | .sessionCreate .. => some .empty
    | .sessionUpdateCwd .. => true
    | .generateSalt => some (ascii "$6$salt")
    | .cryptR .. => some (ascii "$6$salt$hash")
    | .send .. | .sendHeader .. => true
    | .sendfile .. => none
    | .recv => none
    | .openFile .. => some 3
    | .fstat .. => some 0
    | .truncate .. | .lseek .. | .fsync .. => true
    | .write .. => none
    | .digest .. => none
    | .close .. => ()
    | .unlink .. | .objectExists .. | .trackAndPublish => true
    | .publish .. => .renamed

def performTask (dialect : Dialect) (choice : Choice) :
    (op : TaskOp) → Database → op.Answer × Database
  | .daoAuthRegister username passwordHash, database =>
      DbSession.call dialect (daoAuthRegister username passwordHash)
        choice.faults database
  | .daoAuthGetLoginInfo username, database =>
      DbSession.call dialect (daoAuthGetLoginInfo username) choice.faults
        database
  | .daoPathGetNodeId userId virtualPath, database =>
      DbSession.call dialect (daoPathGetNodeId userId virtualPath)
        choice.faults database
  | .daoPathInsertDir userId targetPath parentId fileName, database =>
      DbSession.call dialect
        (daoPathInsertDir userId targetPath parentId fileName) choice.faults
        database
  | .daoPathDirHasChild userId parentId, database =>
      DbSession.call dialect (daoPathDirHasChild userId parentId)
        choice.faults database
  | .daoPathRmdir targetDirId, database =>
      DbSession.call dialect (daoPathRmdir targetDirId) choice.faults database
  | .daoPathGetLsDir userId parentId, database =>
      DbSession.call dialect (daoPathGetLsDir userId parentId) choice.faults
        database
  | .daoRmFile userId pathId, database =>
      DbSession.call dialect (daoRmFile userId pathId) choice.faults database
  | .daoFileFindByHash sha256Hex fileSize, database =>
      DbSession.call dialect (daoFileFindByHash sha256Hex fileSize)
        choice.faults database
  | .daoLinkExistingFile userId targetPath parentId fileName fileId, database =>
      DbSession.call dialect
        (daoLinkExistingFile userId targetPath parentId fileName fileId)
        choice.faults database
  | .daoCreateFileWithPath userId targetPath parentId fileName sha256Hex
      fileSize, database =>
      DbSession.call dialect
        (daoCreateFileWithPath userId targetPath parentId fileName sha256Hex
          fileSize) choice.faults database
  | .daoGetFileMeta userId targetPath, database =>
      DbSession.call dialect (daoGetFileMeta choice.stale userId targetPath)
        choice.faults database
  | op, database => (choice.answer op, database)

/-- The calls to data access functions. -/
def TaskOp.isDao : TaskOp → Bool
  | .daoAuthRegister .. | .daoAuthGetLoginInfo .. | .daoPathGetNodeId ..
  | .daoPathInsertDir .. | .daoPathDirHasChild .. | .daoPathRmdir ..
  | .daoPathGetLsDir .. | .daoRmFile .. | .daoFileFindByHash ..
  | .daoLinkExistingFile .. | .daoCreateFileWithPath ..
  | .daoGetFileMeta .. => true
  | _ => false

/-- A data access function has reported a failure. -/
def reportsFailure : Prog.Exchange TaskOp.Answer → Bool
  | ⟨.daoAuthRegister .., result⟩ | ⟨.daoPathInsertDir .., result⟩
  | ⟨.daoPathRmdir .., result⟩ | ⟨.daoLinkExistingFile .., result⟩
  | ⟨.daoCreateFileWithPath .., result⟩ => result ≠ (0 : Int)
  | ⟨.daoPathGetNodeId .., (result, _)⟩ => result = .dbError || result = .badArg
  | ⟨.daoPathDirHasChild .., count⟩ => count < (0 : Int)
  | ⟨.daoPathGetLsDir .., (count, _)⟩ => count < (0 : Int)
  | ⟨.daoFileFindByHash .., (result, _)⟩ => result < (0 : Int)
  | ⟨.daoAuthGetLoginInfo .., (result, _)⟩ => result < (0 : Int)
  | ⟨.daoRmFile .., (status, _)⟩ =>
      status ≠ .ok && status ≠ .shouldDeletePhysical
  | ⟨.daoGetFileMeta .., some (status, _)⟩ => status = .dbError
  | _ => false

/-- The answer of `dao_rm_file`. -/
def rmAnswer : Prog.Exchange TaskOp.Answer → Option (DaoStatus × Bytes)
  | ⟨.daoRmFile .., answer⟩ => some answer
  | _ => none

theorem performTask_other {dialect : Dialect} {choice : Choice} {op : TaskOp}
    {database : Database} (other : op.isDao = false) :
    performTask dialect choice op database = (choice.answer op, database) := by
  cases op <;> first | rfl | cases other

theorem reportsFailure_other {op : TaskOp} (other : op.isDao = false)
    (answer : op.Answer) : reportsFailure ⟨op, answer⟩ = false := by
  cases op <;> first | rfl | cases other

theorem rmAnswer_other {op : TaskOp} (other : op.isDao = false)
    (answer : op.Answer) : rmAnswer ⟨op, answer⟩ = none := by
  cases op <;> first | rfl | cases other

theorem isValidSha256Hex.safe {text : Bytes}
    (valid : isValidSha256Hex text = true) :
    Sql.Safe text ∧ text.length ≤ 64 := by
  simp only [isValidSha256Hex, Bool.and_eq_true, decide_eq_true_eq,
    List.all_eq_true] at valid
  refine ⟨fun byte member => ?_, valid.1.le⟩
  have hex := valid.2 byte member
  constructor <;> rintro rfl <;> simp [isHexDigit, isDigit] at hex

namespace Known

theorem Allows.unsettled {known : Known} {op : TaskOp}
    (allowed : known.Allows op) (dao : op.isDao = true) :
    known.settled = false := by
  cases op
  all_goals first
    | exact allowed
    | exact allowed.1
    | exact allowed.elim
    | cases dao

theorem learn_settled {known : Known} (settled : known.settled = true)
    (op : TaskOp) (answer : op.Answer) :
    (known.learn op answer).settled = true := by
  unfold learn
  split <;> simp [settled]

@[simp]
theorem learn_removes (known : Known) (op : TaskOp) (answer : op.Answer) :
    (known.learn op answer).removes = known.removes := by
  unfold learn
  split <;> rfl

theorem learn_other (known : Known) {op : TaskOp} (other : op.isDao = false)
    (answer : op.Answer) :
    (known.learn op answer).settled = known.settled ∧
      (known.learn op answer).directories = known.directories ∧
      (known.learn op answer).found = known.found := by
  unfold learn
  split <;> first | exact ⟨rfl, rfl, rfl⟩ | cases other

/-- What is known about directories and files is true. -/
structure Holds (known : Known) (database : Database) : Prop where
  directories : ∀ path pathId, (path, pathId) ∈ known.directories →
    Sql.Safe path → ∃ row ∈ database.tables.paths,
      row.id = pathId ∧ row.type = 1
  found : ∀ sha256Hex fileId, (sha256Hex, fileId) ∈ known.found →
    ∃ file ∈ database.tables.files, file.id = fileId

theorem holds_nothing (database : Database) : nothing.Holds database :=
  ⟨fun _ _ none => absurd none List.not_mem_nil,
    fun _ _ none => absurd none List.not_mem_nil⟩

end Known

variable {dialect : Dialect}

/-- Nothing is asked of the database once it is settled. -/
theorem settled_frame {α : Type} {program : Handler α} {known : Known}
    (settled : known.settled = true)
    (keeps : Keeps known program fun _ _ => True) (choices : Nat → Choice)
    (database : Database) :
    (program.eval (performTask dialect) choices database).2 = database ∧
      ∀ exchange ∈ program.exchanges (performTask dialect) choices database,
        exchange.1.isDao = false := by
  induction program generalizing known choices with
  | done value => exact ⟨rfl, by simp [Prog.exchanges]⟩
  | call op next inductionHypothesis =>
      have other : op.isDao = false := by
        by_contra dao
        have := keeps.1.unsettled (Bool.of_not_eq_false dao)
        simp [settled] at this
      have rest := inductionHypothesis _ (Known.learn_settled settled op _)
        (keeps.2 ((choices 0).answer op)) fun index => choices (index + 1)
      rw [Prog.eval, Prog.exchanges, performTask_other other]
      refine ⟨rest.1, fun exchange member => ?_⟩
      rcases List.mem_cons.mp member with rfl | later
      · exact other
      · exact rest.2 exchange later

open DbSession in
/-- What serving a request does to the database. -/
structure Served (before after : Database)
    (log : List (Prog.Exchange TaskOp.Answer)) : Prop where
  consistent : after.Consistent
  failed : ∀ exchange ∈ log, reportsFailure exchange = true →
    after.tables = before.tables
  removed : ∀ exchange ∈ log, ∀ answer, rmAnswer exchange = some answer →
    ∀ hash, answer = (.shouldDeletePhysical, hash) ↔
      RemovesLast before after hash

namespace Served

variable {before after : Database} {log : List (Prog.Exchange TaskOp.Answer)}

theorem cons {op : TaskOp} {answer : op.Answer} (served : Served before after log)
    (failed : reportsFailure ⟨op, answer⟩ = true → after.tables = before.tables)
    (removed : ∀ removal, rmAnswer ⟨op, answer⟩ = some removal →
      ∀ hash, removal = (.shouldDeletePhysical, hash) ↔
        DbSession.RemovesLast before after hash) :
    Served before after (⟨op, answer⟩ :: log) where
  consistent := served.consistent
  failed := by
    intro exchange member
    rcases List.mem_cons.mp member with rfl | later
    · exact failed
    · exact served.failed exchange later
  removed := by
    intro exchange member
    rcases List.mem_cons.mp member with rfl | later
    · exact removed
    · exact served.removed exchange later

/-- A log without calls to the database says nothing about it. -/
theorem of_others (consistent : after.Consistent)
    (others : ∀ exchange ∈ log, exchange.1.isDao = false) :
    Served before after log where
  consistent := consistent
  failed := by
    rintro ⟨op, answer⟩ member reported
    rw [reportsFailure_other (others _ member)] at reported
    cases reported
  removed := by
    rintro ⟨op, answer⟩ member removal found
    rw [rmAnswer_other (others _ member)] at found
    cases found

end Served

/-- What one call of a handler does: it only tells the handler something, or it
is the last call to the database. -/
inductive StepOutcome (dialect : Dialect) (known : Known) (before : Database)
    (choice : Choice) (op : TaskOp) : Prop where
  | informs {answer : op.Answer}
      (performed : performTask dialect choice op before = (answer, before))
      (unsettled : (known.learn op answer).settled = false)
      (holds : (known.learn op answer).Holds before)
      (works : reportsFailure ⟨op, answer⟩ = false)
      (keepsPaths : rmAnswer ⟨op, answer⟩ = none)
  | settles {answer : op.Answer} {after : Database}
      (performed : performTask dialect choice op before = (answer, after))
      (settled : (known.learn op answer).settled = true)
      (consistent : after.Consistent)
      (failed : reportsFailure ⟨op, answer⟩ = true →
        after.tables = before.tables)
      (removed : ∀ removal, rmAnswer ⟨op, answer⟩ = some removal →
        ∀ hash, removal = (.shouldDeletePhysical, hash) ↔
          DbSession.RemovesLast before after hash)

section Steps

open DbSession

variable {known : Known} {before : Database} {choice : Choice}
  (consistent : before.Consistent)

include consistent

theorem stepOutcome_rmFile (userId pathId : UInt64) :
    StepOutcome dialect known before choice (.daoRmFile userId pathId) := by
  have outcome := (@daoRmFile_returns dialect before consistent.toSchema userId
    pathId).call choice.faults
  rcases called : call dialect (daoRmFile userId pathId) choice.faults before
    with ⟨⟨status, hash⟩, after⟩
  rw [called] at outcome
  refine .settles called ?_ (outcome.consistent consistent) ?_ ?_
  · cases status <;> rfl
  · intro reported
    cases outcome with
    | failed isReported kept => exact kept.tables
    | dropped => simp [reportsFailure] at reported
    | removed => simp [reportsFailure] at reported
  · rintro _ ⟨⟩
    exact outcome.reports consistent

theorem stepOutcome_register (username passwordHash : Bytes) :
    StepOutcome dialect known before choice
      (.daoAuthRegister username passwordHash) := by
  have outcome := (@daoAuthRegister_returns dialect before username
    passwordHash).call choice.faults
  rcases called : call dialect (daoAuthRegister username passwordHash)
    choice.faults before with ⟨value, after⟩
  rw [called] at outcome
  refine .settles called rfl (outcome.consistent consistent) ?_ nofun
  intro reported
  rcases outcome with ⟨-, kept⟩ | ⟨users, row, worked, -⟩
  · exact kept.tables
  · exact (of_decide_eq_true reported worked).elim

theorem stepOutcome_insertDir (userId : UInt64) {targetPath : Bytes}
    (pathSafe : Sql.Safe targetPath) (parentId : UInt64) {fileName : Bytes}
    (nameSafe : Sql.Safe fileName) :
    StepOutcome dialect known before choice
      (.daoPathInsertDir userId targetPath parentId fileName) := by
  have outcome := (@daoPathInsertDir_returns dialect before userId targetPath
    pathSafe parentId fileName nameSafe).call choice.faults
  rcases called : call dialect (daoPathInsertDir userId targetPath parentId
    fileName) choice.faults before with ⟨value, after⟩
  rw [called] at outcome
  refine .settles called rfl (outcome.consistent consistent) ?_ nofun
  intro reported
  rcases outcome with ⟨-, kept⟩ | ⟨row, worked, -⟩
  · exact kept.tables
  · exact (of_decide_eq_true reported worked).elim

theorem stepOutcome_rmdir {targetDirId : UInt64} {directory : PathRow}
    (listed : directory ∈ before.tables.paths)
    (named : directory.id = targetDirId) (isDirectory : directory.type = 1) :
    StepOutcome dialect known before choice (.daoPathRmdir targetDirId) := by
  have outcome := (@daoPathRmdir_returns dialect before targetDirId).call
    choice.faults
  rcases called : call dialect (daoPathRmdir targetDirId) choice.faults before
    with ⟨value, after⟩
  rw [called] at outcome
  refine .settles called rfl
    (outcome.consistent consistent listed named isDirectory) ?_ nofun
  intro reported
  rcases outcome with ⟨-, kept⟩ | ⟨worked, -⟩
  · exact kept.tables
  · exact (of_decide_eq_true reported worked).elim

theorem stepOutcome_link (userId : UInt64) {targetPath : Bytes}
    (pathFits : targetPath.length < pathMax) (parentId : UInt64)
    {fileName : Bytes} (nameFits : fileName.length < nameMax) {file : FileRow}
    (stored : file ∈ before.tables.files) :
    StepOutcome dialect known before choice
      (.daoLinkExistingFile userId targetPath parentId fileName file.id) := by
  have outcome := (@daoLinkExistingFile_returns dialect before userId targetPath
    pathFits parentId fileName nameFits file.id).call choice.faults
  rcases called : call dialect (daoLinkExistingFile userId targetPath parentId
    fileName file.id) choice.faults before with ⟨value, after⟩
  rw [called] at outcome
  refine .settles called rfl (outcome.consistent consistent stored) ?_ nofun
  intro reported
  rcases outcome with ⟨-, kept⟩ | ⟨row, worked, -⟩
  · exact kept.tables
  · exact (of_decide_eq_true reported worked).elim

theorem stepOutcome_create (userId : UInt64) {targetPath : Bytes}
    (pathFits : targetPath.length < pathMax) (parentId : UInt64)
    {fileName : Bytes} (nameFits : fileName.length < nameMax)
    {sha256Hex : Bytes} (isDigest : IsDigest sha256Hex) (fileSize : UInt64) :
    StepOutcome dialect known before choice
      (.daoCreateFileWithPath userId targetPath parentId fileName sha256Hex
        fileSize) := by
  obtain ⟨safe, short⟩ := isValidSha256Hex.safe isDigest.valid
  have outcome := (@daoCreateFileWithPath_returns dialect before userId
    targetPath pathFits parentId fileName nameFits sha256Hex safe short
    fileSize).call choice.faults
  rcases called : call dialect (daoCreateFileWithPath userId targetPath parentId
    fileName sha256Hex fileSize) choice.faults before with ⟨value, after⟩
  rw [called] at outcome
  refine .settles called rfl (outcome.consistent consistent) ?_ nofun
  intro reported
  cases outcome with
  | failed isReported kept => exact kept.tables
  | counted => simp [reportsFailure] at reported
  | created => simp [reportsFailure] at reported

/-- A failed query ends the calls to the database. -/
theorem stepOutcome_failed {op : TaskOp} {answer : op.Answer}
    (performed : performTask dialect choice op before = (answer, before))
    (settled : (known.learn op answer).settled = true)
    (keepsPaths : rmAnswer ⟨op, answer⟩ = none) :
    StepOutcome dialect known before choice op :=
  .settles performed settled consistent (fun _ => rfl)
    (fun removal found => by simp [keepsPaths] at found)

variable (unsettled : known.settled = false) (holds : known.Holds before)

include unsettled holds

theorem stepOutcome_getNodeId (userId : UInt64) (virtualPath : Bytes) :
    StepOutcome dialect known before choice
      (.daoPathGetNodeId userId virtualPath) := by
  have outcome := (@daoPathGetNodeId_returns dialect before consistent.toSchema
    userId virtualPath).call choice.faults
  rcases called : call dialect (daoPathGetNodeId userId virtualPath)
    choice.faults before with ⟨⟨result, pathId⟩, after⟩
  rw [called] at outcome
  obtain ⟨rfl, node⟩ := outcome
  cases result with
  | isDir =>
      refine .informs called unsettled ⟨?_, holds.found⟩ rfl rfl
      intro path otherId member safe
      rcases List.mem_cons.mp member with same | old
      · obtain ⟨rfl, rfl⟩ := Prod.mk.inj same
        obtain ⟨row, listed, sameId, -, directory⟩ := node safe
        exact ⟨row, listed, sameId, directory⟩
      · exact holds.directories path otherId old safe
  | isFile => exact .informs called unsettled holds rfl rfl
  | notFound => exact .informs called unsettled holds rfl rfl
  | dbError => exact stepOutcome_failed consistent called rfl rfl
  | badArg => exact stepOutcome_failed consistent called rfl rfl

theorem stepOutcome_dirHasChild (userId parentId : UInt64) :
    StepOutcome dialect known before choice
      (.daoPathDirHasChild userId parentId) := by
  have same := (@daoPathDirHasChild_returns dialect before userId
    parentId).call choice.faults
  rcases called : call dialect (daoPathDirHasChild userId parentId)
    choice.faults before with ⟨count, after⟩
  rw [called] at same
  obtain rfl : after = before := same
  by_cases failed : count < 0
  · exact stepOutcome_failed consistent called (by simp [Known.learn, failed]) rfl
  · refine .informs called ?_ ⟨holds.directories, holds.found⟩ ?_ rfl
    · simpa [Known.learn, unsettled] using failed
    · simpa [reportsFailure] using failed

theorem stepOutcome_findByHash {sha256Hex : Bytes}
    (valid : isValidSha256Hex sha256Hex = true) (fileSize : UInt64) :
    StepOutcome dialect known before choice
      (.daoFileFindByHash sha256Hex fileSize) := by
  obtain ⟨safe, short⟩ := isValidSha256Hex.safe valid
  have outcome := (@daoFileFindByHash_returns dialect before sha256Hex safe short
    fileSize).call choice.faults
  rcases called : call dialect (daoFileFindByHash sha256Hex fileSize)
    choice.faults before with ⟨⟨result, fileId⟩, after⟩
  rw [called] at outcome
  obtain ⟨rfl, found⟩ := outcome
  by_cases failed : result < 0
  · exact stepOutcome_failed consistent called (by simp [Known.learn, failed]) rfl
  · refine .informs called ?_ ⟨holds.directories, ?_⟩ ?_ rfl
    · simpa [Known.learn, unsettled] using failed
    · intro hash otherId member
      simp only [Known.learn] at member
      split at member
      · rename_i one
        rcases List.mem_cons.mp member with same | old
        · obtain ⟨rfl, rfl⟩ := Prod.mk.inj same
          obtain ⟨file, stored, sameId, -⟩ := found one
          exact ⟨file, stored, sameId⟩
        · exact holds.found hash otherId old
      · exact holds.found hash otherId member
    · simpa [reportsFailure] using failed

/-- Every call that a handler may make is answered. -/
theorem stepOutcome_of_allows {op : TaskOp} (allowed : known.Allows op) :
    StepOutcome dialect known before choice op := by
  by_cases dao : op.isDao = false
  · obtain ⟨settled, directories, found⟩ :=
      known.learn_other dao (choice.answer op)
    refine .informs (performTask_other dao) (settled.trans unsettled) ?_
      (reportsFailure_other dao _) (rmAnswer_other dao _)
    constructor
    · rw [directories]
      exact holds.directories
    · rw [found]
      exact holds.found
  cases op with
  | daoAuthRegister username passwordHash =>
      exact stepOutcome_register consistent username passwordHash
  | daoPathGetNodeId userId path =>
      exact stepOutcome_getNodeId consistent unsettled holds userId path
  | daoPathInsertDir userId path parentId name =>
      exact stepOutcome_insertDir consistent userId allowed.2.1 parentId
        allowed.2.2
  | daoPathDirHasChild userId parentId =>
      exact stepOutcome_dirHasChild consistent unsettled holds userId parentId
  | daoPathRmdir targetDirId =>
      obtain ⟨-, -, path, safe, known⟩ := allowed
      obtain ⟨row, listed, named, directory⟩ :=
        holds.directories path targetDirId known safe
      exact stepOutcome_rmdir consistent listed named directory
  | daoRmFile userId pathId =>
      exact stepOutcome_rmFile consistent userId pathId
  | daoFileFindByHash hash size =>
      exact stepOutcome_findByHash consistent unsettled holds allowed.2 size
  | daoLinkExistingFile userId path parentId name fileId =>
      obtain ⟨-, pathFits, nameFits, hash, known⟩ := allowed
      obtain ⟨file, stored, rfl⟩ := holds.found hash fileId known
      exact stepOutcome_link consistent userId pathFits parentId nameFits stored
  | daoCreateFileWithPath userId path parentId name hash size =>
      obtain ⟨-, pathFits, nameFits, isDigest⟩ := allowed
      exact stepOutcome_create consistent userId pathFits parentId nameFits
        isDigest size
  | daoAuthGetLoginInfo | daoPathGetLsDir | daoGetFileMeta =>
      exact allowed.elim
  | _ => exact (dao rfl).elim

end Steps

section Serve

variable {before : Database}

/-- A program that keeps to its calls serves a request. -/
theorem served_of_keeps (consistent : before.Consistent) {α : Type}
    {program : Handler α} {known : Known}
    (keeps : Keeps known program fun _ _ => True)
    (unsettled : known.settled = false) (holds : known.Holds before)
    (choices : Nat → Choice) :
    Served before (program.eval (performTask dialect) choices before).2
      (program.exchanges (performTask dialect) choices before) := by
  induction program generalizing known choices with
  | done value => exact .of_others consistent (by simp [Prog.exchanges])
  | call op next inductionHypothesis =>
      have outcome : StepOutcome dialect known before (choices 0) op :=
        stepOutcome_of_allows consistent unsettled holds keeps.1
      rw [Prog.eval, Prog.exchanges]
      cases outcome with
      | @informs answer performed unsettled holds works keepsPaths =>
          rw [performed]
          refine (inductionHypothesis answer (keeps.2 answer) unsettled holds
            _).cons ?_ ?_
          · simp [works]
          · simp [keepsPaths]
      | @settles answer after performed settled consistent failed removed =>
          rw [performed]
          obtain ⟨same, others⟩ := settled_frame settled (keeps.2 answer)
            (fun index => choices (index + 1)) after
          rw [same]
          exact (Served.of_others consistent others).cons failed removed

end Serve

end CloudDrive
