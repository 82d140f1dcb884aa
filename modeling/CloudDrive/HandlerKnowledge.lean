import CloudDrive.HandlerCalls

/-!
# What a handler knows when it makes a call

A handler changes the database at most once, with the last call it makes to
it, and only after all calls before have succeeded.  The arguments of that call
come from what earlier calls have answered.  The ghost state `Known` records
those answers.
-/

namespace CloudDrive

structure Known where
  /-- The handler is one that removes directories. -/
  removes : Bool
  /-- A call to the database has failed or has changed the tables. -/
  settled : Bool
  /-- The paths that were found to be directories, with their numbers. -/
  directories : List (Bytes × UInt64)
  /-- The hashes that were found, with the numbers of their files. -/
  found : List (Bytes × UInt64)

namespace Known

def nothing : Known := ⟨true, false, [], []⟩

/-- The calls a handler may make.  The paths and names of directories have to
be free of quotes and backslashes, which the handlers do not check. -/
def Allows (known : Known) : TaskOp → Prop
  | .daoAuthRegister .. | .daoPathGetNodeId .. | .daoPathDirHasChild ..
  | .daoRmFile .. => known.settled = false
  | .daoPathInsertDir _ targetPath _ fileName =>
      known.settled = false ∧ Sql.Safe targetPath ∧ Sql.Safe fileName
  | .daoPathRmdir targetDirId =>
      known.settled = false ∧ known.removes = true ∧
        ∃ path, Sql.Safe path ∧ (path, targetDirId) ∈ known.directories
  | .daoFileFindByHash sha256Hex _ =>
      known.settled = false ∧ isValidSha256Hex sha256Hex = true
  | .daoLinkExistingFile _ targetPath _ fileName fileId =>
      known.settled = false ∧ targetPath.length < pathMax ∧
        fileName.length < nameMax ∧
        ∃ sha256Hex, (sha256Hex, fileId) ∈ known.found
  | .daoCreateFileWithPath _ targetPath _ fileName sha256Hex _ =>
      known.settled = false ∧ targetPath.length < pathMax ∧
        fileName.length < nameMax ∧ IsDigest sha256Hex
  | .daoAuthGetLoginInfo .. | .daoPathGetLsDir .. | .daoGetFileMeta .. => False
  | _ => True

def learn (known : Known) : (op : TaskOp) → op.Answer → Known
  | .daoPathGetNodeId _ path, (.isDir, pathId) =>
      { known with directories := (path, pathId) :: known.directories }
  | .daoPathGetNodeId .., (.dbError, _)
  | .daoPathGetNodeId .., (.badArg, _) => { known with settled := true }
  | .daoPathDirHasChild .., count =>
      { known with settled := known.settled || count < 0 }
  | .daoFileFindByHash sha256Hex _, (result, fileId) =>
      { known with
        settled := known.settled || result < 0
        found := if result = 1 then (sha256Hex, fileId) :: known.found
          else known.found }
  | .daoRmFile .., _ | .daoAuthRegister .., _ | .daoPathInsertDir .., _
  | .daoPathRmdir .., _ | .daoLinkExistingFile .., _
  | .daoCreateFileWithPath .., _ => { known with settled := true }
  | _, _ => known

end Known

/-- A handler keeps to the calls it may make. -/
abbrev Keeps {α : Type} (known : Known) (program : Handler α)
    (post : α → Known → Prop) : Prop :=
  program.Obeys Known.Allows Known.learn known post

theorem Known.followsState : FollowsState Known.Allows Known.learn where
  allows := by
    intro known op outside
    cases op <;> trivial
  keeps := by
    intro known op answer outside
    cases op <;> first | rfl | cases outside

namespace HandlerTask

variable {known : Known}

theorem handleRegister_keeps (task : HandlerTask) :
    Keeps .nothing task.handleRegister fun _ _ => True :=
  task.obeys_handleRegister Known.followsState fun _ _ _ _ => rfl

/-- The strings that `mkdir` and `rmdir` splice into their statements. -/
def Quotable (task : HandlerTask) : Prop :=
  Sql.Safe task.session.1.cwd ∧ Sql.Safe task.packet.payload

instance (task : HandlerTask) : Decidable task.Quotable :=
  inferInstanceAs (Decidable (_ ∧ _))

theorem safe_splitTarget {targetPath parentPath fileName : Bytes}
    (safe : Sql.Safe targetPath)
    (split : splitTarget targetPath = some (parentPath, fileName)) :
    Sql.Safe parentPath ∧ Sql.Safe fileName := by
  unfold splitTarget at split
  split at split
  · cases split
  · rename_i before name parts
    dsimp only at split
    split at split
    · cases split
    · simp only [Option.some.injEq, Prod.mk.injEq] at split
      obtain ⟨rfl, rfl⟩ := split
      constructor
      · intro byte inside
        rw [parentOf] at inside
        split at inside
        · rw [List.mem_singleton.mp inside]
          decide
        · exact safe byte (mem_splitAtLastSlash parts (Or.inl inside))
      · intro byte inside
        exact safe byte (mem_splitAtLastSlash parts
          (Or.inr (List.mem_of_mem_take inside)))

/-- The path of a request whose strings are safe. -/
theorem Quotable.path {task : HandlerTask} (safe : task.Quotable) {capacity : Nat}
    {requireNonempty : Bool} {payload path : Bytes}
    (copied : task.copyPayload capacity requireNonempty = some payload)
    (normalized : normalizeCdPath task.session.1.cwd payload pathMax = some path) :
    Sql.Safe path := by
  intro byte inside
  rcases mem_normalizeCdPath normalized inside with rfl | inCwd | inPayload
  · decide
  · exact safe.1 byte inCwd
  · refine safe.2 byte ?_
    unfold copyPayload at copied
    split at copied
    · cases copied
    · cases copied
      exact (List.takeWhile_sublist _).subset inPayload

theorem Quotable.directoryTarget {task : HandlerTask} (safe : task.Quotable)
    {targetPath parentPath fileName : Bytes}
    (target : task.directoryTarget = some (targetPath, parentPath, fileName)) :
    Sql.Safe targetPath ∧ Sql.Safe parentPath ∧ Sql.Safe fileName := by
  unfold HandlerTask.directoryTarget at target
  split at target
  · cases target
  rename_i payload copied
  split at target
  · cases target
  rename_i path normalized
  split at target
  · cases target
  split at target
  · cases target
  rename_i parent name parts
  simp only [Option.some.injEq, Prod.mk.injEq] at target
  obtain ⟨rfl, rfl, rfl⟩ := target
  have pathSafe := safe.path copied normalized
  exact ⟨pathSafe, safe_splitTarget pathSafe parts⟩

theorem handleMkdir_keeps {task : HandlerTask} (safe : task.Quotable) :
    Keeps .nothing task.handleMkdir fun _ _ => True :=
  task.obeys_handleMkdir Known.followsState fun _ _ _ target =>
    ⟨rfl, fun _ => ⟨rfl, (safe.directoryTarget target).1, (safe.directoryTarget target).2.2⟩⟩

theorem handleRmdir_keeps {task : HandlerTask} (safe : task.Quotable) :
    Keeps .nothing task.handleRmdir fun _ _ => True := by
  refine task.obeys_handleRmdir Known.followsState ?_
  intro targetPath parentPath fileName target
  refine ⟨rfl, fun targetDirId found isFound => ?_⟩
  subst isFound
  exact ⟨rfl, rfl, rfl, targetPath, (safe.directoryTarget target).1,
    List.mem_cons_self⟩

theorem handleRm_keeps (task : HandlerTask)
    (unsettled : known.settled = false) :
    Keeps known task.handleRm fun _ _ => True :=
  task.obeys_handleRm Known.followsState fun _ _ _ _ =>
    ⟨unsettled, fun _ => unsettled⟩

end HandlerTask

namespace TransferTask

open HandlerTask

variable {known : Known}

theorem uploadTarget_fits {task : TransferTask} {target : UploadTarget}
    (checked : task.uploadTarget = .ok target) :
    target.targetPath.length < pathMax ∧ target.fileName.length < nameMax ∧
      isValidSha256Hex target.sha256Hex = true := by
  unfold uploadTarget at checked
  split at checked
  · cases checked
  dsimp only at checked
  split at checked
  · cases checked
  rename_i valid
  split at checked
  · cases checked
  rename_i targetPath normalized
  split at checked
  · cases checked
  split at checked
  · cases checked
  split at checked
  · cases checked
  rename_i nameFits
  cases checked
  simp only [not_or, Bool.not_eq_true', Bool.not_eq_false] at valid nameFits
  exact ⟨length_normalizeCdPath (by decide) normalized,
    Nat.not_le.mp nameFits.2, valid.2.2.2⟩

theorem handlePuts_keeps (task : TransferTask)
    (unsettled : known.settled = false) :
    Keeps known task.handlePuts fun _ _ => True := by
  refine task.obeys_handlePuts Known.followsState fun target accepted => ?_
  obtain ⟨pathFits, nameFits, valid⟩ := uploadTarget_fits accepted
  refine ⟨unsettled, ?_⟩
  rintro parentId _ rfl
  refine ⟨unsettled, ?_⟩
  rintro pathId _ rfl
  refine ⟨⟨unsettled, valid⟩, ?_⟩
  rintro fileId found works _ rfl
  have stillUnsettled : (known.settled || decide (found < 0)) = false := by
    simpa [unsettled] using works
  refine ⟨?_, fun isDigest => ⟨stillUnsettled, pathFits, nameFits, isDigest⟩⟩
  rintro rfl
  exact ⟨stillUnsettled, pathFits, nameFits, target.sha256Hex, List.mem_cons_self⟩

end TransferTask

end CloudDrive
