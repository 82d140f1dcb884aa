import CloudDrive.CanonicalPaths
import CloudDrive.TransferHandlers

/-!
# Transfers of the client

How `transfer.c` of the client prepares and admits a transfer: the session is
copied, the paths are computed and a worker is started.  The remote path of a
task is the path the server will compute from its first packet, whatever has
become of the working directory of the session.
-/

namespace CloudDrive

/-- A C string. -/
abbrev CText := { text : Bytes // 0 ∉ text }

/-- The empty string. -/
def CText.empty : CText := ⟨[], by simp⟩

/-- `utils_get_base_name`. -/
def getBaseName (path : Bytes) (length : Nat) : Option Bytes :=
  if path = [] ∨ pathMax ≤ path.length then none
  else if basename path = [] ∨ length ≤ (basename path).length then none
  else some (basename path)

/-- `utils_expand_local_path`, where `home` is the value of `HOME`. -/
def expandLocalPath (home : Option CText) (path : Bytes) (outSize : Nat) :
    Option Bytes :=
  let expanded :=
    if path = ascii "~" ∨ path.take 2 = ascii "~/" then
      match home with
      | none => none
      | some home => if home.1 = [] then none else some (home.1 ++ path.drop 1)
    else some path
  expanded.filter fun text => text.length < outSize

/-- `join_path`. -/
def joinPath (dstSize : Nat) (baseDir path : Bytes) : Option Bytes :=
  let joined :=
    if path.head? = some slash ∨ baseDir = [] then path
    else if baseDir.getLast? = some slash then baseDir ++ path
    else baseDir ++ slash :: path
  if dstSize ≤ joined.length then none else some joined

/-- What a transfer reads of `client_runtime_t`. -/
structure ClientRuntime where
  sessionId : SessionId
  username : CText
  remoteCwd : CText
  downloadDir : CText

/-- `client_runtime_session_snapshot`. -/
def ClientRuntime.sessionSnapshot (runtime : ClientRuntime) :
    Option (SessionId × CText) :=
  if runtime.sessionId.isEmpty ∨ 64 ≤ runtime.username.1.length ∨
      pathMax ≤ runtime.remoteCwd.1.length then none
  else some (runtime.sessionId, runtime.remoteCwd)

inductive TransferKind where
  | upload | download
deriving DecidableEq

/-- The `transfer_task_t` of the client, as far as its worker reads it. -/
structure ClientTask where
  kind : TransferKind
  sessionId : SessionId
  localPath : Bytes
  remotePath : Bytes
  targetPath : Bytes
  partPath : Bytes
deriving DecidableEq

/-- `transfer_manager_t`. -/
structure TransferManager where
  active : List ClientTask
  maxConcurrent : Nat
  stopping : Bool

/-- The suffix of a partial download. -/
def partSuffix : Bytes := ascii ".part"

/-- `start_task`; `created` says whether the thread could be created. -/
def TransferManager.startTask (manager : TransferManager) (created : Bool)
    (task : ClientTask) : Option TransferManager :=
  if manager.stopping ∨ manager.maxConcurrent ≤ manager.active.length then none
  else if task.kind = .download ∧ ∃ other ∈ manager.active,
      other.kind = .download ∧ other.targetPath = task.targetPath then none
  else if created then some { manager with active := task :: manager.active }
  else none

/-- The task of an upload. -/
def ClientRuntime.uploadTask (runtime : ClientRuntime) (home : Option CText)
    (localPath : CText) : Option ClientTask :=
  if localPath.1 = [] then none
  else do
    let (sessionId, cwd) ← runtime.sessionSnapshot
    let expanded ← expandLocalPath home localPath.1 pathMax
    let baseName ← getBaseName expanded nameMax
    let remotePath ← normalizeCdPath cwd.1 baseName pathMax
    some
      { kind := .upload, sessionId, remotePath
        localPath := expanded, targetPath := [], partPath := [] }

/-- The task of a download. -/
def ClientRuntime.downloadTask (runtime : ClientRuntime)
    (remotePath : CText) : Option ClientTask :=
  if remotePath.1 = [] ∨ pathMax ≤ runtime.downloadDir.1.length then none
  else do
    let (sessionId, cwd) ← runtime.sessionSnapshot
    let normalized ← normalizeCdPath cwd.1 remotePath.1 pathMax
    let baseName ← getBaseName normalized nameMax
    let targetPath ← joinPath pathMax runtime.downloadDir.1 baseName
    if pathMax < targetPath.length + partSuffix.length + 1 then none
    else
      some
        { kind := .download, sessionId, targetPath
          localPath := [], remotePath := normalized
          partPath := targetPath ++ partSuffix }

def transferSubmitUpload (manager : TransferManager) (created : Bool)
    (runtime : ClientRuntime) (home : Option CText) (localPath : CText) :
    Option (ClientTask × TransferManager) := do
  let task ← runtime.uploadTask home localPath
  let manager ← manager.startTask created task
  some (task, manager)

def transferSubmitDownload (manager : TransferManager) (created : Bool)
    (runtime : ClientRuntime) (remotePath : CText) :
    Option (ClientTask × TransferManager) := do
  let task ← runtime.downloadTask remotePath
  let manager ← manager.startTask created task
  some (task, manager)

/-- The bytes of the `upload_request_payload_t` of an upload. -/
def UploadRequest.payload (request : UploadRequest) : Bytes :=
  padTo 4096 request.remotePath ++ hostToNet request.fileSize ++
    padTo 72 request.sha256Hex

/-- The first packet of an upload. -/
def ClientTask.putsRequest (task : ClientTask) (fileSize : UInt64)
    (sha256Hex : Bytes) : Packet :=
  Packet.init .putsReq .ok task.sessionId
    (UploadRequest.payload ⟨task.remotePath, fileSize, sha256Hex⟩)

/-- The first packet of a download. -/
def ClientTask.getsRequest (task : ClientTask) : Packet :=
  Packet.init .getsReq .ok task.sessionId task.remotePath

section Requests

theorem cString_padTo {text : Bytes} (noNul : 0 ∉ text) (size : Nat) :
    cString (padTo size text) = text := by
  have whole : ∀ byte ∈ text, decide (byte ≠ 0) = true := by
    intro byte inside
    rw [decide_eq_true_eq]
    rintro rfl
    exact noNul inside
  rw [cString, padTo, List.takeWhile_append_of_pos whole]
  rcases size - text.length with _ | more
  · simp
  · simp [List.replicate_succ]

@[simp]
theorem length_padTo {size : Nat} {text : Bytes} (fits : text.length ≤ size) :
    (padTo size text).length = size := by
  simp only [padTo, List.length_append, List.length_replicate]
  omega

theorem zero_mem_padTo {size : Nat} {text : Bytes} (fits : text.length < size) :
    0 ∈ padTo size text :=
  List.mem_append_right _ (List.mem_replicate.mpr ⟨by omega, rfl⟩)

/-- The server reads the request the client has written. -/
theorem UploadRequest.read_payload {request : UploadRequest}
    (pathFits : request.remotePath.length < pathMax)
    (hashFits : request.sha256Hex.length = 64) :
    UploadRequest.read request.payload =
      some
        { remotePath := padTo 4096 request.remotePath
          fileSize := request.fileSize
          sha256Hex := padTo 65 request.sha256Hex } := by
  have path : (padTo 4096 request.remotePath).length = 4096 :=
    length_padTo (Nat.le_of_lt pathFits)
  have hash : (padTo 72 request.sha256Hex).length = 72 :=
    length_padTo (by omega)
  have shorter : (padTo 72 request.sha256Hex).take 65 =
      padTo 65 request.sha256Hex := by
    rw [padTo, padTo, hashFits, List.take_append, hashFits,
      List.take_of_length_le (by omega), List.take_replicate]
    rfl
  have size : request.payload.length = 4176 := by
    simp only [UploadRequest.payload, List.length_append, path, hash,
      length_hostToNet]
  rw [UploadRequest.read, if_neg (by simp [size]), UploadRequest.payload,
    List.append_assoc, pathMax, List.take_left' path, List.drop_left' path,
    List.take_left' (length_hostToNet _), netToHost_hostToNet,
    show 4104 = 4096 + 8 from rfl, ← List.drop_drop, List.drop_left' path,
    List.drop_left' (length_hostToNet _), shorter]

theorem mem_basename {path : Bytes} {byte : UInt8}
    (inside : byte ∈ basename path) : byte ∈ path ∨ byte = 46 ∨ byte = slash := by
  rw [basename] at inside
  split_ifs at inside
  · exact Or.inr (Or.inl (List.mem_singleton.mp inside))
  dsimp only at inside
  split_ifs at inside
  · exact Or.inr (Or.inr (List.mem_singleton.mp inside))
  · have kept := (List.takeWhile_sublist _).subset (List.mem_reverse.mp inside)
    rw [List.mem_reverse, List.mem_reverse] at kept
    exact Or.inl (List.mem_reverse.mp ((List.dropWhile_sublist _).subset kept))

theorem noNul_expandLocalPath {home : Option CText} {path : CText} {outSize : Nat}
    {expanded : Bytes}
    (expands : expandLocalPath home path.1 outSize = some expanded) :
    0 ∉ expanded := by
  obtain ⟨path, noNul⟩ := path
  unfold expandLocalPath at expands
  rw [Option.filter_eq_some_iff] at expands
  obtain ⟨computed, -⟩ := expands
  split_ifs at computed
  · split at computed
    · cases computed
    · rename_i home
      split_ifs at computed
      cases computed
      rw [List.mem_append, not_or]
      exact ⟨home.2, fun inside => noNul (List.mem_of_mem_drop inside)⟩
  · cases computed
    exact noNul

theorem noNul_getBaseName {path baseName : Bytes} {length : Nat}
    (named : getBaseName path length = some baseName) (noNul : 0 ∉ path) :
    0 ∉ baseName := by
  rw [getBaseName] at named
  split_ifs at named
  cases named
  intro inside
  rcases mem_basename inside with inPath | isDot | isSlash
  · exact noNul inPath
  · cases isDot
  · cases isSlash

theorem noNul_normalizeCdPath {cwd argument path : Bytes} {outSize : Nat}
    (normalized : normalizeCdPath cwd argument outSize = some path)
    (cwdNoNul : 0 ∉ cwd) (argumentNoNul : 0 ∉ argument) : 0 ∉ path := by
  intro inside
  rcases mem_normalizeCdPath normalized inside with isSlash | inCwd | inArgument
  · cases isSlash
  · exact cwdNoNul inCwd
  · exact argumentNoNul inArgument

end Requests

/-- A remote path that was normalised when the task was made. -/
structure ClientTask.Snapshot (task : ClientTask) : Prop where
  canonical : IsCanonical task.remotePath
  fits : task.remotePath.length < pathMax
  noNul : 0 ∉ task.remotePath

theorem ClientTask.snapshot_of_normalized {task : ClientTask} {cwd argument : Bytes}
    (normalized : normalizeCdPath cwd argument pathMax = some task.remotePath)
    (cwdNoNul : 0 ∉ cwd) (argumentNoNul : 0 ∉ argument) : task.Snapshot where
  canonical := isCanonical_normalizeCdPath (by decide) normalized
  fits := length_normalizeCdPath (by decide) normalized
  noNul := noNul_normalizeCdPath normalized cwdNoNul argumentNoNul

theorem ClientRuntime.snapshot_uploadTask {runtime : ClientRuntime}
    {home : Option CText} {localPath : CText} {task : ClientTask}
    (made : runtime.uploadTask home localPath = some task) : task.Snapshot := by
  rw [uploadTask] at made
  split_ifs at made
  obtain ⟨⟨sessionId, cwd⟩, -, made⟩ := Option.bind_eq_some_iff.mp made
  obtain ⟨expanded, expands, made⟩ := Option.bind_eq_some_iff.mp made
  obtain ⟨baseName, named, made⟩ := Option.bind_eq_some_iff.mp made
  obtain ⟨remotePath, normalized, made⟩ := Option.bind_eq_some_iff.mp made
  cases made
  exact ClientTask.snapshot_of_normalized normalized cwd.2
    (noNul_getBaseName named (noNul_expandLocalPath expands))

/-- What the task of a download is made of. -/
structure ClientRuntime.Prepares (runtime : ClientRuntime) (remotePath : CText)
    (task : ClientTask) : Prop where
  normalized : normalizeCdPath runtime.remoteCwd.1 remotePath.1 pathMax =
    some task.remotePath
  target : ∃ baseName, getBaseName task.remotePath nameMax = some baseName ∧
    joinPath pathMax runtime.downloadDir.1 baseName = some task.targetPath
  part : task.partPath = task.targetPath ++ partSuffix
  isDownload : task.kind = .download

theorem ClientRuntime.prepares_downloadTask {runtime : ClientRuntime}
    {remotePath : CText} {task : ClientTask}
    (made : runtime.downloadTask remotePath = some task) :
    runtime.Prepares remotePath task := by
  rw [downloadTask] at made
  split_ifs at made
  obtain ⟨⟨sessionId, cwd⟩, copied, made⟩ := Option.bind_eq_some_iff.mp made
  obtain ⟨normalizedPath, normalized, made⟩ := Option.bind_eq_some_iff.mp made
  obtain ⟨baseName, named, made⟩ := Option.bind_eq_some_iff.mp made
  obtain ⟨targetPath, joined, made⟩ := Option.bind_eq_some_iff.mp made
  split_ifs at made
  cases made
  rw [sessionSnapshot] at copied
  split_ifs at copied
  cases copied
  exact ⟨normalized, ⟨baseName, named, joined⟩, rfl, rfl⟩

theorem ClientRuntime.snapshot_downloadTask {runtime : ClientRuntime}
    {remotePath : CText} {task : ClientTask}
    (made : runtime.downloadTask remotePath = some task) : task.Snapshot :=
  ClientTask.snapshot_of_normalized (prepares_downloadTask made).normalized
    runtime.remoteCwd.2 remotePath.2

/-- The server computes the remote path of the client from an upload request. -/
theorem ClientTask.Snapshot.putsTargetPath {task : ClientTask}
    (snapshot : task.Snapshot) {server : TransferTask} {fileSize : UInt64}
    {sha256Hex : Bytes} (isDigest : IsDigest sha256Hex)
    (received : server.packet = task.putsRequest fileSize sha256Hex) :
    server.putsTargetPath = some task.remotePath := by
  have valid := isDigest.valid
  have hexadecimal := valid
  simp only [isValidSha256Hex, Bool.and_eq_true, decide_eq_true_eq,
    List.all_eq_true] at hexadecimal
  have noNul : 0 ∉ sha256Hex := fun inside =>
    absurd (hexadecimal.2 0 inside) (by decide)
  have head : (padTo 4096 task.remotePath).head? = some slash := by
    obtain ⟨parts, -, path⟩ := snapshot.canonical
    rw [padTo, path, List.head?_append, head_pathOf]
    rfl
  rw [TransferTask.putsTargetPath, received, ClientTask.putsRequest, Packet.init,
    UploadRequest.read_payload snapshot.fits hexadecimal.1]
  dsimp only
  rw [cString_padTo noNul, cString_padTo snapshot.noNul, if_neg]
  · exact snapshot.canonical.normalizeCdPath snapshot.fits _
  · simp [head, valid, zero_mem_padTo (show sha256Hex.length < 65 by omega),
      zero_mem_padTo (show task.remotePath.length < 4096 from snapshot.fits)]

/-- The server computes the remote path of the client from a download request,
in every working directory. -/
theorem ClientTask.Snapshot.getsTargetPath {task : ClientTask}
    (snapshot : task.Snapshot) {server : TransferTask}
    (received : server.packet = task.getsRequest) :
    server.getsTargetPath = some task.remotePath := by
  have nonempty : task.remotePath ≠ [] := by
    obtain ⟨parts, -, path⟩ := snapshot.canonical
    rw [path]
    intro empty
    simpa [empty] using head_pathOf parts
  rw [TransferTask.getsTargetPath, HandlerTask.copyPayload, received,
    ClientTask.getsRequest, Packet.init, if_neg]
  · dsimp only
    rw [cString_of_noNul snapshot.noNul]
    exact snapshot.canonical.normalizeCdPath snapshot.fits _
  · simp [nonempty, snapshot.fits]

/-- Whatever directory the session has changed to since the submission, the
server computes the path the client has computed. -/
theorem submitted_path_is_target_path :
    (∀ (manager after : TransferManager) (created : Bool)
        (runtime : ClientRuntime) (home : Option CText) (localPath : CText)
        (task : ClientTask) (server : TransferTask) (fileSize : UInt64)
        (digest : { sha256Hex : Bytes // IsDigest sha256Hex }),
      transferSubmitUpload manager created runtime home localPath =
        some (task, after) →
      server.packet = task.putsRequest fileSize digest.1 →
      server.putsTargetPath = some task.remotePath) ∧
    ∀ (manager after : TransferManager) (created : Bool)
        (runtime : ClientRuntime) (remotePath : CText) (task : ClientTask)
        (server : TransferTask),
      transferSubmitDownload manager created runtime remotePath =
        some (task, after) →
      server.packet = task.getsRequest →
      server.getsTargetPath = some task.remotePath := by
  constructor
  · intro manager after created runtime home localPath task server fileSize digest
      submitted received
    obtain ⟨made, prepared, submitted⟩ := Option.bind_eq_some_iff.mp submitted
    obtain ⟨started, -, submitted⟩ := Option.bind_eq_some_iff.mp submitted
    cases submitted
    exact (ClientRuntime.snapshot_uploadTask prepared).putsTargetPath digest.2
      received
  · intro manager after created runtime remotePath task server submitted received
    obtain ⟨made, prepared, submitted⟩ := Option.bind_eq_some_iff.mp submitted
    obtain ⟨started, -, submitted⟩ := Option.bind_eq_some_iff.mp submitted
    cases submitted
    exact (ClientRuntime.snapshot_downloadTask prepared).getsTargetPath received

/-- A session of the client in the directory `/d`. -/
def someRuntime : ClientRuntime where
  sessionId := ⟨Vector.replicate 16 1⟩
  username := ⟨ascii "u", by decide⟩
  remoteCwd := ⟨ascii "/d", by decide⟩
  downloadDir := ⟨ascii "downloads", by decide⟩

/-- The file `a` of the directory `/d`, asked for after `cd /e`. -/
theorem submitted_path_is_target_path_after_cd :
    ∃ task after,
      transferSubmitDownload ⟨[], 1, false⟩ true someRuntime
        ⟨ascii "a", by decide⟩ = some (task, after) ∧
      task.remotePath = ascii "/d/a" ∧
      TransferTask.getsTargetPath
          { packet := task.getsRequest
            session := ⟨⟨1, 1, ascii "u", ascii "/e"⟩, by decide⟩
            transferTempDir := []
            storageRoot := [] } = some (ascii "/d/a") := by
  refine ⟨_, _, rfl, by decide +kernel, ?_⟩
  exact submitted_path_is_target_path.2 ⟨[], 1, false⟩ _ true someRuntime
    ⟨ascii "a", by decide⟩ _ _ rfl rfl

end CloudDrive
