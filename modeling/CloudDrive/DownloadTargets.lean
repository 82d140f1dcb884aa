import CloudDrive.ClientTasks
import CloudDrive.PathResolution

/-!
# Where downloads are stored

A download is stored under the last component of its remote path in the
download directory.  The root has no last component: `basename` returns a slash
for it, which `join_path` takes for an absolute path.
-/

namespace CloudDrive

/-- The path of an entry of a directory. -/
def entryPath (directory name : Bytes) : Bytes :=
  if directory = [] ∨ directory.getLast? = some slash then directory ++ name
  else directory ++ slash :: name

/-- Both files of a download are entries of a directory. -/
def ClientTask.StoredIn (task : ClientTask) (directory : Bytes) : Prop :=
  ∃ name, IsComponent name ∧ task.targetPath = entryPath directory name ∧
    task.partPath = entryPath directory (name ++ partSuffix)

theorem basename_concat (before : Bytes) {name : Bytes} (nonempty : name ≠ [])
    (noSlash : slash ∉ name) : basename (before ++ slash :: name) = name := by
  have whole : ∀ byte ∈ name.reverse, decide (byte ≠ slash) = true := by
    intro byte inside
    rw [decide_eq_true_eq]
    rintro rfl
    exact noSlash (List.mem_reverse.mp inside)
  have untrimmed : (before ++ slash :: name).reverse.dropWhile (· = slash) =
      (before ++ slash :: name).reverse := by
    obtain ⟨front, last, rfl⟩ := List.eq_nil_or_concat' name |>.resolve_left nonempty
    have notSlash : last ≠ slash := by
      rintro rfl
      exact noSlash (by simp)
    simp [notSlash]
  rw [basename, if_neg (by simp), untrimmed, List.reverse_reverse, if_neg (by simp),
    List.reverse_append, List.reverse_cons, List.append_assoc,
    List.takeWhile_append_of_pos whole]
  simp

theorem entryPath_append (directory name suffix : Bytes) :
    entryPath directory (name ++ suffix) = entryPath directory name ++ suffix := by
  rw [entryPath, entryPath]
  split_ifs <;> simp

theorem joinPath_component {size : Nat} {directory name path : Bytes}
    (noSlash : slash ∉ name) (joined : joinPath size directory name = some path) :
    path = entryPath directory name := by
  have relative : name.head? ≠ some slash := fun isSlash =>
    noSlash (List.mem_of_mem_head? isSlash)
  have text : (if name.head? = some slash ∨ directory = [] then name
      else if directory.getLast? = some slash then directory ++ name
      else directory ++ slash :: name) = entryPath directory name := by
    rw [entryPath]
    by_cases empty : directory = []
    · simp [empty]
    · simp [empty, relative]
  rw [joinPath, text] at joined
  split_ifs at joined
  exact (Option.some.inj joined).symm

section Downloads

variable {manager after : TransferManager} {created : Bool} {runtime : ClientRuntime}
  {remotePath : CText} {task : ClientTask}

/-- The remote path is the place where the argument leads from the working
directory. -/
theorem ClientRuntime.Prepares.remotePath_eq
    (prepared : runtime.Prepares remotePath task) :
    task.remotePath = pathOf (PathWalk.destination
      (PathWalk.joined runtime.remoteCwd.1 remotePath.1)) := by
  have normalized := prepared.normalized
  rw [normalizeCdPath_eq _ _ (by decide)] at normalized
  split at normalized
  · rw [PathWalk.joined_eq, ← PathWalk.components_eq]
    exact (Option.some.inj normalized).symm
  · cases normalized

theorem storedIn_of_component (prepared : runtime.Prepares remotePath task)
    {parts : List Bytes} {name : Bytes} (component : IsComponent name)
    (path : task.remotePath = pathOf (parts ++ [name])) :
    task.StoredIn runtime.downloadDir.1 := by
  obtain ⟨baseName, named, joined⟩ := prepared.target
  rw [path, pathOf_concat, getBaseName,
    basename_concat _ component.nonempty component.noSlash] at named
  split_ifs at named
  cases named
  have target := joinPath_component component.noSlash joined
  refine ⟨name, component, target, ?_⟩
  rw [prepared.part, entryPath_append, target]

theorem not_storedIn_of_root (prepared : runtime.Prepares remotePath task)
    (path : task.remotePath = ascii "/") (directory : Bytes) :
    ¬task.StoredIn directory := by
  obtain ⟨baseName, named, joined⟩ := prepared.target
  rw [path, show getBaseName (ascii "/") nameMax = some (ascii "/") by decide] at named
  cases named
  have absolute : joinPath pathMax runtime.downloadDir.1 (ascii "/") =
      some (ascii "/") := by
    have isAbsolute : (ascii "/").head? = some slash := rfl
    rw [joinPath, if_pos (Or.inl isAbsolute)]
    rfl
  have target : task.targetPath = ascii "/" :=
    Option.some.inj (joined.symm.trans absolute)
  rintro ⟨name, component, stored, -⟩
  have short : (entryPath directory name).length = 1 := by
    rw [← stored, target]
    rfl
  have long := List.length_pos_of_ne_nil component.nonempty
  rw [entryPath] at short stored
  split_ifs at short stored
  · have empty : directory = [] := by
      rw [← List.length_eq_zero_iff]
      simp only [List.length_append] at short
      omega
    rw [empty, List.nil_append, target] at stored
    exact component.noSlash (stored ▸ List.mem_singleton_self slash)
  · simp only [List.length_append, List.length_cons] at short
    omega

/-- An accepted download is stored in the download directory, unless it names the
root. -/
theorem download_stored_in_downloadDir_iff
    (submitted : transferSubmitDownload manager created runtime remotePath =
      some (task, after)) :
    task.StoredIn runtime.downloadDir.1 ↔
      PathWalk.destination (PathWalk.joined runtime.remoteCwd.1 remotePath.1) ≠ [] := by
  obtain ⟨made, prepared, submitted⟩ := Option.bind_eq_some_iff.mp submitted
  obtain ⟨started, -, submitted⟩ := Option.bind_eq_some_iff.mp submitted
  cases submitted
  have prepares := ClientRuntime.prepares_downloadTask prepared
  have path := prepares.remotePath_eq
  have components : ∀ part ∈ PathWalk.destination
      (PathWalk.joined runtime.remoteCwd.1 remotePath.1), IsComponent part := by
    rw [← PathWalk.components_eq]
    exact isComponent_components _
  generalize PathWalk.destination _ = place at path components ⊢
  constructor
  · rintro stored rfl
    exact not_storedIn_of_root prepares path _ stored
  · intro below
    obtain ⟨parts, name, rfl⟩ := (List.eq_nil_or_concat' place).resolve_left below
    exact storedIn_of_component prepares (components name (by simp)) path

/-- The file `/d/a`. -/
theorem download_of_a_stored :
    ∃ task after,
      transferSubmitDownload ⟨[], 1, false⟩ true someRuntime ⟨ascii "a", by decide⟩ =
        some (task, after) ∧ task.StoredIn (ascii "downloads") := by
  refine ⟨_, _, rfl, ?_⟩
  exact (download_stored_in_downloadDir_iff (show transferSubmitDownload ⟨[], 1, false⟩
    true someRuntime ⟨ascii "a", by decide⟩ = some (_, _) from rfl)).mpr
    (by decide +kernel)

/-- A download of the root goes to the root of the client. -/
theorem download_of_root_stored_outside :
    ∃ task after,
      transferSubmitDownload ⟨[], 1, false⟩ true someRuntime ⟨ascii "/", by decide⟩ =
        some (task, after) ∧
      task.targetPath = ascii "/" ∧ task.partPath = ascii "/.part" ∧
      ¬task.StoredIn (ascii "downloads") := by
  refine ⟨_, _, rfl, by decide +kernel, by decide +kernel, ?_⟩
  have prepared := @ClientRuntime.prepares_downloadTask someRuntime
    ⟨ascii "/", by decide⟩ _ rfl
  exact not_storedIn_of_root prepared rfl _

end Downloads

end CloudDrive
