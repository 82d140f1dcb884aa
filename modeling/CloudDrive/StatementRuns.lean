import CloudDrive.Database
import CloudDrive.DaoPrograms
import Mathlib.Tactic.IntervalCases

/-!
# What the statement texts mean

Each text that a data access function sends runs the statement it was written
for, if the texts spliced in between quotes are safe.  A text that does not fit
its buffer is cut by `snprintf`, and what is left of it is an error in most
places.
-/

namespace CloudDrive

open Sql (Part)

/-- How much a spliced text may add. -/
def spliceLength : Part → Nat
  | .text _ | .number _ => 0
  | .raw bytes => bytes.length
  | .escaped bytes => 2 * bytes.length

theorem length_render_part (part : Part) :
    part.render.length ≤ frameLength part + spliceLength part := by
  cases part with
  | text bytes => exact Nat.le_refl _
  | number value => exact length_decimal value
  | raw bytes =>
      simp only [Part.render, frameLength, spliceLength, List.length_cons,
        List.length_append, List.length_nil]
      omega
  | escaped bytes =>
      have bound := Sql.length_escape bytes
      simp only [Part.render, frameLength, spliceLength, List.length_cons,
        List.length_append, List.length_nil]
      omega

theorem length_render_sample {parts sample : List Part}
    (shape : List.Forall₂ Part.SameShape parts sample) :
    (Sql.render parts).length ≤
      (sample.map frameLength).sum + (parts.map spliceLength).sum := by
  induction shape with
  | nil => exact Nat.le_refl _
  | @cons part other parts others same _ inductionHypothesis =>
      have frame : frameLength part = frameLength other := by
        cases part <;> cases other <;> simp_all [Part.SameShape, frameLength]
      have bound := length_render_part part
      rw [Sql.render] at inductionHypothesis ⊢
      simp only [List.flatMap_cons, List.length_append, List.map_cons,
        List.sum_cons]
      omega

/-- Without what is spliced in, a statement has at most 250 bytes. -/
theorem length_render {statement : Statement} {parts sample : List Part}
    (listed : (statement, sample) ∈ statementSamples)
    (shape : List.Forall₂ Part.SameShape parts sample) :
    (Sql.render parts).length ≤ 250 + (parts.map spliceLength).sum := by
  have bound := length_render_sample shape
  have frame := frameLength_sample listed
  omega

/-- The metadata query keeps its meaning in its buffer: with its limit, or cut
before or after the blank in front of it. -/
def MetaFits (userId : UInt64) (targetPath : Bytes) : Prop :=
  let length := (decimal userId).length + targetPath.length
  length < 848 ∨ length = 854 ∨ length = 855

instance (userId : UInt64) (targetPath : Bytes) :
    Decidable (MetaFits userId targetPath) :=
  inferInstanceAs (Decidable (_ ∨ _))

namespace Dialect

variable (dialect : Dialect)

/-- A statement of the table, with or without a blank at its end. -/
theorem run_render (statement : Statement) (sample : List Part)
    {parts : List Part}
    (listed : (statement, sample) ∈ statementSamples)
    (shape : List.Forall₂ Part.SameShape parts sample)
    (clean : ∀ part ∈ parts, part.Clean) (database : Database) :
    dialect.run (Sql.render parts) database =
        dialect.execute database statement (Sql.paramsOf parts) ∧
      dialect.run (Sql.render parts ++ [32]) database =
        dialect.execute database statement (Sql.paramsOf parts) := by
  obtain ⟨read, recognized⟩ := recognize_statement listed shape clean
  have joined := wellJoined_sample listed
  rw [← Sql.wellJoined_sameShape shape] at joined
  rw [run, run, Sql.readTokens_blank clean joined, read]
  simp only [recognized, and_self]

/-- A statement whose text fits its buffer. -/
theorem run_statement (statement : Statement) (sample : List Part)
    {parts : List Part} {size : Nat}
    (listed : (statement, sample) ∈ statementSamples)
    (shape : List.Forall₂ Part.SameShape parts sample)
    (clean : ∀ part ∈ parts, part.Clean)
    (fits : (Sql.render parts).length < size) (database : Database) :
    dialect.run (statementText size parts) database =
      dialect.execute database statement (Sql.paramsOf parts) := by
  rw [statementText, snprintf_of_fits fits]
  exact (dialect.run_render statement sample listed shape clean database).1

/-- A statement whose parameters are numbers. -/
theorem run_numbers (statement : Statement) (sample : List Part)
    {parts : List Part} {size : Nat} (room : 250 < size)
    (listed : (statement, sample) ∈ statementSamples)
    (shape : List.Forall₂ Part.SameShape parts sample)
    (numbers : ∀ part ∈ parts, part.Clean ∧ spliceLength part = 0)
    (database : Database) :
    dialect.run (statementText size parts) database =
      dialect.execute database statement (Sql.paramsOf parts) := by
  apply dialect.run_statement statement sample listed shape
    fun part member => (numbers part member).1
  have bound := length_render listed shape
  have zero : (parts.map spliceLength).sum = 0 := by
    rw [List.sum_eq_zero_iff_forall_eq_nat]
    intro length member
    obtain ⟨part, inside, rfl⟩ := List.mem_map.mp member
    exact (numbers part inside).2
  omega

theorem run_startTransaction (database : Database) :
    dialect.run (statementText 1024 startTransactionText) database =
      dialect.execute database .startTransaction [] :=
  dialect.run_numbers .startTransaction startTransactionText (by decide)
    (by simp [statementSamples]) (by simp [startTransactionText, Part.SameShape])
    (by simp [startTransactionText, Part.Clean, spliceLength]) database

theorem run_commit (database : Database) :
    dialect.run (statementText 1024 commitText) database =
      dialect.execute database .commit [] :=
  dialect.run_numbers .commit commitText (by decide)
    (by simp [statementSamples]) (by simp [commitText, Part.SameShape])
    (by simp [commitText, Part.Clean, spliceLength]) database

theorem run_rollback (database : Database) :
    dialect.run (statementText 1024 rollbackText) database =
      dialect.execute database .rollback [] :=
  dialect.run_numbers .rollback rollbackText (by decide)
    (by simp [statementSamples]) (by simp [rollbackText, Part.SameShape])
    (by simp [rollbackText, Part.Clean, spliceLength]) database

theorem run_selectChildren (userId parentId : UInt64) (database : Database) :
    dialect.run (statementText 1024 (selectChildrenText userId parentId)) database =
      dialect.execute database .selectChildren [.number userId.toNat, .number parentId.toNat] :=
  dialect.run_numbers .selectChildren (selectChildrenText 0 0) (by decide)
    (by simp [statementSamples]) (by simp [selectChildrenText, Part.SameShape])
    (by simp [selectChildrenText, Part.Clean, spliceLength]) database

theorem run_deletePath (targetDirId : UInt64) (database : Database) :
    dialect.run (statementText 1024 (deletePathText targetDirId)) database =
      dialect.execute database .deletePath [.number targetDirId.toNat] :=
  dialect.run_numbers .deletePath (deletePathText 0) (by decide)
    (by simp [statementSamples]) (by simp [deletePathText, Part.SameShape])
    (by simp [deletePathText, Part.Clean, spliceLength]) database

theorem run_selectFileId (pathId userId : UInt64) (database : Database) :
    dialect.run (statementText 1024 (selectFileIdText pathId userId)) database =
      dialect.execute database .selectFileId [.number pathId.toNat, .number userId.toNat] :=
  dialect.run_numbers .selectFileId (selectFileIdText 0 0) (by decide)
    (by simp [statementSamples]) (by simp [selectFileIdText, Part.SameShape])
    (by simp [selectFileIdText, Part.Clean, spliceLength]) database

theorem run_deleteFilePath (pathId userId : UInt64) (database : Database) :
    dialect.run (statementText 1024 (deleteFilePathText pathId userId)) database =
      dialect.execute database .deleteFilePath [.number pathId.toNat, .number userId.toNat] :=
  dialect.run_numbers .deleteFilePath (deleteFilePathText 0 0) (by decide)
    (by simp [statementSamples]) (by simp [deleteFilePathText, Part.SameShape])
    (by simp [deleteFilePathText, Part.Clean, spliceLength]) database

theorem run_decrementRefs (fileId : UInt64) (database : Database) :
    dialect.run (statementText 1024 (decrementRefsText fileId)) database =
      dialect.execute database .decrementRefs [.number fileId.toNat] :=
  dialect.run_numbers .decrementRefs (decrementRefsText 0) (by decide)
    (by simp [statementSamples]) (by simp [decrementRefsText, Part.SameShape])
    (by simp [decrementRefsText, Part.Clean, spliceLength]) database

theorem run_selectRefs (fileId : UInt64) (database : Database) :
    dialect.run (statementText 1024 (selectRefsText fileId)) database =
      dialect.execute database .selectRefs [.number fileId.toNat] :=
  dialect.run_numbers .selectRefs (selectRefsText 0) (by decide)
    (by simp [statementSamples]) (by simp [selectRefsText, Part.SameShape])
    (by simp [selectRefsText, Part.Clean, spliceLength]) database

theorem run_deleteUnreferenced (fileId : UInt64) (database : Database) :
    dialect.run (statementText 1024 (deleteUnreferencedText fileId)) database =
      dialect.execute database .deleteUnreferenced [.number fileId.toNat] :=
  dialect.run_numbers .deleteUnreferenced (deleteUnreferencedText 0) (by decide)
    (by simp [statementSamples]) (by simp [deleteUnreferencedText, Part.SameShape])
    (by simp [deleteUnreferencedText, Part.Clean, spliceLength]) database

theorem run_insertRoot (userId : UInt64) (database : Database) :
    dialect.run (statementText 1024 (insertRootText userId)) database =
      dialect.execute database .insertRoot [.number userId.toNat] :=
  dialect.run_numbers .insertRoot (insertRootText 0) (by decide)
    (by simp [statementSamples]) (by simp [insertRootText, insertPathsText, Part.SameShape])
    (by simp [insertRootText, insertPathsText, Part.Clean, spliceLength]) database

theorem run_incrementRefs (fileId : UInt64) (database : Database) :
    dialect.run (statementText 10240 (incrementRefsText fileId)) database =
      dialect.execute database .incrementRefs [.number fileId.toNat] :=
  dialect.run_numbers .incrementRefs (incrementRefsText 0) (by decide)
    (by simp [statementSamples]) (by simp [incrementRefsText, Part.SameShape])
    (by simp [incrementRefsText, Part.Clean, spliceLength]) database

theorem run_selectByHash {sha256Hex : Bytes} (safe : Sql.Safe sha256Hex)
    (short : sha256Hex.length ≤ 64) (fileSize : UInt64) (database : Database) :
    dialect.run (statementText 1024 (selectByHashText sha256Hex fileSize))
        database =
      dialect.execute database .selectByHash
        [.text sha256Hex, .number fileSize.toNat] := by
  have listed : (Statement.selectByHash, selectByHashText [] 0) ∈
      statementSamples := by simp [statementSamples]
  have shape : List.Forall₂ Part.SameShape (selectByHashText sha256Hex fileSize)
      (selectByHashText [] 0) := by simp [selectByHashText, Part.SameShape]
  have bound := length_render listed shape
  apply dialect.run_statement _ _ listed shape
  · simpa [selectByHashText, Part.Clean] using safe.verbatim
  · simp only [selectByHashText, spliceLength, List.map_cons, List.map_nil,
      List.sum_cons, List.sum_nil] at bound
    rw [selectByHashText]
    omega

theorem run_insertFile {sha256Hex : Bytes} (safe : Sql.Safe sha256Hex)
    (short : sha256Hex.length ≤ 64) (fileSize : UInt64) (database : Database) :
    dialect.run (statementText 10240 (insertFileText sha256Hex fileSize))
        database =
      dialect.execute database .insertFile
        [.text sha256Hex, .number fileSize.toNat] := by
  have listed : (Statement.insertFile, insertFileText [] 0) ∈
      statementSamples := by simp [statementSamples]
  have shape : List.Forall₂ Part.SameShape (insertFileText sha256Hex fileSize)
      (insertFileText [] 0) := by simp [insertFileText, Part.SameShape]
  have bound := length_render listed shape
  apply dialect.run_statement _ _ listed shape
  · simpa [insertFileText, Part.Clean] using safe.verbatim
  · simp only [insertFileText, spliceLength, List.map_cons, List.map_nil,
      List.sum_cons, List.sum_nil] at bound
    rw [insertFileText]
    omega

/-- The escaped texts of the largest path and name fit. -/
theorem run_insertFilePath (userId : UInt64) {targetPath : Bytes}
    (pathShort : targetPath.length < pathMax) (fileId parentId : UInt64)
    {fileName : Bytes} (nameShort : fileName.length < nameMax)
    (database : Database) :
    dialect.run (statementText 10240
        (insertFilePathText userId targetPath fileId parentId fileName))
        database =
      dialect.execute database .insertFilePath
        [.number userId.toNat, .text targetPath, .number fileId.toNat,
          .number parentId.toNat, .text fileName] := by
  have listed : (Statement.insertFilePath, insertFilePathText 0 [] 0 0 []) ∈
      statementSamples := by simp [statementSamples]
  have shape : List.Forall₂ Part.SameShape
      (insertFilePathText userId targetPath fileId parentId fileName)
      (insertFilePathText 0 [] 0 0 []) := by
    simp [insertFilePathText, insertPathsText, Part.SameShape]
  have bound := length_render listed shape
  apply dialect.run_statement _ _ listed shape
  · simp [insertFilePathText, insertPathsText, Part.Clean]
  · simp only [insertFilePathText, insertPathsText, spliceLength, List.cons_append,
      List.nil_append, List.map_cons, List.map_nil, List.sum_cons,
      List.sum_nil] at bound
    simp only [insertFilePathText, insertPathsText, List.cons_append,
      List.nil_append, pathMax, nameMax] at pathShort nameShort ⊢
    omega

/-- The insertion of a user whose name and hash mean themselves. -/
theorem run_insertUser_safe {username passwordHash : Bytes}
    (nameSafe : Sql.Safe username) (hashSafe : Sql.Safe passwordHash)
    (short : username.length + passwordHash.length < 750) (database : Database) :
    dialect.run (statementText 1024 (insertUserText username passwordHash))
        database =
      dialect.execute database .insertUser [.text username, .text passwordHash] := by
  have listed : (Statement.insertUser, insertUserText [] []) ∈
      statementSamples := by simp [statementSamples]
  have shape : List.Forall₂ Part.SameShape (insertUserText username passwordHash)
      (insertUserText [] []) := by simp [insertUserText, Part.SameShape]
  have bound := length_render listed shape
  apply dialect.run_statement _ _ listed shape
  · simpa [insertUserText, Part.Clean] using ⟨nameSafe.verbatim, hashSafe.verbatim⟩
  · simp only [insertUserText, spliceLength, List.map_cons, List.map_nil,
      List.sum_cons, List.sum_nil] at bound
    rw [insertUserText]
    omega

theorem run_selectLogin {username : Bytes} (safe : Sql.Safe username)
    (short : username.length < 750) (database : Database) :
    dialect.run (statementText 1024 (selectLoginText username)) database =
      dialect.execute database .selectLogin [.text username] := by
  have listed : (Statement.selectLogin, selectLoginText []) ∈
      statementSamples := by simp [statementSamples]
  have shape : List.Forall₂ Part.SameShape (selectLoginText username)
      (selectLoginText []) := by simp [selectLoginText, Part.SameShape]
  have bound := length_render listed shape
  apply dialect.run_statement _ _ listed shape
  · simpa [selectLoginText, Part.Clean] using safe.verbatim
  · simp only [selectLoginText, spliceLength, List.map_cons, List.map_nil,
      List.sum_cons, List.sum_nil] at bound
    rw [selectLoginText]
    omega

theorem run_unread {text : Bytes} (unread : Sql.readTokens text = none)
    (database : Database) :
    dialect.run text database = .failed false database.counters := by
  rw [run, unread]

section Cuts

variable {front sample : List Part}
  (shape : List.Forall₂ Part.SameShape front sample)
  (clean : ∀ part ∈ front, part.Clean)
  (joined : Sql.wellJoined false sample = true)
  {size : Nat}

include shape clean joined

/-- A text whose buffer ends inside a literal. -/
theorem unread_cutLiteral (closed : Sql.pendingAfter false sample = false)
    {bytes after : Bytes} (verbatim : Sql.Verbatim bytes)
    (begun : (Sql.render front).length + 1 < size)
    (cut : size ≤ (Sql.render front).length + bytes.length + 2) :
    Sql.readTokens
      (snprintf size (Sql.render front ++ 39 :: (bytes ++ after))) = none := by
  obtain ⟨room, enough⟩ : ∃ room, size - 1 - (Sql.render front).length = room + 1 :=
    ⟨size - 2 - (Sql.render front).length, by omega⟩
  rw [snprintf, List.take_append, List.take_of_length_le (by omega), enough,
    List.take_succ_cons, List.take_append_of_le_length (by omega)]
  rw [← Sql.wellJoined_sameShape shape] at joined
  rw [← Sql.pendingAfter_sameShape shape] at closed
  exact Sql.readTokens_cutLiteral clean joined closed verbatim room

end Cuts

/-- The lookup of a path whose text is cut inside the path. -/
theorem unread_selectNode (userId : UInt64) {virtualPath : Bytes}
    (verbatim : Sql.Verbatim virtualPath)
    (cut : ¬(Sql.render (selectNodeText userId virtualPath)).length < 1024) :
    Sql.readTokens (statementText 1024 (selectNodeText userId virtualPath)) =
      none := by
  let front (userId : UInt64) : List Part :=
    [.text (ascii "SELECT id, type FROM paths WHERE user_id = "),
      .number userId, .text (ascii " AND path = ")]
  have shape : List.Forall₂ Part.SameShape (front userId) (front 0) := by
    simp [front, Part.SameShape]
  have text : Sql.render (selectNodeText userId virtualPath) =
      Sql.render (front userId) ++ 39 :: (virtualPath ++ [39]) := by
    simp [Sql.render, selectNodeText, front, Part.render]
  have short : (Sql.render (front userId)).length ≤ 100 :=
    Nat.le_trans (length_render_sample shape) (by
      simp only [front, List.map_cons, List.map_nil, spliceLength,
        List.sum_cons, List.sum_nil]
      decide +kernel)
  rw [text] at cut
  simp only [List.length_append, List.length_cons, List.length_nil] at cut
  rw [statementText, text]
  exact unread_cutLiteral shape (by simp [front, Part.Clean])
    (by decide +kernel) (by decide +kernel) verbatim (by omega) (by omega)

theorem run_selectNode_fits (userId : UInt64) {virtualPath : Bytes}
    (verbatim : Sql.Verbatim virtualPath)
    (fits : (Sql.render (selectNodeText userId virtualPath)).length < 1024)
    (database : Database) :
    dialect.run (statementText 1024 (selectNodeText userId virtualPath)) database =
      dialect.execute database .selectNode
        [.number userId.toNat, .text virtualPath] := by
  apply dialect.run_statement .selectNode (selectNodeText 0 [])
    (by simp [statementSamples]) (by simp [selectNodeText, Part.SameShape]) ?_
    fits
  simpa [selectNodeText, Part.Clean] using verbatim

/-- The lookup of a path runs, or its text is cut inside the path. -/
theorem run_selectNode (userId : UInt64) {virtualPath : Bytes}
    (verbatim : Sql.Verbatim virtualPath) :
    (∀ database,
      dialect.run (statementText 1024 (selectNodeText userId virtualPath))
        database = .failed false database.counters) ∨
    ∀ database,
      dialect.run (statementText 1024 (selectNodeText userId virtualPath))
        database =
      dialect.execute database .selectNode
        [.number userId.toNat, .text virtualPath] := by
  by_cases fits : (Sql.render (selectNodeText userId virtualPath)).length < 1024
  · exact Or.inr (dialect.run_selectNode_fits userId verbatim fits)
  · exact Or.inl (dialect.run_unread (unread_selectNode userId verbatim fits))

/-- The insertion of a directory whose text is cut before the last
parenthesis. -/
theorem unread_insertDirectory (userId : UInt64) {targetPath : Bytes}
    (pathSafe : Sql.Safe targetPath) (parentId : UInt64) {fileName : Bytes}
    (nameSafe : Sql.Safe fileName)
    (cut : ¬(Sql.render
      (insertDirectoryText userId targetPath parentId fileName)).length < 1024) :
    Sql.readTokens (statementText 1024
      (insertDirectoryText userId targetPath parentId fileName)) = none := by
  let rest (userId : UInt64) (targetPath : Bytes) (parentId : UInt64)
      (fileName : Bytes) : List Part :=
    [.number userId, .text (ascii ", "), .raw targetPath,
      .text (ascii ", NULL, "), .number parentId, .text (ascii ", "),
      .raw fileName, .text (ascii ", 1")]
  have shape : List.Forall₂ Part.SameShape
      (insertPathsText ++ rest userId targetPath parentId fileName)
      (insertPathsText ++ rest 0 [] 0 []) := by
    simp [rest, insertPathsText, Part.SameShape]
  have text : Sql.render
      (insertDirectoryText userId targetPath parentId fileName) =
      Sql.render (insertPathsText ++ rest userId targetPath parentId fileName) ++
        [41] := by
    have ending : ascii ", 1)" = ascii ", 1" ++ [41] := by decide
    simp [Sql.render, insertDirectoryText, rest, Part.render, ending]
  have front : (Sql.render insertPathsText).length ≤ 1023 := by decide +kernel
  rw [text, List.length_append, List.length_singleton] at cut
  rw [statementText, text, snprintf, List.take_append_of_le_length (by omega)]
  refine Sql.readTokens_cut ?_ ?_ (by decide +kernel) ?_ front (by omega)
  · simpa [rest, insertPathsText, Part.Clean] using ⟨pathSafe.verbatim, nameSafe.verbatim⟩
  · rw [Sql.wellJoined_sameShape shape]
    decide +kernel
  · simp only [rest, List.forall_mem_cons, Part.Open, List.not_mem_nil,
      false_implies, implies_true, and_true, true_and]
    decide +kernel

theorem run_insertDirectory_fits (userId : UInt64) {targetPath : Bytes}
    (pathSafe : Sql.Safe targetPath) (parentId : UInt64) {fileName : Bytes}
    (nameSafe : Sql.Safe fileName)
    (fits : (Sql.render
      (insertDirectoryText userId targetPath parentId fileName)).length < 1024)
    (database : Database) :
    dialect.run (statementText 1024
        (insertDirectoryText userId targetPath parentId fileName)) database =
      dialect.execute database .insertDirectory
        [.number userId.toNat, .text targetPath, .number parentId.toNat,
          .text fileName] := by
  apply dialect.run_statement .insertDirectory (insertDirectoryText 0 [] 0 [])
    (by simp [statementSamples])
    (by simp [insertDirectoryText, insertPathsText, Part.SameShape]) ?_ fits
  simpa [insertDirectoryText, insertPathsText, Part.Clean] using
    ⟨pathSafe.verbatim, nameSafe.verbatim⟩

theorem run_selectMetaCut (userId : UInt64) {targetPath : Bytes}
    (verbatim : Sql.Verbatim targetPath) (ending : Bytes)
    (listed : (Statement.selectMetaCut, selectMetaText 0 [] ++ [.text ending]) ∈
      statementSamples) (database : Database) :
    dialect.run (Sql.render (selectMetaText userId targetPath) ++ ending)
        database = .failed false database.counters ∧
      dialect.run (Sql.render (selectMetaText userId targetPath) ++ ending ++ [32])
        database = .failed false database.counters := by
  have text : Sql.render (selectMetaText userId targetPath ++ [.text ending]) =
      Sql.render (selectMetaText userId targetPath) ++ ending := by
    rw [Sql.render_append]
    simp [Sql.render, Part.render]
  rw [← text]
  apply dialect.run_render .selectMetaCut _ listed
  · simp [selectMetaText, Part.SameShape]
  · simpa [selectMetaText, Part.Clean] using verbatim

theorem unread_selectMeta (userId : UInt64) {targetPath : Bytes}
    (verbatim : Sql.Verbatim targetPath)
    (cut : 1024 ≤ (Sql.render (selectMetaText userId targetPath)).length)
    (after : Bytes) :
    Sql.readTokens (snprintf 1024
      (Sql.render (selectMetaText userId targetPath) ++ after)) = none := by
  let front (userId : UInt64) : List Part := (selectMetaText userId []).dropLast
  have shape : List.Forall₂ Part.SameShape (front userId) (front 0) := by
    simp [front, selectMetaText, Part.SameShape]
  have whole : Sql.render (selectMetaText userId targetPath) =
      Sql.render (front userId) ++ 39 :: (targetPath ++ [39]) := by
    simp [Sql.render, selectMetaText, front, Part.render]
  have short : (Sql.render (front userId)).length ≤ 250 :=
    Nat.le_trans (length_render_sample shape) (by
      simp only [front, selectMetaText, List.dropLast_cons_cons,
        List.dropLast_singleton, List.map_cons, List.map_nil, spliceLength,
        List.sum_cons, List.sum_nil]
      decide +kernel)
  rw [whole] at cut
  simp only [List.length_append, List.length_cons, List.length_nil] at cut
  rw [whole, List.append_assoc, List.cons_append, List.append_assoc]
  exact unread_cutLiteral shape (by simp [front, selectMetaText, Part.Clean])
    (by decide +kernel) (by decide +kernel) verbatim (by omega) (by omega)

theorem length_selectMetaText (userId : UInt64) (targetPath : Bytes) :
    (Sql.render (selectMetaText userId targetPath)).length =
      168 + (decimal userId).length + targetPath.length := by
  have front : (Sql.render ((selectMetaText 0 []).take 4)).length = 152 := by
    decide +kernel
  have middle : (ascii " AND p.path = ").length = 14 := by decide
  simp only [Sql.render, selectMetaText, List.take, List.flatMap_cons,
    List.flatMap_nil, List.append_nil, Part.render, List.length_append,
    List.length_cons, List.length_nil] at front ⊢
  omega

theorem selectMetaLimitText_eq (userId : UInt64) (targetPath : Bytes) :
    Sql.render (selectMetaLimitText userId targetPath) =
      Sql.render (selectMetaText userId targetPath) ++ ascii " LIMIT 1" := by
  rw [selectMetaLimitText, Sql.render_append]
  simp [Sql.render, Part.render]

/-- What is left of the limit if the path is read as a whole. -/
theorem statementText_cutLimit (userId : UInt64) {targetPath : Bytes}
    (whole : (Sql.render (selectMetaText userId targetPath)).length < 1024) :
    statementText 1024 (selectMetaLimitText userId targetPath) =
      Sql.render (selectMetaText userId targetPath) ++ (ascii " LIMIT 1").take
        (1023 - (Sql.render (selectMetaText userId targetPath)).length) := by
  rw [statementText, selectMetaLimitText_eq, snprintf, List.take_append,
    List.take_of_length_le (by omega)]

section Meta

variable (userId : UInt64) {targetPath : Bytes}
  (verbatim : Sql.Verbatim targetPath)

include verbatim

theorem run_selectMetaLimit
    (fits : (Sql.render (selectMetaLimitText userId targetPath)).length < 1024)
    (database : Database) :
    dialect.run (statementText 1024 (selectMetaLimitText userId targetPath))
        database =
      dialect.execute database .selectMetaLimit
        [.number userId.toNat, .text targetPath] := by
  apply dialect.run_statement .selectMetaLimit (selectMetaLimitText 0 [])
    (by simp [statementSamples])
    (by simp [selectMetaLimitText, selectMetaText, Part.SameShape])
  · simpa [selectMetaLimitText, selectMetaText, Part.Clean] using verbatim
  · exact fits

/-- The metadata query runs with its limit or without it. -/
theorem run_selectMeta (fits : MetaFits userId targetPath)
    (database : Database) :
    dialect.run (statementText 1024 (selectMetaLimitText userId targetPath))
        database =
      dialect.execute database .selectMeta
        [.number userId.toNat, .text targetPath] ∨
    dialect.run (statementText 1024 (selectMetaLimitText userId targetPath))
        database =
      dialect.execute database .selectMetaLimit
        [.number userId.toNat, .text targetPath] := by
  have length := length_selectMetaText userId targetPath
  have complete := dialect.run_render .selectMeta (selectMetaText 0 [])
    (by simp [statementSamples])
    (show List.Forall₂ Part.SameShape (selectMetaText userId targetPath) _ by
      simp [selectMetaText, Part.SameShape])
    (by simpa [selectMetaText, Part.Clean] using verbatim) database
  rcases fits with short | blank | cut
  · refine Or.inr (dialect.run_selectMetaLimit userId verbatim ?_ database)
    have limit : (ascii " LIMIT 1").length = 8 := by decide
    rw [selectMetaLimitText_eq, List.length_append]
    omega
  · refine Or.inl ?_
    have kept : 1023 - (Sql.render (selectMetaText userId targetPath)).length = 1 := by
      omega
    rw [statementText_cutLimit userId (by omega), kept]
    exact complete.2
  · refine Or.inl ?_
    have kept : 1023 - (Sql.render (selectMetaText userId targetPath)).length = 0 := by
      omega
    rw [statementText_cutLimit userId (by omega), kept, List.take_zero,
      List.append_nil]
    exact complete.1

/-- Otherwise its text is cut in a place that makes it an error. -/
theorem run_selectMeta_cut (cut : ¬MetaFits userId targetPath)
    (database : Database) :
    dialect.run (statementText 1024 (selectMetaLimitText userId targetPath))
      database = .failed false database.counters := by
  have length := length_selectMetaText userId targetPath
  rw [MetaFits] at cut
  by_cases cutPath : 1024 ≤ (Sql.render (selectMetaText userId targetPath)).length
  · refine dialect.run_unread ?_ database
    rw [statementText, selectMetaLimitText_eq]
    exact unread_selectMeta userId verbatim cutPath _
  have cutLimit := dialect.run_selectMetaCut userId verbatim
  rw [statementText_cutLimit userId (by omega)]
  obtain ⟨kept, some_, few, remaining⟩ : ∃ kept, 2 ≤ kept ∧ kept < 8 ∧
      1023 - (Sql.render (selectMetaText userId targetPath)).length = kept :=
    ⟨_, by omega, by omega, rfl⟩
  rw [remaining]
  interval_cases kept
  · exact (cutLimit (ascii " L") (by simp [statementSamples]) database).1
  · exact (cutLimit (ascii " LI") (by simp [statementSamples]) database).1
  · exact (cutLimit (ascii " LIM") (by simp [statementSamples]) database).1
  · exact (cutLimit (ascii " LIMI") (by simp [statementSamples]) database).1
  · exact (cutLimit (ascii " LIMIT") (by simp [statementSamples]) database).1
  · have blank : (ascii " LIMIT 1").take 7 = ascii " LIMIT" ++ [32] := by decide
    rw [blank, ← List.append_assoc]
    exact (cutLimit (ascii " LIMIT") (by simp [statementSamples]) database).2

end Meta

theorem execute_reads {statement : Statement} (reads : statement.selects = true)
    (database : Database) (params : List Sql.Param) :
    (dialect.execute database statement params).Reads database := by
  unfold execute
  split <;> trivial

/-- A text that begins as a query reads, whatever is spliced into it. -/
theorem run_reads {text : Bytes}
    (select : ∀ tokens, Sql.readTokens text = some tokens →
      [.word (ascii "SELECT")] <+: tokens) (database : Database) :
    (dialect.run text database).Reads database := by
  rw [run]
  cases read : Sql.readTokens text with
  | none => rfl
  | some tokens =>
      have begins := select tokens read
      dsimp only
      cases recognized : Sql.recognize statementPatterns tokens with
      | none =>
          apply dialect.select_reads
          obtain ⟨rest, rfl⟩ := begins
          rfl
      | some found =>
          obtain ⟨sample, listed, fits⟩ := recognize_sample begins recognized
          exact dialect.execute_reads (selects_sample listed fits) database _

/-- The tokens of a statement begin with those of its first text. -/
theorem begins_text {bytes : Bytes} (closed : Sql.endsInWord bytes = some false)
    {rest : List Part} {size : Nat} (room : bytes.length < size)
    {tokens : List Sql.Token}
    (read : Sql.readTokens (statementText size (.text bytes :: rest)) =
      some tokens) : (Part.text bytes).tokens <+: tokens := by
  have text : statementText size (.text bytes :: rest) =
      bytes ++ (Sql.render rest).take (size - 1 - bytes.length) := by
    rw [statementText, snprintf, Sql.render, List.flatMap_cons, Part.render,
      List.take_append, List.take_of_length_le (by omega), Sql.render]
  rw [text] at read
  refine Sql.readTokens_begins ?_ read
  have alone := Sql.LexState.lexFrom_text
    (show Sql.LexState.Ready ⟨.between, []⟩ false from rfl) rfl closed
  obtain ⟨mode, settled⟩ := alone
  generalize Sql.lexFrom ⟨.between, []⟩ bytes = state at mode settled ⊢
  obtain ⟨stateMode, stateTokens⟩ := state
  obtain rfl : stateMode = .between := mode
  simpa [Sql.LexState.settle] using settled

theorem run_selectNode_reads (userId : UInt64) (virtualPath : Bytes)
    (database : Database) :
    (dialect.run (statementText 1024 (selectNodeText userId virtualPath))
      database).Reads database := by
  apply dialect.run_reads
  intro tokens read
  refine List.IsPrefix.trans ?_
    (begins_text (by decide +kernel) (by decide +kernel) read)
  decide +kernel

theorem execute_insertUser (database : Database) (params : List Sql.Param) :
    (dialect.execute database .insertUser params).ChangesUsers database := by
  unfold execute
  split
  all_goals first
    | trivial
    | unfold insertUser
      dsimp only
      split_ifs <;> constructor <;> rfl

/-- An insertion of a user changes only the users, whatever is spliced into
it. -/
theorem run_insertUser (username passwordHash : Bytes) (database : Database) :
    (dialect.run (statementText 1024 (insertUserText username passwordHash))
      database).ChangesUsers database := by
  rw [run]
  cases read : Sql.readTokens
      (statementText 1024 (insertUserText username passwordHash)) with
  | none => exact ⟨rfl, rfl⟩
  | some tokens =>
      have begins : [.word (ascii "INSERT"), .word (ascii "INTO"),
          .word (ascii "users")] <+: tokens := by
        refine List.IsPrefix.trans ?_
          (begins_text (by decide +kernel) (by decide +kernel) read)
        decide +kernel
      dsimp only
      cases recognized : Sql.recognize statementPatterns tokens with
      | none =>
          apply dialect.insert_users
          obtain ⟨rest, rfl⟩ := begins
          rfl
      | some found =>
          obtain ⟨sample, listed, fits⟩ := recognize_sample begins recognized
          dsimp only
          rw [insertUser_sample listed fits]
          exact dialect.execute_insertUser database _

end Dialect

end CloudDrive
