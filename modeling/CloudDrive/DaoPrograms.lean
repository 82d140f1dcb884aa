import CloudDrive.Database
import CloudDrive.Interaction
import CloudDrive.Protocol

/-!
# The data access functions

`dao_auth.c`, `dao_basic.c` and `dao_transfer.c` with the two helpers of
`database_pool.c`, as programs over the calls they make to the connection pool
and to the MySQL client library.
-/

namespace CloudDrive

/-- `dao_status_t`. -/
inductive DaoStatus where
  | ok | notFound | alreadyExists | typeMismatch | shouldDeletePhysical
  | badArg | dbError | conflict
deriving DecidableEq, Repr

/-- `dao_path_result_t`. -/
inductive DaoPathResult where
  | isFile | isDir | notFound | dbError | badArg
deriving DecidableEq, Repr

/-- `login_info_t`. -/
structure LoginInfo where
  userId : UInt64
  passwordHash : Bytes
  rootPathId : UInt64
deriving DecidableEq

/-- `file_meta_t`. -/
structure FileMeta where
  pathId : UInt64
  fileId : UInt64
  fileName : Bytes
  size : UInt64
  sha256Hex : Bytes
deriving DecidableEq

inductive DbOp where
  /-- `database_pool_acquire`. -/
  | acquire
  | release
  /-- `mysql_query`, which answers whether it returned zero. -/
  | query (sql : Bytes)
  /-- `mysql_store_result`. -/
  | storeResult
  | insertId
  /-- `mysql_errno`, compared with `ER_DUP_ENTRY`. -/
  | errnoIsDuplicate

@[reducible]
def DbOp.Answer : DbOp → Type
  | acquire | query .. | errnoIsDuplicate => Bool
  | release => Unit
  | storeResult => Option (List (List Cell))
  | insertId => UInt64

abbrev DbProgram := Prog DbOp.Answer

/-- A column as a C string; a null pointer for `NULL`. -/
def Cell.string : Cell → Option Bytes
  | .null => none
  | .number value => some (decimal (UInt64.ofNat value))
  | .text bytes => some (cString bytes)

/-- `strtoull` on a column that is not `NULL`. -/
def Cell.strtoull : Cell → UInt64
  | .null => 0
  | .number value => UInt64.ofNat value
  | .text bytes =>
      UInt64.ofNat (min (2 ^ 64 - 1) (decimalValue (bytes.takeWhile isDigit)))

def Cell.isNull (cell : Cell) : Bool := cell = .null

/-- A column of a row; a missing one does not occur. -/
def column (row : List Cell) (index : Nat) : Cell := row.getD index .null

@[simp]
theorem column_zero (cell : Cell) (row : List Cell) :
    column (cell :: row) 0 = cell := rfl

@[simp]
theorem column_succ (cell : Cell) (row : List Cell) (index : Nat) :
    column (cell :: row) (index + 1) = column row index := rfl

@[simp]
theorem Cell.isNull_number (value : Nat) : (Cell.number value).isNull = false :=
  rfl

@[simp]
theorem Cell.strtoull_number (value : Nat) :
    (Cell.number value).strtoull = UInt64.ofNat value := rfl

@[simp]
theorem Cell.string_text (bytes : Bytes) :
    (Cell.text bytes).string = some (cString bytes) := rfl

/-- The text of a statement in its buffer of `size` bytes. -/
def statementText (size : Nat) (parts : List Sql.Part) : Bytes :=
  snprintf size (Sql.render parts)

def runStatement (parts : List Sql.Part) : DbProgram Bool :=
  Prog.ask (DbOp.query (statementText 1024 parts))

def releaseWith {α : Type} (result : α) : DbProgram α := do
  Prog.ask DbOp.release
  pure result

/-- The error exit of a transaction. -/
def rollbackWith {α : Type} (result : α) : DbProgram α := do
  let _ ← runStatement rollbackText
  releaseWith result

def databasePoolExecute (sql : Bytes) : DbProgram Int := do
  if !(← Prog.ask DbOp.acquire) then pure (-1)
  else if !(← Prog.ask (DbOp.query sql)) then do
    Prog.ask DbOp.release
    -- The error number is read from a connection already given back.
    if ← Prog.ask DbOp.errnoIsDuplicate then pure 1 else pure (-1)
  else releaseWith 0

/-- `database_pool_query`; a result that cannot be stored counts as a failure
of the query. -/
def databasePoolQuery (sql : Bytes) : DbProgram (Option (List (List Cell))) := do
  if !(← Prog.ask DbOp.acquire) then pure none
  else if !(← Prog.ask (DbOp.query sql)) then releaseWith none
  else
    let stored ← Prog.ask DbOp.storeResult
    releaseWith stored

def daoPathGetNodeId (userId : UInt64) (virtualPath : Bytes) :
    DbProgram (DaoPathResult × UInt64) := do
  match ← databasePoolQuery
      (statementText 1024 (selectNodeText userId virtualPath)) with
  | none => pure (.dbError, 0)
  | some [] => pure (.notFound, 0)
  | some (row :: _) =>
      if (column row 0).isNull || (column row 1).isNull then pure (.dbError, 0)
      else
        let pathId := (column row 0).strtoull
        let fileType := (column row 1).strtoull
        if fileType = 0 then pure (.isFile, pathId)
        else if fileType = 1 then pure (.isDir, pathId)
        else pure (.dbError, pathId)

def daoPathInsertDir (userId : UInt64) (targetPath : Bytes)
    (parentId : UInt64) (fileName : Bytes) : DbProgram Int :=
  databasePoolExecute
    (statementText 1024 (insertDirectoryText userId targetPath parentId fileName))

/-- A value as an `int` of 32 bits. -/
def cInt (value : Int) : Int := value.bmod 4294967296

theorem cInt_eq {value : Int} (low : -2147483648 ≤ value) (high : value < 2147483648) :
    cInt value = value :=
  Int.bmod_eq_of_le (by omega) (by omega)

def daoPathDirHasChild (userId parentId : UInt64) : DbProgram Int := do
  match ← databasePoolQuery
      (statementText 1024 (selectChildrenText userId parentId)) with
  | none => pure (-1)
  | some rows => pure (cInt rows.length)

def daoPathRmdir (targetDirId : UInt64) : DbProgram Int :=
  databasePoolExecute (statementText 1024 (deletePathText targetDirId))

/-- What the listing says about a row. -/
def listingEntry (row : List Cell) : Bytes :=
  let name := ((column row 0).string).getD []
  let fileType := (column row 1).strtoull
  if fileType = 1 then name ++ ascii "/  "
  else if fileType = 0 then name ++ ascii "  "
  else []

/-- The loop of `dao_path_get_ls_dir` over the rows: `used` counts the bytes of
the entries, of which the buffer keeps those that fit. -/
def listingLoop (size : Nat) : Bytes → Nat → List (List Cell) → Bytes
  | buffer, _, [] => buffer
  | buffer, used, row :: rows =>
      let entry := listingEntry row
      let written := buffer ++ entry.take (size - used - 1)
      if size ≤ used + entry.length then written
      else listingLoop size written (used + entry.length) rows

theorem length_listingLoop {size used : Nat} {buffer : Bytes}
    {rows : List (List Cell)} (fits : buffer.length = used) (room : used < size) :
    (listingLoop size buffer used rows).length < size := by
  induction rows generalizing buffer used with
  | nil =>
      rw [listingLoop]
      omega
  | cons row rows inductionHypothesis =>
      rw [listingLoop]
      split
      · simp only [List.length_append, List.length_take]
        omega
      · apply inductionHypothesis
        · simp only [List.length_append, List.length_take]
          omega
        · omega

theorem nil_fits : ([] : Bytes).length < maxPacketPayload := by decide

def daoPathGetLsDir (userId parentId : UInt64) :
    DbProgram (Int × { listing : Bytes // listing.length < maxPacketPayload }) :=
  do
  match ← databasePoolQuery
      (statementText 1024 (selectListingText userId parentId)) with
  | none => pure (-1, ⟨[], nil_fits⟩)
  | some rows =>
      pure (cInt rows.length,
        ⟨listingLoop maxPacketPayload [] 0 rows,
          length_listingLoop rfl (by decide)⟩)

/-- The end of `dao_rm_file`, where the remaining references are known. -/
def rmUnreferenced (fileId : UInt64) (row : List Cell) :
    DbProgram (DaoStatus × Bytes) := do
  match (column row 0).isNull, (column row 1).string with
  | false, some hash =>
      if (column row 0).strtoull = 0 then do
        if !(← runStatement (deleteUnreferencedText fileId)) then
          rollbackWith (.dbError, hash.take (nameMax - 1))
        else if !(← runStatement commitText) then
          rollbackWith (.dbError, hash.take (nameMax - 1))
        else releaseWith (.shouldDeletePhysical, hash.take (nameMax - 1))
      else do
        if !(← runStatement commitText) then rollbackWith (.dbError, [])
        else releaseWith (.ok, [])
  | _, _ => rollbackWith (.dbError, [])

/-- The statements of `dao_rm_file` after the file of the path is known. -/
def rmReference (userId pathId fileId : UInt64) :
    DbProgram (DaoStatus × Bytes) := do
  -- The number of deleted rows is not looked at.
  if !(← runStatement (deleteFilePathText pathId userId)) then
    rollbackWith (.dbError, [])
  else if !(← runStatement (decrementRefsText fileId)) then
    rollbackWith (.dbError, [])
  else if !(← runStatement (selectRefsText fileId)) then
    rollbackWith (.dbError, [])
  else
    match ← Prog.ask DbOp.storeResult with
    | none => rollbackWith (.dbError, [])
    | some rows => rmUnreferenced fileId (rows.headD [])

def daoRmFile (userId pathId : UInt64) : DbProgram (DaoStatus × Bytes) := do
  if !(← Prog.ask DbOp.acquire) then pure (.dbError, [])
  else if !(← runStatement startTransactionText) then releaseWith (.dbError, [])
  else if !(← runStatement (selectFileIdText pathId userId)) then
    rollbackWith (.dbError, [])
  else
    match ← Prog.ask DbOp.storeResult with
    | none => rollbackWith (.dbError, [])
    | some rows =>
        if (column (rows.headD []) 0).isNull then rollbackWith (.notFound, [])
        else rmReference userId pathId (column (rows.headD []) 0).strtoull

def daoFileFindByHash (sha256Hex : Bytes) (fileSize : UInt64) :
    DbProgram (Int × UInt64) := do
  match ← databasePoolQuery
      (statementText 1024 (selectByHashText sha256Hex fileSize)) with
  | none => pure (-1, 0)
  | some [] => pure (0, 0)
  | some (row :: _) =>
      if (column row 0).isNull then pure (-1, 0)
      else pure (1, (column row 0).strtoull)

/-- The end of the two transactions that insert a file's path. -/
def insertFilePathAndCommit (userId : UInt64) (targetPath : Bytes)
    (parentId : UInt64) (fileName : Bytes) (fileId : UInt64) :
    DbProgram Int := do
  let inserted ← Prog.ask (DbOp.query (statementText 10240
    (insertFilePathText userId targetPath fileId parentId fileName)))
  if !inserted then rollbackWith (-1)
  else if !(← runStatement commitText) then rollbackWith (-1)
  else releaseWith 0

def daoLinkExistingFile (userId : UInt64) (targetPath : Bytes)
    (parentId : UInt64) (fileName : Bytes) (fileId : UInt64) :
    DbProgram Int := do
  if !(← Prog.ask DbOp.acquire) then pure (-1)
  else if !(← runStatement startTransactionText) then releaseWith (-1)
  else
    -- The number of updated rows is not looked at.
    let updated ← Prog.ask
      (DbOp.query (statementText 10240 (incrementRefsText fileId)))
    if !updated then rollbackWith (-1)
    else insertFilePathAndCommit userId targetPath parentId fileName fileId

def daoCreateFileWithPath (userId : UInt64) (targetPath : Bytes)
    (parentId : UInt64) (fileName sha256Hex : Bytes) (fileSize : UInt64) :
    DbProgram Int := do
  if !(← Prog.ask DbOp.acquire) then pure (-1)
  else if !(← runStatement startTransactionText) then releaseWith (-1)
  else
    let inserted ← Prog.ask
      (DbOp.query (statementText 10240 (insertFileText sha256Hex fileSize)))
    if !inserted then rollbackWith (-1)
    else
      let fileId ← Prog.ask DbOp.insertId
      if fileId = (0 : UInt64) then rollbackWith (-1)
      else insertFilePathAndCommit userId targetPath parentId fileName fileId

/-- What `%s` reads after `strncpy` has copied at most 64 bytes over the 65 of
`sha256_hex`: a text that fills them is followed by the bytes found there. -/
def copySha256Hex (source stale : Bytes) : Bytes :=
  if source.length < 64 then source else source.take 64 ++ cString stale

/-- `dao_get_file_meta`, where `stale` are the bytes of the structure from the
last one of `sha256_hex` on.  There is no result if a null pointer is used. -/
def daoGetFileMeta (stale : Bytes) (userId : UInt64) (targetPath : Bytes) :
    DbProgram (Option (DaoStatus × FileMeta)) := do
  match ← databasePoolQuery
      (statementText 1024 (selectMetaLimitText userId targetPath)) with
  | none => pure (some (.dbError, ⟨0, 0, [], 0, []⟩))
  | some [] => pure (some (.notFound, ⟨0, 0, [], 0, []⟩))
  | some (row :: _) =>
      match (column row 2).string, (column row 5).string with
      | some fileName, some hash =>
          if (column row 1).isNull || (column row 3).isNull ||
              (column row 4).isNull then pure none
          else
            let found : FileMeta :=
              { pathId := (column row 0).strtoull
                fileId := (column row 1).strtoull
                fileName := fileName.take (nameMax - 1)
                size := (column row 4).strtoull
                sha256Hex := copySha256Hex hash stale }
            if (column row 3).strtoull = 1 then pure (some (.typeMismatch, found))
            else pure (some (.ok, found))
      | _, _ => pure none

def daoAuthRegister (username passwordHash : Bytes) : DbProgram Int := do
  if !(← Prog.ask DbOp.acquire) then pure (-1)
  else if !(← runStatement startTransactionText) then releaseWith (-1)
  else if !(← runStatement (insertUserText username passwordHash)) then
    rollbackWith (-1)
  else
    let userId ← Prog.ask DbOp.insertId
    if !(← runStatement (insertRootText userId)) then rollbackWith (-1)
    else if !(← runStatement commitText) then rollbackWith (-1)
    else releaseWith 0

/-- `CRYPT_OUTPUT_SIZE`. -/
def cryptOutputSize : Nat := 384

def daoAuthGetLoginInfo (username : Bytes) : DbProgram (Int × LoginInfo) := do
  match ← databasePoolQuery (statementText 1024 (selectLoginText username)) with
  | none => pure (-1, ⟨0, [], 0⟩)
  | some [] => pure (1, ⟨0, [], 0⟩)
  | some (row :: _) =>
      match (column row 0).isNull || (column row 2).isNull,
          (column row 1).string with
      | false, some passwordHash =>
          let userId := (column row 0).strtoull
          let rootPathId := (column row 2).strtoull
          if cryptOutputSize ≤ passwordHash.length then
            pure (-1, ⟨userId, [], rootPathId⟩)
          else pure (0, ⟨userId, passwordHash, rootPathId⟩)
      | _, _ => pure (-1, ⟨0, [], 0⟩)

end CloudDrive
