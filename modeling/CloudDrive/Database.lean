import CloudDrive.Statements

/-!
# The database

The three tables of `database_init` and what the statements of the data access
functions do to them.  String comparison and character counting belong to the
collation and the character set of the server, and statements of any other
form to its parser; a `Dialect` provides them.
-/

namespace CloudDrive

structure UserRow where
  id : UInt64
  username : Bytes
  passwordHash : Bytes
deriving DecidableEq

/-- A row of `files`; the 32 bytes of the hash are kept as the lower-case
digits that `LOWER(HEX(hash))` shows. -/
structure FileRow where
  id : UInt64
  hash : Bytes
  size : UInt64
  refs : Nat
deriving DecidableEq

structure PathRow where
  id : UInt64
  userId : UInt64
  path : Bytes
  fileId : Option UInt64
  parentId : Option UInt64
  fileName : Bytes
  type : Nat
deriving DecidableEq

structure Tables where
  users : List UserRow
  files : List FileRow
  paths : List PathRow
deriving DecidableEq

/-- The values `AUTO_INCREMENT` gives out next; a rollback does not restore
them. -/
structure Counters where
  user : Nat
  file : Nat
  path : Nat
deriving DecidableEq

structure Database where
  tables : Tables
  counters : Counters
deriving DecidableEq

def Database.empty : Database := ⟨⟨[], [], []⟩, ⟨1, 1, 1⟩⟩

/-- The tables are the same; only counters have moved. -/
structure Database.Kept (before after : Database) : Prop where
  tables : after.tables = before.tables
  file : before.counters.file ≤ after.counters.file
  path : before.counters.path ≤ after.counters.path

/-- Only users have changed. -/
structure Database.UsersOnly (before after : Database) : Prop where
  files : after.tables.files = before.tables.files
  paths : after.tables.paths = before.tables.paths
  file : after.counters.file = before.counters.file
  path : after.counters.path = before.counters.path

/-- A column of a result row. -/
inductive Cell where
  | null
  | number (value : Nat)
  | text (bytes : Bytes)
deriving DecidableEq

def Cell.ofOption : Option UInt64 → Cell
  | none => .null
  | some value => .number value.toNat

/-- What the server answers to a statement.  A failed statement changes no
table, and a query changes nothing. -/
inductive Reply where
  | failed (duplicate : Bool) (counters : Counters)
  | rows (rows : List (List Cell))
  | changed (insertId : UInt64) (database : Database)
  /-- A command about the transaction. -/
  | control (command : Statement)

/-- The statement has failed or has only read. -/
def Reply.Reads (database : Database) : Reply → Prop
  | failed _ counters => counters = database.counters
  | rows .. => True
  | changed .. | control .. => False

/-- The statement has changed nothing but the users. -/
def Reply.ChangesUsers (database : Database) : Reply → Prop
  | failed _ counters =>
      counters.file = database.counters.file ∧
        counters.path = database.counters.path
  | rows .. => True
  | changed _ after => database.UsersOnly after
  | control .. => False

/-- What the model leaves to the database server. -/
structure Dialect where
  /-- Two strings are equal if their keys are. -/
  collate : Bytes → Bytes
  /-- The number of characters of a valid string. -/
  charLength : Bytes → Option Nat
  /-- The statements that are not in the table. -/
  other : List Sql.Token → Database → Reply
  select_reads : ∀ tokens database,
    tokens.head? = some (.word (ascii "SELECT")) →
      (other tokens database).Reads database
  insert_users : ∀ tokens database,
    tokens.take 3 = [.word (ascii "INSERT"), .word (ascii "INTO"),
        .word (ascii "users")] →
      (other tokens database).ChangesUsers database

/-- A server that compares bytes, counts every byte as a character and knows
no other statements. -/
def Dialect.plain : Dialect where
  collate := id
  charLength := fun text => some text.length
  other := fun _ database => .failed false database.counters
  select_reads := fun _ _ _ => rfl
  insert_users := fun _ _ _ => ⟨rfl, rfl⟩

/-- The values of an `INT` and of a `BIGINT` column. -/
def intLimit : Nat := 2 ^ 31

def bigintLimit : Nat := 2 ^ 63

def isHexDigit (byte : UInt8) : Bool :=
  isDigit byte || (65 ≤ byte && byte ≤ 70) || (97 ≤ byte && byte ≤ 102)

def toLower (byte : UInt8) : UInt8 :=
  if 65 ≤ byte && byte ≤ 90 then byte + 32 else byte

/-- The digits of `UNHEX` for a column of 32 bytes; the server never sends
anything but 64 digits. -/
def unhex (text : Bytes) : Option Bytes :=
  if text.length = 64 && text.all isHexDigit then some (text.map toLower)
  else none

namespace Dialect

variable (dialect : Dialect)

def varchar (limit : Nat) (text : Bytes) : Bool :=
  (dialect.charLength text).any (· ≤ limit)

def samePath (userId : Nat) (path : Bytes) (row : PathRow) : Bool :=
  row.userId.toNat = userId && dialect.collate row.path = dialect.collate path

def insertPath (database : Database) (userId : Nat) (path : Bytes)
    (fileId parentId : Option Nat) (fileName : Bytes) (type : Nat) : Reply :=
  let tables := database.tables
  let counters := database.counters
  if !(userId < intLimit && dialect.varchar 768 path &&
      fileId.all (· < bigintLimit) && parentId.all (· < bigintLimit) &&
      dialect.varchar 255 fileName && counters.path < bigintLimit) then
    .failed false counters
  else
    let advanced := { counters with path := counters.path + 1 }
    if tables.paths.any (dialect.samePath userId path) then
      .failed true advanced
    else
      let row : PathRow :=
        { id := UInt64.ofNat counters.path
          userId := UInt64.ofNat userId
          path, fileName, type
          fileId := fileId.map UInt64.ofNat
          parentId := parentId.map UInt64.ofNat }
      .changed row.id ⟨{ tables with paths := tables.paths ++ [row] }, advanced⟩

def insertUser (database : Database) (username passwordHash : Bytes) : Reply :=
  let tables := database.tables
  let counters := database.counters
  if !(dialect.varchar 64 username && dialect.varchar 384 passwordHash &&
      counters.user < intLimit) then
    .failed false counters
  else
    let advanced := { counters with user := counters.user + 1 }
    if tables.users.any fun row =>
        dialect.collate row.username = dialect.collate username then
      .failed true advanced
    else
      let row : UserRow := ⟨UInt64.ofNat counters.user, username, passwordHash⟩
      .changed row.id ⟨{ tables with users := tables.users ++ [row] }, advanced⟩

end Dialect

/-- Change the reference count of the rows with a property; a count outside the
range of its column is an error. -/
def updateRefs (database : Database) (holds : FileRow → Bool)
    (change : Nat → Nat) (insertId : UInt64) (counters : Counters) : Reply :=
  let files := database.tables.files
  if files.all fun row => !holds row || change row.refs < intLimit then
    .changed insertId
      ⟨{ database.tables with
          files := files.map fun row =>
            if holds row then { row with refs := change row.refs } else row },
        counters⟩
  else .failed false counters

/-- `INSERT INTO files … ON DUPLICATE KEY UPDATE`. -/
def insertFile (database : Database) (hash : Bytes) (size : Nat) : Reply :=
  let tables := database.tables
  let counters := database.counters
  if !(size < bigintLimit && counters.file < bigintLimit) then
    .failed false counters
  else
    let advanced := { counters with file := counters.file + 1 }
    match tables.files.find? fun row => row.hash = hash with
    | some existing =>
        updateRefs database (fun row => row.id = existing.id) (· + 1)
          existing.id advanced
    | none =>
        let row : FileRow :=
          ⟨UInt64.ofNat counters.file, hash, UInt64.ofNat size, 1⟩
        .changed row.id
          ⟨{ tables with files := tables.files ++ [row] }, advanced⟩

def deletePaths (database : Database) (holds : PathRow → Bool) : Reply :=
  .changed 0
    { database with
      tables := { database.tables with
        paths := database.tables.paths.filter (!holds ·) } }

def deleteFiles (database : Database) (holds : FileRow → Bool) : Reply :=
  .changed 0
    { database with
      tables := { database.tables with
        files := database.tables.files.filter (!holds ·) } }

/-- A row of `LEFT JOIN files f ON p.file_id = f.id`. -/
def metaRow (files : List FileRow) (row : PathRow) : List Cell :=
  let file := files.find? fun file => row.fileId = some file.id
  [.number row.id.toNat, Cell.ofOption row.fileId, .text row.fileName,
    .number row.type, Cell.ofOption (file.map FileRow.size),
    match file with
    | none => .null
    | some file => .text file.hash]

def pathCells (row : PathRow) : List Cell :=
  [.number row.id.toNat, .number row.userId.toNat, .text row.path,
    Cell.ofOption row.fileId, Cell.ofOption row.parentId, .text row.fileName,
    .number row.type]

namespace Dialect

variable (dialect : Dialect)

def execute (database : Database) : Statement → List Sql.Param → Reply
  | .startTransaction, _ => .control .startTransaction
  | .commit, _ => .control .commit
  | .rollback, _ => .control .rollback
  | .selectNode, [.number userId, .text path] =>
      .rows ((database.tables.paths.filter (dialect.samePath userId path)).map
        fun row => [.number row.id.toNat, .number row.type])
  | .insertDirectory,
      [.number userId, .text path, .number parentId, .text fileName] =>
      dialect.insertPath database userId path none (some parentId) fileName 1
  | .selectChildren, [.number userId, .number parentId] =>
      .rows ((database.tables.paths.filter fun row =>
          row.userId.toNat = userId &&
            row.parentId.map UInt64.toNat = some parentId).map pathCells)
  | .deletePath, [.number id] =>
      deletePaths database fun row => row.id.toNat = id
  | .selectListing, [.number userId, .number parentId] =>
      .rows ((database.tables.paths.filter fun row =>
          row.userId.toNat = userId &&
            row.parentId.map UInt64.toNat = some parentId).map
        fun row => [.text row.fileName, .number row.type])
  | .selectFileId, [.number id, .number userId] =>
      .rows ((database.tables.paths.filter fun row =>
          row.id.toNat = id && row.userId.toNat = userId && row.type = 0).map
        fun row => [Cell.ofOption row.fileId])
  | .deleteFilePath, [.number id, .number userId] =>
      deletePaths database fun row =>
        row.id.toNat = id && row.userId.toNat = userId && row.type = 0
  | .decrementRefs, [.number id] =>
      updateRefs database (fun row => row.id.toNat = id && 0 < row.refs)
        (· - 1) 0 database.counters
  | .selectRefs, [.number id] =>
      .rows ((database.tables.files.filter fun row => row.id.toNat = id).map
        fun row => [.number row.refs, .text row.hash])
  | .deleteUnreferenced, [.number id] =>
      deleteFiles database fun row => row.id.toNat = id && row.refs = 0
  | .selectByHash, [.text hash, .number size] =>
      .rows (((database.tables.files.filter fun row =>
          unhex hash = some row.hash && row.size.toNat = size).map
        fun row => [.number row.id.toNat]).take 1)
  | .incrementRefs, [.number id] =>
      updateRefs database (fun row => row.id.toNat = id) (· + 1) 0
        database.counters
  | .insertFilePath, [.number userId, .text path, .number fileId,
      .number parentId, .text fileName] =>
      dialect.insertPath database userId path (some fileId) (some parentId)
        fileName 0
  | .insertFile, [.text hash, .number size] =>
      match unhex hash with
      | none => .failed false database.counters
      | some hash => CloudDrive.insertFile database hash size
  | .selectMeta, [.number userId, .text path] =>
      .rows ((database.tables.paths.filter (dialect.samePath userId path)).map
        (metaRow database.tables.files))
  | .selectMetaLimit, [.number userId, .text path] =>
      .rows (((database.tables.paths.filter (dialect.samePath userId path)).map
        (metaRow database.tables.files)).take 1)
  | .insertUser, [.text username, .text passwordHash] =>
      dialect.insertUser database username passwordHash
  | .insertRoot, [.number userId] =>
      dialect.insertPath database userId (ascii "/") none none (ascii "/") 1
  | .selectLogin, [.text username] =>
      .rows ((database.tables.users.flatMap fun user =>
          if dialect.collate user.username = dialect.collate username then
            (database.tables.paths.filter
              (dialect.samePath user.id.toNat (ascii "/"))).map fun row =>
                [.number user.id.toNat, .text user.passwordHash,
                  .number row.id.toNat]
          else []).take 1)
  | _, _ => .failed false database.counters

/-- What a text sent with `mysql_query` means. -/
def run (text : Bytes) (database : Database) : Reply :=
  match Sql.readTokens text with
  | none => .failed false database.counters
  | some tokens =>
      match Sql.recognize statementPatterns tokens with
      | some (statement, params) => dialect.execute database statement params
      | none => dialect.other tokens database

end Dialect

end CloudDrive
