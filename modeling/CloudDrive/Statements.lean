import CloudDrive.SqlFormats

/-!
# The statements of the data access functions

The texts that `dao_auth.c`, `dao_basic.c` and `dao_transfer.c` build with
`snprintf`, as lists of parts in the order of their format strings, and the
table by which they are recognised.
-/

namespace CloudDrive

open Sql (Part)

inductive Statement where
  | startTransaction | commit | rollback
  | selectNode | insertDirectory | selectChildren | deletePath | selectListing
  | selectFileId | deleteFilePath | decrementRefs | selectRefs
  | deleteUnreferenced | selectByHash | incrementRefs | insertFilePath
  | insertFile | selectMeta | selectMetaLimit | selectMetaCut | insertUser
  | insertRoot | selectLogin
deriving DecidableEq, Repr

def startTransactionText : List Part := [.text (ascii "START TRANSACTION")]

def commitText : List Part := [.text (ascii "COMMIT")]

def rollbackText : List Part := [.text (ascii "ROLLBACK")]

def selectNodeText (userId : UInt64) (virtualPath : Bytes) : List Part :=
  [.text (ascii "SELECT id, type FROM paths WHERE user_id = "), .number userId,
    .text (ascii " AND path = "), .raw virtualPath]

def insertPathsText : List Part :=
  [.text (ascii "INSERT INTO paths(user_id, path, file_id, "),
    .text (ascii "parent_id, file_name, type) "), .text (ascii "VALUES(")]

def insertDirectoryText (userId : UInt64) (targetPath : Bytes)
    (parentId : UInt64) (fileName : Bytes) : List Part :=
  insertPathsText ++ [.number userId, .text (ascii ", "),
    .raw targetPath, .text (ascii ", NULL, "), .number parentId,
    .text (ascii ", "), .raw fileName, .text (ascii ", 1)")]

def selectChildrenText (userId parentId : UInt64) : List Part :=
  [.text (ascii "SELECT * FROM paths WHERE user_id = "), .number userId,
    .text (ascii " AND parent_id = "), .number parentId]

def deletePathText (targetDirId : UInt64) : List Part :=
  [.text (ascii "DELETE FROM paths WHERE id = "), .number targetDirId]

def selectListingText (userId parentId : UInt64) : List Part :=
  [.text (ascii "SELECT file_name, type FROM paths WHERE user_id = "),
    .number userId, .text (ascii " AND parent_id = "), .number parentId]

def selectFileIdText (pathId userId : UInt64) : List Part :=
  [.text (ascii "SELECT file_id FROM paths WHERE id = "), .number pathId,
    .text (ascii " AND user_id = "), .number userId,
    .text (ascii " AND type = 0")]

def deleteFilePathText (pathId userId : UInt64) : List Part :=
  [.text (ascii "DELETE FROM paths WHERE id = "), .number pathId,
    .text (ascii " AND user_id = "), .number userId,
    .text (ascii " AND type = 0")]

def decrementRefsText (fileId : UInt64) : List Part :=
  [.text (ascii "UPDATE files SET refs = refs - 1 WHERE id = "),
    .number fileId, .text (ascii " AND refs > 0")]

def selectRefsText (fileId : UInt64) : List Part :=
  [.text (ascii "SELECT refs, LOWER(HEX(hash)) FROM files WHERE id = "),
    .number fileId]

def deleteUnreferencedText (fileId : UInt64) : List Part :=
  [.text (ascii "DELETE FROM files WHERE id = "), .number fileId,
    .text (ascii " AND refs = 0")]

def selectByHashText (sha256Hex : Bytes) (fileSize : UInt64) : List Part :=
  [.text (ascii "SELECT id FROM files WHERE hash = UNHEX("), .raw sha256Hex,
    .text (ascii ") AND size = "), .number fileSize, .text (ascii " LIMIT 1")]

def incrementRefsText (fileId : UInt64) : List Part :=
  [.text (ascii "UPDATE files SET refs = refs + 1 WHERE id = "),
    .number fileId]

def insertFilePathText (userId : UInt64) (targetPath : Bytes)
    (fileId parentId : UInt64) (fileName : Bytes) : List Part :=
  insertPathsText ++ [.number userId, .text (ascii ", "),
    .escaped targetPath, .text (ascii ", "), .number fileId,
    .text (ascii ", "), .number parentId, .text (ascii ", "),
    .escaped fileName, .text (ascii ", 0)")]

def insertFileText (sha256Hex : Bytes) (fileSize : UInt64) : List Part :=
  [.text (ascii "INSERT INTO files(hash, size, refs) VALUES(UNHEX("),
    .raw sha256Hex, .text (ascii "), "), .number fileSize,
    .text (ascii ", 1) "),
    .text (ascii "ON DUPLICATE KEY UPDATE refs = refs + 1, "),
    .text (ascii "id = LAST_INSERT_ID(id)")]

/-- The query of `dao_get_file_meta` up to its limit. -/
def selectMetaText (userId : UInt64) (targetPath : Bytes) : List Part :=
  [.text (ascii "SELECT p.id, p.file_id, p.file_name, p.type, f.size,"),
    .text (ascii "LOWER(HEX(f.hash)) AS hash_hex FROM paths p "),
    .text (ascii "LEFT JOIN files f ON p.file_id = f.id "),
    .text (ascii "WHERE p.user_id = "), .number userId,
    .text (ascii " AND p.path = "), .raw targetPath]

def selectMetaLimitText (userId : UInt64) (targetPath : Bytes) : List Part :=
  selectMetaText userId targetPath ++ [.text (ascii " LIMIT 1")]

def insertUserText (username passwordHash : Bytes) : List Part :=
  [.text (ascii "INSERT INTO users(username, password_hash) VALUES("),
    .raw username, .text (ascii ", "), .raw passwordHash, .text (ascii ")")]

def insertRootText (userId : UInt64) : List Part :=
  insertPathsText ++ [.number userId,
    .text (ascii ", '/', NULL, NULL, '/', 1)")]

def selectLoginText (username : Bytes) : List Part :=
  [.text (ascii "SELECT u.id, u.password_hash, p.id "),
    .text (ascii "FROM users u JOIN paths p ON p.user_id = u.id "),
    .text (ascii "WHERE u.username = "), .raw username,
    .text (ascii " AND p.path = '/' LIMIT 1")]

/-- The statements with a text of each.  The limit of the metadata query may be
cut by the end of its buffer. -/
def statementSamples : List (Statement × List Part) :=
  [(.startTransaction, startTransactionText),
    (.commit, commitText),
    (.rollback, rollbackText),
    (.selectNode, selectNodeText 0 []),
    (.insertDirectory, insertDirectoryText 0 [] 0 []),
    (.selectChildren, selectChildrenText 0 0),
    (.deletePath, deletePathText 0),
    (.selectListing, selectListingText 0 0),
    (.selectFileId, selectFileIdText 0 0),
    (.deleteFilePath, deleteFilePathText 0 0),
    (.decrementRefs, decrementRefsText 0),
    (.selectRefs, selectRefsText 0),
    (.deleteUnreferenced, deleteUnreferencedText 0),
    (.selectByHash, selectByHashText [] 0),
    (.incrementRefs, incrementRefsText 0),
    (.insertFilePath, insertFilePathText 0 [] 0 0 []),
    (.insertFile, insertFileText [] 0),
    (.selectMeta, selectMetaText 0 []),
    (.selectMetaLimit, selectMetaLimitText 0 []),
    (.selectMetaCut, selectMetaText 0 [] ++ [.text (ascii " L")]),
    (.selectMetaCut, selectMetaText 0 [] ++ [.text (ascii " LI")]),
    (.selectMetaCut, selectMetaText 0 [] ++ [.text (ascii " LIM")]),
    (.selectMetaCut, selectMetaText 0 [] ++ [.text (ascii " LIMI")]),
    (.selectMetaCut, selectMetaText 0 [] ++ [.text (ascii " LIMIT")]),
    (.insertUser, insertUserText [] []),
    (.insertRoot, insertRootText 0),
    (.selectLogin, selectLoginText [])]

def statementPatterns : List (Statement × List Sql.Slot) :=
  statementSamples.map fun entry => (entry.1, Sql.patternOf entry.2)

/-- The length of a part without its spliced text. -/
def frameLength : Part → Nat
  | .text bytes => bytes.length
  | .number _ => 20
  | .raw _ | .escaped _ => 2

/-- The statements that only read. -/
def Statement.selects : Statement → Bool
  | selectNode | selectChildren | selectListing | selectFileId | selectRefs
  | selectByHash | selectMeta | selectMetaLimit | selectMetaCut
  | selectLogin => true
  | _ => false

/-- What is checked of each text of the table: parameters stand apart,
parentheses are balanced, the constant text is short, and its first words tell
queries and insertions of users from the rest. -/
def sampleChecks (entry : Statement × List Part) : Bool :=
  let pattern := Sql.patternOf entry.2
  Sql.wellJoined false entry.2 && Sql.patternDepth pattern = 0 &&
    (entry.2.map frameLength).sum ≤ 250 &&
    (!Sql.compatible (pattern.take 1) [.exactly (.word (ascii "SELECT"))] ||
      entry.1.selects) &&
    (!Sql.compatible (pattern.take 3)
        [.exactly (.word (ascii "INSERT")), .exactly (.word (ascii "INTO")),
          .exactly (.word (ascii "users"))] ||
      entry.1 = .insertUser)

/-- The texts pass their checks, and no text follows the patterns of two
statements. -/
theorem statementSamples_checked :
    (∀ entry ∈ statementSamples, sampleChecks entry = true) ∧
    statementPatterns.Pairwise fun first second =>
      Sql.compatible first.2 second.2 = false := by
  decide +kernel

section Samples

variable {statement : Statement} {parts sample : List Part}
  (listed : (statement, sample) ∈ statementSamples)

include listed

theorem wellJoined_sample : Sql.wellJoined false sample = true := by
  have checked := statementSamples_checked.1 _ listed
  simp only [sampleChecks, Bool.and_eq_true] at checked
  exact checked.1.1.1.1

theorem balanced_sample : Sql.patternDepth (Sql.patternOf sample) = 0 := by
  have checked := statementSamples_checked.1 _ listed
  simp only [sampleChecks, Bool.and_eq_true, decide_eq_true_eq] at checked
  exact checked.1.1.1.2

theorem frameLength_sample : (sample.map frameLength).sum ≤ 250 := by
  have checked := statementSamples_checked.1 _ listed
  simp only [sampleChecks, Bool.and_eq_true, decide_eq_true_eq] at checked
  exact checked.1.1.2

theorem selects_sample
    (begins : Sql.compatible ((Sql.patternOf sample).take 1)
      [.exactly (.word (ascii "SELECT"))] = true) :
    statement.selects = true := by
  have checked := statementSamples_checked.1 _ listed
  simp only [sampleChecks, Bool.and_eq_true] at checked
  simpa [begins] using checked.1.2

theorem insertUser_sample
    (begins : Sql.compatible ((Sql.patternOf sample).take 3)
      [.exactly (.word (ascii "INSERT")), .exactly (.word (ascii "INTO")),
        .exactly (.word (ascii "users"))] = true) :
    statement = .insertUser := by
  have checked := statementSamples_checked.1 _ listed
  simp only [sampleChecks, Bool.and_eq_true] at checked
  simpa [begins] using checked.2

/-- A text of the table with clean parameters is read and recognised. -/
theorem recognize_statement
    (shape : List.Forall₂ Part.SameShape parts sample)
    (clean : ∀ part ∈ parts, part.Clean) :
    Sql.readTokens (Sql.render parts) = some (Sql.tokensOf parts) ∧
      Sql.recognize statementPatterns (Sql.tokensOf parts) =
        some (statement, Sql.paramsOf parts) := by
  refine ⟨Sql.readTokens_render shape clean (wellJoined_sample listed)
    (balanced_sample listed), ?_⟩
  apply Sql.recognize_tokensOf statementSamples_checked.2
  rw [Sql.patternOf_sameShape shape]
  exact List.mem_map_of_mem listed

end Samples

/-- A recognised text begins as a text of the table does. -/
theorem recognize_sample {first tokens : List Sql.Token}
    (begins : first <+: tokens) {statement : Statement}
    {params : List Sql.Param}
    (recognized : Sql.recognize statementPatterns tokens =
      some (statement, params)) :
    ∃ sample, (statement, sample) ∈ statementSamples ∧
      Sql.compatible ((Sql.patternOf sample).take first.length)
        (first.map Sql.Slot.exactly) = true := by
  obtain ⟨slots, listed, matched⟩ := Sql.matchTokens_of_recognize recognized
  obtain ⟨⟨key, sample⟩, member, same⟩ := List.mem_map.mp listed
  cases same
  exact ⟨sample, member, Sql.compatible_of_matchTokens begins matched⟩

end CloudDrive
