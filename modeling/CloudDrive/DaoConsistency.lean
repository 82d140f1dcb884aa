import CloudDrive.DaoOutcomes
import Mathlib.Data.List.TakeWhile

/-!
# The data access functions keep the reference counts

Each outcome takes a consistent database to a consistent one, provided that the
number it is given names what it should: a link a stored file, a removal of a
directory no file.
-/

namespace CloudDrive

open Database

namespace Database

variable {database after : Database}

theorem Consistent.kept (consistent : Consistent database)
    (kept : Kept database after) : Consistent after where
  toSchema := consistent.toSchema.kept kept
  toBalanced := consistent.toBalanced.kept (by rw [kept.tables])
    (by rw [kept.tables])
  referenced := by simpa [kept.tables] using consistent.referenced

theorem Schema.usersOnly (schema : Schema database)
    (users : UsersOnly database after) : Schema after where
  path_ids := by simpa [users.paths] using schema.path_ids
  path_below := by simpa [users.paths, users.path] using schema.path_below
  types := by simpa [users.paths] using schema.types
  file_ids := by simpa [users.files] using schema.file_ids
  file_below := by simpa [users.files, users.file] using schema.file_below
  hashes := by simpa [users.files] using schema.hashes
  stored := by simpa [users.files] using schema.stored
  counts := by simpa [users.files] using schema.counts

theorem Consistent.usersOnly (consistent : Consistent database)
    (users : UsersOnly database after) : Consistent after where
  toSchema := consistent.toSchema.usersOnly users
  toBalanced := consistent.toBalanced.kept users.files users.paths
  referenced := by simpa [users.files] using consistent.referenced

theorem Consistent.addDirectory (consistent : Consistent database)
    {row : PathRow} (next : row.id.toNat = database.counters.path)
    (directory : row.type = 1) : Consistent (database.addPath row) where
  toSchema := consistent.toSchema.addPath next directory.le
  toBalanced := consistent.toBalanced.addDirectory directory
  referenced := consistent.referenced

theorem Consistent.removeDirectories (consistent : Consistent database)
    {holds : PathRow → Bool}
    (directories : ∀ row ∈ database.tables.paths, holds row = true →
      row.type ≠ 0) : Consistent (database.removePaths holds) where
  toSchema := consistent.toSchema.removePaths holds
  toBalanced := consistent.toBalanced.removeDirectories directories
  referenced := consistent.referenced

theorem Consistent.link (consistent : Consistent database) {file : FileRow}
    (stored : file ∈ database.tables.files)
    (fits : ∀ other ∈ database.tables.files, other.id = file.id →
      other.refs + 1 < intLimit) {row : PathRow}
    (next : row.id.toNat = database.counters.path)
    (refers : row.refersTo file.id = true) :
    Consistent ((database.addReference file.id).addPath row) where
  toSchema := (consistent.toSchema.addReference fits).addPath next
    ((PathRow.refersTo_iff.mp refers).1.le.trans (by decide))
  toBalanced := consistent.toBalanced.link stored refers
  referenced := by
    intro counted listed
    obtain ⟨old, oldStored, rfl⟩ := List.mem_map.mp listed
    have positive := consistent.referenced old oldStored
    dsimp only
    split <;> omega

theorem Consistent.create (consistent : Consistent database) {file : FileRow}
    (new : ∀ other ∈ database.tables.files, other.hash ≠ file.hash)
    (isStored : IsStoredHash file.hash) (one : file.refs = 1)
    (nextFile : file.id.toNat = database.counters.file) {row : PathRow}
    (next : row.id.toNat = database.counters.path)
    (refers : row.refersTo file.id = true) :
    Consistent ((database.addFile file).addPath row) where
  toSchema := (consistent.toSchema.addFile nextFile new isStored one).addPath
    next ((PathRow.refersTo_iff.mp refers).1.le.trans (by decide))
  toBalanced := by
    refine consistent.toBalanced.create one (fun other stored same => ?_) refers
    have below := consistent.file_below other stored
    rw [same] at below
    omega
  referenced := by
    intro counted listed
    rcases List.mem_append.mp listed with old | added
    · exact consistent.referenced counted old
    · obtain rfl : counted = file := by simpa using added
      omega

end Database

namespace DbSession

variable {database after : Database}

theorem InsertDirOutcome.consistent (consistent : Consistent database)
    {userId : UInt64} {value : Int}
    (outcome : InsertDirOutcome database userId value after) :
    Consistent after := by
  rcases outcome with ⟨-, kept⟩ | ⟨row, -, next, -, directory, rfl⟩
  · exact consistent.kept kept
  · exact consistent.addDirectory next directory

theorem RmdirOutcome.consistent (consistent : Consistent database)
    {targetDirId : UInt64} {value : Int} {directory : PathRow}
    (listed : directory ∈ database.tables.paths)
    (named : directory.id = targetDirId) (isDirectory : directory.type = 1)
    (outcome : RmdirOutcome database targetDirId value after) :
    Consistent after := by
  rcases outcome with ⟨-, kept⟩ | ⟨-, rfl⟩
  · exact consistent.kept kept
  · refine consistent.removeDirectories fun row stored same => ?_
    have sameId : row.id = directory.id := by simpa [named] using same
    rw [consistent.path_eq stored listed sameId, isDirectory]
    decide

theorem LinkOutcome.consistent (consistent : Consistent database)
    {userId : UInt64} {value : Int} {file : FileRow}
    (stored : file ∈ database.tables.files)
    (outcome : LinkOutcome database userId file.id value after) :
    Consistent after := by
  rcases outcome with ⟨-, kept⟩ | ⟨row, -, next, -, refers, fits, rfl⟩
  · exact consistent.kept kept
  · exact consistent.link stored fits next refers

theorem CreateOutcome.consistent (consistent : Consistent database)
    {userId : UInt64} {sha256Hex : Bytes} {value : Int}
    (outcome : CreateOutcome database userId sha256Hex value after) :
    Consistent after := by
  cases outcome with
  | failed reported kept => exact consistent.kept kept
  | counted stored hash fits next user refers =>
      have skipped : Kept database database.skipFile :=
        ⟨rfl, Nat.le_succ _, Nat.le_refl _⟩
      exact (consistent.kept skipped).link stored fits next refers
  | created new hash one nextFile next user refers =>
      exact consistent.create new ⟨sha256Hex, hash⟩ one nextFile next refers

theorem RegisterOutcome.consistent (consistent : Consistent database)
    {value : Int} (outcome : RegisterOutcome database value after) :
    Consistent after := by
  rcases outcome with ⟨-, kept⟩ | ⟨users, row, -, usersOnly, next, directory, rfl⟩
  · exact consistent.kept kept
  · refine (consistent.usersOnly usersOnly).addDirectory ?_ directory
    rw [next, usersOnly.path]

/-- The row that `dao_rm_file` finds is the only one of its number. -/
theorem isFileOf_iff (schema : Schema database) {path : PathRow}
    {userId pathId : UInt64} (listed : path ∈ database.tables.paths)
    (named : isFileOf userId pathId path = true) :
    ∀ row ∈ database.tables.paths,
      isFileOf userId pathId row = true ↔ row = path := by
  intro row stored
  constructor
  · intro same
    simp only [isFileOf, Bool.and_eq_true, decide_eq_true_eq] at named same
    exact schema.path_eq stored listed (same.1.1.trans named.1.1.symm)
  · rintro rfl
    exact named

theorem isFileOf.refersTo {path : PathRow} {userId pathId fileId : UInt64}
    (named : isFileOf userId pathId path = true)
    (refers : path.fileId = some fileId) : path.refersTo fileId = true := by
  simp only [isFileOf, Bool.and_eq_true, decide_eq_true_eq] at named
  exact PathRow.refersTo_iff.mpr ⟨named.2, refers⟩

section Unlink

variable {path : PathRow} {file : FileRow} {userId pathId : UInt64}
  (consistent : Consistent database)
  (listed : path ∈ database.tables.paths)
  (named : isFileOf userId pathId path = true)
  (refers : path.fileId = some file.id)

include consistent listed named refers

theorem balanced_unlink : Balanced ((database.removePaths
    (isFileOf userId pathId)).dropReference file.id) :=
  consistent.toBalanced.unlink consistent.toSchema listed
    (isFileOf_iff consistent.toSchema listed named) (isFileOf.refersTo named refers)

/-- The references that are left after one path of a file is removed. -/
theorem references_unlink {other : FileRow}
    (stored : other ∈ database.tables.files) :
    references (database.removePaths (isFileOf userId pathId)).tables.paths
        other.id =
      if other.id = file.id then other.refs - 1 else other.refs :=
  ((balanced_unlink consistent listed named refers).refs _
    (List.mem_map_of_mem stored)).symm

end Unlink

theorem RmOutcome.consistent (consistent : Consistent database)
    {userId pathId : UInt64} {answer : DaoStatus × Bytes}
    (outcome : RmOutcome database userId pathId answer after) :
    Consistent after := by
  cases outcome with
  | failed reported kept => exact consistent.kept kept
  | @dropped path file listed named stored refers remaining =>
      refine ⟨(consistent.toSchema.removePaths _).dropReference _,
        balanced_unlink consistent listed named refers, ?_⟩
      intro counted member
      obtain ⟨old, oldStored, rfl⟩ := List.mem_map.mp member
      have positive := consistent.referenced old oldStored
      dsimp only
      split
      · rw [consistent.file_eq oldStored stored ‹_›]
        omega
      · exact positive
  | @removed path file listed named stored refers last =>
      refine ⟨((consistent.toSchema.removePaths _).dropReference
          _).removeUnreferenced _,
        (balanced_unlink consistent listed named refers).removeUnreferenced _, ?_⟩
      intro counted member
      obtain ⟨mapped, kept⟩ := List.mem_filter.mp member
      obtain ⟨old, oldStored, rfl⟩ := List.mem_map.mp mapped
      have positive := consistent.referenced old oldStored
      dsimp only at kept ⊢
      split
      · simp_all
        omega
      · exact positive

/-- No hash is stored that was not stored before. -/
def HashesFrom (before after : Database) : Prop :=
  ∀ file ∈ after.tables.files, ∃ old ∈ before.tables.files,
    old.hash = file.hash

theorem hashesFrom_of_eq
    (same : after.tables.files = database.tables.files) :
    HashesFrom database after := by
  intro file stored
  rw [same] at stored
  exact ⟨file, stored, rfl⟩

theorem hashesFrom_mapRefs (count : FileRow → Nat) :
    HashesFrom database (database.mapRefs count) := by
  intro file stored
  obtain ⟨old, oldStored, rfl⟩ := List.mem_map.mp stored
  exact ⟨old, oldStored, rfl⟩

theorem RmOutcome.hashes {userId pathId : UInt64} {answer : DaoStatus × Bytes}
    (outcome : RmOutcome database userId pathId answer after) :
    HashesFrom database after := by
  cases outcome with
  | failed reported kept => exact hashesFrom_of_eq (by rw [kept.tables])
  | dropped => exact @hashesFrom_mapRefs (database.removePaths _) _
  | removed =>
      intro file stored
      exact @hashesFrom_mapRefs (database.removePaths _) _ file
        (List.mem_of_mem_filter stored)

theorem LinkOutcome.hashes {userId fileId : UInt64} {value : Int}
    (outcome : LinkOutcome database userId fileId value after) :
    HashesFrom database after := by
  rcases outcome with ⟨-, kept⟩ | ⟨row, -, -, -, -, -, rfl⟩
  · exact hashesFrom_of_eq (by rw [kept.tables])
  · exact hashesFrom_mapRefs _

/-- The one new hash is that of the upload. -/
theorem CreateOutcome.hashes {userId : UInt64} {sha256Hex : Bytes} {value : Int}
    (outcome : CreateOutcome database userId sha256Hex value after) :
    ∀ file ∈ after.tables.files,
      (∃ old ∈ database.tables.files, old.hash = file.hash) ∨
        unhex sha256Hex = some file.hash := by
  intro file stored
  cases outcome with
  | failed reported kept =>
      exact Or.inl (hashesFrom_of_eq (by rw [kept.tables]) file stored)
  | counted => exact Or.inl (hashesFrom_mapRefs _ file stored)
  | created new hash =>
      rcases List.mem_append.mp stored with old | added
      · exact Or.inl ⟨file, old, rfl⟩
      · rw [List.mem_singleton.mp added]
        exact Or.inr hash

/-- The last path that refers to a hash has been removed. -/
def RemovesLast (before after : Database) (hash : Bytes) : Prop :=
  ∃ file ∈ before.tables.files, file.hash = hash ∧
    0 < references before.tables.paths file.id ∧
    references after.tables.paths file.id = 0

theorem toLower_ne_zero {byte : UInt8} (hex : isHexDigit byte = true) :
    toLower byte ≠ 0 := by
  simp only [isHexDigit, isDigit, Bool.or_eq_true, Bool.and_eq_true,
    decide_eq_true_eq, UInt8.le_iff_toNat_le] at hex
  intro zero
  have value := congrArg UInt8.toNat zero
  unfold toLower at value
  split at value
  · rw [UInt8.toNat_add] at value
    simp_all
    omega
  · simp_all

/-- A stored hash is a C string of 64 digits. -/
theorem stored_digits {hash : Bytes} (stored : IsStoredHash hash) :
    hash.length = 64 ∧ cString hash = hash := by
  obtain ⟨text, read⟩ := stored
  unfold unhex at read
  split at read
  · rename_i valid
    simp only [Bool.and_eq_true, decide_eq_true_eq, List.all_eq_true] at valid
    cases read
    refine ⟨by rw [List.length_map, valid.1], cString_of_noNul fun zero => ?_⟩
    obtain ⟨digit, listed, isZero⟩ := List.mem_map.mp zero
    exact toLower_ne_zero (valid.2 digit listed) isZero
  · cases read

theorem stored_hash {hash : Bytes} (stored : IsStoredHash hash) :
    (cString hash).take (nameMax - 1) = hash := by
  obtain ⟨length, digits⟩ := stored_digits stored
  rw [digits]
  exact List.take_of_length_le (by rw [length]; decide)

/-- `dao_rm_file` asks for the object to be deleted exactly when it has removed
the last path that refers to it. -/
theorem RmOutcome.reports (consistent : Consistent database)
    {userId pathId : UInt64} {answer : DaoStatus × Bytes}
    (outcome : RmOutcome database userId pathId answer after) (hash : Bytes) :
    answer = (.shouldDeletePhysical, hash) ↔ RemovesLast database after hash := by
  cases outcome with
  | @failed status other after reported kept =>
      constructor
      · rintro same
        rcases reported with rfl | rfl <;> cases same
      · rintro ⟨file, stored, -, some, none⟩
        rw [kept.tables] at none
        omega
  | @dropped path file listed named stored refers remaining =>
      constructor
      · rintro ⟨⟩
      · rintro ⟨other, otherStored, -, -, none⟩
        have left := none.symm.trans
          (references_unlink consistent listed named refers otherStored)
        have positive := consistent.referenced other otherStored
        split at left
        · rw [consistent.file_eq otherStored stored ‹_›] at left
          exact (remaining left.symm).elim
        · omega
  | @removed path file listed named stored refers last =>
      rw [stored_hash (consistent.stored file stored)]
      constructor
      · rintro ⟨⟩
        refine ⟨file, stored, rfl, ?_, ?_⟩
        · rw [← consistent.refs file stored]
          exact consistent.referenced file stored
        · have left := references_unlink consistent listed named refers stored
          rw [if_pos rfl, last] at left
          exact left
      · rintro ⟨other, otherStored, rfl, -, none⟩
        have left := none.symm.trans
          (references_unlink consistent listed named refers otherStored)
        have positive := consistent.referenced other otherStored
        split at left
        · rw [consistent.file_eq otherStored stored ‹_›]
        · omega

end DbSession

end CloudDrive
