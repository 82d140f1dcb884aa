import CloudDrive.Database
import Mathlib.Data.List.Nodup

/-!
# Reference counts

A row of `files` counts the rows of `paths` that refer to it.  The results say
how the keys and the counts follow the changes that the data access functions
make to the tables.
-/

namespace CloudDrive

/-- A path row that holds a reference to a file. -/
def PathRow.refersTo (fileId : UInt64) (row : PathRow) : Bool :=
  row.type = 0 && row.fileId = some fileId

theorem PathRow.refersTo_iff {row : PathRow} {fileId : UInt64} :
    row.refersTo fileId = true ↔ row.type = 0 ∧ row.fileId = some fileId := by
  simp [refersTo]

theorem PathRow.refersTo_other {row : PathRow} {fileId other : UInt64}
    (refers : row.refersTo fileId = true) (different : other ≠ fileId) :
    row.refersTo other = false := by
  simp [refersTo, (refersTo_iff.mp refers).2, Ne.symm different]

def references (paths : List PathRow) (fileId : UInt64) : Nat :=
  paths.countP (PathRow.refersTo fileId)

/-- A hash as the server stores it. -/
def IsStoredHash (hash : Bytes) : Prop := ∃ text, unhex text = some hash

/-- A column stays without duplicates when a row with a new value is added. -/
theorem nodup_map_concat {α β : Type*} {column : α → β} {rows : List α}
    {row : α} (nodup : (rows.map column).Nodup)
    (new : ∀ other ∈ rows, column other ≠ column row) :
    ((rows ++ [row]).map column).Nodup := by
  rw [List.map_append, List.nodup_append]
  refine ⟨nodup, List.nodup_singleton _, ?_⟩
  rintro value old _ added rfl
  obtain ⟨other, stored, same⟩ := List.mem_map.mp old
  exact new other stored (same.trans (List.mem_singleton.mp added))

/-- Choosing by a property that one row has gives that row. -/
theorem filter_eq_singleton {α : Type*} [DecidableEq α] {rows : List α}
    (nodup : rows.Nodup) {row : α} (stored : row ∈ rows) {holds : α → Bool}
    (only : ∀ other ∈ rows, holds other = true ↔ other = row) :
    rows.filter holds = [row] := by
  have same : rows.filter holds = rows.filter (· == row) := by
    apply List.filter_congr
    intro other listed
    rw [Bool.eq_iff_iff, only other listed, beq_iff_eq]
  rw [same, List.filter_beq, List.count_eq_one_of_mem nodup stored]
  rfl

namespace Database

/-- What the keys of the schema enforce. -/
structure Schema (database : Database) : Prop where
  path_ids : (database.tables.paths.map PathRow.id).Nodup
  path_below : ∀ row ∈ database.tables.paths,
    row.id.toNat < database.counters.path
  types : ∀ row ∈ database.tables.paths, row.type ≤ 1
  file_ids : (database.tables.files.map FileRow.id).Nodup
  file_below : ∀ file ∈ database.tables.files,
    file.id.toNat < database.counters.file
  hashes : (database.tables.files.map FileRow.hash).Nodup
  stored : ∀ file ∈ database.tables.files, IsStoredHash file.hash
  counts : ∀ file ∈ database.tables.files, file.refs < intLimit

/-- The counts are right, and no reference dangles. -/
structure Balanced (database : Database) : Prop where
  refs : ∀ file ∈ database.tables.files,
    file.refs = references database.tables.paths file.id
  filed : ∀ row ∈ database.tables.paths, row.type = 0 →
    ∃ file ∈ database.tables.files, row.fileId = some file.id

structure Consistent (database : Database) : Prop
    extends Schema database, Balanced database where
  referenced : ∀ file ∈ database.tables.files, 1 ≤ file.refs

theorem consistent_empty : Consistent empty := by
  constructor <;> (try constructor) <;> simp [empty]

/-- The next row of `paths`, numbered by `AUTO_INCREMENT`. -/
def newPath (database : Database) (userId : UInt64) (path : Bytes)
    (fileId parentId : Option UInt64) (fileName : Bytes) (type : Nat) :
    PathRow :=
  { id := UInt64.ofNat database.counters.path
    userId, path, fileId, parentId, fileName, type }

def addPath (database : Database) (row : PathRow) : Database :=
  ⟨{ database.tables with paths := database.tables.paths ++ [row] },
    { database.counters with path := database.counters.path + 1 }⟩

def addFile (database : Database) (file : FileRow) : Database :=
  ⟨{ database.tables with files := database.tables.files ++ [file] },
    { database.counters with file := database.counters.file + 1 }⟩

/-- `AUTO_INCREMENT` has given out a number of `files` that no row takes. -/
def skipFile (database : Database) : Database :=
  { database with
    counters := { database.counters with file := database.counters.file + 1 } }

def removePaths (database : Database) (holds : PathRow → Bool) : Database :=
  { database with
    tables := { database.tables with
      paths := database.tables.paths.filter (!holds ·) } }

/-- Change the counts of `files`. -/
def mapRefs (database : Database) (count : FileRow → Nat) : Database :=
  { database with
    tables := { database.tables with
      files := database.tables.files.map fun file =>
        { file with refs := count file } } }

def addReference (database : Database) (fileId : UInt64) : Database :=
  database.mapRefs fun file =>
    if file.id = fileId then file.refs + 1 else file.refs

def dropReference (database : Database) (fileId : UInt64) : Database :=
  database.mapRefs fun file =>
    if file.id = fileId then file.refs - 1 else file.refs

def removeUnreferenced (database : Database) (fileId : UInt64) : Database :=
  { database with
    tables := { database.tables with
      files := database.tables.files.filter fun file =>
        !(file.id = fileId && file.refs = 0) } }

section Schema

variable {database after : Database}

theorem Schema.kept (schema : Schema database) (kept : Kept database after) :
    Schema after where
  path_ids := by simpa [kept.tables] using schema.path_ids
  path_below := by
    rw [kept.tables]
    exact fun row stored =>
      Nat.lt_of_lt_of_le (schema.path_below row stored) kept.path
  types := by simpa [kept.tables] using schema.types
  file_ids := by simpa [kept.tables] using schema.file_ids
  file_below := by
    rw [kept.tables]
    exact fun file stored =>
      Nat.lt_of_lt_of_le (schema.file_below file stored) kept.file
  hashes := by simpa [kept.tables] using schema.hashes
  stored := by simpa [kept.tables] using schema.stored
  counts := by simpa [kept.tables] using schema.counts

theorem Schema.addPath (schema : Schema database) {row : PathRow}
    (next : row.id.toNat = database.counters.path) (type : row.type ≤ 1) :
    Schema (database.addPath row) where
  path_ids := by
    refine nodup_map_concat schema.path_ids fun other stored same => ?_
    have below := schema.path_below other stored
    rw [same] at below
    omega
  path_below := by
    intro other stored
    change other ∈ database.tables.paths ++ [row] at stored
    change other.id.toNat < database.counters.path + 1
    rcases List.mem_append.mp stored with old | new
    · exact Nat.lt_succ_of_lt (schema.path_below other old)
    · obtain rfl : other = row := by simpa using new
      omega
  types := by
    intro other stored
    rcases List.mem_append.mp stored with old | new
    · exact schema.types other old
    · obtain rfl : other = row := by simpa using new
      exact type
  file_ids := schema.file_ids
  file_below := schema.file_below
  hashes := schema.hashes
  stored := schema.stored
  counts := schema.counts

theorem Schema.addFile (schema : Schema database) {file : FileRow}
    (next : file.id.toNat = database.counters.file)
    (new : ∀ other ∈ database.tables.files, other.hash ≠ file.hash)
    (isStored : IsStoredHash file.hash) (one : file.refs = 1) :
    Schema (database.addFile file) where
  path_ids := schema.path_ids
  path_below := schema.path_below
  types := schema.types
  file_ids := by
    refine nodup_map_concat schema.file_ids fun other stored same => ?_
    have below := schema.file_below other stored
    rw [same] at below
    omega
  file_below := by
    intro other stored
    change other ∈ database.tables.files ++ [file] at stored
    change other.id.toNat < database.counters.file + 1
    rcases List.mem_append.mp stored with old | new
    · exact Nat.lt_succ_of_lt (schema.file_below other old)
    · obtain rfl : other = file := by simpa using new
      omega
  hashes := nodup_map_concat schema.hashes new
  stored := by
    intro other stored
    rcases List.mem_append.mp stored with old | new
    · exact schema.stored other old
    · obtain rfl : other = file := by simpa using new
      exact isStored
  counts := by
    intro other stored
    rcases List.mem_append.mp stored with old | new
    · exact schema.counts other old
    · obtain rfl : other = file := by simpa using new
      rw [one]
      decide

theorem Schema.removePaths (schema : Schema database) (holds : PathRow → Bool) :
    Schema (database.removePaths holds) where
  path_ids := schema.path_ids.sublist (List.filter_sublist.map _)
  path_below := fun row stored =>
    schema.path_below row (List.mem_of_mem_filter stored)
  types := fun row stored => schema.types row (List.mem_of_mem_filter stored)
  file_ids := schema.file_ids
  file_below := schema.file_below
  hashes := schema.hashes
  stored := schema.stored
  counts := schema.counts

theorem Schema.mapRefs (schema : Schema database) {count : FileRow → Nat}
    (fits : ∀ file ∈ database.tables.files, count file < intLimit) :
    Schema (database.mapRefs count) where
  path_ids := schema.path_ids
  path_below := schema.path_below
  types := schema.types
  file_ids := by simpa [Database.mapRefs, Function.comp_def] using schema.file_ids
  file_below := by
    simpa [Database.mapRefs] using schema.file_below
  hashes := by simpa [Database.mapRefs, Function.comp_def] using schema.hashes
  stored := by simpa [Database.mapRefs] using schema.stored
  counts := by simpa [Database.mapRefs] using fits

theorem Schema.addReference (schema : Schema database) {fileId : UInt64}
    (fits : ∀ file ∈ database.tables.files, file.id = fileId →
      file.refs + 1 < intLimit) : Schema (database.addReference fileId) := by
  refine schema.mapRefs fun file stored => ?_
  split
  · exact fits file stored ‹_›
  · exact schema.counts file stored

theorem Schema.dropReference (schema : Schema database) (fileId : UInt64) :
    Schema (database.dropReference fileId) := by
  refine schema.mapRefs fun file stored => ?_
  have fits := schema.counts file stored
  split <;> omega

theorem Schema.removeUnreferenced (schema : Schema database)
    (fileId : UInt64) : Schema (database.removeUnreferenced fileId) where
  path_ids := schema.path_ids
  path_below := schema.path_below
  types := schema.types
  file_ids := schema.file_ids.sublist (List.filter_sublist.map _)
  file_below := fun file stored =>
    schema.file_below file (List.mem_of_mem_filter stored)
  hashes := schema.hashes.sublist (List.filter_sublist.map _)
  stored := fun file stored => schema.stored file (List.mem_of_mem_filter stored)
  counts := fun file stored => schema.counts file (List.mem_of_mem_filter stored)

theorem Schema.path_eq (schema : Schema database) {first second : PathRow}
    (firstStored : first ∈ database.tables.paths)
    (secondStored : second ∈ database.tables.paths)
    (same : first.id = second.id) : first = second :=
  List.inj_on_of_nodup_map schema.path_ids firstStored secondStored same

theorem Schema.file_eq (schema : Schema database) {first second : FileRow}
    (firstStored : first ∈ database.tables.files)
    (secondStored : second ∈ database.tables.files)
    (same : first.id = second.id) : first = second :=
  List.inj_on_of_nodup_map schema.file_ids firstStored secondStored same

/-- Removing by a property that one stored row has removes that row. -/
theorem Schema.filter_paths (schema : Schema database) {path : PathRow}
    (stored : path ∈ database.tables.paths) {holds : PathRow → Bool}
    (only : ∀ row ∈ database.tables.paths, holds row = true ↔ row = path) :
    database.tables.paths.filter holds = [path] :=
  filter_eq_singleton (List.Nodup.of_map _ schema.path_ids) stored only

end Schema

theorem references_concat (paths : List PathRow) (row : PathRow)
    (fileId : UInt64) :
    references (paths ++ [row]) fileId =
      references paths fileId + if row.refersTo fileId then 1 else 0 := by
  simp [references, List.countP_append]

theorem references_eq_zero {paths : List PathRow} {fileId : UInt64} :
    references paths fileId = 0 ↔
      ∀ row ∈ paths, row.refersTo fileId = false := by
  simp [references, List.countP_eq_zero]

section Counts

variable {database after : Database}

theorem Balanced.kept (balanced : Balanced database)
    (same : after.tables.files = database.tables.files)
    (samePaths : after.tables.paths = database.tables.paths) :
    Balanced after where
  refs := by simpa [same, samePaths] using balanced.refs
  filed := by simpa [same, samePaths] using balanced.filed

/-- A new directory refers to no file. -/
theorem Balanced.addDirectory (balanced : Balanced database) {row : PathRow}
    (directory : row.type = 1) : Balanced (database.addPath row) where
  refs := by
    intro file stored
    change file.refs = references (database.tables.paths ++ [row]) file.id
    rw [references_concat, balanced.refs file stored]
    simp [PathRow.refersTo, directory]
  filed := by
    intro other stored isFile
    rcases List.mem_append.mp stored with old | new
    · exact balanced.filed other old isFile
    · obtain rfl : other = row := by simpa using new
      omega

/-- Removing a directory removes no reference. -/
theorem Balanced.removeDirectories (balanced : Balanced database)
    {holds : PathRow → Bool}
    (directories : ∀ row ∈ database.tables.paths, holds row = true →
      row.type ≠ 0) : Balanced (database.removePaths holds) where
  refs := by
    intro file stored
    rw [balanced.refs file stored]
    change references _ _ =
      references (database.tables.paths.filter (!holds ·)) _
    rw [references, references, List.countP_filter]
    apply List.countP_congr
    intro row listed
    have kept := directories row listed
    cases held : holds row <;> simp_all [PathRow.refersTo]
  filed := fun row stored isFile =>
    balanced.filed row (List.mem_of_mem_filter stored) isFile

/-- A new path to a stored file, counted. -/
theorem Balanced.link (balanced : Balanced database) {file : FileRow}
    (exists_file : file ∈ database.tables.files) {row : PathRow}
    (refers : row.refersTo file.id = true) :
    Balanced ((database.addReference file.id).addPath row) where
  refs := by
    intro counted stored
    obtain ⟨old, oldStored, rfl⟩ := List.mem_map.mp stored
    change _ = references (database.tables.paths ++ [row]) old.id
    rw [references_concat, ← balanced.refs old oldStored]
    dsimp only
    by_cases same : old.id = file.id
    · simp [same, refers]
    · simp [same, PathRow.refersTo_other refers same]
  filed := by
    have counted : ∀ other ∈ database.tables.files,
        ∃ file' ∈ (database.addReference file.id).tables.files,
          file'.id = other.id :=
      fun other stored => ⟨_, List.mem_map_of_mem stored, rfl⟩
    intro other stored isFile
    rcases List.mem_append.mp stored with old | new
    · obtain ⟨named, namedStored, names⟩ := balanced.filed other old isFile
      obtain ⟨file', stored', same⟩ := counted named namedStored
      exact ⟨file', stored', by rw [names, same]⟩
    · obtain rfl : other = row := by simpa using new
      obtain ⟨file', stored', same⟩ := counted file exists_file
      refine ⟨file', stored', ?_⟩
      rw [same]
      exact (PathRow.refersTo_iff.mp refers).2

/-- A new file with its first path. -/
theorem Balanced.create (balanced : Balanced database) {file : FileRow}
    (one : file.refs = 1)
    (new : ∀ other ∈ database.tables.files, other.id ≠ file.id)
    {row : PathRow} (refers : row.refersTo file.id = true) :
    Balanced ((database.addFile file).addPath row) where
  refs := by
    intro counted stored
    change _ = references (database.tables.paths ++ [row]) counted.id
    rw [references_concat]
    rcases List.mem_append.mp stored with old | added
    · simp [PathRow.refersTo_other refers (new counted old),
        balanced.refs counted old]
    · obtain rfl : counted = file := by simpa using added
      have unreferenced : references database.tables.paths counted.id = 0 := by
        rw [references_eq_zero]
        intro path listed
        by_contra refersToNew
        obtain ⟨isFile, isNew⟩ :=
          PathRow.refersTo_iff.mp (Bool.of_not_eq_false refersToNew)
        obtain ⟨named, namedStored, names⟩ := balanced.filed path listed isFile
        rw [isNew] at names
        exact new named namedStored (Option.some.inj names).symm
      simp [unreferenced, one, refers]
  filed := by
    intro other stored isFile
    rcases List.mem_append.mp stored with old | added
    · obtain ⟨named, namedStored, names⟩ := balanced.filed other old isFile
      exact ⟨named, List.mem_append_left _ namedStored, names⟩
    · obtain rfl : other = row := by simpa using added
      exact ⟨file, List.mem_append_right _ (List.mem_singleton_self _),
        (PathRow.refersTo_iff.mp refers).2⟩

/-- Removing one path of a file, counted. -/
theorem Balanced.unlink (balanced : Balanced database)
    (schema : Schema database) {path : PathRow}
    (listed : path ∈ database.tables.paths) {holds : PathRow → Bool}
    (only : ∀ row ∈ database.tables.paths, holds row = true ↔ row = path)
    {fileId : UInt64} (refers : path.refersTo fileId = true) :
    Balanced ((database.removePaths holds).dropReference fileId) where
  refs := by
    intro counted stored
    obtain ⟨old, oldStored, rfl⟩ := List.mem_map.mp stored
    change (if old.id = fileId then old.refs - 1 else old.refs) =
      references (database.tables.paths.filter (!holds ·)) old.id
    have split : references database.tables.paths old.id =
        (if path.refersTo old.id then 1 else 0) +
          references (database.tables.paths.filter (!holds ·)) old.id := by
      rw [references, List.countP_eq_countP_filter_add _ _ holds,
        schema.filter_paths listed only]
      simp [references]
    rw [balanced.refs old oldStored, split]
    by_cases same : old.id = fileId
    · simp [same, refers]
    · simp [same, PathRow.refersTo_other refers same]
  filed := by
    intro row stored isFile
    obtain ⟨named, namedStored, names⟩ :=
      balanced.filed row (List.mem_of_mem_filter stored) isFile
    exact ⟨_, List.mem_map_of_mem namedStored, names⟩

/-- A file without references may go. -/
theorem Balanced.removeUnreferenced (balanced : Balanced database)
    (fileId : UInt64) : Balanced (database.removeUnreferenced fileId) where
  refs := fun file stored => balanced.refs file (List.mem_of_mem_filter stored)
  filed := by
    intro row stored isFile
    obtain ⟨named, namedStored, names⟩ := balanced.filed row stored isFile
    refine ⟨named, List.mem_filter.mpr ⟨namedStored, ?_⟩, names⟩
    have counted : named.refs ≠ 0 := by
      rw [balanced.refs named namedStored]
      intro none
      have refers := references_eq_zero.mp none row stored
      simp [PathRow.refersTo, isFile, names] at refers
    simp [counted]

end Counts

end Database

end CloudDrive
