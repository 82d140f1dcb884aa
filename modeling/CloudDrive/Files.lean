import Mathlib.Logic.Function.Basic
import Mathlib.Data.List.TakeDrop
import Mathlib.Algebra.Group.Nat.Defs

/-!
# Files, names and descriptors

A file is reached by a name or, once it is open, through a descriptor.  Moving
or removing a name does not touch the file: a descriptor goes on referring to
it.  No file has two names.
-/

namespace CloudDrive

/-- An open file and the position of the next read or write. -/
structure Descriptor where
  file : Nat
  position : Nat
deriving DecidableEq

structure FileSystem (Name β : Type) where
  /-- The file that has a name. -/
  names : Name → Option Nat
  contents : Nat → List β
  /-- The files from this one on have never been used. -/
  nextFile : Nat
  descriptors : Nat → Option Descriptor
  names_below : ∀ {name file}, names name = some file → file < nextFile
  names_inj : ∀ {first second file}, names first = some file →
    names second = some file → first = second
  descriptors_below : ∀ {fd opened}, descriptors fd = some opened →
    opened.file < nextFile

/-- What a write at a position makes of a content. -/
def overwrite {β : Type} [Inhabited β] (content : List β) (position : Nat)
    (data : List β) : List β :=
  content.take position ++ List.replicate (position - content.length) default ++
    data ++ content.drop (position + data.length)

/-- Writing at the end appends. -/
theorem overwrite_length {β : Type} [Inhabited β] {content data : List β}
    {position : Nat} (atEnd : position = content.length) :
    overwrite content position data = content ++ data := by
  simp [overwrite, atEnd]

namespace FileSystem

variable {Name β : Type}

section Operations

/-- The content of the file with a name. -/
def content (files : FileSystem Name β) (name : Name) : Option (List β) :=
  (files.names name).map files.contents

/-- The content of an open file. -/
def bytes (files : FileSystem Name β) (fd : Nat) : Option (List β) :=
  (files.descriptors fd).map fun opened => files.contents opened.file

/-- Open the file with a name; without one the descriptor stays closed. -/
def openFile (files : FileSystem Name β) (name : Name) (fd : Nat) :
    FileSystem Name β :=
  { files with
    descriptors := Function.update files.descriptors fd
      ((files.names name).map fun file => ⟨file, 0⟩)
    descriptors_below := by
      intro other opened found
      rw [Function.update_apply] at found
      split_ifs at found
      · obtain ⟨file, named, rfl⟩ := Option.map_eq_some_iff.mp found
        exact files.names_below named
      · exact files.descriptors_below found }

def close (files : FileSystem Name β) (fd : Nat) : FileSystem Name β :=
  { files with
    descriptors := Function.update files.descriptors fd none
    descriptors_below := by
      intro other opened found
      rw [Function.update_apply] at found
      split_ifs at found
      exact files.descriptors_below found }

/-- The same files with nothing open. -/
def closeAll (files : FileSystem Name β) : FileSystem Name β :=
  { files with
    descriptors := fun _ => none
    descriptors_below := by
      intro fd opened found
      cases found }

/-- Move the position of a descriptor. -/
def seek (files : FileSystem Name β) (fd position : Nat) : FileSystem Name β :=
  { files with
    descriptors := Function.update files.descriptors fd
      ((files.descriptors fd).map fun opened => { opened with position })
    descriptors_below := by
      intro other opened found
      rw [Function.update_apply] at found
      split_ifs at found
      · obtain ⟨former, isOpen, rfl⟩ := Option.map_eq_some_iff.mp found
        have below := files.descriptors_below isOpen
        exact below
      · exact files.descriptors_below found }

/-- Replace the content of an open file. -/
def replace (files : FileSystem Name β) (fd : Nat)
    (data : Descriptor → List β) : FileSystem Name β :=
  { files with
    contents :=
      match files.descriptors fd with
      | none => files.contents
      | some opened => Function.update files.contents opened.file (data opened) }

/-- Cut an open file to length zero. -/
def truncate (files : FileSystem Name β) (fd : Nat) : FileSystem Name β :=
  files.replace fd fun _ => []

/-- The position of a descriptor. -/
def position (files : FileSystem Name β) (fd : Nat) : Nat :=
  ((files.descriptors fd).map Descriptor.position).getD 0

/-- Write at the position of a descriptor, which moves behind the data. -/
def write [Inhabited β] (files : FileSystem Name β) (fd : Nat) (data : List β) :
    FileSystem Name β :=
  (files.replace fd fun opened =>
    overwrite (files.contents opened.file) opened.position data).seek fd
      (files.position fd + data.length)

/-- The elements behind the position of a descriptor. -/
def unread (files : FileSystem Name β) (fd : Nat) : List β :=
  ((files.bytes fd).getD []).drop (files.position fd)

variable [DecidableEq Name]

/-- A new empty file under a name. -/
def create (files : FileSystem Name β) (name : Name) : FileSystem Name β where
  names := Function.update files.names name (some files.nextFile)
  contents := Function.update files.contents files.nextFile []
  nextFile := files.nextFile + 1
  descriptors := files.descriptors
  names_below := by
    intro other file found
    rw [Function.update_apply] at found
    split_ifs at found
    · cases found
      omega
    · have := files.names_below found
      omega
  names_inj := by
    intro first second file foundFirst foundSecond
    rw [Function.update_apply] at foundFirst foundSecond
    split_ifs at foundFirst foundSecond with isFirst isSecond isSecond
    · rw [isFirst, isSecond]
    · cases foundFirst
      exact absurd (files.names_below foundSecond) (by omega)
    · cases foundSecond
      exact absurd (files.names_below foundFirst) (by omega)
    · exact files.names_inj foundFirst foundSecond
  descriptors_below := by
    intro fd opened found
    have := files.descriptors_below found
    omega

/-- Open a file, which is created if it does not exist. -/
def openOrCreate (files : FileSystem Name β) (name : Name) (fd : Nat) :
    FileSystem Name β :=
  if files.names name = none then (files.create name).openFile name fd
  else files.openFile name fd

/-- Remove a name. -/
def unlink (files : FileSystem Name β) (name : Name) : FileSystem Name β :=
  { files with
    names := Function.update files.names name none
    names_below := by
      intro other file found
      rw [Function.update_apply] at found
      split_ifs at found
      exact files.names_below found
    names_inj := by
      intro first second file foundFirst foundSecond
      rw [Function.update_apply] at foundFirst foundSecond
      split_ifs at foundFirst foundSecond
      exact files.names_inj foundFirst foundSecond }

/-- Give the file with a name another name; a file that had it loses it. -/
def rename (files : FileSystem Name β) (source target : Name) :
    FileSystem Name β :=
  if files.names source = none then files
  else
    { files with
      names := Function.update (Function.update files.names source none) target
        (files.names source)
      names_below := by
        intro other file named
        simp only [Function.update_apply] at named
        split_ifs at named <;> exact files.names_below named
      names_inj := by
        intro first second file namedFirst namedSecond
        simp only [Function.update_apply] at namedFirst namedSecond
        split_ifs at namedFirst namedSecond with isFirst isSecond _ notSource
          isSecond
        · rw [isFirst, isSecond]
        · exact absurd (files.names_inj namedSecond namedFirst) ‹_›
        · exact absurd (files.names_inj namedFirst namedSecond) ‹_›
        · exact files.names_inj namedFirst namedSecond }

end Operations

/-- A single file. -/
def single [DecidableEq Name] (name : Name) (data : List β) :
    FileSystem Name β where
  names := fun other => if other = name then some 0 else none
  contents := fun _ => data
  nextFile := 1
  descriptors := fun _ => none
  names_below := by simp
  names_inj := by
    intro first second file isFirst isSecond
    split_ifs at isFirst isSecond with sameFirst sameSecond
    exact sameFirst.trans sameSecond.symm
  descriptors_below := by simp

theorem content_single [DecidableEq Name] {name other : Name} {data : List β} :
    (single name data).content other = if other = name then some data else none := by
  simp only [content, single]
  split_ifs <;> rfl

/-- Every file has a size that `off_t` can hold. -/
def Measurable (files : FileSystem Name β) : Prop :=
  ∀ name data, files.content name = some data → data.length < 2 ^ 63

theorem Measurable.getD {files : FileSystem Name β}
    (measurable : files.Measurable) (name : Name) :
    ((files.content name).getD []).length < 2 ^ 63 := by
  rcases held : files.content name with _ | data
  · simp
  · exact measurable name data held

theorem measurable_single [DecidableEq Name] {name : Name} {data : List β}
    (small : data.length < 2 ^ 63) : (single name data).Measurable := by
  intro other held isHeld
  rw [content_single] at isHeld
  split_ifs at isHeld
  cases isHeld
  exact small

section Projections

variable (files : FileSystem Name β) (name : Name) (fd position : Nat)

@[simp]
theorem names_openFile : (files.openFile name fd).names = files.names := rfl

@[simp]
theorem contents_openFile : (files.openFile name fd).contents = files.contents :=
  rfl

@[simp]
theorem descriptors_openFile :
    (files.openFile name fd).descriptors =
      Function.update files.descriptors fd
        ((files.names name).map fun file => ⟨file, 0⟩) := rfl

@[simp]
theorem names_close : (files.close fd).names = files.names := rfl

@[simp]
theorem contents_close : (files.close fd).contents = files.contents := rfl

@[simp]
theorem descriptors_close :
    (files.close fd).descriptors = Function.update files.descriptors fd none := rfl

@[simp]
theorem names_closeAll : files.closeAll.names = files.names := rfl

@[simp]
theorem content_closeAll : files.closeAll.content name = files.content name := rfl

@[simp]
theorem descriptors_closeAll : files.closeAll.descriptors fd = none := rfl

@[simp]
theorem names_seek : (files.seek fd position).names = files.names := rfl

@[simp]
theorem contents_seek : (files.seek fd position).contents = files.contents := rfl

@[simp]
theorem descriptors_seek :
    (files.seek fd position).descriptors =
      Function.update files.descriptors fd
        ((files.descriptors fd).map fun opened => { opened with position }) := rfl

@[simp]
theorem names_replace (data : Descriptor → List β) :
    (files.replace fd data).names = files.names := rfl

@[simp]
theorem descriptors_replace (data : Descriptor → List β) :
    (files.replace fd data).descriptors = files.descriptors := rfl

end Projections

section Effects

/-- A name has the same file with the same content. -/
structure SameAt (before after : FileSystem Name β) (name : Name) : Prop where
  names : after.names name = before.names name
  content : after.content name = before.content name

/-- A descriptor refers to the file with a name. -/
def Refers (files : FileSystem Name β) (fd : Nat) (name : Name) : Prop :=
  ∃ opened, files.descriptors fd = some opened ∧
    files.names name = some opened.file

variable {files after : FileSystem Name β} {name other : Name} {fd : Nat}

theorem SameAt.refl (files : FileSystem Name β) (name : Name) :
    SameAt files files name := ⟨rfl, rfl⟩

/-- An operation on descriptors keeps the contents of all names. -/
theorem sameAt_of_eq (names : after.names = files.names)
    (contents : after.contents = files.contents) : SameAt files after name :=
  ⟨by rw [names], by rw [FileSystem.content, FileSystem.content, names, contents]⟩

theorem SameAt.trans {middle : FileSystem Name β} (first : SameAt files middle name)
    (second : SameAt middle after name) : SameAt files after name :=
  ⟨second.names.trans first.names, second.content.trans first.content⟩

theorem SameAt.seek (same : SameAt files after name) (position : Nat) :
    SameAt files (after.seek fd position) name :=
  ⟨same.names, same.content⟩

theorem Refers.bytes (refers : files.Refers fd name) :
    files.bytes fd = files.content name := by
  obtain ⟨opened, isOpen, named⟩ := refers
  rw [FileSystem.bytes, FileSystem.content, isOpen, named]
  rfl

theorem Refers.exists_bytes (refers : files.Refers fd name) :
    ∃ data, files.bytes fd = some data := by
  obtain ⟨opened, isOpen, -⟩ := refers
  exact ⟨_, by rw [FileSystem.bytes, isOpen]; rfl⟩

theorem Refers.of_same (refers : files.Refers fd name)
    (names : after.names name = files.names name)
    (descriptors : after.descriptors fd = files.descriptors fd) :
    after.Refers fd name := by
  obtain ⟨opened, isOpen, named⟩ := refers
  exact ⟨opened, descriptors.trans isOpen, names.trans named⟩

theorem Refers.seek (refers : files.Refers fd name) (position : Nat) :
    (files.seek fd position).Refers fd name := by
  obtain ⟨opened, isOpen, named⟩ := refers
  exact ⟨⟨opened.file, position⟩, by simp [isOpen], named⟩

/-- Writing through a descriptor changes the content of its own file only. -/
theorem contents_replace {data : Descriptor → List β} {file : Nat}
    (apart : ∀ opened, files.descriptors fd = some opened → opened.file ≠ file) :
    (files.replace fd data).contents file = files.contents file := by
  cases isOpen : files.descriptors fd with
  | none => simp [replace, isOpen]
  | some opened =>
      simp only [replace, isOpen]
      exact Function.update_of_ne (Ne.symm (apart opened isOpen)) _ _

/-- Writing through a descriptor changes no other name. -/
theorem Refers.sameAt_replace (refers : files.Refers fd name)
    (data : Descriptor → List β) (different : other ≠ name) :
    SameAt files (files.replace fd data) other := by
  obtain ⟨opened, isOpen, named⟩ := refers
  refine ⟨rfl, ?_⟩
  rw [FileSystem.content, FileSystem.content, names_replace, replace, isOpen]
  rcases namedOther : files.names other with _ | file
  · rfl
  · have notSame : file ≠ opened.file := by
      rintro rfl
      exact different (files.names_inj namedOther named)
    simp [Function.update_of_ne notSame]

theorem refers_openFile {file : Nat} (named : files.names name = some file) :
    (files.openFile name fd).Refers fd name :=
  ⟨⟨file, 0⟩, by simp [named], named⟩

/-- A descriptor refers to the file with a name, and where it stands in the
content. -/
def IsOpen (files : FileSystem Name β) (fd : Nat) (name : Name)
    (data : List β) (offset : Nat) : Prop :=
  ∃ file, files.descriptors fd = some ⟨file, offset⟩ ∧
    files.names name = some file ∧ files.contents file = data

section Open

variable {data : List β} {offset : Nat} (isOpen : files.IsOpen fd name data offset)

include isOpen

theorem IsOpen.refers : files.Refers fd name := by
  obtain ⟨file, opened, named, -⟩ := isOpen
  exact ⟨_, opened, named⟩

theorem IsOpen.bytes : files.bytes fd = some data := by
  obtain ⟨file, opened, -, rfl⟩ := isOpen
  rw [FileSystem.bytes, opened, Option.map_some]

theorem IsOpen.content : files.content name = some data := by
  obtain ⟨file, -, named, rfl⟩ := isOpen
  rw [FileSystem.content, named, Option.map_some]

theorem IsOpen.position : files.position fd = offset := by
  obtain ⟨file, opened, -, -⟩ := isOpen
  rw [FileSystem.position, opened]
  rfl

theorem IsOpen.unread : files.unread fd = data.drop offset := by
  rw [FileSystem.unread, isOpen.bytes, isOpen.position, Option.getD_some]

theorem IsOpen.seek (target : Nat) :
    (files.seek fd target).IsOpen fd name data target := by
  obtain ⟨file, opened, named, holds⟩ := isOpen
  exact ⟨file, by simp [opened], named, holds⟩

theorem IsOpen.replace (new : Descriptor → List β) :
    ∃ opened, files.descriptors fd = some opened ∧
      opened.position = offset ∧ files.contents opened.file = data ∧
      (files.replace fd new).IsOpen fd name (new opened) offset := by
  obtain ⟨file, opened, named, holds⟩ := isOpen
  refine ⟨_, opened, rfl, holds, ⟨file, opened, named, ?_⟩⟩
  simp [FileSystem.replace, opened]

theorem IsOpen.truncate : (files.truncate fd).IsOpen fd name [] offset := by
  obtain ⟨_, -, -, -, replaced⟩ := isOpen.replace fun _ => []
  exact replaced

theorem IsOpen.overwrite [Inhabited β] (new : List β) :
    (files.write fd new).IsOpen fd name (overwrite data offset new)
      (offset + new.length) := by
  obtain ⟨opened, -, isPosition, holds, replaced⟩ := isOpen.replace fun opened =>
    CloudDrive.overwrite (files.contents opened.file) opened.position new
  rw [isPosition, holds] at replaced
  rw [FileSystem.write, isOpen.position]
  exact replaced.seek _

theorem IsOpen.write [Inhabited β] (atEnd : offset = data.length)
    (new : List β) :
    (files.write fd new).IsOpen fd name (data ++ new)
      (offset + new.length) := by
  rw [← overwrite_length atEnd]
  exact isOpen.overwrite new

theorem IsOpen.sameAt_write [Inhabited β] (different : other ≠ name)
    (new : List β) : SameAt files (files.write fd new) other :=
  (isOpen.refers.sameAt_replace _ different).seek _

end Open

/-- Nothing but the position of a descriptor differs. -/
structure Sought (before after : FileSystem Name β) (fd : Nat) : Prop where
  names : after.names = before.names
  contents : after.contents = before.contents
  others : ∀ other ≠ fd, after.descriptors other = before.descriptors other

theorem Sought.refl (files : FileSystem Name β) (fd : Nat) : Sought files files fd :=
  ⟨rfl, rfl, fun _ _ => rfl⟩

theorem sought_seek (files : FileSystem Name β) (fd offset : Nat) :
    Sought files (files.seek fd offset) fd :=
  ⟨rfl, rfl, fun _ different => Function.update_of_ne different _ _⟩

theorem Sought.sameAt (sought : Sought files after fd) (name : Name) :
    SameAt files after name :=
  sameAt_of_eq sought.names sought.contents

theorem names_ne_none {data : List β} (holds : files.content name = some data) :
    files.names name ≠ none := by
  obtain ⟨file, named, -⟩ := Option.map_eq_some_iff.mp holds
  rw [named]
  exact Option.some_ne_none file

theorem isOpen_openFile {data : List β} (holds : files.content name = some data) :
    (files.openFile name fd).IsOpen fd name data 0 := by
  obtain ⟨file, named, rfl⟩ := Option.map_eq_some_iff.mp holds
  exact ⟨file, by simp [named], named, rfl⟩

variable [DecidableEq Name]

theorem isOpen_openOrCreate :
    (files.openOrCreate name fd).IsOpen fd name ((files.content name).getD []) 0 := by
  rw [openOrCreate]
  split_ifs with free
  · exact ⟨files.nextFile, by simp [create], by simp [create],
      by simp [create, FileSystem.content, free]⟩
  · obtain ⟨file, named⟩ := Option.ne_none_iff_exists'.mp free
    exact ⟨file, by simp [named], named, by simp [FileSystem.content, named]⟩

theorem sameAt_create (different : other ≠ name) :
    SameAt files (files.create name) other := by
  have names : (files.create name).names other = files.names other :=
    Function.update_of_ne different _ _
  refine ⟨names, ?_⟩
  rw [FileSystem.content, FileSystem.content, names]
  rcases named : files.names other with _ | file
  · rfl
  · have old : file ≠ files.nextFile := Nat.ne_of_lt (files.names_below named)
    simp [create, Function.update_of_ne old]

theorem sameAt_openOrCreate (different : other ≠ name) :
    SameAt files (files.openOrCreate name fd) other := by
  rw [openOrCreate]
  split_ifs
  · exact ⟨(sameAt_create different).names, (sameAt_create different).content⟩
  · exact sameAt_of_eq rfl rfl

theorem refers_openOrCreate : (files.openOrCreate name fd).Refers fd name := by
  rw [openOrCreate]
  split_ifs with free
  · exact ⟨⟨files.nextFile, 0⟩, by simp [create], by simp [create]⟩
  · obtain ⟨file, named⟩ := Option.ne_none_iff_exists'.mp free
    exact ⟨⟨file, 0⟩, by simp [named], named⟩

theorem content_openOrCreate :
    (files.openOrCreate name fd).content name =
      some ((files.content name).getD []) := by
  rw [openOrCreate]
  split_ifs with free
  · simp [FileSystem.content, create, free]
  · obtain ⟨file, named⟩ := Option.ne_none_iff_exists'.mp free
    simp [FileSystem.content, named]

theorem descriptors_openOrCreate {opened : Nat} (different : opened ≠ fd) :
    (files.openOrCreate name fd).descriptors opened = files.descriptors opened := by
  rw [openOrCreate]
  split_ifs <;> exact Function.update_of_ne different _ _

/-- A name that is found after an opening was there, or is that of a new file. -/
theorem names_openOrCreate {file : Nat}
    (named : (files.openOrCreate name fd).names other = some file) :
    files.names other = some file ∨ (other = name ∧ file = files.nextFile) := by
  rw [openOrCreate] at named
  split_ifs at named with free
  · simp only [names_openFile, create, Function.update_apply] at named
    split_ifs at named with isNew
    · cases named
      exact Or.inr ⟨isNew, rfl⟩
    · exact Or.inl named
  · exact Or.inl named

theorem contents_openOrCreate {file : Nat} (old : file < files.nextFile) :
    (files.openOrCreate name fd).contents file = files.contents file := by
  rw [openOrCreate]
  split_ifs
  · exact Function.update_of_ne (Nat.ne_of_lt old) _ _
  · rfl

theorem nextFile_openOrCreate :
    files.nextFile ≤ (files.openOrCreate name fd).nextFile := by
  rw [openOrCreate]
  split_ifs
  · exact Nat.le_succ _
  · exact Nat.le_refl _

theorem names_rename {source target : Name} {file : Nat}
    (named : files.names source = some file) :
    (files.rename source target).names =
      Function.update (Function.update files.names source none) target (some file) := by
  rw [rename, if_neg (by simp [named])]
  dsimp only
  rw [named]

@[simp]
theorem contents_rename {source target : Name} :
    (files.rename source target).contents = files.contents := by
  rw [rename]
  split_ifs <;> rfl

@[simp]
theorem nextFile_rename {source target : Name} :
    (files.rename source target).nextFile = files.nextFile := by
  rw [rename]
  split_ifs <;> rfl

/-- Removing a name gives none. -/
theorem names_unlink {file : Nat} (named : (files.unlink name).names other = some file) :
    files.names other = some file := by
  simp only [unlink, Function.update_apply] at named
  split_ifs at named
  exact named

theorem sameAt_rename {source target : Name} (notSource : other ≠ source)
    (notTarget : other ≠ target) :
    SameAt files (files.rename source target) other := by
  rw [rename]
  split_ifs with missing
  · exact SameAt.refl files other
  · have names : Function.update (Function.update files.names source none) target
        (files.names source) other = files.names other := by
      rw [Function.update_of_ne notTarget, Function.update_of_ne notSource]
    refine ⟨names, ?_⟩
    rw [FileSystem.content, FileSystem.content]
    dsimp only
    rw [names]

theorem content_rename {source target : Name}
    (present : files.names source ≠ none) :
    (files.rename source target).content target = files.content source := by
  rw [rename, if_neg present]
  simp [FileSystem.content]

theorem content_rename_source {source target : Name}
    (different : source ≠ target) :
    (files.rename source target).content source = none := by
  rw [rename]
  split_ifs with missing
  · rw [FileSystem.content, missing, Option.map_none]
  · simp [FileSystem.content, Function.update_of_ne different]

@[simp]
theorem descriptors_rename {source target : Name} :
    (files.rename source target).descriptors = files.descriptors := by
  rw [rename]
  split_ifs <;> rfl

theorem content_unlink : (files.unlink name).content name = none := by
  simp [FileSystem.content, unlink]

theorem sameAt_unlink (different : other ≠ name) :
    SameAt files (files.unlink name) other := by
  have names : (files.unlink name).names other = files.names other :=
    Function.update_of_ne different _ _
  refine ⟨names, ?_⟩
  rw [FileSystem.content, FileSystem.content, names]
  rfl

end Effects

end FileSystem

end CloudDrive
