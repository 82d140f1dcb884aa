import CloudDrive.Interleaving
import CloudDrive.TransferDialogue
import CloudDrive.UploadPhases

/-!
# Concurrent uploads

Any number of `handle_puts` workers over one disk, interleaved at every call they
make.  All uploads of a hash share the name of their temporary file, the digest is
taken through a descriptor, and the object is published by name.
-/

namespace CloudDrive

/-- The calls of an upload; without an open temporary file it opens nothing else
and closes nothing. -/
def PutsPhase.Uploads : PutsPhase → TaskOp → Prop
  | .idle _, .openFile (.object _) | .idle _, .close _ => False
  | phase, op => phase.Allows op

namespace PutsPhase

/-- The descriptor that is open. -/
def descriptor : PutsPhase → Option Nat
  | .writing _ fd _ | .digested _ fd _ => some fd
  | .idle _ | .closed .. => none

/-- The phase without what has been moved. -/
def core : PutsPhase → PutsPhase
  | .idle _ => .idle true
  | .writing hash fd _ => .writing hash fd .fresh
  | phase => phase

theorem descriptor_core (phase : PutsPhase) : phase.core.descriptor = phase.descriptor := by
  cases phase <;> rfl

/-- The temporary file has been opened. -/
def IsOpened : PutsPhase → Prop
  | .idle _ => False
  | _ => True

variable {phase : PutsPhase} {op : TaskOp}

theorem uploads_iff (opened : phase.IsOpened) : phase.Uploads op ↔ phase.Allows op := by
  cases phase with
  | idle ready => cases opened
  | writing | digested | closed => exact Iff.rfl

theorem Uploads.allows (uploads : phase.Uploads op) : phase.Allows op := by
  unfold Uploads at uploads
  split at uploads
  · cases uploads
  · cases uploads
  · exact uploads

theorem IsOpened.learn (opened : phase.IsOpened) (answer : op.Answer) :
    (phase.learn op answer).IsOpened := by
  unfold PutsPhase.learn
  split
  case h_7 => split <;> trivial
  all_goals trivial

/-- The calls that open, digest or close the temporary file. -/
def turns : TaskOp → Bool
  | .openFile .. | .digest .. | .close .. => true
  | _ => false

/-- Other calls leave the worker with the same file. -/
theorem core_learn (other : turns op = false) (answer : op.Answer) :
    (phase.learn op answer).core = phase.core := by
  unfold PutsPhase.learn
  split
  case h_7 => split <;> rfl
  all_goals first | rfl | cases other

/-- The descriptor that a call moves, writes to or closes. -/
def used : TaskOp → Option Nat
  | .truncate fd | .lseek fd _ | .write fd _ | .digest fd | .close fd => some fd
  | _ => none

/-- An upload uses its own descriptor only. -/
theorem Uploads.own {fd : Nat} (uploads : phase.Uploads op) (isUsed : used op = some fd) :
    phase.descriptor = some fd := by
  have allowed := uploads.allows
  cases phase with
  | idle ready =>
      cases op
      case close => cases uploads
      all_goals first | exact False.elim allowed | cases isUsed
  | writing hash own stage =>
      cases op
      case truncate | lseek | write | digest =>
        cases isUsed
        rw [← allowed.1]
        rfl
      case close =>
        cases isUsed
        rw [show fd = own from allowed]
        rfl
      all_goals cases isUsed
  | digested hash own actual =>
      cases op
      case close =>
        cases isUsed
        rw [show fd = own from allowed]
        rfl
      all_goals exact False.elim allowed
  | closed hash verified =>
      cases op <;> first | exact False.elim allowed | cases isUsed

/-- A handler makes the calls of an upload. -/
abbrev Makes {α : Type} (phase : PutsPhase) (program : Handler α) : Prop :=
  program.Obeys Uploads PutsPhase.learn phase fun _ _ => True

theorem makes_of_passes {α : Type} {program : Handler α} (opened : phase.IsOpened)
    {post : α → PutsPhase → Prop} (passes : Passes phase program post) :
    phase.Makes program := by
  induction program generalizing phase with
  | done value => trivial
  | call op next inductionHypothesis =>
      refine ⟨(uploads_iff opened).mpr passes.1, fun answer => ?_⟩
      exact inductionHypothesis answer (opened.learn answer) (passes.2 answer)

end PutsPhase

namespace TransferTask

open PutsPhase

variable (task : TransferTask)

theorem makes_reply (type : CmdType) (status : StatusCode) (payload : Bytes)
    (ready : Bool) : (PutsPhase.idle ready).Makes (task.reply type status payload) := by
  unfold HandlerTask.reply HandlerTask.respond HandlerTask.sendPacket
  split
  · trivial
  · exact ⟨trivial, fun _ => trivial⟩

theorem makes_linkFile (target : UploadTarget) (parentId fileId : UInt64) :
    (PutsPhase.idle true).Makes (task.linkFile target parentId fileId) := by
  unfold linkFile
  refine Prog.Obeys.ask trivial fun linked => ?_
  change (PutsPhase.idle true).Makes (if _ then _ else _)
  split_ifs
  · exact task.makes_reply _ _ _ true
  · unfold sendPutsResume HandlerTask.sendPacket
    rw [if_neg (by rw [length_hostToNet]; decide)]
    refine Prog.Obeys.ask trivial fun sent => ?_
    change (PutsPhase.idle _).Makes (if _ then _ else _)
    split_ifs
    · trivial
    · exact task.makes_reply _ _ _ _

theorem makes_uploadFile (target : UploadTarget) (parentId : UInt64) :
    (PutsPhase.idle true).Makes (task.uploadFile target parentId) := by
  have passes := task.passes_uploadFile target parentId
  unfold uploadFile at passes ⊢
  split_ifs at passes ⊢
  · exact task.makes_reply _ _ _ true
  · refine Prog.Obeys.ask rfl fun opened => ?_
    cases opened with
    | none => exact task.makes_reply _ _ _ true
    | some fd => exact makes_of_passes trivial (passes.2 (some fd))

theorem makes_handlePuts : (PutsPhase.idle true).Makes task.handlePuts := by
  unfold handlePuts
  split
  · exact task.makes_reply _ _ _ true
  · rename_i target accepted
    refine Prog.Obeys.ask trivial fun parent => ?_
    obtain ⟨result, parentId⟩ := parent
    cases result with
    | isDir =>
        refine Prog.Obeys.ask trivial fun node => ?_
        obtain ⟨result, pathId⟩ := node
        cases result with
        | notFound =>
            refine Prog.Obeys.ask trivial fun file => ?_
            change (PutsPhase.idle true).Makes (if _ then _ else _)
            split_ifs
            · exact task.makes_reply _ _ _ true
            · exact task.makes_linkFile target parentId _
            · exact task.makes_uploadFile target parentId
        | isDir | isFile | dbError | badArg => exact task.makes_reply _ _ _ true
    | notFound | isFile | dbError | badArg => exact task.makes_reply _ _ _ true

end TransferTask

/-- The disk of the server; besides, the file that each worker has opened last and
the files whose digest was right when it was taken. -/
structure UploadDisk where
  files : ServerFiles
  own : Nat → Option Nat
  verified : List Nat

namespace UploadDisk

/-- The files are those of the call; what it opened or verified is noted. -/
def note (disk : UploadDisk) (worker : Nat) (files : ServerFiles) :
    (op : TaskOp) → op.Answer → UploadDisk
  | .openFile file, some _ =>
      { disk with
        files
        own := Function.update disk.own worker (files.names file) }
  | .digest fd, some actual =>
      { disk with
        files
        verified :=
          match disk.files.descriptors fd with
          | none => disk.verified
          | some opened =>
              if disk.files.names (.part actual.1) = some opened.file then
                opened.file :: disk.verified
              else disk.verified }
  | _, _ => { disk with files }

def perform (sha256 : Sha256) (worker : Nat) (choice : ServerChoice) (op : TaskOp)
    (disk : UploadDisk) : Option (op.Answer × UploadDisk) :=
  let (answer, files) := performStored sha256 choice op disk.files
  some (answer, disk.note worker files op answer)

/-- No other worker gets in the way: nothing is written to a file, and nothing is
cut off from it, once its digest was found to be right; and the temporary file that
is renamed is the one that the worker has opened. -/
def Undisturbed (worker : Nat) (choice : ServerChoice) : TaskOp → UploadDisk → Prop
  | .write fd _, disk | .truncate fd, disk =>
      choice.fails = true ∨ (disk.files.descriptors fd).all fun opened =>
        opened.file ∉ disk.verified
  | .publish sha256Hex, disk =>
      choice.fails = true ∨ disk.files.names (.part sha256Hex) = none ∨
        disk.files.names (.part sha256Hex) = disk.own worker
  | _, _ => True

instance (worker : Nat) (choice : ServerChoice) (op : TaskOp) (disk : UploadDisk) :
    Decidable (Undisturbed worker choice op disk) := by
  unfold Undisturbed
  split <;> infer_instance

end UploadDisk

/-- What a worker knows about its temporary file. -/
def PutsPhase.Fits (disk : UploadDisk) (worker : Nat) : PutsPhase → Prop
  | .idle _ | .closed _ false => True
  | .writing hash fd _ => ∃ opened, disk.files.descriptors fd = some opened ∧
      disk.own worker = some opened.file ∧
      ∀ other, disk.files.names (.part other) = some opened.file → other = hash
  | .digested hash fd actual => ∃ opened, disk.files.descriptors fd = some opened ∧
      disk.own worker = some opened.file ∧ (actual = hash →
        ∀ other, disk.files.names (.part other) = some opened.file →
          opened.file ∈ disk.verified)
  | .closed _ true => ∃ file, disk.own worker = some file ∧
      file < disk.files.nextFile ∧
      ∀ other, disk.files.names (.part other) = some file → file ∈ disk.verified

namespace UploadDisk

/-- Objects have their digests, and so have verified files that are still under
their temporary names. -/
structure Stored (sha256 : Sha256) (disk : UploadDisk) : Prop where
  objects : ∀ hash file, disk.files.names (.object hash) = some file →
    (sha256 (disk.files.contents file)).1 = hash
  /-- An object that was there from the start is not open. -/
  shut : ∀ hash file, disk.files.names (.object hash) = some file →
    file ∈ disk.verified ∨
      ∀ fd opened, disk.files.descriptors fd = some opened → opened.file ≠ file
  parts : ∀ hash file, file ∈ disk.verified →
    disk.files.names (.part hash) = some file →
      (sha256 (disk.files.contents file)).1 = hash
  used : ∀ file ∈ disk.verified, file < disk.files.nextFile

/-- What is stored, and what the workers know about it. -/
structure Sound (sha256 : Sha256) (disk : UploadDisk) (phases : Nat → PutsPhase) :
    Prop extends Stored sha256 disk where
  fits : ∀ worker, (phases worker).Fits disk worker
  apart : ∀ first second fd, (phases first).descriptor = some fd →
    (phases second).descriptor = some fd → first = second

/-- No temporary name comes to a file that is there already, and what is verified
stays so. -/
structure Follows (before after : UploadDisk) : Prop where
  verified : ∀ file ∈ before.verified, file ∈ after.verified
  nextFile : before.files.nextFile ≤ after.files.nextFile
  parts : ∀ hash file, file < before.files.nextFile →
    after.files.names (.part hash) = some file →
      before.files.names (.part hash) = some file

theorem Follows.refl (disk : UploadDisk) : disk.Follows disk :=
  ⟨fun _ verified => verified, Nat.le_refl _, fun _ _ _ named => named⟩

end UploadDisk

namespace PutsPhase

variable {before after : UploadDisk} {phase : PutsPhase} {worker : Nat}

theorem fits_core (disk : UploadDisk) (worker : Nat) (phase : PutsPhase) :
    phase.core.Fits disk worker ↔ phase.Fits disk worker := by
  cases phase with
  | idle | writing | digested | closed => exact Iff.rfl

theorem Fits.is_open (fits : phase.Fits before worker) {fd : Nat}
    (isDescriptor : phase.descriptor = some fd) :
    ∃ opened, before.files.descriptors fd = some opened := by
  cases phase with
  | writing hash own stage =>
      cases isDescriptor
      obtain ⟨opened, isOpen, -⟩ := fits
      exact ⟨opened, isOpen⟩
  | digested hash own actual =>
      cases isDescriptor
      obtain ⟨opened, isOpen, -⟩ := fits
      exact ⟨opened, isOpen⟩
  | idle | closed => cases isDescriptor

/-- A worker whose descriptor goes on referring to its file knows what it knew. -/
theorem Fits.later (fits : phase.Fits before worker) (follows : before.Follows after)
    (own : after.own worker = before.own worker)
    (descriptors : ∀ fd opened, phase.descriptor = some fd →
      before.files.descriptors fd = some opened →
        ∃ moved, after.files.descriptors fd = some moved ∧
          moved.file = opened.file) : phase.Fits after worker := by
  cases phase with
  | idle ready => trivial
  | writing hash fd stage =>
      obtain ⟨opened, isOpen, isOwn, named⟩ := fits
      obtain ⟨moved, stillOpen, same⟩ := descriptors fd opened rfl isOpen
      refine ⟨moved, stillOpen, by rw [own, isOwn, same], ?_⟩
      intro other isNamed
      apply named
      rw [← same]
      apply follows.parts other _ _ isNamed
      rw [same]
      exact before.files.descriptors_below isOpen
  | digested hash fd actual =>
      obtain ⟨opened, isOpen, isOwn, verified⟩ := fits
      obtain ⟨moved, stillOpen, same⟩ := descriptors fd opened rfl isOpen
      refine ⟨moved, stillOpen, by rw [own, isOwn, same], ?_⟩
      intro isRight other isNamed
      rw [same] at isNamed ⊢
      apply follows.verified
      apply verified isRight other
      exact follows.parts other _ (before.files.descriptors_below isOpen) isNamed
  | closed hash isRight =>
      cases isRight with
      | false => trivial
      | true =>
          obtain ⟨file, isOwn, old, verified⟩ := fits
          refine ⟨file, own.trans isOwn, old.trans_le follows.nextFile, ?_⟩
          intro other isNamed
          apply follows.verified
          exact verified other (follows.parts other file old isNamed)

end PutsPhase

namespace UploadDisk

variable {sha256 : Sha256} {before after : UploadDisk} {phases : Nat → PutsPhase}
  {worker : Nat} {phase : PutsPhase}

/-- A call of one worker that leaves the descriptors of the others alone. -/
theorem Sound.change (sound : before.Sound sha256 phases)
    (stored : after.Stored sha256) (follows : before.Follows after)
    (own : ∀ other, other ≠ worker → after.own other = before.own other)
    (others : ∀ fd, (phases worker).descriptor ≠ some fd →
      before.files.descriptors fd ≠ none →
        after.files.descriptors fd = before.files.descriptors fd)
    (fits : phase.Fits after worker)
    (descriptor : ∀ fd, phase.descriptor = some fd →
      (phases worker).descriptor = some fd ∨ before.files.descriptors fd = none) :
    after.Sound sha256 (Function.update phases worker phase) := by
  have foreign : ∀ other, other ≠ worker → ∀ fd,
      (phases other).descriptor = some fd → (phases worker).descriptor ≠ some fd :=
    fun other different fd isOther isOwn =>
      different (sound.apart other worker fd isOther isOwn)
  have distinct : ∀ other, other ≠ worker → ∀ fd,
      (phases other).descriptor = some fd → phase.descriptor ≠ some fd := by
    intro other different fd isOther isNew
    rcases descriptor fd isNew with isOwn | free
    · exact foreign other different fd isOther isOwn
    · obtain ⟨opened, isOpen⟩ := (sound.fits other).is_open isOther
      rw [free] at isOpen
      cases isOpen
  refine { stored with fits := ?_, apart := ?_ }
  · intro other
    by_cases same : other = worker
    · subst same
      rw [Function.update_self]
      exact fits
    · rw [Function.update_of_ne same]
      apply (sound.fits other).later follows (own other same)
      intro fd opened isOther isOpen
      refine ⟨opened, ?_, rfl⟩
      rw [others fd (foreign other same fd isOther) (by simp [isOpen]), isOpen]
  · intro first second fd isFirst isSecond
    by_cases firstSame : first = worker
    · subst firstSame
      by_cases secondSame : second = first
      · exact secondSame.symm
      · rw [Function.update_self] at isFirst
        rw [Function.update_of_ne secondSame] at isSecond
        exact absurd isFirst (distinct second secondSame fd isSecond)
    · rw [Function.update_of_ne firstSame] at isFirst
      by_cases secondSame : second = worker
      · subst secondSame
        rw [Function.update_self] at isSecond
        exact absurd isSecond (distinct first firstSame fd isFirst)
      · rw [Function.update_of_ne secondSame] at isSecond
        exact sound.apart first second fd isFirst isSecond

section Disk

variable {disk : UploadDisk} {files : ServerFiles} {fd : Nat}

/-- Only positions have moved, or descriptors are closed. -/
theorem Stored.descriptors (stored : disk.Stored sha256)
    (names : files.names = disk.files.names)
    (contents : files.contents = disk.files.contents)
    (nextFile : files.nextFile = disk.files.nextFile)
    (opened : ∀ fd moved, files.descriptors fd = some moved →
      ∃ opened, disk.files.descriptors fd = some opened ∧
        opened.file = moved.file) :
    Stored sha256 { disk with files } where
  objects := by
    dsimp only
    rw [names, contents]
    exact stored.objects
  shut := by
    dsimp only
    rw [names]
    intro hash file named
    rcases stored.shut hash file named with verified | shut
    · exact Or.inl verified
    · refine Or.inr fun fd moved isOpen same => ?_
      obtain ⟨former, wasOpen, sameFile⟩ := opened fd moved isOpen
      exact shut fd former wasOpen (sameFile.trans same)
  parts := by
    dsimp only
    rw [names, contents]
    exact stored.parts
  used := by
    dsimp only
    rw [nextFile]
    exact stored.used

theorem Stored.seek (stored : disk.Stored sha256) (fd position : Nat) :
    Stored sha256 { disk with files := disk.files.seek fd position } := by
  apply stored.descriptors
  · rfl
  · rfl
  · rfl
  intro other moved isOpen
  rw [FileSystem.descriptors_seek, Function.update_apply] at isOpen
  split at isOpen
  · rename_i same
    obtain ⟨opened, wasOpen, rfl⟩ := Option.map_eq_some_iff.mp isOpen
    exact ⟨opened, same ▸ wasOpen, rfl⟩
  · exact ⟨moved, isOpen, rfl⟩

theorem Stored.close (stored : disk.Stored sha256) (fd : Nat) :
    Stored sha256 { disk with files := disk.files.close fd } := by
  apply stored.descriptors
  · rfl
  · rfl
  · rfl
  intro other moved isOpen
  rw [FileSystem.descriptors_close, Function.update_apply] at isOpen
  split at isOpen
  · cases isOpen
  · exact ⟨moved, isOpen, rfl⟩

/-- The content of a file that is not verified changes. -/
theorem Stored.replace (stored : disk.Stored sha256)
    (unverified : ∀ opened, disk.files.descriptors fd = some opened →
      opened.file ∉ disk.verified) (data : Descriptor → Bytes) :
    Stored sha256 { disk with files := disk.files.replace fd data } := by
  have kept : ∀ file, (file ∈ disk.verified ∨
      ∀ fd opened, disk.files.descriptors fd = some opened → opened.file ≠ file) →
      (disk.files.replace fd data).contents file = disk.files.contents file := by
    intro file apart
    apply FileSystem.contents_replace
    rintro opened isOpen rfl
    rcases apart with verified | shut
    · exact unverified opened isOpen verified
    · exact shut fd opened isOpen rfl
  constructor
  · intro hash file named
    dsimp only
    rw [kept file (stored.shut hash file named)]
    exact stored.objects hash file named
  · exact stored.shut
  · intro hash file verified named
    dsimp only
    rw [kept file (Or.inl verified)]
    exact stored.parts hash file verified named
  · exact stored.used

/-- A digest was found to be right. -/
theorem Stored.verify (stored : disk.Stored sha256) {opened : Descriptor}
    (isOpen : disk.files.descriptors fd = some opened)
    (named : disk.files.names
      (.part (sha256 (disk.files.contents opened.file)).1) = some opened.file) :
    Stored sha256 { disk with verified := opened.file :: disk.verified } where
  objects := stored.objects
  shut := by
    intro hash file isObject
    rcases stored.shut hash file isObject with verified | shut
    · exact Or.inl (List.mem_cons_of_mem _ verified)
    · exact Or.inr shut
  parts := by
    intro hash file verified isPart
    rcases List.mem_cons.mp verified with rfl | former
    · exact (StoredFile.part.inj (disk.files.names_inj isPart named)).symm
    · exact stored.parts hash file former isPart
  used := by
    intro file verified
    rcases List.mem_cons.mp verified with rfl | former
    · exact disk.files.descriptors_below isOpen
    · exact stored.used file former

theorem Stored.unlink (stored : disk.Stored sha256) (name : StoredFile) :
    Stored sha256 { disk with files := disk.files.unlink name } where
  objects := fun hash file named =>
    stored.objects hash file (FileSystem.names_unlink named)
  shut := fun hash file named => stored.shut hash file (FileSystem.names_unlink named)
  parts := fun hash file verified named =>
    stored.parts hash file verified (FileSystem.names_unlink named)
  used := stored.used

/-- A verified file is published. -/
theorem Stored.publish (stored : disk.Stored sha256) {hash : Bytes} {file : Nat}
    (named : disk.files.names (.part hash) = some file)
    (verified : file ∈ disk.verified) :
    Stored sha256 { disk with
      files := disk.files.rename (.part hash) (.object hash) } := by
  have objects : ∀ other found,
      (disk.files.rename (.part hash) (.object hash)).names (.object other) =
        some found →
      (other = hash ∧ found = file) ∨ disk.files.names (.object other) = some found := by
    intro other found isFound
    rw [FileSystem.names_rename named, Function.update_apply] at isFound
    split at isFound
    · rename_i same
      exact Or.inl ⟨StoredFile.object.inj same, (Option.some.inj isFound).symm⟩
    · rw [Function.update_of_ne (by simp)] at isFound
      exact Or.inr isFound
  constructor
  · intro other found isFound
    dsimp only
    rw [FileSystem.contents_rename]
    rcases objects other found isFound with ⟨rfl, rfl⟩ | former
    · exact stored.parts other found verified named
    · exact stored.objects other found former
  · intro other found isFound
    dsimp only
    rw [FileSystem.descriptors_rename]
    rcases objects other found isFound with ⟨rfl, rfl⟩ | former
    · exact Or.inl verified
    · exact stored.shut other found former
  · intro other found isVerified isFound
    dsimp only at isFound ⊢
    rw [FileSystem.names_rename named, Function.update_of_ne (by simp),
      Function.update_apply] at isFound
    rw [FileSystem.contents_rename]
    split at isFound
    · cases isFound
    · exact stored.parts other found isVerified isFound
  · intro found isVerified
    dsimp only
    rw [FileSystem.nextFile_rename]
    exact stored.used found isVerified

theorem Stored.openPart (stored : disk.Stored sha256) (hash : Bytes) (fd : Nat) :
    Stored sha256 { disk with files := disk.files.openOrCreate (.part hash) fd } := by
  have objects : ∀ other file,
      (disk.files.openOrCreate (.part hash) fd).names (.object other) = some file →
        disk.files.names (.object other) = some file := by
    intro other file named
    rcases FileSystem.names_openOrCreate named with former | ⟨isPart, -⟩
    · exact former
    · cases isPart
  constructor
  · intro other file named
    have former := objects other file named
    dsimp only
    rw [FileSystem.contents_openOrCreate (disk.files.names_below former)]
    exact stored.objects other file former
  · intro other file named
    rcases stored.shut other file (objects other file named) with verified | shut
    · exact Or.inl verified
    · refine Or.inr fun otherFd opened isOpen same => ?_
      by_cases isNew : otherFd = fd
      · subst isNew
        obtain ⟨found, isFound, isPart⟩ :=
          @FileSystem.refers_openOrCreate _ _ disk.files (.part hash) otherFd _
        cases isFound.symm.trans isOpen
        have twice := FileSystem.names_inj _ isPart (same ▸ named)
        cases twice
      · rw [FileSystem.descriptors_openOrCreate isNew] at isOpen
        exact shut otherFd opened isOpen same
  · intro other file verified named
    have old := stored.used file verified
    dsimp only
    rw [FileSystem.contents_openOrCreate old]
    rcases FileSystem.names_openOrCreate named with former | ⟨-, isNew⟩
    · exact stored.parts other file verified former
    · omega
  · intro file verified
    exact (stored.used file verified).trans_le FileSystem.nextFile_openOrCreate

end Disk

section Calls

variable {disk : UploadDisk}

/-- A call that leaves the worker with its file. -/
theorem Sound.move (sound : disk.Sound sha256 phases) (stored : after.Stored sha256)
    (follows : disk.Follows after) (own : after.own = disk.own)
    (descriptors : ∀ fd opened, disk.files.descriptors fd = some opened →
      ∃ moved, after.files.descriptors fd = some moved ∧ moved.file = opened.file)
    (others : ∀ fd, (phases worker).descriptor ≠ some fd →
      after.files.descriptors fd = disk.files.descriptors fd)
    (core : phase.core = (phases worker).core) :
    after.Sound sha256 (Function.update phases worker phase) := by
  apply sound.change stored follows
  · exact fun other _ => congrFun own other
  · exact fun fd foreign _ => others fd foreign
  · rw [← PutsPhase.fits_core, core, PutsPhase.fits_core]
    apply (sound.fits worker).later follows (congrFun own worker)
    exact fun fd opened _ isOpen => descriptors fd opened isOpen
  · intro fd isDescriptor
    left
    rw [← PutsPhase.descriptor_core, ← core, PutsPhase.descriptor_core]
    exact isDescriptor

variable (sound : disk.Sound sha256 phases)

include sound

/-- A call that leaves the disk as it is. -/
theorem Sound.keep (core : phase.core = (phases worker).core) :
    disk.Sound sha256 (Function.update phases worker phase) := by
  apply sound.move sound.toStored (.refl disk) rfl
  · exact fun fd opened isOpen => ⟨opened, isOpen, rfl⟩
  · exact fun _ _ => rfl
  · exact core

theorem Sound.opens {hash : Bytes} {fd : Nat}
    (free : disk.files.descriptors fd = none) :
    Sound sha256
      { disk with
        files := disk.files.openOrCreate (.part hash) fd
        own := Function.update disk.own worker
          ((disk.files.openOrCreate (.part hash) fd).names (.part hash)) }
      (Function.update phases worker (.writing hash fd .fresh)) := by
  have stored := sound.openPart hash fd
  obtain ⟨opened, isOpen, named⟩ :=
    @FileSystem.refers_openOrCreate _ _ disk.files (.part hash) fd _
  apply sound.change
  · exact { stored with }
  · refine ⟨fun _ verified => verified, FileSystem.nextFile_openOrCreate, ?_⟩
    intro other file old isNamed
    rcases FileSystem.names_openOrCreate isNamed with former | ⟨-, isNew⟩
    · exact former
    · omega
  · exact fun other different => Function.update_of_ne different _ _
  · intro other _ wasOpen
    apply FileSystem.descriptors_openOrCreate
    rintro rfl
    exact wasOpen free
  · refine ⟨opened, isOpen, ?_, ?_⟩
    · dsimp only
      rw [Function.update_self, named]
    · intro other isNamed
      exact StoredFile.part.inj (FileSystem.names_inj _ isNamed named)
  · intro other isDescriptor
    cases isDescriptor
    exact Or.inr free

theorem Sound.seeks {fd position : Nat}
    (isOwn : (phases worker).descriptor = some fd)
    (core : phase.core = (phases worker).core) :
    Sound sha256 { disk with files := disk.files.seek fd position }
      (Function.update phases worker phase) := by
  apply sound.move
  · exact sound.seek fd position
  · exact ⟨fun _ verified => verified, Nat.le_refl _, fun _ _ _ named => named⟩
  · rfl
  · intro other opened isOpen
    by_cases same : other = fd
    · subst same
      exact ⟨{ opened with position }, by simp [isOpen], rfl⟩
    · exact ⟨opened, by simp [same, isOpen], rfl⟩
  · intro other foreign
    apply Function.update_of_ne
    rintro rfl
    exact foreign isOwn
  · exact core

theorem Sound.replaces {fd : Nat} (data : Descriptor → Bytes)
    (unverified : ∀ opened, disk.files.descriptors fd = some opened →
      opened.file ∉ disk.verified)
    (core : phase.core = (phases worker).core) :
    Sound sha256 { disk with files := disk.files.replace fd data }
      (Function.update phases worker phase) := by
  apply sound.move
  · exact sound.replace unverified data
  · exact ⟨fun _ verified => verified, Nat.le_refl _, fun _ _ _ named => named⟩
  · rfl
  · exact fun other opened isOpen => ⟨opened, isOpen, rfl⟩
  · exact fun _ _ => rfl
  · exact core

theorem Sound.closes {fd : Nat} (isOwn : (phases worker).descriptor = some fd)
    (shut : phase.descriptor = none)
    (fits : phase.Fits { disk with files := disk.files.close fd } worker) :
    Sound sha256 { disk with files := disk.files.close fd }
      (Function.update phases worker phase) := by
  apply sound.change
  · exact sound.close fd
  · exact ⟨fun _ verified => verified, Nat.le_refl _, fun _ _ _ named => named⟩
  · exact fun _ _ => rfl
  · intro other foreign _
    apply Function.update_of_ne
    rintro rfl
    exact foreign isOwn
  · exact fits
  · intro other isDescriptor
    rw [shut] at isDescriptor
    cases isDescriptor

theorem Sound.unlinks (name : StoredFile) (core : phase.core = (phases worker).core) :
    Sound sha256 { disk with files := disk.files.unlink name }
      (Function.update phases worker phase) := by
  apply sound.move
  · exact sound.unlink name
  · exact ⟨fun _ verified => verified, Nat.le_refl _,
      fun _ _ _ named => FileSystem.names_unlink named⟩
  · rfl
  · exact fun other opened isOpen => ⟨opened, isOpen, rfl⟩
  · exact fun _ _ => rfl
  · exact core

theorem Sound.publishes {hash : Bytes} {file : Nat}
    (named : disk.files.names (.part hash) = some file)
    (verified : file ∈ disk.verified) (core : phase.core = (phases worker).core) :
    Sound sha256
      { disk with files := disk.files.rename (.part hash) (.object hash) }
      (Function.update phases worker phase) := by
  apply sound.move
  · exact sound.publish named verified
  · refine ⟨fun _ verified => verified, ?_, ?_⟩
    · rw [FileSystem.nextFile_rename]
    · intro other found _ isFound
      dsimp only at isFound
      rw [FileSystem.names_rename named, Function.update_of_ne (by simp),
        Function.update_apply] at isFound
      split at isFound
      · cases isFound
      · exact isFound
  · rfl
  · intro other opened isOpen
    dsimp only
    rw [FileSystem.descriptors_rename]
    exact ⟨opened, isOpen, rfl⟩
  · intro other _
    dsimp only
    rw [FileSystem.descriptors_rename]
  · exact core

/-- The digest of the temporary file is taken, and noted if it is right. -/
theorem Sound.digests {hash : Bytes} {fd : Nat} {stage : PartStage} {opened : Descriptor}
    (writing : phases worker = .writing hash fd stage)
    (isOpen : disk.files.descriptors fd = some opened) (position : Nat) :
    Sound sha256
      { disk with
        files := disk.files.seek fd position
        verified :=
          if disk.files.names (.part (sha256 (disk.files.contents opened.file)).1) =
              some opened.file then opened.file :: disk.verified
          else disk.verified }
      (Function.update phases worker
        (.digested hash fd (sha256 (disk.files.contents opened.file)).1)) := by
  have fits := sound.fits worker
  rw [writing] at fits
  obtain ⟨found, isFound, isOwn, named⟩ := fits
  cases isFound.symm.trans isOpen
  apply sound.change
  · split
    · rename_i right
      exact (sound.verify isOpen right).seek fd position
    · exact sound.seek fd position
  · refine ⟨?_, Nat.le_refl _, fun _ _ _ isNamed => isNamed⟩
    intro file verified
    dsimp only
    split
    · exact List.mem_cons_of_mem _ verified
    · exact verified
  · exact fun _ _ => rfl
  · intro other foreign _
    apply Function.update_of_ne
    rintro rfl
    exact foreign (by rw [writing]; rfl)
  · refine ⟨{ opened with position }, by simp [isOpen], isOwn, ?_⟩
    intro right other isNamed
    have isPart : disk.files.names (.part hash) = some opened.file :=
      named other isNamed ▸ isNamed
    dsimp only
    rw [right, if_pos isPart]
    exact List.mem_cons_self
  · intro other isDescriptor
    left
    rw [writing]
    exact isDescriptor

end Calls

/-- The calls that leave the disk as it is. -/
def isStill : TaskOp → Bool
  | .openFile .. | .truncate .. | .lseek .. | .write .. | .digest .. | .close ..
  | .unlink .. | .publish .. => false
  | _ => true

theorem perform_still {choice : ServerChoice} {op : TaskOp} {disk : UploadDisk}
    {answer : op.Answer} (still : isStill op = true)
    (performed : disk.perform sha256 worker choice op = some (answer, after)) :
    after = disk := by
  cases op <;> first | (cases performed; rfl) | cases still

section Performed

variable {choice : ServerChoice} {disk : UploadDisk}
  (sound : disk.Sound sha256 phases)

theorem unverified {fd : Nat} (works : choice.fails = false)
    (undisturbed : choice.fails = true ∨ (disk.files.descriptors fd).all fun opened =>
      opened.file ∉ disk.verified) :
    ∀ opened, disk.files.descriptors fd = some opened →
      opened.file ∉ disk.verified := by
  intro opened isOpen
  rcases undisturbed with fails | apart
  · rw [works] at fails
    cases fails
  · simpa [isOpen] using apart

include sound

theorem Sound.openFile {file : StoredFile} {answer : Option Nat}
    (allowed : (phases worker).Uploads (.openFile file))
    (performed : disk.perform sha256 worker choice (.openFile file) =
      some (answer, after)) :
    after.Sound sha256
      (Function.update phases worker ((phases worker).learn (.openFile file) answer)) := by
  cases phase : phases worker <;> rw [phase] at allowed
  case writing | digested | closed => cases allowed
  case idle ready =>
    cases file with
    | object hash => cases allowed
    | part hash =>
        by_cases refused : choice.fails ∨ disk.files.descriptors choice.fd ≠ none
        · simp only [perform, performStored, openStored, if_pos refused] at performed
          cases performed
          exact sound.keep (by rw [phase]; rfl)
        · simp only [perform, performStored, openStored, if_neg refused] at performed
          cases performed
          exact sound.opens (not_not.mp (not_or.mp refused).2)

theorem Sound.truncate {fd : Nat} {answer : Bool}
    (undisturbed : Undisturbed worker choice (.truncate fd) disk)
    (performed : disk.perform sha256 worker choice (.truncate fd) =
      some (answer, after)) :
    after.Sound sha256
      (Function.update phases worker ((phases worker).learn (.truncate fd) answer)) := by
  cases fails : choice.fails with
  | true =>
      simp only [perform, performStored, fails, if_true] at performed
      cases performed
      exact sound.keep (PutsPhase.core_learn rfl _)
  | false =>
      simp only [perform, performStored, fails] at performed
      cases performed
      exact sound.replaces _ (unverified fails undisturbed) (PutsPhase.core_learn rfl _)

theorem Sound.lseek {fd : Nat} {offset : UInt64} {answer : Bool}
    (allowed : (phases worker).Uploads (.lseek fd offset))
    (performed : disk.perform sha256 worker choice (.lseek fd offset) =
      some (answer, after)) :
    after.Sound sha256
      (Function.update phases worker ((phases worker).learn (.lseek fd offset) answer)) := by
  cases fails : choice.fails with
  | true =>
      simp only [perform, performStored, fails, if_true] at performed
      cases performed
      exact sound.keep (PutsPhase.core_learn rfl _)
  | false =>
      simp only [perform, performStored, fails] at performed
      cases performed
      exact sound.seeks (allowed.own rfl) (PutsPhase.core_learn rfl _)

theorem Sound.write {fd : Nat} {data : Bytes} {answer : Option (Fin data.length)}
    (allowed : (phases worker).Uploads (.write fd data))
    (undisturbed : Undisturbed worker choice (.write fd data) disk)
    (performed : disk.perform sha256 worker choice (.write fd data) =
      some (answer, after)) :
    after.Sound sha256
      (Function.update phases worker ((phases worker).learn (.write fd data) answer)) := by
  by_cases positive : 0 < data.length ∧ choice.fails = false
  · simp only [perform, performStored, dif_pos positive] at performed
    cases performed
    have replaced : Sound sha256
        { disk with
          files := disk.files.replace fd fun opened =>
            overwrite (disk.files.contents opened.file) opened.position
              (data.take (min choice.more (data.length - 1) + 1)) }
        (Function.update phases worker (phases worker)) :=
      sound.replaces _ (unverified positive.2 undisturbed) rfl
    rw [Function.update_eq_self] at replaced
    exact replaced.seeks (allowed.own rfl) (PutsPhase.core_learn rfl _)
  · simp only [perform, performStored, dif_neg positive] at performed
    cases performed
    exact sound.keep (PutsPhase.core_learn rfl _)

theorem Sound.digest {fd : Nat} {answer : Option { sha256Hex : Bytes // IsDigest sha256Hex }}
    (allowed : (phases worker).Uploads (.digest fd))
    (performed : disk.perform sha256 worker choice (.digest fd) = some (answer, after)) :
    after.Sound sha256
      (Function.update phases worker ((phases worker).learn (.digest fd) answer)) := by
  cases phase : phases worker <;> rw [phase] at allowed
  case idle | digested | closed => cases allowed
  case writing hash own stage =>
    obtain ⟨rfl, -⟩ := allowed
    cases fails : choice.fails with
    | true =>
        simp only [perform, performStored, fails, if_true] at performed
        cases performed
        exact sound.keep (by rw [phase]; rfl)
    | false =>
        have isOwn : (phases worker).descriptor = some fd := by
          rw [phase]
          rfl
        obtain ⟨opened, isOpen⟩ := (sound.fits worker).is_open isOwn
        have read : disk.files.bytes fd = some (disk.files.contents opened.file) := by
          rw [FileSystem.bytes, isOpen]
          rfl
        have noted : disk.perform sha256 worker choice (.digest fd) =
            some (some (sha256 (disk.files.contents opened.file)),
              { disk with
                files := disk.files.seek fd (disk.files.contents opened.file).length
                verified :=
                  if disk.files.names
                      (.part (sha256 (disk.files.contents opened.file)).1) =
                        some opened.file then opened.file :: disk.verified
                  else disk.verified }) := by
          simp [perform, performStored, fails, read, note, isOpen]
        rw [noted] at performed
        cases performed
        exact sound.digests phase isOpen _

theorem Sound.closeFile {fd : Nat} {answer : Unit}
    (allowed : (phases worker).Uploads (.close fd))
    (performed : disk.perform sha256 worker choice (.close fd) = some (answer, after)) :
    after.Sound sha256
      (Function.update phases worker ((phases worker).learn (.close fd) answer)) := by
  cases performed
  cases phase : phases worker <;> rw [phase] at allowed
  case idle | closed => cases allowed
  case writing hash own stage =>
    exact sound.closes (by rw [phase]; exact allowed ▸ rfl) rfl trivial
  case digested hash own actual =>
    refine sound.closes (by rw [phase]; exact allowed ▸ rfl) rfl ?_
    have fits := sound.fits worker
    rw [phase] at fits
    obtain ⟨opened, isOpen, isOwn, verified⟩ := fits
    by_cases right : actual = hash
    · rw [PutsPhase.learn, decide_eq_true right]
      exact ⟨opened.file, isOwn, disk.files.descriptors_below isOpen, verified right⟩
    · rw [PutsPhase.learn, decide_eq_false right]
      trivial

theorem Sound.unlinkPart {file : StoredFile} {answer : Bool}
    (performed : disk.perform sha256 worker choice (.unlink file) =
      some (answer, after)) :
    after.Sound sha256
      (Function.update phases worker ((phases worker).learn (.unlink file) answer)) := by
  by_cases refused : choice.fails ∨ disk.files.names file = none
  · simp only [perform, performStored, if_pos refused] at performed
    cases performed
    exact sound.keep (PutsPhase.core_learn rfl _)
  · simp only [perform, performStored, if_neg refused] at performed
    cases performed
    exact sound.unlinks file (PutsPhase.core_learn rfl _)

theorem Sound.publishPart {hash : Bytes} {answer : RenameResult}
    (allowed : (phases worker).Uploads (.publish hash))
    (undisturbed : Undisturbed worker choice (.publish hash) disk)
    (performed : disk.perform sha256 worker choice (.publish hash) =
      some (answer, after)) :
    after.Sound sha256
      (Function.update phases worker ((phases worker).learn (.publish hash) answer)) := by
  by_cases refused : choice.fails ∨ disk.files.names (.part hash) = none
  · simp only [perform, performStored, if_pos refused] at performed
    cases performed
    exact sound.keep (PutsPhase.core_learn rfl _)
  · simp only [perform, performStored, if_neg refused] at performed
    cases performed
    have renamed : disk.files.names (.part hash) = disk.own worker := by
      rcases undisturbed with fails | missing | same
      · exact absurd (Or.inl fails) refused
      · exact absurd (Or.inr missing) refused
      · exact same
    cases phase : phases worker <;> rw [phase] at allowed
    case idle | writing | digested => cases allowed
    case closed own verified =>
      obtain ⟨rfl, rfl⟩ := allowed
      have fits := sound.fits worker
      rw [phase] at fits
      obtain ⟨file, isOwn, -, isVerified⟩ := fits
      have named := renamed.trans isOwn
      exact sound.publishes named (isVerified hash named) (by rw [phase]; rfl)

end Performed

/-- Every call of an upload keeps the objects, if no worker is disturbed. -/
theorem Sound.call {choice : ServerChoice} {op : TaskOp} {disk : UploadDisk}
    {answer : op.Answer} (sound : disk.Sound sha256 phases)
    (allowed : (phases worker).Uploads op)
    (undisturbed : Undisturbed worker choice op disk)
    (performed : disk.perform sha256 worker choice op = some (answer, after)) :
    after.Sound sha256
      (Function.update phases worker ((phases worker).learn op answer)) := by
  by_cases still : isStill op = true
  · rw [perform_still still performed]
    apply sound.keep
    apply PutsPhase.core_learn
    cases op <;> first | rfl | cases still
  cases op with
  | openFile file => exact sound.openFile allowed performed
  | truncate fd => exact sound.truncate undisturbed performed
  | lseek fd offset => exact sound.lseek allowed performed
  | write fd data => exact sound.write allowed undisturbed performed
  | digest fd => exact sound.digest allowed performed
  | close fd => exact sound.closeFile allowed performed
  | unlink file => exact sound.unlinkPart performed
  | publish hash => exact sound.publishPart allowed undisturbed performed
  | _ => exact absurd rfl still

end UploadDisk

/-- Uploads whose calls are interleaved. -/
abbrev Uploads := Pool TaskOp.Answer UploadDisk Unit

namespace Uploads

/-- An upload starts, or makes a call. -/
def step (sha256 : Sha256) :
    Uploads → Move TransferTask ServerChoice → Option Uploads :=
  Pool.step TransferTask.handlePuts (UploadDisk.perform sha256)

def Undisturbed : Uploads → Move TransferTask ServerChoice → Prop :=
  Pool.Meets UploadDisk.Undisturbed

instance (uploads : Uploads) (move : Move TransferTask ServerChoice) :
    Decidable (uploads.Undisturbed move) :=
  Pool.Meets.decidable _ uploads move

/-- The files that a server finds when it starts. -/
def create (files : ServerFiles) : Uploads :=
  ⟨⟨files.closeAll, fun _ => none, []⟩, []⟩

/-- Every object has the digest that it is named by. -/
def Genuine (sha256 : Sha256) (files : ServerFiles) : Prop :=
  ∀ hash data, files.content (.object hash) = some data → (sha256 data).1 = hash

variable {sha256 : Sha256} {files : ServerFiles} {last : Uploads}
  {moves : List (Move TransferTask ServerChoice)}

theorem sound_create (genuine : Genuine sha256 files) :
    (create files).shared.Sound sha256 fun _ => .idle true where
  objects := by
    intro hash file named
    have held : files.content (.object hash) = some (files.contents file) := by
      rw [FileSystem.content, show files.names _ = some file from named]
      rfl
    exact genuine hash _ held
  shut := by
    refine fun hash file named => Or.inr fun fd opened isOpen => ?_
    cases isOpen
  parts := by
    intro hash file verified
    cases verified
  used := by
    intro file verified
    cases verified
  fits := fun _ => trivial
  apart := by
    intro first second fd isDescriptor
    cases isDescriptor

/-- Whatever the uploads send and however they are interleaved, every object has
its digest, as long as nothing is written to a file once its digest was found to be
right, and the temporary file that a worker renames is the one it has opened. -/
theorem run_genuine (genuine : Genuine sha256 files)
    (undisturbed : StepsMeet (step sha256) Undisturbed (create files) moves)
    (reached : runFrom (step sha256) (create files) moves = some last) :
    Genuine sha256 last.shared.files := by
  have guarded : (create files).Guarded PutsPhase.Uploads PutsPhase.learn (.idle true)
      (UploadDisk.Sound sha256) := by
    refine ⟨fun _ => .idle true, fun _ _ => rfl, ?_, sound_create genuine⟩
    intro worker program none
    cases none
  obtain ⟨phases, -, -, sound⟩ := guarded.run
    (fun task : TransferTask => task.makes_handlePuts)
    (fun worker choice op disk phases answer after sound allowed met performed =>
      sound.call allowed met performed) undisturbed reached
  intro hash data held
  obtain ⟨file, named, rfl⟩ := Option.map_eq_some_iff.mp held
  exact sound.objects hash file named

section Runs

/-- The digest of one content differs from the others. -/
def someDigests : Sha256 := fun data =>
  if data = [1] then ⟨List.replicate 64 98, isDigest_replicate⟩
  else ⟨List.replicate 64 97, isDigest_others⟩

def wanted : Bytes := List.replicate 64 98

/-- An empty temporary file is left from a former upload. -/
def emptyPart : ServerFiles := .single (.part wanted) []

theorem genuine_emptyPart : Genuine someDigests emptyPart := by
  intro hash data held
  rw [emptyPart, FileSystem.content_single] at held
  cases held

/-- An upload to the root directory. -/
def upload (path : Bytes) (size : UInt64) : TransferTask where
  packet := ⟨0, 0, .empty, padTo 4096 path ++ hostToNet size ++ padTo 72 wanted⟩
  session := ⟨⟨1, 1, ascii "a", ascii "/"⟩, fits_rootContext⟩
  transferTempDir := ascii "temp"
  storageRoot := ascii "storage"

def answering (answer : (op : TaskOp) → op.Answer) (fd : Nat) : ServerChoice :=
  { ServerChoice.ordinary with answer, fd }

/-- A call of a worker that is answered as usual. -/
def usual (worker : Nat) : Move TransferTask ServerChoice :=
  .call worker .ordinary

def receives (worker : Nat) (type : CmdType) (payload : Bytes) :
    Move TransferTask ServerChoice :=
  .call worker (answering (fun op =>
    match op with
    | .recv => some (Packet.init type .ok .empty payload)
    | op => Choice.ordinary.answer op) 3)

/-- A worker finds its parent directory and opens the temporary file. -/
def opens (worker fd : Nat) : List (Move TransferTask ServerChoice) :=
  [.call worker (answering (fun op =>
      match op with
      | .daoPathGetNodeId .. => (.isDir, 1)
      | op => Choice.ordinary.answer op) 3),
    usual worker, usual worker, .call worker (answering Choice.ordinary.answer fd)]

/-- A worker announces the size and receives one byte. -/
def fills (worker : Nat) (byte : UInt8) : List (Move TransferTask ServerChoice) :=
  [usual worker, usual worker, usual worker, receives worker .fileData [byte],
    usual worker, receives worker .fileEnd []]

/-- A worker syncs, rewinds, digests and closes the temporary file. -/
def verifies (worker : Nat) : List (Move TransferTask ServerChoice) :=
  List.replicate 4 (usual worker)

/-- The object of the wanted hash. -/
def object (uploads : Uploads) : Option Bytes :=
  uploads.shared.files.content (.object wanted)

/-- An upload that is alone. -/
def alone : List (Move TransferTask ServerChoice) :=
  [.start (upload (ascii "/a") 1)] ++ opens 0 3 ++ fills 0 1 ++ verifies 0 ++ [usual 0]

set_option maxRecDepth 20000 in
theorem alone_genuine :
    ∃ last, runFrom (step someDigests) (create emptyPart) alone = some last ∧
      object last = some [1] ∧ Genuine someDigests last.shared.files := by
  have undisturbed : StepsMeet (step someDigests) Undisturbed (create emptyPart)
      alone := by
    decide +kernel
  have published : (runFrom (step someDigests) (create emptyPart) alone).map object =
      some (some [1]) := by
    decide +kernel
  obtain ⟨last, reached, isObject⟩ := Option.map_eq_some_iff.mp published
  exact ⟨last, reached, isObject, run_genuine genuine_emptyPart undisturbed reached⟩

set_option maxRecDepth 20000 in
/-- Two workers have opened the temporary file; the second one writes to it when the
first one has published it.  Of three workers, one removes the temporary file after
another has verified it, and the third one creates it again; the new file is
published. -/
theorem disturbed_objects :
    Genuine someDigests emptyPart ∧
    ((runFrom (step someDigests) (create emptyPart)
        ([.start (upload (ascii "/a") 1), .start (upload (ascii "/b") 1)] ++
          opens 0 3 ++ opens 1 4 ++ (fills 1 2).take 3 ++ fills 0 1 ++ verifies 0 ++
          [usual 0] ++ (fills 1 2).drop 3)).map object = some (some [2]) ∧
      (runFrom (step someDigests) (create emptyPart)
        ([.start (upload (ascii "/a") 1), .start (upload (ascii "/b") 0),
            .start (upload (ascii "/c") 1)] ++
          opens 0 3 ++ opens 1 4 ++ [usual 1, usual 1] ++ verifies 1 ++ fills 0 1 ++
          verifies 0 ++ [usual 1] ++ opens 2 5 ++ [usual 0])).map object =
        some (some [])) ∧
    (someDigests [2]).1 ≠ wanted ∧ (someDigests []).1 ≠ wanted :=
  ⟨genuine_emptyPart, by decide +kernel, by decide, by decide⟩

end Runs

end Uploads

end CloudDrive
