import CloudDrive.UploadSource

/-!
# Resuming an upload

The temporary file of a content is a prefix of it after every attempt to upload
it, however the attempt was cut: each side keeps its part of this whatever it
receives, and what one side receives is what the other has sent.  So the first
attempt that is not cut sends the bytes that are missing.
-/

namespace CloudDrive

/-- What a server keeps between the connections it serves. -/
structure ServerDisk where
  files : ServerFiles
  database : Database

/-- An attempt to upload a file, as far as its turns go. -/
structure UploadAttempt where
  upload : Upload
  clientFiles : ClientFiles
  turns : List TransferTurn

namespace UploadAttempt

/-- The disk after an attempt. -/
def step (sha256 : Sha256) (dialect : Dialect) (disk : ServerDisk)
    (attempt : UploadAttempt) : Option ServerDisk :=
  (runFrom (Transfer.step sha256 dialect)
    (attempt.upload.start attempt.clientFiles disk.files disk.database)
    attempt.turns).map fun last =>
      ⟨last.right.state.files, last.right.state.database⟩

/-- The file of the attempt holds the content. -/
def Uploads (content : Bytes) (attempt : UploadAttempt) : Prop :=
  attempt.clientFiles.content attempt.upload.task.localPath = some content

instance (content : Bytes) (attempt : UploadAttempt) :
    Decidable (attempt.Uploads content) :=
  inferInstanceAs (Decidable (_ = _))

end UploadAttempt

/-- The temporary file of a content is absent or a prefix of it. -/
def ServerFiles.HoldPrefix (sha256 : Sha256) (content : Bytes)
    (files : ServerFiles) : Prop :=
  ∀ part, files.content (.part (sha256 content).1) = some part → part <+: content

namespace Upload

open Transfer

section Attempts

variable {sha256 : Sha256} {dialect : Dialect} {upload : Upload}
  {clientFiles : ClientFiles} {serverFiles : ServerFiles} {database : Database}
  {content : Bytes} {turns : List TransferTurn} {last : Transfer}
  (measurable : content.length < 2 ^ 63)
  (held : clientFiles.content upload.task.localPath = some content)
  (reached : runFrom (Transfer.step sha256 dialect)
    (upload.start clientFiles serverFiles database) turns = some last)

include reached

theorem faithful_run : last.Faithful := by
  have faithful : (upload.start clientFiles serverFiles database).Faithful :=
    ⟨rfl, rfl⟩
  exact faithful.run reached

include measurable in
/-- The server has written what it has received behind what it has announced. -/
theorem partFine_run (holdsPrefix : serverFiles.HoldPrefix sha256 content) :
    PartFine content (sha256 content).1 last.right.state.files last.right.sent
      last.right.received := by
  have resumes : last.right.Guarded PutsPhase.Allows PutsPhase.learn
      fun phase state sent received =>
        phase.Holds content (sha256 content).1 state.files sent received := by
    refine Dialogue.run_right (fun _ messages guarded => guarded.deliver messages)
      (fun _ _ _ _ _ guarded stepped => guarded.step
        (fun phase choice op state sent received holds allowed =>
          holds.keptBy measurable allowed) stepped) ?_ reached
    refine ⟨.idle true, passes_serveTransfer _ _ _, ?_, fun _ => ⟨rfl, rfl⟩⟩
    intro part isPart
    exact Or.inl (holdsPrefix part isPart)
  obtain ⟨phase, -, fine, -⟩ := resumes
  exact fine

include held in
/-- The client has sent bytes of its file from the offset it has been told. -/
theorem sentFine_run : SentFine content last.left.sent last.left.received := by
  have draws : last.left.Guarded (SourcePhase.Allows upload.task.localPath)
      SourcePhase.learn fun phase files sent received =>
        phase.Holds upload.task.localPath content files sent received := by
    refine Dialogue.run_left (fun _ messages guarded => guarded.deliver messages)
      (fun _ _ _ _ _ guarded stepped => guarded.step
        (fun phase choice op state sent received holds allowed =>
          holds.keptBy allowed) stepped) ?_ reached
    exact ⟨.unopened, upload.task.draws_runUpload, held, rfl, rfl⟩
  obtain ⟨phase, -, holds⟩ := draws
  exact holds.sentFine

include measurable held in
/-- An attempt leaves a prefix of the content, wherever it is cut. -/
theorem holdPrefix_run (holdsPrefix : serverFiles.HoldPrefix sha256 content) :
    last.right.state.files.HoldPrefix sha256 content := by
  intro part isPart
  obtain ⟨toRight, toLeft⟩ := faithful_run reached
  rcases partFine_run measurable reached holdsPrefix part isPart with
    isPrefix | ⟨offset, announced, inside, isPrefix⟩
  · exact isPrefix
  · have received : dataOf last.right.received <+: content.drop offset.toNat := by
      have arrived : dataOf last.right.received <+: dataOf last.left.sent := by
        rw [← toRight, dataOf_append]
        exact List.prefix_append _ _
      rcases sentFine_run held reached with nothing | ⟨told, isTold, isSent⟩
      · rw [nothing] at arrived
        rw [List.prefix_nil.mp arrived]
        exact List.nil_prefix
      · have same := announcedOffset_append isTold last.left.inbox
        rw [toLeft, announced] at same
        cases same
        exact arrived.trans isSent
    have joined := (List.prefix_append_right_inj (content.take offset.toNat)).mpr received
    rw [List.take_append_drop] at joined
    exact isPrefix.trans joined

end Attempts

variable {sha256 : Sha256} {dialect : Dialect} {content : Bytes}
  {attempts : List UploadAttempt} {disk last : ServerDisk}

theorem holdPrefix_attempts (measurable : content.length < 2 ^ 63)
    (uploads : ∀ attempt ∈ attempts, attempt.Uploads content)
    (holdsPrefix : disk.files.HoldPrefix sha256 content)
    (reached : runFrom (UploadAttempt.step sha256 dialect) disk attempts =
      some last) :
    last.files.HoldPrefix sha256 content := by
  refine @runFrom_invariant_of_stepsMeet _ _ _
    (fun disk => disk.files.HoldPrefix sha256 content) _
    (fun disk attempt after holdsPrefix held stepped => ?_)
    _ _ _ holdsPrefix (stepsMeet_of_forall uploads disk) reached
  obtain ⟨last, ran, rfl⟩ := Option.map_eq_some_iff.mp stepped
  exact holdPrefix_run measurable held ran holdsPrefix

section Examples

open Download (someSha256)

/-- The client is stopped after it has opened its file. -/
def someAttempt : UploadAttempt :=
  ⟨someUpload, .single (ascii "f") (ascii "abc"), [.left .ordinary]⟩

def someDisk : ServerDisk := ⟨.single (.part Store.someHash) (ascii "a"), noFiles⟩

end Examples

end Upload

end CloudDrive
