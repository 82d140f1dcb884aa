import CloudDrive.ClientTransfers
import CloudDrive.Files

/-!
# The environment of a client worker

What the calls of a worker do to the files of the client.  The environment
decides which calls fail, which descriptors are given out, how much a `read` or
a `write` moves and what arrives at the socket.  SHA-256 is any function that
returns digests.
-/

namespace CloudDrive

/-- The files of the client by their paths. -/
abbrev ClientFiles := FileSystem Bytes UInt8

/-- SHA-256, as the hexadecimal text of the digest. -/
abbrev Sha256 := Bytes → { sha256Hex : Bytes // IsDigest sha256Hex }

theorem isDigest_replicate : IsDigest (List.replicate 64 98) := by
  unfold IsDigest
  decide

theorem isDigest_others : IsDigest (List.replicate 64 97) := by
  unfold IsDigest
  decide

/-- What the environment decides about a call. -/
structure ClientChoice where
  fails : Bool
  canceled : Bool
  received : Option Packet
  /-- The descriptor that `open` returns. -/
  fd : Nat
  /-- How many bytes move besides the first. -/
  more : Nat

/-- Every call succeeds as far as it can. -/
def ClientChoice.ordinary : ClientChoice := ⟨false, false, none, 3, 4096⟩

/-- The outcome of `open`: a descriptor in use is not given out, and a file
that is not created has to exist. -/
def openClient (choice : ClientChoice) (creates : Bool) (path : Bytes)
    (files : ClientFiles) : Option Nat × ClientFiles :=
  if choice.fails ∨ files.descriptors choice.fd ≠ none then (none, files)
  else if creates then (some choice.fd, files.openOrCreate path choice.fd)
  else if files.names path = none then (none, files)
  else (some choice.fd, files.openFile path choice.fd)

theorem openClient_creates {choice : ClientChoice} {path : Bytes}
    {files after : ClientFiles} {opened : Option Nat}
    (performed : openClient choice true path files = (opened, after)) :
    opened = none ∧ after = files ∨
      opened = some choice.fd ∧ files.descriptors choice.fd = none ∧
        after = files.openOrCreate path choice.fd := by
  rw [openClient] at performed
  split_ifs at performed with fails
  · cases performed
    exact Or.inl ⟨rfl, rfl⟩
  · cases performed
    rw [not_or, Decidable.not_not] at fails
    exact Or.inr ⟨rfl, fails.2, rfl⟩
  all_goals exact absurd rfl ‹¬true = true›

theorem openClient_existing {choice : ClientChoice} {path : Bytes}
    {files after : ClientFiles} {opened : Option Nat}
    (performed : openClient choice false path files = (opened, after)) :
    opened = none ∧ after = files ∨
      opened = some choice.fd ∧ files.descriptors choice.fd = none ∧
        after = files.openFile path choice.fd ∧
        ∃ file, files.names path = some file := by
  rw [openClient] at performed
  split_ifs at performed with fails creates missing
  · cases performed
    exact Or.inl ⟨rfl, rfl⟩
  · exact creates.elim
  · cases performed
    exact Or.inl ⟨rfl, rfl⟩
  · cases performed
    rw [not_or, Decidable.not_not] at fails
    exact Or.inr ⟨rfl, fails.2, rfl, Option.ne_none_iff_exists'.mp missing⟩

/-- A call of a worker. -/
def performClient (sha256 : Sha256) (choice : ClientChoice) :
    (op : ClientOp) → ClientFiles → op.Answer × ClientFiles
  | .canceled, files => (choice.canceled, files)
  | .send _, files => (!choice.fails, files)
  | .recv, files => (if choice.fails then none else choice.received, files)
  | .openFile path, files => openClient choice false path files
  | .openOrCreate path, files => openClient choice true path files
  | .fstat fd, files =>
      (if choice.fails then none
        else (files.bytes fd).map fun data => UInt64.ofNat data.length, files)
  | .truncate fd, files =>
      if choice.fails then (false, files) else (true, files.truncate fd)
  | .lseek fd offset, files =>
      if choice.fails then (false, files)
      else (true, files.seek fd offset.toNat)
  | .read fd count, files =>
      let data := (files.unread fd).take (min count (choice.more + 1))
      if choice.fails then (none, files)
      else
        (some ⟨data, by
            simp only [data, List.length_take]
            omega⟩,
          files.seek fd (files.position fd + data.length))
  | .write fd data, files =>
      if positive : 0 < data.length ∧ choice.fails = false then
        let more := min choice.more (data.length - 1)
        (some ⟨more, by omega⟩, files.write fd (data.take (more + 1)))
      else (none, files)
  | .fsync _, files => (!choice.fails, files)
  | .digest fd, files =>
      if choice.fails then (none, files)
      else
        ((files.bytes fd).map sha256,
          files.seek fd ((files.bytes fd).getD []).length)
  | .close fd, files => ((), files.close fd)
  | .rename source target, files =>
      if choice.fails ∨ files.names source = none then (false, files)
      else (true, files.rename source target)

end CloudDrive
