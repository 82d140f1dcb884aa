import CloudDrive.HandlerResponses

/-!
# Directory listings

`dao_path_get_ls_dir` prints one row after the other behind what the buffer holds.
Its offset counts the bytes that the entries would take, in an `int`, and passes the
end of the buffer when an entry is cut.
-/

namespace CloudDrive

/-- `strtol` on a column that is not `NULL`. -/
def Cell.strtol : Cell → Nat
  | .null => 0
  | .number value => min (2 ^ 63 - 1) value
  | .text bytes => min (2 ^ 63 - 1) (decimalValue (bytes.takeWhile isDigit))

/-- The bytes in and around a buffer, by their distance from its start. -/
abbrev Memory := Int → UInt8

namespace Memory

def write (memory : Memory) (start : Int) (bytes : Bytes) : Memory :=
  fun offset =>
    if start ≤ offset ∧ offset < start + bytes.length then
      bytes.getD (offset - start).toNat 0
    else memory offset

/-- The buffer holds a text and a NUL after it. -/
def Holds (memory : Memory) (text : Bytes) : Prop :=
  ∀ index : Nat, index ≤ text.length → memory index = text.getD index 0

theorem Holds.append {memory : Memory} {text : Bytes} (holds : memory.Holds text)
    (more : Bytes) :
    (memory.write text.length (more ++ [0])).Holds (text ++ more) := by
  intro index inside
  rw [List.length_append] at inside
  rw [write, List.length_append, List.length_singleton]
  by_cases old : index < text.length
  · rw [if_neg (by omega), holds index (by omega)]
    simp [List.getD_eq_getElem?_getD, List.getElem?_append_left old]
  · rw [if_pos (by omega)]
    have distance : ((index : Int) - text.length).toNat = index - text.length := by
      omega
    rw [distance, List.getD_eq_getElem?_getD, List.getD_eq_getElem?_getD,
      List.getElem?_append_right (Nat.le_of_not_lt old)]
    by_cases before : index - text.length < more.length
    · rw [List.getElem?_append_left before]
    · have isEnd : index - text.length = more.length := by omega
      rw [isEnd]
      simp

end Memory

/-- What `snprintf` returns for a text. -/
def snprintfResult (text : Bytes) : Int :=
  if text.length < 2147483648 then text.length else -1

/-- The buffer of `dao_path_get_ls_dir` and its offset; besides, the sizes that
`snprintf` has been given and the extents of what has been written. -/
structure ListingBuffer where
  memory : Memory
  used : Int
  sizes : List Int
  writes : List (Int × Nat)

namespace ListingBuffer

def start (memory : Memory) : ListingBuffer := ⟨memory, 0, [], []⟩

def write (buffer : ListingBuffer) (offset : Int) (bytes : Bytes) : ListingBuffer :=
  { buffer with
    memory := buffer.memory.write offset bytes
    writes := buffer.writes ++ [(offset, bytes.length)] }

/-- `used += snprintf(ls_resp + used, size - used, ...)`; the difference becomes a
`size_t`. -/
def print (size : Int) (buffer : ListingBuffer) (text : Bytes) : ListingBuffer :=
  let remaining := cInt (size - buffer.used)
  let room := (remaining % 18446744073709551616).toNat
  let printed :=
    if room = 0 then buffer else buffer.write buffer.used (snprintf room text ++ [0])
  { printed with
    used := cInt (buffer.used + snprintfResult text)
    sizes := buffer.sizes ++ [remaining] }

theorem used_print (size : Int) (buffer : ListingBuffer) (text : Bytes) :
    (buffer.print size text).used = cInt (buffer.used + snprintfResult text) := rfl

theorem sizes_print (size : Int) (buffer : ListingBuffer) (text : Bytes) :
    (buffer.print size text).sizes = buffer.sizes ++ [cInt (size - buffer.used)] := rfl

def printRow (size : Int) (buffer : ListingBuffer) (row : List Cell) : ListingBuffer :=
  let name := ((column row 0).string).getD []
  let directory :=
    if (column row 1).strtol = 1 then buffer.print size (name ++ ascii "/  ")
    else buffer
  if (column row 1).strtol = 0 then directory.print size (name ++ ascii "  ")
  else directory

/-- The loop of `dao_path_get_ls_dir`. -/
def printRows (size : Int) : ListingBuffer → List (List Cell) → ListingBuffer
  | buffer, [] => buffer
  | buffer, row :: rows =>
      let printed := buffer.printRow size row
      if size ≤ printed.used then printed.write (size - 1) [0]
      else printRows size printed rows

end ListingBuffer

/-- An entry of a directory. -/
structure DirectoryEntry where
  name : Bytes
  isDirectory : Bool
  noNul : 0 ∉ name

namespace DirectoryEntry

/-- The row that tells the entry. -/
def row (entry : DirectoryEntry) : List Cell :=
  [.text entry.name, .number (if entry.isDirectory then 1 else 0)]

/-- What the listing says about the entry. -/
def text (entry : DirectoryEntry) : Bytes :=
  entry.name ++ if entry.isDirectory then ascii "/  " else ascii "  "

theorem two_le_length_text (entry : DirectoryEntry) : 2 ≤ entry.text.length := by
  have suffix : 2 ≤ (if entry.isDirectory then ascii "/  " else ascii "  ").length := by
    cases entry.isDirectory <;> decide +kernel
  rw [text, List.length_append]
  omega

theorem listingEntry_row (entry : DirectoryEntry) :
    listingEntry entry.row = entry.text := by
  have isName : cString entry.name = entry.name := cString_eq_self.mpr entry.noNul
  cases isType : entry.isDirectory <;> simp [listingEntry, row, text, isType, isName]

theorem printRow_row (entry : DirectoryEntry) (size : Int) (buffer : ListingBuffer) :
    buffer.printRow size entry.row = buffer.print size entry.text := by
  have isName : cString entry.name = entry.name := cString_eq_self.mpr entry.noNul
  cases isType : entry.isDirectory <;>
    simp [ListingBuffer.printRow, Cell.strtol, row, text, isType, isName]

end DirectoryEntry

/-- The full listing of a directory. -/
def fullListing (entries : List DirectoryEntry) : Bytes :=
  entries.flatMap DirectoryEntry.text

namespace ListingBuffer

/-- Every call of `snprintf` has had room, nothing has been written outside of the
buffer, and the buffer holds the text. -/
structure Prints (size : Nat) (text : Bytes) (buffer : ListingBuffer) : Prop where
  sizes : ∀ remaining ∈ buffer.sizes, 0 < remaining
  writes : ∀ write ∈ buffer.writes, 0 ≤ write.1 ∧ write.1 + write.2 ≤ size
  holds : buffer.memory.Holds text

variable {size : Nat} {text : Bytes} {buffer : ListingBuffer}

theorem Prints.write (prints : buffer.Prints size text) {more : Bytes}
    (room : text.length + more.length < size) :
    (buffer.write text.length (more ++ [0])).Prints size (text ++ more) where
  sizes := prints.sizes
  writes := by
    intro write isWrite
    rcases List.mem_append.mp isWrite with old | new
    · exact prints.writes write old
    · rw [List.mem_singleton.mp new]
      simp only [List.length_append, List.length_singleton]
      omega
  holds := prints.holds.append more

/-- The last byte of the buffer becomes NUL. -/
theorem Prints.terminate (prints : buffer.Prints size text)
    (full : text.length + 1 = size) : (buffer.write (size - 1) [0]).Prints size text := by
  have isEnd : (size : Int) - 1 = text.length := by omega
  have written : (buffer.write text.length ([] ++ [0])).Prints size (text ++ []) :=
    prints.write (by rw [List.length_nil]; omega)
  rw [List.append_nil, List.nil_append, ← isEnd] at written
  exact written

theorem Prints.print (prints : buffer.Prints size text) (isUsed : buffer.used = text.length)
    (room : text.length < size) (small : size < 2147483648) {entry : Bytes}
    (short : size + entry.length ≤ 2147483648) :
    (buffer.print size entry).Prints size
        (text ++ entry.take (size - text.length - 1)) ∧
      (buffer.print size entry).used = text.length + entry.length := by
  have remaining : cInt (size - buffer.used) = size - text.length := by
    rw [isUsed]
    exact cInt_eq (by omega) (by omega)
  have result : cInt (buffer.used + snprintfResult entry) =
      text.length + entry.length := by
    rw [isUsed, snprintfResult, if_pos (by omega)]
    exact cInt_eq (by omega) (by omega)
  have roomLeft : (((size : Int) - text.length) % 18446744073709551616).toNat =
      size - text.length := by
    rw [Int.emod_eq_of_lt (by omega) (by omega)]
    omega
  have taken : text.length + (entry.take (size - text.length - 1)).length < size := by
    rw [List.length_take]
    omega
  have written := prints.write taken
  rw [ListingBuffer.print, remaining, roomLeft, if_neg (by omega), result, isUsed]
  refine ⟨⟨?_, written.writes, written.holds⟩, rfl⟩
  intro given isGiven
  rcases List.mem_append.mp isGiven with old | new
  · exact prints.sizes given old
  · rw [List.mem_singleton.mp new]
    omega

end ListingBuffer

/-- What is left of a listing whose first entry does not fit. -/
theorem take_listing_full {size : Nat} {text entry rest : Bytes}
    (room : text.length < size) (full : size ≤ text.length + entry.length) :
    (text ++ entry ++ rest).take (size - 1) =
      text ++ entry.take (size - text.length - 1) := by
  have inside : size - 1 ≤ (text ++ entry).length := by
    rw [List.length_append]
    omega
  rw [List.take_append_of_le_length inside, List.take_append,
    List.take_of_length_le (by omega), Nat.sub_right_comm]

theorem fullListing_cons (entry : DirectoryEntry) (entries : List DirectoryEntry) :
    fullListing (entry :: entries) = entry.text ++ fullListing entries :=
  List.flatMap_cons

theorem take_fullListing_nil {size : Nat} {text : Bytes} (room : text.length < size) :
    (text ++ fullListing []).take (size - 1) = text := by
  rw [fullListing, List.flatMap_nil, List.append_nil]
  exact List.take_of_length_le (by omega)

/-- The loop prints the longest part of the listing that fits. -/
theorem ListingBuffer.Prints.printRows {size : Nat} {text : Bytes}
    {buffer : ListingBuffer} {entries : List DirectoryEntry}
    (prints : buffer.Prints size text) (isUsed : buffer.used = text.length)
    (room : text.length < size)
    (short : ∀ entry ∈ entries, size + entry.text.length ≤ 2147483648) :
    (buffer.printRows size (entries.map DirectoryEntry.row)).Prints size
      ((text ++ fullListing entries).take (size - 1)) := by
  induction entries generalizing buffer text with
  | nil =>
      rw [take_fullListing_nil room]
      exact prints
  | cons entry entries inductionHypothesis =>
      have small : size < 2147483648 := by
        have := short entry (by simp)
        have := entry.two_le_length_text
        omega
      obtain ⟨printed, used⟩ := prints.print isUsed room small (short entry (by simp))
      rw [List.map_cons, ListingBuffer.printRows, entry.printRow_row, used,
        fullListing_cons, ← List.append_assoc]
      split
      · rename_i isFull
        have full : size ≤ text.length + entry.text.length := by omega
        rw [take_listing_full room full]
        apply printed.terminate
        rw [List.length_append, List.length_take]
        omega
      · rename_i fits
        have all : entry.text.take (size - text.length - 1) = entry.text :=
          List.take_of_length_le (by omega)
        rw [all] at printed
        apply inductionHypothesis printed
        · rw [used, List.length_append]
          omega
        · rw [List.length_append]
          omega
        · exact fun other isOther => short other (by simp [isOther])

/-- The listing as the handlers get it. -/
theorem listingLoop_entries {size : Nat} {text : Bytes} (entries : List DirectoryEntry)
    (room : text.length < size) :
    listingLoop size text text.length (entries.map DirectoryEntry.row) =
      (text ++ fullListing entries).take (size - 1) := by
  induction entries generalizing text with
  | nil =>
      rw [take_fullListing_nil room]
      rfl
  | cons entry entries inductionHypothesis =>
      rw [List.map_cons, listingLoop, entry.listingEntry_row, fullListing_cons,
        ← List.append_assoc]
      split
      · rename_i full
        rw [take_listing_full room full]
      · rename_i fits
        have all : entry.text.take (size - text.length - 1) = entry.text :=
          List.take_of_length_le (by omega)
        rw [all, ← List.length_append]
        apply inductionHypothesis
        rw [List.length_append]
        omega

/-- What `dao_path_get_ls_dir` returns, and the listing it leaves. -/
abbrev ListingResult := Int × { listing : Bytes // listing.length < maxPacketPayload }

/-- The result tells the entries whose rows have been stored. -/
def ListingResult.Tells (result : ListingResult) (rows : Option (List (List Cell))) :
    Prop :=
  ∀ entries, rows = some (List.map DirectoryEntry.row entries) →
    result.2.1 = (fullListing entries).take (maxPacketPayload - 1) ∧
    ((fullListing entries).length < maxPacketPayload →
      0 ≤ result.1 ∧ result.2.1 = fullListing entries)

/-- The rows that a program has stored. -/
def storedRows (rows : Option (List (List Cell))) :
    (op : DbOp) → DbOp.Answer op → Option (List (List Cell))
  | .storeResult, stored => stored
  | _, _ => rows

/-- The listing that `handle_ls` has been given, and its responses. -/
structure LsProgress where
  found : Option ListingResult
  responses : List Packet

namespace LsProgress

def update (progress : LsProgress) : (op : TaskOp) → op.Answer → LsProgress
  | .daoPathGetLsDir .., found => { progress with found := some found }
  | .send packet, _ => { progress with responses := progress.responses ++ [packet] }
  | _, _ => progress

/-- There is one response, which fits a packet and carries the listing if one has
been found. -/
def Responds (progress : LsProgress) (sessionId : SessionId) : Prop :=
  ∃ packet, progress.responses = [packet] ∧
    packet.payload.length ≤ maxPacketPayload ∧
    ∀ result, progress.found = some result → 0 ≤ result.1 →
      packet = Packet.init .ack .ok sessionId result.2.1

end LsProgress

theorem length_fullListing (entries : List DirectoryEntry) :
    2 * entries.length ≤ (fullListing entries).length := by
  induction entries with
  | nil => exact Nat.zero_le _
  | cons entry entries inductionHypothesis =>
      have long := entry.two_le_length_text
      rw [fullListing_cons, List.length_append, List.length_cons]
      omega

theorem daoPathGetLsDir_tells (userId parentId : UInt64) :
    (daoPathGetLsDir userId parentId).Obeys (fun _ _ => True) storedRows none
      ListingResult.Tells := by
  refine ⟨trivial, fun acquired => ?_⟩
  cases acquired with
  | false => exact nofun
  | true =>
      refine ⟨trivial, fun succeeds => ?_⟩
      cases succeeds with
      | false => exact ⟨trivial, fun _ => nofun⟩
      | true =>
          refine ⟨trivial, fun stored => ⟨trivial, fun _ => ?_⟩⟩
          cases stored with
          | none => exact nofun
          | some rows =>
              rintro entries ⟨⟩
              have listing : listingLoop maxPacketPayload [] 0
                  (entries.map DirectoryEntry.row) =
                    (fullListing entries).take (maxPacketPayload - 1) :=
                listingLoop_entries entries (by decide)
              refine ⟨listing, fun fits => ⟨?_, listing.trans ?_⟩⟩
              · have many := length_fullListing entries
                have limit : maxPacketPayload = 65536 := rfl
                have counted : cInt (entries.map DirectoryEntry.row).length =
                    entries.length := by
                  rw [List.length_map]
                  exact cInt_eq (by omega) (by omega)
                exact counted ▸ Int.natCast_nonneg _
              · exact List.take_of_length_le (Nat.le_sub_one_of_lt fits)

section Responses

open HandlerTask

variable {task : HandlerTask}

theorem responds_reply {found : Option ListingResult} {type : CmdType}
    {status : StatusCode} {payload : Bytes} (fits : payload.length ≤ maxPacketPayload)
    (carries : ∀ result, found = some result → 0 ≤ result.1 →
      type = .ack ∧ status = .ok ∧ payload = result.2.1) :
    (task.reply type status payload).Obeys (fun _ _ => True) LsProgress.update
      ⟨found, []⟩ fun _ progress => progress.Responds task.packet.sessionId := by
  rw [reply, respond, sendPacket, if_neg (Nat.not_lt.mpr fits)]
  refine ⟨trivial, fun _ => ⟨_, rfl, fits, ?_⟩⟩
  intro result isFound counted
  obtain ⟨rfl, rfl, rfl⟩ := carries result isFound counted
  rfl

theorem handleLs_responds (task : HandlerTask) :
    task.handleLs.Obeys (fun _ _ => True) LsProgress.update ⟨none, []⟩
      fun _ progress => progress.Responds task.packet.sessionId := by
  have short : ∀ type status {payload : Bytes}, payload.length < pathMax →
      (task.reply type status payload).Obeys (fun _ _ => True) LsProgress.update
        ⟨none, []⟩ fun _ progress => progress.Responds task.packet.sessionId := by
    intro type status payload isShort
    exact responds_reply (Nat.le_trans (Nat.le_of_lt isShort) (by decide)) nofun
  have fails : ∀ status, (task.fail status).Obeys (fun _ _ => True) LsProgress.update
      ⟨none, []⟩ fun _ progress => progress.Responds task.packet.sessionId :=
    fun status => short .error status (by decide)
  unfold handleLs
  split
  · exact fails .badRequest
  · rename_i payload copied
    dsimp only
    split
    · exact fails .badRequest
    · rename_i targetPath normalized
      have isShort : targetPath.length < pathMax := by
        split at normalized
        · cases normalized
          exact task.session.2.2
        · exact length_normalizeCdPath (by decide) normalized
      refine ⟨trivial, fun node => ?_⟩
      obtain ⟨result, targetId⟩ := node
      cases result with
      | isFile =>
          dsimp only
          split
          · exact fails .badRequest
          · rename_i target
            exact short .ack .ok (length_splitTarget target isShort).2
      | isDir =>
          refine .ask trivial fun listed => ?_
          obtain ⟨count, listing⟩ := listed
          dsimp only
          split
          · rename_i negative
            apply responds_reply (Nat.le_trans (Nat.le_of_lt isShort) (by decide))
            rintro _ ⟨⟩ counted
            exact absurd negative (Int.not_lt.mpr counted)
          · apply responds_reply (Nat.le_of_lt listing.2)
            rintro _ ⟨⟩ -
            exact ⟨rfl, rfl, rfl⟩
      | notFound => exact short .error .dirNotexist isShort
      | dbError | badArg => exact short .error .otherError isShort

end Responses

theorem noNul_fullListing (entries : List DirectoryEntry) : 0 ∉ fullListing entries := by
  intro inside
  obtain ⟨entry, -, inText⟩ := List.mem_flatMap.mp inside
  rcases List.mem_append.mp inText with inName | inSuffix
  · exact entry.noNul inName
  · revert inSuffix
    cases entry.isDirectory <;> decide +kernel

/-- As long as the offset cannot leave the range of `int`, the loop prints the longest
part of the listing that the buffer has room for, every call of `snprintf` has room,
and nothing is written outside of the buffer.  `handle_ls` then sends one response,
which fits a packet and is the whole listing if the whole listing fits the buffer. -/
theorem daoPathGetLsDir_prints_listing {entries : List DirectoryEntry} {size : Nat}
    {memory : Memory} (nonempty : 1 ≤ size) (empty : memory 0 = 0)
    (short : ∀ entry ∈ entries, size + entry.text.length ≤ 2147483648) :
    let last := (ListingBuffer.start memory).printRows size
      (entries.map DirectoryEntry.row)
    (∀ remaining ∈ last.sizes, 0 < remaining) ∧
    (∀ write ∈ last.writes, 0 ≤ write.1 ∧ write.1 + write.2 ≤ size) ∧
    last.memory.Holds ((fullListing entries).take (size - 1)) ∧
    0 ∉ fullListing entries ∧
    (∀ userId parentId, (daoPathGetLsDir userId parentId).Obeys (fun _ _ => True)
      storedRows none ListingResult.Tells) ∧
    ∀ task : HandlerTask, task.handleLs.Obeys (fun _ _ => True) LsProgress.update
      ⟨none, []⟩ fun _ progress => progress.Responds task.packet.sessionId := by
  have starts : (ListingBuffer.start memory).Prints size [] := by
    refine ⟨nofun, nofun, fun index inside => ?_⟩
    rw [List.length_nil, Nat.le_zero] at inside
    rw [inside]
    exact empty
  obtain ⟨sizes, writes, holds⟩ := starts.printRows rfl nonempty short
  exact ⟨sizes, writes, holds, noNul_fullListing entries, daoPathGetLsDir_tells,
    handleLs_responds⟩

/-- A directory and a file in a buffer of eight bytes. -/
theorem daoPathGetLsDir_cuts_second_entry :
    ((ListingBuffer.start fun _ => 0).printRows 8
      [[.text (ascii "d"), .number 1], [.text (ascii "file"), .number 0]]).memory.Holds
        (ascii "d/  fil") := by
  have short : ∀ entry ∈ [⟨ascii "d", true, by decide +kernel⟩,
      (⟨ascii "file", false, by decide +kernel⟩ : DirectoryEntry)],
        8 + entry.text.length ≤ 2147483648 := by
    decide +kernel
  exact (daoPathGetLsDir_prints_listing (by decide) rfl short).2.2.1

/-- A file with a long name. -/
def longEntry (length : Nat) : DirectoryEntry where
  name := List.replicate length 97
  isDirectory := false
  noNul := fun inside => absurd (List.eq_of_mem_replicate inside) (by decide)

theorem length_text_longEntry (length : Nat) :
    (longEntry length).text.length = length + 2 := by
  have suffix : (ascii "  ").length = 2 := by decide +kernel
  rw [DirectoryEntry.text, List.length_append, longEntry, List.length_replicate,
    if_neg Bool.false_ne_true, suffix]

/-- After an entry of as many bytes as an `int` can count the offset is negative, and
so is the next size. -/
theorem sizes_longEntry (length : Nat) (isLong : length = 2147483645) :
    ((ListingBuffer.start fun _ => 0).printRows 100
      ([longEntry 1, longEntry length, longEntry 1].map DirectoryEntry.row)).sizes =
        [100, 97, -2147483550] := by
  have first : snprintfResult (longEntry 1).text = 3 := by
    rw [snprintfResult, length_text_longEntry]
    rfl
  have second : snprintfResult (longEntry length).text = 2147483647 := by
    rw [snprintfResult, length_text_longEntry, isLong]
    rfl
  simp only [List.map_cons, List.map_nil, ListingBuffer.printRows,
    DirectoryEntry.printRow_row, ListingBuffer.used_print, first, second]
  rw [if_neg (by decide), if_neg (by decide), if_neg (by decide)]
  simp only [ListingBuffer.sizes_print, ListingBuffer.used_print, first, second]
  rfl

theorem daoPathGetLsDir_passes_negative_size :
    ∃ remaining ∈ ((ListingBuffer.start fun _ => 0).printRows 100
      ([longEntry 1, longEntry 2147483645, longEntry 1].map DirectoryEntry.row)).sizes,
        remaining < 0 := by
  rw [sizes_longEntry 2147483645 rfl]
  decide

end CloudDrive
