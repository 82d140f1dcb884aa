import CloudDrive.PathResolution

/-!
# The buffers of `normalize_cd_path`

The function keeps pointers to the components of a path in an array that it
indexes without a check, and writes the normalised path with `strcpy` and
`strcat` into a buffer of the caller.  This file follows every index and every
byte that is written.
-/

namespace CloudDrive

/-- The variables of the loop over the tokens, with the indices at which `parts` has
been written, the latest first. -/
structure PathScan where
  depth : Int
  parts : Int → Option Bytes
  written : List Int

namespace PathScan

def start : PathScan := ⟨0, fun _ => none, []⟩

/-- One iteration of the loop. -/
def step (scan : PathScan) (token : Bytes) : PathScan :=
  if token = ascii "." then scan
  else if token = ascii ".." then
    if 0 < scan.depth then { scan with depth := scan.depth - 1 } else scan
  else
    { depth := scan.depth + 1
      parts := Function.update scan.parts scan.depth (some token)
      written := scan.depth :: scan.written }

/-- The depth and the written indices after a number of tokens. -/
structure Within (count : Nat) (scan : PathScan) : Prop where
  nonnegative : 0 ≤ scan.depth
  depth_le : scan.depth ≤ count
  written_lt : ∀ index ∈ scan.written, 0 ≤ index ∧ index < count

theorem Within.step {count : Nat} {scan : PathScan} (within : Within count scan)
    (token : Bytes) : Within (count + 1) (scan.step token) := by
  obtain ⟨nonnegative, depth_le, written_lt⟩ := within
  have later : ∀ index ∈ scan.written, 0 ≤ index ∧ index < (count + 1 : Nat) := by
    intro index written
    have bounds := written_lt index written
    omega
  rw [PathScan.step]
  split_ifs with isDot isDots below
  · exact ⟨nonnegative, by omega, later⟩
  · exact ⟨by dsimp only; omega, by dsimp only; omega, later⟩
  · exact ⟨nonnegative, by omega, later⟩
  · refine ⟨by dsimp only; omega, by dsimp only; omega, ?_⟩
    intro index written
    rcases List.mem_cons.mp written with rfl | earlier
    · omega
    · exact later index earlier

theorem Within.foldl {count : Nat} {scan : PathScan} (within : Within count scan)
    (tokens : List Bytes) :
    Within (count + tokens.length) (tokens.foldl PathScan.step scan) := by
  induction tokens generalizing count scan with
  | nil => exact within
  | cons token tokens inductionHypothesis =>
      have rest := inductionHypothesis (within.step token)
      rw [List.length_cons, Nat.add_comm tokens.length, ← Nat.add_assoc]
      exact rest

theorem within_start : Within 0 start :=
  ⟨Int.le_refl 0, Int.le_refl 0, fun _ written => by cases written⟩

/-- A token takes a byte of its own and, but for the first, a slash before it. -/
theorem length_tokens (path : Bytes) :
    2 * (strtok slash [] path).length ≤ path.length + 1 := by
  have slashedLength : ∀ tokens : List Bytes, (∀ token ∈ tokens, token ≠ []) →
      2 * tokens.length ≤ (slashed tokens).length := by
    intro tokens nonempty
    induction tokens with
    | nil => simp
    | cons token tokens inductionHypothesis =>
        obtain ⟨first, others⟩ := List.forall_mem_cons.mp nonempty
        have rest := inductionHypothesis others
        have size := List.length_pos_iff.mpr first
        simp only [slashed_cons, List.length_append, List.length_cons]
        omega
  have counted := slashedLength (strtok slash [] path) fun token => ne_nil_of_strtok
  have bounded := PathWalk.length_strtok [] path
  rw [List.length_nil] at bounded
  omega

/-- Whatever the joined string of fewer than `PATH_MAX` bytes is, the array holds all
the components that have been read at any time. -/
theorem scan_stays_within {cwd argument : Bytes}
    (fits : (joinArgument cwd argument).length < pathMax) {read : List Bytes}
    (isRead : read <+: strtok slash [] (joinArgument cwd argument)) :
    let scan := read.foldl PathScan.step start
    0 ≤ scan.depth ∧ scan.depth ≤ pathMax / 2 ∧
      ∀ index ∈ scan.written, 0 ≤ index ∧ index < pathMax / 2 := by
  have tokens := length_tokens (joinArgument cwd argument)
  have isShort := isRead.length_le
  have half : pathMax / 2 = 2048 := rfl
  have size : pathMax = 4096 := rfl
  obtain ⟨nonnegative, depth_le, written_lt⟩ := within_start.foldl read
  refine ⟨nonnegative, by omega, fun index written => ?_⟩
  have bounds := written_lt index written
  omega

theorem relative_path_stays_within :
    let scan := (strtok slash [] (joinArgument (ascii "a//b") (ascii "./../c/d"))).foldl
      PathScan.step start
    0 ≤ scan.depth ∧ scan.depth ≤ pathMax / 2 ∧
      ∀ index ∈ scan.written, 0 ≤ index ∧ index < pathMax / 2 :=
  scan_stays_within (by decide +kernel) (List.prefix_refl _)

/-- The array holds a stack of components, the last one on top. -/
structure Holds (scan : PathScan) (stack : List Bytes) : Prop where
  depth_eq : scan.depth = stack.length
  parts_eq : ∀ index : Nat, index < stack.length →
    scan.parts index = stack.reverse[index]?

theorem holds_start : Holds start [] :=
  ⟨rfl, fun index inside => absurd inside (Nat.not_lt_zero index)⟩

theorem Holds.step {scan : PathScan} {stack : List Bytes} (holds : Holds scan stack)
    (token : Bytes) : Holds (scan.step token) (pushComponent stack token) := by
  obtain ⟨depth_eq, parts_eq⟩ := holds
  rw [PathScan.step, pushComponent]
  split_ifs with isDot isDots below
  · exact ⟨depth_eq, parts_eq⟩
  · cases stack with
    | nil => simp [depth_eq] at below
    | cons top stack =>
        refine ⟨?_, fun index inside => ?_⟩
        · simp [depth_eq]
        · have stored := parts_eq index (Nat.lt_succ_of_lt inside)
          rw [List.reverse_cons, List.getElem?_append_left (by simpa using inside)]
            at stored
          exact stored
  · cases stack with
    | nil => exact ⟨depth_eq, parts_eq⟩
    | cons top stack =>
        simp only [depth_eq, List.length_cons] at below
        omega
  · refine ⟨?_, fun index inside => ?_⟩
    · simp [depth_eq]
    · rw [List.reverse_cons]
      by_cases isTop : index = stack.length
      · subst isTop
        dsimp only
        rw [depth_eq, Function.update_self, List.getElem?_append_right (by simp)]
        simp
      · have earlier : index < stack.length := by
          rw [List.length_cons] at inside
          omega
        have other : (index : Int) ≠ scan.depth := by omega
        dsimp only
        rw [Function.update_of_ne other, parts_eq index earlier,
          List.getElem?_append_left (by simpa using earlier)]

theorem Holds.foldl {scan : PathScan} {stack : List Bytes} (holds : Holds scan stack)
    (tokens : List Bytes) :
    Holds (tokens.foldl PathScan.step scan) (tokens.foldl pushComponent stack) := by
  induction tokens generalizing scan stack with
  | nil => exact holds
  | cons token tokens inductionHypothesis => exact inductionHypothesis (holds.step token)

/-- The components below the depth, in the order of the final loop. -/
def kept (scan : PathScan) : List Bytes :=
  (List.range scan.depth.toNat).map fun index : Nat => (scan.parts index).getD []

theorem Holds.kept_eq {scan : PathScan} {stack : List Bytes} (holds : Holds scan stack) :
    scan.kept = stack.reverse := by
  apply List.ext_getElem?
  intro index
  rw [kept, holds.depth_eq, Int.toNat_natCast]
  by_cases inside : index < stack.length
  · simp [inside, holds.parts_eq index inside]
  · simp [inside]

end PathScan

/-- The string in the buffer of the caller, and the bytes written to it so far with
their offsets. -/
structure OutBuffer where
  text : Bytes
  writes : List (Nat × UInt8)

namespace OutBuffer

/-- The bytes of a string with its terminator, from an offset on. -/
def placed (offset : Nat) (text : Bytes) : List (Nat × UInt8) :=
  ((text ++ [0]).zipIdx offset).map Prod.swap

/-- `strcpy(out, text)`. -/
def strcpy (buffer : OutBuffer) (text : Bytes) : OutBuffer :=
  ⟨text, buffer.writes ++ placed 0 text⟩

/-- `strcat(out, text)`. -/
def strcat (buffer : OutBuffer) (text : Bytes) : OutBuffer :=
  ⟨buffer.text ++ text, buffer.writes ++ placed buffer.text.length text⟩

/-- The final loop of `normalize_cd_path`. -/
def rebuild (outSize : Nat) : OutBuffer → List Bytes → Int × OutBuffer
  | buffer, [] => (0, buffer)
  | buffer, part :: parts =>
      if outSize < buffer.text.length + 1 + part.length + 1 then (-1, buffer)
      else rebuild outSize ((buffer.strcat (ascii "/")).strcat part) parts

/-- `normalize_cd_path` with its result and its output buffer. -/
def normalize (cwd argument : Bytes) (outSize : Nat) : Int × OutBuffer :=
  let untouched : OutBuffer := ⟨[], []⟩
  if outSize = 0 then (-1, untouched)
  else if pathMax ≤ (joinArgument cwd argument).length then (-1, untouched)
  else
    let scan := (strtok slash [] (joinArgument cwd argument)).foldl PathScan.step
      PathScan.start
    if scan.depth = 0 then (0, untouched.strcpy (ascii "/"))
    else rebuild outSize (untouched.strcpy []) scan.kept

/-- All written bytes lie inside of the buffer, and so does the string that is
returned. -/
def Fits (outSize : Nat) (outcome : Int × OutBuffer) : Prop :=
  (∀ write ∈ outcome.2.writes, write.1 < outSize) ∧
    (outcome.1 = 0 → outcome.2.text.length + 1 ≤ outSize)

theorem mem_placed {offset : Nat} {text : Bytes} {write : Nat × UInt8}
    (written : write ∈ placed offset text) : write.1 ≤ offset + text.length := by
  obtain ⟨⟨byte, index⟩, listed, rfl⟩ := List.mem_map.mp written
  have inside := List.snd_lt_add_of_mem_zipIdx listed
  rw [List.length_append, List.length_singleton] at inside
  dsimp only [Prod.swap]
  omega

/-- The buffer holds a string with its terminator, and nothing was written outside. -/
structure Inside (outSize : Nat) (buffer : OutBuffer) : Prop where
  text_lt : buffer.text.length < outSize
  writes_lt : ∀ write ∈ buffer.writes, write.1 < outSize

theorem Inside.strcat {outSize : Nat} {buffer : OutBuffer} (inside : Inside outSize buffer)
    {text : Bytes} (room : buffer.text.length + text.length < outSize) :
    Inside outSize (buffer.strcat text) := by
  constructor
  · rw [OutBuffer.strcat, List.length_append]
    exact room
  · intro write written
    rcases List.mem_append.mp written with earlier | new
    · exact inside.writes_lt write earlier
    · have bound := mem_placed new
      omega

/-- The check before each component leaves room for it. -/
theorem Inside.rebuild {outSize : Nat} {buffer : OutBuffer}
    (inside : Inside outSize buffer) (parts : List Bytes) :
    Inside outSize (rebuild outSize buffer parts).2 := by
  induction parts generalizing buffer with
  | nil => exact inside
  | cons part parts inductionHypothesis =>
      rw [OutBuffer.rebuild]
      split_ifs with tooLong
      · exact inside
      · have slashLength : (ascii "/").length = 1 := rfl
        apply inductionHypothesis
        apply (inside.strcat (by omega)).strcat
        rw [OutBuffer.strcat, List.length_append]
        omega

theorem rebuild_eq (outSize : Nat) (buffer : OutBuffer) (parts : List Bytes) :
    joinComponents outSize buffer.text parts =
      if (rebuild outSize buffer parts).1 = 0 then
        some (rebuild outSize buffer parts).2.text
      else none := by
  induction parts generalizing buffer with
  | nil => rfl
  | cons part parts inductionHypothesis =>
      rw [joinComponents, rebuild]
      by_cases tooLong : outSize < buffer.text.length + 1 + part.length + 1
      · rw [if_pos tooLong, if_pos tooLong]
        rfl
      · have isSlash : ascii "/" = [slash] := rfl
        have extended : ((buffer.strcat (ascii "/")).strcat part).text =
            buffer.text ++ slash :: part := by
          change buffer.text ++ ascii "/" ++ part = _
          rw [isSlash, List.append_assoc, List.singleton_append]
        rw [if_neg tooLong, if_neg tooLong, ← inductionHypothesis, extended]

/-- The buffer holds what the list model of the function returns. -/
theorem normalize_eq (cwd argument : Bytes) (outSize : Nat) :
    normalizeCdPath cwd argument outSize =
      if (normalize cwd argument outSize).1 = 0 then
        some (normalize cwd argument outSize).2.text
      else none := by
  have holds := PathScan.holds_start.foldl (strtok slash [] (joinArgument cwd argument))
  have isDepth := holds.depth_eq
  have isKept := holds.kept_eq
  rw [normalizeCdPath, normalize]
  by_cases empty : outSize = 0
  · rw [if_pos empty, if_pos empty]
    rfl
  rw [if_neg empty, if_neg empty]
  dsimp only
  by_cases tooLong : pathMax ≤ (joinArgument cwd argument).length
  · rw [if_pos tooLong, if_pos tooLong]
    rfl
  rw [if_neg tooLong, if_neg tooLong]
  cases stacked : (strtok slash [] (joinArgument cwd argument)).foldl pushComponent []
    with
  | nil =>
      rw [stacked] at isDepth
      have shallow : ((strtok slash [] (joinArgument cwd argument)).foldl PathScan.step
          PathScan.start).depth = 0 := isDepth
      rw [if_pos shallow]
      rfl
  | cons top stack =>
      rw [stacked] at isDepth isKept
      have deep : ((strtok slash [] (joinArgument cwd argument)).foldl PathScan.step
          PathScan.start).depth ≠ 0 := by
        rw [isDepth, List.length_cons]
        omega
      rw [if_neg deep, isKept]
      exact rebuild_eq outSize (strcpy ⟨[], []⟩ []) _

/-- The path that is normalised leads to the root. -/
theorem depth_eq_zero_iff (path : Bytes) :
    ((strtok slash [] path).foldl PathScan.step PathScan.start).depth = 0 ↔
      PathWalk.destination path = [] := by
  rw [(PathScan.holds_start.foldl (strtok slash [] path)).depth_eq, ← PathWalk.components_eq,
    components, List.reverse_eq_nil_iff, Int.natCast_eq_zero, List.length_eq_zero_iff]

/-- The output stays inside of the buffer exactly when the buffer has two bytes, or the
string is too long to be split, or it leads to a directory below the root. -/
theorem normalize_fits_iff (cwd argument : Bytes) {outSize : Nat} (positive : 1 ≤ outSize) :
    Fits outSize (normalize cwd argument outSize) ↔
      2 ≤ outSize ∨ pathMax ≤ (PathWalk.joined cwd argument).length ∨
        PathWalk.destination (PathWalk.joined cwd argument) ≠ [] := by
  have nonzero : outSize ≠ 0 := Nat.one_le_iff_ne_zero.mp positive
  have nothing : ∀ outcome : Int, outcome ≠ 0 → Fits outSize (outcome, ⟨[], []⟩) :=
    fun outcome failed => ⟨fun _ written => (List.not_mem_nil written).elim,
      fun succeeded => absurd succeeded failed⟩
  rw [PathWalk.joined_eq, normalize, if_neg nonzero]
  dsimp only
  by_cases tooLong : pathMax ≤ (joinArgument cwd argument).length
  · rw [if_pos tooLong]
    exact iff_of_true (nothing (-1) (by decide)) (Or.inr (Or.inl tooLong))
  rw [if_neg tooLong]
  by_cases root : PathWalk.destination (joinArgument cwd argument) = []
  · rw [if_pos ((depth_eq_zero_iff _).mpr root)]
    simp only [tooLong, root, ne_eq, not_true_eq_false, or_false]
    constructor
    · intro fits
      exact fits.1 (1, 0) (by decide)
    · intro room
      refine ⟨fun write written => ?_, fun _ => room⟩
      have bound : write.1 ≤ 0 + 1 := mem_placed written
      omega
  · rw [if_neg ((depth_eq_zero_iff _).not.mpr root)]
    have cleared : Inside outSize (strcpy ⟨[], []⟩ []) := by
      refine ⟨positive, fun write written => ?_⟩
      have bound : write.1 ≤ 0 + 0 := mem_placed written
      omega
    have inside := cleared.rebuild
      ((strtok slash [] (joinArgument cwd argument)).foldl PathScan.step
        PathScan.start).kept
    exact iff_of_true ⟨inside.writes_lt, fun _ => inside.text_lt⟩
      (Or.inr (Or.inr root))

theorem two_bytes_fit_the_root :
    1 ≤ 2 ∧ Fits 2 (normalize (ascii "/a") (ascii "..") 2) :=
  ⟨by decide, (normalize_fits_iff (ascii "/a") (ascii "..") (by decide)).mpr
    (Or.inl (Nat.le_refl 2))⟩

/-- A buffer of one byte is accepted, and the terminator behind the slash of the root is
written outside of it. -/
theorem one_byte_overflows :
    (normalize (ascii "/a") (ascii "..") 1).1 = 0 ∧
      (1, 0) ∈ (normalize (ascii "/a") (ascii "..") 1).2.writes ∧
      ¬ Fits 1 (normalize (ascii "/a") (ascii "..") 1) := by
  have written : (1, 0) ∈ (normalize (ascii "/a") (ascii "..") 1).2.writes := by
    decide +kernel
  refine ⟨by decide +kernel, written, fun fits => ?_⟩
  exact absurd (fits.1 (1, 0) written) (by decide)

end OutBuffer

end CloudDrive
