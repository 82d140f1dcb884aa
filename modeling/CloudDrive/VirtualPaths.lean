import CloudDrive.Protocol

/-!
# Virtual paths

`normalize_cd_path` of `utils.c` and the string functions the handlers use to
split a path.  Strings are lists of bytes without the terminator.
-/

namespace CloudDrive

/-- The byte of `/`. -/
def slash : UInt8 := 47

/-- The tokens `strtok_r` finds between delimiters; `current` holds the bytes
of the token being read in reverse. -/
def strtok (delimiter : UInt8) : Bytes → Bytes → List Bytes
  | current, [] => if current = [] then [] else [current.reverse]
  | current, byte :: rest =>
      if byte = delimiter then
        if current = [] then strtok delimiter [] rest
        else current.reverse :: strtok delimiter [] rest
      else strtok delimiter (byte :: current) rest

/-- The loop of `normalize_cd_path` over the tokens, on the reversed stack of
kept components. -/
def pushComponent (parts : List Bytes) (token : Bytes) : List Bytes :=
  if token = ascii "." then parts
  else if token = ascii ".." then parts.tail
  else token :: parts

/-- The final loop of `normalize_cd_path`: each component is appended to `out`
if it fits together with its slash and the terminator. -/
def joinComponents (outSize : Nat) : Bytes → List Bytes → Option Bytes
  | out, [] => some out
  | out, part :: parts =>
      if outSize < out.length + 1 + part.length + 1 then none
      else joinComponents outSize (out ++ slash :: part) parts

/-- The string `normalize_cd_path` splits. -/
def joinArgument (cwd argument : Bytes) : Bytes :=
  if argument.head? = some slash then argument
  else if cwd = ascii "/" then slash :: argument
  else cwd ++ slash :: argument

/-- `normalize_cd_path` with an output buffer of `outSize` bytes. -/
def normalizeCdPath (cwd argument : Bytes) (outSize : Nat) : Option Bytes :=
  if outSize = 0 then none
  else
    let path := joinArgument cwd argument
    if pathMax ≤ path.length then none
    else
      match (strtok slash [] path).foldl pushComponent [] with
      | [] => some (ascii "/")
      | parts => joinComponents outSize [] parts.reverse

/-- The parts of a path before and after its last slash, if it has one. -/
def splitAtLastSlash (path : Bytes) : Option (Bytes × Bytes) :=
  let name := (path.reverse.takeWhile (· ≠ slash)).reverse
  if name.length = path.length then none
  else some (path.take (path.length - name.length - 1), name)

/-- The parent of a path whose text before the last slash is given. -/
def parentOf (before : Bytes) : Bytes :=
  if before = [] then ascii "/" else before

/-- The `basename` of `libgen.h`. -/
def basename (path : Bytes) : Bytes :=
  if path = [] then ascii "."
  else
    let trimmed := (path.reverse.dropWhile (· = slash)).reverse
    if trimmed = [] then ascii "/"
    else (trimmed.reverse.takeWhile (· ≠ slash)).reverse

theorem length_joinComponents {outSize : Nat} {out result : Bytes}
    {parts : List Bytes} (fits : out.length < outSize)
    (joined : joinComponents outSize out parts = some result) :
    result.length < outSize := by
  induction parts generalizing out with
  | nil =>
      cases joined
      exact fits
  | cons part parts inductionHypothesis =>
      rw [joinComponents] at joined
      split at joined
      · cases joined
      · apply inductionHypothesis ?_ joined
        simp only [List.length_append, List.length_cons]
        omega

/-- A normalised path fits a buffer of at least two bytes. -/
theorem length_normalizeCdPath {cwd argument path : Bytes} {outSize : Nat}
    (room : 2 ≤ outSize)
    (normalized : normalizeCdPath cwd argument outSize = some path) :
    path.length < outSize := by
  unfold normalizeCdPath at normalized
  rw [if_neg (by omega)] at normalized
  simp only at normalized
  split at normalized
  · cases normalized
  · split at normalized
    · cases normalized
      have : (ascii "/").length = 1 := rfl
      omega
    · exact length_joinComponents (by simp; omega) normalized

theorem ne_nil_of_strtok {delimiter : UInt8} {current text token : Bytes}
    (found : token ∈ strtok delimiter current text) : token ≠ [] := by
  induction text generalizing current with
  | nil =>
      rw [strtok] at found
      split at found
      · cases found
      · rw [List.mem_singleton] at found
        subst found
        simpa using ‹_›
  | cons head text inductionHypothesis =>
      rw [strtok] at found
      split at found
      · split at found
        · exact inductionHypothesis found
        · rcases List.mem_cons.mp found with rfl | later
          · simpa using ‹_›
          · exact inductionHypothesis later
      · exact inductionHypothesis found

theorem delimiter_not_mem_strtok {delimiter : UInt8} {current text token : Bytes}
    (fresh : delimiter ∉ current) (found : token ∈ strtok delimiter current text) :
    delimiter ∉ token := by
  induction text generalizing current with
  | nil =>
      rw [strtok] at found
      split at found
      · cases found
      · rw [List.mem_singleton] at found
        subst found
        simpa using fresh
  | cons head text inductionHypothesis =>
      rw [strtok] at found
      split at found
      · split at found
        · exact inductionHypothesis (by simp) found
        · rcases List.mem_cons.mp found with rfl | later
          · simpa using fresh
          · exact inductionHypothesis (by simp) later
      · rename_i other
        exact inductionHypothesis (by simpa using ⟨Ne.symm other, fresh⟩) found

/-- A token is not longer than what was read for it. -/
theorem length_of_strtok {delimiter : UInt8} {current text token : Bytes}
    (found : token ∈ strtok delimiter current text) :
    token.length ≤ current.length + text.length := by
  induction text generalizing current token with
  | nil =>
      rw [strtok] at found
      split at found
      · cases found
      · rw [List.mem_singleton] at found
        subst found
        simp
  | cons head text inductionHypothesis =>
      rw [strtok] at found
      split at found
      · have later : ∀ token ∈ strtok delimiter [] text,
            token.length ≤ current.length + (head :: text).length := by
          intro token found
          have read := inductionHypothesis found
          simp only [List.length_nil, List.length_cons] at read ⊢
          omega
        split at found
        · exact later token found
        · rcases List.mem_cons.mp found with rfl | listed
          · simp
          · exact later token listed
      · have read := inductionHypothesis found
        simp only [List.length_cons] at read ⊢
        omega

theorem mem_strtok {delimiter byte : UInt8} {current text token : Bytes}
    (found : token ∈ strtok delimiter current text) (inside : byte ∈ token) :
    byte ∈ current ∨ byte ∈ text := by
  induction text generalizing current with
  | nil =>
      rw [strtok] at found
      split at found
      · cases found
      · rw [List.mem_singleton] at found
        subst found
        exact Or.inl (List.mem_reverse.mp inside)
  | cons head text inductionHypothesis =>
      rw [strtok] at found
      split at found
      · split at found
        · rcases inductionHypothesis found with none | later
          · cases none
          · exact Or.inr (List.mem_cons_of_mem _ later)
        · rcases List.mem_cons.mp found with rfl | later
          · exact Or.inl (List.mem_reverse.mp inside)
          · rcases inductionHypothesis later with none | later
            · cases none
            · exact Or.inr (List.mem_cons_of_mem _ later)
      · rcases inductionHypothesis found with current | later
        · rcases List.mem_cons.mp current with rfl | current
          · exact Or.inr List.mem_cons_self
          · exact Or.inl current
        · exact Or.inr (List.mem_cons_of_mem _ later)

theorem mem_foldl_pushComponent {token : Bytes} {parts tokens : List Bytes}
    (kept : token ∈ tokens.foldl pushComponent parts) :
    token ∈ parts ∨ token ∈ tokens := by
  induction tokens generalizing parts with
  | nil => exact Or.inl kept
  | cons next tokens inductionHypothesis =>
      rcases inductionHypothesis kept with pushed | later
      · unfold pushComponent at pushed
        split_ifs at pushed
        · exact Or.inl pushed
        · exact Or.inl (List.mem_of_mem_tail pushed)
        · rcases List.mem_cons.mp pushed with rfl | old
          · exact Or.inr List.mem_cons_self
          · exact Or.inl old
      · exact Or.inr (List.mem_cons_of_mem _ later)

theorem mem_joinComponents {outSize : Nat} {out result : Bytes}
    {parts : List Bytes} (joined : joinComponents outSize out parts = some result)
    {byte : UInt8} (inside : byte ∈ result) :
    byte ∈ out ∨ byte = slash ∨ ∃ part ∈ parts, byte ∈ part := by
  induction parts generalizing out with
  | nil =>
      cases joined
      exact Or.inl inside
  | cons part parts inductionHypothesis =>
      rw [joinComponents] at joined
      split at joined
      · cases joined
      · rcases inductionHypothesis joined with before | isSlash | ⟨other, listed, here⟩
        · rcases List.mem_append.mp before with old | new
          · exact Or.inl old
          · rcases List.mem_cons.mp new with isSlash | here
            · exact Or.inr (Or.inl isSlash)
            · exact Or.inr (Or.inr ⟨part, List.mem_cons_self, here⟩)
        · exact Or.inr (Or.inl isSlash)
        · exact Or.inr (Or.inr ⟨other, List.mem_cons_of_mem _ listed, here⟩)

/-- Normalising adds no byte but slashes. -/
theorem mem_normalizeCdPath {cwd argument path : Bytes} {outSize : Nat}
    (normalized : normalizeCdPath cwd argument outSize = some path)
    {byte : UInt8} (inside : byte ∈ path) :
    byte = slash ∨ byte ∈ cwd ∨ byte ∈ argument := by
  have joined : byte ∈ joinArgument cwd argument →
      byte = slash ∨ byte ∈ cwd ∨ byte ∈ argument := by
    intro member
    unfold joinArgument at member
    split_ifs at member
    · exact Or.inr (Or.inr member)
    · simp only [List.mem_cons] at member
      tauto
    · simp only [List.mem_append, List.mem_cons] at member
      tauto
  unfold normalizeCdPath at normalized
  split at normalized
  · cases normalized
  dsimp only at normalized
  split at normalized
  · cases normalized
  split at normalized
  · cases normalized
    exact Or.inl (List.mem_singleton.mp inside)
  · rcases mem_joinComponents normalized inside with none | isSlash | ⟨part, listed, here⟩
    · cases none
    · exact Or.inl isSlash
    · rcases mem_foldl_pushComponent (List.mem_reverse.mp listed) with none | token
      · cases none
      · rcases mem_strtok token here with none | inPath
        · cases none
        · exact joined inPath

theorem length_splitAtLastSlash {path before name : Bytes}
    (split : splitAtLastSlash path = some (before, name)) :
    before.length + name.length < path.length := by
  simp only [splitAtLastSlash] at split
  split at split
  · cases split
  · rename_i shorter
    simp only [Option.some.injEq, Prod.mk.injEq] at split
    obtain ⟨rfl, rfl⟩ := split
    have bound := (List.takeWhile_prefix (l := path.reverse)
      (p := fun byte => decide (byte ≠ slash))).length_le
    simp only [List.length_reverse] at bound shorter
    simp only [List.length_take, List.length_reverse]
    omega

theorem mem_splitAtLastSlash {path before name : Bytes}
    (split : splitAtLastSlash path = some (before, name)) {byte : UInt8}
    (inside : byte ∈ before ∨ byte ∈ name) : byte ∈ path := by
  simp only [splitAtLastSlash] at split
  split at split
  · cases split
  · simp only [Option.some.injEq, Prod.mk.injEq] at split
    obtain ⟨rfl, rfl⟩ := split
    rcases inside with inside | inside
    · exact List.mem_of_mem_take inside
    · exact List.mem_reverse.mp ((List.takeWhile_sublist _).subset
        (List.mem_reverse.mp inside))

end CloudDrive
