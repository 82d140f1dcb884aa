import CloudDrive.VirtualPaths

/-!
# Canonical paths

The paths that `normalize_cd_path` returns are lists of components: none is
empty, holds a slash, or is one of the two dots.  A canonical path is its own
normal form, whatever directory it is taken from, and its last component and
its parent are what the handlers split off.
-/

namespace CloudDrive

/-- A component that `normalize_cd_path` keeps. -/
structure IsComponent (part : Bytes) : Prop where
  nonempty : part ≠ []
  noSlash : slash ∉ part
  notDot : part ≠ ascii "."
  notDots : part ≠ ascii ".."

/-- The components, each behind its slash. -/
def slashed (parts : List Bytes) : Bytes :=
  parts.flatMap fun part => slash :: part

/-- The path of a list of components. -/
def pathOf (parts : List Bytes) : Bytes := parentOf (slashed parts)

/-- A path as `normalize_cd_path` returns it. -/
def IsCanonical (path : Bytes) : Prop :=
  ∃ parts, (∀ part ∈ parts, IsComponent part) ∧ path = pathOf parts

@[simp]
theorem slashed_nil : slashed [] = [] := rfl

@[simp]
theorem slashed_cons (part : Bytes) (parts : List Bytes) :
    slashed (part :: parts) = slash :: part ++ slashed parts := rfl

@[simp]
theorem slashed_append (first second : List Bytes) :
    slashed (first ++ second) = slashed first ++ slashed second :=
  List.flatMap_append

theorem pathOf_cons (part : Bytes) (parts : List Bytes) :
    pathOf (part :: parts) = slashed (part :: parts) := by
  rw [pathOf, parentOf, if_neg (by simp)]

theorem pathOf_concat (parts : List Bytes) (name : Bytes) :
    pathOf (parts ++ [name]) = slashed parts ++ slash :: name := by
  rw [pathOf, parentOf, if_neg (by simp)]
  simp

theorem strtok_reads {token : Bytes} (noSlash : slash ∉ token)
    (current rest : Bytes) :
    strtok slash current (token ++ rest) =
      strtok slash (token.reverse ++ current) rest := by
  induction token generalizing current with
  | nil => rfl
  | cons byte token inductionHypothesis =>
      rw [List.mem_cons, not_or] at noSlash
      rw [List.cons_append, strtok, if_neg (Ne.symm noSlash.1),
        inductionHypothesis noSlash.2]
      simp

/-- The tokens of a path are its components. -/
theorem strtok_slashed {parts : List Bytes}
    (components : ∀ part ∈ parts, IsComponent part) :
    strtok slash [] (slashed parts) = parts := by
  have afterToken : ∀ {current : Bytes} {parts : List Bytes},
      current ≠ [] → (∀ part ∈ parts, IsComponent part) →
      strtok slash current (slashed parts) = current.reverse :: parts := by
    intro current parts nonempty components
    induction parts generalizing current with
    | nil => rw [slashed_nil, strtok, if_neg nonempty]
    | cons part parts inductionHypothesis =>
        have isComponent := components part List.mem_cons_self
        rw [slashed_cons, List.cons_append, strtok, if_pos rfl, if_neg nonempty,
          strtok_reads isComponent.noSlash, List.append_nil,
          inductionHypothesis (by simpa using isComponent.nonempty)
            fun other listed => components other (List.mem_cons_of_mem _ listed),
          List.reverse_reverse]
  cases parts with
  | nil => rfl
  | cons part parts =>
      have isComponent := components part List.mem_cons_self
      rw [slashed_cons, List.cons_append, strtok, if_pos rfl, if_pos rfl,
        strtok_reads isComponent.noSlash, List.append_nil,
        afterToken (by simpa using isComponent.nonempty)
          fun other listed => components other (List.mem_cons_of_mem _ listed),
        List.reverse_reverse]

theorem foldl_pushComponent {parts : List Bytes}
    (components : ∀ part ∈ parts, IsComponent part) (stack : List Bytes) :
    parts.foldl pushComponent stack = parts.reverse ++ stack := by
  induction parts generalizing stack with
  | nil => rfl
  | cons part parts inductionHypothesis =>
      have isComponent := components part List.mem_cons_self
      rw [List.foldl_cons, pushComponent, if_neg isComponent.notDot,
        if_neg isComponent.notDots, inductionHypothesis
          fun other listed => components other (List.mem_cons_of_mem _ listed)]
      simp

/-- The components are joined if the path with its terminator fits. -/
theorem joinComponents_eq {outSize : Nat} {out : Bytes} {parts : List Bytes}
    (room : out.length < outSize) :
    joinComponents outSize out parts =
      if (out ++ slashed parts).length < outSize then some (out ++ slashed parts)
      else none := by
  induction parts generalizing out with
  | nil => simp [joinComponents, room]
  | cons part parts inductionHypothesis =>
      rw [joinComponents]
      split
      · rename_i large
        rw [if_neg]
        simp only [slashed_cons, List.length_append, List.length_cons]
        omega
      · rename_i small
        rw [inductionHypothesis (by
          simp only [List.length_append, List.length_cons]
          omega)]
        simp

theorem isComponent_foldl_pushComponent {tokens stack : List Bytes}
    (tokensFit : ∀ token ∈ tokens, token ≠ [] ∧ slash ∉ token)
    (stackFits : ∀ part ∈ stack, IsComponent part) :
    ∀ part ∈ tokens.foldl pushComponent stack, IsComponent part := by
  induction tokens generalizing stack with
  | nil => exact stackFits
  | cons token tokens inductionHypothesis =>
      apply inductionHypothesis
        fun other listed => tokensFit other (List.mem_cons_of_mem _ listed)
      intro part pushed
      obtain ⟨nonempty, noSlash⟩ := tokensFit token List.mem_cons_self
      rw [pushComponent] at pushed
      split_ifs at pushed with isDot isDots
      · exact stackFits part pushed
      · exact stackFits part (List.mem_of_mem_tail pushed)
      · rcases List.mem_cons.mp pushed with rfl | old
        · exact ⟨nonempty, noSlash, isDot, isDots⟩
        · exact stackFits part old

/-- The components of a path that are left when the dots are resolved. -/
def components (path : Bytes) : List Bytes :=
  ((strtok slash [] path).foldl pushComponent []).reverse

theorem isComponent_components (path : Bytes) :
    ∀ part ∈ components path, IsComponent part := by
  intro part listed
  refine isComponent_foldl_pushComponent
    (fun token found => ⟨ne_nil_of_strtok found, delimiter_not_mem_strtok (by simp) found⟩)
    ?_ part
    (List.mem_reverse.mp listed)
  simp

/-- `normalize_cd_path` returns the path of the components if it fits. -/
theorem normalizeCdPath_eq (cwd argument : Bytes) {outSize : Nat}
    (room : 2 ≤ outSize) :
    normalizeCdPath cwd argument outSize =
      if (joinArgument cwd argument).length < pathMax ∧
          (pathOf (components (joinArgument cwd argument))).length < outSize then
        some (pathOf (components (joinArgument cwd argument)))
      else none := by
  rw [normalizeCdPath, if_neg (by omega), components]
  dsimp only
  by_cases long : pathMax ≤ (joinArgument cwd argument).length
  · rw [if_pos long, if_neg (by omega)]
  rw [if_neg long]
  generalize (strtok slash [] (joinArgument cwd argument)).foldl pushComponent [] =
    stack
  cases stack with
  | nil =>
      rw [List.reverse_nil, if_pos ⟨by omega, room⟩]
      rfl
  | cons last rest =>
      have nonempty : slashed (last :: rest).reverse ≠ [] := by simp
      dsimp only
      rw [joinComponents_eq (by simp; omega), pathOf, parentOf, if_neg nonempty]
      simp only [List.nil_append, Nat.not_le.mp long, true_and]

/-- What `normalize_cd_path` returns is canonical. -/
theorem isCanonical_normalizeCdPath {cwd argument path : Bytes} {outSize : Nat}
    (room : 2 ≤ outSize)
    (normalized : normalizeCdPath cwd argument outSize = some path) :
    IsCanonical path := by
  rw [normalizeCdPath_eq cwd argument room] at normalized
  split at normalized
  · cases normalized
    exact ⟨_, isComponent_components _, rfl⟩
  · cases normalized

theorem components_pathOf {parts : List Bytes}
    (isComponent : ∀ part ∈ parts, IsComponent part) :
    components (pathOf parts) = parts := by
  have tokens : strtok slash [] (pathOf parts) = parts := by
    cases parts with
    | nil => rfl
    | cons part parts => rw [pathOf_cons, strtok_slashed isComponent]
  rw [components, tokens, foldl_pushComponent isComponent]
  simp

theorem head_pathOf (parts : List Bytes) :
    (pathOf parts).head? = some slash := by
  cases parts with
  | nil => rfl
  | cons part parts => rw [pathOf_cons, slashed_cons]; rfl

theorem IsCanonical.ne_nil {path : Bytes} (canonical : IsCanonical path) :
    path ≠ [] := by
  obtain ⟨parts, -, rfl⟩ := canonical
  intro empty
  have head := head_pathOf parts
  rw [empty] at head
  cases head

/-- A canonical path is its own normal form in every directory. -/
theorem IsCanonical.normalizeCdPath {path : Bytes} (canonical : IsCanonical path)
    (fits : path.length < pathMax) (cwd : Bytes) :
    normalizeCdPath cwd path pathMax = some path := by
  obtain ⟨parts, isComponent, rfl⟩ := canonical
  have absolute : joinArgument cwd (pathOf parts) = pathOf parts := by
    rw [joinArgument, if_pos (head_pathOf parts)]
  rw [normalizeCdPath_eq cwd _ (by decide), absolute,
    components_pathOf isComponent, if_pos ⟨fits, fits⟩]

end CloudDrive
