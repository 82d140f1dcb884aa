import CloudDrive.CanonicalPaths

/-!
# What normalising a path means

A path is a walk that starts at the root: a component leads down, two dots lead
up, and one dot stays.  `normalize_cd_path` returns the place where the walk of
the current directory and the argument ends, so walks can be taken in one step
or in two.
-/

namespace CloudDrive

namespace PathWalk

/-- The path that an argument stands for. -/
def joined (cwd argument : Bytes) : Bytes :=
  if argument.head? = some slash then argument
  else (if cwd = ascii "/" then cwd else cwd ++ [slash]) ++ argument

/-- Where a component leads from a place; nothing leads above the root. -/
def step (place : List Bytes) (part : Bytes) : List Bytes :=
  if part = ascii "." then place
  else if part = ascii ".." then place.dropLast
  else place ++ [part]

/-- Where a path leads. -/
def destination (path : Bytes) : List Bytes :=
  ((path.splitOn slash).filter (· ≠ [])).foldl step []

/-- The name of a place. -/
def name (place : List Bytes) : Bytes :=
  slash :: List.intercalate [slash] place

/-- A path without anything to resolve: it begins with a slash, does not end
with one unless it is the root, and has no empty component and no dots. -/
structure Resolved (path : Bytes) : Prop where
  absolute : path.head? = some slash
  noTrailing : path ≠ ascii "/" → path.getLast? ≠ some slash
  parts : path ≠ ascii "/" → ∀ part ∈ path.tail.splitOn slash,
    part ≠ [] ∧ part ≠ ascii "." ∧ part ≠ ascii ".."

theorem joined_eq (cwd argument : Bytes) :
    joined cwd argument = joinArgument cwd argument := by
  unfold joined joinArgument
  split_ifs with absolute root
  · rfl
  · rw [root]
    rfl
  · simp

/-- The tokens are the parts between slashes that are not empty. -/
theorem strtok_eq (current text : Bytes) :
    strtok slash current text =
      ((text.splitOn slash).modifyHead (current.reverse ++ ·)).filter (· ≠ []) := by
  induction text generalizing current with
  | nil =>
      rw [strtok]
      split_ifs with empty <;> simp [List.splitOn, empty]
  | cons byte text inductionHypothesis =>
      have split : (byte :: text).splitOn slash = if byte = slash then
          [] :: text.splitOn slash
          else (text.splitOn slash).modifyHead (byte :: ·) := by
        rw [List.splitOn, List.splitOnP_cons_eq_if_modifyHead]
        simp only [beq_iff_eq]
        rfl
      have unchanged : (text.splitOn slash).modifyHead (([] : Bytes).reverse ++ ·) =
          text.splitOn slash := by
        cases text.splitOn slash <;> rfl
      rw [strtok, split]
      split_ifs with isSlash empty
      · rw [inductionHypothesis, unchanged]
        simp [empty]
      · rw [inductionHypothesis, unchanged]
        simp [empty]
      · rw [inductionHypothesis, List.modifyHead_modifyHead]
        simp [Function.comp_def]

/-- The stack of the source is the place, the last component first. -/
theorem reverse_foldl_pushComponent (tokens stack : List Bytes) :
    (tokens.foldl pushComponent stack).reverse =
      tokens.foldl step stack.reverse := by
  induction tokens generalizing stack with
  | nil => rfl
  | cons token tokens inductionHypothesis =>
      have pushed : (pushComponent stack token).reverse =
          step stack.reverse token := by
        unfold pushComponent step
        split_ifs
        · rfl
        · simp
        · simp
      rw [List.foldl_cons, List.foldl_cons, inductionHypothesis, pushed]

theorem components_eq (path : Bytes) : components path = destination path := by
  have tokens := strtok_eq [] path
  have unchanged : (path.splitOn slash).modifyHead (([] : Bytes).reverse ++ ·) =
      path.splitOn slash := by
    cases path.splitOn slash <;> rfl
  rw [unchanged] at tokens
  rw [components, reverse_foldl_pushComponent, tokens]
  rfl

theorem pathOf_eq (place : List Bytes) : pathOf place = name place := by
  cases place with
  | nil => rfl
  | cons first rest =>
      rw [pathOf_cons, slashed_cons, name, List.cons_append]
      congr 1
      induction rest generalizing first with
      | nil => simp [List.intercalate]
      | cons second rest inductionHypothesis =>
          rw [List.intercalate_cons_cons, slashed_cons, List.cons_append,
            inductionHypothesis]
          simp

/-- A component is not longer than what was read for it. -/
theorem length_strtok (current text : Bytes) :
    (slashed (strtok slash current text)).length ≤
      1 + current.length + text.length := by
  induction text generalizing current with
  | nil =>
      rw [strtok]
      split_ifs
      · simp
      · simp only [slashed_cons, slashed_nil, List.length_append, List.length_cons,
          List.length_reverse, List.length_nil]
        omega
  | cons byte text inductionHypothesis =>
      rw [strtok]
      have ended := inductionHypothesis []
      have longer := inductionHypothesis (byte :: current)
      simp only [List.length_nil, List.length_cons] at ended longer ⊢
      split_ifs
      · omega
      · simp only [slashed_cons, List.length_append, List.length_cons,
          List.length_reverse]
        omega
      · omega

theorem length_foldl_pushComponent (tokens stack : List Bytes) :
    (slashed (tokens.foldl pushComponent stack)).length ≤
      (slashed stack).length + (slashed tokens).length := by
  induction tokens generalizing stack with
  | nil => simp
  | cons token tokens inductionHypothesis =>
      have rest := inductionHypothesis (pushComponent stack token)
      have pushed : (slashed (pushComponent stack token)).length ≤
          (slashed stack).length + token.length + 1 := by
        unfold pushComponent
        split_ifs
        · omega
        · cases stack with
          | nil => simp
          | cons part stack => simp; omega
        · simp; omega
      simp only [List.foldl_cons, slashed_cons, List.length_append,
        List.length_cons]
      omega

theorem length_slashed_reverse (parts : List Bytes) :
    (slashed parts.reverse).length = (slashed parts).length := by
  simp only [slashed, List.length_flatMap]
  rw [List.map_reverse, List.sum_reverse]

/-- Resolving an absolute path does not make it longer. -/
theorem length_pathOf_components {path : Bytes}
    (absolute : path.head? = some slash) :
    (pathOf (components path)).length ≤ path.length := by
  obtain ⟨rest, rfl⟩ := List.head?_eq_some_iff.mp absolute
  have read := length_strtok [] rest
  have kept := length_foldl_pushComponent (strtok slash [] rest) []
  have tokens : strtok slash [] (slash :: rest) = strtok slash [] rest := by
    rw [strtok, if_pos rfl, if_pos rfl]
  rw [components, tokens, pathOf, parentOf]
  have root : (ascii "/").length = 1 := rfl
  split_ifs
  · simp only [List.length_cons]
    omega
  · rw [length_slashed_reverse]
    simp only [slashed_nil, List.length_nil, List.length_cons] at read kept ⊢
    omega

theorem head_joinArgument {cwd : Bytes} (absolute : cwd.head? = some slash)
    (argument : Bytes) : (joinArgument cwd argument).head? = some slash := by
  unfold joinArgument
  split_ifs with isAbsolute
  · exact isAbsolute
  · rfl
  · rw [List.head?_append, absolute]
    rfl

/-- From an absolute directory only the length of the joined path counts. -/
theorem normalizeCdPath_of_absolute {cwd : Bytes}
    (absolute : cwd.head? = some slash) (argument : Bytes) :
    normalizeCdPath cwd argument pathMax =
      if (joinArgument cwd argument).length < pathMax then
        some (pathOf (components (joinArgument cwd argument)))
      else none := by
  have shorter := length_pathOf_components (head_joinArgument absolute argument)
  rw [normalizeCdPath_eq cwd argument (by decide)]
  congr 1
  rw [eq_iff_iff]
  omega

theorem resolved_of_isCanonical {path : Bytes} (canonical : IsCanonical path) :
    Resolved path := by
  obtain ⟨parts, isComponent, rfl⟩ := canonical
  refine ⟨head_pathOf parts, ?_, ?_⟩
  · intro notRoot
    rcases parts.eq_nil_or_concat with rfl | ⟨front, last, rfl⟩
    · exact (notRoot rfl).elim
    have isLast := isComponent last (by simp)
    have ends : (slashed front ++ slash :: last).getLast? =
        some (last.getLast isLast.nonempty) := by
      rw [List.getLast?_eq_some_getLast (by simp), List.getLast_append_of_ne_nil _
        (by simp), List.getLast_cons isLast.nonempty]
    rw [List.concat_eq_append, pathOf_concat, ends]
    intro endsInSlash
    exact isLast.noSlash (Option.some.inj endsInSlash ▸ List.getLast_mem _)
  · intro notRoot
    have nonempty : parts ≠ [] := by
      rintro rfl
      exact notRoot rfl
    rw [pathOf_eq, name, List.tail_cons, List.splitOn_intercalate slash
      (fun part listed => (isComponent part listed).noSlash) nonempty]
    intro part listed
    exact ⟨(isComponent part listed).nonempty, (isComponent part listed).notDot,
      (isComponent part listed).notDots⟩

theorem strtok_append (current first second : Bytes) :
    strtok slash current (first ++ slash :: second) =
      strtok slash current first ++ strtok slash [] second := by
  induction first generalizing current with
  | nil =>
      simp only [List.nil_append, strtok, if_true]
      split_ifs <;> rfl
  | cons byte first inductionHypothesis =>
      rw [List.cons_append, strtok, strtok]
      split_ifs
      · exact inductionHypothesis []
      · rw [inductionHypothesis, List.cons_append]
      · exact inductionHypothesis (byte :: current)

theorem components_append (first second : Bytes) :
    components (first ++ slash :: second) =
      (strtok slash [] second).foldl step (components first) := by
  rw [components, strtok_append, List.foldl_append, reverse_foldl_pushComponent,
    components]

theorem joinArgument_append (cwd : Bytes) {first : Bytes} (nonempty : first ≠ [])
    (second : Bytes) :
    joinArgument cwd (first ++ second) = joinArgument cwd first ++ second := by
  obtain ⟨byte, rest, rfl⟩ := List.exists_cons_of_ne_nil nonempty
  rw [joinArgument, joinArgument, List.cons_append, List.head?_cons,
    List.head?_cons]
  split_ifs
  · rfl
  · rfl
  · rw [List.append_assoc]
    rfl

/-- A relative argument goes on from where its directory is. -/
theorem components_joinArgument {cwd argument : Bytes}
    (relative : argument.head? ≠ some slash) :
    components (joinArgument cwd argument) =
      (strtok slash [] argument).foldl step (components cwd) := by
  rw [joinArgument, if_neg relative]
  split_ifs with root
  · rw [root]
    exact components_append [] argument
  · exact components_append cwd argument

theorem length_joinArgument {cwd argument : Bytes}
    (relative : argument.head? ≠ some slash) :
    (joinArgument cwd argument).length ≤ cwd.length + (argument.length + 1) := by
  rw [joinArgument, if_neg relative]
  split_ifs
  · simp
  · simp

end PathWalk

open PathWalk

/-- `normalize_cd_path` returns the name of the place where the joined path
leads, if that path fits, and nothing in the result is left to resolve. -/
theorem normalizeCdPath_resolves {cwd : Bytes} (absolute : cwd.head? = some slash)
    (argument : Bytes) :
    normalizeCdPath cwd argument pathMax =
        (if (joined cwd argument).length < pathMax then
          some (name (destination (joined cwd argument)))
        else none) ∧
      ∀ path, normalizeCdPath cwd argument pathMax = some path → Resolved path := by
  refine ⟨?_, fun path normalized => ?_⟩
  · rw [normalizeCdPath_of_absolute absolute, joined_eq, pathOf_eq, components_eq]
  · exact resolved_of_isCanonical
      (isCanonical_normalizeCdPath (by decide) normalized)

theorem normalizeCdPath_resolves_up :
    (ascii "/a").head? = some slash ∧
      normalizeCdPath (ascii "/a") (ascii "../..//b/./c/") pathMax =
        some (ascii "/b/c") ∧ Resolved (ascii "/b/c") := by
  have result : normalizeCdPath (ascii "/a") (ascii "../..//b/./c/") pathMax =
      some (ascii "/b/c") := by decide +kernel
  exact ⟨rfl, result, (normalizeCdPath_resolves rfl _).2 _ result⟩

/-- A walk can be taken in two steps, and what it returns is its own normal
form in every directory. -/
theorem normalizeCdPath_in_two_steps {cwd : Bytes}
    (absolute : cwd.head? = some slash) :
    (∀ first second result, first ≠ [] → second.head? ≠ some slash →
      normalizeCdPath cwd (first ++ slash :: second) pathMax = some result →
        ∃ middle, normalizeCdPath cwd first pathMax = some middle ∧
          normalizeCdPath middle second pathMax = some result) ∧
    ∀ argument result, normalizeCdPath cwd argument pathMax = some result →
      ∀ other, normalizeCdPath other result pathMax = some result := by
  refine ⟨?_, fun argument result normalized other => ?_⟩
  · intro first second result nonempty relative normalized
    rw [normalizeCdPath_of_absolute absolute, joinArgument_append cwd nonempty,
      components_append] at normalized
    split at normalized
    · rename_i fits
      cases normalized
      have shorter := length_pathOf_components (head_joinArgument absolute first)
      have bound := @length_joinArgument
        (pathOf (components (joinArgument cwd first))) second relative
      simp only [List.length_append, List.length_cons] at fits
      refine ⟨pathOf (components (joinArgument cwd first)), ?_, ?_⟩
      · rw [normalizeCdPath_of_absolute absolute, if_pos (by omega)]
      · rw [normalizeCdPath_of_absolute (head_pathOf _), if_pos (by omega),
          components_joinArgument relative,
          components_pathOf (isComponent_components _)]
    · cases normalized
  · exact (isCanonical_normalizeCdPath (by decide) normalized).normalizeCdPath
      (length_normalizeCdPath (by decide) normalized) other

theorem normalizeCdPath_in_two_steps_up :
    (ascii "/a").head? = some slash ∧
      ∃ middle, normalizeCdPath (ascii "/a") (ascii "b/../..") pathMax =
          some middle ∧
        normalizeCdPath middle (ascii "../c") pathMax = some (ascii "/c") := by
  refine ⟨rfl, (normalizeCdPath_in_two_steps rfl).1 (ascii "b/../..")
    (ascii "../c") (ascii "/c") ?_ ?_ ?_⟩
  all_goals decide +kernel

end CloudDrive
