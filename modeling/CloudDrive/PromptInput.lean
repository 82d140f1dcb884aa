import CloudDrive.ClientCommands
import CloudDrive.Runs

/-!
# What is typed at the prompt

`s_gets` reads a line into a buffer of 512 bytes, `next_word` takes words from it,
and the main loop hands a command with its second word to the connection or to the
transfers.
-/

namespace CloudDrive

/-- `fgets` with room for so many bytes: what it stores and what is left. -/
def fgets : Nat → Bytes → Bytes × Bytes
  | 0, stream => ([], stream)
  | _ + 1, [] => ([], [])
  | room + 1, byte :: stream =>
      if byte = 10 then ([10], stream)
      else
        let (stored, left) := fgets room stream
        (byte :: stored, left)

/-- The loop of `getchar` up to the end of a line. -/
def discardLine : Bytes → Bytes
  | [] => []
  | byte :: stream => if byte = 10 then stream else discardLine stream

/-- `s_gets`: the string in the buffer and what is left; nothing at the end of the
input.  A newline behind a NUL is not found. -/
def sGets (size : Nat) (stdin : Bytes) : Option (Bytes × Bytes) :=
  if stdin = [] then none
  else
    let (stored, left) := fgets (size - 1) stdin
    let text := cString stored
    if 10 ∈ text then some (text.takeWhile (· ≠ 10), left)
    else some (text, discardLine left)

def maxCommandInput : Nat := 512

/-- A command that the main loop hands over. -/
inductive HandedCommand where
  | short (type : CmdType) (argument : Bytes)
  | upload (localPath : Bytes)
  | download (remotePath : Bytes)
deriving DecidableEq

def HandedCommand.argument : HandedCommand → Bytes
  | short _ argument => argument
  | upload localPath => localPath
  | download remotePath => remotePath

/-- What the environment decides about an iteration of the main loop. -/
structure PromptChoice where
  hasSession : Bool
  isAlive : Bool
  /-- The connection is lost during a short command. -/
  isLost : Bool

/-- The connection works. -/
def PromptChoice.working : PromptChoice := ⟨true, true, false⟩

/-- `client_command_execute`: the command that is handed over, and whether the loop
goes on. -/
def clientCommandExecute (choice : PromptChoice) (input : Bytes) :
    Option HandedCommand × Bool :=
  match commandLine input with
  | .blank | .help => (none, true)
  | .exit => (none, false)
  | line =>
      if !choice.isAlive then (none, false)
      else
        match line with
        | .puts (some localPath) => (some (.upload localPath), true)
        | .gets (some remotePath) => (some (.download remotePath), true)
        | .short type argument => (some (.short type argument), !choice.isLost)
        | _ => (none, true)

/-- The loop at the prompt: what is left of the input, whether the loop has ended, and
what each line has been made of. -/
structure Prompt where
  stdin : Bytes
  ended : Bool
  handed : List (Option HandedCommand)
deriving DecidableEq

namespace Prompt

def start (stdin : Bytes) : Prompt := ⟨stdin, false, []⟩

/-- An iteration of the loop. -/
def step (prompt : Prompt) (choice : PromptChoice) : Option Prompt :=
  if prompt.ended then none
  else if !choice.hasSession then some { prompt with ended := true }
  else
    match sGets maxCommandInput prompt.stdin with
    | none => some { prompt with ended := true }
    | some (input, stdin) =>
        let (handed, goesOn) := clientCommandExecute choice input
        some ⟨stdin, !goesOn, prompt.handed ++ [handed]⟩

end Prompt

/-- The lines of an input; the last one may have no end. -/
def typedLines : Bytes → List Bytes
  | [] => []
  | byte :: stream =>
      if byte = 10 then [] :: typedLines stream
      else
        match typedLines stream with
        | [] => [[byte]]
        | line :: lines => (byte :: line) :: lines

/-- The words of a line. -/
def wordsOf (line : Bytes) : List Bytes :=
  (line.splitOnP isSpace).filter (· ≠ [])

/-- The second word of a line, which is empty if there is none. -/
def secondWord (line : Bytes) : Bytes := (wordsOf line).getD 1 []

section Lines

variable {line rest : Bytes}

theorem typedLines_append (noNewline : 10 ∉ line) :
    typedLines (line ++ 10 :: rest) = line :: typedLines rest := by
  induction line with
  | nil => rfl
  | cons byte line inductionHypothesis =>
      rw [List.mem_cons, not_or] at noNewline
      obtain ⟨different, noMore⟩ := noNewline
      rw [List.cons_append, typedLines, if_neg (Ne.symm different),
        inductionHypothesis noMore]

theorem typedLines_last (nonempty : line ≠ []) (noNewline : 10 ∉ line) :
    typedLines line = [line] := by
  induction line with
  | nil => exact absurd rfl nonempty
  | cons byte line inductionHypothesis =>
      rw [List.mem_cons, not_or] at noNewline
      obtain ⟨different, noMore⟩ := noNewline
      rw [typedLines, if_neg (Ne.symm different)]
      by_cases isLast : line = []
      · rw [isLast]
        rfl
      · rw [inductionHypothesis isLast noMore]

theorem typedLines_eq_nil {stdin : Bytes} : typedLines stdin = [] ↔ stdin = [] := by
  cases stdin with
  | nil => exact ⟨fun _ => rfl, fun _ => rfl⟩
  | cons byte stdin =>
      refine ⟨fun none => ?_, nofun⟩
      rw [typedLines] at none
      split_ifs at none
      split at none <;> cases none

/-- An input that has not ended begins with a line. -/
theorem exists_line {stdin : Bytes} (nonempty : stdin ≠ []) :
    ∃ line, 10 ∉ line ∧ (stdin = line ∨ ∃ rest, stdin = line ++ 10 :: rest) := by
  induction stdin with
  | nil => exact absurd rfl nonempty
  | cons byte stdin inductionHypothesis =>
      by_cases isEnd : byte = 10
      · subst isEnd
        exact ⟨[], List.not_mem_nil, Or.inr ⟨stdin, rfl⟩⟩
      · have different : ∀ line : Bytes, 10 ∉ line → 10 ∉ byte :: line := by
          intro line noNewline inside
          rcases List.mem_cons.mp inside with same | later
          · exact isEnd same.symm
          · exact noNewline later
        by_cases isLast : stdin = []
        · subst isLast
          exact ⟨[byte], different [] List.not_mem_nil, Or.inl rfl⟩
        · obtain ⟨line, noNewline, rfl | ⟨rest, rfl⟩⟩ := inductionHypothesis isLast
          · exact ⟨_, different _ noNewline, Or.inl rfl⟩
          · exact ⟨_, different _ noNewline, Or.inr ⟨rest, rfl⟩⟩

/-- A line and its end are stored. -/
theorem fgets_line {room : Nat} (noNewline : 10 ∉ line) (short : line.length < room) :
    fgets room (line ++ 10 :: rest) = (line ++ [10], rest) := by
  induction line generalizing room with
  | nil =>
      rcases room with _ | room
      · exact absurd short (Nat.not_lt_zero _)
      · rfl
  | cons byte line inductionHypothesis =>
      rcases room with _ | room
      · exact absurd short (Nat.not_lt_zero _)
      rw [List.mem_cons, not_or] at noNewline
      obtain ⟨different, noMore⟩ := noNewline
      rw [List.cons_append, fgets, if_neg (Ne.symm different),
        inductionHypothesis noMore (Nat.lt_of_succ_lt_succ short)]
      rfl

/-- The room is used up by a line, or the input ends. -/
theorem fgets_full {room : Nat} (noNewline : 10 ∉ line)
    (full : line.length = room ∨ line.length ≤ room ∧ rest = []) :
    fgets room (line ++ rest) = (line, rest) := by
  induction line generalizing room with
  | nil =>
      rcases full with rfl | ⟨-, rfl⟩
      · rfl
      · cases room <;> rfl
  | cons byte line inductionHypothesis =>
      rcases room with _ | room
      · simp at full
      rw [List.mem_cons, not_or] at noNewline
      obtain ⟨different, noMore⟩ := noNewline
      rw [List.length_cons, Nat.add_right_cancel_iff, Nat.add_le_add_iff_right] at full
      rw [List.cons_append, fgets, if_neg (Ne.symm different),
        inductionHypothesis noMore full]

end Lines

/-- A line that `s_gets` reads as it is. -/
def FitsInput (line : Bytes) : Prop := line.length ≤ 511 ∧ 0 ∉ line

instance (line : Bytes) : Decidable (FitsInput line) :=
  inferInstanceAs (Decidable (_ ∧ _))

section Reading

variable {line rest : Bytes}

theorem sGets_line (noNewline : 10 ∉ line) (fits : FitsInput line) :
    sGets maxCommandInput (line ++ 10 :: rest) = some (line, rest) := by
  have nonempty : line ++ 10 :: rest ≠ [] := by simp
  rw [sGets, if_neg nonempty]
  rcases Nat.lt_or_eq_of_le fits.1 with short | full
  · have noNul : 0 ∉ line ++ [10] := by
      simpa using fits.2
    rw [show maxCommandInput - 1 = 511 from rfl, fgets_line noNewline short]
    dsimp only
    have before : ∀ byte ∈ line, decide (byte ≠ 10) = true := by
      intro byte inside
      rw [decide_eq_true_eq]
      rintro rfl
      exact noNewline inside
    rw [cString_eq_self.mpr noNul, if_pos (by simp),
      List.takeWhile_append_of_pos before]
    simp
  · rw [show maxCommandInput - 1 = 511 from rfl, fgets_full noNewline (Or.inl full)]
    dsimp only
    rw [cString_eq_self.mpr fits.2, if_neg noNewline]
    rfl

theorem sGets_last (nonempty : line ≠ []) (noNewline : 10 ∉ line)
    (fits : FitsInput line) :
    sGets maxCommandInput line = some (line, []) := by
  have stored := @fgets_full line [] 511 noNewline (Or.inr ⟨fits.1, rfl⟩)
  rw [List.append_nil] at stored
  rw [sGets, if_neg nonempty, show maxCommandInput - 1 = 511 from rfl, stored]
  dsimp only
  rw [cString_eq_self.mpr fits.2, if_neg noNewline]
  rfl

/-- A line that fits is read as it is, up to its end. -/
theorem sGets_typed {stdin : Bytes} {lines : List Bytes}
    (typed : typedLines stdin = line :: lines) (fits : FitsInput line) :
    ∃ left, sGets maxCommandInput stdin = some (line, left) ∧
      typedLines left = lines := by
  have nonempty : stdin ≠ [] := by
    rintro rfl
    cases typed
  obtain ⟨first, noNewline, rfl | ⟨rest, rfl⟩⟩ := exists_line nonempty
  · rw [typedLines_last nonempty noNewline] at typed
    cases typed
    exact ⟨[], sGets_last nonempty noNewline fits, rfl⟩
  · rw [typedLines_append noNewline] at typed
    cases typed
    exact ⟨rest, sGets_line noNewline fits, rfl⟩

end Reading

section Words

variable {cursor word rest : Bytes}

theorem wordsOf_space {byte : UInt8} (isBlank : isSpace byte = true) :
    wordsOf (byte :: rest) = wordsOf rest := by
  rw [wordsOf, List.splitOnP_cons_eq_if_modifyHead, if_pos isBlank]
  rfl

/-- A word ends with a blank or with the line. -/
theorem wordsOf_word (nonempty : word ≠ []) (solid : ∀ byte ∈ word, isSpace byte = false)
    (atEnd : ∀ byte ∈ rest.head?, isSpace byte = true) :
    wordsOf (word ++ rest) = word :: wordsOf rest := by
  cases rest with
  | nil =>
      rw [List.append_nil, wordsOf, List.splitOnP_eq_singleton solid]
      simp [wordsOf, nonempty]
  | cons blank rest =>
      have isBlank := atEnd blank rfl
      rw [wordsOf_space isBlank, wordsOf,
        List.splitOnP_append_cons_of_forall_mem solid blank isBlank,
        List.filter_cons_of_pos (by simpa using nonempty)]
      rfl

theorem wordsOf_dropWhile (cursor : Bytes) :
    wordsOf (cursor.dropWhile isSpace) = wordsOf cursor := by
  induction cursor with
  | nil => rfl
  | cons byte cursor inductionHypothesis =>
      by_cases isBlank : isSpace byte = true
      · rw [List.dropWhile_cons_of_pos isBlank, wordsOf_space isBlank,
          inductionHypothesis]
      · rw [List.dropWhile_cons_of_neg isBlank]

/-- The word at the cursor, whatever its length, and what follows it. -/
theorem wordsOf_cursor (cursor : Bytes) :
    let start := cursor.dropWhile isSpace
    let word := start.takeWhile fun byte => !isSpace byte
    word = [] ∧ wordsOf cursor = [] ∨
      word ≠ [] ∧ wordsOf cursor = word :: wordsOf (start.drop word.length) := by
  intro start word
  have whole : word ++ start.dropWhile (fun byte => !isSpace byte) = start :=
    List.takeWhile_append_dropWhile
  have left : start.drop word.length = start.dropWhile fun byte => !isSpace byte := by
    nth_rewrite 1 [← whole]
    exact List.drop_left
  have atEnd : ∀ byte ∈ (start.dropWhile fun byte => !isSpace byte).head?,
      isSpace byte = true := by
    intro byte isHead
    have other := List.head?_dropWhile_not (fun byte => !isSpace byte) start
    rw [isHead] at other
    simpa using other
  rw [left, ← wordsOf_dropWhile cursor]
  by_cases isEmpty : word = []
  · left
    refine ⟨isEmpty, ?_⟩
    -- The blanks are skipped, so that a byte that is left begins a word.
    have solid := List.head?_dropWhile_not isSpace cursor
    change wordsOf start = []
    rcases isStart : start with _ | ⟨byte, rest⟩
    · rfl
    · have isHead : (cursor.dropWhile isSpace).head? = some byte := by
        change start.head? = some byte
        rw [isStart]
        rfl
      rw [isHead] at solid
      have begins : start.takeWhile (fun byte => !isSpace byte) ≠ [] := by
        rw [isStart, List.takeWhile_cons_of_pos (by simpa using solid)]
        exact List.cons_ne_nil _ _
      exact absurd isEmpty begins
  · right
    refine ⟨isEmpty, ?_⟩
    have solid : ∀ byte ∈ word, isSpace byte = false := by
      intro byte inside
      simpa using List.mem_takeWhile_imp inside
    change wordsOf start = _
    nth_rewrite 1 [← whole]
    exact wordsOf_word isEmpty solid atEnd

theorem nextWord_eq_some {size : Nat}
    (found : nextWord cursor size = some (word, rest)) :
    wordsOf cursor = word :: wordsOf rest ∧ word.length < size := by
  simp only [nextWord] at found
  split_ifs at found with refused
  cases found
  rw [not_or] at refused
  rcases wordsOf_cursor cursor with ⟨isEmpty, -⟩ | ⟨-, words⟩
  · exact absurd isEmpty refused.1
  · exact ⟨words, Nat.lt_of_not_le refused.2⟩

/-- A word that is not found is missing or too long. -/
theorem nextWord_eq_none {size : Nat} (missing : nextWord cursor size = none)
    (short : cursor.length < size) : wordsOf cursor = [] := by
  simp only [nextWord] at missing
  split_ifs at missing with refused
  rcases wordsOf_cursor cursor with ⟨-, none⟩ | ⟨nonempty, -⟩
  · exact none
  · rcases refused with isEmpty | tooLong
    · exact absurd isEmpty nonempty
    · have word : ((cursor.dropWhile isSpace).takeWhile fun byte =>
          !isSpace byte).length ≤ (cursor.dropWhile isSpace).length :=
        (List.takeWhile_sublist _).length_le
      have start := List.length_dropWhile_le isSpace cursor
      omega

theorem length_nextWord {size : Nat} (found : nextWord cursor size = some (word, rest)) :
    rest.length ≤ cursor.length := by
  simp only [nextWord] at found
  split_ifs at found
  cases found
  have start := List.length_dropWhile_le isSpace cursor
  rw [List.length_drop]
  omega

/-- The second word where the first one has been taken. -/
theorem secondWord_eq {line command : Bytes} (short : line.length < pathMax)
    (first : nextWord line 16 = some (command, cursor)) :
    ((nextWord cursor pathMax).map Prod.fst).getD [] = secondWord line ∧
      ∀ argument, (nextWord cursor pathMax).map Prod.fst = some argument →
        argument = secondWord line := by
  rw [secondWord, (nextWord_eq_some first).1]
  cases second : nextWord cursor pathMax with
  | none =>
      have none := nextWord_eq_none second
        (Nat.lt_of_le_of_lt (length_nextWord first) short)
      rw [none]
      exact ⟨rfl, nofun⟩
  | some found =>
      obtain ⟨word, rest⟩ := found
      rw [(nextWord_eq_some second).1]
      exact ⟨rfl, fun _ isWord => (Option.some.inj isWord).symm⟩

end Words

/-- A line that is read as it is; no word follows `pwd`, which takes none. -/
def TypedPlainly (line : Bytes) : Prop :=
  FitsInput line ∧
    (sameWord ((wordsOf line).headD []) (ascii "pwd") = true → secondWord line = [])

instance (line : Bytes) : Decidable (TypedPlainly line) :=
  inferInstanceAs (Decidable (_ ∧ (_ → _)))

/-- The argument of a line that makes a command. -/
def CommandLine.argument? : CommandLine → Option Bytes
  | .puts argument | .gets argument => argument
  | .short _ argument => some argument
  | .blank | .exit | .help | .rejected => none

theorem argument?_shortCommand {type : CmdType} {needsArgument : Bool}
    {cursor argument : Bytes}
    (parsed : (shortCommand type needsArgument cursor).argument? = some argument) :
    argument = ((nextWord cursor pathMax).map Prod.fst).getD [] := by
  rw [shortCommand] at parsed
  split_ifs at parsed
  · cases parsed
  · exact (Option.some.inj parsed).symm

/-- Where the argument of a line comes from. -/
theorem argument?_commandLine {line command cursor argument : Bytes}
    (first : nextWord line 16 = some (command, cursor))
    (parsed : (commandLine line).argument? = some argument) :
    (nextWord cursor pathMax).map Prod.fst = some argument ∨
      argument = ((nextWord cursor pathMax).map Prod.fst).getD [] ∨
      argument = [] ∧ sameWord command (ascii "pwd") = true := by
  rcases commandLine_cases first with
    is | is | is | is | is | ⟨is, isPwd⟩ | ⟨type, needsArgument, -, is⟩
  all_goals rw [is] at parsed
  iterate 3 cases parsed
  · exact Or.inl parsed
  · exact Or.inl parsed
  · exact Or.inr (Or.inr ⟨(Option.some.inj parsed).symm, isPwd⟩)
  · exact Or.inr (Or.inl (argument?_shortCommand parsed))

/-- Only a line whose words fit makes a command, with its second word. -/
theorem argument_eq_secondWord {line argument : Bytes} (plain : TypedPlainly line)
    (parsed : (commandLine line).argument? = some argument) :
    argument = secondWord line ∧ ((wordsOf line).headD []).length < 16 := by
  cases first : nextWord line 16 with
  | none =>
      rw [commandLine, first] at parsed
      cases parsed
  | some found =>
      obtain ⟨command, cursor⟩ := found
      obtain ⟨words, short⟩ := nextWord_eq_some first
      have fits : line.length < pathMax := Nat.lt_of_le_of_lt plain.1.1 (by decide)
      obtain ⟨ifMissing, ifFound⟩ := secondWord_eq fits first
      rw [words]
      refine ⟨?_, short⟩
      rcases argument?_commandLine first parsed with found | rfl | ⟨rfl, isPwd⟩
      · exact ifFound argument found
      · exact ifMissing
      · refine (plain.2 ?_).symm
        rw [words]
        exact isPwd

theorem clientCommandExecute_handed {choice : PromptChoice} {input : Bytes}
    {handed : HandedCommand}
    (executed : (clientCommandExecute choice input).1 = some handed) :
    (commandLine input).argument? = some handed.argument := by
  rw [clientCommandExecute] at executed
  cases parsed : commandLine input with
  | blank | help | exit =>
      rw [parsed] at executed
      cases executed
  | rejected =>
      rw [parsed] at executed
      dsimp only at executed
      split_ifs at executed
  | puts argument | gets argument =>
      rw [parsed] at executed
      cases argument with
      | none =>
          dsimp only at executed
          split_ifs at executed
      | some argument =>
          dsimp only at executed
          split_ifs at executed
          cases executed
          rfl
  | short type argument =>
      rw [parsed] at executed
      dsimp only at executed
      split_ifs at executed
      cases executed
      rfl

namespace Prompt

/-- The next line is typed plainly. -/
def NextIsPlain (prompt : Prompt) (_ : PromptChoice) : Prop :=
  ∀ line ∈ (typedLines prompt.stdin).head?, TypedPlainly line

instance (prompt : Prompt) (choice : PromptChoice) :
    Decidable (prompt.NextIsPlain choice) :=
  inferInstanceAs (Decidable (∀ line ∈ (typedLines prompt.stdin).head?, _))

/-- The lines have been read one after the other, and each command that has been handed
over is that of its line. -/
structure Follows (stdin : Bytes) (prompt : Prompt) : Prop where
  left : typedLines prompt.stdin = (typedLines stdin).drop prompt.handed.length
  read : prompt.handed.length ≤ (typedLines stdin).length
  commands : ∀ (index : Nat) (handed : HandedCommand),
    prompt.handed[index]? = some (some handed) →
    ∃ line, (typedLines stdin)[index]? = some line ∧
      handed.argument = secondWord line ∧ ((wordsOf line).headD []).length < 16

theorem follows_start (stdin : Bytes) : Follows stdin (start stdin) where
  left := rfl
  read := Nat.zero_le _
  commands := nofun

theorem Follows.step {stdin : Bytes} {prompt after : Prompt} {choice : PromptChoice}
    (follows : Follows stdin prompt) (plain : prompt.NextIsPlain choice)
    (stepped : prompt.step choice = some after) : Follows stdin after := by
  have unread : Follows stdin { prompt with ended := true } :=
    ⟨follows.left, follows.read, follows.commands⟩
  rw [Prompt.step] at stepped
  split_ifs at stepped
  · cases stepped
    exact unread
  cases lines : typedLines prompt.stdin with
  | nil =>
      have ends : sGets maxCommandInput prompt.stdin = none := by
        rw [typedLines_eq_nil.mp lines]
        rfl
      rw [ends] at stepped
      cases stepped
      exact unread
  | cons line rest =>
      have plainLine : TypedPlainly line := plain line (by rw [lines]; rfl)
      obtain ⟨left, reads, isRest⟩ := sGets_typed lines plainLine.1
      have isLine : (typedLines stdin)[prompt.handed.length]? = some line := by
        rw [← List.head?_drop, ← follows.left, lines]
        rfl
      rw [reads] at stepped
      cases stepped
      constructor
      · rw [List.length_append, List.length_singleton, ← List.drop_drop, ← follows.left,
          lines, isRest]
        rfl
      · rw [List.length_append]
        exact (List.getElem?_eq_some_iff.mp isLine).1
      · intro index handed isHanded
        rcases Nat.lt_or_ge index prompt.handed.length with before | atEnd
        · rw [List.getElem?_append_left before] at isHanded
          exact follows.commands index handed isHanded
        · have isNew : index = prompt.handed.length := by
            have inside := (List.getElem?_eq_some_iff.mp isHanded).1
            rw [List.length_append, List.length_singleton] at inside
            omega
          subst isNew
          rw [List.getElem?_concat_length] at isHanded
          have parsed := clientCommandExecute_handed (Option.some.inj isHanded)
          exact ⟨line, isLine, argument_eq_secondWord plainLine parsed⟩

/-- As long as every line fits the buffer and holds no NUL, and no word follows `pwd`,
the lines are read one after the other, none is skipped, and each command that is handed
over has the second word of its line. -/
theorem commands_are_typed {stdin : Bytes} {choices : List PromptChoice} {last : Prompt}
    (plain : StepsMeet step NextIsPlain (start stdin) choices)
    (reached : runFrom step (start stdin) choices = some last) :
    typedLines last.stdin = (typedLines stdin).drop last.handed.length ∧
    last.handed.length ≤ (typedLines stdin).length ∧
    ∀ (index : Nat) (handed : HandedCommand),
      last.handed[index]? = some (some handed) →
      ∃ line, (typedLines stdin)[index]? = some line ∧
        handed.argument = secondWord line ∧ ((wordsOf line).headD []).length < 16 := by
  obtain ⟨left, read, commands⟩ := runFrom_invariant_of_stepsMeet
    (fun _ _ _ follows met stepped => follows.step met stepped)
    (follows_start stdin) plain reached
  exact ⟨left, read, commands⟩

/-- Two lines make two commands. -/
theorem two_lines_are_two_commands :
    ∃ last, runFrom step (start (ascii "rm a\nls\n")) [.working, .working] = some last ∧
      last.handed = [some (.short .rm (ascii "a")), some (.short .ls [])] ∧
      ∃ line, (typedLines (ascii "rm a\nls\n"))[0]? = some line ∧
        (HandedCommand.short .rm (ascii "a")).argument = secondWord line ∧
        ((wordsOf line).headD []).length < 16 := by
  have run : (runFrom step (start (ascii "rm a\nls\n")) [.working, .working]).any
      (fun last => last.handed = [some (.short .rm (ascii "a")), some (.short .ls [])]) =
        true := by
    decide +kernel
  obtain ⟨last, reached, ends⟩ := (Option.any_eq_true _ _).mp run
  have handed := of_decide_eq_true ends
  have plain : StepsMeet step NextIsPlain (start (ascii "rm a\nls\n"))
      [.working, .working] := by
    decide +kernel
  exact ⟨last, reached, handed,
    (commands_are_typed plain reached).2.2 0 _ (by rw [handed]; rfl)⟩

/-- A long line is executed with a part of its second word, and after a line with a NUL
the next one is skipped. -/
theorem long_line_is_executed_shortened :
    (runFrom step (start (ascii "rm " ++ List.replicate 600 97 ++ [10])) [.working]).map
        Prompt.handed = some [some (.short .rm (List.replicate 508 97))] ∧
    secondWord (ascii "rm " ++ List.replicate 600 97) = List.replicate 600 97 ∧
    runFrom step (start (ascii "rm a" ++ [0] ++ ascii "b\nls\n")) [.working] =
      some ⟨[], false, [some (.short .rm (ascii "a"))]⟩ := by
  refine ⟨?_, ?_, ?_⟩ <;> decide +kernel

end Prompt

end CloudDrive
