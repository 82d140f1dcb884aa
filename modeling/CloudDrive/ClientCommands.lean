import CloudDrive.ClientTasks

/-!
# Commands of the client

The control connection as the client sees it: the session of its runtime,
logins and registrations, and the commands of `command.c`.  A request and the
treatment of its response are two functions, with the exchange between them.
-/

namespace CloudDrive

/-- `isspace` in the C locale. -/
def isSpace (byte : UInt8) : Bool := byte = 32 || (9 ≤ byte && byte ≤ 13)

/-- `next_word`: the word and what follows it. -/
def nextWord (cursor : Bytes) (wordSize : Nat) : Option (Bytes × Bytes) :=
  let start := cursor.dropWhile isSpace
  let word := start.takeWhile fun byte => !isSpace byte
  if word = [] ∨ wordSize ≤ word.length then none
  else some (word, start.drop word.length)

/-- `strcasecmp` is zero. -/
def sameWord (word name : Bytes) : Bool := word.map toLower = name.map toLower

/-- What `client_command_execute` makes of a line. -/
inductive CommandLine where
  | blank
  | exit
  | help
  /-- A transfer, with its path if there is one. -/
  | puts (localPath : Option Bytes)
  | gets (remotePath : Option Bytes)
  | short (type : CmdType) (argument : Bytes)
  /-- An unknown command, or an argument is missing. -/
  | rejected
deriving DecidableEq

/-- A short command; a word that is missing or too long is an empty
argument. -/
def shortCommand (type : CmdType) (needsArgument : Bool) (cursor : Bytes) :
    CommandLine :=
  let first := ((nextWord cursor pathMax).map Prod.fst).getD []
  if needsArgument ∧ first = [] then .rejected else .short type first

def commandLine (input : Bytes) : CommandLine :=
  match nextWord input 16 with
  | none => .blank
  | some (command, cursor) =>
      if sameWord command (ascii "quit") ∨ sameWord command (ascii "exit") then .exit
      else if sameWord command (ascii "help") ∨ sameWord command (ascii "h") then
        .help
      else if sameWord command (ascii "puts") then
        .puts ((nextWord cursor pathMax).map Prod.fst)
      else if sameWord command (ascii "gets") then
        .gets ((nextWord cursor pathMax).map Prod.fst)
      else if sameWord command (ascii "pwd") then .short .pwd []
      else if sameWord command (ascii "cd") then shortCommand .cd false cursor
      else if sameWord command (ascii "ls") then shortCommand .ls false cursor
      else if sameWord command (ascii "mkdir") then shortCommand .mkdir true cursor
      else if sameWord command (ascii "rmdir") then shortCommand .rmdir true cursor
      else if sameWord command (ascii "rm") then shortCommand .rm true cursor
      else .rejected

/-- The C string in a buffer. -/
def textOf (payload : Bytes) : CText := ⟨cString payload, noNul_cString payload⟩

namespace ClientRuntime

variable (runtime : ClientRuntime)

/-- `client_runtime_clear_session`. -/
def clearSession : ClientRuntime :=
  { runtime with
    sessionId := .empty
    username := .empty
    remoteCwd := .empty }

/-- `client_runtime_publish_session`. -/
def publishSession (sessionId : SessionId) (username : CText) :
    Option ClientRuntime :=
  if sessionId.isEmpty ∨ username.1 = [] ∨ 64 ≤ username.1.length then none
  else
    some { runtime with
      sessionId, username, remoteCwd := ⟨ascii "/", by decide⟩ }

/-- `client_runtime_update_cwd`. -/
def updateCwd (cwd : CText) : Option ClientRuntime :=
  if cwd.1 = [] ∨ pathMax ≤ cwd.1.length ∨ runtime.sessionId.isEmpty then none
  else some { runtime with remoteCwd := cwd }

/-- The request of `execute_short_command`. -/
def shortRequest (type : CmdType) (argument : Bytes) : Option Packet :=
  match runtime.sessionSnapshot with
  | none => none
  | some (sessionId, _) =>
      if maxPacketPayload < argument.length then none
      else some (Packet.init type .ok sessionId argument)

/-- `execute_short_command` after the response has arrived; nothing if the
connection is given up. -/
def shortResponse (type : CmdType) (sessionId : SessionId) (response : Packet) :
    Option ClientRuntime :=
  if response.sessionId ≠ sessionId then some runtime
  else if response.type ≠ CmdType.ack.code ∧
      response.type ≠ CmdType.error.code then some runtime
  else if maxPacketPayload < response.payload.length then some runtime
  else if response.type = CmdType.error.code ∨
      response.status ≠ StatusCode.ok.code then
    if response.status = StatusCode.unauthorized.code then none else some runtime
  else if type = .cd then
    -- An empty text and a failed update leave the directory as it is.
    some ((runtime.updateCwd (textOf response.payload)).getD runtime)
  else some runtime

/-- The payload of `user_login` and `user_register`. -/
def credentials (username password : CText) : Bytes :=
  snprintf 128 (username.1 ++ 10 :: password.1)

def loginRequest (username password : CText) : Packet :=
  Packet.init .loginReq .ok .empty (credentials username password)

def registerRequest (username password : CText) : Packet :=
  Packet.init .registerReq .ok .empty (credentials username password)

/-- `user_login` after the response has arrived. -/
def loginResponse (username : CText) (response : Packet) : ClientRuntime :=
  if response.type = CmdType.ack.code ∧ response.status = StatusCode.ok.code ∧
      !response.sessionId.isEmpty then
    (runtime.publishSession response.sessionId username).getD runtime
  else runtime

variable {runtime : ClientRuntime}

/-- Only the acknowledgement of a `cd` changes the runtime. -/
theorem shortResponse_eq_some {type : CmdType} {sessionId : SessionId}
    {response : Packet} {after : ClientRuntime}
    (processed : runtime.shortResponse type sessionId response = some after) :
    after = runtime ∨ type = .cd ∧ response.type ≠ CmdType.error.code := by
  unfold shortResponse at processed
  split_ifs at processed with _ _ _ failed _ isCd
  all_goals cases processed
  · exact Or.inl rfl
  · exact Or.inl rfl
  · exact Or.inl rfl
  · exact Or.inl rfl
  · exact Or.inr ⟨isCd, fun isError => failed (Or.inl isError)⟩
  · exact Or.inl rfl

theorem shortResponse_cd {sessionId : SessionId} {cwd : Bytes} (noNul : 0 ∉ cwd)
    (nonempty : cwd ≠ []) (short : cwd.length < pathMax)
    (hasSession : runtime.sessionId ≠ .empty) :
    runtime.shortResponse .cd sessionId (Packet.init .ack .ok sessionId cwd) =
      some { runtime with remoteCwd := ⟨cwd, noNul⟩ } := by
  have text : textOf cwd = ⟨cwd, noNul⟩ := Subtype.ext (cString_of_noNul noNul)
  have fits : ¬maxPacketPayload < cwd.length := by
    simp only [maxPacketPayload, pathMax] at short ⊢
    omega
  have updates : runtime.updateCwd ⟨cwd, noNul⟩ =
      some { runtime with remoteCwd := ⟨cwd, noNul⟩ } := by
    rw [updateCwd, if_neg]
    simp only [SessionId.isEmpty_iff, not_or, Nat.not_le]
    exact ⟨nonempty, short, hasSession⟩
  simp [shortResponse, Packet.init, fits, text, updates, CmdType.code]

theorem shortRequest_eq_some {type : CmdType} {argument : Bytes} {packet : Packet}
    (requested : runtime.shortRequest type argument = some packet) :
    packet.type = type.code ∧ packet.sessionId = runtime.sessionId ∧
      runtime.sessionId ≠ .empty := by
  unfold shortRequest at requested
  split at requested
  · cases requested
  rename_i sessionId cwd snapshot
  split_ifs at requested
  cases requested
  unfold sessionSnapshot at snapshot
  split_ifs at snapshot with rejected
  cases snapshot
  refine ⟨rfl, rfl, fun empty => rejected (Or.inl ?_)⟩
  rwa [SessionId.isEmpty_iff]

end ClientRuntime

theorem shortCommand_eq_short {type asked : CmdType} {needsArgument : Bool}
    {cursor argument : Bytes}
    (parsed : shortCommand type needsArgument cursor = .short asked argument) :
    asked = type := by
  unfold shortCommand at parsed
  dsimp only at parsed
  split_ifs at parsed
  cases parsed
  rfl

/-- What a line with a command may be. -/
theorem commandLine_cases {input command cursor : Bytes}
    (first : nextWord input 16 = some (command, cursor)) :
    commandLine input = .exit ∨ commandLine input = .help ∨
    commandLine input = .rejected ∨
    commandLine input = .puts ((nextWord cursor pathMax).map Prod.fst) ∨
    commandLine input = .gets ((nextWord cursor pathMax).map Prod.fst) ∨
    commandLine input = .short .pwd [] ∧ sameWord command (ascii "pwd") = true ∨
    ∃ type needsArgument, type ≠ .loginReq ∧
      commandLine input = shortCommand type needsArgument cursor := by
  rw [commandLine, first]
  dsimp only
  by_cases isExit : sameWord command (ascii "quit") ∨ sameWord command (ascii "exit")
  · rw [if_pos isExit]
    exact Or.inl rfl
  rw [if_neg isExit]
  by_cases isHelp : sameWord command (ascii "help") ∨ sameWord command (ascii "h")
  · rw [if_pos isHelp]
    exact Or.inr (Or.inl rfl)
  rw [if_neg isHelp]
  iterate 2 apply Or.inr
  by_cases isPuts : sameWord command (ascii "puts")
  · rw [if_pos isPuts]
    exact Or.inr (Or.inl rfl)
  rw [if_neg isPuts]
  by_cases isGets : sameWord command (ascii "gets")
  · rw [if_pos isGets]
    exact Or.inr (Or.inr (Or.inl rfl))
  rw [if_neg isGets]
  by_cases isPwd : sameWord command (ascii "pwd")
  · rw [if_pos isPwd]
    exact Or.inr (Or.inr (Or.inr (Or.inl ⟨rfl, isPwd⟩)))
  rw [if_neg isPwd]
  by_cases known : sameWord command (ascii "cd") ∨ sameWord command (ascii "ls") ∨
      sameWord command (ascii "mkdir") ∨ sameWord command (ascii "rmdir") ∨
      sameWord command (ascii "rm")
  · iterate 4 apply Or.inr
    by_cases isCd : sameWord command (ascii "cd")
    · rw [if_pos isCd]
      exact ⟨.cd, false, nofun, rfl⟩
    rw [if_neg isCd]
    by_cases isLs : sameWord command (ascii "ls")
    · rw [if_pos isLs]
      exact ⟨.ls, false, nofun, rfl⟩
    rw [if_neg isLs]
    by_cases isMkdir : sameWord command (ascii "mkdir")
    · rw [if_pos isMkdir]
      exact ⟨.mkdir, true, nofun, rfl⟩
    rw [if_neg isMkdir]
    by_cases isRmdir : sameWord command (ascii "rmdir")
    · rw [if_pos isRmdir]
      exact ⟨.rmdir, true, nofun, rfl⟩
    rw [if_neg isRmdir]
    have isRm : sameWord command (ascii "rm") = true := by tauto
    rw [if_pos isRm]
    exact ⟨.rm, true, nofun, rfl⟩
  · simp only [not_or] at known
    obtain ⟨notCd, notLs, notMkdir, notRmdir, notRm⟩ := known
    rw [if_neg notCd, if_neg notLs, if_neg notMkdir, if_neg notRmdir, if_neg notRm]
    exact Or.inl rfl

/-- No line is a login. -/
theorem commandLine_ne_login {input argument : Bytes} {type : CmdType}
    (parsed : commandLine input = .short type argument) : type ≠ .loginReq := by
  rintro rfl
  cases first : nextWord input 16 with
  | none =>
      rw [commandLine, first] at parsed
      cases parsed
  | some found =>
      obtain ⟨command, cursor⟩ := found
      rcases commandLine_cases first with
        is | is | is | is | is | ⟨is, -⟩ | ⟨type, needs, notLogin, is⟩
      all_goals rw [is] at parsed
      iterate 6 cases parsed
      exact notLogin (shortCommand_eq_short parsed).symm

end CloudDrive
