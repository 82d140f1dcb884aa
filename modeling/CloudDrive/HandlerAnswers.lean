import CloudDrive.CanonicalPaths
import CloudDrive.ControlConnection
import CloudDrive.HandlerCalls

/-!
# What a response says about the session

A handler writes at most one response unless an unlink fails.  It is the last
thing it does to its session: the directory that a `cd` has stored is the one
that its response names, and the session that a login has created is the one
that its response names.
-/

namespace CloudDrive

/-- How far the handler of a request is. -/
inductive AnswerPhase where
  | working
  /-- The directory of the session has been stored. -/
  | updated (cwd : Bytes)
  | created (sessionId : SessionId)
  | answered
  /-- An unlink has failed, or the session had a directory that is no C
  string. -/
  | excluded

namespace AnswerPhase

def Allows (packet : Packet) : AnswerPhase → TaskOp → Prop
  | .working, .send response =>
      packet.type = CmdType.cd.code ∨ packet.type = CmdType.loginReq.code →
        response.type = CmdType.error.code
  | .working, .sessionUpdateCwd sessionId _ cwd =>
      packet.type = CmdType.cd.code ∧ sessionId = packet.sessionId ∧
        IsCanonical cwd ∧ 0 ∉ cwd
  | .working, .sessionCreate .. => packet.type = CmdType.loginReq.code
  | .updated cwd, .send response =>
      response = Packet.init .ack .ok packet.sessionId cwd
  | .created sessionId, .send response =>
      response = Packet.init .ack .ok sessionId []
  | .updated _, .sessionUpdateCwd .. | .updated _, .sessionCreate ..
  | .created _, .sessionUpdateCwd .. | .created _, .sessionCreate ..
  | .answered, .send _ | .answered, .sessionUpdateCwd ..
  | .answered, .sessionCreate .. => False
  | _, _ => True

def learn : AnswerPhase → (op : TaskOp) → op.Answer → AnswerPhase
  | .excluded, _, _ => .excluded
  | phase, .unlink _, unlinked => if unlinked then phase else .excluded
  | phase, .sessionAuthorize _, some context =>
      if 0 ∈ context.1.cwd then .excluded else phase
  | _, .send _, _ => .answered
  | phase, .sessionUpdateCwd _ _ cwd, moved =>
      if moved then .updated cwd else phase
  | _, .sessionCreate .., some sessionId => .created sessionId
  | phase, _, _ => phase

theorem learn_sessionAuthorize (phase : AnswerPhase) (sessionId : SessionId)
    {answered : Option FittingContext}
    (noNul : ∀ context ∈ answered, 0 ∉ context.1.cwd) :
    phase.learn (.sessionAuthorize sessionId) answered = phase := by
  rcases answered with _ | context
  · cases phase <;> rfl
  · have clean := noNul context rfl
    cases phase <;> simp [learn, clean]

end AnswerPhase

/-- Every call of a handler is allowed, from a phase on. -/
abbrev Answers {α : Type} (packet : Packet) (phase : AnswerPhase)
    (program : Handler α) (post : α → AnswerPhase → Prop) : Prop :=
  program.Obeys (AnswerPhase.Allows packet) AnswerPhase.learn phase post

/-- The calls to the session table. -/
def TaskOp.isSession : TaskOp → Bool
  | .sessionAuthorize .. | .sessionCreate .. | .sessionUpdateCwd .. => true
  | _ => false

section Walk

variable {packet : Packet} {α : Type}

theorem answers_excluded (program : Handler α) :
    Answers packet .excluded program fun _ _ => True := by
  induction program with
  | done value => trivial
  | call op next inductionHypothesis =>
      refine ⟨by cases op <;> trivial, fun answer => ?_⟩
      exact inductionHypothesis answer

/-- Some answers let a program end without a failed unlink. -/
theorem Prog.Costs.nonneg {program : Handler α} {total : Int}
    (costs : program.Costs responseWeight total) : 0 ≤ total := by
  induction program generalizing total with
  | done value => exact costs.ge
  | call op next inductionHypothesis =>
      have rest := inductionHypothesis _ (costs (Connection.lastReference true op))
      have weight : 0 ≤ responseWeight op (Connection.lastReference true op) := by
        cases op <;> simp [responseWeight, isResponse, isFailedUnlink,
          Connection.lastReference]
      omega

/-- A program that leaves the sessions alone writes no second response. -/
theorem answers_of_costs {program : Handler α} {total : Int} {phase : AnswerPhase}
    (notCd : packet.type ≠ CmdType.cd.code)
    (notLogin : packet.type ≠ CmdType.loginReq.code)
    (costs : program.Costs responseWeight total)
    (calls : CallsOnly (fun op => !op.isSession) program)
    (owes : phase = .working ∧ total = 1 ∨ phase = .answered ∧ total = 0) :
    Answers packet phase program fun _ _ => True := by
  induction program generalizing total phase with
  | done value => trivial
  | call op next inductionHypothesis =>
      cases op with
      | send response =>
          rcases owes with ⟨rfl, rfl⟩ | ⟨rfl, rfl⟩
          · refine ⟨fun restricted => ?_, fun answer => ?_⟩
            · rcases restricted with isCd | isLogin
              · exact absurd isCd notCd
              · exact absurd isLogin notLogin
            · exact inductionHypothesis answer (costs answer) (calls.2 answer)
                (Or.inr ⟨rfl, rfl⟩)
          · exact absurd (costs true).nonneg
              (by simp [responseWeight, isResponse, isFailedUnlink])
      | unlink file =>
          refine ⟨by rcases owes with ⟨rfl, -⟩ | ⟨rfl, -⟩ <;> trivial,
            fun unlinked => ?_⟩
          cases unlinked with
          | true =>
              rcases owes with ⟨rfl, rfl⟩ | ⟨rfl, rfl⟩
              · exact inductionHypothesis true (costs true) (calls.2 true)
                  (Or.inl ⟨rfl, rfl⟩)
              · exact inductionHypothesis true (costs true) (calls.2 true)
                  (Or.inr ⟨rfl, rfl⟩)
          | false =>
              rcases owes with ⟨rfl, -⟩ | ⟨rfl, -⟩ <;>
                exact answers_excluded (next false)
      | sessionAuthorize | sessionCreate | sessionUpdateCwd =>
          exact absurd calls.1 Bool.false_ne_true
      | _ =>
          refine ⟨by rcases owes with ⟨rfl, -⟩ | ⟨rfl, -⟩ <;> trivial,
            fun answer => ?_⟩
          rcases owes with ⟨rfl, rfl⟩ | ⟨rfl, rfl⟩
          · exact inductionHypothesis answer (costs answer) (calls.2 answer)
              (Or.inl ⟨rfl, rfl⟩)
          · exact inductionHypothesis answer (costs answer) (calls.2 answer)
              (Or.inr ⟨rfl, rfl⟩)

theorem followsState_notSession :
    FollowsState (fun (_ : Unit) op => (!op.isSession) = true) fun _ _ _ => () where
  allows _ op outside := by
    cases op <;> first
      | rfl
      | cases outside
  keeps _ _ _ _ := rfl

namespace HandlerTask

variable {task : HandlerTask}

theorem notSession_reply (type : CmdType) (status : StatusCode) (payload : Bytes) :
    CallsOnly (fun op => !op.isSession) (task.reply type status payload) :=
  followsState_notSession.respond () type status _ payload

theorem notSession_handleLs :
    CallsOnly (fun op => !op.isSession) task.handleLs := by
  unfold handleLs
  split
  · exact notSession_reply _ _ _
  dsimp only
  split
  · exact notSession_reply _ _ _
  refine Prog.Obeys.ask rfl ?_
  rintro ⟨result, targetId⟩
  cases result with
  | isFile =>
      dsimp only
      split <;> exact notSession_reply _ _ _
  | isDir =>
      refine Prog.Obeys.ask rfl ?_
      rintro ⟨count, listing⟩
      dsimp only
      split_ifs <;> exact notSession_reply _ _ _
  | notFound | dbError | badArg => exact notSession_reply _ _ _

/-- Only a `cd` and a login touch the sessions. -/
theorem notSession_handleBasicTask (notCd : task.packet.type ≠ CmdType.cd.code)
    (notLogin : task.packet.type ≠ CmdType.loginReq.code) :
    CallsOnly (fun op => !op.isSession) task.handleBasicTask := by
  have follows := followsState_notSession
  unfold handleBasicTask
  split_ifs
  · exact task.obeys_handleRegister follows fun _ _ _ _ => rfl
  · exact notSession_reply _ _ _
  · exact notSession_handleLs
  · exact task.obeys_handleMkdir follows fun _ _ _ _ => ⟨rfl, fun _ => rfl⟩
  · exact task.obeys_handleRmdir follows
      fun _ _ _ _ => ⟨rfl, fun _ _ _ => ⟨rfl, rfl⟩⟩
  · exact task.obeys_handleRm follows fun _ _ _ _ => ⟨rfl, fun _ => rfl⟩
  · exact notSession_reply _ _ _

theorem answers_respond {phase : AnswerPhase} {type : CmdType}
    {status : StatusCode} {sessionId : SessionId} {payload : Bytes}
    (allowed : phase.Allows packet
      (.send (Packet.init type status sessionId payload))) :
    Answers packet phase (respond type status sessionId payload)
      fun _ _ => True := by
  unfold respond sendPacket
  split_ifs
  · trivial
  · exact ⟨allowed, fun _ => trivial⟩

theorem answers_fail {status : StatusCode} :
    Answers packet .working (task.fail status) fun _ _ => True :=
  answers_respond fun _ => rfl

/-- The directory that is stored is the one that is sent. -/
theorem answers_handleCd (isCd : task.packet.type = CmdType.cd.code)
    (noNul : 0 ∉ task.session.1.cwd) :
    Answers task.packet .working task.handleCd fun _ _ => True := by
  unfold handleCd
  split
  · exact answers_fail
  rename_i payload copied
  have noNulPayload : 0 ∉ payload := by
    unfold copyPayload at copied
    split at copied
    · cases copied
    · cases copied
      exact noNul_cString _
  dsimp only
  split
  · exact answers_fail
  rename_i virtualPath normalized
  have stored : IsCanonical virtualPath ∧ 0 ∉ virtualPath := by
    split_ifs at normalized
    · cases normalized
      exact ⟨⟨[], nofun, rfl⟩, by decide⟩
    · refine ⟨isCanonical_normalizeCdPath (by decide) normalized, fun inside => ?_⟩
      rcases mem_normalizeCdPath normalized inside with isSlash | inCwd | inPayload
      · exact absurd isSlash (by decide)
      · exact noNul inCwd
      · exact noNulPayload inPayload
  refine Prog.Obeys.ask trivial ?_
  rintro ⟨result, pathId⟩
  cases result with
  | isDir =>
      refine Prog.Obeys.ask ⟨isCd, rfl, stored⟩ fun moved => ?_
      cases moved with
      | false => exact answers_fail
      | true => exact answers_respond rfl
  | notFound | isFile => exact answers_respond fun _ => rfl
  | dbError | badArg => exact answers_fail

theorem answers_handleLogin (isLogin : task.packet.type = CmdType.loginReq.code) :
    Answers task.packet .working task.handleLogin fun _ _ => True := by
  unfold handleLogin
  split
  · exact answers_fail
  refine Prog.Obeys.ask trivial ?_
  rintro ⟨result, info⟩
  change Answers _ .working (ite _ _ _) _
  split_ifs
  · exact answers_fail
  · exact answers_fail
  refine Prog.Obeys.ask trivial fun encrypted => ?_
  change Answers _ .working (ite _ _ _) _
  split_ifs
  · exact answers_fail
  refine Prog.Obeys.ask isLogin fun created => ?_
  cases created with
  | none => exact answers_fail
  | some newId => exact answers_respond rfl

theorem answers_handleBasicTask (noNul : 0 ∉ task.session.1.cwd) :
    Answers task.packet .working task.handleBasicTask fun _ _ => True := by
  by_cases isCd : task.packet.type = CmdType.cd.code
  · have handles : task.handleBasicTask = task.handleCd := by
      unfold handleBasicTask
      rw [isCd]
      rfl
    rw [handles]
    exact answers_handleCd isCd noNul
  by_cases isLogin : task.packet.type = CmdType.loginReq.code
  · have handles : task.handleBasicTask = task.handleLogin := by
      unfold handleBasicTask
      rw [isLogin]
      rfl
    rw [handles]
    exact answers_handleLogin isLogin
  · exact answers_of_costs isCd isLogin handleBasicTask_costs
      (notSession_handleBasicTask isCd isLogin) (Or.inl ⟨rfl, rfl⟩)

end HandlerTask

/-- One request, from the event loop to the end of its task. -/
theorem answers_serveRequest (packet : Packet) :
    Answers packet .working (serveRequest packet) fun _ _ => True := by
  have served (session : FittingContext) (noNul : 0 ∉ session.1.cwd) :
      Answers packet .working (do
        HandlerTask.handleBasicTask ⟨packet, session⟩
        Prog.ask TaskOp.trackAndPublish) fun _ _ => True := by
    have handled : Answers packet .working
        (HandlerTask.handleBasicTask ⟨packet, session⟩) fun _ _ => True :=
      @HandlerTask.answers_handleBasicTask ⟨packet, session⟩ noNul
    refine handled.bind fun _ phase _ => ⟨?_, fun _ => trivial⟩
    cases phase <;> trivial
  unfold serveRequest
  split_ifs with anonymous
  · unfold HandlerTask.sendPacket
    split_ifs
    · trivial
    · exact ⟨fun _ => rfl, fun _ => trivial⟩
  · exact served anonymousSession (by decide)
  · refine Prog.Obeys.ask trivial fun session => ?_
    cases session with
    | none =>
        change Answers packet .working (HandlerTask.sendPacket _ _ _ _) _
        unfold HandlerTask.sendPacket
        split_ifs
        · trivial
        · exact ⟨fun _ => rfl, fun _ => trivial⟩
    | some session =>
        change Answers packet (ite _ _ _) _ _
        split_ifs with nul
        · exact answers_excluded _
        · exact served session nul

end Walk

end CloudDrive
