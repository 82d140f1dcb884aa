import CloudDrive.ClientCommands
import CloudDrive.HandlerAnswers
import CloudDrive.SessionHistory

/-!
# The working directory on both sides

One client with its control connection, and the server that it is connected to.
The client sends one request after the other and waits for each response; it
may lose the connection at any point and connect again.  The rest of the
server, with the transfers of the client and all other clients, calls the
session table at any time.
-/

namespace CloudDrive

open SessionTable

/-- What the client waits for. -/
inductive Awaited where
  | command (type : CmdType) (sessionId : SessionId)
  | login (username : CText)
  | register

/-- The runtime after a response; nothing if the connection is given up. -/
def Awaited.process (runtime : ClientRuntime) (response : Packet) :
    Awaited → Option ClientRuntime
  | command type sessionId => runtime.shortResponse type sessionId response
  | login username => some (runtime.loginResponse username response)
  | register => some runtime

/-- The control connection of the client. -/
structure ControlLink where
  /-- The descriptor of the server. -/
  clientFd : Int
  /-- What the client has sent and the server has not read. -/
  requests : List Packet
  /-- What is left to do for the request that is being served. -/
  serving : Option (Handler Bool)
  /-- What the server has sent and the client has not received. -/
  responses : List Packet
  /-- The server has not closed the connection. -/
  isOpen : Bool

def ControlLink.fresh (clientFd : Int) : ControlLink :=
  ⟨clientFd, [], none, [], true⟩

structure ControlSystem where
  runtime : ClientRuntime
  link : Option ControlLink
  awaited : Option Awaited
  sessions : SessionTable
  /-- The session that the last login has created, while the server holds
  it. -/
  held : Option SessionId

/-- The calls that the client notices or that concern its session. -/
def TaskOp.isNoticed : TaskOp → Bool
  | .send .. | .sessionCreate .. | .sessionUpdateCwd .. => true
  | _ => false

/-- What the environment decides about a call of a handler. -/
structure ControlChoice where
  answer : (op : TaskOp) → op.Answer
  now : Option Timespec
  allocated : Bool
  draws : List Draw

inductive ControlAction where
  /-- `connect_control`, with the descriptor of the server if it succeeds. -/
  | connect (clientFd : Option Int)
  /-- The user enters a line; whether the connection is found alive and the
  request can be sent. -/
  | input (line : CText) (alive sent : Bool)
  | login (username password : CText) (sent : Bool)
  | register (username password : CText) (sent : Bool)
  /-- The client receives the next response, or receiving fails. -/
  | receive (arrives : Bool)
  /-- The main loop of the server reads the next request. -/
  | read
  /-- The next call of the request being served. -/
  | call (choice : ControlChoice)
  /-- The request has been served. -/
  | finish
  /-- The server closes the connection. -/
  | close
  /-- A call to the session table for another connection. -/
  | others (call : SessionCall)

theorem SessionTable.fits_copyContext (session : Session) :
    (copyContext session).Fits := by
  constructor
  · simp only [copyContext, List.length_take, usernameSize]
    omega
  · simp only [copyContext, List.length_take, pathMax]
    omega

theorem SessionTable.fits_sessionAuthorize {table : SessionTable} {clientFd : Int}
    {sessionId : SessionId} {now : Option Timespec} {allocated : Bool}
    {context : SessionContext}
    (authorized : (sessionAuthorize table clientFd sessionId now allocated).1 =
      some context) : context.Fits := by
  unfold sessionAuthorize at authorized
  split at authorized
  · cases authorized
  split at authorized
  · cases authorized
  split at authorized
  · cases authorized
  split at authorized
  · cases authorized
  · split at authorized
    · cases authorized
    · cases authorized
      exact fits_copyContext _
  · split at authorized
    · cases authorized
    · cases authorized
      exact fits_copyContext _

namespace ControlSystem

variable (system : ControlSystem)

/-- The client closes the connection and forgets its session. -/
def lost : ControlSystem :=
  { system with
    runtime := system.runtime.clearSession
    link := none
    awaited := none
    held := none }

/-- The sessions change, and a session that is gone is no longer held. -/
def remember (sessions : SessionTable) : ControlSystem :=
  { system with
    sessions
    held := system.held.filter fun sessionId =>
      (contextOf sessions sessionId).isSome }

/-- A request is on its way. -/
def request (link : ControlLink) (awaited : Awaited) (packet : Packet) :
    ControlSystem :=
  { system with
    link := some { link with requests := link.requests ++ [packet] }
    awaited := some awaited }

/-- `client_command_execute` up to the exchange. -/
def input (link : ControlLink) (line : CText) (alive sent : Bool) :
    ControlSystem :=
  match commandLine line.1 with
  | .blank | .help => system
  | .exit => system.lost
  | .puts _ | .gets _ | .rejected => if alive then system else system.lost
  | .short type argument =>
      if !alive then system.lost
      else
        match system.runtime.shortRequest type argument with
        | none => system
        | some packet =>
            if !sent then system.lost
            else system.request link (.command type packet.sessionId) packet

/-- `user_login` up to the exchange; without a connection the client connects
again. -/
def login (link : ControlLink) (username password : CText) (sent : Bool) :
    ControlSystem :=
  if !sent then system.lost
  else
    request
      { system with runtime := system.runtime.clearSession, held := none }
      link (.login username) (ClientRuntime.loginRequest username password)

def register (link : ControlLink) (username password : CText) (sent : Bool) :
    ControlSystem :=
  if !sent then system.lost
  else
    system.request link .register
      (ClientRuntime.registerRequest username password)

/-- A response has arrived. -/
def respond (link : ControlLink) (awaited : Awaited) (response : Packet)
    (responses : List Packet) : ControlSystem :=
  match awaited.process system.runtime response with
  | none => system.lost
  | some runtime =>
      { system with
        runtime
        awaited := none
        link := some { link with responses } }

/-- A call of the handler that serves the connection.  An unlink succeeds. -/
def perform (link : ControlLink) (choice : ControlChoice) :
    (op : TaskOp) → op.Answer × ControlSystem
  | .sessionAuthorize sessionId =>
      let outcome := sessionAuthorize system.sessions link.clientFd sessionId
        choice.now choice.allocated
      (outcome.1.pmap Subtype.mk fun _ => fits_sessionAuthorize,
        system.remember outcome.2)
  | .sessionCreate userId username rootPathId =>
      let outcome := sessionCreate system.sessions link.clientFd userId username
        rootPathId choice.allocated choice.draws
      match outcome.1 with
      | none => (none, system.remember outcome.2)
      | some sessionId =>
          (some sessionId,
            { system with sessions := outcome.2, held := some sessionId })
  | .sessionUpdateCwd sessionId cwdId cwd =>
      let outcome := sessionUpdateCwd system.sessions link.clientFd sessionId
        cwdId cwd choice.now
      (outcome.1, system.remember outcome.2)
  | .send packet =>
      if choice.answer (.send packet) then
        (true,
          { system with
            link := some { link with responses := link.responses ++ [packet] } })
      else (false, system)
  | .unlink _ => (true, system)
  | op => (choice.answer op, system)

/-- The handler goes on. -/
def resume (program : Handler Bool) : ControlSystem :=
  { system with
    link := system.link.map fun link => { link with serving := some program } }

/-- The server closes its end of the connection. -/
def closed (link : ControlLink) : ControlSystem :=
  { system.remember (sessionDetachFd system.sessions link.clientFd) with
    link := some { link with isOpen := false, serving := none } }

/-- The calls for other connections may do anything but move the session of this
client: its transfers bind and unbind their descriptors only. -/
def isForeign : SessionCall → Bool
  | .updateCwd _ sessionId _ cwd _ => system.held ≠ some sessionId && 0 ∉ cwd
  | _ => true

def step (system : ControlSystem) : ControlAction → Option ControlSystem
  | .connect clientFd =>
      match system.awaited with
      | some _ => none
      | none => some { system.lost with link := clientFd.map ControlLink.fresh }
  | .input line alive sent =>
      match system.awaited, system.link with
      | none, some link => some (system.input link line alive sent)
      | _, _ => none
  | .login username password sent =>
      match system.awaited, system.link with
      | none, some link => some (system.login link username password sent)
      | _, _ => none
  | .register username password sent =>
      match system.awaited, system.link with
      | none, some link => some (system.register link username password sent)
      | _, _ => none
  | .receive arrives =>
      match system.awaited, system.link with
      | some awaited, some link =>
          if !arrives then some system.lost
          else
            match link.responses with
            | [] => none
            | response :: responses =>
                some (system.respond link awaited response responses)
      | _, _ => none
  | .read =>
      match system.link with
      | none => none
      | some link =>
          match link.isOpen, link.serving, link.requests with
          | true, none, packet :: requests =>
              some { system with
                link := some
                  { link with requests, serving := some (serveRequest packet) } }
          | _, _, _ => none
  | .call choice =>
      match system.link with
      | none => none
      | some link =>
          match link.serving with
          | some (.call op next) =>
              let (answer, after) := system.perform link choice op
              some (after.resume (next answer))
          | _ => none
  | .finish =>
      match system.link with
      | none => none
      | some link =>
          match link.serving with
          | some (.done stays) =>
              if stays then
                some { system with link := some { link with serving := none } }
              else some (system.closed link)
          | _ => none
  | .close =>
      match system.link with
      | none => none
      | some link =>
          match link.serving with
          | none => some (system.closed link)
          | some _ => none
  | .others call =>
      if system.isForeign call then
        some (system.remember (call.perform system.sessions).2)
      else none

/-- A client that has not connected, and a server that has just started. -/
def initial (downloadDir : CText) : ControlSystem where
  runtime :=
    { sessionId := .empty
      username := .empty
      remoteCwd := .empty
      downloadDir }
  link := none
  awaited := none
  sessions := SessionTable.create
  held := none

end ControlSystem

section Sessions

/-- The directories of the sessions are C strings. -/
def CleanSessions (table : SessionTable) : Prop :=
  ∀ sessionId context, contextOf table sessionId = some context → 0 ∉ context.cwd

/-- A change of the table leaves a session as it is or removes it. -/
structure Spares (before after : SessionTable) (held : Option SessionId) :
    Prop where
  wellFormed : WellFormed after
  clean : CleanSessions after
  kept : ∀ sessionId ∈ held, contextOf after sessionId = none ∨
    contextOf after sessionId = contextOf before sessionId

/-- The directory of the session that is held. -/
def Remembers (sessions : SessionTable) (held : Option SessionId)
    (sessionId : SessionId) (cwd : Bytes) : Prop :=
  held = none ∨ held = some sessionId ∧
    ∃ context, contextOf sessions sessionId = some context ∧
      context.cwd = cwd ∧ IsCanonical cwd

variable {before after : SessionTable} {held : Option SessionId}

theorem Remembers.spare {sessionId : SessionId} {cwd : Bytes}
    (remembers : Remembers before held sessionId cwd)
    (spares : Spares before after held) :
    Remembers after
      (held.filter fun sessionId => (contextOf after sessionId).isSome)
      sessionId cwd := by
  rcases remembers with rfl | ⟨rfl, context, stored, isCwd, canonical⟩
  · exact Or.inl rfl
  · rcases spares.kept sessionId rfl with gone | same
    · exact Or.inl (by simp [gone])
    · rw [stored] at same
      exact Or.inr ⟨by simp [same], context, same, isCwd, canonical⟩

/-- Where a context comes from. -/
theorem SessionEvent.Follows.contextOf_eq_some {event : SessionEvent}
    (follows : event.Follows before after) {sessionId : SessionId}
    {context : SessionContext} (stored : contextOf after sessionId = some context) :
    event.Issues sessionId context ∨
      ∃ former, contextOf before sessionId = some former ∧
        context = event.moves sessionId former := by
  by_cases issued : ∃ initial, event.Issues sessionId initial
  · obtain ⟨initial, issues⟩ := issued
    have same := (follows.issued sessionId initial issues).2
    cases stored.symm.trans same
    exact Or.inl issues
  · rw [not_exists] at issued
    have kept := follows.kept sessionId issued
      (follows.wellFormed.live_iff_bound.mp ⟨context, stored⟩)
    rw [stored] at kept
    obtain ⟨former, isFormer, moved⟩ := Option.map_eq_some_iff.mp kept.symm
    exact Or.inr ⟨former, isFormer, moved.symm⟩

theorem SessionCall.moves_perform (call : SessionCall) (table : SessionTable)
    (sessionId : SessionId) (context : SessionContext) :
    (call.perform table).1.moves sessionId context = context ∨
      ∃ clientFd cwdId cwd now,
        call = .updateCwd clientFd sessionId cwdId cwd now ∧
        ((call.perform table).1.moves sessionId context).cwd = cwd := by
  cases call with
  | create | authorize | detach => exact Or.inl rfl
  | updateCwd clientFd moved cwdId cwd now =>
      simp only [perform]
      cases (sessionUpdateCwd table clientFd moved cwdId cwd now).1 with
      | false => exact Or.inl rfl
      | true =>
          by_cases same : moved = sessionId
          · subst same
            exact Or.inr ⟨clientFd, cwdId, cwd, now, rfl, by simp [SessionEvent.moves]⟩
          · exact Or.inl (by simp [SessionEvent.moves, same])

theorem SessionEvent.Issues.cwd_eq {event : SessionEvent} {sessionId : SessionId}
    {context : SessionContext} (issues : event.Issues sessionId context) :
    context.cwd = ascii "/" := by
  cases event with
  | created clientFd userId username rootPathId result =>
      cases result with
      | none => exact issues.elim
      | some issued => rw [issues.2, initialContext]
  | authorized | cwdUpdated | detached => exact issues.elim

/-- A call that stores C strings and does not move the session. -/
theorem spares_perform (wellFormed : WellFormed before) (clean : CleanSessions before)
    (alive : ∀ sessionId ∈ held, contextOf before sessionId ≠ none)
    (call : SessionCall)
    (text : ∀ clientFd sessionId cwdId cwd now,
      call = .updateCwd clientFd sessionId cwdId cwd now →
        0 ∉ cwd ∧ sessionId ∉ held) :
    Spares before (call.perform before).2 held := by
  have follows := call.perform_follows wellFormed
  refine ⟨follows.wellFormed, ?_, ?_⟩
  · intro sessionId context stored
    rcases follows.contextOf_eq_some stored with issues | ⟨former, isFormer, rfl⟩
    · rw [issues.cwd_eq]
      decide
    · rcases call.moves_perform before sessionId former with
        same | ⟨clientFd, cwdId, cwd, now, isUpdate, isCwd⟩
      · rw [same]
        exact clean sessionId former isFormer
      · rw [isCwd]
        exact (text _ _ _ _ _ isUpdate).1
  · intro sessionId isHeld
    rcases stored : contextOf (call.perform before).2 sessionId with _ | context
    · exact Or.inl rfl
    right
    rcases follows.contextOf_eq_some stored with issues | ⟨former, isFormer, rfl⟩
    · exact absurd (follows.issued sessionId context issues).1 (alive sessionId isHeld)
    · rcases call.moves_perform before sessionId former with
        same | ⟨clientFd, cwdId, cwd, now, isUpdate, -⟩
      · rw [same, isFormer]
      · exact absurd isHeld (text _ _ _ _ _ isUpdate).2

end Sessions

/-- The request that the client has sent. -/
def Awaited.Asks (runtime : ClientRuntime) (packet : Packet) : Awaited → Prop
  | command type sessionId =>
      packet.type = type.code ∧ type ≠ .loginReq ∧
        packet.sessionId = sessionId ∧ sessionId = runtime.sessionId ∧
        sessionId ≠ .empty
  | login _ => packet.type = CmdType.loginReq.code ∧ runtime.sessionId = .empty
  | register => packet.type = CmdType.registerReq.code

namespace ControlSystem

variable {system : ControlSystem}

/-- What a runtime says about the session agrees with the server. -/
def Agrees (system : ControlSystem) (runtime : ClientRuntime) : Prop :=
  runtime.sessionId = .empty ∨
    Remembers system.sessions system.held runtime.sessionId runtime.remoteCwd.1

/-- Nothing is left but calls that the client does not notice. -/
def Rests (serving : Option (Handler Bool)) : Prop :=
  ∀ program ∈ serving, ∃ packet,
    Answers packet .answered program fun _ _ => True

/-- What the server knows while it serves a request. -/
def Tells (system : ControlSystem) (packet : Packet) : AnswerPhase → Prop
  | .working => system.Agrees system.runtime
  | .updated cwd =>
      packet.type = CmdType.cd.code ∧ 0 ∉ cwd ∧ cwd.length < pathMax ∧
        Remembers system.sessions system.held packet.sessionId cwd
  | .created sessionId =>
      packet.type = CmdType.loginReq.code ∧
        Remembers system.sessions system.held sessionId (ascii "/")
  | .answered | .excluded => False

/-- Where the request of the client is while no handler works on it: there is
none, it has not been read, its response has been sent, or there will be no
response. -/
inductive Pends (system : ControlSystem) :
    Option Awaited → List Packet → List Packet → Prop where
  | nothing (agrees : system.Agrees system.runtime) : Pends system none [] []
  | sent {awaited : Awaited} {packet : Packet}
      (asks : awaited.Asks system.runtime packet)
      (agrees : system.Agrees system.runtime) :
      Pends system (some awaited) [packet] []
  | replied {awaited : Awaited} {response : Packet}
      (agrees : ∀ runtime ∈ awaited.process system.runtime response,
        system.Agrees runtime) :
      Pends system (some awaited) [] [response]
  | silent {awaited : Awaited} : Pends system (some awaited) [] []

/-- A handler works on the request of the client. -/
structure Works (system : ControlSystem) (awaited : Awaited) (packet : Packet)
    (phase : AnswerPhase) (program : Handler Bool) : Prop where
  asks : awaited.Asks system.runtime packet
  answers : Answers packet phase program fun _ _ => True
  tells : system.Tells packet phase

def Waits (system : ControlSystem) (awaited : Option Awaited)
    (link : ControlLink) : Prop :=
  Rests link.serving ∧ Pends system awaited link.requests link.responses ∨
    ∃ waiting packet phase program, awaited = some waiting ∧
      link.requests = [] ∧ link.responses = [] ∧ link.serving = some program ∧
      Works system waiting packet phase program

/-- What holds after every step. -/
structure Coherent (system : ControlSystem) : Prop where
  wellFormed : WellFormed system.sessions
  clean : CleanSessions system.sessions
  alive : ∀ sessionId ∈ system.held, contextOf system.sessions sessionId ≠ none
  disconnected : system.link = none →
    system.awaited = none ∧ system.runtime.sessionId = .empty
  waits : ∀ link ∈ system.link, Waits system system.awaited link

/-- The client knows the same, and the server still holds its session as it
was or no longer. -/
structure Upholds (before after : ControlSystem) : Prop where
  runtime : after.runtime = before.runtime
  remembers : ∀ sessionId cwd,
    Remembers before.sessions before.held sessionId cwd →
      Remembers after.sessions after.held sessionId cwd

section Upheld

variable {before after : ControlSystem} (upholds : Upholds before after)

include upholds

theorem Agrees.uphold {runtime : ClientRuntime} (agrees : before.Agrees runtime) :
    after.Agrees runtime :=
  agrees.imp_right (upholds.remembers _ _)

theorem Tells.uphold {packet : Packet} {phase : AnswerPhase}
    (tells : before.Tells packet phase) : after.Tells packet phase := by
  cases phase with
  | working =>
      rw [Tells, upholds.runtime]
      exact Agrees.uphold upholds tells
  | updated cwd =>
      obtain ⟨isCd, noNul, short, remembers⟩ := tells
      exact ⟨isCd, noNul, short, upholds.remembers _ _ remembers⟩
  | created sessionId => exact ⟨tells.1, upholds.remembers _ _ tells.2⟩
  | answered | excluded => exact tells.elim

theorem Pends.uphold {awaited : Option Awaited} {requests responses : List Packet}
    (pends : Pends before awaited requests responses) :
    Pends after awaited requests responses := by
  have same := upholds.runtime
  cases pends with
  | nothing agrees => exact .nothing (same ▸ agrees.uphold upholds)
  | sent asks agrees => exact .sent (same ▸ asks) (same ▸ agrees.uphold upholds)
  | replied agrees =>
      refine .replied fun runtime processed => ?_
      rw [same] at processed
      exact (agrees runtime processed).uphold upholds
  | silent => exact .silent

theorem Works.uphold {awaited : Awaited} {packet : Packet} {phase : AnswerPhase}
    {program : Handler Bool} (works : Works before awaited packet phase program) :
    Works after awaited packet phase program :=
  ⟨upholds.runtime ▸ works.asks, works.answers, works.tells.uphold upholds⟩

theorem Waits.uphold {awaited : Option Awaited} {link : ControlLink}
    (waits : Waits before awaited link) : Waits after awaited link := by
  rcases waits with ⟨rests, pends⟩ |
    ⟨waiting, packet, phase, program, isAwaited, noRequest, noResponse, serving, works⟩
  · exact Or.inl ⟨rests, pends.uphold upholds⟩
  · exact Or.inr ⟨waiting, packet, phase, program, isAwaited, noRequest, noResponse,
      serving, works.uphold upholds⟩

end Upheld

theorem upholds_remember {sessions : SessionTable}
    (spares : Spares system.sessions sessions system.held) :
    Upholds system (system.remember sessions) :=
  ⟨rfl, fun _ _ remembers => remembers.spare spares⟩

theorem alive_remember {sessions : SessionTable} {sessionId : SessionId}
    (isHeld : sessionId ∈ (system.remember sessions).held) :
    contextOf sessions sessionId ≠ none :=
  Option.isSome_iff_ne_none.mp (Option.filter_eq_some_iff.mp isHeld).2

theorem Coherent.remember (coherent : Coherent system) {sessions : SessionTable}
    (spares : Spares system.sessions sessions system.held) :
    Coherent (system.remember sessions) where
  wellFormed := spares.wellFormed
  clean := spares.clean
  alive _ isHeld := alive_remember isHeld
  disconnected := coherent.disconnected
  waits link isLink := (coherent.waits link isLink).uphold (upholds_remember spares)

/-- Another state of the connection. -/
theorem coherent_relink {link : ControlLink}
    (wellFormed : WellFormed system.sessions) (clean : CleanSessions system.sessions)
    (alive : ∀ sessionId ∈ system.held, contextOf system.sessions sessionId ≠ none)
    (waits : Waits system system.awaited link) :
    Coherent { system with link := some link } where
  wellFormed := wellFormed
  clean := clean
  alive := alive
  disconnected := nofun
  waits := by
    rintro _ ⟨⟩
    have upholds : Upholds system { system with link := some link } :=
      ⟨rfl, fun _ _ => id⟩
    exact waits.uphold upholds

theorem Coherent.relink (coherent : Coherent system) {link : ControlLink}
    (waits : Waits system system.awaited link) :
    Coherent { system with link := some link } :=
  coherent_relink coherent.wellFormed coherent.clean coherent.alive waits

theorem spares_self (coherent : Coherent system) :
    Spares system.sessions system.sessions system.held :=
  ⟨coherent.wellFormed, coherent.clean, fun _ _ => Or.inr rfl⟩

/-- Nothing is forgotten while the sessions stay as they are. -/
theorem Coherent.remember_self (coherent : Coherent system) :
    system.remember system.sessions = system := by
  have kept : system.held.filter (fun sessionId =>
      (contextOf system.sessions sessionId).isSome) = system.held := by
    rcases isHeld : system.held with _ | sessionId
    · rfl
    · simp [Option.isSome_iff_ne_none, coherent.alive sessionId isHeld]
  rw [ControlSystem.remember, kept]

section Client

theorem Coherent.lost (coherent : Coherent system) : Coherent system.lost where
  wellFormed := coherent.wellFormed
  clean := coherent.clean
  alive := nofun
  disconnected _ := ⟨rfl, rfl⟩
  waits := nofun

theorem Coherent.connect (coherent : Coherent system) (clientFd : Option Int) :
    Coherent { system.lost with link := clientFd.map ControlLink.fresh } where
  wellFormed := coherent.wellFormed
  clean := coherent.clean
  alive := nofun
  disconnected _ := ⟨rfl, rfl⟩
  waits link isLink := by
    obtain ⟨clientFd, -, rfl⟩ := Option.map_eq_some_iff.mp isLink
    exact Or.inl ⟨nofun, .nothing (Or.inl rfl)⟩

/-- Without a request on its way there is neither a response. -/
theorem Coherent.idle (coherent : Coherent system) (idle : system.awaited = none)
    {link : ControlLink} (isLink : system.link = some link) :
    Rests link.serving ∧ link.requests = [] ∧ link.responses = [] ∧
      system.Agrees system.runtime := by
  have waits := coherent.waits link isLink
  rw [idle] at waits
  rcases waits with ⟨rests, pends⟩ | ⟨_, _, _, _, isAwaited, -⟩
  · generalize requests : link.requests = waiting at pends
    generalize responses : link.responses = arriving at pends
    cases pends with
    | nothing agrees => exact ⟨rests, rfl, rfl, agrees⟩
  · cases isAwaited

theorem Coherent.request (coherent : Coherent system)
    (idle : system.awaited = none) {link : ControlLink}
    (isLink : system.link = some link) {awaited : Awaited} {packet : Packet}
    (asks : awaited.Asks system.runtime packet) :
    Coherent (system.request link awaited packet) := by
  obtain ⟨rests, noRequest, noResponse, agrees⟩ := coherent.idle idle isLink
  refine ⟨coherent.wellFormed, coherent.clean, coherent.alive, nofun, ?_⟩
  rintro _ ⟨⟩
  refine Or.inl ⟨rests, ?_⟩
  dsimp only
  rw [noRequest, noResponse]
  exact .sent asks agrees

theorem Coherent.input (coherent : Coherent system)
    (idle : system.awaited = none) {link : ControlLink}
    (isLink : system.link = some link) (line : CText) (alive sent : Bool) :
    Coherent (system.input link line alive sent) := by
  unfold ControlSystem.input
  split
  · exact coherent
  · exact coherent
  · exact coherent.lost
  · split_ifs
    · exact coherent
    · exact coherent.lost
  · split_ifs
    · exact coherent
    · exact coherent.lost
  · split_ifs
    · exact coherent
    · exact coherent.lost
  rename_i type argument parsed
  split
  · exact coherent.lost
  split
  · exact coherent
  rename_i packet requested
  obtain ⟨isType, isSession, hasSession⟩ :=
    ClientRuntime.shortRequest_eq_some requested
  split
  · exact coherent.lost
  · exact coherent.request idle isLink ⟨isType, commandLine_ne_login parsed, rfl,
      isSession, isSession ▸ hasSession⟩

theorem Coherent.login (coherent : Coherent system)
    (idle : system.awaited = none) {link : ControlLink}
    (isLink : system.link = some link) (username password : CText) (sent : Bool) :
    Coherent (system.login link username password sent) := by
  unfold ControlSystem.login
  split_ifs
  · exact coherent.lost
  obtain ⟨rests, noRequest, noResponse, -⟩ := coherent.idle idle isLink
  have cleared : Coherent
      { system with runtime := system.runtime.clearSession, held := none } := by
    refine ⟨coherent.wellFormed, coherent.clean, nofun,
      fun noLink => ⟨idle, rfl⟩, fun other isOther => ?_⟩
    cases isLink.symm.trans isOther
    refine Or.inl ⟨rests, ?_⟩
    rw [noRequest, noResponse, idle]
    exact .nothing (Or.inl rfl)
  exact cleared.request idle isLink ⟨rfl, rfl⟩

theorem Coherent.register (coherent : Coherent system)
    (idle : system.awaited = none) {link : ControlLink}
    (isLink : system.link = some link) (username password : CText) (sent : Bool) :
    Coherent (system.register link username password sent) := by
  unfold ControlSystem.register
  split_ifs
  · exact coherent.lost
  · exact coherent.request idle isLink rfl

theorem Coherent.respond (coherent : Coherent system) {awaited : Awaited}
    (isAwaited : system.awaited = some awaited) {link : ControlLink}
    (isLink : system.link = some link) {response : Packet} {responses : List Packet}
    (arrived : link.responses = response :: responses) :
    Coherent (system.respond link awaited response responses) := by
  have waits := coherent.waits link isLink
  rw [isAwaited] at waits
  unfold ControlSystem.respond
  rcases waits with ⟨rests, pends⟩ | ⟨_, _, _, _, -, -, noResponse, -⟩
  · generalize link.requests = requests at pends ⊢
    rw [arrived] at pends
    cases pends with
    | replied agrees =>
        split
        · exact coherent.lost
        · rename_i runtime processed
          refine ⟨coherent.wellFormed, coherent.clean, coherent.alive, nofun, ?_⟩
          rintro _ ⟨⟩
          exact Or.inl ⟨rests, .nothing (agrees runtime processed)⟩
  · rw [arrived] at noResponse
    cases noResponse

end Client

section Server

/-- The response of a handler that has not touched the session. -/
theorem agrees_process {awaited : Awaited} {packet response : Packet}
    (asks : awaited.Asks system.runtime packet)
    (agrees : system.Agrees system.runtime)
    (refuses : packet.type = CmdType.cd.code ∨
      packet.type = CmdType.loginReq.code → response.type = CmdType.error.code) :
    ∀ runtime ∈ awaited.process system.runtime response, system.Agrees runtime := by
  intro runtime processed
  cases awaited with
  | command type sessionId =>
      rcases ClientRuntime.shortResponse_eq_some processed with
        rfl | ⟨rfl, acknowledged⟩
      · exact agrees
      · exact absurd (refuses (Or.inl asks.1)) acknowledged
  | login username =>
      have isError := refuses (Or.inr asks.1)
      cases processed
      rw [ClientRuntime.loginResponse, isError,
        if_neg fun accepted => absurd accepted.1 (by decide)]
      exact agrees
  | register =>
      cases processed
      exact agrees

/-- The response that names the directory of the session. -/
theorem agrees_process_updated {awaited : Awaited} {packet : Packet} {cwd : Bytes}
    (asks : awaited.Asks system.runtime packet)
    (tells : system.Tells packet (.updated cwd)) :
    ∀ runtime ∈ awaited.process system.runtime
      (Packet.init .ack .ok packet.sessionId cwd), system.Agrees runtime := by
  obtain ⟨isCd, noNul, short, remembers⟩ := tells
  intro runtime processed
  cases awaited with
  | command type sessionId =>
      obtain ⟨isType, -, rfl, isSession, hasSession⟩ := asks
      obtain rfl : type = .cd := CmdType.code_injective (isType.symm.trans isCd)
      rw [isSession] at remembers hasSession
      rcases remembers with gone | ⟨isHeld, context, stored, isCwd, canonical⟩
      · exact Or.inr (Or.inl gone)
      · have processes : system.runtime.shortResponse .cd packet.sessionId
            (Packet.init .ack .ok packet.sessionId cwd) =
              some { system.runtime with remoteCwd := ⟨cwd, noNul⟩ } :=
          ClientRuntime.shortResponse_cd noNul canonical.ne_nil short hasSession
        cases processes.symm.trans processed
        exact Or.inr (Or.inr ⟨isHeld, context, stored, isCwd, canonical⟩)
  | login username => exact absurd (isCd.symm.trans asks.1) (by decide)
  | register => exact absurd (isCd.symm.trans asks) (by decide)

/-- The response that names the new session. -/
theorem agrees_process_created {awaited : Awaited} {packet : Packet}
    {sessionId : SessionId} (asks : awaited.Asks system.runtime packet)
    (tells : system.Tells packet (.created sessionId)) :
    ∀ runtime ∈ awaited.process system.runtime (Packet.init .ack .ok sessionId []),
      system.Agrees runtime := by
  obtain ⟨isLogin, remembers⟩ := tells
  intro runtime processed
  cases awaited with
  | command type sessionId =>
      exact absurd (CmdType.code_injective (asks.1.symm.trans isLogin)) asks.2.1
  | login username =>
      cases processed
      rw [ClientRuntime.loginResponse]
      split_ifs
      · rw [ClientRuntime.publishSession]
        split_ifs
        · exact Or.inl asks.2
        · exact Or.inr remembers
      · exact Or.inl asks.2
  | register => exact absurd (isLogin.symm.trans asks) (by decide)

/-- A call that neither the client notices nor changes its session. -/
theorem Coherent.perform_silent (coherent : Coherent system) (link : ControlLink)
    (choice : ControlChoice) {op : TaskOp} (silent : op.isNoticed = false) :
    ∃ sessions, Spares system.sessions sessions system.held ∧
      (system.perform link choice op).2 = system.remember sessions ∧
      ∀ phase : AnswerPhase,
        phase.learn op (system.perform link choice op).1 = phase := by
  have unchanged : ∃ sessions, Spares system.sessions sessions system.held ∧
      system = system.remember sessions :=
    ⟨_, spares_self coherent, coherent.remember_self.symm⟩
  obtain ⟨sessions, spares, same⟩ := unchanged
  cases op with
  | send | sessionCreate | sessionUpdateCwd => cases silent
  | sessionAuthorize sessionId =>
      refine ⟨_, spares_perform coherent.wellFormed coherent.clean coherent.alive
        (.authorize link.clientFd sessionId choice.now choice.allocated) nofun, rfl,
        fun phase => ?_⟩
      refine phase.learn_sessionAuthorize sessionId fun context answered => ?_
      obtain ⟨found, fits, isFound, rfl⟩ := Option.pmap_eq_some_iff.mp answered
      rcases coherent.wellFormed.sessionAuthorize_cases link.clientFd sessionId
        choice.now choice.allocated with ⟨failed, -⟩ | ⟨_, authorized, -, -, stored, -⟩
      · rw [failed] at isFound
        cases isFound
      · cases authorized.symm.trans isFound
        exact coherent.clean sessionId _ stored
  | _ => exact ⟨sessions, spares, same, fun phase => by cases phase <;> rfl⟩

theorem resume_eq {link : ControlLink} (isLink : system.link = some link)
    (program : Handler Bool) :
    system.resume program =
      { system with link := some { link with serving := some program } } := by
  rw [resume, isLink, Option.map_some]

theorem Coherent.call_silent (coherent : Coherent system) {link : ControlLink}
    (isLink : system.link = some link) {op : TaskOp}
    {next : op.Answer → Handler Bool}
    (serving : link.serving = some (.call op next)) (choice : ControlChoice)
    (silent : op.isNoticed = false) :
    Coherent ((system.perform link choice op).2.resume
      (next (system.perform link choice op).1)) := by
  obtain ⟨sessions, spares, isAfter, learns⟩ :=
    coherent.perform_silent link choice silent
  generalize (system.perform link choice op).1 = answer at learns
  have remembered := coherent.remember spares
  have sameLink : (system.remember sessions).link = some link := isLink
  have waits := remembered.waits link sameLink
  rw [isAfter, resume_eq sameLink]
  refine remembered.relink ?_
  rcases waits with ⟨rests, pends⟩ |
    ⟨waiting, packet, phase, program, isAwaited, noRequest, noResponse, isServing,
      works⟩
  · obtain ⟨packet, answers⟩ := rests _ serving
    have goesOn := answers.2 answer
    rw [learns] at goesOn
    refine Or.inl ⟨?_, pends⟩
    rintro _ ⟨⟩
    exact ⟨packet, goesOn⟩
  · cases serving.symm.trans isServing
    have goesOn := works.answers.2 answer
    rw [learns] at goesOn
    exact Or.inr ⟨waiting, packet, phase, _, isAwaited, noRequest, noResponse, rfl,
      works.asks, goesOn, works.tells⟩

/-- The request of a `cd` is about the session that the client knows. -/
theorem held_of_asks {awaited : Awaited} {packet : Packet}
    (asks : awaited.Asks system.runtime packet)
    (isCd : packet.type = CmdType.cd.code) (agrees : system.Agrees system.runtime) :
    system.held = none ∨ system.held = some packet.sessionId := by
  cases awaited with
  | command type sessionId =>
      obtain ⟨-, -, rfl, isSession, hasSession⟩ := asks
      rcases agrees with empty | gone | ⟨isHeld, -⟩
      · exact absurd (isSession.trans empty) hasSession
      · exact Or.inl gone
      · exact Or.inr (isHeld.trans (congrArg some isSession.symm))
  | login username => exact absurd (isCd.symm.trans asks.1) (by decide)
  | register => exact absurd (isCd.symm.trans asks) (by decide)

/-- A handler that has answered makes no such call. -/
theorem Coherent.works_of_noticed (coherent : Coherent system) {link : ControlLink}
    (isLink : system.link = some link) {op : TaskOp}
    {next : op.Answer → Handler Bool}
    (serving : link.serving = some (.call op next)) (noticed : op.isNoticed = true) :
    ∃ waiting packet phase, system.awaited = some waiting ∧
      link.requests = [] ∧ link.responses = [] ∧
      Works system waiting packet phase (.call op next) := by
  rcases coherent.waits link isLink with ⟨rests, -⟩ |
    ⟨waiting, packet, phase, program, isAwaited, noRequest, noResponse, isServing,
      works⟩
  · obtain ⟨packet, answers⟩ := rests _ serving
    have allowed := answers.1
    cases op <;> first
      | exact allowed.elim
      | cases noticed
  · cases serving.symm.trans isServing
    exact ⟨waiting, packet, phase, isAwaited, noRequest, noResponse, works⟩

theorem Coherent.call_send (coherent : Coherent system) {link : ControlLink}
    (isLink : system.link = some link) {response : Packet}
    {next : Bool → Handler Bool}
    (serving : link.serving = some (.call (.send response) next))
    (choice : ControlChoice) :
    Coherent ((system.perform link choice (.send response)).2.resume
      (next (system.perform link choice (.send response)).1)) := by
  obtain ⟨waiting, packet, phase, isAwaited, noRequest, noResponse, works⟩ :=
    coherent.works_of_noticed isLink serving rfl
  have rests (sent : Bool) : Rests (some (next sent)) := by
    rintro _ ⟨⟩
    have goesOn := works.answers.2 sent
    have tells := works.tells
    cases phase with
    | working | updated | created => exact ⟨packet, goesOn⟩
    | answered | excluded => exact tells.elim
  have agrees : ∀ runtime ∈ waiting.process system.runtime response,
      system.Agrees runtime := by
    obtain ⟨asks, ⟨allowed, -⟩, tells⟩ := works
    cases phase with
    | working => exact agrees_process asks tells allowed
    | updated cwd =>
        rw [show response = _ from allowed]
        exact agrees_process_updated asks tells
    | created sessionId =>
        rw [show response = _ from allowed]
        exact agrees_process_created asks tells
    | answered | excluded => exact tells.elim
  dsimp only [perform]
  split_ifs
  · refine coherent.relink (Or.inl ⟨rests true, ?_⟩)
    dsimp only
    rw [isAwaited, noRequest, noResponse]
    exact .replied agrees
  · rw [resume_eq isLink]
    refine coherent.relink (Or.inl ⟨rests false, ?_⟩)
    dsimp only
    rw [isAwaited, noRequest, noResponse]
    exact .silent

theorem Coherent.call_updateCwd (coherent : Coherent system) {link : ControlLink}
    (isLink : system.link = some link) {sessionId : SessionId} {cwdId : UInt64}
    {cwd : Bytes} {next : Bool → Handler Bool}
    (serving : link.serving =
      some (.call (.sessionUpdateCwd sessionId cwdId cwd) next))
    (choice : ControlChoice) :
    Coherent ((system.perform link choice
      (.sessionUpdateCwd sessionId cwdId cwd)).2.resume
        (next (system.perform link choice
          (.sessionUpdateCwd sessionId cwdId cwd)).1)) := by
  obtain ⟨waiting, packet, phase, isAwaited, noRequest, noResponse, works⟩ :=
    coherent.works_of_noticed isLink serving rfl
  obtain ⟨asks, ⟨allowed, goesOn⟩, tells⟩ := works
  cases phase with
  | answered | excluded => exact tells.elim
  | updated | created => exact allowed.elim
  | working =>
      obtain ⟨isCd, rfl, canonical, noNul⟩ := allowed
      dsimp only [perform]
      rcases coherent.wellFormed.sessionUpdateCwd_cases link.clientFd
        packet.sessionId cwdId cwd choice.now with
        failed | ⟨context, moved, stored, -, -, short, represents⟩
      · rw [failed, coherent.remember_self, resume_eq isLink]
        refine coherent.relink (Or.inr ⟨waiting, packet, .working, _, isAwaited,
          noRequest, noResponse, rfl, asks, goesOn false, tells⟩)
      · have spares : Spares system.sessions
            (sessionUpdateCwd system.sessions link.clientFd packet.sessionId cwdId cwd
              choice.now).2 none :=
          spares_perform coherent.wellFormed coherent.clean
            (fun _ isHeld => by cases isHeld)
            (.updateCwd link.clientFd packet.sessionId cwdId cwd choice.now)
            (by rintro _ _ _ _ _ ⟨⟩; exact ⟨noNul, nofun⟩)
        rw [moved]
        generalize (sessionUpdateCwd system.sessions link.clientFd packet.sessionId
          cwdId cwd choice.now).2 = sessions at represents spares
        have storedNow : contextOf sessions packet.sessionId =
            some { context with cwdId, cwd } := by
          rw [represents.contextOf_eq, Function.update_self]
        have sameLink : (system.remember sessions).link = some link := isLink
        rw [resume_eq sameLink]
        refine coherent_relink spares.wellFormed spares.clean (fun _ => alive_remember)
          (Or.inr ⟨waiting,
          packet, .updated cwd, _, isAwaited, noRequest, noResponse, rfl, asks,
          goesOn true, isCd, noNul, short, ?_⟩)
        rcases held_of_asks asks isCd tells with gone | isHeld
        · exact Or.inl (by simp [ControlSystem.remember, gone])
        · refine Or.inr ⟨?_, _, storedNow, rfl, canonical⟩
          simp [ControlSystem.remember, isHeld, storedNow]

theorem Coherent.call_create (coherent : Coherent system) {link : ControlLink}
    (isLink : system.link = some link) {userId : UInt64} {username : Bytes}
    {rootPathId : UInt64} {next : Option SessionId → Handler Bool}
    (serving : link.serving =
      some (.call (.sessionCreate userId username rootPathId) next))
    (choice : ControlChoice) :
    Coherent ((system.perform link choice
      (.sessionCreate userId username rootPathId)).2.resume
        (next (system.perform link choice
          (.sessionCreate userId username rootPathId)).1)) := by
  obtain ⟨waiting, packet, phase, isAwaited, noRequest, noResponse, works⟩ :=
    coherent.works_of_noticed isLink serving rfl
  obtain ⟨asks, ⟨allowed, goesOn⟩, tells⟩ := works
  cases phase with
  | answered | excluded => exact tells.elim
  | updated | created => exact allowed.elim
  | working =>
      dsimp only [perform]
      rcases coherent.wellFormed.sessionCreate_cases link.clientFd userId username
        rootPathId choice.allocated choice.draws with
        failed | ⟨sessionId, created, -, -, -, -, -, -, represents⟩
      · rw [failed]
        dsimp only
        rw [coherent.remember_self, resume_eq isLink]
        exact coherent.relink (Or.inr ⟨waiting, packet, .working, _, isAwaited,
          noRequest, noResponse, rfl, asks, goesOn none, tells⟩)
      · have spares : Spares system.sessions
            (sessionCreate system.sessions link.clientFd userId username rootPathId
              choice.allocated choice.draws).2 none :=
          spares_perform coherent.wellFormed coherent.clean
            (fun _ isHeld => by cases isHeld)
            (.create link.clientFd userId username rootPathId choice.allocated
              choice.draws) nofun
        rw [created]
        dsimp only
        generalize (sessionCreate system.sessions link.clientFd userId username
          rootPathId choice.allocated choice.draws).2 = sessions at represents spares
        have storedNow : contextOf sessions sessionId =
            some (initialContext userId username rootPathId) := by
          rw [represents.contextOf_eq, Function.update_self]
        let after : ControlSystem := { system with sessions, held := some sessionId }
        have sameLink : after.link = some link := isLink
        change Coherent (after.resume (next (some sessionId)))
        rw [resume_eq sameLink]
        refine coherent_relink spares.wellFormed spares.clean ?_ (Or.inr ⟨waiting,
          packet, .created sessionId, _, isAwaited, noRequest, noResponse, rfl, asks,
          goesOn (some sessionId), allowed, ?_⟩)
        · rintro _ ⟨⟩
          rw [storedNow]
          exact Option.some_ne_none _
        · exact Or.inr ⟨rfl, _, storedNow, rfl, [], nofun, rfl⟩

theorem Coherent.read (coherent : Coherent system) {link : ControlLink}
    (isLink : system.link = some link) {packet : Packet} {requests : List Packet}
    (isRequest : link.requests = packet :: requests) :
    Coherent { system with
      link := some { link with requests, serving := some (serveRequest packet) } } := by
  have waits := coherent.waits link isLink
  refine coherent.relink ?_
  generalize isAwaited : system.awaited = awaited at waits
  rcases waits with ⟨-, pends⟩ | ⟨_, _, _, _, -, noRequest, -⟩
  · rw [isRequest] at pends
    generalize link.responses = responses at pends ⊢
    cases pends with
    | sent asks agrees =>
        exact Or.inr ⟨_, packet, .working, _, rfl, rfl, rfl, rfl, asks,
          answers_serveRequest packet, agrees⟩
  · rw [isRequest] at noRequest
    cases noRequest

/-- A handler that ends without a response leaves the client waiting. -/
theorem Waits.stop {awaited : Option Awaited} {link : ControlLink}
    (waits : Waits system awaited link) (isOpen : Bool) :
    Waits system awaited { link with serving := none, isOpen } := by
  rcases waits with ⟨-, pends⟩ |
    ⟨waiting, _, _, _, rfl, noRequest, noResponse, -⟩
  · exact Or.inl ⟨nofun, pends⟩
  · refine Or.inl ⟨nofun, ?_⟩
    dsimp only
    rw [noRequest, noResponse]
    exact .silent

theorem Coherent.closed (coherent : Coherent system) {link : ControlLink}
    (isLink : system.link = some link) : Coherent (system.closed link) := by
  have remembered := coherent.remember (spares_perform coherent.wellFormed
    coherent.clean coherent.alive (.detach link.clientFd) nofun)
  exact remembered.relink ((remembered.waits link isLink).stop false)

theorem Coherent.call (coherent : Coherent system) {link : ControlLink}
    (isLink : system.link = some link) {op : TaskOp}
    {next : op.Answer → Handler Bool}
    (serving : link.serving = some (.call op next)) (choice : ControlChoice) :
    Coherent ((system.perform link choice op).2.resume
      (next (system.perform link choice op).1)) := by
  cases op with
  | send response => exact coherent.call_send isLink serving choice
  | sessionCreate userId username rootPathId =>
      exact coherent.call_create isLink serving choice
  | sessionUpdateCwd sessionId cwdId cwd =>
      exact coherent.call_updateCwd isLink serving choice
  | _ => exact coherent.call_silent isLink serving choice rfl

end Server

theorem coherent_initial (downloadDir : CText) : Coherent (initial downloadDir) where
  wellFormed := wellFormed_create
  clean _ _ stored := by cases stored
  alive := nofun
  disconnected _ := ⟨rfl, rfl⟩
  waits := nofun

theorem Coherent.step (coherent : Coherent system) {action : ControlAction}
    {next : ControlSystem} (stepped : system.step action = some next) :
    Coherent next := by
  cases action with
  | connect clientFd =>
      simp only [ControlSystem.step] at stepped
      split at stepped
      · cases stepped
      · cases stepped
        exact coherent.connect clientFd
  | input line alive sent =>
      simp only [ControlSystem.step] at stepped
      split at stepped
      · rename_i link idle isLink
        cases stepped
        exact coherent.input idle isLink line alive sent
      · cases stepped
  | login username password sent =>
      simp only [ControlSystem.step] at stepped
      split at stepped
      · rename_i link idle isLink
        cases stepped
        exact coherent.login idle isLink username password sent
      · cases stepped
  | register username password sent =>
      simp only [ControlSystem.step] at stepped
      split at stepped
      · rename_i link idle isLink
        cases stepped
        exact coherent.register idle isLink username password sent
      · cases stepped
  | receive arrives =>
      simp only [ControlSystem.step] at stepped
      split at stepped
      · rename_i awaited link isAwaited isLink
        split at stepped
        · cases stepped
          exact coherent.lost
        split at stepped
        · cases stepped
        · rename_i response responses arrived
          cases stepped
          exact coherent.respond isAwaited isLink arrived
      · cases stepped
  | read =>
      simp only [ControlSystem.step] at stepped
      split at stepped
      · cases stepped
      rename_i link isLink
      split at stepped
      · rename_i packet requests _ _ isRequest
        cases stepped
        exact coherent.read isLink isRequest
      · cases stepped
  | call choice =>
      simp only [ControlSystem.step] at stepped
      split at stepped
      · cases stepped
      rename_i link isLink
      split at stepped
      · rename_i op rest serving
        cases stepped
        exact coherent.call isLink serving choice
      · cases stepped
  | finish =>
      simp only [ControlSystem.step] at stepped
      split at stepped
      · cases stepped
      rename_i link isLink
      split at stepped
      · split at stepped
        · cases stepped
          exact coherent.relink ((coherent.waits link isLink).stop link.isOpen)
        · cases stepped
          exact coherent.closed isLink
      · cases stepped
  | close =>
      simp only [ControlSystem.step] at stepped
      split at stepped
      · cases stepped
      rename_i link isLink
      split at stepped
      · cases stepped
        exact coherent.closed isLink
      · cases stepped
  | others call =>
      simp only [ControlSystem.step] at stepped
      split at stepped
      · rename_i foreign
        cases stepped
        refine coherent.remember (spares_perform coherent.wellFormed coherent.clean
          coherent.alive call ?_)
        rintro clientFd sessionId cwdId cwd now rfl
        simp only [isForeign, Bool.and_eq_true, decide_eq_true_eq] at foreign
        exact ⟨foreign.2, foreign.1⟩
      · cases stepped

/-- After every completed command the client holds no session, or the server no
longer holds it, or both sides have the same normalised directory. -/
theorem cwd_agrees {downloadDir : CText} {actions : List ControlAction}
    {last : ControlSystem}
    (reached : runFrom step (initial downloadDir) actions = some last)
    (completed : last.awaited = none) :
    last.runtime.sessionId = .empty ∨ last.held = none ∨
      last.held = some last.runtime.sessionId ∧
        ∃ context, contextOf last.sessions last.runtime.sessionId = some context ∧
          context.cwd = last.runtime.remoteCwd.1 ∧
          IsCanonical last.runtime.remoteCwd.1 := by
  have coherent : Coherent last :=
    runFrom_invariant (fun _ _ _ coherent stepped => coherent.step stepped)
      (coherent_initial downloadDir) reached
  rcases isLink : last.link with _ | link
  · exact Or.inl (coherent.disconnected isLink).2
  · exact (coherent.idle completed isLink).2.2.2

/-- An account, and a directory under every path. -/
def someChoice : ControlChoice where
  answer
    | .daoAuthGetLoginInfo _ => (0, ⟨1, ascii "h", 2⟩)
    | .cryptR .. => some (ascii "h")
    | .daoPathGetNodeId .. => (.isDir, 3)
    | op => Connection.lastReference true op
  now := some ⟨0, 0⟩
  allocated := true
  draws := [⟨some ⟨Vector.replicate 16 1⟩, some ⟨0, 0⟩⟩]

/-- A login and a `cd`, each served with five calls. -/
def someCommands : List ControlAction :=
  let served := .read :: List.replicate 5 (.call someChoice) ++
    [.finish, .receive true]
  .connect (some 5) ::
    .login someRuntime.username ⟨ascii "p", by decide⟩ true :: served ++
    .input ⟨ascii "cd d", by decide⟩ true true :: served

theorem cwd_agrees_after_cd :
    ∃ last, runFrom step (initial ⟨ascii "downloads", by decide⟩) someCommands =
        some last ∧
      last.runtime.remoteCwd.1 = ascii "/d" ∧
      ∃ context, contextOf last.sessions last.runtime.sessionId = some context ∧
        context.cwd = ascii "/d" := by
  have run : (runFrom step (initial ⟨ascii "downloads", by decide⟩)
      someCommands).any (fun last =>
        last.awaited.isNone && !last.runtime.sessionId.isEmpty &&
          last.held.isSome && last.runtime.remoteCwd.1 = ascii "/d") = true := by
    decide +kernel
  obtain ⟨last, reached, ends⟩ := (Option.any_eq_true _ _).mp run
  simp only [Bool.and_eq_true, Option.isNone_iff_eq_none, Bool.not_eq_true',
    decide_eq_true_eq] at ends
  obtain ⟨⟨⟨completed, hasSession⟩, isHeld⟩, isCwd⟩ := ends
  rcases cwd_agrees reached completed with empty | gone |
    ⟨-, context, stored, same, -⟩
  · simp [empty, SessionId.isEmpty] at hasSession
  · simp [gone] at isHeld
  · exact ⟨last, reached, isCwd, context, stored, same.trans isCwd⟩

end ControlSystem

end CloudDrive
