import CloudDrive.SessionCalls
import Mathlib.Data.List.Induction

/-!
# Histories of the session table

A run of calls on one table leaves a history of arguments and results.  The
history alone tells which descriptor is bound to which session and what the
context of a session is; the theorem at the end says that
`session_authorize` answers accordingly.
-/

namespace CloudDrive

open SessionTable

/-- The calls of `session.c` with the answers of the system to them. -/
inductive SessionCall where
  | create (clientFd : Int) (userId : UInt64) (username : Bytes)
      (rootPathId : UInt64) (allocated : Bool) (draws : List Draw)
  | authorize (clientFd : Int) (sessionId : SessionId)
      (now : Option Timespec) (allocated : Bool)
  | updateCwd (clientFd : Int) (sessionId : SessionId) (cwdId : UInt64)
      (cwd : Bytes) (now : Option Timespec)
  | detach (clientFd : Int)

/-- What the callers see of a call: its arguments and its result. -/
inductive SessionEvent where
  | created (clientFd : Int) (userId : UInt64) (username : Bytes)
      (rootPathId : UInt64) (result : Option SessionId)
  | authorized (clientFd : Int) (sessionId : SessionId)
      (result : Option SessionContext)
  | cwdUpdated (clientFd : Int) (sessionId : SessionId) (cwdId : UInt64)
      (cwd : Bytes) (result : Bool)
  | detached (clientFd : Int)

namespace SessionCall

def perform (table : SessionTable) : SessionCall → SessionEvent × SessionTable
  | create clientFd userId username rootPathId allocated draws =>
      let result := sessionCreate table clientFd userId username rootPathId
        allocated draws
      (.created clientFd userId username rootPathId result.1, result.2)
  | authorize clientFd sessionId now allocated =>
      let result := sessionAuthorize table clientFd sessionId now allocated
      (.authorized clientFd sessionId result.1, result.2)
  | updateCwd clientFd sessionId cwdId cwd now =>
      let result := sessionUpdateCwd table clientFd sessionId cwdId cwd now
      (.cwdUpdated clientFd sessionId cwdId cwd result.1, result.2)
  | detach clientFd => (.detached clientFd, sessionDetachFd table clientFd)

/-- The history and the table after a sequence of calls on a new table. -/
def run (calls : List SessionCall) : List SessionEvent × SessionTable :=
  calls.foldl
    (fun (history, table) call =>
      let (event, table) := call.perform table
      (history ++ [event], table))
    ([], SessionTable.create)

theorem run_append (calls : List SessionCall) (call : SessionCall) :
    run (calls ++ [call]) =
      ((run calls).1 ++ [(call.perform (run calls).2).1],
        (call.perform (run calls).2).2) := by
  simp [run, List.foldl_append]

end SessionCall

namespace SessionEvent

/-- A successful create or authorize binds its descriptor, a detach unbinds
it. -/
def rebind (bound : Int → Option SessionId) :
    SessionEvent → Int → Option SessionId
  | created clientFd _ _ _ (some sessionId) =>
      Function.update bound clientFd (some sessionId)
  | authorized clientFd sessionId (some _) =>
      Function.update bound clientFd (some sessionId)
  | detached clientFd => Function.update bound clientFd none
  | _ => bound

/-- A successful update of the working directory of a session replaces the
pair in its context. -/
def moves (sessionId : SessionId) (context : SessionContext) :
    SessionEvent → SessionContext
  | cwdUpdated _ moved cwdId cwd true =>
      if moved = sessionId then { context with cwdId, cwd } else context
  | _ => context

/-- A successful create issues its identifier with an initial context. -/
def Issues : SessionEvent → SessionId → SessionContext → Prop
  | created _ userId username rootPathId (some issued), sessionId, context =>
      issued = sessionId ∧
        context = initialContext userId username rootPathId
  | _, _, _ => False

/-- The session each descriptor is bound to according to a history. -/
def boundAfter (history : List SessionEvent) : Int → Option SessionId :=
  history.foldl rebind fun _ => none

/-- According to a history the identifier has been issued, has had a bound
descriptor at every moment since then, and has this context now. -/
def LiveSince (history : List SessionEvent) (sessionId : SessionId)
    (context : SessionContext) : Prop :=
  ∃ earlier event later initial,
    history = earlier ++ event :: later ∧ event.Issues sessionId initial ∧
    (∀ moment, moment <+: later → ∃ clientFd,
      boundAfter (earlier ++ event :: moment) clientFd = some sessionId) ∧
    context = later.foldl (moves sessionId) initial

theorem boundAfter_append (history : List SessionEvent) (event : SessionEvent) :
    boundAfter (history ++ [event]) = event.rebind (boundAfter history) := by
  simp [boundAfter, List.foldl_append]

theorem liveSince_append {history : List SessionEvent} {event : SessionEvent}
    {sessionId : SessionId} {context : SessionContext} :
    LiveSince (history ++ [event]) sessionId context ↔
      (∃ clientFd,
        boundAfter (history ++ [event]) clientFd = some sessionId) ∧
      (event.Issues sessionId context ∨
        ∃ previous, LiveSince history sessionId previous ∧
          context = event.moves sessionId previous) := by
  constructor
  · rintro ⟨earlier, issuing, later, initial, split, issues, bound, rfl⟩
    rcases List.eq_nil_or_concat later with rfl | ⟨later, last, rfl⟩
    · obtain ⟨rfl, rfl⟩ := List.append_inj' split rfl |>.imp_right
        List.head_eq_of_cons_eq
      exact ⟨by simpa using bound [] (List.prefix_refl _), Or.inl issues⟩
    · rw [List.concat_eq_append] at bound split ⊢
      rw [← List.cons_append, ← List.append_assoc] at split
      obtain ⟨rfl, rfl⟩ := List.append_inj' split rfl |>.imp_right
        List.head_eq_of_cons_eq
      refine ⟨by simpa using bound _ (List.prefix_refl _), Or.inr ⟨_, ⟨earlier,
        issuing, later, initial, rfl, issues, ?_, rfl⟩, ?_⟩⟩
      · exact fun moment before =>
          bound moment (before.trans (List.prefix_append _ _))
      · simp [List.foldl_append]
  · rintro ⟨boundNow, issues | ⟨previous, ⟨earlier, issuing, later, initial,
      rfl, issues, bound, rfl⟩, rfl⟩⟩
    · refine ⟨history, event, [], context, rfl, issues, ?_, rfl⟩
      intro moment before
      rw [List.prefix_nil.mp before]
      exact boundNow
    · refine ⟨earlier, issuing, later ++ [event], initial, by simp, issues, ?_,
        by simp [List.foldl_append]⟩
      intro moment before
      rcases List.prefix_concat_iff.mp before with rfl | before
      · simpa using boundNow
      · exact bound moment before

end SessionEvent

/-- What a call does to the registry, told by the event it leaves. -/
structure SessionEvent.Follows (before after : SessionTable)
    (event : SessionEvent) : Prop where
  wellFormed : WellFormed after
  boundId_eq : boundId after = event.rebind (boundId before)
  issued : ∀ sessionId context, event.Issues sessionId context →
    contextOf before sessionId = none ∧
      contextOf after sessionId = some context
  kept : ∀ sessionId, (∀ context, ¬event.Issues sessionId context) →
    (∃ clientFd, boundId after clientFd = some sessionId) →
      contextOf after sessionId =
        (contextOf before sessionId).map fun context =>
          event.moves sessionId context

namespace SessionCall

/-- An event that changes nothing fits a call that changed nothing. -/
theorem follows_self {table : SessionTable} (wellFormed : WellFormed table)
    {event : SessionEvent} (rebind_eq : ∀ bound, event.rebind bound = bound)
    (not_issues : ∀ sessionId context, ¬event.Issues sessionId context)
    (moves_eq : ∀ sessionId context, event.moves sessionId context = context) :
    event.Follows table table where
  wellFormed := wellFormed
  boundId_eq := (rebind_eq _).symm
  issued := fun sessionId context issues =>
    (not_issues sessionId context issues).elim
  kept := fun sessionId _ _ => by
    cases contextOf table sessionId <;> simp [moves_eq]

theorem perform_follows {table : SessionTable} (wellFormed : WellFormed table)
    (call : SessionCall) :
    (call.perform table).1.Follows table (call.perform table).2 := by
  cases call with
  | create clientFd userId username rootPathId allocated draws =>
      rcases wellFormed.sessionCreate_cases clientFd userId username rootPathId
        allocated draws with failed |
        ⟨sessionId, created, -, -, -, -, -, unused, represents⟩
      · simp only [perform, failed]
        exact follows_self wellFormed (fun _ => rfl) (fun _ _ => id)
          (fun _ _ => rfl)
      · simp only [perform, created]
        refine ⟨represents.wellFormed, represents.boundId_eq, ?_, ?_⟩
        · rintro issued context ⟨rfl, rfl⟩
          exact ⟨unused, by simp [represents.contextOf_eq]⟩
        · intro other notIssued _
          have distinct : other ≠ sessionId := fun same =>
            notIssued _ ⟨same.symm, rfl⟩
          rw [represents.contextOf_eq, Function.update_of_ne distinct]
          simp [SessionEvent.moves]
  | authorize clientFd sessionId now allocated =>
      rcases wellFormed.sessionAuthorize_cases clientFd sessionId now
        allocated with ⟨failed, -⟩ |
        ⟨context, authorized, -, -, -, -, represents⟩
      · simp only [perform, failed]
        exact follows_self wellFormed (fun _ => rfl) (fun _ _ => id)
          (fun _ _ => rfl)
      · simp only [perform, authorized]
        refine ⟨represents.wellFormed, represents.boundId_eq,
          fun _ _ => False.elim, ?_⟩
        intro other _ _
        simp [represents.contextOf_eq, SessionEvent.moves]
  | updateCwd clientFd sessionId cwdId cwd now =>
      rcases wellFormed.sessionUpdateCwd_cases clientFd sessionId cwdId cwd
        now with failed | ⟨context, updated, live, -, -, -, represents⟩
      · simp only [perform, failed]
        exact follows_self wellFormed (fun _ => rfl) (fun _ _ => id)
          (fun _ _ => rfl)
      · simp only [perform, updated]
        refine ⟨represents.wellFormed, represents.boundId_eq,
          fun _ _ => False.elim, ?_⟩
        intro other _ _
        rw [represents.contextOf_eq]
        rcases eq_or_ne other sessionId with rfl | distinct
        · simp [SessionEvent.moves, live]
        · simp [SessionEvent.moves, Function.update_of_ne distinct,
            distinct.symm]
  | detach clientFd =>
      obtain ⟨context, represents, contexts⟩ :=
        wellFormed.sessionDetachFd_represents clientFd
      refine ⟨represents.wellFormed, represents.boundId_eq,
        fun _ _ => False.elim, ?_⟩
      intro other _ bound
      change ∃ clientFd, boundId (sessionDetachFd table _) clientFd = _ at bound
      rw [represents.boundId_eq] at bound
      change contextOf (sessionDetachFd table _) other = _
      rw [represents.contextOf_eq, contexts other bound]
      simp [perform, SessionEvent.moves]

/-- The table is well formed and stands for what the history tells. -/
structure Tracks (history : List SessionEvent) (table : SessionTable) :
    Prop where
  wellFormed : WellFormed table
  boundId_eq : boundId table = SessionEvent.boundAfter history
  contextOf_iff : ∀ sessionId context,
    contextOf table sessionId = some context ↔
      SessionEvent.LiveSince history sessionId context

theorem Tracks.append {history : List SessionEvent} {before after : SessionTable}
    {event : SessionEvent} (tracks : Tracks history before)
    (follows : event.Follows before after) :
    Tracks (history ++ [event]) after := by
  have bound : boundId after =
      SessionEvent.boundAfter (history ++ [event]) := by
    rw [SessionEvent.boundAfter_append, follows.boundId_eq, tracks.boundId_eq]
  refine ⟨follows.wellFormed, bound, ?_⟩
  intro sessionId context
  rw [SessionEvent.liveSince_append, ← bound]
  simp only [← tracks.contextOf_iff]
  constructor
  · intro live
    have stillBound := follows.wellFormed.live_iff_bound.mp ⟨context, live⟩
    refine ⟨stillBound, ?_⟩
    by_cases issued : ∃ initial, event.Issues sessionId initial
    · obtain ⟨initial, issues⟩ := issued
      have fresh := (follows.issued sessionId initial issues).2
      obtain rfl := Option.some.inj (live.symm.trans fresh)
      exact Or.inl issues
    · rw [follows.kept sessionId (not_exists.mp issued) stillBound] at live
      obtain ⟨previous, wasLive, rfl⟩ := Option.map_eq_some_iff.mp live
      exact Or.inr ⟨previous, wasLive, rfl⟩
  · rintro ⟨stillBound, issues | ⟨previous, wasLive, rfl⟩⟩
    · exact (follows.issued sessionId context issues).2
    · have notIssued : ∀ initial, ¬event.Issues sessionId initial := by
        intro initial issues
        have := (follows.issued sessionId initial issues).1
        simp [wasLive] at this
      simp [follows.kept sessionId notIssued stillBound, wasLive]

theorem run_tracks (calls : List SessionCall) :
    Tracks (run calls).1 (run calls).2 := by
  induction calls using List.reverseRecOn with
  | nil =>
      refine ⟨wellFormed_create, rfl, fun sessionId context => ?_⟩
      constructor
      · intro live
        simp [run, contextOf, findSession, SessionTable.create] at live
      · rintro ⟨earlier, event, later, initial, split, -⟩
        simp [run] at split
  | append_singleton calls call inductionHypothesis =>
      rw [run_append]
      exact inductionHypothesis.append
        (perform_follows inductionHypothesis.wellFormed call)

theorem history_extends (calls more : List SessionCall) :
    ∃ events, (run (calls ++ more)).1 = (run calls).1 ++ events := by
  induction more using List.reverseRecOn with
  | nil => exact ⟨[], by simp⟩
  | append_singleton more call inductionHypothesis =>
      obtain ⟨events, extended⟩ := inductionHypothesis
      rw [← List.append_assoc, run_append, extended, List.append_assoc]
      exact ⟨_, rfl⟩

theorem sessionAuthorize_run_iff (calls : List SessionCall) (clientFd : Int)
    (sessionId : SessionId) (now : Timespec) (context : SessionContext) :
    (sessionAuthorize (run calls).2 clientFd sessionId (some now) true).1 =
        some context ↔
      0 ≤ clientFd ∧ sessionId ≠ SessionId.empty ∧
        SessionEvent.LiveSince (run calls).1 sessionId context ∧
        (SessionEvent.boundAfter (run calls).1 clientFd = none ∨
          SessionEvent.boundAfter (run calls).1 clientFd = some sessionId) := by
  have tracks := run_tracks calls
  rw [← tracks.contextOf_iff, ← tracks.boundId_eq]
  rcases tracks.wellFormed.sessionAuthorize_cases clientFd sessionId (some now)
    true with ⟨failed, reason⟩ |
    ⟨returned, authorized, nonnegative, nonempty, live, bound, -⟩
  · simp only [failed, reduceCtorEq, false_iff]
    rintro ⟨nonnegative, nonempty, live, bound⟩
    simp only [reduceCtorEq, false_or] at reason
    rcases reason with negative | empty | dead | ⟨isBound, elsewhere⟩
    · omega
    · exact nonempty empty
    · simp [live] at dead
    · exact bound.elim isBound elsewhere
  · rw [authorized, live]
    exact ⟨fun same => ⟨nonnegative, nonempty, same, bound⟩, fun h => h.2.2.1⟩

theorem boundAfter_of_ne_detach (calls : List SessionCall) {call : SessionCall}
    {clientFd : Int} {sessionId : SessionId}
    (bound : SessionEvent.boundAfter (run calls).1 clientFd = some sessionId)
    (notDetached : call ≠ detach clientFd) :
    SessionEvent.boundAfter (run (calls ++ [call])).1 clientFd =
      some sessionId := by
  have tracks := run_tracks calls
  rw [run_append, SessionEvent.boundAfter_append]
  rw [← tracks.boundId_eq] at bound ⊢
  cases call with
  | create other userId username rootPathId allocated draws =>
      rcases tracks.wellFormed.sessionCreate_cases other userId username
        rootPathId allocated draws with failed |
        ⟨issued, created, -, -, -, -, unbound, -, -⟩
      · simpa only [perform, failed, SessionEvent.rebind] using bound
      · have distinct : clientFd ≠ other := by
          rintro rfl
          simp [bound] at unbound
        simpa [perform, created, SessionEvent.rebind, distinct] using bound
  | authorize other claimed now allocated =>
      rcases tracks.wellFormed.sessionAuthorize_cases other claimed now
        allocated with ⟨failed, -⟩ |
        ⟨context, authorized, -, -, -, free, -⟩
      · simpa only [perform, failed, SessionEvent.rebind] using bound
      · rcases eq_or_ne clientFd other with rfl | distinct
        · simpa [perform, authorized, SessionEvent.rebind, bound, eq_comm]
            using free
        · simpa [perform, authorized, SessionEvent.rebind, distinct] using bound
  | updateCwd other claimed cwdId cwd now =>
      simpa [perform, SessionEvent.rebind] using bound
  | detach other =>
      have distinct : clientFd ≠ other := fun same => notDetached (by rw [same])
      simpa [perform, SessionEvent.rebind, distinct] using bound

/-- An identifier without a bound descriptor is not live until it is issued
again. -/
theorem not_liveSince_of_unbound {history events : List SessionEvent}
    {sessionId : SessionId}
    (unbound : ∀ clientFd,
      SessionEvent.boundAfter history clientFd ≠ some sessionId)
    (notIssued : ∀ event ∈ events, ∀ context,
      ¬event.Issues sessionId context)
    (context : SessionContext) :
    ¬SessionEvent.LiveSince (history ++ events) sessionId context := by
  rintro ⟨earlier, event, later, initial, split, issues, bound, -⟩
  rcases List.append_eq_append_iff.mp split with
    ⟨between, -, rest⟩ | ⟨between, whole, rest⟩
  · exact notIssued event (by simp [rest]) initial issues
  · cases between with
    | nil =>
        rw [List.nil_append] at rest
        exact notIssued event (by simp [← rest]) initial issues
    | cons first moment =>
        obtain ⟨rfl, rfl⟩ := List.cons.inj rest
        obtain ⟨clientFd, stillBound⟩ :=
          bound moment (List.prefix_append _ _)
        exact unbound clientFd (whole ▸ stillBound)

/-- `session_authorize` succeeds on a non-negative descriptor exactly for a
live identifier the descriptor may use, and returns the context of that
session.  A bound descriptor keeps its session until it is detached, and an
identifier that has lost its last descriptor is refused until it is issued
again. -/
theorem authorize_exactly_live (calls more : List SessionCall)
    (call : SessionCall) (clientFd : Int) (sessionId : SessionId)
    (now : Timespec) :
    (∀ context,
      (sessionAuthorize (run calls).2 clientFd sessionId (some now) true).1 =
          some context ↔
        0 ≤ clientFd ∧ sessionId ≠ SessionId.empty ∧
          SessionEvent.LiveSince (run calls).1 sessionId context ∧
          (SessionEvent.boundAfter (run calls).1 clientFd = none ∨
            SessionEvent.boundAfter (run calls).1 clientFd =
              some sessionId)) ∧
    (SessionEvent.boundAfter (run calls).1 clientFd = some sessionId →
      call ≠ detach clientFd →
        SessionEvent.boundAfter (run (calls ++ [call])).1 clientFd =
          some sessionId) ∧
    ((∀ other, SessionEvent.boundAfter (run calls).1 other ≠ some sessionId) →
      (∀ event ∈ (run (calls ++ more)).1.drop (run calls).1.length,
        ∀ context, ¬event.Issues sessionId context) →
      (sessionAuthorize (run (calls ++ more)).2 clientFd sessionId (some now)
        true).1 = none) := by
  refine ⟨sessionAuthorize_run_iff calls clientFd sessionId now,
    boundAfter_of_ne_detach calls, ?_⟩
  intro unbound notIssued
  obtain ⟨events, extended⟩ := history_extends calls more
  rw [extended, List.drop_left] at notIssued
  cases answer : (sessionAuthorize (run (calls ++ more)).2 clientFd sessionId
    (some now) true).1 with
  | none => rfl
  | some context =>
      have live := ((sessionAuthorize_run_iff (calls ++ more) clientFd sessionId
        now context).mp answer).2.2.1
      rw [extended] at live
      exact (not_liveSince_of_unbound unbound notIssued context live).elim

/-- The identifier whose sixteen bytes are all one. -/
def onesId : SessionId := ⟨Vector.replicate 16 1⟩

/-- A login of user 7 on descriptor 3. -/
def loginOnThree : List SessionCall :=
  [create 3 7 (ascii "bob") 21 true [⟨some onesId, some ⟨5, 0⟩⟩]]

theorem loginOnThree_live :
    SessionEvent.LiveSince (run loginOnThree).1 onesId
      (initialContext 7 (ascii "bob") 21) :=
  ⟨[], _, [], _, rfl, ⟨rfl, rfl⟩, fun moment before => by
    rw [List.prefix_nil.mp before]
    exact ⟨3, rfl⟩, rfl⟩

theorem authorize_exactly_live_after_login :
    (sessionAuthorize (run loginOnThree).2 4 onesId (some ⟨6, 0⟩) true).1 =
        some (initialContext 7 (ascii "bob") 21) ∧
      SessionEvent.boundAfter
        (run (loginOnThree ++ [authorize 4 onesId none true])).1 3 =
          some onesId ∧
      (sessionAuthorize
        (run ((loginOnThree ++ [detach 3]) ++ [detach 4])).2 4 onesId
          (some ⟨6, 0⟩) true).1 = none :=
  ⟨((authorize_exactly_live loginOnThree [] (detach 3) 4 onesId
      ⟨6, 0⟩).1 _).mpr
      ⟨by decide, by decide, loginOnThree_live, Or.inl rfl⟩,
    (authorize_exactly_live loginOnThree [] (authorize 4 onesId none true) 3
      onesId ⟨6, 0⟩).2.1 rfl (by simp),
    (authorize_exactly_live (loginOnThree ++ [detach 3]) [detach 4]
      (detach 3) 4 onesId ⟨6, 0⟩).2.2
      (fun other => by
        change Function.update (Function.update (fun _ => none) 3
          (some onesId)) 3 none other ≠ _
        simp [Function.update_apply])
      (fun event member context => by
        change event ∈ [SessionEvent.detached 4] at member
        rw [List.mem_singleton.mp member]
        exact id)⟩

/-- A negative descriptor is refused although the identifier is live and the
descriptor is not bound. -/
theorem authorize_refuses_negative_fd :
    (sessionAuthorize (run loginOnThree).2 (-1) onesId (some ⟨6, 0⟩)
        true).1 = none ∧
      onesId ≠ SessionId.empty ∧
      SessionEvent.LiveSince (run loginOnThree).1 onesId
        (initialContext 7 (ascii "bob") 21) ∧
      SessionEvent.boundAfter (run loginOnThree).1 (-1) = none :=
  ⟨rfl, by decide, loginOnThree_live, rfl⟩

end SessionCall

end CloudDrive
