import CloudDrive.SessionRegistry

/-!
# The calls of the session table

One lemma per function of `session.c` lists its outcomes: what it returns,
what it has checked, and the registry it leaves behind.  A failing call leaves
the table as it is.
-/

namespace CloudDrive.SessionTable

/-- The context of a session nobody has moved yet. -/
def initialContext (userId : UInt64) (username : Bytes) (rootPathId : UInt64) :
    SessionContext :=
  { userId, cwdId := rootPathId, username, cwd := ascii "/" }

theorem copyContext_newSession {sessionId : SessionId} {userId : UInt64}
    {username : Bytes} {rootPathId : UInt64} {now : Timespec}
    (short : username.length < usernameSize) :
    copyContext (newSession sessionId userId username rootPathId now) =
      initialContext userId username rootPathId := by
  have fits : username.take (usernameSize - 1) = username :=
    List.take_of_length_le (by omega)
  simp only [copyContext, newSession, initialContext, fits]
  rfl

theorem generateSessionId_eq_some {draw : Draw} {sessionId : SessionId}
    (generated : generateSessionId draw = some sessionId) :
    sessionId ≠ SessionId.empty := by
  unfold generateSessionId at generated
  split at generated
  · cases generated
  · split at generated
    · cases generated
    · rename_i nonempty
      cases generated
      simpa using nonempty

variable {table : SessionTable}

theorem createLoop_cases (table : SessionTable) (clientFd : Int)
    (userId : UInt64) (username : Bytes) (rootPathId : UInt64)
    (draws : List Draw) :
    createLoop table clientFd userId username rootPathId draws =
        (none, table) ∨
      ∃ sessionId now, sessionId ≠ SessionId.empty ∧
        findBinding table clientFd = none ∧
        findSession table sessionId = none ∧
        createLoop table clientFd userId username rootPathId draws =
          (some sessionId, insertSession table clientFd
            (newSession sessionId userId username rootPathId now)) := by
  induction draws with
  | nil => exact Or.inl rfl
  | cons draw draws inductionHypothesis =>
      unfold createLoop
      split
      · exact Or.inl rfl
      · rename_i sessionId generated
        split
        · exact Or.inl rfl
        · rename_i now _
          by_cases bound : (findBinding table clientFd).isSome
          · rw [if_pos bound]
            exact Or.inl rfl
          · rw [if_neg bound]
            by_cases used : (findSession table sessionId).isSome
            · rw [if_pos used]
              exact inductionHypothesis
            · rw [if_neg used]
              exact Or.inr ⟨sessionId, now,
                generateSessionId_eq_some generated, by simpa using bound,
                by simpa using used, rfl⟩

theorem WellFormed.sessionCreate_cases (wellFormed : WellFormed table)
    (clientFd : Int) (userId : UInt64) (username : Bytes) (rootPathId : UInt64)
    (allocated : Bool) (draws : List Draw) :
    let result := sessionCreate table clientFd userId username rootPathId
      allocated draws
    result = (none, table) ∨
      ∃ sessionId, result.1 = some sessionId ∧ 0 ≤ clientFd ∧
        username ≠ [] ∧ username.length < usernameSize ∧
        sessionId ≠ SessionId.empty ∧
        boundId table clientFd = none ∧ contextOf table sessionId = none ∧
        Represents result.2
          (Function.update (boundId table) clientFd (some sessionId))
          (Function.update (contextOf table) sessionId
            (some (initialContext userId username rootPathId))) := by
  simp only [sessionCreate]
  split
  · exact Or.inl rfl
  · rename_i accepted
    split
    · exact Or.inl rfl
    · rcases createLoop_cases table clientFd userId username rootPathId
        (draws.take sessionIdGenerationAttempts) with
        failed | ⟨sessionId, now, nonempty, unbound, unused, created⟩
      · exact Or.inl failed
      · have short : username.length < usernameSize := by omega
        have inserted := @WellFormed.insertSession table wellFormed clientFd
          (newSession sessionId userId username rootPathId now) (by omega)
          unbound unused nonempty rfl rfl
        rw [copyContext_newSession short] at inserted
        refine Or.inr ⟨sessionId, by rw [created], by omega, by tauto, short,
          nonempty, wellFormed.boundId_eq_none.mpr unbound,
          wellFormed.contextOf_eq_none.mpr unused, ?_⟩
        rw [created]
        exact inserted

theorem touchSession_eq {address : Nat} {session : Session}
    (stored : table.sessions address = some session) (now : Timespec) :
    touchSession table address now =
      setSession table address { session with lastActive := now } := by
  simp [touchSession, setSession, stored]

theorem Represents.touchSession {bound : Int → Option SessionId}
    {context : SessionId → Option SessionContext}
    (represents : Represents table bound context) {address : Nat}
    {session : Session} (stored : table.sessions address = some session)
    (now : Timespec) :
    Represents (touchSession table address now) bound context := by
  obtain ⟨wellFormed, rfl, rfl⟩ := represents
  have touched := @WellFormed.setSession table wellFormed address session
    { session with lastActive := now } stored rfl rfl rfl
  rw [touchSession_eq stored]
  refine ⟨touched.wellFormed, touched.boundId_eq, ?_⟩
  rw [touched.contextOf_eq, Function.update_eq_self_iff]
  exact (wellFormed.contextOf_eq_some.mpr
    ⟨address, session, stored, rfl, rfl⟩).symm

theorem bindFd_sessions (table : SessionTable) (clientFd : Int)
    (address : Nat) (session : Session) :
    (bindFd table clientFd address session).sessions address =
      some (connect session table.freshBinding) := by
  simp [bindFd]

/-- The binding a descriptor has points to the session of an identifier exactly
when the descriptor is bound to that identifier. -/
theorem WellFormed.points_elsewhere_iff (wellFormed : WellFormed table)
    {clientFd : Int} {bindingAddress address : Nat} {session : Session}
    (found : findBinding table clientFd = some bindingAddress)
    (stored : table.sessions address = some session) :
    ((table.bindings bindingAddress).any fun binding =>
        binding.session ≠ address) = true ↔
      boundId table clientFd ≠ some session.id := by
  obtain ⟨binding, bindingStored, bound⟩ :=
    wellFormed.findBinding_eq_some.mp found
  obtain ⟨target, targetStored, -⟩ := wellFormed.session_of_binding bindingStored
  have boundTo : boundId table clientFd = some target.id :=
    wellFormed.boundId_eq_some.mpr
      ⟨bindingAddress, binding, target, bindingStored, bound, targetStored, rfl⟩
  simp only [bindingStored, Option.any_some, boundTo, decide_eq_true_eq, ne_eq,
    Option.some.injEq]
  refine not_congr ⟨?_, ?_⟩
  · rintro rfl
    rw [Option.some.inj (targetStored.symm.trans stored)]
  · exact wellFormed.id_injective binding.session address target session
      targetStored stored

theorem WellFormed.sessionAuthorize_cases (wellFormed : WellFormed table)
    (clientFd : Int) (sessionId : SessionId) (now : Option Timespec)
    (allocated : Bool) :
    let result := sessionAuthorize table clientFd sessionId now allocated
    result = (none, table) ∧
        (now = none ∨ allocated = false ∨ clientFd < 0 ∨
          sessionId = SessionId.empty ∨ contextOf table sessionId = none ∨
          (boundId table clientFd ≠ none ∧
            boundId table clientFd ≠ some sessionId)) ∨
      ∃ context, result.1 = some context ∧ 0 ≤ clientFd ∧
        sessionId ≠ SessionId.empty ∧
        contextOf table sessionId = some context ∧
        (boundId table clientFd = none ∨
          boundId table clientFd = some sessionId) ∧
        Represents result.2
          (Function.update (boundId table) clientFd (some sessionId))
          (contextOf table) := by
  simp only [sessionAuthorize]
  split
  · rename_i rejected
    refine Or.inl ⟨rfl, ?_⟩
    rw [SessionId.isEmpty_iff] at rejected
    tauto
  · rename_i accepted
    rw [SessionId.isEmpty_iff] at accepted
    have nonnegative : 0 ≤ clientFd := by omega
    have nonempty : sessionId ≠ SessionId.empty := by tauto
    cases now with
    | none => exact Or.inl ⟨rfl, Or.inl rfl⟩
    | some now =>
        cases found : findSession table sessionId with
        | none =>
            have dead := wellFormed.contextOf_eq_none.mpr found
            exact Or.inl ⟨rfl, by simp [dead]⟩
        | some address =>
            obtain ⟨session, stored, rfl⟩ :=
              wellFormed.findSession_eq_some.mp found
            have live := wellFormed.contextOf_eq_some.mpr
              ⟨address, session, stored, rfl, rfl⟩
            cases foundBinding : findBinding table clientFd with
            | some bindingAddress =>
                simp only [stored]
                have bound : boundId table clientFd ≠ none := by
                  simp [Ne, wellFormed.boundId_eq_none, foundBinding]
                have elsewhere :=
                  wellFormed.points_elsewhere_iff foundBinding stored
                split
                · rename_i conflicting
                  exact Or.inl ⟨rfl, by simp [bound, elsewhere.mp conflicting]⟩
                · rename_i agreeing
                  have here : boundId table clientFd = some session.id := by
                    simpa using mt elsewhere.mpr agreeing
                  refine Or.inr ⟨copyContext session, rfl, nonnegative,
                    nonempty, live, Or.inr here, ?_⟩
                  rw [← here, Function.update_eq_self]
                  exact wellFormed.represents.touchSession stored now
            | none =>
                simp only [stored]
                have unbound := wellFormed.boundId_eq_none.mpr foundBinding
                cases allocated with
                | false => exact Or.inl ⟨rfl, Or.inr (Or.inl rfl)⟩
                | true =>
                    refine Or.inr ⟨copyContext session, rfl, nonnegative,
                      nonempty, live, Or.inl unbound, ?_⟩
                    exact (wellFormed.bindFd stored nonnegative
                      foundBinding).touchSession (bindFd_sessions ..) now

theorem WellFormed.sessionUpdateCwd_cases (wellFormed : WellFormed table)
    (clientFd : Int) (sessionId : SessionId) (cwdId : UInt64) (cwd : Bytes)
    (now : Option Timespec) :
    let result := sessionUpdateCwd table clientFd sessionId cwdId cwd now
    result = (false, table) ∨
      ∃ context, result.1 = true ∧ contextOf table sessionId = some context ∧
        boundId table clientFd = some sessionId ∧ cwd.head? = some 47 ∧
        cwd.length < pathMax ∧
        Represents result.2 (boundId table)
          (Function.update (contextOf table) sessionId
            (some { context with cwdId, cwd })) := by
  simp only [sessionUpdateCwd]
  split
  · exact Or.inl rfl
  · rename_i accepted
    cases now with
    | none => exact Or.inl rfl
    | some now =>
        cases found : findSession table sessionId with
        | none => exact Or.inl rfl
        | some address =>
            obtain ⟨session, stored, rfl⟩ :=
              wellFormed.findSession_eq_some.mp found
            cases foundBinding : findBinding table clientFd with
            | none => exact Or.inl rfl
            | some bindingAddress =>
                simp only [stored]
                have elsewhere :=
                  wellFormed.points_elsewhere_iff foundBinding stored
                split
                · exact Or.inl rfl
                · rename_i agreeing
                  have here : boundId table clientFd = some session.id := by
                    simpa using mt elsewhere.mpr agreeing
                  have live := wellFormed.contextOf_eq_some.mpr
                    ⟨address, session, stored, rfl, rfl⟩
                  have short : cwd.length < pathMax := by omega
                  have fits : cwd.take (pathMax - 1) = cwd :=
                    List.take_of_length_le (by omega)
                  refine Or.inr ⟨copyContext session, rfl, live, here,
                    by tauto, short, ?_⟩
                  have moved := @WellFormed.setSession table wellFormed address
                    session { session with
                      cwdId
                      cwd := cwd.take (pathMax - 1)
                      lastActive := now } stored rfl rfl rfl
                  simpa [copyContext, SessionTable.setSession, fits] using moved

theorem WellFormed.sessionDetachFd_represents (wellFormed : WellFormed table)
    (clientFd : Int) :
    ∃ context, Represents (sessionDetachFd table clientFd)
        (Function.update (boundId table) clientFd none) context ∧
      ∀ sessionId, (∃ other, Function.update (boundId table) clientFd none other =
          some sessionId) → context sessionId = contextOf table sessionId := by
  have unchanged : boundId table clientFd = none →
      ∃ context, Represents table
          (Function.update (boundId table) clientFd none) context ∧
        ∀ sessionId, (∃ other, Function.update (boundId table) clientFd none
            other = some sessionId) →
          context sessionId = contextOf table sessionId := by
    intro unbound
    rw [← unbound, Function.update_eq_self]
    exact ⟨_, wellFormed.represents, fun _ _ => rfl⟩
  unfold sessionDetachFd
  split
  · rename_i negative
    refine unchanged (wellFormed.boundId_eq_none.mpr
      (wellFormed.findBinding_eq_none.mpr ?_))
    rintro address binding stored rfl
    have := wellFormed.fd_nonnegative address binding stored
    omega
  · cases foundBinding : findBinding table clientFd with
    | none => exact unchanged (wellFormed.boundId_eq_none.mpr foundBinding)
    | some bindingAddress =>
        obtain ⟨binding, bindingStored, rfl⟩ :=
          wellFormed.findBinding_eq_some.mp foundBinding
        obtain ⟨session, stored, -⟩ :=
          wellFormed.session_of_binding bindingStored
        obtain ⟨context, represents, contexts⟩ :=
          wellFormed.unbindFd_dropIfUnused bindingStored stored
        simp only [bindingStored, stored]
        refine ⟨context, represents, ?_⟩
        intro sessionId stillBound
        rcases contexts with rfl | rfl
        · rfl
        · rcases eq_or_ne sessionId session.id with rfl | other
          · obtain ⟨other, otherBound⟩ := stillBound
            rw [← represents.boundId_eq] at otherBound
            obtain ⟨kept, live⟩ :=
              represents.wellFormed.live_iff_bound.mpr ⟨other, otherBound⟩
            rw [represents.contextOf_eq] at live
            simp at live
          · rw [Function.update_of_ne other]

end CloudDrive.SessionTable
