import CloudDrive.SessionTableLinks

/-!
# The registry the session table stands for

To its callers the table is two partial maps: the session each descriptor is
bound to, and the context of each live session.  A session is live exactly as
long as some descriptor is bound to it.  This file says how each call of
`session.c` changes the two maps.
-/

namespace CloudDrive.SessionTable

/-- The identifier of the session a descriptor is bound to. -/
def boundId (table : SessionTable) (clientFd : Int) : Option SessionId :=
  (((findBinding table clientFd).bind table.bindings).bind fun binding =>
    table.sessions binding.session).map Session.id

/-- The context a live session would give to an authorized request. -/
def contextOf (table : SessionTable) (sessionId : SessionId) :
    Option SessionContext :=
  ((findSession table sessionId).bind table.sessions).map copyContext

theorem Linked.contextOf_eq_some {table : SessionTable} (linked : Linked table)
    {sessionId : SessionId} {context : SessionContext} :
    contextOf table sessionId = some context ↔
      ∃ address session, table.sessions address = some session ∧
        session.id = sessionId ∧ copyContext session = context := by
  constructor
  · intro stored
    cases found : findSession table sessionId with
    | none => simp [contextOf, found] at stored
    | some address =>
        obtain ⟨session, sessionStored, same⟩ :=
          linked.findSession_eq_some.mp found
        exact ⟨address, session, sessionStored, same,
          by simpa [contextOf, found, sessionStored] using stored⟩
  · rintro ⟨address, session, sessionStored, rfl, rfl⟩
    simp [contextOf, sessionStored,
      linked.findSession_eq_some.mpr ⟨session, sessionStored, rfl⟩]

theorem Linked.boundId_eq_some {table : SessionTable} (linked : Linked table)
    {clientFd : Int} {sessionId : SessionId} :
    boundId table clientFd = some sessionId ↔
      ∃ address binding session, table.bindings address = some binding ∧
        binding.clientFd = clientFd ∧
        table.sessions binding.session = some session ∧
        session.id = sessionId := by
  constructor
  · intro bound
    cases found : findBinding table clientFd with
    | none => simp [boundId, found] at bound
    | some address =>
        obtain ⟨binding, bindingStored, same⟩ :=
          linked.findBinding_eq_some.mp found
        obtain ⟨session, stored, -⟩ := linked.session_of_binding bindingStored
        exact ⟨address, binding, session, bindingStored, same, stored,
          by simpa [boundId, found, bindingStored, stored] using bound⟩
  · rintro ⟨address, binding, session, bindingStored, rfl, stored, rfl⟩
    simp [boundId, bindingStored, stored,
      linked.findBinding_eq_some.mpr ⟨binding, bindingStored, rfl⟩]

theorem Linked.contextOf_eq_none {table : SessionTable} (linked : Linked table)
    {sessionId : SessionId} :
    contextOf table sessionId = none ↔ findSession table sessionId = none := by
  rw [linked.findSession_eq_none]
  constructor
  · intro absent address session stored same
    have present := linked.contextOf_eq_some.mpr
      ⟨address, session, stored, same, rfl⟩
    simp [absent] at present
  · intro absent
    cases found : contextOf table sessionId with
    | none => rfl
    | some context =>
        obtain ⟨address, session, stored, same, -⟩ :=
          linked.contextOf_eq_some.mp found
        exact (absent address session stored same).elim

theorem Linked.boundId_eq_none {table : SessionTable} (linked : Linked table)
    {clientFd : Int} :
    boundId table clientFd = none ↔ findBinding table clientFd = none := by
  rw [linked.findBinding_eq_none]
  constructor
  · intro unbound address binding stored same
    obtain ⟨session, sessionStored, -⟩ := linked.session_of_binding stored
    have bound := linked.boundId_eq_some.mpr
      ⟨address, binding, session, stored, same, sessionStored, rfl⟩
    simp [unbound] at bound
  · intro absent
    cases found : boundId table clientFd with
    | none => rfl
    | some sessionId =>
        obtain ⟨address, binding, -, stored, same, -⟩ :=
          linked.boundId_eq_some.mp found
        exact (absent address binding stored same).elim

/-- A session is live exactly when some descriptor is bound to it. -/
theorem WellFormed.live_iff_bound {table : SessionTable}
    (wellFormed : WellFormed table) {sessionId : SessionId} :
    (∃ context, contextOf table sessionId = some context) ↔
      ∃ clientFd, boundId table clientFd = some sessionId := by
  constructor
  · rintro ⟨context, live⟩
    obtain ⟨address, session, stored, same, -⟩ :=
      wellFormed.contextOf_eq_some.mp live
    obtain ⟨bindingAddress, listed⟩ :=
      List.exists_mem_of_ne_nil _ (wellFormed.connected address session stored)
    obtain ⟨binding, bindingStored, rfl⟩ :=
      wellFormed.binding_of_connection stored listed
    exact ⟨binding.clientFd, wellFormed.boundId_eq_some.mpr
      ⟨bindingAddress, binding, session, bindingStored, rfl, stored, same⟩⟩
  · rintro ⟨clientFd, bound⟩
    obtain ⟨-, binding, session, -, -, stored, same⟩ :=
      wellFormed.boundId_eq_some.mp bound
    exact ⟨copyContext session, wellFormed.contextOf_eq_some.mpr
      ⟨binding.session, session, stored, same, rfl⟩⟩

section Updates

variable {before after : SessionTable}

/-- The contexts change at one identifier when only the session of that
identifier changes. -/
theorem contextOf_eq_update (linkedBefore : Linked before)
    (linkedAfter : Linked after) {address : Nat} {value : Option Session}
    (sessions_eq : after.sessions =
      Function.update before.sessions address value)
    (sessionId : SessionId)
    (valueId : ∀ session, value = some session → session.id = sessionId)
    (storedId : ∀ session, before.sessions address = some session →
      session.id = sessionId)
    (unique : ∀ other session, before.sessions other = some session →
      session.id = sessionId → other = address) :
    contextOf after =
      Function.update (contextOf before) sessionId (value.map copyContext) := by
  funext other
  apply Option.ext
  intro context
  rw [linkedAfter.contextOf_eq_some, sessions_eq]
  by_cases here : other = sessionId
  · subst here
    rw [Function.update_self, Option.map_eq_some_iff]
    constructor
    · rintro ⟨found, session, stored, same, copied⟩
      by_cases moved : found = address
      · subst moved
        exact ⟨session, by simpa using stored, copied⟩
      · rw [Function.update_of_ne moved] at stored
        exact (moved (unique found session stored same)).elim
    · rintro ⟨session, rfl, copied⟩
      exact ⟨address, session, by simp, valueId session rfl, copied⟩
  · rw [Function.update_of_ne here, linkedBefore.contextOf_eq_some]
    constructor
    · rintro ⟨found, session, stored, rfl, copied⟩
      have moved : found ≠ address := by
        rintro rfl
        exact here (valueId session (by simpa using stored))
      rw [Function.update_of_ne moved] at stored
      exact ⟨found, session, stored, rfl, copied⟩
    · rintro ⟨found, session, stored, rfl, copied⟩
      have moved : found ≠ address := by
        rintro rfl
        exact here (storedId session stored)
      exact ⟨found, session, by rwa [Function.update_of_ne moved], rfl, copied⟩

/-- Overwriting a session with one of the same identifier and context changes
neither map. -/
theorem contextOf_eq_of_copyContext_eq (linkedBefore : Linked before)
    (linkedAfter : Linked after) {address : Nat} {session altered : Session}
    (stored : before.sessions address = some session)
    (sessions_eq : after.sessions =
      Function.update before.sessions address (some altered))
    (id_eq : altered.id = session.id)
    (copied : copyContext altered = copyContext session) :
    contextOf after = contextOf before := by
  rw [contextOf_eq_update linkedBefore linkedAfter sessions_eq session.id
    (by simpa using id_eq)
    (by intro other otherStored; simp [stored] at otherStored; rw [otherStored])
    (fun other otherSession otherStored same =>
      linkedBefore.id_injective other address otherSession session otherStored
        stored same)]
  rw [Option.map_some, Function.update_eq_self_iff, copied]
  exact (linkedBefore.contextOf_eq_some.mpr
    ⟨address, session, stored, rfl, rfl⟩).symm

/-- What a descriptor is bound to depends on its binding and on the identifier
of the session it points to. -/
theorem boundId_eq_at (linkedBefore : Linked before) (linkedAfter : Linked after)
    {clientFd : Int}
    (bindings_iff : ∀ address binding, binding.clientFd = clientFd →
      (after.bindings address = some binding ↔
        before.bindings address = some binding))
    (ids : ∀ address binding, before.bindings address = some binding →
      keyOf after.sessions Session.id binding.session =
        keyOf before.sessions Session.id binding.session) :
    boundId after clientFd = boundId before clientFd := by
  apply Option.ext
  intro sessionId
  rw [linkedAfter.boundId_eq_some, linkedBefore.boundId_eq_some]
  constructor
  · rintro ⟨address, binding, session, bindingStored, bound, stored, same⟩
    have kept := (bindings_iff address binding bound).mp bindingStored
    obtain ⟨earlier, earlierStored, earlierSame⟩ := keyOf_eq_some.mp
      ((ids address binding kept).symm.trans
        (keyOf_eq_some.mpr ⟨session, stored, same⟩))
    exact ⟨address, binding, earlier, kept, bound, earlierStored, earlierSame⟩
  · rintro ⟨address, binding, session, bindingStored, bound, stored, same⟩
    obtain ⟨later, laterStored, laterSame⟩ := keyOf_eq_some.mp
      ((ids address binding bindingStored).trans
        (keyOf_eq_some.mpr ⟨session, stored, same⟩))
    exact ⟨address, binding, later,
      (bindings_iff address binding bound).mpr bindingStored, bound,
      laterStored, laterSame⟩

theorem keyOf_id_update {table : SessionTable} {address : Nat}
    {session : Session} (stored : table.sessions address = some session)
    (altered : Session) (id_eq : altered.id = session.id) :
    keyOf (Function.update table.sessions address (some altered)) Session.id =
      keyOf table.sessions Session.id := by
  rw [keyOf_update, Function.update_eq_self_iff]
  simp [keyOf, stored, id_eq]

end Updates

namespace Linked

variable {table : SessionTable}

/-- The identifier at an address belongs to no other session. -/
theorem address_unique (linked : Linked table) {address : Nat}
    {session : Session} (stored : table.sessions address = some session) :
    ∀ other otherSession, table.sessions other = some otherSession →
      otherSession.id = session.id → other = address :=
  fun other otherSession otherStored same =>
    linked.id_injective other address otherSession session otherStored stored
      same

theorem boundId_setSession (linked : Linked table) {address : Nat}
    {session altered : Session} (stored : table.sessions address = some session)
    (linkedAfter : Linked (SessionTable.setSession table address altered))
    (id_eq : altered.id = session.id) :
    boundId (SessionTable.setSession table address altered) = boundId table := by
  funext clientFd
  refine boundId_eq_at linked linkedAfter (fun _ _ _ => Iff.rfl) ?_
  intro _ binding _
  exact congrFun (keyOf_id_update stored altered id_eq) binding.session

theorem contextOf_setSession (linked : Linked table) {address : Nat}
    {session altered : Session} (stored : table.sessions address = some session)
    (linkedAfter : Linked (SessionTable.setSession table address altered))
    (id_eq : altered.id = session.id) :
    contextOf (SessionTable.setSession table address altered) =
      Function.update (contextOf table) session.id
        (some (copyContext altered)) :=
  contextOf_eq_update linked linkedAfter rfl session.id
    (by rintro _ ⟨⟩; exact id_eq)
    (fun other otherStored => by
      obtain rfl := Option.some.inj (stored.symm.trans otherStored); rfl)
    (linked.address_unique stored)

theorem boundId_allocSession (linked : Linked table) {session : Session}
    (linkedAfter : Linked (SessionTable.allocSession table session)) :
    boundId (SessionTable.allocSession table session) = boundId table := by
  funext clientFd
  refine boundId_eq_at linked linkedAfter (fun _ _ _ => Iff.rfl) ?_
  intro address binding stored
  obtain ⟨target, targetStored, -⟩ := linked.session_of_binding stored
  have older := linked.stored_lt_freshSession targetStored
  simp [SessionTable.allocSession, keyOf,
    Function.update_of_ne (Nat.ne_of_lt older)]

theorem contextOf_allocSession (linked : Linked table) {session : Session}
    (unused : findSession table session.id = none)
    (linkedAfter : Linked (SessionTable.allocSession table session)) :
    contextOf (SessionTable.allocSession table session) =
      Function.update (contextOf table) session.id
        (some (copyContext session)) :=
  contextOf_eq_update linked linkedAfter rfl session.id
    (by rintro _ ⟨⟩; rfl)
    (fun other stored => by
      simp [linked.freshSession_free _ (Nat.le_refl _)] at stored)
    (fun other otherSession stored same =>
      (linked.findSession_eq_none.mp unused other otherSession stored
        same).elim)

theorem boundId_bindFd (linked : Linked table) {clientFd : Int} {address : Nat}
    {session : Session} (stored : table.sessions address = some session)
    (linkedAfter : Linked (SessionTable.bindFd table clientFd address session)) :
    boundId (SessionTable.bindFd table clientFd address session) =
      Function.update (boundId table) clientFd (some session.id) := by
  funext other
  by_cases here : other = clientFd
  · subst here
    rw [Function.update_self, linkedAfter.boundId_eq_some]
    exact ⟨table.freshBinding, ⟨other, address⟩,
      connect session table.freshBinding, by simp [SessionTable.bindFd], rfl,
      by simp [SessionTable.bindFd], rfl⟩
  · rw [Function.update_of_ne here]
    refine boundId_eq_at linked linkedAfter ?_ ?_
    · rintro position binding rfl
      by_cases new : position = table.freshBinding
      · subst new
        simp only [SessionTable.bindFd, Function.update_self,
          linked.freshBinding_free _ (Nat.le_refl _)]
        constructor
        · rintro ⟨⟩; exact (here rfl).elim
        · rintro ⟨⟩
      · simp [SessionTable.bindFd, Function.update_of_ne new]
    · intro _ binding _
      exact congrFun (keyOf_id_update stored (connect session _) rfl)
        binding.session

theorem contextOf_bindFd (linked : Linked table) {clientFd : Int} {address : Nat}
    {session : Session} (stored : table.sessions address = some session)
    (linkedAfter : Linked (SessionTable.bindFd table clientFd address session)) :
    contextOf (SessionTable.bindFd table clientFd address session) =
      contextOf table :=
  contextOf_eq_of_copyContext_eq linked linkedAfter stored rfl rfl rfl

theorem boundId_unbindFd (linked : Linked table) {bindingAddress : Nat}
    {binding : ConnectionBinding} {session : Session}
    (bindingStored : table.bindings bindingAddress = some binding)
    (stored : table.sessions binding.session = some session)
    (linkedAfter : Linked
      (SessionTable.unbindFd table bindingAddress binding session)) :
    boundId (SessionTable.unbindFd table bindingAddress binding session) =
      Function.update (boundId table) binding.clientFd none := by
  funext other
  by_cases here : other = binding.clientFd
  · subst here
    rw [Function.update_self, linkedAfter.boundId_eq_none,
      linkedAfter.findBinding_eq_none]
    intro position found kept same
    by_cases moved : position = bindingAddress
    · subst moved; simp [SessionTable.unbindFd] at kept
    · simp only [SessionTable.unbindFd, Function.update_of_ne moved] at kept
      exact moved (linked.fd_injective position bindingAddress found binding
        kept bindingStored same)
  · rw [Function.update_of_ne here]
    refine boundId_eq_at linked linkedAfter ?_ ?_
    · rintro position found rfl
      by_cases moved : position = bindingAddress
      · subst moved
        simp only [SessionTable.unbindFd, Function.update_self, bindingStored]
        constructor
        · rintro ⟨⟩
        · rintro ⟨⟩; exact (here rfl).elim
      · simp [SessionTable.unbindFd, Function.update_of_ne moved]
    · intro _ found _
      exact congrFun (keyOf_id_update stored (disconnect session _) rfl)
        found.session

theorem contextOf_unbindFd (linked : Linked table) {bindingAddress : Nat}
    {binding : ConnectionBinding} {session : Session}
    (stored : table.sessions binding.session = some session)
    (linkedAfter : Linked
      (SessionTable.unbindFd table bindingAddress binding session)) :
    contextOf (SessionTable.unbindFd table bindingAddress binding session) =
      contextOf table :=
  contextOf_eq_of_copyContext_eq linked linkedAfter stored rfl rfl rfl

theorem boundId_freeSession (linked : Linked table) {address : Nat}
    {session : Session} (stored : table.sessions address = some session)
    (connections_eq : session.connections = [])
    (linkedAfter : Linked (SessionTable.freeSession table address session)) :
    boundId (SessionTable.freeSession table address session) =
      boundId table := by
  funext clientFd
  refine boundId_eq_at linked linkedAfter (fun _ _ _ => Iff.rfl) ?_
  intro position binding bindingStored
  have other : binding.session ≠ address := by
    rintro rfl
    obtain ⟨_, found, listed⟩ := linked.session_of_binding bindingStored
    obtain rfl := Option.some.inj (stored.symm.trans found)
    simp [connections_eq] at listed
  simp [SessionTable.freeSession, keyOf, Function.update_of_ne other]

theorem contextOf_freeSession (linked : Linked table) {address : Nat}
    {session : Session} (stored : table.sessions address = some session)
    (linkedAfter : Linked (SessionTable.freeSession table address session)) :
    contextOf (SessionTable.freeSession table address session) =
      Function.update (contextOf table) session.id none :=
  contextOf_eq_update linked linkedAfter rfl session.id (by simp)
    (fun other otherStored => by
      obtain rfl := Option.some.inj (stored.symm.trans otherStored); rfl)
    (linked.address_unique stored)

end Linked

/-- A well-formed table that stands for two given maps. -/
structure Represents (table : SessionTable) (bound : Int → Option SessionId)
    (context : SessionId → Option SessionContext) : Prop where
  wellFormed : WellFormed table
  boundId_eq : boundId table = bound
  contextOf_eq : contextOf table = context

namespace WellFormed

variable {table : SessionTable}

theorem represents (wellFormed : WellFormed table) :
    Represents table (boundId table) (contextOf table) :=
  ⟨wellFormed, rfl, rfl⟩

theorem setSession (wellFormed : WellFormed table) {address : Nat}
    {session altered : Session} (stored : table.sessions address = some session)
    (id_eq : altered.id = session.id)
    (connections_eq : altered.connections = session.connections)
    (connectionCount_eq : altered.connectionCount = session.connectionCount) :
    Represents (setSession table address altered) (boundId table)
      (Function.update (contextOf table) session.id
        (some (copyContext altered))) := by
  have linkedAfter := wellFormed.toLinked.setSession stored id_eq
    connections_eq connectionCount_eq
  refine ⟨⟨linkedAfter, ?_⟩,
    wellFormed.boundId_setSession stored linkedAfter id_eq,
    wellFormed.contextOf_setSession stored linkedAfter id_eq⟩
  refine forall_update_heap wellFormed.connected ?_
  rintro _ ⟨⟩
  exact connections_eq ▸ wellFormed.connected address session stored

theorem bindFd (wellFormed : WellFormed table) {clientFd : Int} {address : Nat}
    {session : Session} (stored : table.sessions address = some session)
    (nonnegative : 0 ≤ clientFd)
    (unbound : findBinding table clientFd = none) :
    Represents (bindFd table clientFd address session)
      (Function.update (boundId table) clientFd (some session.id))
      (contextOf table) := by
  have linkedAfter := wellFormed.toLinked.bindFd stored nonnegative unbound
  refine ⟨⟨linkedAfter, ?_⟩, wellFormed.boundId_bindFd stored linkedAfter,
    wellFormed.contextOf_bindFd stored linkedAfter⟩
  refine forall_update_heap wellFormed.connected ?_
  rintro _ ⟨⟩
  simp [connect]

theorem insertSession (wellFormed : WellFormed table) {clientFd : Int}
    {session : Session} (nonnegative : 0 ≤ clientFd)
    (unbound : findBinding table clientFd = none)
    (unused : findSession table session.id = none)
    (nonempty : session.id ≠ SessionId.empty)
    (connections_eq : session.connections = [])
    (connectionCount_eq : session.connectionCount = 0) :
    Represents (insertSession table clientFd session)
      (Function.update (boundId table) clientFd (some session.id))
      (Function.update (contextOf table) session.id
        (some (copyContext session))) := by
  have linkedAlloc := wellFormed.toLinked.allocSession unused nonempty
    connections_eq connectionCount_eq
  have stored : (allocSession table session).sessions table.freshSession =
      some session := by simp [allocSession]
  have linkedAfter := linkedAlloc.bindFd stored nonnegative unbound
  rw [insertSession_eq]
  refine ⟨⟨linkedAfter, ?_⟩, ?_, ?_⟩
  · simp only [SessionTable.bindFd, allocSession, Function.update_idem]
    refine forall_update_heap wellFormed.connected ?_
    rintro _ ⟨⟩
    simp [connect]
  · rw [linkedAlloc.boundId_bindFd stored linkedAfter,
      wellFormed.boundId_allocSession linkedAlloc]
  · rw [linkedAlloc.contextOf_bindFd stored linkedAfter,
      wellFormed.contextOf_allocSession unused linkedAlloc]

/-- Unbinding a descriptor keeps the contexts of the sessions that are still
bound, and drops the session that is not. -/
theorem unbindFd_dropIfUnused (wellFormed : WellFormed table)
    {bindingAddress : Nat} {binding : ConnectionBinding} {session : Session}
    (bindingStored : table.bindings bindingAddress = some binding)
    (stored : table.sessions binding.session = some session) :
    ∃ context, Represents
      (dropIfUnused (unbindFd table bindingAddress binding session)
        binding.session (disconnect session bindingAddress))
      (Function.update (boundId table) binding.clientFd none) context ∧
      (context = contextOf table ∨
        context = Function.update (contextOf table) session.id none) := by
  have linked := wellFormed.toLinked.unbindFd bindingStored stored
  have storedAfter :
      (unbindFd table bindingAddress binding session).sessions binding.session =
        some (disconnect session bindingAddress) := by simp [unbindFd]
  have counted := linked.connectionCount_eq _ _ storedAfter
  have bound := wellFormed.boundId_unbindFd bindingStored stored linked
  have contexts := wellFormed.contextOf_unbindFd stored linked
  unfold dropIfUnused
  by_cases unused : (disconnect session bindingAddress).connectionCount = 0
  · rw [if_pos unused]
    have noConnections : (disconnect session bindingAddress).connections = [] :=
      List.length_eq_zero_iff.mp (counted.symm.trans unused)
    have freed := linked.freeSession storedAfter noConnections
    refine ⟨_, ⟨⟨freed, ?_⟩, ?_, ?_⟩, Or.inr rfl⟩
    · simp only [unbindFd, Function.update_idem]
      exact forall_update_heap wellFormed.connected (by simp)
    · exact (linked.boundId_freeSession storedAfter noConnections freed).trans
        bound
    · exact (linked.contextOf_freeSession storedAfter freed).trans
        (by rw [contexts]; rfl)
  · rw [if_neg unused]
    refine ⟨_, ⟨⟨linked, ?_⟩, bound, contexts⟩, Or.inl rfl⟩
    refine forall_update_heap wellFormed.connected ?_
    rintro _ ⟨⟩ none
    exact unused (counted.trans (by rw [none]; rfl))

end WellFormed

end CloudDrive.SessionTable
