import CloudDrive.SessionTable
import CloudDrive.BucketIndex

/-!
# The links of the session table

The calls of `session.c` are built from five changes of the table: a session
is allocated, altered or freed, and a descriptor is bound or unbound.  Each of
them keeps the hash chains, the connection lists and the counters consistent.
Between two of them a session may have no connection; at the end of a call
none has.
-/

namespace CloudDrive.SessionTable

/-- The bindings listed by the session at an address. -/
def connectionsOf (table : SessionTable) (address : Nat) : List Nat :=
  ((table.sessions address).map Session.connections).getD []

/-- The chains and the connection lists file exactly the allocated sessions
and bindings, and the counters count them. -/
structure Linked (table : SessionTable) : Prop where
  sessionIndex : BucketIndex table.sessionBuckets
    (keyOf table.sessions fun session => hashSessionId session.id)
  fdIndex : BucketIndex table.fdBuckets
    (keyOf table.bindings fun binding => hashFd binding.clientFd)
  connectionIndex : BucketIndex (connectionsOf table)
    (keyOf table.bindings ConnectionBinding.session)
  id_injective : ∀ first second firstSession secondSession,
    table.sessions first = some firstSession →
      table.sessions second = some secondSession →
        firstSession.id = secondSession.id → first = second
  fd_injective : ∀ first second firstBinding secondBinding,
    table.bindings first = some firstBinding →
      table.bindings second = some secondBinding →
        firstBinding.clientFd = secondBinding.clientFd → first = second
  fd_nonnegative : ∀ address binding,
    table.bindings address = some binding → 0 ≤ binding.clientFd
  id_nonempty : ∀ address session, table.sessions address = some session →
    session.id ≠ SessionId.empty
  connectionCount_eq : ∀ address session,
    table.sessions address = some session →
      session.connectionCount = session.connections.length
  sessionCount_eq : ∃ live : List Nat, live.Nodup ∧
    (∀ address, address ∈ live ↔ (table.sessions address).isSome) ∧
      live.length = table.sessionCount
  freshSession_free : ∀ address, table.freshSession ≤ address →
    table.sessions address = none
  freshBinding_free : ∀ address, table.freshBinding ≤ address →
    table.bindings address = none

/-- What holds between calls: besides, every session has a connection. -/
structure WellFormed (table : SessionTable) : Prop extends Linked table where
  connected : ∀ address session, table.sessions address = some session →
    session.connections ≠ []

theorem wellFormed_create : WellFormed create where
  sessionIndex := BucketIndex.empty
  fdIndex := BucketIndex.empty
  connectionIndex := BucketIndex.empty
  id_injective := by simp [create]
  fd_injective := by simp [create]
  fd_nonnegative := by simp [create]
  id_nonempty := by simp [create]
  connectionCount_eq := by simp [create]
  sessionCount_eq := ⟨[], by simp [create]⟩
  freshSession_free := by simp [create]
  freshBinding_free := by simp [create]
  connected := by simp [create]

/-- Allocate and link a session without connections. -/
def allocSession (table : SessionTable) (session : Session) : SessionTable :=
  { table with
    sessions := Function.update table.sessions table.freshSession (some session)
    sessionBuckets := Function.update table.sessionBuckets
      (hashSessionId session.id)
      (table.freshSession :: table.sessionBuckets (hashSessionId session.id))
    sessionCount := table.sessionCount + 1
    freshSession := table.freshSession + 1 }

/-- Overwrite the session at an address. -/
def setSession (table : SessionTable) (address : Nat) (session : Session) :
    SessionTable :=
  { table with
    sessions := Function.update table.sessions address (some session) }

/-- Unlink and free the session at an address. -/
def freeSession (table : SessionTable) (address : Nat) (session : Session) :
    SessionTable :=
  { table with
    sessionBuckets := Function.update table.sessionBuckets
      (hashSessionId session.id)
      ((table.sessionBuckets (hashSessionId session.id)).erase address)
    sessions := Function.update table.sessions address none
    sessionCount := table.sessionCount - 1 }

/-- Unlink and free a binding. -/
def unbindFd (table : SessionTable) (bindingAddress : Nat)
    (binding : ConnectionBinding) (session : Session) : SessionTable :=
  { table with
    fdBuckets := Function.update table.fdBuckets (hashFd binding.clientFd)
      ((table.fdBuckets (hashFd binding.clientFd)).erase bindingAddress)
    bindings := Function.update table.bindings bindingAddress none
    sessions := Function.update table.sessions binding.session
      (some (disconnect session bindingAddress)) }

theorem insertSession_eq (table : SessionTable) (clientFd : Int)
    (session : Session) :
    insertSession table clientFd session =
      bindFd (allocSession table session) clientFd table.freshSession
        session := by
  simp [insertSession, bindFd, allocSession, Function.update_idem]

section Updates

variable {table : SessionTable}

theorem connectionsOf_eq_update (table after : SessionTable) {address : Nat}
    {session : Option Session}
    (sessions_eq : after.sessions =
      Function.update table.sessions address session) :
    connectionsOf after = Function.update (connectionsOf table) address
      ((session.map Session.connections).getD []) := by
  funext other
  by_cases same : other = address
  · subst same; simp [connectionsOf, sessions_eq]
  · simp [connectionsOf, sessions_eq, Function.update_of_ne same]

theorem connectionsOf_eq {address : Nat} {session : Session}
    (stored : table.sessions address = some session) :
    connectionsOf table address = session.connections := by
  simp [connectionsOf, stored]

end Updates

namespace Linked

variable {table : SessionTable}

theorem findSession_eq_some (linked : Linked table) {sessionId : SessionId}
    {address : Nat} :
    findSession table sessionId = some address ↔
      ∃ session, table.sessions address = some session ∧
        session.id = sessionId :=
  linked.sessionIndex.findName_eq_some linked.id_injective

theorem findSession_eq_none (linked : Linked table) {sessionId : SessionId} :
    findSession table sessionId = none ↔
      ∀ address session, table.sessions address = some session →
        session.id ≠ sessionId :=
  linked.sessionIndex.findName_eq_none

theorem findBinding_eq_some (linked : Linked table) {clientFd : Int}
    {address : Nat} :
    findBinding table clientFd = some address ↔
      ∃ binding, table.bindings address = some binding ∧
        binding.clientFd = clientFd :=
  linked.fdIndex.findName_eq_some linked.fd_injective

theorem findBinding_eq_none (linked : Linked table) {clientFd : Int} :
    findBinding table clientFd = none ↔
      ∀ address binding, table.bindings address = some binding →
        binding.clientFd ≠ clientFd :=
  linked.fdIndex.findName_eq_none

/-- A binding points to an allocated session that lists it. -/
theorem session_of_binding (linked : Linked table) {address : Nat}
    {binding : ConnectionBinding}
    (stored : table.bindings address = some binding) :
    ∃ session, table.sessions binding.session = some session ∧
      address ∈ session.connections := by
  have listed := (linked.connectionIndex.mem_iff binding.session address).mpr
    (keyOf_eq_some.mpr ⟨binding, stored, rfl⟩)
  cases found : table.sessions binding.session with
  | none => simp [connectionsOf, found] at listed
  | some session =>
      exact ⟨session, rfl, by simpa [connectionsOf, found] using listed⟩

/-- A listed connection is a binding that points back. -/
theorem binding_of_connection (linked : Linked table) {address : Nat}
    {session : Session} (stored : table.sessions address = some session)
    {bindingAddress : Nat} (listed : bindingAddress ∈ session.connections) :
    ∃ binding, table.bindings bindingAddress = some binding ∧
      binding.session = address := by
  rw [← connectionsOf_eq stored] at listed
  exact keyOf_eq_some.mp
    ((linked.connectionIndex.mem_iff address bindingAddress).mp listed)

theorem sessionIndex_update (linked : Linked table) {address : Nat}
    {before after : Session} (stored : table.sessions address = some before)
    (id_eq : after.id = before.id) :
    BucketIndex table.sessionBuckets
      (keyOf (Function.update table.sessions address (some after))
        fun session => hashSessionId session.id) := by
  have unchanged :
      Function.update
        (keyOf table.sessions fun session => hashSessionId session.id)
        address (some (hashSessionId after.id)) =
      keyOf table.sessions fun session => hashSessionId session.id := by
    rw [Function.update_eq_self_iff]
    simp [keyOf, stored, id_eq]
  rw [keyOf_update, Option.map_some, unchanged]
  exact linked.sessionIndex

theorem sessionCount_update (linked : Linked table) {address : Nat}
    {before after : Session} (stored : table.sessions address = some before) :
    ∃ live : List Nat, live.Nodup ∧
      (∀ other, other ∈ live ↔ (Function.update table.sessions address
        (some after) other).isSome) ∧ live.length = table.sessionCount := by
  obtain ⟨live, nodup, mem_live, length_eq⟩ := linked.sessionCount_eq
  refine ⟨live, nodup, fun other => ?_, length_eq⟩
  by_cases same : other = address
  · subst same; simp [mem_live, stored]
  · simp [mem_live, Function.update_of_ne same]

theorem stored_lt_freshSession (linked : Linked table) {address : Nat}
    {session : Session} (stored : table.sessions address = some session) :
    address < table.freshSession := by
  by_contra beyond
  simp [linked.freshSession_free address (by omega)] at stored

theorem stored_lt_freshBinding (linked : Linked table) {address : Nat}
    {binding : ConnectionBinding}
    (stored : table.bindings address = some binding) :
    address < table.freshBinding := by
  by_contra beyond
  simp [linked.freshBinding_free address (by omega)] at stored

theorem freshSession_free_update (linked : Linked table) {address : Nat}
    {session : Session} (stored : table.sessions address = some session)
    (value : Option Session) :
    ∀ other, table.freshSession ≤ other →
      Function.update table.sessions address value other = none := by
  intro other beyond
  have := linked.stored_lt_freshSession stored
  rw [Function.update_of_ne (by omega)]
  exact linked.freshSession_free other beyond

/-- A session may be altered in anything but its identifier and connections. -/
theorem setSession (linked : Linked table) {address : Nat}
    {before after : Session} (stored : table.sessions address = some before)
    (id_eq : after.id = before.id)
    (connections_eq : after.connections = before.connections)
    (connectionCount_eq : after.connectionCount = before.connectionCount) :
    Linked (setSession table address after) where
  sessionIndex := linked.sessionIndex_update stored id_eq
  fdIndex := linked.fdIndex
  connectionIndex := by
    rw [connectionsOf_eq_update table _ rfl]
    simpa [SessionTable.setSession, connections_eq, ← connectionsOf_eq stored]
      using linked.connectionIndex
  id_injective := name_injective_update linked.id_injective (by
    rintro _ ⟨⟩ other session otherStored same
    exact linked.id_injective other address session before otherStored stored
      (same.trans id_eq))
  fd_injective := linked.fd_injective
  fd_nonnegative := linked.fd_nonnegative
  id_nonempty := forall_update_heap linked.id_nonempty (by
    rintro _ ⟨⟩
    exact id_eq ▸ linked.id_nonempty address before stored)
  connectionCount_eq := forall_update_heap linked.connectionCount_eq (by
    rintro _ ⟨⟩
    rw [connectionCount_eq, connections_eq]
    exact linked.connectionCount_eq address before stored)
  sessionCount_eq := linked.sessionCount_update stored
  freshSession_free := linked.freshSession_free_update stored _
  freshBinding_free := linked.freshBinding_free

theorem allocSession (linked : Linked table) {session : Session}
    (unused : findSession table session.id = none)
    (nonempty : session.id ≠ SessionId.empty)
    (connections_eq : session.connections = [])
    (connectionCount_eq : session.connectionCount = 0) :
    Linked (allocSession table session) where
  sessionIndex := by
    simp only [SessionTable.allocSession, keyOf_update]
    exact linked.sessionIndex.cons
      (by simpa using linked.freshSession_free _ (Nat.le_refl _)) _
  fdIndex := linked.fdIndex
  connectionIndex := by
    rw [connectionsOf_eq_update table _ rfl]
    have absent : connectionsOf table table.freshSession = [] := by
      simp [connectionsOf, linked.freshSession_free]
    simpa [SessionTable.allocSession, connections_eq, ← absent]
      using linked.connectionIndex
  id_injective := name_injective_update linked.id_injective (by
    rintro _ ⟨⟩ other otherSession stored same
    exact (linked.findSession_eq_none.mp unused other otherSession stored
      same).elim)
  fd_injective := linked.fd_injective
  fd_nonnegative := linked.fd_nonnegative
  id_nonempty := forall_update_heap linked.id_nonempty (by
    rintro _ ⟨⟩
    exact nonempty)
  connectionCount_eq := forall_update_heap linked.connectionCount_eq (by
    rintro _ ⟨⟩
    simp [connections_eq, connectionCount_eq])
  sessionCount_eq := by
    obtain ⟨live, nodup, mem_live, length_eq⟩ := linked.sessionCount_eq
    refine ⟨table.freshSession :: live, ?_, fun other => ?_, ?_⟩
    · simp [nodup, mem_live, linked.freshSession_free]
    · by_cases same : other = table.freshSession
      · subst same; simp [SessionTable.allocSession]
      · simp [SessionTable.allocSession, mem_live, same]
    · simp [SessionTable.allocSession, length_eq]
  freshSession_free := by
    intro other beyond
    simp only [SessionTable.allocSession] at beyond ⊢
    rw [Function.update_of_ne (by omega)]
    exact linked.freshSession_free other (by omega)
  freshBinding_free := linked.freshBinding_free

theorem bindFd (linked : Linked table) {clientFd : Int} {address : Nat}
    {session : Session} (stored : table.sessions address = some session)
    (nonnegative : 0 ≤ clientFd)
    (unbound : findBinding table clientFd = none) :
    Linked (bindFd table clientFd address session) where
  sessionIndex := linked.sessionIndex_update stored rfl
  fdIndex := by
    simp only [SessionTable.bindFd, keyOf_update]
    exact linked.fdIndex.cons
      (by simpa using linked.freshBinding_free _ (Nat.le_refl _)) _
  connectionIndex := by
    rw [connectionsOf_eq_update table _ rfl]
    simp only [SessionTable.bindFd, connect, keyOf_update, Option.map_some,
      Option.getD_some, ← connectionsOf_eq stored]
    exact linked.connectionIndex.cons
      (by simpa using linked.freshBinding_free _ (Nat.le_refl _)) _
  id_injective := name_injective_update linked.id_injective (by
    rintro _ ⟨⟩ other otherSession otherStored same
    exact linked.id_injective other address otherSession session otherStored
      stored same)
  fd_injective := name_injective_update linked.fd_injective (by
    rintro _ ⟨⟩ other binding otherStored same
    exact (linked.findBinding_eq_none.mp unbound other binding otherStored
      same).elim)
  fd_nonnegative := forall_update_heap linked.fd_nonnegative (by
    rintro _ ⟨⟩
    exact nonnegative)
  id_nonempty := forall_update_heap linked.id_nonempty (by
    rintro _ ⟨⟩
    exact linked.id_nonempty address session stored)
  connectionCount_eq := forall_update_heap linked.connectionCount_eq (by
    rintro _ ⟨⟩
    simp [connect, linked.connectionCount_eq address session stored])
  sessionCount_eq := linked.sessionCount_update stored
  freshSession_free := linked.freshSession_free_update stored _
  freshBinding_free := by
    intro other beyond
    simp only [SessionTable.bindFd] at beyond ⊢
    rw [Function.update_of_ne (by omega)]
    exact linked.freshBinding_free other (by omega)

theorem unbindFd (linked : Linked table) {bindingAddress : Nat}
    {binding : ConnectionBinding} {session : Session}
    (bindingStored : table.bindings bindingAddress = some binding)
    (stored : table.sessions binding.session = some session) :
    Linked (unbindFd table bindingAddress binding session) where
  sessionIndex := linked.sessionIndex_update stored rfl
  fdIndex := by
    simp only [SessionTable.unbindFd, keyOf_update]
    exact linked.fdIndex.erase (by simp [bindingStored])
  connectionIndex := by
    rw [connectionsOf_eq_update table _ rfl]
    simp only [SessionTable.unbindFd, disconnect, keyOf_update,
      Option.map_some, Option.map_none, Option.getD_some,
      ← connectionsOf_eq stored]
    exact linked.connectionIndex.erase (by simp [bindingStored])
  id_injective := name_injective_update linked.id_injective (by
    rintro _ ⟨⟩ other otherSession otherStored same
    exact linked.id_injective other binding.session otherSession session
      otherStored stored same)
  fd_injective := name_injective_update linked.fd_injective (by simp)
  fd_nonnegative := forall_update_heap linked.fd_nonnegative (by simp)
  id_nonempty := forall_update_heap linked.id_nonempty (by
    rintro _ ⟨⟩
    exact linked.id_nonempty binding.session session stored)
  connectionCount_eq := forall_update_heap linked.connectionCount_eq (by
    rintro _ ⟨⟩
    obtain ⟨_, found, listed⟩ := linked.session_of_binding bindingStored
    obtain rfl := Option.some.inj (stored.symm.trans found)
    simp [disconnect, linked.connectionCount_eq _ _ stored,
      List.length_erase_of_mem listed])
  sessionCount_eq := linked.sessionCount_update stored
  freshSession_free := linked.freshSession_free_update stored _
  freshBinding_free := by
    intro other beyond
    have := linked.stored_lt_freshBinding bindingStored
    simp only [SessionTable.unbindFd] at beyond ⊢
    rw [Function.update_of_ne (by omega)]
    exact linked.freshBinding_free other beyond

theorem freeSession (linked : Linked table) {address : Nat}
    {session : Session} (stored : table.sessions address = some session)
    (connections_eq : session.connections = []) :
    Linked (freeSession table address session) where
  sessionIndex := by
    simp only [SessionTable.freeSession, keyOf_update]
    exact linked.sessionIndex.erase (by simp [stored])
  fdIndex := linked.fdIndex
  connectionIndex := by
    rw [connectionsOf_eq_update table _ rfl]
    simpa [SessionTable.freeSession, ← connections_eq,
      ← connectionsOf_eq stored] using linked.connectionIndex
  id_injective := name_injective_update linked.id_injective (by simp)
  fd_injective := linked.fd_injective
  fd_nonnegative := linked.fd_nonnegative
  id_nonempty := forall_update_heap linked.id_nonempty (by simp)
  connectionCount_eq := forall_update_heap linked.connectionCount_eq (by simp)
  sessionCount_eq := by
    obtain ⟨live, nodup, mem_live, length_eq⟩ := linked.sessionCount_eq
    refine ⟨live.erase address, nodup.erase address, fun other => ?_, ?_⟩
    · rw [nodup.mem_erase_iff, mem_live]
      by_cases same : other = address
      · subst same; simp [SessionTable.freeSession]
      · simp [SessionTable.freeSession, same]
    · rw [List.length_erase_of_mem ((mem_live address).mpr (by simp [stored])),
        length_eq]
      rfl
  freshSession_free := linked.freshSession_free_update stored _
  freshBinding_free := linked.freshBinding_free

end Linked

end CloudDrive.SessionTable
