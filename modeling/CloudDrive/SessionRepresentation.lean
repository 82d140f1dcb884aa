import CloudDrive.SessionMemory

/-!
# What the session table represents

The chains in memory string together the lists of the session table, so every call
does in memory what it does to the lists, and never goes wrong.
-/

namespace CloudDrive

open SessionTable

/-- What a session holds besides the list of its connections. -/
def Session.record (session : Session) : Session := { session with connections := [] }

namespace SessionMemory

/-- A memory holds a session table: the chains are its lists. -/
structure Depicts (memory : SessionMemory) (table : SessionTable) : Prop where
  sessionChains : Chained memory.hashLinks memory.sessionBuckets table.sessionBuckets
  fdChains : Chained memory.fdLinks memory.fdBuckets table.fdBuckets
  connectionChains : Chained memory.connectionLinks memory.connectionHeads
    (connectionsOf table)
  records : keyOf memory.sessions SessionNode.record =
    keyOf table.sessions Session.record
  bindings : keyOf memory.bindings BindingNode.binding = table.bindings
  sessionCount : memory.sessionCount = table.sessionCount
  freshSession : memory.freshSession = table.freshSession
  freshBinding : memory.freshBinding = table.freshBinding

theorem depicts_create : Depicts create SessionTable.create where
  sessionChains := fun _ => .nil
  fdChains := fun _ => .nil
  connectionChains := fun _ => .nil
  records := rfl
  bindings := rfl
  sessionCount := rfl
  freshSession := rfl
  freshBinding := rfl

theorem connectionHeads_update (memory : SessionMemory) (address : Nat)
    (node : Option SessionNode) :
    connectionHeads { memory with
      sessions := Function.update memory.sessions address node } =
      Function.update memory.connectionHeads address
        (node.bind SessionNode.connections) := by
  funext other
  by_cases same : other = address
  · subst same
    simp [connectionHeads]
  · simp [connectionHeads, Function.update_of_ne same]

namespace Depicts

variable {memory : SessionMemory} {table : SessionTable}
  (depicts : Depicts memory table)

include depicts

/-- A session of the table is in memory with the head of its connections. -/
theorem node_of_session {address : Nat} {session : Session}
    (stored : table.sessions address = some session) :
    ∃ node, memory.sessions address = some node ∧ node.record = session.record := by
  have same := congrFun depicts.records address
  rw [keyOf, keyOf, stored] at same
  exact Option.map_eq_some_iff.mp same

theorem node_of_binding {address : Nat} {binding : ConnectionBinding}
    (stored : table.bindings address = some binding) :
    ∃ node, memory.bindings address = some node ∧ node.binding = binding := by
  rw [← depicts.bindings] at stored
  exact keyOf_eq_some.mp stored

theorem any_session (sessionId : SessionId) (address : Nat) :
    ((memory.sessions address).any fun node => node.id = sessionId) =
      (table.sessions address).any fun session => session.id = sessionId := by
  have same := congrFun depicts.records address
  have first : ((memory.sessions address).any fun node => node.id = sessionId) =
      (keyOf memory.sessions SessionNode.record address).any
        fun session => session.id = sessionId := by
    rw [keyOf, Option.any_map]
    rfl
  rw [first, same, keyOf, Option.any_map]
  rfl

theorem any_binding (clientFd : Int) (address : Nat) :
    ((memory.bindings address).any fun node => node.clientFd = clientFd) =
      (table.bindings address).any fun binding => binding.clientFd = clientFd := by
  rw [← depicts.bindings, keyOf, Option.any_map]
  rfl

section Searches

/-- The steps that are given to a loop over bindings are enough. -/
theorem length_le_freshBinding {key : BindingNode → Option Nat} {head : Option Nat}
    {nodes : List Nat} (chain : Chain (keyOf memory.bindings key) head nodes)
    (free : ∀ address, table.freshBinding ≤ address → table.bindings address = none) :
    nodes.length ≤ memory.freshBinding := by
  refine chain.length_le fun address stored => ?_
  by_contra beyond
  rw [depicts.freshBinding, not_lt] at beyond
  have absent := free address beyond
  rw [← depicts.bindings, keyOf_eq_none] at absent
  rw [keyOf, absent] at stored
  cases stored

variable (linked : Linked table)

include linked

theorem isSome_hashLinks (address : Nat) (stored : (memory.hashLinks address).isSome) :
    address < memory.freshSession := by
  obtain ⟨next, isNext⟩ := Option.isSome_iff_exists.mp stored
  obtain ⟨node, isNode, -⟩ := keyOf_eq_some.mp isNext
  have same := congrFun depicts.records address
  rw [keyOf, isNode] at same
  obtain ⟨session, isSession, -⟩ := keyOf_eq_some.mp same.symm
  rw [depicts.freshSession]
  exact linked.stored_lt_freshSession isSession

theorem findSession_eq (sessionId : SessionId) :
    memory.findSession sessionId = some (table.findSession sessionId) := by
  have chain := depicts.sessionChains (hashSessionId sessionId)
  rw [SessionMemory.findSession, SessionTable.findSession,
    chain.findNode_eq _ (chain.length_le (depicts.isSome_hashLinks linked))]
  simp only [depicts.any_session]

theorem findBinding_eq (clientFd : Int) :
    memory.findBinding clientFd = some (table.findBinding clientFd) := by
  rw [SessionMemory.findBinding, SessionTable.findBinding,
    (depicts.fdChains _).findNode_eq _
      (depicts.length_le_freshBinding (depicts.fdChains _) linked.freshBinding_free)]
  simp only [depicts.any_binding]

end Searches

section Steps

/-- A session may change in what is not part of a chain. -/
theorem setSession {address : Nat} {node after : SessionNode}
    {session changed : Session} (stored : memory.sessions address = some node)
    (listed : table.sessions address = some session)
    (hashNext : after.hashNext = node.hashNext)
    (connections : after.connections = node.connections)
    (sameList : changed.connections = session.connections)
    (record : after.record = changed.record) :
    Depicts (memory.setSession address after)
      (SessionTable.setSession table address changed) where
  sessionChains := by
    have sameLinks : (memory.setSession address after).hashLinks = memory.hashLinks := by
      rw [hashLinks, SessionMemory.setSession, keyOf_update, hashLinks,
        Function.update_eq_self_iff]
      simp [keyOf, stored, hashNext]
    rw [sameLinks]
    exact depicts.sessionChains
  fdChains := depicts.fdChains
  connectionChains := by
    have sameHeads : (memory.setSession address after).connectionHeads =
        memory.connectionHeads := by
      rw [SessionMemory.setSession, connectionHeads_update,
        Function.update_eq_self_iff]
      simp [connectionHeads, stored, connections]
    have sameLists : connectionsOf (SessionTable.setSession table address changed) =
        connectionsOf table := by
      rw [connectionsOf_eq_update table _ rfl, Function.update_eq_self_iff]
      simp [connectionsOf, listed, sameList]
    rw [sameHeads, sameLists]
    exact depicts.connectionChains
  records := by
    rw [SessionMemory.setSession, SessionTable.setSession, keyOf_update, keyOf_update,
      depicts.records, Option.map_some, Option.map_some, record]
  bindings := depicts.bindings
  sessionCount := depicts.sessionCount
  freshSession := depicts.freshSession
  freshBinding := depicts.freshBinding

/-- A new address is in no chain of bindings. -/
theorem fresh_outside {κ : Type} {key : ConnectionBinding → κ} {buckets : κ → List Nat}
    (linked : Linked table) (index : BucketIndex buckets (keyOf table.bindings key))
    (bucket : κ) : memory.freshBinding ∉ buckets bucket := by
  intro listed
  have stored := (index.mem_iff bucket _).mp listed
  rw [depicts.freshBinding] at stored
  obtain ⟨binding, isBinding, -⟩ := keyOf_eq_some.mp stored
  rw [linked.freshBinding_free _ (Nat.le_refl _)] at isBinding
  cases isBinding

theorem bindFd (linked : Linked table) (clientFd : Int) {address : Nat}
    {node : SessionNode} {session : Session}
    (stored : memory.sessions address = some node)
    (listed : table.sessions address = some session)
    (record : node.record = session.record) :
    Depicts (memory.bindFd clientFd address node)
      (SessionTable.bindFd table clientFd address session) where
  sessionChains := by
    have sameLinks : (memory.bindFd clientFd address node).hashLinks =
        memory.hashLinks := by
      rw [hashLinks, SessionMemory.bindFd, keyOf_update, hashLinks,
        Function.update_eq_self_iff]
      simp [keyOf, stored]
    rw [sameLinks]
    exact depicts.sessionChains
  fdChains := by
    rw [SessionMemory.bindFd, SessionTable.bindFd, fdLinks, keyOf_update,
      ← depicts.freshBinding]
    exact depicts.fdChains.push (depicts.fresh_outside linked linked.fdIndex) _
  connectionChains := by
    have pushed := depicts.connectionChains.push
      (depicts.fresh_outside linked linked.connectionIndex) address
    have head : memory.connectionHeads address = node.connections := by
      rw [connectionHeads, stored]
      rfl
    have heads : (memory.bindFd clientFd address node).connectionHeads =
        Function.update memory.connectionHeads address (some memory.freshBinding) :=
      connectionHeads_update memory address _
    rw [heads, connectionLinks, SessionMemory.bindFd, keyOf_update,
      connectionsOf_eq_update table _ rfl]
    rw [head, connectionsOf_eq listed] at pushed
    rw [depicts.freshBinding] at pushed ⊢
    exact pushed
  records := by
    have connected : SessionNode.record { node with
        connections := some memory.freshBinding
        connectionCount := node.connectionCount + 1 } =
        (connect session table.freshBinding).record := by
      simp only [SessionNode.record, Session.record, connect, Session.mk.injEq]
        at record ⊢
      simp [record]
    rw [SessionMemory.bindFd, SessionTable.bindFd, keyOf_update, keyOf_update,
      depicts.records, Option.map_some, Option.map_some, connected]
  bindings := by
    rw [SessionMemory.bindFd, SessionTable.bindFd, keyOf_update, depicts.bindings,
      depicts.freshBinding]
    rfl
  sessionCount := depicts.sessionCount
  freshSession := depicts.freshSession
  freshBinding := congrArg (· + 1) depicts.freshBinding

/-- A new session without connections is linked into its hash chain. -/
theorem allocSession (linked : Linked table) {node : SessionNode} {session : Session}
    (unconnected : node.connections = none) (empty : session.connections = [])
    (record : node.record = session.record) :
    Depicts
      { memory with
        sessions := Function.update memory.sessions memory.freshSession
          (some { node with
            hashNext := memory.sessionBuckets (hashSessionId node.id) })
        sessionBuckets := Function.update memory.sessionBuckets
          (hashSessionId node.id) (some memory.freshSession)
        sessionCount := memory.sessionCount + 1
        freshSession := memory.freshSession + 1 }
      (SessionTable.allocSession table session) where
  sessionChains := by
    have outside (bucket : Nat) :
        memory.freshSession ∉ table.sessionBuckets bucket := by
      intro listed
      have stored := (linked.sessionIndex.mem_iff bucket _).mp listed
      rw [depicts.freshSession] at stored
      obtain ⟨other, isOther, -⟩ := keyOf_eq_some.mp stored
      rw [linked.freshSession_free _ (Nat.le_refl _)] at isOther
      cases isOther
    have sameId : session.id = node.id := (congrArg Session.id record).symm
    rw [SessionTable.allocSession, hashLinks, keyOf_update, sameId,
      ← depicts.freshSession]
    exact depicts.sessionChains.push outside _
  fdChains := depicts.fdChains
  connectionChains := by
    have absent : memory.sessions memory.freshSession = none := by
      have same := congrFun depicts.records memory.freshSession
      rw [depicts.freshSession, keyOf, keyOf,
        linked.freshSession_free _ (Nat.le_refl _)] at same
      rw [depicts.freshSession]
      exact Option.map_eq_none_iff.mp same
    have heads : Function.update memory.connectionHeads memory.freshSession
        node.connections = memory.connectionHeads := by
      rw [Function.update_eq_self_iff, connectionHeads, absent, unconnected]
      rfl
    have lists : connectionsOf (SessionTable.allocSession table session) =
        connectionsOf table := by
      rw [connectionsOf_eq_update table _ rfl, Function.update_eq_self_iff,
        connectionsOf, linked.freshSession_free _ (Nat.le_refl _)]
      exact empty
    rw [lists]
    have chains := depicts.connectionChains
    rw [← heads] at chains
    have sameHeads := connectionHeads_update memory memory.freshSession
      (some { node with hashNext := memory.sessionBuckets (hashSessionId node.id) })
    rw [Option.bind_some] at sameHeads
    rw [← sameHeads] at chains
    exact chains
  records := by
    rw [SessionTable.allocSession, keyOf_update, keyOf_update, depicts.records,
      depicts.freshSession, Option.map_some, Option.map_some, ← record]
    rfl
  bindings := depicts.bindings
  sessionCount := congrArg (· + 1) depicts.sessionCount
  freshSession := congrArg (· + 1) depicts.freshSession
  freshBinding := depicts.freshBinding

theorem insertSession (linked : Linked table) (clientFd : Int) {node : SessionNode}
    {session : Session} (unused : table.findSession session.id = none)
    (nonempty : session.id ≠ SessionId.empty) (unconnected : node.connections = none)
    (empty : session.connections = []) (record : node.record = session.record)
    (uncounted : session.connectionCount = 0) :
    Depicts (memory.insertSession clientFd node)
      (SessionTable.insertSession table clientFd session) := by
  have allocated := depicts.allocSession linked unconnected empty record
  have stored : (SessionTable.allocSession table session).sessions
      memory.freshSession = some session := by
    rw [depicts.freshSession]
    exact Function.update_self ..
  have bound := allocated.bindFd (linked.allocSession unused nonempty empty uncounted)
    clientFd (Function.update_self ..) stored record
  rw [SessionTable.insertSession_eq, ← depicts.freshSession]
  convert bound using 1
  simp [SessionMemory.insertSession, SessionMemory.bindFd, Function.update_idem]

end Steps

section Unlinking

variable {front rest : List Nat}

theorem writeFdLink_eq {bucket : Nat} {value : Option Nat} {lists : Nat → List Nat}
    (link : Option Nat)
    (stored : ∀ {address}, link = some address → (memory.fdLinks address).isSome)
    (chains : Chained (writeLink memory.fdLinks memory.fdBuckets bucket value link).1
      (writeLink memory.fdLinks memory.fdBuckets bucket value link).2 lists) :
    Depicts (memory.writeFdLink bucket value link)
      { table with fdBuckets := lists } := by
  cases link with
  | none => exact { depicts with fdChains := chains }
  | some address =>
      obtain ⟨next, isNext⟩ := Option.isSome_iff_exists.mp (stored rfl)
      obtain ⟨node, isNode, -⟩ := keyOf_eq_some.mp isNext
      have connectionLinks_eq :
          (memory.writeFdLink bucket value (some address)).connectionLinks =
            memory.connectionLinks := keyOf_modify _ _ fun _ => rfl
      have bindings_eq :
          keyOf (memory.writeFdLink bucket value (some address)).bindings
            BindingNode.binding = keyOf memory.bindings BindingNode.binding :=
        keyOf_modify _ _ fun _ => rfl
      refine { depicts with fdChains := ?_, connectionChains := ?_, bindings := ?_ }
      · rw [SessionMemory.writeFdLink, fdLinks, keyOf_update, isNode]
        exact chains
      · rw [connectionLinks_eq]
        exact depicts.connectionChains
      · exact bindings_eq.trans depicts.bindings

/-- A binding is unlinked from its hash chain. -/
theorem writeFdLink (apart : Apart table.fdBuckets) {bucket target : Nat}
    {binding : BindingNode} (split : table.fdBuckets bucket = front ++ target :: rest)
    (stored : memory.bindings target = some binding) :
    Depicts (memory.writeFdLink bucket binding.fdNext front.getLast?)
      { table with
        fdBuckets := Function.update table.fdBuckets bucket (front ++ rest) } := by
  have isLink : memory.fdLinks target = some binding.fdNext := by
    rw [fdLinks, keyOf, stored]
    rfl
  have chain := depicts.fdChains bucket
  rw [split] at chain
  exact depicts.writeFdLink_eq _ chain.isSome_last
    (depicts.fdChains.unlink apart split isLink)

theorem writeConnectionLink_eq {address : Nat} {session : Session} {value : Option Nat}
    {list : List Nat} (listed : table.sessions address = some session)
    (link : Option Nat)
    (stored : ∀ {other}, link = some other → (memory.connectionLinks other).isSome)
    (chains : Chained
      (writeLink memory.connectionLinks memory.connectionHeads address value link).1
      (writeLink memory.connectionLinks memory.connectionHeads address value link).2
      (Function.update (connectionsOf table) address list)) :
    Depicts (memory.writeConnectionLink address value link)
      (SessionTable.setSession table address { session with connections := list }) := by
  have lists : connectionsOf (SessionTable.setSession table address
      { session with connections := list }) =
      Function.update (connectionsOf table) address list := by
    rw [connectionsOf_eq_update table _ rfl]
    rfl
  have records : keyOf table.sessions Session.record =
      keyOf (SessionTable.setSession table address
        { session with connections := list }).sessions Session.record := by
    rw [SessionTable.setSession, keyOf_update, eq_comm, Function.update_eq_self_iff,
      keyOf, listed]
    rfl
  cases link with
  | none =>
      obtain ⟨node, isNode, -⟩ := depicts.node_of_session listed
      have hashLinks_eq :
          (memory.writeConnectionLink address value none).hashLinks =
            memory.hashLinks := keyOf_modify _ _ fun _ => rfl
      have records_eq :
          keyOf (memory.writeConnectionLink address value none).sessions
            SessionNode.record = keyOf memory.sessions SessionNode.record :=
        keyOf_modify _ _ fun _ => rfl
      refine { depicts with
        sessionChains := ?_, connectionChains := ?_, records := ?_ }
      · rw [hashLinks_eq]
        exact depicts.sessionChains
      · rw [lists, SessionMemory.writeConnectionLink, connectionHeads_update, isNode]
        exact chains
      · exact records_eq.trans (depicts.records.trans records)
  | some other =>
      obtain ⟨next, isNext⟩ := Option.isSome_iff_exists.mp (stored rfl)
      obtain ⟨node, isNode, -⟩ := keyOf_eq_some.mp isNext
      have fdLinks_eq :
          (memory.writeConnectionLink address value (some other)).fdLinks =
            memory.fdLinks := keyOf_modify _ _ fun _ => rfl
      have bindings_eq :
          keyOf (memory.writeConnectionLink address value (some other)).bindings
            BindingNode.binding = keyOf memory.bindings BindingNode.binding :=
        keyOf_modify _ _ fun _ => rfl
      refine { depicts with
        fdChains := ?_, connectionChains := ?_, bindings := ?_, records := ?_ }
      · rw [fdLinks_eq]
        exact depicts.fdChains
      · rw [lists, SessionMemory.writeConnectionLink, connectionLinks, keyOf_update,
          isNode]
        exact chains
      · exact depicts.records.trans records
      · exact bindings_eq.trans depicts.bindings

/-- A binding is unlinked from the connections of its session. -/
theorem writeConnectionLink (apart : Apart (connectionsOf table))
    {address target : Nat} {session : Session} {binding : BindingNode}
    (listed : table.sessions address = some session)
    (split : session.connections = front ++ target :: rest)
    (stored : memory.bindings target = some binding) :
    Depicts (memory.writeConnectionLink address binding.sessionNext front.getLast?)
      (SessionTable.setSession table address
        { session with connections := front ++ rest }) := by
  have isLink : memory.connectionLinks target = some binding.sessionNext := by
    rw [connectionLinks, keyOf, stored]
    rfl
  have isSplit : connectionsOf table address = front ++ target :: rest := by
    rw [connectionsOf_eq listed, split]
  have chain := depicts.connectionChains address
  rw [isSplit] at chain
  exact depicts.writeConnectionLink_eq listed _ chain.isSome_last
    (depicts.connectionChains.unlink apart isSplit isLink)

theorem writeHashLink_eq {bucket : Nat} {value : Option Nat} {lists : Nat → List Nat}
    (link : Option Nat)
    (stored : ∀ {address}, link = some address → (memory.hashLinks address).isSome)
    (chains : Chained
      (writeLink memory.hashLinks memory.sessionBuckets bucket value link).1
      (writeLink memory.hashLinks memory.sessionBuckets bucket value link).2 lists) :
    Depicts (memory.writeHashLink bucket value link)
      { table with sessionBuckets := lists } := by
  cases link with
  | none => exact { depicts with sessionChains := chains }
  | some address =>
      obtain ⟨next, isNext⟩ := Option.isSome_iff_exists.mp (stored rfl)
      obtain ⟨node, isNode, -⟩ := keyOf_eq_some.mp isNext
      have heads_eq :
          (memory.writeHashLink bucket value (some address)).connectionHeads =
            memory.connectionHeads := by
        rw [SessionMemory.writeHashLink, connectionHeads_update,
          Function.update_eq_self_iff, connectionHeads, isNode]
        rfl
      have records_eq :
          keyOf (memory.writeHashLink bucket value (some address)).sessions
            SessionNode.record = keyOf memory.sessions SessionNode.record :=
        keyOf_modify _ _ fun _ => rfl
      refine { depicts with
        sessionChains := ?_, connectionChains := ?_, records := ?_ }
      · rw [SessionMemory.writeHashLink, hashLinks, keyOf_update, isNode]
        exact chains
      · rw [heads_eq]
        exact depicts.connectionChains
      · exact records_eq.trans depicts.records

/-- A session is unlinked from its hash chain. -/
theorem writeHashLink (apart : Apart table.sessionBuckets) {bucket target : Nat}
    {node : SessionNode} (split : table.sessionBuckets bucket = front ++ target :: rest)
    (stored : memory.sessions target = some node) :
    Depicts (memory.writeHashLink bucket node.hashNext front.getLast?)
      { table with
        sessionBuckets :=
          Function.update table.sessionBuckets bucket (front ++ rest) } := by
  have isLink : memory.hashLinks target = some node.hashNext := by
    rw [hashLinks, keyOf, stored]
    rfl
  have chain := depicts.sessionChains bucket
  rw [split] at chain
  exact depicts.writeHashLink_eq _ chain.isSome_last
    (depicts.sessionChains.unlink apart split isLink)

end Unlinking

section Freeing

/-- A binding outside of the chains is freed. -/
theorem freeBinding {target : Nat} (outsideFd : ∀ bucket, target ∉ table.fdBuckets bucket)
    (outsideSession : ∀ address, target ∉ connectionsOf table address) :
    Depicts
      { memory with bindings := Function.update memory.bindings target none }
      { table with bindings := Function.update table.bindings target none } where
  sessionChains := depicts.sessionChains
  fdChains := by
    rw [fdLinks, keyOf_update]
    exact depicts.fdChains.update_outside outsideFd _
  connectionChains := by
    rw [connectionLinks, keyOf_update]
    exact depicts.connectionChains.update_outside outsideSession _
  records := depicts.records
  bindings := by
    rw [keyOf_update, depicts.bindings]
    rfl
  sessionCount := depicts.sessionCount
  freshSession := depicts.freshSession
  freshBinding := depicts.freshBinding

/-- A session without connections and outside of the chains is freed. -/
theorem freeSession {target : Nat} {session : Session}
    (listed : table.sessions target = some session) (empty : session.connections = [])
    (outside : ∀ bucket, target ∉ table.sessionBuckets bucket) :
    Depicts
      { memory with
        sessionCount := memory.sessionCount - 1
        sessions := Function.update memory.sessions target none }
      { table with
        sessionCount := table.sessionCount - 1
        sessions := Function.update table.sessions target none } where
  sessionChains := by
    rw [hashLinks, keyOf_update]
    exact depicts.sessionChains.update_outside outside _
  fdChains := depicts.fdChains
  connectionChains := by
    have chain := depicts.connectionChains target
    rw [connectionsOf_eq listed, empty] at chain
    have head : memory.connectionHeads target = none := chain.head_eq
    have lists : connectionsOf { table with
        sessionCount := table.sessionCount - 1
        sessions := Function.update table.sessions target none } =
        connectionsOf table := by
      rw [connectionsOf_eq_update table _ rfl, Function.update_eq_self_iff,
        connectionsOf_eq listed, empty]
      rfl
    have heads : connectionHeads { memory with
        sessions := Function.update memory.sessions target none } =
        memory.connectionHeads := by
      rw [connectionHeads_update, Function.update_eq_self_iff, head]
      rfl
    rw [lists]
    have chains := depicts.connectionChains
    rw [← heads] at chains
    exact chains
  records := by
    rw [keyOf_update, keyOf_update, depicts.records]
    rfl
  bindings := depicts.bindings
  sessionCount := congrArg (· - 1) depicts.sessionCount
  freshSession := depicts.freshSession
  freshBinding := depicts.freshBinding

end Freeing

section Detaching

/-- A session without connections is unlinked and freed. -/
theorem dropSession (linked : Linked table) {address : Nat} {node : SessionNode}
    {session : Session} (stored : memory.sessions address = some node)
    (listed : table.sessions address = some session)
    (record : node.record = session.record) (empty : session.connections = []) :
    ∃ after, memory.dropSession address node = some after ∧
      Depicts after (SessionTable.freeSession table address session) := by
  have sameId : node.id = session.id := congrArg Session.id record
  have inBucket : address ∈ table.sessionBuckets (hashSessionId session.id) :=
    (linked.sessionIndex.mem_iff _ _).mpr (keyOf_eq_some.mpr ⟨session, listed, rfl⟩)
  obtain ⟨front, rest, split⟩ := List.append_of_mem inBucket
  have apart := linked.sessionIndex.apart
  have chain := depicts.sessionChains (hashSessionId session.id)
  have enough := chain.length_le (depicts.isSome_hashLinks linked)
  rw [split] at chain enough
  have unlinked := depicts.writeHashLink apart split stored
  have freed := unlinked.freeSession (by exact listed) empty
    (depicts.sessionChains.outside_unlinked apart split)
  rw [SessionMemory.dropSession, sameId]
  dsimp only
  rw [chain.seekLink_node enough]
  dsimp only
  rw [if_pos chain.linkValue_eq]
  refine ⟨_, rfl, ?_⟩
  rw [SessionTable.freeSession, split, chain.erase_node]
  exact freed

omit depicts in
/-- Unlinking a binding does not write to it. -/
theorem bindings_writeFdLink {front : List Nat} {target : Nat} (fresh : target ∉ front)
    (bucket : Nat) (value : Option Nat) :
    (memory.writeFdLink bucket value front.getLast?).bindings target =
      memory.bindings target := by
  cases isLast : front.getLast? with
  | none => rfl
  | some last =>
      refine Function.update_of_ne ?_ _ _
      rintro rfl
      exact fresh (List.mem_of_getLast? isLast)

/-- A binding is unlinked from the list of its session. -/
theorem disconnect (apart : Apart (connectionsOf table))
    (free : ∀ address, table.freshBinding ≤ address → table.bindings address = none)
    {target address : Nat} {node : SessionNode} {binding : BindingNode}
    {session : Session} (stored : memory.bindings target = some binding)
    (isNode : memory.sessions address = some node)
    (listed : table.sessions address = some session)
    (connected : target ∈ session.connections) :
    ∃ after, memory.disconnect address target node binding = some after ∧
      Depicts after (SessionTable.setSession table address
        { session with connections := session.connections.erase target }) := by
  obtain ⟨front, rest, split⟩ := List.append_of_mem connected
  have chain := depicts.connectionChains address
  have head : memory.connectionHeads address = node.connections := by
    rw [connectionHeads, isNode]
    rfl
  rw [connectionsOf_eq listed, split, head] at chain
  have enough := depicts.length_le_freshBinding chain free
  rw [SessionMemory.disconnect, chain.seekLink_node enough]
  dsimp only
  rw [if_pos chain.linkValue_eq]
  refine ⟨_, rfl, ?_⟩
  rw [split, chain.erase_node]
  exact depicts.writeConnectionLink apart listed split stored

omit depicts in
/-- The last part of `session_detach_fd`. -/
theorem freeBinding_eq {disconnected : SessionMemory} (linked : Linked table)
    {target : Nat}
    {binding : ConnectionBinding} {session : Session} {unlinked : Nat → List Nat}
    (stored : table.bindings target = some binding)
    (listed : table.sessions binding.session = some session)
    (isUnlinked : unlinked = Function.update table.fdBuckets (hashFd binding.clientFd)
      ((table.fdBuckets (hashFd binding.clientFd)).erase target))
    (isDisconnected : Depicts disconnected (SessionTable.setSession
      { table with fdBuckets := unlinked } binding.session
      { session with connections := session.connections.erase target })) :
    ∃ after, disconnected.freeBinding binding.session target = some after ∧
      Depicts after (dropIfUnused (SessionTable.unbindFd table target binding session)
        binding.session (SessionTable.disconnect session target)) := by
  have linkedAfter := linked.unbindFd stored listed
  have listedNow : (SessionTable.setSession { table with fdBuckets := unlinked }
      binding.session
      { session with connections := session.connections.erase target }).sessions
        binding.session =
      some { session with connections := session.connections.erase target } :=
    Function.update_self ..
  obtain ⟨node, isNode, record⟩ := isDisconnected.node_of_session listedNow
  have shortened : SessionNode.record
      { node with connectionCount := node.connectionCount - 1 } =
      (SessionTable.disconnect session target).record := by
    simp only [SessionNode.record, Session.record, SessionTable.disconnect,
      Session.mk.injEq] at record ⊢
    simp [record]
  have isTable : SessionTable.setSession (SessionTable.setSession
      { table with fdBuckets := unlinked } binding.session
      { session with connections := session.connections.erase target })
      binding.session (SessionTable.disconnect session target) =
      { SessionTable.unbindFd table target binding session with
        bindings := table.bindings } := by
    simp [SessionTable.setSession, SessionTable.unbindFd, isUnlinked]
  have counted : Depicts (disconnected.setSession binding.session
      { node with connectionCount := node.connectionCount - 1 })
      { SessionTable.unbindFd table target binding session with
        bindings := table.bindings } := by
    rw [← isTable]
    exact isDisconnected.setSession isNode listedNow rfl rfl rfl shortened
  have unfiled {κ : Type} {key : ConnectionBinding → κ} {bucket : κ}
      (filed : keyOf (SessionTable.unbindFd table target binding session).bindings key
        target = some bucket) : False := by
    simp [SessionTable.unbindFd, keyOf] at filed
  have freed := counted.freeBinding
    (fun bucket inside => unfiled ((linkedAfter.fdIndex.mem_iff bucket target).mp inside))
    fun address inside =>
      unfiled ((linkedAfter.connectionIndex.mem_iff address target).mp inside)
  have listedAfter : (SessionTable.unbindFd table target binding session).sessions
      binding.session = some (SessionTable.disconnect session target) :=
    Function.update_self ..
  have sameCount : node.connectionCount - 1 =
      (SessionTable.disconnect session target).connectionCount :=
    congrArg Session.connectionCount shortened
  rw [SessionMemory.freeBinding, isNode]
  dsimp only
  by_cases unused : node.connectionCount - 1 = 0
  · rw [if_pos unused, dropIfUnused, if_pos (sameCount.symm.trans unused)]
    refine freed.dropSession linkedAfter (Function.update_self ..) listedAfter shortened ?_
    refine List.eq_nil_of_length_eq_zero ?_
    rw [← linkedAfter.connectionCount_eq _ _ listedAfter, ← sameCount, unused]
  · rw [if_neg unused, dropIfUnused, if_neg fun isZero => unused (sameCount.trans isZero)]
    exact ⟨_, rfl, freed⟩

theorem sessionDetachFd (linked : Linked table) (clientFd : Int) :
    ∃ after, memory.sessionDetachFd clientFd = some after ∧
      Depicts after (table.sessionDetachFd clientFd) ∧
      (table.findBinding clientFd = none → after = memory) := by
  rw [SessionMemory.sessionDetachFd, SessionTable.sessionDetachFd]
  by_cases negative : clientFd < 0
  · rw [if_pos negative, if_pos negative]
    exact ⟨memory, rfl, depicts, fun _ => rfl⟩
  rw [if_neg negative, if_neg negative]
  dsimp only
  have chain := depicts.fdChains (hashFd clientFd)
  have enough := Nat.lt_succ_of_le
    (depicts.length_le_freshBinding chain linked.freshBinding_free)
  have start : linkValue memory.fdLinks (memory.fdBuckets (hashFd clientFd)) none =
    some (memory.fdBuckets (hashFd clientFd)) := rfl
  simp only [depicts.any_binding]
  cases found : table.findBinding clientFd with
  | none =>
      have passes (address : Nat) (listed : address ∈ table.fdBuckets (hashFd clientFd)) :
          ((table.bindings address).any fun binding => binding.clientFd = clientFd) =
            false :=
        Bool.eq_false_of_not_eq_true (List.find?_eq_none.mp found address listed)
      obtain ⟨link, sought, value⟩ := chain.seekLink_end start passes enough
      rw [sought]
      dsimp only
      rw [value]
      exact ⟨memory, rfl, depicts, fun _ => rfl⟩
  | some target =>
      obtain ⟨isTarget, front, rest, split, passes⟩ :=
        List.find?_eq_some_iff_append.mp found
      rw [split] at chain enough
      obtain ⟨binding, stored, isFd⟩ := linked.findBinding_eq_some.mp found
      subst isFd
      obtain ⟨session, listed, connected⟩ := linked.session_of_binding stored
      obtain ⟨node, isNode, rfl⟩ := depicts.node_of_binding stored
      have sought := chain.seekLink_eq start
        (fun address inFront => by simpa using passes address inFront) isTarget
        (lt_of_le_of_lt (by rw [List.length_append]; omega) enough)
      rw [Option.or_none] at sought
      rw [sought]
      dsimp only
      rw [chain.linkValue_eq]
      dsimp only
      rw [isNode, stored]
      dsimp only
      have unlinked := depicts.writeFdLink linked.fdIndex.apart split isNode
      have isBinding : (memory.writeFdLink (hashFd node.clientFd) node.fdNext
          front.getLast?).bindings target = some node :=
        (bindings_writeFdLink chain.notMem_front _ _).trans isNode
      obtain ⟨owner, isOwner, -⟩ := unlinked.node_of_session listed
      obtain ⟨disconnected, isDisconnected, depictsNow⟩ := unlinked.disconnect
        linked.connectionIndex.apart linked.freshBinding_free isBinding isOwner listed
        connected
      obtain ⟨after, isAfter, depictsAfter⟩ := freeBinding_eq linked stored listed
        (by rw [split, chain.erase_node]) depictsNow
      refine ⟨after, ?_, ?_, nofun⟩
      · have ownerStored : (memory.writeFdLink (hashFd node.binding.clientFd) node.fdNext
            front.getLast?).sessions node.session = some owner := isOwner
        have isShortened : (memory.writeFdLink (hashFd node.binding.clientFd) node.fdNext
            front.getLast?).disconnect node.session target owner node =
              some disconnected := isDisconnected
        rw [ownerStored]
        dsimp only
        rw [isShortened]
        exact isAfter
      · rw [listed]
        exact depictsAfter

end Detaching

section Calls

omit depicts in
/-- In memory a call answers as on the table; one that fails changes nothing. -/
def Simulates {α : Type} (memory : SessionMemory) (fails : α)
    (result : Option (α × SessionMemory)) (expected : α × SessionTable) : Prop :=
  ∃ after, result = some (expected.1, after) ∧ Depicts after expected.2 ∧
    (expected.1 = fails → after = memory)

theorem simulates_failure {α : Type} (fails : α) :
    Simulates memory fails (some (fails, memory)) (fails, table) :=
  ⟨memory, rfl, depicts, fun _ => rfl⟩

variable (linked : Linked table)

include linked

theorem createLoop (clientFd : Int) (userId : UInt64) (username : Bytes)
    (rootPathId : UInt64) (draws : List Draw) :
    Simulates memory none
      (memory.createLoop clientFd userId username rootPathId draws)
      (table.createLoop clientFd userId username rootPathId draws) := by
  have refused := @simulates_failure memory table depicts (Option SessionId) none
  induction draws with
  | nil => exact refused
  | cons draw draws inductionHypothesis =>
      rw [SessionMemory.createLoop, SessionTable.createLoop]
      cases generated : generateSessionId draw with
      | none => exact refused
      | some sessionId =>
      cases draw.now with
      | none => exact refused
      | some now =>
      dsimp only
      rw [depicts.findBinding_eq linked]
      cases table.findBinding clientFd with
      | some bindingAddress => exact refused
      | none =>
      dsimp only
      rw [depicts.findSession_eq linked]
      cases unused : table.findSession sessionId with
      | some address => exact inductionHypothesis
      | none =>
          refine ⟨_, rfl, ?_, nofun⟩
          exact depicts.insertSession linked clientFd unused
            (generateSessionId_eq_some generated) rfl rfl rfl rfl

theorem sessionCreate (clientFd : Int) (userId : UInt64) (username : Bytes)
    (rootPathId : UInt64) (allocated : Bool) (draws : List Draw) :
    Simulates memory none
      (memory.sessionCreate clientFd userId username rootPathId allocated draws)
      (table.sessionCreate clientFd userId username rootPathId allocated draws) := by
  rw [SessionMemory.sessionCreate, SessionTable.sessionCreate]
  split_ifs
  · exact depicts.simulates_failure none
  · exact depicts.simulates_failure none
  · exact depicts.createLoop linked clientFd userId username rootPathId _

omit linked in
/-- A session that was found is in memory, with a context of the same contents. -/
theorem touchSession {address : Nat} {node : SessionNode} {session : Session}
    (stored : memory.sessions address = some node)
    (listed : table.sessions address = some session)
    (record : node.record = session.record) (now : Timespec) :
    ∃ after, memory.touchSession address now =
        some (some (copyContext session), after) ∧
      Depicts after (table.touchSession address now) := by
  have sameContext : copyContext node.record = copyContext session := by
    rw [record]
    rfl
  have touched : SessionNode.record { node with lastActive := now } =
      Session.record { session with lastActive := now } := by
    simp only [SessionNode.record, Session.record, Session.mk.injEq] at record ⊢
    simp [record]
  rw [SessionMemory.touchSession, stored]
  dsimp only
  rw [sameContext]
  refine ⟨_, rfl, ?_⟩
  rw [touchSession_eq listed]
  exact depicts.setSession stored listed rfl rfl rfl touched

omit depicts linked in
theorem any_elsewhere {bindingAddress : Nat} {node : BindingNode}
    (isBinding : table.bindings bindingAddress = some node.binding) (address : Nat) :
    ((table.bindings bindingAddress).any fun binding => binding.session ≠ address) =
      true ↔ node.session ≠ address := by
  rw [isBinding, Option.any_some, decide_eq_true_eq]
  rfl

theorem sessionAuthorize (clientFd : Int) (sessionId : SessionId)
    (now : Option Timespec) (allocated : Bool) :
    Simulates memory none
      (memory.sessionAuthorize clientFd sessionId now allocated)
      (table.sessionAuthorize clientFd sessionId now allocated) := by
  have refused := @simulates_failure memory table depicts (Option SessionContext) none
  unfold SessionMemory.sessionAuthorize SessionTable.sessionAuthorize
  by_cases invalid : clientFd < 0 ∨ sessionId.isEmpty
  · rw [if_pos invalid, if_pos invalid]
    exact refused
  rw [if_neg invalid, if_neg invalid]
  cases now with
  | none => exact refused
  | some now =>
  dsimp only
  rw [depicts.findSession_eq linked]
  cases found : table.findSession sessionId with
  | none => exact refused
  | some address =>
  obtain ⟨session, listed, -⟩ := linked.findSession_eq_some.mp found
  obtain ⟨node, stored, record⟩ := depicts.node_of_session listed
  dsimp only
  rw [depicts.findBinding_eq linked, listed]
  cases bound : table.findBinding clientFd with
  | some bindingAddress =>
      obtain ⟨binding, isBinding, -⟩ := linked.findBinding_eq_some.mp bound
      obtain ⟨bindingNode, isNode, rfl⟩ := depicts.node_of_binding isBinding
      dsimp only
      rw [isNode]
      dsimp only
      by_cases elsewhere : bindingNode.session ≠ address
      · rw [if_pos elsewhere, if_pos ((any_elsewhere isBinding address).mpr elsewhere)]
        exact refused
      · rw [if_neg elsewhere, if_neg ((any_elsewhere isBinding address).not.mpr elsewhere)]
        obtain ⟨after, isAfter, depictsAfter⟩ :=
          depicts.touchSession stored listed record now
        exact ⟨after, isAfter, depictsAfter, nofun⟩
  | none =>
      cases allocated with
      | false => exact refused
      | true =>
          rw [stored]
          dsimp only
          have bound := depicts.bindFd linked clientFd stored listed record
          have boundNode := bound.node_of_session
            (table.bindFd_sessions clientFd address session)
          obtain ⟨node, isNode, connected⟩ := boundNode
          obtain ⟨after, isAfter, depictsAfter⟩ :=
            bound.touchSession isNode (table.bindFd_sessions clientFd address session)
              connected now
          exact ⟨after, isAfter, depictsAfter, nofun⟩

theorem sessionUpdateCwd (clientFd : Int) (sessionId : SessionId) (cwdId : UInt64)
    (cwd : Bytes) (now : Option Timespec) :
    Simulates memory false
      (memory.sessionUpdateCwd clientFd sessionId cwdId cwd now)
      (table.sessionUpdateCwd clientFd sessionId cwdId cwd now) := by
  have refused := @simulates_failure memory table depicts Bool false
  unfold SessionMemory.sessionUpdateCwd SessionTable.sessionUpdateCwd
  by_cases invalid : clientFd < 0 ∨ sessionId.isEmpty ∨ cwd.head? ≠ some 47 ∨
      pathMax ≤ cwd.length
  · rw [if_pos invalid, if_pos invalid]
    exact refused
  rw [if_neg invalid, if_neg invalid]
  cases now with
  | none => exact refused
  | some now =>
  dsimp only
  rw [depicts.findSession_eq linked, depicts.findBinding_eq linked]
  cases found : table.findSession sessionId with
  | none => exact refused
  | some address =>
  cases bound : table.findBinding clientFd with
  | none => exact refused
  | some bindingAddress =>
  obtain ⟨session, listed, -⟩ := linked.findSession_eq_some.mp found
  obtain ⟨node, stored, record⟩ := depicts.node_of_session listed
  obtain ⟨binding, isBinding, -⟩ := linked.findBinding_eq_some.mp bound
  obtain ⟨bindingNode, isNode, rfl⟩ := depicts.node_of_binding isBinding
  dsimp only
  rw [isNode, stored, listed]
  dsimp only [Option.map_some]
  by_cases elsewhere : bindingNode.session ≠ address
  · rw [if_pos elsewhere, if_pos ((any_elsewhere isBinding address).mpr elsewhere)]
    exact refused
  · rw [if_neg elsewhere, if_neg ((any_elsewhere isBinding address).not.mpr elsewhere)]
    have moved : SessionNode.record
        { node with cwdId, cwd := cwd.take (pathMax - 1), lastActive := now } =
        Session.record
          { session with cwdId, cwd := cwd.take (pathMax - 1), lastActive := now } := by
      simp only [SessionNode.record, Session.record, Session.mk.injEq] at record ⊢
      simp [record]
    exact ⟨_, rfl, depicts.setSession stored listed rfl rfl rfl moved, nofun⟩

end Calls

end Depicts

end SessionMemory

end CloudDrive
