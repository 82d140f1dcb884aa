import CloudDrive.Runs
import CloudDrive.SessionRepresentation

/-!
# The links of the session table

After every sequence of calls on a new table the chains in memory hold every session
and every binding exactly where they belong, and no call ever follows a dangling
pointer.
-/

namespace CloudDrive

open SessionTable

/-- The result of the call is -1. -/
def SessionEvent.fails : SessionEvent → Bool
  | created _ _ _ _ none => true
  | authorized _ _ none => true
  | cwdUpdated _ _ _ _ false => true
  | _ => false

namespace SessionMemory

/-- The memory after one call. -/
def step (memory : SessionMemory) (call : SessionCall) : Option SessionMemory :=
  (memory.perform call).map Prod.snd

/-- What holds of the table in memory between calls. -/
structure WellLinked (memory : SessionMemory) : Prop where
  sessionsFiled : FiledOnce memory.hashLinks memory.sessionBuckets
    (keyOf memory.sessions fun node => hashSessionId node.id)
  id_injective : ∀ first second firstNode secondNode,
    memory.sessions first = some firstNode → memory.sessions second = some secondNode →
      firstNode.id = secondNode.id → first = second
  id_nonempty : ∀ address node, memory.sessions address = some node →
    node.id ≠ SessionId.empty
  bindingsFiled : FiledOnce memory.fdLinks memory.fdBuckets
    (keyOf memory.bindings fun node => hashFd node.clientFd)
  connectionsFiled : FiledOnce memory.connectionLinks memory.connectionHeads
    (keyOf memory.bindings BindingNode.session)
  session_allocated : ∀ address node, memory.bindings address = some node →
    (memory.sessions node.session).isSome
  fd_injective : ∀ first second firstNode secondNode,
    memory.bindings first = some firstNode → memory.bindings second = some secondNode →
      firstNode.clientFd = secondNode.clientFd → first = second
  connectionCount_eq : ∀ address node, memory.sessions address = some node →
    1 ≤ node.connectionCount ∧ ∃ connections,
      Chain memory.connectionLinks node.connections connections ∧
      node.connectionCount = connections.length
  sessionCount_eq : ∃ live : List Nat, live.Nodup ∧
    (∀ address, address ∈ live ↔ (memory.sessions address).isSome) ∧
      memory.sessionCount = live.length

namespace Depicts

variable {memory : SessionMemory} {table : SessionTable}
  (depicts : Depicts memory table)

include depicts

theorem session_of_node {address : Nat} {node : SessionNode}
    (stored : memory.sessions address = some node) :
    ∃ session, table.sessions address = some session ∧
      session.record = node.record := by
  have same := congrFun depicts.records address
  rw [keyOf, keyOf, stored] at same
  exact Option.map_eq_some_iff.mp same.symm

theorem binding_of_node {address : Nat} {node : BindingNode}
    (stored : memory.bindings address = some node) :
    table.bindings address = some node.binding := by
  rw [← depicts.bindings, keyOf, stored]
  rfl

theorem isSome_sessions (address : Nat) :
    (memory.sessions address).isSome = (table.sessions address).isSome := by
  have same := congrArg Option.isSome (congrFun depicts.records address)
  rwa [keyOf, keyOf, Option.isSome_map, Option.isSome_map] at same

/-- A key of the sessions that does not depend on the list of connections. -/
theorem keyOf_sessions {κ : Type} (key : Session → κ) :
    keyOf memory.sessions (fun node => key node.record) =
      keyOf table.sessions fun session => key session.record := by
  funext address
  have same := congrArg (Option.map key) (congrFun depicts.records address)
  rwa [keyOf, keyOf, Option.map_map, Option.map_map] at same

theorem keyOf_bindings {κ : Type} (key : ConnectionBinding → κ) :
    keyOf memory.bindings (fun node => key node.binding) = keyOf table.bindings key := by
  funext address
  rw [← depicts.bindings, keyOf, keyOf, keyOf, Option.map_map]
  rfl

/-- The lists of a table that is well formed are well linked in memory. -/
theorem wellLinked (wellFormed : WellFormed table) : WellLinked memory where
  sessionsFiled := by
    have sameKey : (keyOf memory.sessions fun node => hashSessionId node.id) =
        keyOf table.sessions fun session => hashSessionId session.id :=
      depicts.keyOf_sessions fun session => hashSessionId session.id
    rw [sameKey]
    exact depicts.sessionChains.filedOnce wellFormed.sessionIndex
  id_injective := by
    intro first second firstNode secondNode firstStored secondStored same
    obtain ⟨firstSession, isFirst, firstRecord⟩ := depicts.session_of_node firstStored
    obtain ⟨secondSession, isSecond, secondRecord⟩ :=
      depicts.session_of_node secondStored
    refine wellFormed.id_injective first second firstSession secondSession isFirst
      isSecond ?_
    have firstId := congrArg Session.id firstRecord
    have secondId := congrArg Session.id secondRecord
    exact firstId.trans (same.trans secondId.symm)
  id_nonempty := by
    intro address node stored
    obtain ⟨session, isSession, record⟩ := depicts.session_of_node stored
    have sameId : session.id = node.id := congrArg Session.id record
    rw [← sameId]
    exact wellFormed.id_nonempty address session isSession
  bindingsFiled := by
    have filed := depicts.fdChains.filedOnce wellFormed.fdIndex
    rwa [← depicts.keyOf_bindings] at filed
  connectionsFiled := by
    have filed := depicts.connectionChains.filedOnce wellFormed.connectionIndex
    rwa [← depicts.keyOf_bindings] at filed
  session_allocated := by
    intro address node stored
    obtain ⟨session, isSession, -⟩ :=
      wellFormed.session_of_binding (depicts.binding_of_node stored)
    rw [depicts.isSome_sessions]
    exact Option.isSome_of_eq_some isSession
  fd_injective := fun first second firstNode secondNode firstStored secondStored =>
    wellFormed.fd_injective first second firstNode.binding secondNode.binding
      (depicts.binding_of_node firstStored) (depicts.binding_of_node secondStored)
  connectionCount_eq := by
    intro address node stored
    obtain ⟨session, isSession, record⟩ := depicts.session_of_node stored
    have sameCount : session.connectionCount = node.connectionCount :=
      congrArg Session.connectionCount record
    have counted := wellFormed.connectionCount_eq address session isSession
    have connected := wellFormed.connected address session isSession
    have chain := depicts.connectionChains address
    rw [connectionHeads, stored, connectionsOf, isSession] at chain
    refine ⟨?_, session.connections, chain, sameCount.symm.trans counted⟩
    rw [← sameCount, counted]
    exact List.length_pos_iff.mpr connected
  sessionCount_eq := by
    obtain ⟨live, once, isLive, counted⟩ := wellFormed.sessionCount_eq
    refine ⟨live, once, fun address => ?_, depicts.sessionCount.trans counted.symm⟩
    rw [isLive, depicts.isSome_sessions]

/-- A call in memory answers as on the table, and one that fails or that finds nothing
to detach changes nothing. -/
theorem perform (linked : Linked table) (call : SessionCall) :
    ∃ after, memory.perform call = some ((call.perform table).1, after) ∧
      Depicts after (call.perform table).2 ∧
      ((call.perform table).1.fails → after = memory) ∧
      ∀ clientFd, call = .detach clientFd → table.findBinding clientFd = none →
        after = memory := by
  cases call with
  | create clientFd userId username rootPathId allocated draws =>
      obtain ⟨after, result, depictsAfter, unchanged⟩ := depicts.sessionCreate linked
        clientFd userId username rootPathId allocated draws
      refine ⟨after, ?_, depictsAfter, ?_, fun _ isDetach => by cases isDetach⟩
      · rw [SessionMemory.perform, result]
        rfl
      intro failed
      apply unchanged
      cases answer : (table.sessionCreate clientFd userId username rootPathId allocated
        draws).1 with
      | none => rfl
      | some sessionId => simp [SessionCall.perform, answer, SessionEvent.fails] at failed
  | authorize clientFd sessionId now allocated =>
      obtain ⟨after, result, depictsAfter, unchanged⟩ := depicts.sessionAuthorize linked
        clientFd sessionId now allocated
      refine ⟨after, ?_, depictsAfter, ?_, fun _ isDetach => by cases isDetach⟩
      · rw [SessionMemory.perform, result]
        rfl
      intro failed
      apply unchanged
      cases answer : (table.sessionAuthorize clientFd sessionId now allocated).1 with
      | none => rfl
      | some context => simp [SessionCall.perform, answer, SessionEvent.fails] at failed
  | updateCwd clientFd sessionId cwdId cwd now =>
      obtain ⟨after, result, depictsAfter, unchanged⟩ := depicts.sessionUpdateCwd linked
        clientFd sessionId cwdId cwd now
      refine ⟨after, ?_, depictsAfter, ?_, fun _ isDetach => by cases isDetach⟩
      · rw [SessionMemory.perform, result]
        rfl
      intro failed
      apply unchanged
      cases answer : (table.sessionUpdateCwd clientFd sessionId cwdId cwd now).1 with
      | false => rfl
      | true => simp [SessionCall.perform, answer, SessionEvent.fails] at failed
  | detach clientFd =>
      obtain ⟨after, result, depictsAfter, unchanged⟩ :=
        depicts.sessionDetachFd linked clientFd
      refine ⟨after, ?_, depictsAfter, ?_, ?_⟩
      · rw [SessionMemory.perform, result]
        rfl
      · intro failed
        cases failed
      · rintro detached ⟨rfl⟩ unbound
        exact unchanged unbound

end Depicts

theorem run_depicts (calls : List SessionCall) :
    ∃ memory, runFrom step create calls = some memory ∧
      Depicts memory (SessionCall.run calls).2 := by
  induction calls using List.reverseRecOn with
  | nil => exact ⟨create, rfl, depicts_create⟩
  | append_singleton calls call inductionHypothesis =>
      obtain ⟨memory, reached, depicts⟩ := inductionHypothesis
      obtain ⟨after, performed, depictsAfter, -⟩ := depicts.perform
        (SessionCall.run_tracks calls).wellFormed.toLinked call
      refine ⟨after, runFrom_append.mpr ⟨memory, reached, ?_⟩, ?_⟩
      · rw [runFrom, step, performed]
        rfl
      · rw [SessionCall.run_append]
        exact depictsAfter

/-- Every sequence of calls goes through in memory and leaves the table well linked;
then a call that returns -1 and a detach of an unbound descriptor change nothing. -/
theorem run_wellLinked (calls : List SessionCall) :
    ∃ memory, runFrom step create calls = some memory ∧ memory.WellLinked ∧
      ∀ call, ∃ event after, memory.perform call = some (event, after) ∧
        (event.fails → after = memory) ∧
        ∀ clientFd, call = .detach clientFd →
          (∀ address node, memory.bindings address = some node →
            node.clientFd ≠ clientFd) → after = memory := by
  obtain ⟨memory, reached, depicts⟩ := run_depicts calls
  have wellFormed := (SessionCall.run_tracks calls).wellFormed
  refine ⟨memory, reached, depicts.wellLinked wellFormed, fun call => ?_⟩
  obtain ⟨after, performed, -, failed, unbound⟩ :=
    depicts.perform wellFormed.toLinked call
  refine ⟨_, after, performed, failed, fun clientFd isDetach absent => ?_⟩
  refine unbound clientFd isDetach (wellFormed.findBinding_eq_none.mpr ?_)
  intro address binding stored
  obtain ⟨node, isNode, rfl⟩ := depicts.node_of_binding stored
  exact absent address node isNode

/-- The events so far and the memory, after one more call. -/
def record (state : List SessionEvent × SessionMemory) (call : SessionCall) :
    Option (List SessionEvent × SessionMemory) :=
  (state.2.perform call).map fun (event, after) => (state.1 ++ [event], after)

theorem run_records (calls : List SessionCall) :
    ∃ memory, runFrom record ([], create) calls =
        some ((SessionCall.run calls).1, memory) ∧
      Depicts memory (SessionCall.run calls).2 := by
  induction calls using List.reverseRecOn with
  | nil => exact ⟨create, rfl, depicts_create⟩
  | append_singleton calls call inductionHypothesis =>
      obtain ⟨memory, reached, depicts⟩ := inductionHypothesis
      obtain ⟨after, performed, depictsAfter, -⟩ := depicts.perform
        (SessionCall.run_tracks calls).wellFormed.toLinked call
      rw [SessionCall.run_append]
      refine ⟨after, runFrom_append.mpr ⟨_, reached, ?_⟩, depictsAfter⟩
      rw [runFrom, record, performed]
      rfl

/-- Whatever the calls before it were, `session_authorize` finds in the chains in
memory exactly the sessions that are live according to the answers so far. -/
theorem memory_authorizes_live (calls : List SessionCall) :
    ∃ history memory, runFrom record ([], create) calls = some (history, memory) ∧
      ∀ clientFd sessionId now context,
        (∃ after, memory.sessionAuthorize clientFd sessionId (some now) true =
          some (some context, after)) ↔
        0 ≤ clientFd ∧ sessionId ≠ SessionId.empty ∧
          SessionEvent.LiveSince history sessionId context ∧
          (SessionEvent.boundAfter history clientFd = none ∨
            SessionEvent.boundAfter history clientFd = some sessionId) := by
  obtain ⟨memory, reached, depicts⟩ := run_records calls
  refine ⟨_, memory, reached, fun clientFd sessionId now context => ?_⟩
  obtain ⟨after, answered, -⟩ := depicts.sessionAuthorize
    (SessionCall.run_tracks calls).wellFormed.toLinked clientFd sessionId (some now) true
  rw [← SessionCall.sessionAuthorize_run_iff calls clientFd sessionId now, answered]
  simp

end SessionMemory

end CloudDrive
