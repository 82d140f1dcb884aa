import CloudDrive.HandlerResponses
import CloudDrive.Runs
import Mathlib.Data.List.Sort
import Mathlib.Data.List.Count

/-!
# A control connection

The requests a client sends on one connection and the packets the server
writes on it.  A descriptor is watched by epoll or served by one worker, never
both, so the requests of a connection are served one after the other.  Between
two calls of a handler the rest of the server may do anything, which the
answers leave open.
-/

namespace CloudDrive

structure Connection where
  /-- The requests the client has sent and the server has not read. -/
  incoming : List Packet
  isOpen : Bool
  /-- What is left to do for the request that is being served. -/
  serving : Option (Handler Bool)
  /-- How many requests have been served. -/
  served : Nat
  /-- The calls made so far, each with the number of its request. -/
  log : List (Nat × Prog.Exchange TaskOp.Answer)

inductive ConnectionAction where
  /-- The client sends a request. -/
  | request (packet : Packet)
  /-- The main loop reads the next request. -/
  | read
  /-- The next call of the request being served, with its answer. -/
  | call (answer : (op : TaskOp) → TaskOp.Answer op)
  /-- The request has been served. -/
  | finish
  /-- The client hangs up, or the connection has been idle for too long. -/
  | hangUp

namespace Connection

def fresh : Connection where
  incoming := []
  isOpen := true
  serving := none
  served := 0
  log := []

def isTransfer (packet : Packet) : Bool :=
  packet.type = CmdType.putsReq.code || packet.type = CmdType.getsReq.code

def step (connection : Connection) : ConnectionAction → Option Connection
  | .request packet =>
      if isTransfer packet then none
      else
        some { connection with incoming := connection.incoming ++ [packet] }
  | .read =>
      match connection.isOpen, connection.serving, connection.incoming with
      | true, none, packet :: incoming =>
          some { connection with incoming, serving := some (serveRequest packet) }
      | _, _, _ => none
  | .call answer =>
      match connection.serving with
      | some (.call op next) =>
          some { connection with
            serving := some (next (answer op))
            log := connection.log ++ [(connection.served, ⟨op, answer op⟩)] }
      | _ => none
  | .finish =>
      match connection.serving with
      | some (.done stays) =>
          some { connection with
            isOpen := connection.isOpen && stays
            serving := none
            served := connection.served + 1 }
      | _ => none
  | .hangUp =>
      match connection.serving with
      | none => some { connection with isOpen := false }
      | some _ => none

/-- The numbers of the requests for which packets were written, in the order
of the packets. -/
def responses (connection : Connection) : List Nat :=
  (connection.log.filter fun entry => isResponse entry.2).map Prod.fst

/-- The numbers of the requests that met a failing unlink. -/
def failedUnlinks (connection : Connection) : List Nat :=
  (connection.log.filter fun entry => isFailedUnlink entry.2).map Prod.fst

/-- Packets are written in the order of the requests.  A served request has one
packet, and one more for each failed unlink; what the request being served
still has to write completes its account. -/
structure Accounted (connection : Connection) : Prop where
  ordered : (connection.log.map Prod.fst).Pairwise (· ≤ ·)
  started : ∀ entry ∈ connection.log, entry.1 ≤ connection.served
  idle : connection.serving = none →
    ∀ entry ∈ connection.log, entry.1 < connection.served
  settled : ∀ request < connection.served,
    connection.responses.count request =
      1 + connection.failedUnlinks.count request
  owed : ∀ program, connection.serving = some program →
    program.Costs responseWeight
      (1 + connection.failedUnlinks.count connection.served -
        connection.responses.count connection.served)

variable {connection next : Connection}

theorem accounted_fresh : Accounted fresh where
  ordered := .nil
  started := by simp [fresh]
  idle := by simp [fresh]
  settled := by simp [fresh]
  owed := by simp [fresh]

/-- Nothing has been written for a request that has not been read. -/
theorem Accounted.count_served (accounted : Accounted connection)
    (idle : connection.serving = none) :
    connection.responses.count connection.served = 0 ∧
      connection.failedUnlinks.count connection.served = 0 := by
  have before := accounted.idle idle
  constructor
  all_goals
    refine List.count_eq_zero.mpr fun recorded => ?_
    obtain ⟨entry, kept, same⟩ := List.mem_map.mp recorded
    have earlier := before entry (List.mem_filter.mp kept).1
    omega

theorem Accounted.read (accounted : Accounted connection)
    (idle : connection.serving = none) (incoming : List Packet)
    (packet : Packet) :
    Accounted
      { connection with incoming, serving := some (serveRequest packet) } where
  ordered := accounted.ordered
  started := accounted.started
  idle := nofun
  settled := accounted.settled
  owed program serving := by
    cases serving
    obtain ⟨noResponse, noFailure⟩ := accounted.count_served idle
    change Prog.Costs responseWeight _
      (1 + (connection.failedUnlinks.count connection.served : Int) -
        connection.responses.count connection.served)
    rw [noResponse, noFailure]
    exact serveRequest_costs packet

/-- The tags of the entries that have a property, after one more entry. -/
theorem tags_append (log : List (Nat × Prog.Exchange TaskOp.Answer))
    (holds : Prog.Exchange TaskOp.Answer → Bool) (served : Nat)
    (exchange : Prog.Exchange TaskOp.Answer) (request : Nat) :
    (((log ++ [(served, exchange)]).filter fun entry => holds entry.2).map
      Prod.fst).count request =
    ((log.filter fun entry => holds entry.2).map Prod.fst).count request +
      if holds exchange ∧ served = request then 1 else 0 := by
  rw [List.filter_append, List.map_append, List.count_append]
  by_cases kept : holds exchange
  · by_cases same : served = request <;> simp [kept, same]
  · simp [kept]

theorem Accounted.call (accounted : Accounted connection) {op : TaskOp}
    {rest : TaskOp.Answer op → Handler Bool}
    (serving : connection.serving = some (.call op rest))
    (answer : TaskOp.Answer op) :
    Accounted
      { connection with
        serving := some (rest answer)
        log := connection.log ++ [(connection.served, ⟨op, answer⟩)] } where
  ordered := by
    simp only [List.map_append, List.map_cons, List.map_nil]
    refine List.pairwise_append.mpr ⟨accounted.ordered, by simp, ?_⟩
    intro earlier member later last
    obtain ⟨entry, recorded, rfl⟩ := List.mem_map.mp member
    rw [List.mem_singleton.mp last]
    exact accounted.started entry recorded
  started := by
    intro entry recorded
    rcases List.mem_append.mp recorded with before | last
    · exact accounted.started entry before
    · rw [List.mem_singleton.mp last]
  idle := nofun
  settled := by
    intro request settled
    have distinct : connection.served ≠ request := Nat.ne_of_gt settled
    simp only [responses, failedUnlinks, tags_append, distinct, and_false,
      if_false, Nat.add_zero]
    exact accounted.settled request settled
  owed program continued := by
    cases continued
    have costs := accounted.owed _ serving answer
    simp only [responses, failedUnlinks, tags_append, and_true] at costs ⊢
    convert costs using 1
    by_cases responded : isResponse ⟨op, answer⟩ = true <;>
      by_cases failed : isFailedUnlink ⟨op, answer⟩ = true <;>
      simp [responseWeight, responded, failed] <;>
      omega

theorem Accounted.finish (accounted : Accounted connection) {stays : Bool}
    (serving : connection.serving = some (.done stays)) :
    Accounted
      { connection with
        isOpen := connection.isOpen && stays
        serving := none
        served := connection.served + 1 } where
  ordered := accounted.ordered
  started entry recorded := Nat.le_succ_of_le (accounted.started entry recorded)
  idle _ entry recorded := Nat.lt_succ_of_le (accounted.started entry recorded)
  settled request settled := by
    rcases Nat.lt_succ_iff_lt_or_eq.mp settled with before | rfl
    · exact accounted.settled request before
    · have costs := accounted.owed _ serving
      rw [Prog.costs_done] at costs
      change connection.responses.count connection.served =
        1 + connection.failedUnlinks.count connection.served
      omega
  owed := nofun

theorem Accounted.step (accounted : Accounted connection)
    {action : ConnectionAction}
    (stepped : connection.step action = some next) : Accounted next := by
  cases action with
  | request packet =>
      simp only [Connection.step] at stepped
      split at stepped
      · cases stepped
      · cases stepped
        exact ⟨accounted.ordered, accounted.started, accounted.idle,
          accounted.settled, accounted.owed⟩
  | read =>
      simp only [Connection.step] at stepped
      split at stepped
      · rename_i packet incoming _ idle _
        cases stepped
        exact accounted.read idle _ _
      · cases stepped
  | call answer =>
      simp only [Connection.step] at stepped
      split at stepped
      · rename_i op rest serving
        cases stepped
        exact accounted.call serving (answer op)
      · cases stepped
  | finish =>
      simp only [Connection.step] at stepped
      split at stepped
      · rename_i stays serving
        cases stepped
        exact accounted.finish serving
      · cases stepped
  | hangUp =>
      simp only [Connection.step] at stepped
      split at stepped
      · cases stepped
        exact ⟨accounted.ordered, accounted.started, accounted.idle,
          accounted.settled, accounted.owed⟩
      · cases stepped

theorem accounted_of_run {actions : List ConnectionAction}
    (run : runFrom step fresh actions = some connection) :
    Accounted connection :=
  runFrom_invariant (fun _ _ _ accounted stepped => accounted.step stepped)
    accounted_fresh run

/-- Whatever the answers are, the request being served is finished after
finitely many calls. -/
theorem exists_finish {program : Handler Bool}
    (serving : connection.serving = some program)
    (answers : Nat → (op : TaskOp) → TaskOp.Answer op) :
    ∃ calls after, runFrom step connection
        ((List.range calls).map (fun call => .call (answers call)) ++
          [.finish]) = some after ∧
      after.served = connection.served + 1 := by
  induction program generalizing connection answers with
  | done stays =>
      exact ⟨0,
        { connection with
          isOpen := connection.isOpen && stays
          serving := none
          served := connection.served + 1 },
        by simp [runFrom, step, serving], rfl⟩
  | call op rest inductionHypothesis =>
      let answered : Connection :=
        { connection with
          serving := some (rest (answers 0 op))
          log := connection.log ++ [(connection.served, ⟨op, answers 0 op⟩)] }
      have stepped : step connection (.call (answers 0)) = some answered := by
        simp [step, serving, answered]
      have continued : answered.serving = some (rest (answers 0 op)) := rfl
      obtain ⟨calls, after, run, finished⟩ := inductionHypothesis
        (answers 0 op) continued fun call => answers (call + 1)
      refine ⟨calls + 1, after, ?_, finished⟩
      rw [List.range_succ_eq_map, List.map_cons, List.map_map,
        List.cons_append, runFrom_cons]
      exact ⟨answered, stepped, run⟩

/-- The responses to the requests served so far are written one for each and in
their order exactly if no unlink failed. -/
theorem Accounted.responses_eq_range (accounted : Accounted connection) :
    connection.responses.filter (· < connection.served) =
        List.range connection.served ↔
      ∀ request ∈ connection.failedUnlinks, connection.served ≤ request := by
  have counted : ∀ request < connection.served,
      (connection.responses.filter (· < connection.served)).count request =
        1 + connection.failedUnlinks.count request := by
    intro request settled
    rw [List.count_filter (by simpa using settled),
      accounted.settled request settled]
  constructor
  · intro exactly request failed
    by_contra unsettled
    have settled : request < connection.served := by omega
    have twice := counted request settled
    rw [exactly, List.count_eq_one_of_mem List.nodup_range
      (List.mem_range.mpr settled)] at twice
    have met := List.count_pos_iff.mpr failed
    omega
  · intro unfailed
    have sorted : (connection.responses.filter (· < connection.served)).Pairwise
        (· ≤ ·) :=
      accounted.ordered.sublist
        (List.filter_sublist.trans (List.filter_sublist.map Prod.fst))
    refine List.Perm.eq_of_pairwise' sorted List.pairwise_le_range ?_
    refine List.perm_iff_count.mpr fun request => ?_
    by_cases settled : request < connection.served
    · rw [counted request settled, List.count_eq_one_of_mem List.nodup_range
        (List.mem_range.mpr settled), List.count_eq_zero.mpr]
      intro failed
      exact absurd (unfailed request failed) (by omega)
    · rw [List.count_eq_zero.mpr (by simp [settled]),
        List.count_eq_zero.mpr (by simpa using settled)]

/-- On every run of a control connection, the i-th packet is the response to
the i-th request, and each served request has one, exactly if no unlink of a
served request failed; and a request that is read is always served. -/
theorem one_response_per_request {actions : List ConnectionAction}
    (run : runFrom step fresh actions = some connection) :
    (connection.responses.filter (· < connection.served) =
        List.range connection.served ↔
      ∀ request ∈ connection.failedUnlinks, connection.served ≤ request) ∧
    ∀ program, connection.serving = some program →
      ∀ answers : Nat → (op : TaskOp) → TaskOp.Answer op,
        ∃ calls after, runFrom step connection
            ((List.range calls).map (fun call => .call (answers call)) ++
              [.finish]) = some after ∧
          after.served = connection.served + 1 :=
  ⟨(accounted_of_run run).responses_eq_range,
    fun _ serving answers => exists_finish serving answers⟩

/-- An environment in which the removal of a last reference is followed by an
unlink with the given result. -/
def lastReference (unlinked : Bool) : (op : TaskOp) → TaskOp.Answer op
  | .daoAuthRegister .. | .daoPathInsertDir .. | .daoPathDirHasChild ..
  | .daoPathRmdir .. | .daoLinkExistingFile .. | .daoCreateFileWithPath .. => 0
  | .daoAuthGetLoginInfo .. => (1, ⟨0, [], 0⟩)
  | .daoPathGetNodeId .. => (.isFile, 5)
  | .daoPathGetLsDir .. => (0, ⟨[], nil_fits⟩)
  | .daoRmFile .. => (.shouldDeletePhysical, ascii "ab")
  | .daoFileFindByHash .. => (0, 0)
  | .daoGetFileMeta .. => none
  | .sessionAuthorize .. => some ⟨⟨1, 2, ascii "u", ascii "/"⟩, by decide, by decide⟩
  | .sessionCreate .. => none
  | .sessionUpdateCwd .. => true
  | .generateSalt | .cryptR .. | .sendfile .. | .recv | .openFile ..
  | .fstat .. | .write .. | .digest .. => none
  | .send .. | .sendHeader .. | .truncate .. | .lseek .. | .fsync ..
  | .objectExists .. | .trackAndPublish => true
  | .close .. => ()
  | .unlink .. => unlinked
  | .publish .. => .failed

/-- A client removes a file and asks for its directory. -/
def removeThenPwd (unlinked : Bool) : List ConnectionAction :=
  let sessionId : SessionId := ⟨Vector.replicate 16 7⟩
  let calls (count : Nat) : List ConnectionAction :=
    List.replicate count (.call (lastReference unlinked))
  [.request ⟨CmdType.rm.code, 0, sessionId, ascii "f"⟩,
    .request ⟨CmdType.pwd.code, 0, sessionId, []⟩, .read] ++
  calls (if unlinked then 6 else 7) ++ [.finish, .read] ++ calls 3 ++ [.finish]

theorem one_response_per_request_removed : ∃ connection,
    runFrom step fresh (removeThenPwd true) = some connection ∧
      connection.served = 2 ∧ connection.failedUnlinks = [] ∧
      connection.responses.filter (· < connection.served) =
        List.range connection.served := by
  have ends : (runFrom step fresh (removeThenPwd true)).any
      (fun connection =>
        connection.served = 2 && connection.failedUnlinks = []) = true := by
    decide
  obtain ⟨connection, run, holds⟩ := (Option.any_eq_true _ _).mp ends
  simp only [Bool.and_eq_true, decide_eq_true_eq] at holds
  refine ⟨connection, run, holds.1, holds.2, ?_⟩
  exact (one_response_per_request run).1.mpr (by simp [holds.2])

/-- When the unlink fails, the second packet the client reads is a second
response to its first request. -/
theorem second_packet_answers_first_request : ∃ connection,
    runFrom step fresh (removeThenPwd false) = some connection ∧
      connection.serving.isNone ∧ connection.incoming = [] ∧
      connection.served = 2 ∧ connection.responses = [0, 0, 1] := by
  have ends : (runFrom step fresh (removeThenPwd false)).any
      (fun connection => connection.serving.isNone &&
        connection.incoming = [] && connection.served = 2 &&
        connection.responses = [0, 0, 1]) = true := by
    decide
  obtain ⟨connection, run, holds⟩ := (Option.any_eq_true _ _).mp ends
  simp only [Bool.and_eq_true, decide_eq_true_eq] at holds
  exact ⟨connection, run, holds.1.1.1, holds.1.1.2, holds.1.2, holds.2⟩

end Connection

end CloudDrive
