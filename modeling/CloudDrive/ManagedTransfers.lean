import CloudDrive.ClientTasks
import CloudDrive.LinkedQueues
import CloudDrive.Runs

/-!
# The transfer manager

The manager of `transfer.c` as it lies in memory: the active tasks linked
through their blocks, their count, and the queue of the events of the tasks that
have finished.  What is done under the lock is one step.
-/

namespace CloudDrive

/-- No block lies beyond. -/
def addressSpace : Nat := 2 ^ 64

/-- `transfer_result_t`. -/
inductive TransferResult where
  | ok | failed | canceled
deriving DecidableEq

/-- What a `transfer_event_t` says.  Submissions are numbered to tell them
apart. -/
structure TransferEvent where
  kind : TransferKind
  result : TransferResult
  path : Bytes
  submission : Nat
deriving DecidableEq

/-- What does not change in a task block. -/
structure TaskRecord where
  task : ClientTask
  event : Nat
  submission : Nat

/-- A `transfer_task_t`. -/
structure TaskBlock extends TaskRecord where
  canceled : Bool
  next : Option Nat

/-- The path that the event of a task names. -/
def ClientTask.eventPath (task : ClientTask) : Bytes :=
  match task.kind with
  | .upload => task.remotePath
  | .download => task.targetPath

/-- The calls by which `start_task` creates a thread, up to the first that
fails. -/
inductive ThreadCreation where
  | attrInitFails | setDetachStateFails | createFails | created
deriving DecidableEq

/-- `transfer_manager_t` with the blocks that are allocated. -/
structure ManagerState where
  tasks : Nat → Option TaskBlock
  /-- `events_head` and `events_tail`. -/
  events : LinkedQueue TransferEvent
  active : Option Nat
  activeCount : Int
  maxConcurrent : Int
  stopping : Bool

namespace ManagerState

def create (maxConcurrent : Int) : ManagerState where
  tasks := fun _ => none
  events := .empty
  active := none
  activeCount := 0
  maxConcurrent
  stopping := false

def taskLinks (manager : ManagerState) (address : Nat) : Option (Option Nat) :=
  (manager.tasks address).map TaskBlock.next

def recordAt (manager : ManagerState) (address : Nat) : Option TaskRecord :=
  (manager.tasks address).map TaskBlock.toTaskRecord

def submissionAt (manager : ManagerState) (address : Nat) : Option Nat :=
  (manager.recordAt address).map TaskRecord.submission

/-- `allocate_task` and what the submission fills in. -/
def allocateTask (manager : ManagerState) (task : ClientTask) (submission : Nat)
    (address eventAddress : Nat) : ManagerState :=
  { manager with
    tasks := Function.update manager.tasks address
      (some ⟨⟨task, eventAddress, submission⟩, false, none⟩)
    events := manager.events.store eventAddress
      ⟨task.kind, .ok, task.eventPath, submission⟩ }

def freeUnstartedTask (manager : ManagerState) (address eventAddress : Nat) :
    ManagerState :=
  { manager with
    tasks := Function.update manager.tasks address none
    events := manager.events.free eventAddress }

/-- The loop of `start_task` over the active tasks finds a download to the same
target. -/
def targetTaken (manager : ManagerState) (active : List Nat) (task : ClientTask) :
    Bool :=
  active.any fun address =>
    match manager.recordAt address with
    | none => false
    | some other =>
        decide (other.task.kind = .download ∧
          other.task.targetPath = task.targetPath)

/-- The task becomes the first active one. -/
def linkTask (manager : ManagerState) (address : Nat) : ManagerState :=
  { manager with
    tasks := Function.update manager.tasks address
      ((manager.tasks address).map fun block => { block with next := manager.active })
    active := some address
    activeCount := manager.activeCount + 1 }

/-- The exits of `start_task` where no thread is created. -/
def rollBack (manager : ManagerState) (address : Nat) : ManagerState :=
  match manager.tasks address with
  | none => manager
  | some block =>
      { manager with
        active := block.next
        activeCount := manager.activeCount - 1 }

/-- `start_task`; whether it returns 0 is part of the answer. -/
def startTask (manager : ManagerState) (address : Nat) (creation : ThreadCreation) :
    Option (Bool × ManagerState) :=
  if manager.stopping ∨ manager.maxConcurrent ≤ manager.activeCount then
    some (false, manager)
  else
    match manager.recordAt address,
      follow manager.taskLinks addressSpace manager.active with
    | some record, some active =>
        if record.task.kind = .download ∧ manager.targetTaken active record.task then
          some (false, manager)
        else
          let linked := manager.linkTask address
          match creation with
          | .attrInitFails => some (false, linked.rollBack address)
          | .setDetachStateFails => some (false, linked.rollBack address)
          | .createFails => some (false, linked.rollBack address)
          | .created => some (true, linked)
    | _, _ => none

/-- A link of the list of active tasks is written. -/
def writeLink (manager : ManagerState) (link value : Option Nat) : ManagerState :=
  match link with
  | none => { manager with active := value }
  | some address =>
      { manager with
        tasks := Function.update manager.tasks address
          ((manager.tasks address).map fun block => { block with next := value }) }

/-- A task leaves the list of active tasks if the loop of `finish_task` has ended
at a link to it. -/
def unlinkTask (manager : ManagerState) (address : Nat) (link next : Option Nat) :
    ManagerState :=
  if linkValue manager.taskLinks manager.active link = some (some address) then
    { manager.writeLink link next with activeCount := manager.activeCount - 1 }
  else manager

/-- The event is put behind the others, and the task is freed. -/
def queueEvent (manager : ManagerState) (address eventAddress : Nat)
    (event : TransferEvent) : ManagerState :=
  { manager with
    tasks := Function.update manager.tasks address none
    events := manager.events.enqueue eventAddress event }

/-- The result that `finish_task` writes; it may have looked at the flag before
the task was canceled. -/
def resultOf (canceled : Bool) (operationResult : Int) : TransferResult :=
  if canceled then .canceled
  else if operationResult = 0 then .ok
  else .failed

/-- `finish_task`: the event that is queued, and the manager. -/
def finishTask (manager : ManagerState) (address : Nat) (canceled : Bool)
    (operationResult : Int) : Option (TransferEvent × ManagerState) :=
  match manager.tasks address with
  | none => none
  | some block =>
      match manager.events.valueAt block.event,
        findLink manager.taskLinks manager.active address (addressSpace + 1) none with
      | some event, some link =>
          let event := { event with result := resultOf canceled operationResult }
          some (event, (manager.unlinkTask address link block.next).queueEvent
            address block.event event)
      | _, _ => none

/-- `transfer_manager_drain_events`: the events that are printed. -/
def drainEvents (manager : ManagerState) :
    Option (List TransferEvent × ManagerState) :=
  match follow manager.events.links addressSpace manager.events.head with
  | none => none
  | some queue =>
      some (queue.filterMap manager.events.valueAt,
        { manager with events := manager.events.clear queue })

def cancelTasks (manager : ManagerState) (active : List Nat) : ManagerState :=
  { manager with
    stopping := true
    tasks := fun address =>
      if address ∈ active then
        (manager.tasks address).map fun block => { block with canceled := true }
      else manager.tasks address }

/-- What `transfer_manager_stop` does before it waits. -/
def stop (manager : ManagerState) : Option ManagerState :=
  (follow manager.taskLinks addressSpace manager.active).map manager.cancelTasks

/-- Two tasks are not downloads to one target. -/
def Apart (manager : ManagerState) (first second : Nat) : Prop :=
  ∀ one other, manager.recordAt first = some one →
    manager.recordAt second = some other → one.task.kind = .download →
      other.task.kind = .download → one.task.targetPath ≠ other.task.targetPath

/-- The active tasks and the queued events, from the heads of their lists. -/
structure Holds (manager : ManagerState) (maxConcurrent : Int)
    (active queue : List Nat) : Prop where
  tasks : Chain manager.taskLinks manager.active active
  count : manager.activeCount = active.length
  capacity : manager.maxConcurrent = maxConcurrent
  bounded : manager.activeCount ≤ maxConcurrent
  apart : active.Pairwise manager.Apart
  events : manager.events.Holds queue
  /-- Each active task has an event of its own, which is not queued. -/
  owned : ∀ address ∈ active, ∃ record event,
    manager.recordAt address = some record ∧
      manager.events.valueAt record.event = some event ∧ record.event ∉ queue ∧
      event.submission = record.submission
  single : ∀ first ∈ active, ∀ second ∈ active, ∀ one other,
    manager.recordAt first = some one → manager.recordAt second = some other →
      one.event = other.event → first = second
  taskSpace : ∀ address, (manager.recordAt address).isSome → address < addressSpace
  eventSpace : ∀ address, (manager.events.valueAt address).isSome →
    address < addressSpace

/-- The manager as a list of tasks. -/
def abstract (manager : ManagerState) (active : List Nat) : TransferManager where
  active := active.filterMap fun address =>
    (manager.recordAt address).map TaskRecord.task
  maxConcurrent := manager.maxConcurrent.toNat
  stopping := manager.stopping

section Operations

variable {manager after : ManagerState} {maxConcurrent : Int}
  {active queue : List Nat} {address eventAddress : Nat}

theorem holds_create (room : 1 ≤ maxConcurrent) :
    (create maxConcurrent).Holds maxConcurrent [] [] where
  tasks := .nil
  count := rfl
  capacity := rfl
  bounded := by
    change (0 : Int) ≤ maxConcurrent
    omega
  apart := .nil
  events := LinkedQueue.holds_empty
  owned := nofun
  single := nofun
  taskSpace := nofun
  eventSpace := nofun

theorem Holds.active_le (holds : manager.Holds maxConcurrent active queue) :
    active.length ≤ addressSpace := by
  refine holds.tasks.length_le fun other present => holds.taskSpace other ?_
  rw [taskLinks, Option.isSome_map] at present
  rwa [recordAt, Option.isSome_map]

theorem Holds.follow_tasks (holds : manager.Holds maxConcurrent active queue) :
    follow manager.taskLinks addressSpace manager.active = some active :=
  holds.tasks.follow_eq holds.active_le

theorem Holds.follow_events (holds : manager.Holds maxConcurrent active queue) :
    follow manager.events.links addressSpace manager.events.head = some queue := by
  refine holds.events.chain.follow_eq (holds.events.chain.length_le fun other present => ?_)
  rw [LinkedQueue.isSome_links] at present
  exact holds.eventSpace other present

theorem pairwise_apart_congr (apart : active.Pairwise manager.Apart)
    (same : ∀ other ∈ active, after.recordAt other = manager.recordAt other) :
    active.Pairwise after.Apart := by
  refine apart.imp_of_mem fun firstListed secondListed apart one other isOne isOther => ?_
  rw [same _ firstListed] at isOne
  rw [same _ secondListed] at isOther
  exact apart one other isOne isOther

theorem taskLinks_cancelTasks : (manager.cancelTasks active).taskLinks =
    manager.taskLinks := by
  funext other
  rw [taskLinks, cancelTasks]
  dsimp only
  split_ifs
  · rw [Option.map_map]
    rfl
  · rfl

theorem recordAt_cancelTasks : (manager.cancelTasks active).recordAt =
    manager.recordAt := by
  funext other
  rw [recordAt, cancelTasks]
  dsimp only
  split_ifs
  · rw [Option.map_map]
    rfl
  · rfl

theorem Holds.cancelTasks (holds : manager.Holds maxConcurrent active queue) :
    (manager.cancelTasks active).Holds maxConcurrent active queue where
  tasks := by
    rw [taskLinks_cancelTasks]
    exact holds.tasks
  count := holds.count
  capacity := holds.capacity
  bounded := holds.bounded
  apart := pairwise_apart_congr holds.apart fun _ _ => by rw [recordAt_cancelTasks]
  events := holds.events
  owned := by
    rw [recordAt_cancelTasks]
    exact holds.owned
  single := by
    rw [recordAt_cancelTasks]
    exact holds.single
  taskSpace := by
    rw [recordAt_cancelTasks]
    exact holds.taskSpace
  eventSpace := holds.eventSpace

theorem Holds.clear (holds : manager.Holds maxConcurrent active queue) :
    Holds { manager with events := manager.events.clear queue } maxConcurrent
      active [] where
  tasks := holds.tasks
  count := holds.count
  capacity := holds.capacity
  bounded := holds.bounded
  apart := holds.apart
  events := ⟨.nil, rfl⟩
  owned := by
    intro address listed
    obtain ⟨record, event, stored, saved, apart, same⟩ := holds.owned address listed
    exact ⟨record, event, stored, (LinkedQueue.valueAt_clear apart).trans saved,
      List.not_mem_nil, same⟩
  single := holds.single
  taskSpace := holds.taskSpace
  eventSpace := by
    intro address present
    by_cases queued : address ∈ queue
    · rw [LinkedQueue.valueAt_clear_of_mem queued] at present
      cases present
    · rw [LinkedQueue.valueAt_clear queued] at present
      exact holds.eventSpace address present

theorem targetTaken_iff {task : ClientTask} :
    manager.targetTaken active task = true ↔ ∃ other ∈ active, ∃ record,
      manager.recordAt other = some record ∧ record.task.kind = .download ∧
        record.task.targetPath = task.targetPath := by
  rw [targetTaken, List.any_eq_true]
  refine exists_congr fun other => and_congr_right fun _ => ?_
  cases manager.recordAt other <;> simp

section Allocation

variable {task : ClientTask} {submission : Nat}

theorem Holds.not_active (holds : manager.Holds maxConcurrent active queue)
    (free : manager.tasks address = none) : address ∉ active := by
  intro listed
  obtain ⟨next, stored⟩ := holds.tasks.stored listed
  rw [taskLinks, free] at stored
  cases stored

theorem recordAt_allocateTask {other : Nat} (different : other ≠ address) :
    (manager.allocateTask task submission address eventAddress).recordAt other =
      manager.recordAt other := by
  simp [recordAt, allocateTask, different]

theorem taskLinks_allocateTask {other : Nat} (different : other ≠ address) :
    (manager.allocateTask task submission address eventAddress).taskLinks other =
      manager.taskLinks other := by
  simp [taskLinks, allocateTask, different]

/-- What a new task looks like in memory. -/
structure Links (manager after : ManagerState) (address eventAddress : Nat)
    (record : TaskRecord) : Prop where
  isRecord : after.recordAt address = some record
  link : after.taskLinks address = some manager.active
  otherRecords : ∀ other, other ≠ address →
    after.recordAt other = manager.recordAt other
  otherLinks : ∀ other, other ≠ address → after.taskLinks other = manager.taskLinks other
  event : ∃ event, after.events = manager.events.store eventAddress event ∧
    event.submission = record.submission

theorem links_linkTask : Links manager
    ((manager.allocateTask task submission address eventAddress).linkTask address)
    address eventAddress ⟨task, eventAddress, submission⟩ where
  isRecord := by simp [recordAt, linkTask, allocateTask]
  link := by simp [taskLinks, linkTask, allocateTask]
  otherRecords := fun other different => by
    simp [recordAt, linkTask, allocateTask, different]
  otherLinks := fun other different => by
    simp [taskLinks, linkTask, allocateTask, different]
  event := ⟨_, rfl, rfl⟩

section Free

variable (free : manager.tasks address = none)
  (eventFree : manager.events.valueAt eventAddress = none)

include free eventFree

theorem freeUnstartedTask_allocateTask :
    (manager.allocateTask task submission address eventAddress).freeUnstartedTask
      address eventAddress = manager := by
  rw [freeUnstartedTask, allocateTask]
  dsimp only
  rw [LinkedQueue.free_store eventFree, Function.update_idem, ← free,
    Function.update_eq_self]

/-- A task that was linked is unlinked again, whichever call has failed. -/
theorem freeUnstartedTask_rollBack :
    (((manager.allocateTask task submission address eventAddress).linkTask
      address).rollBack address).freeUnstartedTask address eventAddress = manager := by
  have linked : (((manager.allocateTask task submission address eventAddress).linkTask
      address).rollBack address).freeUnstartedTask address eventAddress =
        (manager.allocateTask task submission address eventAddress).freeUnstartedTask
          address eventAddress := by
    simp [rollBack, linkTask, allocateTask, freeUnstartedTask]
  rw [linked, freeUnstartedTask_allocateTask free eventFree]

omit eventFree in
/-- What `start_task` does, said with the list of the active tasks. -/
theorem startTask_eq (holds : manager.Holds maxConcurrent active queue)
    (creation : ThreadCreation) :
    (manager.allocateTask task submission address eventAddress).startTask
        address creation =
      if manager.stopping ∨ maxConcurrent ≤ manager.activeCount ∨
          task.kind = .download ∧ manager.targetTaken active task then
        some (false, manager.allocateTask task submission address eventAddress)
      else if creation = .created then
        some (true, (manager.allocateTask task submission address
          eventAddress).linkTask address)
      else
        some (false, ((manager.allocateTask task submission address
          eventAddress).linkTask address).rollBack address) := by
  have notActive := holds.not_active free
  have apart : ∀ other ∈ active, other ≠ address := by
    rintro _ listed rfl
    exact notActive listed
  have met : follow (manager.allocateTask task submission address
      eventAddress).taskLinks addressSpace manager.active = some active := by
    have chain := holds.tasks.congr fun other listed =>
      @taskLinks_allocateTask manager address eventAddress task submission other
        (apart other listed)
    exact chain.follow_eq holds.active_le
  have sameTargets : (manager.allocateTask task submission address
      eventAddress).targetTaken active task = manager.targetTaken active task := by
    rw [Bool.eq_iff_iff, targetTaken_iff, targetTaken_iff]
    refine exists_congr fun other => and_congr_right fun listed => ?_
    rw [recordAt_allocateTask (apart other listed)]
  have found : (manager.allocateTask task submission address eventAddress).recordAt
      address = some ⟨task, eventAddress, submission⟩ := by
    simp [recordAt, allocateTask]
  by_cases refused : manager.stopping ∨ maxConcurrent ≤ manager.activeCount
  · have met := refused
    rw [← holds.capacity] at met
    rw [if_pos (refused.imp_right Or.inl), startTask]
    exact if_pos met
  have notMet := refused
  rw [← holds.capacity] at notMet
  rw [startTask, found,
    show (manager.allocateTask task submission address eventAddress).active =
      manager.active from rfl, met]
  refine (if_neg notMet).trans ?_
  dsimp only
  rw [sameTargets]
  by_cases taken : task.kind = .download ∧ manager.targetTaken active task
  · rw [if_pos taken, if_pos (Or.inr (Or.inr taken))]
  · rw [if_neg taken, if_neg (by tauto)]
    cases creation <;> rfl

/-- A submission that is rejected leaves the manager as it was. -/
theorem startTask_rejects {after : ManagerState}
    (holds : manager.Holds maxConcurrent active queue) {creation : ThreadCreation}
    (started : (manager.allocateTask task submission address eventAddress).startTask
      address creation = some (false, after)) :
    after.freeUnstartedTask address eventAddress = manager := by
  rw [startTask_eq free holds] at started
  split_ifs at started <;> cases started
  · exact freeUnstartedTask_allocateTask free eventFree
  · exact freeUnstartedTask_rollBack free eventFree

omit eventFree in
theorem startTask_accepts {after : ManagerState}
    (holds : manager.Holds maxConcurrent active queue) {creation : ThreadCreation}
    (started : (manager.allocateTask task submission address eventAddress).startTask
      address creation = some (true, after)) :
    manager.stopping = false ∧ manager.activeCount < maxConcurrent ∧
      (task.kind = .download → ¬ manager.targetTaken active task) ∧
      after = (manager.allocateTask task submission address eventAddress).linkTask
        address := by
  rw [startTask_eq free holds] at started
  split_ifs at started with refused created <;> cases started
  simp only [not_or, not_and, not_le, Bool.not_eq_true] at refused
  exact ⟨refused.1, refused.2.1, fun download => by simp [refused.2.2 download], rfl⟩

omit eventFree in
/-- `start_task` on the linked list does what it does on the list of tasks. -/
theorem startTask_refines (holds : manager.Holds maxConcurrent active queue)
    (creation : ThreadCreation) :
    ∃ accepted after,
      (manager.allocateTask task submission address eventAddress).startTask
        address creation = some (accepted, after) ∧
      (manager.abstract active).startTask (decide (creation = .created)) task =
        if accepted then some (after.abstract (address :: active)) else none := by
  have notActive := holds.not_active free
  have links := @links_linkTask manager address eventAddress task submission
  have full : (manager.abstract active).maxConcurrent ≤
      (manager.abstract active).active.length ↔
        maxConcurrent ≤ manager.activeCount := by
    have sameLength : (manager.abstract active).active.length = active.length := by
      rw [abstract, List.length_filterMap_eq_countP, List.countP_eq_length]
      intro other listed
      obtain ⟨record, event, stored, -⟩ := holds.owned other listed
      simp [stored]
    rw [sameLength, holds.count, ← holds.capacity]
    exact Int.toNat_le
  have taken : (∃ other ∈ (manager.abstract active).active,
      other.kind = .download ∧ other.targetPath = task.targetPath) ↔
        manager.targetTaken active task := by
    rw [targetTaken_iff]
    simp [abstract, and_assoc]
  have tasks : ((manager.allocateTask task submission address eventAddress).linkTask
      address).abstract (address :: active) =
        { manager.abstract active with
          active := task :: (manager.abstract active).active } := by
    have same : active.filterMap (fun other =>
        (((manager.allocateTask task submission address eventAddress).linkTask
          address).recordAt other).map TaskRecord.task) =
        (manager.abstract active).active := by
      refine List.filterMap_congr fun other listed => ?_
      rw [links.otherRecords other]
      rintro rfl
      exact notActive listed
    rw [abstract, List.filterMap_cons_some (by rw [links.isRecord]; rfl), same]
    rfl
  rw [startTask_eq free holds, TransferManager.startTask]
  simp only [full, taken, decide_eq_true_eq]
  by_cases refused : manager.stopping ∨ maxConcurrent ≤ manager.activeCount
  · exact ⟨false, _, if_pos (refused.imp_right Or.inl), if_pos refused⟩
  by_cases isTaken : task.kind = .download ∧ manager.targetTaken active task
  · exact ⟨false, _, if_pos (Or.inr (Or.inr isTaken)),
      (if_neg refused).trans (if_pos isTaken)⟩
  rw [if_neg (by tauto)]
  by_cases created : creation = .created
  · refine ⟨true, _, if_pos created, (if_neg refused).trans ?_⟩
    rw [if_neg isTaken, if_pos created, tasks]
    rfl
  · refine ⟨false, _, if_neg created, (if_neg refused).trans ?_⟩
    rw [if_neg isTaken, if_neg created]
    rfl

theorem Holds.linkTask (holds : manager.Holds maxConcurrent active queue)
    (inSpace : address < addressSpace) (eventInSpace : eventAddress < addressSpace)
    (room : manager.activeCount < maxConcurrent)
    (notTaken : task.kind = .download → ¬ manager.targetTaken active task) :
    ((manager.allocateTask task submission address eventAddress).linkTask
      address).Holds maxConcurrent (address :: active) queue := by
  have links := @links_linkTask manager address eventAddress task submission
  obtain ⟨event, events, sameSubmission⟩ := links.event
  have notActive := holds.not_active free
  have notQueued := holds.events.not_mem eventFree
  have oldTask : ∀ other ∈ active, other ≠ address := by
    rintro _ listed rfl
    exact notActive listed
  have oldEvent : ∀ other ∈ active, ∀ record, manager.recordAt other = some record →
      record.event ≠ eventAddress := by
    intro other listed record stored same
    obtain ⟨found, event, isFound, saved, -⟩ := holds.owned other listed
    cases stored.symm.trans isFound
    rw [same, eventFree] at saved
    cases saved
  refine ⟨.cons links.link ?_, ?_, holds.capacity, ?_, ?_, ?_, ?_, ?_, ?_, ?_⟩
  · exact holds.tasks.congr fun other listed => links.otherLinks other (oldTask other listed)
  · have counted := holds.count
    change manager.activeCount + 1 = _
    rw [counted, List.length_cons]
    rfl
  · change manager.activeCount + 1 ≤ _
    omega
  · refine List.pairwise_cons.mpr ⟨?_, pairwise_apart_congr holds.apart fun other listed =>
      links.otherRecords other (oldTask other listed)⟩
    intro other listed one second isOne isSecond download otherDownload sameTarget
    rw [links.isRecord] at isOne
    rw [links.otherRecords other (oldTask other listed)] at isSecond
    cases isOne
    exact notTaken download (targetTaken_iff.mpr
      ⟨other, listed, second, isSecond, otherDownload, sameTarget.symm⟩)
  · rw [events]
    exact holds.events.store notQueued event
  · intro other listed
    rw [events]
    rcases List.mem_cons.mp listed with rfl | listed
    · exact ⟨_, event, links.isRecord, LinkedQueue.valueAt_store, notQueued,
        sameSubmission⟩
    · obtain ⟨record, saved, stored, isSaved, rest⟩ := holds.owned other listed
      refine ⟨record, saved, ?_, ?_, rest⟩
      · rw [links.otherRecords other (oldTask other listed), stored]
      · rw [LinkedQueue.valueAt_store_ne (oldEvent other listed record stored), isSaved]
  · intro first firstListed second secondListed one other isOne isOther same
    rcases List.mem_cons.mp firstListed with rfl | firstOld <;>
      rcases List.mem_cons.mp secondListed with rfl | secondOld
    · rfl
    · rw [links.isRecord] at isOne
      rw [links.otherRecords second (oldTask second secondOld)] at isOther
      cases isOne
      exact (oldEvent second secondOld other isOther same.symm).elim
    · rw [links.isRecord] at isOther
      rw [links.otherRecords first (oldTask first firstOld)] at isOne
      cases isOther
      exact (oldEvent first firstOld one isOne same).elim
    · rw [links.otherRecords first (oldTask first firstOld)] at isOne
      rw [links.otherRecords second (oldTask second secondOld)] at isOther
      exact holds.single first firstOld second secondOld one other isOne isOther same
  · intro other present
    by_cases same : other = address
    · exact same ▸ inSpace
    · rw [links.otherRecords other same] at present
      exact holds.taskSpace other present
  · intro other present
    rw [events] at present
    by_cases same : other = eventAddress
    · exact same ▸ eventInSpace
    · rw [LinkedQueue.valueAt_store_ne same] at present
      exact holds.eventSpace other present

end Free

end Allocation

section Links

variable {link value : Option Nat}

theorem recordAt_writeLink : (manager.writeLink link value).recordAt =
    manager.recordAt := by
  cases link with
  | none => rfl
  | some last =>
      funext other
      by_cases same : other = last
      · subst same
        simp [recordAt, writeLink, Function.comp_def]
      · simp [recordAt, writeLink, same]

theorem taskLinks_writeLink {other : Nat} (different : link ≠ some other) :
    (manager.writeLink link value).taskLinks other = manager.taskLinks other := by
  cases link with
  | none => rfl
  | some last =>
      have different : other ≠ last := fun same => different (congrArg some same.symm)
      simp [taskLinks, writeLink, different]

theorem linkValue_writeLink {old : Option Nat}
    (present : linkValue manager.taskLinks manager.active link = some old) :
    linkValue (manager.writeLink link value).taskLinks
      (manager.writeLink link value).active link = some value := by
  cases link with
  | none => rfl
  | some last =>
      obtain ⟨block, found, -⟩ := Option.map_eq_some_iff.mp present
      simp [linkValue, taskLinks, writeLink, found]

theorem active_writeLink (inside : link ≠ none) :
    (manager.writeLink link value).active = manager.active := by
  cases link with
  | none => exact (inside rfl).elim
  | some last => rfl

theorem writeLink_frame : (manager.writeLink link value).events = manager.events ∧
    (manager.writeLink link value).maxConcurrent = manager.maxConcurrent ∧
    (manager.writeLink link value).stopping = manager.stopping := by
  cases link <;> exact ⟨rfl, rfl, rfl⟩

end Links

/-- A task has left the list of active tasks. -/
structure Unlinked (manager after : ManagerState) (active : List Nat) : Prop where
  chain : Chain after.taskLinks after.active active
  count : after.activeCount = manager.activeCount - 1
  records : after.recordAt = manager.recordAt
  events : after.events = manager.events
  capacity : after.maxConcurrent = manager.maxConcurrent
  stopping : after.stopping = manager.stopping

/-- A task has finished, and its event is queued. -/
structure Finishes (manager after : ManagerState) (record : TaskRecord)
    (event : TransferEvent) (active queue : List Nat) : Prop where
  submission : event.submission = record.submission
  stopping : after.stopping = manager.stopping
  records : ∀ other ∈ active, after.recordAt other = manager.recordAt other
  events : ∀ other ∈ queue, after.events.valueAt other = manager.events.valueAt other
  event : after.events.valueAt record.event = some event

section Finish

variable {front rest : List Nat}
  (holds : manager.Holds maxConcurrent (front ++ address :: rest) queue)

include holds

theorem Holds.others {other : Nat} (listed : other ∈ front ++ rest) :
    other ≠ address ∧ other ∈ front ++ address :: rest := by
  have once := (List.perm_middle.nodup_iff).mp holds.tasks.nodup
  refine ⟨?_, List.perm_middle.mem_iff.mpr (List.mem_cons_of_mem address listed)⟩
  rintro rfl
  exact (List.nodup_cons.mp once).1 listed

/-- The loop of `finish_task` finds the link to the task. -/
theorem Holds.findLink_eq :
    findLink manager.taskLinks manager.active address (addressSpace + 1) none =
      some front.getLast? := by
  have bound := holds.active_le
  have once := List.nodup_append.mp holds.tasks.nodup
  rw [holds.tasks.findLink_eq rfl, Option.or_none]
  · exact fun listed => once.2.2 address listed address List.mem_cons_self rfl
  · rw [List.length_append, List.length_cons] at bound
    omega

theorem Holds.unlinkTask {next : Option Nat}
    (stored : manager.taskLinks address = some next) :
    manager.Unlinked (manager.unlinkTask address front.getLast? next)
      (front ++ rest) := by
  have pointed := holds.tasks.linkValue_eq
  obtain ⟨sameEvents, sameCapacity, sameStopping⟩ :=
    @writeLink_frame manager front.getLast? next
  rw [ManagerState.unlinkTask, if_pos pointed]
  refine ⟨?_, rfl, recordAt_writeLink, sameEvents, sameCapacity, sameStopping⟩
  refine holds.tasks.remove stored (linkValue_writeLink pointed) (fun nonempty => ?_)
    fun other _ different => taskLinks_writeLink different
  exact active_writeLink fun empty => nonempty (List.getLast?_eq_none_iff.mp empty)

theorem Holds.queueEvent {record : TaskRecord} {event : TransferEvent}
    (unlinked : manager.Unlinked after (front ++ rest))
    (stored : manager.recordAt address = some record)
    (same : event.submission = record.submission) :
    (after.queueEvent address record.event event).Holds maxConcurrent (front ++ rest)
        (queue ++ [record.event]) ∧
      manager.Finishes (after.queueEvent address record.event event) record event
        (front ++ rest) queue := by
  have inside : address ∈ front ++ address :: rest := by simp
  obtain ⟨_, saved, isRecord, isSaved, notQueued, -⟩ := holds.owned address inside
  cases stored.symm.trans isRecord
  have appends := LinkedQueue.appends_enqueue holds.events notQueued event
  have records : ∀ other, other ≠ address →
      (after.queueEvent address record.event event).recordAt other =
        manager.recordAt other := by
    intro other different
    rw [← unlinked.records]
    simp [recordAt, ManagerState.queueEvent, different]
  have events : (after.queueEvent address record.event event).events =
      manager.events.enqueue record.event event :=
    congrArg (LinkedQueue.enqueue · record.event event) unlinked.events
  have sameRecords : ∀ other ∈ front ++ rest,
      (after.queueEvent address record.event event).recordAt other =
        manager.recordAt other :=
    fun other listed => records other (holds.others listed).1
  -- The events of the other tasks are different from the one that is queued.
  have apart : ∀ other ∈ front ++ rest, ∀ found, manager.recordAt other = some found →
      found.event ≠ record.event := by
    intro other listed found isFound sameEvent
    obtain ⟨different, wasActive⟩ := holds.others listed
    exact different (holds.single other wasActive address inside found record isFound
      stored sameEvent)
  refine ⟨⟨?_, ?_, ?_, ?_, ?_, ?_, ?_, ?_, ?_, ?_⟩,
    ⟨same, unlinked.stopping, sameRecords, ?_, ?_⟩⟩
  · refine unlinked.chain.congr fun other listed => ?_
    simp [taskLinks, ManagerState.queueEvent, (holds.others listed).1]
  · have count := holds.count
    refine unlinked.count.trans ?_
    rw [count, List.length_append, List.length_append, List.length_cons]
    omega
  · exact unlinked.capacity.trans holds.capacity
  · have bounded := holds.bounded
    refine unlinked.count.trans_le ?_
    omega
  · refine pairwise_apart_congr ?_ sameRecords
    exact holds.apart.sublist (List.sublist_cons_self address rest |>.append_left front)
  · rw [events]
    exact appends.holds
  · intro other listed
    obtain ⟨found, event, isFound, isSaved, otherNotQueued, sameSubmission⟩ :=
      holds.owned other (holds.others listed).2
    have different := apart other listed found isFound
    refine ⟨found, event, (sameRecords other listed).trans isFound, ?_, ?_, sameSubmission⟩
    · rw [events, appends.others found.event different, isSaved]
    · simp [otherNotQueued, different]
  · intro first firstListed second secondListed one another isOne isAnother sameEvent
    rw [sameRecords first firstListed] at isOne
    rw [sameRecords second secondListed] at isAnother
    exact holds.single first (holds.others firstListed).2 second
      (holds.others secondListed).2 one another isOne isAnother sameEvent
  · intro other present
    by_cases isAddress : other = address
    · subst isAddress
      simp [recordAt, ManagerState.queueEvent] at present
    · rw [records other isAddress] at present
      exact holds.taskSpace other present
  · intro other present
    rw [events] at present
    by_cases isEvent : other = record.event
    · subst isEvent
      exact holds.eventSpace record.event (by rw [isSaved]; rfl)
    · rw [appends.others other isEvent] at present
      exact holds.eventSpace other present
  · intro other listed
    rw [events, appends.others other]
    rintro rfl
    exact notQueued listed
  · rw [events]
    exact appends.new

theorem Holds.finishTask (canceled : Bool) (operationResult : Int) :
    ∃ record event after, manager.recordAt address = some record ∧
      manager.finishTask address canceled operationResult = some (event, after) ∧
      after.Holds maxConcurrent (front ++ rest) (queue ++ [record.event]) ∧
      manager.Finishes after record event (front ++ rest) queue := by
  obtain ⟨record, event, stored, saved, notQueued, same⟩ :=
    holds.owned address (by simp)
  obtain ⟨block, found, rfl⟩ := Option.map_eq_some_iff.mp stored
  have next : manager.taskLinks address = some block.next := by
    rw [taskLinks, found]
    rfl
  have result : TransferEvent.submission
      { event with result := resultOf canceled operationResult } = block.submission := same
  exact ⟨block.toTaskRecord, _, _, stored,
    by simp only [ManagerState.finishTask, found, saved, holds.findLink_eq],
    holds.queueEvent (holds.unlinkTask next) stored result⟩

end Finish

end Operations

end ManagerState

/-- A manager with the workers of its tasks and what has happened so far. -/
structure TransferSystem where
  manager : ManagerState
  /-- The tasks whose workers have not called `finish_task`. -/
  workers : List Nat
  submissions : Nat
  accepted : List Nat
  rejected : List Nat
  finished : List TransferEvent
  /-- What each call of `transfer_manager_drain_events` has printed. -/
  delivered : List (List TransferEvent)
  /-- A call of `transfer_manager_stop` has returned. -/
  stopped : Bool

inductive TransferStep where
  /-- A submission; no blocks are given where the allocation fails. -/
  | submit (task : ClientTask) (blocks : Option (Nat × Nat))
      (creation : ThreadCreation)
  | finish (address : Nat) (canceled : Bool) (operationResult : Int)
  | drain
  | stop
  | stopReturns

namespace TransferSystem

def create (maxConcurrent : Int) : TransferSystem where
  manager := .create maxConcurrent
  workers := []
  submissions := 0
  accepted := []
  rejected := []
  finished := []
  delivered := []
  stopped := false

/-- The blocks of a submission are free. -/
def Free (manager : ManagerState) (address eventAddress : Nat) : Prop :=
  (manager.tasks address).isNone ∧ address < addressSpace ∧
    (manager.events.valueAt eventAddress).isNone ∧ eventAddress < addressSpace

instance (manager : ManagerState) (address eventAddress : Nat) :
    Decidable (Free manager address eventAddress) :=
  inferInstanceAs (Decidable (_ ∧ _))

def reject (system : TransferSystem) (manager : ManagerState) : TransferSystem :=
  { system with
    manager
    submissions := system.submissions + 1
    rejected := system.rejected ++ [system.submissions] }

def step (system : TransferSystem) : TransferStep → Option TransferSystem
  | .submit _ none _ => some (system.reject system.manager)
  | .submit task (some (address, eventAddress)) creation =>
      if Free system.manager address eventAddress then
        match (system.manager.allocateTask task system.submissions address
            eventAddress).startTask address creation with
        | none => none
        | some (true, manager) =>
            some
              { system with
                manager
                workers := address :: system.workers
                submissions := system.submissions + 1
                accepted := system.accepted ++ [system.submissions] }
        | some (false, manager) =>
            some (system.reject (manager.freeUnstartedTask address eventAddress))
      else none
  | .finish address canceled operationResult =>
      -- A canceled task stays canceled, so a flag that was seen is still set.
      if address ∈ system.workers ∧
          (canceled → ((system.manager.tasks address).map TaskBlock.canceled) =
            some true) then
        match system.manager.finishTask address canceled operationResult with
        | none => none
        | some (event, manager) =>
            some
              { system with
                manager
                workers := system.workers.filter (· ≠ address)
                finished := system.finished ++ [event] }
      else none
  | .drain =>
      match system.manager.drainEvents with
      | none => none
      | some (events, manager) =>
          some { system with manager, delivered := system.delivered ++ [events] }
  | .stop => system.manager.stop.map fun manager => { system with manager }
  | .stopReturns =>
      if system.manager.stopping ∧ system.manager.activeCount = 0 then
        some { system with stopped := true }
      else none

/-- The lists of the manager against all that has happened. -/
structure Managed (system : TransferSystem) (maxConcurrent : Int)
    (active queue : List Nat) : Prop where
  holds : system.manager.Holds maxConcurrent active queue
  workers : ∀ address, address ∈ system.workers ↔ address ∈ active
  order : system.finished =
    system.delivered.flatten ++ queue.filterMap system.manager.events.valueAt
  once : system.accepted.Perm (system.finished.map TransferEvent.submission ++
    active.filterMap system.manager.submissionAt)
  distinct : (system.accepted ++ system.rejected).Nodup
  numbered : ∀ number ∈ system.accepted ++ system.rejected, number < system.submissions
  stopped : system.stopped = true → system.manager.stopping = true ∧ active = []

section Steps

variable {system after : TransferSystem} {maxConcurrent : Int}
  {active queue : List Nat}

theorem managed_create (room : 1 ≤ maxConcurrent) :
    (create maxConcurrent).Managed maxConcurrent [] [] where
  holds := ManagerState.holds_create room
  workers := fun _ => Iff.rfl
  order := rfl
  once := List.Perm.refl []
  distinct := List.nodup_nil
  numbered := nofun
  stopped := nofun

theorem Managed.fresh (managed : system.Managed maxConcurrent active queue) :
    system.submissions ∉ system.accepted ++ system.rejected :=
  fun listed => Nat.lt_irrefl _ (managed.numbered _ listed)

theorem Managed.reject (managed : system.Managed maxConcurrent active queue) :
    (system.reject system.manager).Managed maxConcurrent active queue where
  holds := managed.holds
  workers := managed.workers
  order := managed.order
  once := managed.once
  distinct := by
    change (system.accepted ++ (system.rejected ++ [system.submissions])).Nodup
    rw [← List.append_assoc]
    exact List.Nodup.append managed.distinct (List.nodup_singleton _)
      (List.disjoint_singleton.mpr managed.fresh)
  numbered := by
    intro number listed
    change number ∈ system.accepted ++ (system.rejected ++ [system.submissions]) at listed
    rw [← List.append_assoc, List.mem_append, List.mem_singleton] at listed
    rcases listed with before | rfl
    · exact Nat.lt_succ_of_lt (managed.numbered number before)
    · exact Nat.lt_succ_self _
  stopped := managed.stopped

theorem Managed.drained (managed : system.Managed maxConcurrent active queue) :
    Managed
      { system with
        manager := { system.manager with events := system.manager.events.clear queue }
        delivered := system.delivered ++
          [queue.filterMap system.manager.events.valueAt] }
      maxConcurrent active [] where
  holds := managed.holds.clear
  workers := managed.workers
  order := by simp [managed.order]
  once := managed.once
  distinct := managed.distinct
  numbered := managed.numbered
  stopped := managed.stopped

theorem Managed.canceled (managed : system.Managed maxConcurrent active queue) :
    Managed { system with manager := system.manager.cancelTasks active }
      maxConcurrent active queue where
  holds := managed.holds.cancelTasks
  workers := managed.workers
  order := managed.order
  once := by
    have same : (system.manager.cancelTasks active).submissionAt =
        system.manager.submissionAt := by
      funext other
      rw [ManagerState.submissionAt, ManagerState.recordAt_cancelTasks]
      rfl
    rw [same]
    exact managed.once
  distinct := managed.distinct
  numbered := managed.numbered
  stopped := fun isStopped => ⟨rfl, (managed.stopped isStopped).2⟩

theorem Managed.returned (managed : system.Managed maxConcurrent active queue)
    (stopping : system.manager.stopping = true)
    (idle : system.manager.activeCount = 0) :
    Managed { system with stopped := true } maxConcurrent active queue where
  holds := managed.holds
  workers := managed.workers
  order := managed.order
  once := managed.once
  distinct := managed.distinct
  numbered := managed.numbered
  stopped := by
    intro _
    have count := managed.holds.count
    rw [idle] at count
    exact ⟨stopping, List.eq_nil_of_length_eq_zero (by omega)⟩

theorem Managed.accepted (managed : system.Managed maxConcurrent active queue)
    {task : ClientTask} {address eventAddress : Nat}
    (free : Free system.manager address eventAddress)
    (running : system.manager.stopping = false)
    (room : system.manager.activeCount < maxConcurrent)
    (notTaken : task.kind = .download → ¬ system.manager.targetTaken active task) :
    Managed
      { system with
        manager := (system.manager.allocateTask task system.submissions address
          eventAddress).linkTask address
        workers := address :: system.workers
        submissions := system.submissions + 1
        accepted := system.accepted ++ [system.submissions] }
      maxConcurrent (address :: active) queue := by
  obtain ⟨isFree, inSpace, eventIsFree, eventInSpace⟩ := free
  rw [Option.isNone_iff_eq_none] at isFree eventIsFree
  have links := @ManagerState.links_linkTask system.manager address eventAddress task
    system.submissions
  have notActive := managed.holds.not_active isFree
  have notQueued := managed.holds.events.not_mem eventIsFree
  have sameSubmissions : active.filterMap
      ((system.manager.allocateTask task system.submissions address
        eventAddress).linkTask address).submissionAt =
      active.filterMap system.manager.submissionAt := by
    refine List.filterMap_congr fun other listed => ?_
    rw [ManagerState.submissionAt, links.otherRecords other]
    · rfl
    · rintro rfl
      exact notActive listed
  have newSubmission : ((system.manager.allocateTask task system.submissions address
      eventAddress).linkTask address).submissionAt address = some system.submissions := by
    rw [ManagerState.submissionAt, links.isRecord]
    rfl
  refine ⟨managed.holds.linkTask isFree eventIsFree inSpace eventInSpace room notTaken,
    ?_, ?_, ?_, ?_, ?_, ?_⟩
  · intro other
    simp only [List.mem_cons, managed.workers]
  · refine managed.order.trans (congrArg (system.delivered.flatten ++ ·) ?_)
    refine List.filterMap_congr fun other listed =>
      (LinkedQueue.valueAt_store_ne ?_).symm
    rintro rfl
    exact notQueued listed
  · rw [List.filterMap_cons_some newSubmission, sameSubmissions]
    refine (managed.once.append_right [system.submissions]).trans ?_
    exact (List.perm_append_singleton _ _).trans List.perm_middle.symm
  · change (system.accepted ++ [system.submissions] ++ system.rejected).Nodup
    rw [List.append_assoc, List.singleton_append, List.perm_middle.nodup_iff,
      List.nodup_cons]
    exact ⟨managed.fresh, managed.distinct⟩
  · intro number listed
    change number ∈ system.accepted ++ [system.submissions] ++ system.rejected at listed
    rw [List.append_assoc, List.singleton_append, List.perm_middle.mem_iff,
      List.mem_cons] at listed
    rcases listed with rfl | before
    · exact Nat.lt_succ_self _
    · exact Nat.lt_succ_of_lt (managed.numbered number before)
  · intro isStopped
    rw [(managed.stopped isStopped).1] at running
    cases running

theorem Managed.finished {front rest : List Nat} {address : Nat}
    (managed : system.Managed maxConcurrent (front ++ address :: rest) queue)
    {record : TaskRecord} {event : TransferEvent} {manager : ManagerState}
    (stored : system.manager.recordAt address = some record)
    (holds : manager.Holds maxConcurrent (front ++ rest) (queue ++ [record.event]))
    (finishes : system.manager.Finishes manager record event (front ++ rest) queue) :
    Managed
      { system with
        manager
        workers := system.workers.filter (· ≠ address)
        finished := system.finished ++ [event] }
      maxConcurrent (front ++ rest) (queue ++ [record.event]) := by
  have sameSubmissions : (front ++ rest).filterMap manager.submissionAt =
      (front ++ rest).filterMap system.manager.submissionAt := by
    refine List.filterMap_congr fun other listed => ?_
    rw [ManagerState.submissionAt, finishes.records other listed]
    rfl
  have submission : system.manager.submissionAt address = some event.submission := by
    rw [ManagerState.submissionAt, stored, finishes.submission]
    rfl
  refine ⟨holds, ?_, ?_, ?_, managed.distinct, managed.numbered, ?_⟩
  · intro other
    have once := List.nodup_cons.mp (List.perm_middle.nodup_iff.mp managed.holds.tasks.nodup)
    rw [List.mem_filter, decide_eq_true_eq, managed.workers, List.perm_middle.mem_iff,
      List.mem_cons]
    constructor
    · rintro ⟨rfl | listed, different⟩
      · exact (different rfl).elim
      · exact listed
    · intro listed
      refine ⟨Or.inr listed, ?_⟩
      rintro rfl
      exact once.1 listed
  · have sameEvents : queue.filterMap manager.events.valueAt =
        queue.filterMap system.manager.events.valueAt :=
      List.filterMap_congr finishes.events
    simp [managed.order, sameEvents, finishes.event]
  · refine managed.once.trans ?_
    rw [sameSubmissions, List.map_append, List.append_assoc]
    refine List.Perm.append_left _ ?_
    simp only [List.filterMap_append, List.filterMap_cons_some submission, List.map_cons,
      List.map_nil, List.singleton_append]
    exact List.perm_middle
  · intro isStopped
    have empty := (managed.stopped isStopped).2
    simp at empty

theorem Managed.startTask (managed : system.Managed maxConcurrent active queue)
    {address eventAddress : Nat} (free : Free system.manager address eventAddress)
    (task : ClientTask) (creation : ThreadCreation) :
    system.step (.submit task (some (address, eventAddress)) creation) =
        some (system.reject system.manager) ∨
      ∃ after, system.step (.submit task (some (address, eventAddress)) creation) =
          some after ∧
        system.manager.stopping = false ∧
        after.accepted = system.accepted ++ [system.submissions] ∧
        after.Managed maxConcurrent (address :: active) queue := by
  have isFree := Option.isNone_iff_eq_none.mp free.1
  have eventIsFree := Option.isNone_iff_eq_none.mp free.2.2.1
  obtain ⟨accepted, manager, started, -⟩ := @ManagerState.startTask_refines _ _ _ _ _
    eventAddress task system.submissions isFree managed.holds creation
  simp only [step, if_pos free, started]
  cases accepted with
  | false =>
      left
      dsimp only
      rw [ManagerState.startTask_rejects isFree eventIsFree managed.holds started]
  | true =>
      right
      obtain ⟨running, room, notTaken, rfl⟩ :=
        ManagerState.startTask_accepts isFree managed.holds started
      exact ⟨_, rfl, running, rfl, managed.accepted free running room notTaken⟩

/-- What a submission can do. -/
theorem Managed.submit (managed : system.Managed maxConcurrent active queue)
    {task : ClientTask} {blocks : Option (Nat × Nat)} {creation : ThreadCreation}
    (stepped : system.step (.submit task blocks creation) = some after) :
    after = system.reject system.manager ∨
      system.manager.stopping = false ∧
        after.accepted = system.accepted ++ [system.submissions] ∧
        ∃ address, after.Managed maxConcurrent (address :: active) queue := by
  rcases blocks with _ | ⟨address, eventAddress⟩
  · cases stepped
    exact .inl rfl
  by_cases free : Free system.manager address eventAddress
  · rcases managed.startTask free task creation with
      rejected | ⟨expected, started, running, accepted, managed⟩
    · cases stepped.symm.trans rejected
      exact .inl rfl
    · cases stepped.symm.trans started
      exact .inr ⟨running, accepted, address, managed⟩
  · simp only [step, if_neg free] at stepped
    cases stepped

theorem managed_step {action : TransferStep}
    (managed : ∃ active queue, system.Managed maxConcurrent active queue)
    (stepped : system.step action = some after) :
    ∃ active queue, after.Managed maxConcurrent active queue := by
  obtain ⟨active, queue, managed⟩ := managed
  cases action with
  | submit task blocks creation =>
      rcases managed.submit stepped with rfl | ⟨-, -, address, managed⟩
      · exact ⟨active, queue, managed.reject⟩
      · exact ⟨_, queue, managed⟩
  | finish address canceled operationResult =>
      simp only [step] at stepped
      split at stepped
      · rename_i met
        obtain ⟨front, rest, rfl⟩ :=
          List.append_of_mem ((managed.workers address).mp met.1)
        obtain ⟨record, event, manager, stored, finished, holds, finishes⟩ :=
          managed.holds.finishTask canceled operationResult
        rw [finished] at stepped
        cases stepped
        exact ⟨_, _, managed.finished stored holds finishes⟩
      · cases stepped
  | drain =>
      simp only [step, ManagerState.drainEvents, managed.holds.follow_events] at stepped
      cases stepped
      exact ⟨active, [], managed.drained⟩
  | stop =>
      simp only [step, ManagerState.stop, managed.holds.follow_tasks,
        Option.map_some] at stepped
      cases stepped
      exact ⟨active, queue, managed.canceled⟩
  | stopReturns =>
      simp only [step] at stepped
      split at stepped
      · rename_i met
        cases stepped
        exact ⟨active, queue, managed.returned met.1 met.2⟩
      · cases stepped

/-- No step is refused because of the lists. -/
theorem Managed.total (managed : system.Managed maxConcurrent active queue) :
    (system.step .drain).isSome ∧ (system.step .stop).isSome ∧
    (∀ address ∈ system.workers, ∀ operationResult,
      (system.step (.finish address false operationResult)).isSome) ∧
    ∀ task address eventAddress creation, Free system.manager address eventAddress →
      (system.step (.submit task (some (address, eventAddress)) creation)).isSome := by
  refine ⟨?_, ?_, ?_, ?_⟩
  · simp [step, ManagerState.drainEvents, managed.holds.follow_events]
  · simp [step, ManagerState.stop, managed.holds.follow_tasks]
  · intro address working operationResult
    obtain ⟨front, rest, rfl⟩ := List.append_of_mem ((managed.workers address).mp working)
    obtain ⟨record, event, manager, -, finished, -⟩ :=
      managed.holds.finishTask false operationResult
    simp [step, working, finished]
  · intro task address eventAddress creation free
    rcases managed.startTask free task creation with rejected | ⟨after, started, -⟩
    · rw [rejected]
      rfl
    · rw [started]
      rfl

end Steps

/-- The lists and the count agree, every accepted task has one event, which is
queued when the task finishes and printed by one drain, a submission that is
rejected changes nothing, and nothing starts after a stop. -/
theorem transferManager_keeps_its_lists {maxConcurrent : Int}
    (room : 1 ≤ maxConcurrent) {steps : List TransferStep} {last : TransferSystem}
    (reached : runFrom step (create maxConcurrent) steps = some last) :
    (∃ active queue,
      Chain last.manager.taskLinks last.manager.active active ∧ active.Nodup ∧
      last.manager.activeCount = active.length ∧
      last.manager.activeCount ≤ maxConcurrent ∧
      active.Pairwise last.manager.Apart ∧
      Chain last.manager.events.links last.manager.events.head queue ∧
      last.manager.events.tail = queue.getLast? ∧
      last.finished = last.delivered.flatten ++
        queue.filterMap last.manager.events.valueAt ∧
      last.accepted.Perm (last.finished.map TransferEvent.submission ++
        active.filterMap last.manager.submissionAt)) ∧
    (last.finished.map TransferEvent.submission).Nodup ∧
    (∀ number ∈ last.rejected,
      number ∉ last.finished.map TransferEvent.submission) ∧
    (∀ task blocks creation next,
      last.step (.submit task blocks creation) = some next →
        next.accepted = last.accepted ++ [last.submissions] ∨
        next.accepted = last.accepted ∧
          next.rejected = last.rejected ++ [last.submissions] ∧
          next.manager = last.manager) ∧
    (last.stopped = true → last.manager.active = none ∧
      last.manager.activeCount = 0 ∧
      ∀ task blocks creation next,
        last.step (.submit task blocks creation) = some next →
          next.accepted = last.accepted) ∧
    ((last.step .drain).isSome ∧ (last.step .stop).isSome ∧
      (∀ address ∈ last.workers, ∀ operationResult,
        (last.step (.finish address false operationResult)).isSome) ∧
      ∀ task address eventAddress creation, Free last.manager address eventAddress →
        (last.step (.submit task (some (address, eventAddress)) creation)).isSome) := by
  obtain ⟨active, queue, managed⟩ :=
    @runFrom_invariant _ _ step
      (fun system => ∃ active queue, system.Managed maxConcurrent active queue)
      (fun _ _ _ => managed_step) _ _ _ ⟨[], [], managed_create room⟩ reached
  have distinct := List.nodup_append.mp managed.distinct
  have once := List.nodup_append.mp (managed.once.nodup_iff.mp distinct.1)
  refine ⟨⟨active, queue, managed.holds.tasks, managed.holds.tasks.nodup,
    managed.holds.count, managed.holds.bounded, managed.holds.apart,
    managed.holds.events.chain, managed.holds.events.tail, managed.order, managed.once⟩,
    once.1, ?_, ?_, ?_, managed.total⟩
  · intro number rejected finished
    have accepted := managed.once.mem_iff.mpr (List.mem_append_left _ finished)
    exact distinct.2.2 number accepted number rejected rfl
  · intro task blocks creation next stepped
    rcases managed.submit stepped with rfl | ⟨-, accepted, -⟩
    · exact .inr ⟨rfl, rfl, rfl⟩
    · exact .inl accepted
  · intro isStopped
    obtain ⟨stopping, rfl⟩ := managed.stopped isStopped
    refine ⟨managed.holds.tasks.head_eq, managed.holds.count, ?_⟩
    intro task blocks creation next stepped
    rcases managed.submit stepped with rfl | ⟨running, -⟩
    · rfl
    · rw [stopping] at running
      cases running

/-- The download that the only slot is given to. -/
def someDownload : ClientTask where
  kind := .download
  sessionId := ⟨Vector.replicate 16 1⟩
  localPath := []
  remotePath := ascii "/d/a"
  targetPath := ascii "downloads/a"
  partPath := ascii "downloads/a.part"

/-- Two submissions for one slot; the task is canceled and its event printed. -/
theorem transferManager_cancels_one_download :
    ∃ last, runFrom step (create 1)
      [.submit someDownload (some (0, 0)) .created,
        .submit someDownload (some (8, 8)) .created, .stop, .finish 0 true (-1), .drain,
        .stopReturns] = some last ∧
      last.stopped = true ∧ last.manager.active = none ∧
      (∀ number ∈ last.rejected,
        number ∉ last.finished.map TransferEvent.submission) := by
  obtain ⟨last, reached, isStopped⟩ : ∃ last, runFrom step (create 1)
      [.submit someDownload (some (0, 0)) .created,
        .submit someDownload (some (8, 8)) .created, .stop, .finish 0 true (-1), .drain,
        .stopReturns] = some last ∧ last.stopped = true :=
    (Option.any_eq_true _ _).mp (by decide +kernel)
  obtain ⟨-, -, apart, -, stops, -⟩ :=
    transferManager_keeps_its_lists (by decide) reached
  exact ⟨last, reached, isStopped, (stops isStopped).1, apart⟩

end TransferSystem

end CloudDrive
