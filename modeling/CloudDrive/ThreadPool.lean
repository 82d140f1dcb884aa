import CloudDrive.LinkedQueues
import CloudDrive.Runs
import Mathlib.Data.List.Pairwise

/-!
# The thread pool

`thread_pool.c`: callers put tasks into a bounded linked queue, workers take
them out and run them, and a shutdown may come at any time.  A critical section
is one step, which is not taken while its condition is waited for.
-/

namespace CloudDrive

/-- `thread_pool_t` with its `task_queue_t`; a task stands for the function and
the argument of a `task_t`. -/
structure ThreadPool (α : Type) where
  queue : LinkedQueue α
  size : Int
  capacity : Int
  shutdown : Bool

namespace ThreadPool

variable {α : Type}

def create (queueCapacity : Int) : ThreadPool α where
  queue := .empty
  size := 0
  capacity := queueCapacity
  shutdown := false

def put (pool : ThreadPool α) (task : α) (address : Nat) : ThreadPool α :=
  { pool with queue := pool.queue.enqueue address task, size := pool.size + 1 }

/-- The critical section of `thread_pool_add`, with the node that `malloc` has
returned; whether the result is 0 is part of the answer.  Nothing is answered
while the caller waits. -/
def add (pool : ThreadPool α) (task : α) (address : Nat) :
    Option (Bool × ThreadPool α) :=
  if pool.size = pool.capacity ∧ pool.shutdown = false then none
  else if pool.shutdown then some (false, pool)
  else some (true, pool.put task address)

def take (pool : ThreadPool α) (first : LinkedNode α) : ThreadPool α :=
  { pool with queue := pool.queue.dequeue first, size := pool.size - 1 }

/-- The critical section of `thread_worker`: the node that the worker takes, or
none if it leaves its loop.  Nothing is answered while the worker waits, and
where a null pointer or a freed node would be used. -/
def threadWorker (pool : ThreadPool α) : Option (Option Nat × ThreadPool α) :=
  if pool.size = 0 ∧ pool.shutdown = false then none
  else if pool.shutdown ∧ pool.size = 0 then some (none, pool)
  else
    match pool.queue.head with
    | none => none
    | some address =>
        match pool.queue.nodes address with
        | none => none
        | some node => some (some address, pool.take node)

def freeNode (pool : ThreadPool α) (address : Nat) : ThreadPool α :=
  { pool with queue := pool.queue.free address }

def destroy (pool : ThreadPool α) : ThreadPool α := { pool with shutdown := true }

section Specifications

variable {pool after : ThreadPool α} {listed : List Nat} {address : Nat}

/-- What `thread_pool_add` can do. -/
theorem add_cases {task : α} {accepted : Bool}
    (added : pool.add task address = some (accepted, after)) :
    (accepted = false ∧ after = pool) ∨
      accepted = true ∧ pool.shutdown = false ∧ pool.size ≠ pool.capacity ∧
        after = pool.put task address := by
  unfold add at added
  split_ifs at added with waits stops
  · cases added
    exact .inl ⟨rfl, rfl⟩
  · cases added
    have running : pool.shutdown = false := Bool.eq_false_iff.mpr stops
    exact .inr ⟨rfl, running, fun full => waits ⟨full, running⟩, rfl⟩

/-- The first node is taken out of the queue. -/
structure Takes (before after : ThreadPool α) (rest : List Nat) : Prop where
  holds : after.queue.Holds rest
  nodes : after.queue.nodes = before.queue.nodes
  size : after.size = before.size - 1
  capacity : after.capacity = before.capacity
  shutdown : after.shutdown = before.shutdown

/-- A worker finds the first node of a queue that is not empty. -/
theorem threadWorker_takes {rest : List Nat}
    (holds : pool.queue.Holds (address :: rest))
    (size : pool.size = (address :: rest).length) :
    ∃ after, pool.threadWorker = some (some address, after) ∧
      pool.Takes after rest := by
  have occupied : pool.size ≠ 0 := by
    rw [size]
    simp
    omega
  obtain ⟨head, node, found, remaining⟩ := holds.first
  exact ⟨pool.take node, by simp [threadWorker, occupied, head, found], remaining,
    rfl, rfl, rfl, rfl⟩

/-- What a worker can do in its critical section. -/
theorem threadWorker_cases {taken : Option Nat} (holds : pool.queue.Holds listed)
    (size : pool.size = listed.length)
    (woken : pool.threadWorker = some (taken, after)) :
    (taken = none ∧ after = pool ∧ pool.shutdown = true ∧ listed = []) ∨
      ∃ address rest, taken = some address ∧ listed = address :: rest ∧
        pool.Takes after rest := by
  cases listed with
  | nil =>
      have size : pool.size = 0 := size
      unfold threadWorker at woken
      split_ifs at woken with waits stops
      · cases woken
        exact .inl ⟨rfl, rfl, stops.1, rfl⟩
      · cases running : pool.shutdown with
        | false => exact (waits ⟨size, running⟩).elim
        | true => exact (stops ⟨running, size⟩).elim
  | cons address rest =>
      obtain ⟨expected, takes, outcome⟩ := threadWorker_takes holds size
      cases woken.symm.trans takes
      exact .inr ⟨address, rest, rfl, rfl, outcome⟩

end Specifications

end ThreadPool

inductive WorkerState where
  | waiting
  /-- The worker runs the task of a node. -/
  | running (address : Nat)
  | exited
deriving DecidableEq

section Workers

variable {α : Type} {queue after : LinkedQueue α} {workers : List WorkerState}

/-- The task that a worker has taken and not finished. -/
def currentTask (queue : LinkedQueue α) (workers : List WorkerState) (worker : Nat) :
    Option α :=
  match workers[worker]? with
  | some (.running address) => queue.valueAt address
  | _ => none

theorem currentTask_running {worker address : Nat}
    (running : workers[worker]? = some (.running address)) :
    currentTask queue workers worker = queue.valueAt address := by
  rw [currentTask, running]

theorem currentTask_of_waiting {worker : Nat}
    (waiting : workers[worker]? = some .waiting) :
    currentTask queue workers worker = none := by
  rw [currentTask, waiting]

theorem currentTask_congr (worker : Nat)
    (same : ∀ address, workers[worker]? = some (.running address) →
      after.valueAt address = queue.valueAt address) :
    currentTask after workers worker = currentTask queue workers worker := by
  unfold currentTask
  split
  · exact same _ ‹_›
  · rfl

theorem worker_set {worker other : Nat} {state found : WorkerState}
    (stored : (workers.set worker state)[other]? = some found) :
    (other = worker ∧ found = state) ∨
      other ≠ worker ∧ workers[other]? = some found := by
  by_cases same : other = worker
  · subst same
    by_cases inside : other < workers.length
    · simp [inside] at stored
      exact .inl ⟨rfl, stored.symm⟩
    · simp [inside] at stored
  · rw [List.getElem?_set_ne (Ne.symm same)] at stored
    exact .inr ⟨same, stored⟩

theorem currentTask_set_ne {worker other : Nat} (different : other ≠ worker)
    (state : WorkerState) :
    currentTask queue (workers.set worker state) other =
      currentTask queue workers other := by
  rw [currentTask, currentTask, List.getElem?_set_ne different.symm]

theorem currentTask_set_waiting (worker : Nat) :
    currentTask queue (workers.set worker .waiting) worker = none := by
  unfold currentTask
  by_cases inside : worker < workers.length <;> simp [inside]

end Workers

/-- What the calls return and which tasks are run. -/
inductive PoolEvent (α : Type) where
  /-- `thread_pool_add` returns 0 or -1. -/
  | accepted (task : α)
  | rejected (task : α)
  | taken (worker : Nat) (task : α)
  | ran (worker : Nat) (task : α)
deriving DecidableEq

namespace PoolEvent

variable {α : Type}

def acceptedTask : PoolEvent α → Option α
  | .accepted task => some task
  | _ => none

/-- The task of a call of `thread_pool_add`, whatever it returns. -/
def calledTask : PoolEvent α → Option α
  | .accepted task => some task
  | .rejected task => some task
  | _ => none

def takenTask : PoolEvent α → Option α
  | .taken _ task => some task
  | _ => none

def takenBy (worker : Nat) : PoolEvent α → Option α
  | .taken other task => if other = worker then some task else none
  | _ => none

def ranBy (worker : Nat) : PoolEvent α → Option α
  | .ran other task => if other = worker then some task else none
  | _ => none

end PoolEvent

/-- A pool with its workers and what has happened so far. -/
structure PoolSystem (α : Type) where
  pool : ThreadPool α
  workers : List WorkerState
  history : List (PoolEvent α)

/-- A step of a caller, of a worker or of `thread_pool_destroy`. -/
inductive PoolStep (α : Type) where
  /-- A call of `thread_pool_add`, with the result of `malloc`. -/
  | add (task : α) (allocated : Option Nat)
  | wake (worker : Nat)
  | run (worker : Nat)
  | destroy

namespace PoolStep

variable {α : Type}

def addedTask : PoolStep α → Option α
  | .add task _ => some task
  | _ => none

/-- The step is one of a worker. -/
def OfWorker : PoolStep α → Prop
  | .wake _ | .run _ => True
  | _ => False

end PoolStep

namespace PoolSystem

variable {α : Type}

def create (threadNum : Nat) (queueCapacity : Int) : PoolSystem α where
  pool := .create queueCapacity
  workers := List.replicate threadNum .waiting
  history := []

def step (system : PoolSystem α) : PoolStep α → Option (PoolSystem α)
  | .add task none => some { system with history := system.history ++ [.rejected task] }
  | .add task (some address) =>
      -- No block is given out twice.
      if (system.pool.queue.valueAt address).isSome then none
      else
        match system.pool.add task address with
        | none => none
        | some (true, pool) =>
            some { system with pool, history := system.history ++ [.accepted task] }
        | some (false, pool) =>
            some { system with pool, history := system.history ++ [.rejected task] }
  | .wake worker =>
      match system.workers[worker]? with
      | some .waiting =>
          match system.pool.threadWorker with
          | none => none
          | some (none, pool) =>
              some { system with pool, workers := system.workers.set worker .exited }
          | some (some address, pool) =>
              some
                { pool
                  workers := system.workers.set worker (.running address)
                  history := system.history ++
                    ((pool.queue.valueAt address).map (PoolEvent.taken worker)).toList }
      | _ => none
  | .run worker =>
      match system.workers[worker]? with
      | some (.running address) =>
          some
            { pool := system.pool.freeNode address
              workers := system.workers.set worker .waiting
              history := system.history ++
                ((system.pool.queue.valueAt address).map (PoolEvent.ran worker)).toList }
      | _ => none
  | .destroy =>
      -- The pool is destroyed once.
      if system.pool.shutdown then none
      else some { system with pool := system.pool.destroy }

/-- The queue of the pool and what the workers do, with all that has happened. -/
structure Queued (system : PoolSystem α) (queueCapacity : Int) (queue : List Nat) :
    Prop where
  holds : system.pool.queue.Holds queue
  size : system.pool.size = queue.length
  capacity : system.pool.capacity = queueCapacity
  bounded : system.pool.size ≤ queueCapacity
  order : system.history.filterMap PoolEvent.acceptedTask =
    system.history.filterMap PoolEvent.takenTask ++
      queue.filterMap system.pool.queue.valueAt
  runs : ∀ worker, system.history.filterMap (PoolEvent.takenBy worker) =
    system.history.filterMap (PoolEvent.ranBy worker) ++
      (currentTask system.pool.queue system.workers worker).toList
  held : ∀ (worker : Nat) (address : Nat),
    system.workers[worker]? = some (.running address) →
      (∃ task, system.pool.queue.valueAt address = some task) ∧ address ∉ queue ∧
        ∀ other, system.workers[other]? = some (.running address) → other = worker
  exited : .exited ∈ system.workers → system.pool.shutdown = true ∧ queue = []

section Steps

open ThreadPool

variable {system after : PoolSystem α} {queueCapacity : Int} {queue : List Nat}

theorem queued_create (threadNum : Nat) (room : 1 ≤ queueCapacity) :
    (create threadNum queueCapacity : PoolSystem α).Queued queueCapacity [] where
  holds := LinkedQueue.holds_empty
  size := rfl
  capacity := rfl
  bounded := by
    change (0 : Int) ≤ queueCapacity
    omega
  order := rfl
  runs := by
    intro worker
    have idle : currentTask (.empty : LinkedQueue α)
        (List.replicate threadNum .waiting) worker = none := by
      by_cases inside : worker < threadNum <;> simp [currentTask, inside]
    simp [create, ThreadPool.create, idle]
  held := by
    intro worker address running
    by_cases inside : worker < threadNum <;> simp [create, inside] at running
  exited := fun listed => by simp [create] at listed

theorem Queued.rejected (queued : system.Queued queueCapacity queue) (task : α) :
    Queued { system with history := system.history ++ [.rejected task] }
      queueCapacity queue where
  holds := queued.holds
  size := queued.size
  capacity := queued.capacity
  bounded := queued.bounded
  order := by
    simpa [List.filterMap_cons, PoolEvent.acceptedTask, PoolEvent.takenTask]
      using queued.order
  runs := fun worker => by
    simpa [List.filterMap_cons, PoolEvent.takenBy, PoolEvent.ranBy]
      using queued.runs worker
  held := queued.held
  exited := queued.exited

theorem Queued.accepted (queued : system.Queued queueCapacity queue) {task : α}
    {address : Nat} (free : system.pool.queue.valueAt address = none)
    (running : system.pool.shutdown = false)
    (room : system.pool.size ≠ system.pool.capacity) :
    Queued
      { system with
        pool := system.pool.put task address
        history := system.history ++ [.accepted task] }
      queueCapacity (queue ++ [address]) := by
  have size := queued.size
  have appends := LinkedQueue.appends_enqueue queued.holds
    (queued.holds.not_mem free) task
  have kept : ∀ other, (∃ stored, system.pool.queue.valueAt other = some stored) →
      other ≠ address ∧ (system.pool.put task address).queue.valueAt other =
        system.pool.queue.valueAt other := by
    rintro other ⟨stored, found⟩
    have different : other ≠ address := by
      rintro rfl
      rw [free] at found
      cases found
    exact ⟨different, appends.others other different⟩
  refine ⟨appends.holds, ?_, queued.capacity, ?_, ?_, ?_, ?_, ?_⟩
  · change system.pool.size + 1 = _
    rw [size, List.length_append]
    rfl
  · have bounded := queued.bounded
    rw [queued.capacity] at room
    change system.pool.size + 1 ≤ _
    omega
  · have sameTasks : queue.filterMap (system.pool.put task address).queue.valueAt =
        queue.filterMap system.pool.queue.valueAt :=
      List.filterMap_congr fun other listed =>
        (kept other (queued.holds.valueAt listed)).2
    have new : (system.pool.put task address).queue.valueAt address = some task :=
      appends.new
    simp [List.filterMap_cons, PoolEvent.acceptedTask, PoolEvent.takenTask,
      queued.order, sameTasks, new]
  · intro worker
    rw [currentTask_congr worker fun other held =>
      (kept other (queued.held _ _ held).1).2]
    simpa [List.filterMap_cons, PoolEvent.takenBy, PoolEvent.ranBy]
      using queued.runs worker
  · intro worker other held
    obtain ⟨stored, apart, alone⟩ := queued.held worker other held
    obtain ⟨different, same⟩ := kept other stored
    exact ⟨same ▸ stored, by simp [apart, different], alone⟩
  · intro exited
    rw [(queued.exited exited).1] at running
    cases running

theorem Queued.taken {address : Nat} {rest : List Nat}
    (queued : system.Queued queueCapacity (address :: rest)) {worker : Nat}
    (waiting : system.workers[worker]? = some .waiting) {pool : ThreadPool α}
    (takes : system.pool.Takes pool rest) :
    Queued
      { pool
        workers := system.workers.set worker (.running address)
        history := system.history ++
          ((pool.queue.valueAt address).map (PoolEvent.taken worker)).toList }
      queueCapacity rest := by
  have size := queued.size
  have sameTask : pool.queue.valueAt = system.pool.queue.valueAt := by
    funext other
    rw [LinkedQueue.valueAt, LinkedQueue.valueAt, takes.nodes]
  obtain ⟨task, stored⟩ := queued.holds.valueAt List.mem_cons_self
  have once := List.nodup_cons.mp queued.holds.chain.nodup
  have inside : worker < system.workers.length :=
    (List.getElem?_eq_some_iff.mp waiting).1
  refine ⟨takes.holds, ?_, takes.capacity.trans queued.capacity, ?_, ?_, ?_, ?_, ?_⟩
  · rw [takes.size, size, List.length_cons]
    omega
  · have bounded := queued.bounded
    rw [takes.size]
    omega
  · simp [List.filterMap_cons, PoolEvent.acceptedTask, PoolEvent.takenTask,
      queued.order, sameTask, stored]
  · intro other
    simp only [sameTask, stored]
    by_cases same : other = worker
    · subst same
      have before := queued.runs other
      rw [currentTask_of_waiting waiting] at before
      simp [List.filterMap_cons, PoolEvent.takenBy, PoolEvent.ranBy, before,
        currentTask, inside, sameTask, stored]
    · have before := queued.runs other
      have sameCurrent : currentTask pool.queue system.workers other =
          currentTask system.pool.queue system.workers other :=
        currentTask_congr other fun held _ => congrFun sameTask held
      rw [currentTask_set_ne same, sameCurrent]
      simpa [List.filterMap_cons, PoolEvent.takenBy, PoolEvent.ranBy, Ne.symm same]
        using before
  · intro other held running
    rw [sameTask]
    rcases worker_set running with ⟨rfl, found⟩ | ⟨different, running⟩
    · cases found
      refine ⟨⟨task, stored⟩, once.1, fun another running => ?_⟩
      rcases worker_set running with ⟨rfl, -⟩ | ⟨-, running⟩
      · rfl
      · exact ((queued.held _ _ running).2.1 List.mem_cons_self).elim
    · obtain ⟨found, apart, alone⟩ := queued.held other held running
      refine ⟨found, fun listed => apart (List.mem_cons_of_mem _ listed),
        fun another running => ?_⟩
      rcases worker_set running with ⟨rfl, found⟩ | ⟨-, running⟩
      · cases found
        exact (apart List.mem_cons_self).elim
      · exact alone another running
  · intro exited
    rcases List.mem_or_eq_of_mem_set exited with before | found
    · cases (queued.exited before).2
    · cases found

/-- A worker runs its task and frees the node. -/
theorem Queued.ran (queued : system.Queued queueCapacity queue) {worker address : Nat}
    (running : system.workers[worker]? = some (.running address)) :
    Queued
      { pool := system.pool.freeNode address
        workers := system.workers.set worker .waiting
        history := system.history ++
          ((system.pool.queue.valueAt address).map (PoolEvent.ran worker)).toList }
      queueCapacity queue := by
  obtain ⟨⟨task, stored⟩, apart, alone⟩ := queued.held worker address running
  have sameTask : ∀ other, other ≠ address →
      (system.pool.freeNode address).queue.valueAt other =
        system.pool.queue.valueAt other :=
    fun _ different => LinkedQueue.valueAt_free different
  refine ⟨queued.holds.free apart, queued.size, queued.capacity, queued.bounded,
    ?_, ?_, ?_, ?_⟩
  · have sameTasks : queue.filterMap (system.pool.freeNode address).queue.valueAt =
        queue.filterMap system.pool.queue.valueAt := by
      refine List.filterMap_congr fun other listed => sameTask other ?_
      rintro rfl
      exact apart listed
    simp [List.filterMap_cons, PoolEvent.acceptedTask, PoolEvent.takenTask,
      queued.order, stored, sameTasks]
  · intro other
    have before := queued.runs other
    by_cases same : other = worker
    · subst same
      rw [currentTask_running running, stored] at before
      simp [List.filterMap_cons, PoolEvent.takenBy, PoolEvent.ranBy, before,
        currentTask_set_waiting, stored]
    · have sameCurrent :
          currentTask (system.pool.freeNode address).queue system.workers other =
            currentTask system.pool.queue system.workers other := by
        refine currentTask_congr other fun held otherRunning => sameTask held ?_
        rintro rfl
        exact same (alone other otherRunning)
      rw [currentTask_set_ne same, sameCurrent]
      simpa [List.filterMap_cons, PoolEvent.takenBy, PoolEvent.ranBy, stored,
        Ne.symm same] using before
  · intro other held otherRunning
    rcases worker_set otherRunning with ⟨-, found⟩ | ⟨notWorker, wasRunning⟩
    · cases found
    · obtain ⟨found, notQueued, otherAlone⟩ := queued.held other held wasRunning
      have different : held ≠ address := by
        rintro rfl
        exact notWorker (alone other wasRunning)
      refine ⟨?_, notQueued, fun another running => ?_⟩
      · rwa [sameTask held different]
      · rcases worker_set running with ⟨-, found⟩ | ⟨-, running⟩
        · cases found
        · exact otherAlone another running
  · intro exited
    rcases List.mem_or_eq_of_mem_set exited with before | found
    · exact queued.exited before
    · cases found

theorem Queued.leaves (queued : system.Queued queueCapacity []) {worker : Nat}
    (waiting : system.workers[worker]? = some .waiting)
    (stops : system.pool.shutdown = true) :
    Queued { system with workers := system.workers.set worker .exited }
      queueCapacity [] where
  holds := queued.holds
  size := queued.size
  capacity := queued.capacity
  bounded := queued.bounded
  order := queued.order
  runs := by
    intro other
    have before := queued.runs other
    by_cases same : other = worker
    · subst same
      have inside : other < system.workers.length :=
        (List.getElem?_eq_some_iff.mp waiting).1
      rw [currentTask_of_waiting waiting] at before
      simpa [currentTask, inside] using before
    · rwa [currentTask_set_ne same]
  held := by
    intro other held running
    rcases worker_set running with ⟨-, found⟩ | ⟨-, running⟩
    · cases found
    · obtain ⟨found, apart, alone⟩ := queued.held other held running
      refine ⟨found, apart, fun another running => ?_⟩
      rcases worker_set running with ⟨-, found⟩ | ⟨-, running⟩
      · cases found
      · exact alone another running
  exited := fun _ => ⟨stops, rfl⟩

theorem Queued.destroyed (queued : system.Queued queueCapacity queue) :
    Queued { system with pool := system.pool.destroy } queueCapacity queue where
  holds := queued.holds
  size := queued.size
  capacity := queued.capacity
  bounded := queued.bounded
  order := queued.order
  runs := queued.runs
  held := queued.held
  exited := fun listed => ⟨rfl, (queued.exited listed).2⟩

theorem queued_step {action : PoolStep α}
    (queued : ∃ queue, system.Queued queueCapacity queue)
    (stepped : system.step action = some after) :
    ∃ queue, after.Queued queueCapacity queue := by
  obtain ⟨queue, queued⟩ := queued
  cases action with
  | add task allocated =>
      cases allocated with
      | none =>
          cases stepped
          exact ⟨queue, queued.rejected task⟩
      | some address =>
          simp only [step] at stepped
          split at stepped
          · cases stepped
          rename_i free
          have free : system.pool.queue.valueAt address = none := by simpa using free
          split at stepped
          · cases stepped
          · rename_i pool added
            cases stepped
            rcases add_cases added with ⟨same, -⟩ | ⟨-, running, room, rfl⟩
            · cases same
            · exact ⟨_, queued.accepted free running room⟩
          · rename_i pool added
            cases stepped
            rcases add_cases added with ⟨-, rfl⟩ | ⟨same, -⟩
            · exact ⟨queue, queued.rejected task⟩
            · cases same
  | wake worker =>
      simp only [step] at stepped
      split at stepped
      · rename_i waiting
        split at stepped
        · cases stepped
        · rename_i pool woken
          cases stepped
          rcases threadWorker_cases queued.holds queued.size woken with
            ⟨-, rfl, stops, rfl⟩ | ⟨address, rest, same, -⟩
          · exact ⟨[], queued.leaves waiting stops⟩
          · cases same
        · rename_i address pool woken
          cases stepped
          rcases threadWorker_cases queued.holds queued.size woken with
            ⟨same, -⟩ | ⟨first, rest, same, rfl, takes⟩
          · cases same
          · cases same
            exact ⟨rest, queued.taken waiting takes⟩
      · cases stepped
  | run worker =>
      simp only [step] at stepped
      split at stepped
      · rename_i address running
        cases stepped
        exact ⟨queue, queued.ran running⟩
      · cases stepped
  | destroy =>
      simp only [step] at stepped
      split at stepped
      · cases stepped
      · cases stepped
        exact ⟨queue, queued.destroyed⟩

/-- The history records every call once. -/
theorem called_step {action : PoolStep α} (stepped : system.step action = some after) :
    after.history.filterMap PoolEvent.calledTask =
      system.history.filterMap PoolEvent.calledTask ++
        [action].filterMap PoolStep.addedTask := by
  unfold step at stepped
  split at stepped
  · cases stepped
    simp [PoolEvent.calledTask, PoolStep.addedTask]
  · split at stepped
    · cases stepped
    split at stepped <;> cases stepped <;>
      simp [PoolEvent.calledTask, PoolStep.addedTask]
  · split at stepped
    · split at stepped
      · cases stepped
      · cases stepped
        simp [List.filterMap_cons, PoolStep.addedTask]
      · rename_i address pool woken
        cases stepped
        cases pool.queue.valueAt address <;>
          simp [List.filterMap_cons, PoolStep.addedTask, PoolEvent.calledTask]
    · cases stepped
  · split at stepped
    · rename_i address running
      cases stepped
      cases system.pool.queue.valueAt address <;>
        simp [List.filterMap_cons, PoolStep.addedTask, PoolEvent.calledTask]
    · cases stepped
  · split at stepped <;> cases stepped
    simp [List.filterMap_cons, PoolStep.addedTask]

theorem called_run {steps : List (PoolStep α)}
    (reached : runFrom step system steps = some after) :
    after.history.filterMap PoolEvent.calledTask =
      system.history.filterMap PoolEvent.calledTask ++
        steps.filterMap PoolStep.addedTask := by
  induction steps generalizing system with
  | nil =>
      cases reached
      simp
  | cons action steps inductionHypothesis =>
      obtain ⟨next, first, rest⟩ := runFrom_cons.mp reached
      rw [inductionHypothesis rest, called_step first, List.append_assoc,
        ← List.filterMap_append, List.singleton_append]

theorem workers_step {action : PoolStep α} (stepped : system.step action = some after) :
    after.workers.length = system.workers.length := by
  cases action with
  | add task allocated =>
      cases allocated <;> simp only [step] at stepped
      · cases stepped
        rfl
      · split at stepped
        · cases stepped
        split at stepped <;> cases stepped <;> rfl
  | wake worker =>
      simp only [step] at stepped
      split at stepped
      · split at stepped <;> cases stepped <;> simp
      · cases stepped
  | run worker =>
      simp only [step] at stepped
      split at stepped <;> cases stepped
      simp
  | destroy =>
      simp only [step] at stepped
      split at stepped <;> cases stepped
      rfl

theorem mem_takenBy {history : List (PoolEvent α)} {worker : Nat} {task : α} :
    task ∈ history.filterMap (PoolEvent.takenBy worker) ↔
      .taken worker task ∈ history := by
  rw [List.mem_filterMap]
  constructor
  · rintro ⟨event, listed, found⟩
    cases event <;> simp [PoolEvent.takenBy] at found
    obtain ⟨rfl, rfl⟩ := found
    exact listed
  · exact fun listed => ⟨_, listed, by simp [PoolEvent.takenBy]⟩

theorem Queued.taken_of_ran (queued : system.Queued queueCapacity queue) {worker : Nat}
    {task : α} (ran : .ran worker task ∈ system.history) :
    .taken worker task ∈ system.history := by
  rw [← mem_takenBy, queued.runs worker]
  exact List.mem_append_left _
    (List.mem_filterMap.mpr ⟨_, ran, by simp [PoolEvent.ranBy]⟩)

theorem Queued.accepted_of_taken (queued : system.Queued queueCapacity queue)
    {worker : Nat} {task : α} (taken : .taken worker task ∈ system.history) :
    .accepted task ∈ system.history := by
  have listed : task ∈ system.history.filterMap PoolEvent.acceptedTask := by
    rw [queued.order]
    exact List.mem_append_left _ (List.mem_filterMap.mpr ⟨_, taken, rfl⟩)
  obtain ⟨event, listed, found⟩ := List.mem_filterMap.mp listed
  cases event <;> cases found
  exact listed

section Distinct

variable (distinct : (system.history.filterMap PoolEvent.calledTask).Nodup)

include distinct

theorem nodup_accepted : (system.history.filterMap PoolEvent.acceptedTask).Nodup := by
  have pairwise := List.pairwise_filterMap.mp distinct
  refine List.pairwise_filterMap.mpr (pairwise.imp ?_)
  intro first second apart task isFirst other isSecond
  cases first <;> cases isFirst
  cases second <;> cases isSecond
  exact apart task rfl other rfl

theorem not_accepted_of_rejected {task : α} (rejected : .rejected task ∈ system.history) :
    .accepted task ∉ system.history := by
  intro accepted
  have pairwise := List.pairwise_filterMap.mp distinct
  have symmetric : Std.Symm fun first second : PoolEvent α => ∀ task,
      first.calledTask = some task → ∀ other, second.calledTask = some other →
        task ≠ other :=
    ⟨fun _ _ apart task isFirst other isSecond =>
      (apart other isSecond task isFirst).symm⟩
  exact pairwise.forall accepted rejected (by simp) task rfl task rfl rfl

end Distinct

theorem Queued.wakes {address : Nat} {rest : List Nat}
    (queued : system.Queued queueCapacity (address :: rest)) {worker : Nat}
    (waiting : system.workers[worker]? = some .waiting) :
    ∃ next, system.step (.wake worker) = some next ∧
      next.Queued queueCapacity rest ∧
      next.workers.length = system.workers.length ∧
      next.history.filterMap PoolEvent.acceptedTask =
        system.history.filterMap PoolEvent.acceptedTask := by
  obtain ⟨pool, woken, takes⟩ := threadWorker_takes queued.holds queued.size
  refine ⟨_, by simp [step, waiting, woken], queued.taken waiting takes, ?_, ?_⟩
  · simp
  · cases pool.queue.valueAt address <;> simp [List.filterMap_cons, PoolEvent.acceptedTask]

/-- As long as a task is queued, a worker can take the first one. -/
theorem Queued.takes_next {address : Nat} {rest : List Nat}
    (queued : system.Queued queueCapacity (address :: rest))
    (threads : 0 < system.workers.length) :
    ∃ steps next, (∀ action ∈ steps, PoolStep.OfWorker action) ∧
      runFrom step system steps = some next ∧
      next.Queued queueCapacity rest ∧ 0 < next.workers.length ∧
      next.history.filterMap PoolEvent.acceptedTask =
        system.history.filterMap PoolEvent.acceptedTask := by
  have first := List.getElem?_eq_getElem threads
  cases state : system.workers[0] with
  | waiting =>
      rw [state] at first
      obtain ⟨next, stepped, queued, lengths, same⟩ := queued.wakes first
      refine ⟨[.wake 0], next, ?_, by simp [runFrom, stepped], queued,
        lengths ▸ threads, same⟩
      simp [PoolStep.OfWorker]
  | running held =>
      rw [state] at first
      have idle := queued.ran first
      obtain ⟨next, stepped, queued, lengths, same⟩ := @wakes _ _ _ _ _ idle 0
        (by simp [threads])
      refine ⟨[.run 0, .wake 0], next, ?_, ?_, queued, ?_, same.trans ?_⟩
      · simp [PoolStep.OfWorker]
      · rw [runFrom_cons]
        exact ⟨_, by simp only [step, first]; rfl, by simp only [runFrom, stepped]⟩
      · simpa [lengths] using threads
      · cases system.pool.queue.valueAt held <;>
          simp [List.filterMap_cons, PoolEvent.acceptedTask]
  | exited =>
      rw [state] at first
      cases (queued.exited (List.mem_of_getElem? first)).2

theorem Queued.drains (queued : system.Queued queueCapacity queue)
    (threads : 0 < system.workers.length) :
    ∃ steps final, (∀ action ∈ steps, PoolStep.OfWorker action) ∧
      runFrom step system steps = some final ∧
      final.history.filterMap PoolEvent.takenTask =
        system.history.filterMap PoolEvent.acceptedTask := by
  induction queue generalizing system with
  | nil => exact ⟨[], system, by simp, rfl, by simp [queued.order]⟩
  | cons address rest inductionHypothesis =>
      obtain ⟨steps, next, ofWorkers, reached, queued, threads, same⟩ :=
        queued.takes_next threads
      obtain ⟨more, final, moreOfWorkers, finished, taken⟩ :=
        inductionHypothesis queued threads
      refine ⟨steps ++ more, final, ?_, runFrom_append.mpr ⟨next, reached, finished⟩,
        taken.trans same⟩
      intro action listed
      exact (List.mem_append.mp listed).elim (ofWorkers action) (moreOfWorkers action)

end Steps

/-- The queue keeps the order of the accepted calls, every task that a worker
takes is run by it, a task whose call has failed is never run, the workers can
always empty the queue, and they do so before they leave. -/
theorem threadPool_serves_in_order {threadNum : Nat} {queueCapacity : Int}
    (threads : 1 ≤ threadNum) (room : 1 ≤ queueCapacity) {steps : List (PoolStep α)}
    {last : PoolSystem α}
    (reached : runFrom step (create threadNum queueCapacity) steps = some last) :
    (∃ queue, Chain last.pool.queue.links last.pool.queue.head queue ∧
      last.pool.size = queue.length ∧ last.pool.queue.tail = queue.getLast? ∧
      0 ≤ last.pool.size ∧ last.pool.size ≤ queueCapacity ∧
      last.history.filterMap PoolEvent.acceptedTask =
        last.history.filterMap PoolEvent.takenTask ++
          queue.filterMap last.pool.queue.valueAt ∧
      (queue.filterMap last.pool.queue.valueAt).length = queue.length) ∧
    (∀ worker, last.history.filterMap (PoolEvent.takenBy worker) =
      last.history.filterMap (PoolEvent.ranBy worker) ++
        (currentTask last.pool.queue last.workers worker).toList) ∧
    ((steps.filterMap PoolStep.addedTask).Nodup →
      (last.history.filterMap PoolEvent.takenTask).Nodup ∧
      ∀ task, .rejected task ∈ last.history → ∀ worker,
        .taken worker task ∉ last.history ∧ .ran worker task ∉ last.history) ∧
    (∃ more final, (∀ action ∈ more, PoolStep.OfWorker action) ∧
      runFrom step last more = some final ∧
      final.history.filterMap PoolEvent.takenTask =
        last.history.filterMap PoolEvent.acceptedTask) ∧
    ((∀ state ∈ last.workers, state = .exited) →
      last.pool.queue.head = none ∧ last.pool.size = 0 ∧
      last.history.filterMap PoolEvent.takenTask =
        last.history.filterMap PoolEvent.acceptedTask) := by
  obtain ⟨queue, queued⟩ :=
    @runFrom_invariant _ _ step (fun system => ∃ queue, system.Queued queueCapacity queue)
      (fun _ _ _ => queued_step) _ _ _ ⟨[], queued_create threadNum room⟩ reached
  have workers : last.workers.length = threadNum :=
    @runFrom_invariant _ _ step (fun system => system.workers.length = threadNum)
      (fun _ _ _ same stepped => (workers_step stepped).trans same) _ _ _
      List.length_replicate reached
  have calls : last.history.filterMap PoolEvent.calledTask =
      steps.filterMap PoolStep.addedTask := called_run reached
  refine ⟨⟨queue, queued.holds.chain, queued.size, queued.holds.tail, ?_,
    queued.bounded, queued.order, ?_⟩, queued.runs, fun distinct => ⟨?_, ?_⟩,
    queued.drains (by omega), fun exited => ?_⟩
  · have sizes := queued.size
    omega
  · rw [List.length_filterMap_eq_countP, List.countP_eq_length]
    intro address listed
    obtain ⟨task, found⟩ := queued.holds.valueAt listed
    simp [found]
  · have once := nodup_accepted (calls ▸ distinct)
    rw [queued.order] at once
    exact (List.nodup_append.mp once).1
  · intro task rejected worker
    have notAccepted := not_accepted_of_rejected (calls ▸ distinct) rejected
    exact ⟨fun taken => notAccepted (queued.accepted_of_taken taken),
      fun ran => notAccepted (queued.accepted_of_taken (queued.taken_of_ran ran))⟩
  · obtain ⟨state, listed⟩ := List.exists_mem_of_length_pos
      (show 0 < last.workers.length by omega)
    obtain ⟨-, rfl⟩ := queued.exited (exited state listed ▸ listed)
    exact ⟨queued.holds.chain.head_eq, queued.size, by simp [queued.order]⟩

/-- The pool is shut down while the second of two tasks is queued. -/
theorem threadPool_serves_two_tasks :
    ∃ last, runFrom step (create 1 2)
      [.add 7 (some 0), .add 8 (some 4), .wake 0, .destroy, .add 9 (some 8), .run 0,
        .wake 0] = some last ∧
      .rejected 9 ∈ last.history ∧ .ran 0 9 ∉ last.history ∧
      last.history.filterMap (PoolEvent.takenBy 0) =
        last.history.filterMap (PoolEvent.ranBy 0) ++
          (currentTask last.pool.queue last.workers 0).toList := by
  obtain ⟨last, reached, rejected⟩ : ∃ last, runFrom step (create 1 2)
      [.add 7 (some 0), .add 8 (some 4), .wake 0, .destroy, .add 9 (some 8), .run 0,
        .wake 0] = some last ∧ .rejected 9 ∈ last.history := by
    simpa using (Option.any_eq_true _ _).mp (show ((runFrom step (create 1 2)
      [.add 7 (some 0), .add 8 (some 4), .wake 0, .destroy, .add 9 (some 8), .run 0,
        .wake 0]).any fun last => decide (.rejected 9 ∈ last.history)) = true by
      decide +kernel)
  obtain ⟨-, runs, distinct, -⟩ :=
    threadPool_serves_in_order (by decide) (by decide) reached
  have notRun := (distinct (by decide)).2 9 rejected 0
  exact ⟨last, reached, rejected, notRun.2, runs 0⟩

end PoolSystem

end CloudDrive
