import CloudDrive.Runs
import CloudDrive.TimerRepresentation
import CloudDrive.TimerWheelRuns
import CloudDrive.TimerWheelSizes

/-!
# The links of the timing wheel in memory

After every sequence of calls on a new wheel the chains and the doubly linked lists in
memory hold every node exactly where it belongs, and no call ever follows a dangling
pointer.  The inner loop of an advance relinks the nodes it keeps at the head of the
list it walks; it has read the next node before, so it walks the list as it was.
-/

namespace CloudDrive

/-- The calls of `timer_wheel.c` with the answers of the clock, of the allocator and of
the callback. -/
inductive WheelCall where
  | trackAt (fd : Int) (now : Timespec) (allocated : Bool)
  | trackAndPublish (fd : Int) (now : Option Timespec) (allocated published : Bool)
  | touchAt (fd : Int) (now : Timespec)
  | remove (fd : Int)
  | advanceAt (now : Timespec)

/-- What a call returns, hands to `expire` and leaves. -/
structure WheelOutcome where
  result : Int
  expired : List Int
  memory : TimerMemory

/-- The tracked descriptors: a call that returns 0 tracks its descriptor, a removal and
an expiry end that. -/
def WheelCall.retrack (tracked : Int → Bool) (result : Int) (expired : List Int) :
    WheelCall → Int → Bool
  | trackAt fd _ _ | trackAndPublish fd _ _ _ =>
      if result = 0 then Function.update tracked fd true else tracked
  | touchAt _ _ => tracked
  | remove fd => Function.update tracked fd false
  | advanceAt _ => fun fd => tracked fd && fd ∉ expired

namespace TimerMemory

/-- One call; without a result if it goes wrong. -/
def perform (memory : TimerMemory) : WheelCall → Option WheelOutcome
  | .trackAt fd now allocated =>
      (memory.trackAt fd now allocated).map fun (result, after) => ⟨result, [], after⟩
  | .trackAndPublish fd now allocated published =>
      (memory.trackAndPublish fd now allocated published).map fun (result, after) =>
        ⟨result, [], after⟩
  | .touchAt fd now =>
      (memory.touchAt fd now).map fun (result, after) => ⟨result, [], after⟩
  | .remove fd => (memory.remove fd).map fun after => ⟨0, [], after⟩
  | .advanceAt now =>
      (memory.advanceAt now).map fun (after, expired) => ⟨0, expired, after⟩

/-- The wheel and the tracked descriptors after one call. -/
def step (state : TimerMemory × (Int → Bool)) (call : WheelCall) :
    Option (TimerMemory × (Int → Bool)) :=
  (state.1.perform call).map fun outcome =>
    (outcome.memory, call.retrack state.2 outcome.result outcome.expired)

open TimerWheel (hashFd deadlineTick timespecCompare)

namespace Depicts

variable {memory after : TimerMemory} {wheel : TimerWheel}

theorem keyOf_nodes {κ : Type} (depicts : Depicts memory wheel) (key : TimerNode → κ) :
    keyOf memory.nodes (fun cell => key cell.node) = keyOf wheel.nodes key := by
  funext address
  rw [← depicts.nodes, keyOf, keyOf, keyOf, Option.map_map]
  rfl

section Advancing

theorem visitNode (depicts : Depicts memory wheel) (linked : wheel.WellLinked)
    (now : Timespec) {address : Nat} {cell : TimerCell}
    (stored : memory.nodes address = some cell) :
    ∃ after, TimerMemory.visitNode now memory address cell =
        some (after, (TimerWheel.visitNode now wheel address).2) ∧
      Depicts after (TimerWheel.visitNode now wheel address).1 := by
  have isNode := depicts.node_of_cell stored
  rw [TimerMemory.visitNode, TimerWheel.visitNode, isNode]
  by_cases due : timespecCompare cell.deadline now ≤ 0
  · have dueNode : timespecCompare cell.node.deadline now ≤ 0 := due
    obtain ⟨after, isAfter, depictsAfter⟩ := depicts.discardNode linked isNode
    dsimp only
    rw [if_pos due, if_pos dueNode, isAfter]
    exact ⟨after, rfl, depictsAfter⟩
  · have aliveNode : ¬ timespecCompare cell.node.deadline now ≤ 0 := due
    obtain ⟨after, isAfter, depictsAfter⟩ := depicts.relinkNode linked isNode
    dsimp only
    rw [if_neg due, if_neg aliveNode]
    refine ⟨after, ?_, depictsAfter⟩
    obtain ⟨unlinked, isUnlinked, isLinked⟩ := Option.bind_eq_some_iff.mp isAfter
    rw [isUnlinked, Option.bind_some, isLinked]
    rfl

/-- The inner loop examines the pending part of a list and does to the wheel what the
loop over the list does. -/
theorem visitSlot (depicts : Depicts memory wheel) (linked : wheel.WellLinked)
    (now : Timespec) {slot steps fuel : Nat} {visited pending : List Nat}
    (list : wheel.slots slot = visited ++ pending) (enough : pending.length ≤ steps)
    (enoughFuel : pending.length ≤ fuel) :
    ∃ visit, TimerMemory.visitSlot now steps memory pending.head? = some visit ∧
      visit.examined = pending ∧
      visit.expired = (TimerWheel.visitSlot now fuel wheel pending.head?).2 ∧
      Depicts visit.memory (TimerWheel.visitSlot now fuel wheel pending.head?).1 := by
  induction pending generalizing memory wheel steps fuel visited with
  | nil =>
      refine ⟨⟨memory, [], []⟩, ?_, rfl, ?_, ?_⟩
      · cases steps <;> rfl
      · cases fuel <;> rfl
      · cases fuel <;> exact depicts
  | cons address rest inductionHypothesis =>
      cases steps with
      | zero => simp at enough
      | succ steps =>
      cases fuel with
      | zero => simp at enoughFuel
      | succ fuel =>
      have listed : address ∈ wheel.slots slot := by
        rw [list]
        exact List.mem_append_right _ List.mem_cons_self
      obtain ⟨node, isNode, rfl⟩ :=
        keyOf_eq_some.mp ((linked.slots.mem_iff slot address).mp listed)
      obtain ⟨cell, isCell, rfl⟩ := depicts.cell_of_node isNode
      have chain := depicts.slotLists.forward cell.node.slot
      rw [list] at chain
      have isNext : cell.slotNext = rest.head? := by
        have same := depicts.slotLists.next_eq list
        rw [nextLinks, keyOf, isCell] at same
        exact Option.some.inj same
      obtain ⟨middle, isMiddle, depictsMiddle⟩ := depicts.visitNode linked now isCell
      have linkedMiddle := (linked.visitNode now isNode).linked
      obtain ⟨visited', list'⟩ := linked.visitNode_slots now isNode list
      obtain ⟨visit, isVisit, examined, expired, depictsAfter⟩ :=
        inductionHypothesis depictsMiddle linkedMiddle list'
          (Nat.le_of_succ_le_succ enough) (Nat.le_of_succ_le_succ enoughFuel)
      have next_eq : TimerWheel.slotNext wheel address = rest.head? :=
        TimerWheel.slotNext_eq isNode list chain.notMem_front
      rw [List.head?_cons, TimerMemory.visitSlot, TimerWheel.visitSlot, isCell, next_eq]
      dsimp only
      rw [isMiddle, isNext, Option.bind_some, isVisit]
      refine ⟨_, rfl, ?_, ?_, depictsAfter⟩
      · exact congrArg (fun nodes => address :: nodes) examined
      · exact congrArg (fun fds => (TimerWheel.visitNode now wheel address).2 ++ fds)
          expired

/-- The clock of the wheel moves on. -/
theorem tick (depicts : Depicts memory wheel) :
    Depicts memory.tick { wheel with currentSecond := wheel.currentSecond + 1 } :=
  { depicts with
    currentSecond := congrArg (fun second => second + 1) depicts.currentSecond }

theorem advanceSecond (depicts : Depicts memory wheel) (linked : wheel.WellLinked)
    (now : Timespec) :
    ∃ visit, TimerMemory.advanceSecond now memory = some visit ∧
      visit.expired = (TimerWheel.advanceSecond now wheel).2 ∧
      Depicts visit.memory (TimerWheel.advanceSecond now wheel).1 := by
  have ticked := depicts.tick
  let slot := (wheel.currentSecond + 1) % wheel.slotCount
  have linkedTicked : TimerWheel.WellLinked
      { wheel with currentSecond := wheel.currentSecond + 1 } :=
    ⟨linked.slots, linked.chains, linked.slot_eq, linked.fd_injective,
      linked.fresh_free⟩
  have chain := depicts.slotLists.forward slot
  have isHead : memory.tick.currentHead = (wheel.slots slot).head? := by
    rw [currentHead, ticked.currentSecond, ticked.slotCount]
    exact chain.head_eq
  obtain ⟨visit, isVisit, -, expired, depictsAfter⟩ := ticked.visitSlot linkedTicked now
    (List.nil_append (wheel.slots slot)).symm
    (depicts.length_le_fresh chain linked.fresh_free) (Nat.le_refl _)
  refine ⟨visit, ?_, expired, depictsAfter⟩
  rw [TimerMemory.advanceSecond, isHead]
  exact isVisit

theorem advanceLoop (depicts : Depicts memory wheel) (linked : wheel.WellLinked)
    (now : Timespec) (seconds : Nat) :
    ∃ after, TimerMemory.advanceLoop now seconds memory =
        some (after, (TimerWheel.advanceLoop now seconds wheel).2) ∧
      Depicts after (TimerWheel.advanceLoop now seconds wheel).1 := by
  induction seconds generalizing memory wheel with
  | zero => exact ⟨memory, rfl, depicts⟩
  | succ seconds inductionHypothesis =>
      obtain ⟨visit, isVisit, expired, depictsMiddle⟩ :=
        depicts.advanceSecond linked now
      obtain ⟨after, isAfter, depictsAfter⟩ :=
        inductionHypothesis depictsMiddle (linked.advanceSecond now).1.linked
      refine ⟨after, ?_, depictsAfter⟩
      rw [TimerMemory.advanceLoop, isVisit, Option.bind_some, isAfter, expired]
      rfl

theorem advanceAt (depicts : Depicts memory wheel) (linked : wheel.WellLinked)
    (now : Timespec) :
    ∃ after, memory.advanceAt now = some (after, (wheel.advanceAt now).2) ∧
      Depicts after (wheel.advanceAt now).1 := by
  rw [TimerMemory.advanceAt, TimerWheel.advanceAt, depicts.currentSecond]
  exact depicts.advanceLoop linked now _

end Advancing

section Determinacy

variable {fresh : Nat} (depicts : Depicts memory wheel)
  (same : Depicts after { wheel with fresh }) (linked : wheel.WellLinked)

include depicts same

include linked in
/-- The lists determine the links of a node. -/
theorem cell_eq {address : Nat} {cell cellAfter : TimerCell}
    (stored : memory.nodes address = some cell)
    (storedAfter : after.nodes address = some cellAfter) : cellAfter = cell := by
  have isNode := depicts.node_of_cell stored
  have sameNode : cellAfter.node = cell.node :=
    Option.some.inj ((same.node_of_cell storedAfter).symm.trans isNode)
  have inSlot : address ∈ wheel.slots cell.node.slot :=
    (linked.slots.mem_iff _ _).mpr (keyOf_eq_some.mpr ⟨_, isNode, rfl⟩)
  have inChain : address ∈ wheel.fdBuckets (hashFd cell.node.fd) :=
    (linked.chains.mem_iff _ _).mpr (keyOf_eq_some.mpr ⟨_, isNode, rfl⟩)
  obtain ⟨front, rest, split⟩ := List.append_of_mem inSlot
  obtain ⟨frontHash, restHash, splitHash⟩ := List.append_of_mem inChain
  have sameNext : after.nextLinks address = memory.nextLinks address :=
    (same.slotLists.next_eq split).trans (depicts.slotLists.next_eq split).symm
  have samePrevious : after.previousLinks address = memory.previousLinks address :=
    (same.slotLists.previous_eq split).trans (depicts.slotLists.previous_eq split).symm
  have sameHash : after.hashLinks address = memory.hashLinks address := by
    have chainAfter := same.chains (hashFd cell.node.fd)
    have chain := depicts.chains (hashFd cell.node.fd)
    dsimp only at chainAfter
    rw [splitHash] at chain chainAfter
    exact chainAfter.links_eq.trans chain.links_eq.symm
  rw [nextLinks, nextLinks, keyOf, keyOf, stored, storedAfter] at sameNext
  rw [previousLinks, previousLinks, keyOf, keyOf, stored, storedAfter] at samePrevious
  rw [hashLinks, hashLinks, keyOf, keyOf, stored, storedAfter] at sameHash
  simp only [Option.map_some, Option.some.injEq] at sameNext samePrevious sameHash
  simp only [TimerCell.node, TimerNode.mk.injEq] at sameNode
  obtain ⟨sameFd, sameDeadline, sameSlot⟩ := sameNode
  cases cell
  cases cellAfter
  simp_all

include linked in
/-- The lists determine the wheel in memory. -/
theorem eq_of_lists : after = { memory with fresh } := by
  have nodes_eq : after.nodes = memory.nodes := by
    funext address
    cases stored : memory.nodes address with
    | none =>
        rw [← Option.not_isSome_iff_eq_none, same.isSome_nodes]
        rw [← Option.not_isSome_iff_eq_none, depicts.isSome_nodes] at stored
        exact stored
    | some cell =>
        obtain ⟨cellAfter, isCell, -⟩ := same.cell_of_node (depicts.node_of_cell stored)
        rw [isCell, depicts.cell_eq same linked stored isCell]
  have slots_eq : after.slots = memory.slots := by
    funext slot
    exact (same.slotLists.forward slot).head_eq.trans
      (depicts.slotLists.forward slot).head_eq.symm
  have buckets_eq : after.fdBuckets = memory.fdBuckets := by
    funext bucket
    exact (same.chains bucket).head_eq.trans (depicts.chains bucket).head_eq.symm
  cases after with
  | mk _ _ _ _ _ _ _ _ =>
      rw [TimerMemory.mk.injEq]
      exact ⟨same.timeoutSeconds.trans depicts.timeoutSeconds.symm,
        same.slotCount.trans depicts.slotCount.symm,
        same.currentSecond.trans depicts.currentSecond.symm, slots_eq, buckets_eq,
        same.size.trans depicts.size.symm, nodes_eq, same.fresh⟩

end Determinacy

end Depicts

/-- What holds of the wheel in memory between calls. -/
structure WellLinked (memory : TimerMemory) (tracked : Int → Bool) : Prop where
  node_of_tracked : ∀ fd, tracked fd = true →
    ∃! address, keyOf memory.nodes TimerCell.fd address = some fd
  tracked_of_node : ∀ address cell, memory.nodes address = some cell →
    tracked cell.fd = true
  hashFiled : FiledOnce memory.hashLinks memory.fdBuckets
    (keyOf memory.nodes fun cell => hashFd cell.fd)
  slotsFiled : ∃ lists : Nat → List Nat,
    DoublyChained memory.nextLinks memory.previousLinks memory.slots lists ∧
    ∀ slot address, (lists slot).count address =
      if keyOf memory.nodes
          (fun cell => deadlineTick cell.deadline % memory.slotCount) address =
        some slot then 1 else 0
  size_eq : Counts memory.nodes memory.size

/-- The inner loop of the next second ends and has then examined each node of the list
it started on once. -/
def ExaminesOnce (now : Timespec) (memory : TimerMemory) : Prop :=
  ∃ nodes, Chain memory.tick.nextLinks memory.tick.currentHead nodes ∧ nodes.Nodup ∧
    ∀ steps, nodes.length ≤ steps → ∃ visit,
      visitSlot now steps memory.tick memory.tick.currentHead = some visit ∧
        visit.examined = nodes

/-- The loop walks the list as it was when it started. -/
theorem Depicts.examinesOnce {memory : TimerMemory} {wheel : TimerWheel}
    (depicts : Depicts memory wheel) (linked : wheel.WellLinked) (now : Timespec) :
    ExaminesOnce now memory := by
  have ticked := depicts.tick
  have linkedTicked : TimerWheel.WellLinked
      { wheel with currentSecond := wheel.currentSecond + 1 } :=
    ⟨linked.slots, linked.chains, linked.slot_eq, linked.fd_injective,
      linked.fresh_free⟩
  let slot := memory.tick.currentSecond % memory.tick.slotCount
  have chain := ticked.slotLists.forward slot
  refine ⟨wheel.slots slot, chain, chain.nodup, fun steps enough => ?_⟩
  obtain ⟨visit, isVisit, examined, -⟩ := ticked.visitSlot linkedTicked now
    (List.nil_append (wheel.slots slot)).symm enough (Nat.le_refl _)
  refine ⟨visit, ?_, examined⟩
  rw [currentHead, chain.head_eq]
  exact isVisit

/-- The memory holds a sound wheel with these tracked descriptors. -/
structure Sound (memory : TimerMemory) (wheel : TimerWheel) (tracked : Int → Bool) :
    Prop where
  depicts : Depicts memory wheel
  linked : wheel.WellLinked
  counted : wheel.Counted
  tracked_eq : ∀ fd, tracked fd = (wheel.deadlineOf fd).isSome
  nonnegative : ∀ fd, tracked fd = true → 0 ≤ fd

theorem sound_create {timeoutSeconds : Nat} (positive : 1 ≤ timeoutSeconds)
    (start : Timespec) :
    ∃ memory wheel, create timeoutSeconds start = some memory ∧
      Sound memory wheel fun _ => false := by
  have nonzero : timeoutSeconds ≠ 0 := Nat.one_le_iff_ne_zero.mp positive
  obtain ⟨wheel, isWheel⟩ : ∃ wheel, TimerWheel.create timeoutSeconds start =
      some wheel := ⟨_, if_neg nonzero⟩
  have linked := TimerWheel.wellLinked_create isWheel
  rw [TimerWheel.create, if_neg nonzero] at isWheel
  cases isWheel
  refine ⟨_, _, if_neg nonzero, ?_, linked, ⟨[], List.nodup_nil, ?_, rfl⟩, fun _ => rfl,
    nofun⟩
  · exact ⟨⟨fun _ => .nil, fun _ => .nil⟩, fun _ => .nil, rfl, rfl, rfl, rfl, rfl, rfl⟩
  · intro address
    simp

namespace Sound

variable {memory : TimerMemory} {wheel : TimerWheel} {tracked : Int → Bool}
  (sound : Sound memory wheel tracked)

include sound

theorem node_iff (fd : Int) :
    tracked fd = true ↔ ∃ address cell, memory.nodes address = some cell ∧
      cell.fd = fd := by
  rw [sound.tracked_eq, Option.isSome_iff_exists]
  constructor
  · rintro ⟨deadline, isDeadline⟩
    obtain ⟨address, node, stored, isFd, -⟩ :=
      sound.linked.deadlineOf_eq_some.mp isDeadline
    obtain ⟨cell, isCell, rfl⟩ := sound.depicts.cell_of_node stored
    exact ⟨address, cell, isCell, isFd⟩
  · rintro ⟨address, cell, stored, isFd⟩
    exact ⟨cell.deadline, sound.linked.deadlineOf_eq_some.mpr
      ⟨address, cell.node, sound.depicts.node_of_cell stored, isFd, rfl⟩⟩

theorem wellLinked : WellLinked memory tracked where
  node_of_tracked := by
    intro fd isTracked
    obtain ⟨address, cell, stored, isFd⟩ := (sound.node_iff fd).mp isTracked
    refine ⟨address, keyOf_eq_some.mpr ⟨cell, stored, isFd⟩, ?_⟩
    intro other isOther
    obtain ⟨otherCell, otherStored, otherFd⟩ := keyOf_eq_some.mp isOther
    exact sound.linked.fd_injective other address otherCell.node cell.node
      (sound.depicts.node_of_cell otherStored) (sound.depicts.node_of_cell stored)
      (otherFd.trans isFd.symm)
  tracked_of_node := by
    intro address cell stored
    exact (sound.node_iff cell.fd).mpr ⟨address, cell, stored, rfl⟩
  hashFiled := by
    have filed := sound.depicts.chains.filedOnce sound.linked.chains
    rwa [← sound.depicts.keyOf_nodes] at filed
  slotsFiled := by
    refine ⟨wheel.slots, sound.depicts.slotLists, fun slot address => ?_⟩
    have sameKey : (keyOf memory.nodes fun cell =>
        deadlineTick cell.deadline % memory.slotCount) address =
        keyOf wheel.nodes TimerNode.slot address := by
      rw [sound.depicts.slotCount]
      refine (congrFun (sound.depicts.keyOf_nodes fun node =>
        deadlineTick node.deadline % wheel.slotCount) address).trans ?_
      rw [keyOf, keyOf]
      cases stored : wheel.nodes address with
      | none => rfl
      | some node => exact congrArg some (sound.linked.slot_eq address node stored).symm
    rw [sameKey]
    exact sound.linked.slots.count_eq slot address
  size_eq := by
    rw [sound.depicts.size]
    exact sound.counted.of_keyOf sound.depicts.nodes

/-- A call that may start or refresh the tracking of a descriptor. -/
theorem armed {fd : Int} {deadline : Timespec} {expected : Int × TimerWheel}
    {result : Option (Int × TimerMemory)} (armed : wheel.Armed fd deadline expected)
    (counted : expected.2.Counted) (simulates : Depicts.Simulates result expected)
    (nonnegative : expected.1 = 0 → 0 ≤ fd) :
    ∃ after, result = some (expected.1, after) ∧ Sound after expected.2
      (if expected.1 = 0 then Function.update tracked fd true else tracked) := by
  obtain ⟨after, isAfter, depictsAfter⟩ := simulates
  refine ⟨after, isAfter, depictsAfter, armed.linked, counted, ?_, ?_⟩
  · intro other
    rcases armed.outcome with ⟨succeeded, deadlines⟩ | ⟨refused, deadlines⟩
    · rw [if_pos succeeded, deadlines]
      by_cases same : other = fd
      · subst same
        rw [Function.update_self, Function.update_self]
        rfl
      · rw [Function.update_of_ne same, Function.update_of_ne same, sound.tracked_eq]
    · have failed : expected.1 ≠ 0 := by
        rw [refused]
        decide
      rw [if_neg failed, deadlines, sound.tracked_eq]
  · intro other isTracked
    by_cases succeeded : expected.1 = 0
    · rw [if_pos succeeded] at isTracked
      by_cases same : other = fd
      · rw [same]
        exact nonnegative succeeded
      · rw [Function.update_of_ne same] at isTracked
        exact sound.nonnegative other isTracked
    · rw [if_neg succeeded] at isTracked
      exact sound.nonnegative other isTracked

theorem trackAt (fd : Int) (now : Timespec) (allocated : Bool) :
    ∃ result after later, memory.trackAt fd now allocated = some (result, after) ∧
      Sound after later
        (if result = 0 then Function.update tracked fd true else tracked) := by
  obtain ⟨after, isAfter, later⟩ := sound.armed
    (sound.linked.trackAt fd now allocated)
    (sound.counted.trackAt sound.linked fd now allocated)
    (sound.depicts.trackAt sound.linked fd now allocated) (by
      intro succeeded
      by_contra negative
      rw [TimerWheel.trackAt, if_pos (Or.inl (not_le.mp negative))] at succeeded
      cases succeeded)
  exact ⟨_, after, _, isAfter, later⟩

theorem trackAndPublish (fd : Int) (now : Option Timespec) (allocated published : Bool) :
    ∃ result after later,
      memory.trackAndPublish fd now allocated published = some (result, after) ∧
      Sound after later
        (if result = 0 then Function.update tracked fd true else tracked) := by
  cases now with
  | none =>
      refine ⟨-1, memory, wheel, ?_, ?_⟩
      · rw [TimerMemory.trackAndPublish]
        exact ite_self _
      · rw [if_neg (by decide)]
        exact sound
  | some now =>
      obtain ⟨after, isAfter, later⟩ := sound.armed
        (sound.linked.trackAndPublish fd now allocated published)
        (sound.counted.trackAndPublish sound.linked fd now allocated published)
        (sound.depicts.trackAndPublish sound.linked fd now allocated published) (by
          intro succeeded
          by_contra negative
          rw [TimerWheel.trackAndPublish, if_pos (not_le.mp negative)] at succeeded
          cases succeeded)
      exact ⟨_, after, _, isAfter, later⟩

theorem touchAt (fd : Int) (now : Timespec) :
    ∃ result after later, memory.touchAt fd now = some (result, after) ∧
      Sound after later tracked := by
  have isTracked : (wheel.touchAt fd now).1 = 0 → tracked fd = true := by
    intro succeeded
    by_contra untracked
    rw [sound.tracked_eq, Option.not_isSome_iff_eq_none,
      ← sound.linked.findNode_eq_none_iff] at untracked
    rw [TimerWheel.touchAt, untracked] at succeeded
    dsimp only at succeeded
    rw [ite_self] at succeeded
    cases succeeded
  obtain ⟨after, isAfter, later⟩ := sound.armed (sound.linked.touchAt fd now)
    (sound.counted.touchAt sound.linked fd now)
    (sound.depicts.touchAt sound.linked fd now)
    fun succeeded => sound.nonnegative fd (isTracked succeeded)
  refine ⟨_, after, (wheel.touchAt fd now).2, isAfter, ?_⟩
  by_cases succeeded : (wheel.touchAt fd now).1 = 0
  · rw [if_pos succeeded, ← isTracked succeeded, Function.update_eq_self] at later
    exact later
  · rw [if_neg succeeded] at later
    exact later

theorem remove (fd : Int) :
    ∃ after later, memory.remove fd = some after ∧
      Sound after later (Function.update tracked fd false) := by
  obtain ⟨after, isAfter, depictsAfter⟩ := sound.depicts.remove sound.linked fd
  have counted := sound.counted.remove sound.linked fd
  refine ⟨after, wheel.remove fd, isAfter, ?_⟩
  by_cases negative : fd < 0
  · have untracked : tracked fd = false := by
      rw [← Bool.not_eq_true]
      intro isTracked
      exact absurd (sound.nonnegative fd isTracked) (not_le.mpr negative)
    rw [← untracked, Function.update_eq_self]
    rw [TimerWheel.remove, if_pos negative] at depictsAfter ⊢
    exact { sound with depicts := depictsAfter }
  · obtain ⟨linked, -, deadlines⟩ := sound.linked.remove (not_lt.mp negative)
    refine ⟨depictsAfter, linked, counted, ?_, ?_⟩
    · intro other
      rw [deadlines]
      by_cases same : other = fd
      · subst same
        rw [Function.update_self, Function.update_self]
        rfl
      · rw [Function.update_of_ne same, Function.update_of_ne same, sound.tracked_eq]
    · intro other isTracked
      by_cases same : other = fd
      · rw [same]
        exact not_lt.mp negative
      · rw [Function.update_of_ne same] at isTracked
        exact sound.nonnegative other isTracked

theorem advanceAt (now : Timespec) :
    ∃ after expired later, memory.advanceAt now = some (after, expired) ∧
      Sound after later fun fd => tracked fd && fd ∉ expired := by
  obtain ⟨after, isAfter, depictsAfter⟩ := sound.depicts.advanceAt sound.linked now
  have advanced := (sound.linked.advanceAt now).1
  refine ⟨after, _, (wheel.advanceAt now).1, isAfter, depictsAfter, advanced.linked,
    sound.counted.advanceLoop now _, ?_, ?_⟩
  · intro fd
    by_cases expired : fd ∈ (wheel.advanceAt now).2
    · rw [advanced.dropped fd expired]
      simp [expired]
    · rw [advanced.kept fd expired, sound.tracked_eq]
      simp [expired]
  · intro fd isTracked
    exact sound.nonnegative fd (Bool.and_elim_left isTracked)

theorem perform (call : WheelCall) :
    ∃ outcome later, memory.perform call = some outcome ∧
      Sound outcome.memory later
        (call.retrack tracked outcome.result outcome.expired) := by
  cases call with
  | trackAt fd now allocated =>
      obtain ⟨result, after, later, isAfter, soundAfter⟩ :=
        sound.trackAt fd now allocated
      refine ⟨⟨result, [], after⟩, later, ?_, soundAfter⟩
      rw [TimerMemory.perform, isAfter]
      rfl
  | trackAndPublish fd now allocated published =>
      obtain ⟨result, after, later, isAfter, soundAfter⟩ :=
        sound.trackAndPublish fd now allocated published
      refine ⟨⟨result, [], after⟩, later, ?_, soundAfter⟩
      rw [TimerMemory.perform, isAfter]
      rfl
  | touchAt fd now =>
      obtain ⟨result, after, later, isAfter, soundAfter⟩ := sound.touchAt fd now
      refine ⟨⟨result, [], after⟩, later, ?_, soundAfter⟩
      rw [TimerMemory.perform, isAfter]
      rfl
  | remove fd =>
      obtain ⟨after, later, isAfter, soundAfter⟩ := sound.remove fd
      refine ⟨⟨0, [], after⟩, later, ?_, soundAfter⟩
      rw [TimerMemory.perform, isAfter]
      rfl
  | advanceAt now =>
      obtain ⟨after, expired, later, isAfter, soundAfter⟩ := sound.advanceAt now
      refine ⟨⟨0, expired, after⟩, later, ?_, soundAfter⟩
      rw [TimerMemory.perform, isAfter]
      rfl

/-- A failed publication takes everything back; only the allocator has moved on. -/
theorem unpublished (fd : Int) (now : Option Timespec) (allocated : Bool) :
    ∃ after, memory.trackAndPublish fd now allocated false = some (-1, after) ∧
      after = { memory with fresh := after.fresh } := by
  cases now with
  | none =>
      refine ⟨memory, ?_, rfl⟩
      rw [TimerMemory.trackAndPublish]
      exact ite_self _
  | some now =>
      obtain ⟨after, isAfter, depictsAfter⟩ :=
        sound.depicts.trackAndPublish sound.linked fd now allocated false
      obtain ⟨fresh, unchanged⟩ :=
        sound.linked.trackAndPublish_unpublished fd now allocated
      rw [unchanged] at isAfter depictsAfter
      refine ⟨after, isAfter, ?_⟩
      have same := sound.depicts.eq_of_lists depictsAfter sound.linked
      rw [same]

theorem run (calls : List WheelCall) :
    ∃ last later lastTracked, runFrom step (memory, tracked) calls =
        some (last, lastTracked) ∧ Sound last later lastTracked := by
  induction calls generalizing memory wheel tracked with
  | nil => exact ⟨memory, wheel, tracked, rfl, sound⟩
  | cons call calls inductionHypothesis =>
      obtain ⟨outcome, later, performed, soundAfter⟩ := sound.perform call
      obtain ⟨last, lastWheel, lastTracked, reached, soundLast⟩ :=
        inductionHypothesis soundAfter
      refine ⟨last, lastWheel, lastTracked, ?_, soundLast⟩
      rw [runFrom, step, performed]
      exact reached

end Sound

/-- Every sequence of calls on a new wheel goes through and leaves it well linked.
Then a failed publication changes nothing, and after any number of seconds of an advance
the inner loop of the next one examines each node of its list once. -/
theorem wheel_stays_linked {timeoutSeconds : Nat} (positive : 1 ≤ timeoutSeconds)
    (start : Timespec) (calls : List WheelCall) :
    ∃ created memory tracked, create timeoutSeconds start = some created ∧
      runFrom step (created, fun _ => false) calls = some (memory, tracked) ∧
      memory.WellLinked tracked ∧
      (∀ fd now allocated, ∃ after,
        memory.trackAndPublish fd now allocated false = some (-1, after) ∧
          after = { memory with fresh := after.fresh }) ∧
      ∀ now seconds, ∃ middle expired,
        advanceLoop now seconds memory = some (middle, expired) ∧
          ExaminesOnce now middle := by
  obtain ⟨created, new, isCreated, soundNew⟩ := sound_create positive start
  obtain ⟨memory, wheel, tracked, reached, sound⟩ := soundNew.run calls
  refine ⟨created, memory, tracked, isCreated, reached, sound.wellLinked,
    sound.unpublished, fun now seconds => ?_⟩
  obtain ⟨middle, isMiddle, depicts⟩ := sound.depicts.advanceLoop sound.linked now seconds
  exact ⟨middle, _, isMiddle,
    depicts.examinesOnce (sound.linked.advanceLoop now seconds).1.linked now⟩

/-- Two descriptors of one bucket, one of which is touched and one of which expires. -/
theorem two_descriptors_stay_linked :
    ∃ created memory tracked, create 3 ⟨0, 0⟩ = some created ∧
      runFrom step (created, fun _ => false)
        [.trackAt 5 ⟨0, 1⟩ true, .trackAt 1029 ⟨0, 0⟩ true, .touchAt 5 ⟨2, 0⟩,
          .advanceAt ⟨4, 0⟩] = some (memory, tracked) ∧
      memory.WellLinked tracked := by
  obtain ⟨created, memory, tracked, isCreated, reached, linked, -⟩ :=
    wheel_stays_linked (show 1 ≤ 3 by decide) ⟨0, 0⟩
      [.trackAt 5 ⟨0, 1⟩ true, .trackAt 1029 ⟨0, 0⟩ true, .touchAt 5 ⟨2, 0⟩,
        .advanceAt ⟨4, 0⟩]
  exact ⟨created, memory, tracked, isCreated, reached, linked⟩

/-- The call of the wheel in memory. -/
def inMemory : TimerCall → WheelCall
  | .track fd now allocated => .trackAt fd now allocated
  | .trackAndPublish fd now allocated published =>
      .trackAndPublish fd (some now) allocated published
  | .touch fd now => .touchAt fd now
  | .remove fd => .remove fd
  | .advance now => .advanceAt now

/-- The results and reports so far and the wheel, after one more call. -/
def record (state : List (Int × List Int) × TimerMemory) (call : TimerCall) :
    Option (List (Int × List Int) × TimerMemory) :=
  (state.2.perform (inMemory call)).map fun outcome =>
    (state.1 ++ [(outcome.result, outcome.expired)], outcome.memory)

/-- The same on the lists. -/
def recordLists (state : List (Int × List Int) × TimerWheel) (call : TimerCall) :
    List (Int × List Int) × TimerWheel :=
  (state.1 ++ [(call.perform state.2).2], (call.perform state.2).1)

theorem Depicts.perform {memory : TimerMemory} {wheel : TimerWheel}
    (depicts : Depicts memory wheel) (linked : wheel.WellLinked) (call : TimerCall) :
    (call.perform wheel).1.WellLinked ∧ ∃ after, memory.perform (inMemory call) =
        some ⟨(call.perform wheel).2.1, (call.perform wheel).2.2, after⟩ ∧
      Depicts after (call.perform wheel).1 := by
  cases call with
  | track fd now allocated =>
      obtain ⟨after, isAfter, depictsAfter⟩ := depicts.trackAt linked fd now allocated
      exact ⟨(linked.trackAt fd now allocated).linked, after,
        congrArg (Option.map _) isAfter, depictsAfter⟩
  | trackAndPublish fd now allocated published =>
      obtain ⟨after, isAfter, depictsAfter⟩ :=
        depicts.trackAndPublish linked fd now allocated published
      exact ⟨(linked.trackAndPublish fd now allocated published).linked, after,
        congrArg (Option.map _) isAfter, depictsAfter⟩
  | touch fd now =>
      obtain ⟨after, isAfter, depictsAfter⟩ := depicts.touchAt linked fd now
      exact ⟨(linked.touchAt fd now).linked, after,
        congrArg (Option.map _) isAfter, depictsAfter⟩
  | remove fd =>
      obtain ⟨after, isAfter, depictsAfter⟩ := depicts.remove linked fd
      refine ⟨?_, after, congrArg (Option.map _) isAfter, depictsAfter⟩
      by_cases negative : fd < 0
      · rw [TimerCall.perform, TimerWheel.remove, if_pos negative]
        exact linked
      · exact (linked.remove (not_lt.mp negative)).1
  | advance now =>
      obtain ⟨after, isAfter, depictsAfter⟩ := depicts.advanceAt linked now
      exact ⟨(linked.advanceAt now).1.linked, after,
        congrArg (Option.map _) isAfter, depictsAfter⟩

theorem Depicts.run {memory : TimerMemory} {wheel : TimerWheel}
    (depicts : Depicts memory wheel) (linked : wheel.WellLinked)
    (calls : List TimerCall) (recorded : List (Int × List Int)) :
    (runFrom record (recorded, memory) calls).map Prod.fst =
      some (calls.foldl recordLists (recorded, wheel)).1 := by
  induction calls generalizing memory wheel recorded with
  | nil => rfl
  | cons call calls inductionHypothesis =>
      obtain ⟨linkedAfter, after, performed, depictsAfter⟩ :=
        depicts.perform linked call
      rw [runFrom, record, performed]
      exact inductionHypothesis depictsAfter linkedAfter _

/-- Every sequence of calls returns and reports the same in memory as on the lists. -/
theorem memory_answers_as_lists (timeoutSeconds : Nat) (start : Timespec)
    (calls : List TimerCall) :
    ((create timeoutSeconds start).bind fun memory =>
        (runFrom record ([], memory) calls).map Prod.fst) =
      (TimerWheel.create timeoutSeconds start).map fun wheel =>
        (calls.foldl recordLists ([], wheel)).1 := by
  by_cases zero : timeoutSeconds = 0
  · rw [create, TimerWheel.create, if_pos zero, if_pos zero]
    rfl
  · have linked := TimerWheel.wellLinked_create (if_neg zero : TimerWheel.create
      timeoutSeconds start = some _)
    rw [create, TimerWheel.create, if_neg zero, if_neg zero]
    apply Depicts.run _ linked
    exact ⟨⟨fun _ => .nil, fun _ => .nil⟩, fun _ => .nil, rfl, rfl, rfl, rfl, rfl, rfl⟩

end TimerMemory

end CloudDrive
