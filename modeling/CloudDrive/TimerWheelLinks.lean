import CloudDrive.TimerWheel
import CloudDrive.BucketIndex

/-!
# The links of the timing wheel

Every operation of the wheel keeps each allocated node in exactly one slot
list and exactly one hash chain.  Given that, an operation is described by
what it does to the heap of nodes, and the later files never look at the
lists again.
-/

namespace CloudDrive.TimerWheel

/-- The lists of the wheel file exactly the allocated nodes, each where its
descriptor and its deadline put it. -/
structure WellLinked (wheel : TimerWheel) : Prop where
  slots : BucketIndex wheel.slots (keyOf wheel.nodes TimerNode.slot)
  chains : BucketIndex wheel.fdBuckets
    (keyOf wheel.nodes fun node => hashFd node.fd)
  slot_eq : ∀ address node, wheel.nodes address = some node →
    node.slot = deadlineTick node.deadline % wheel.slotCount
  fd_injective : ∀ first second firstNode secondNode,
    wheel.nodes first = some firstNode → wheel.nodes second = some secondNode →
      firstNode.fd = secondNode.fd → first = second
  fresh_free : ∀ address, wheel.fresh ≤ address → wheel.nodes address = none

theorem wellLinked_create {timeoutSeconds : Nat} {now : Timespec}
    {wheel : TimerWheel} (created : create timeoutSeconds now = some wheel) :
    WellLinked wheel := by
  unfold create at created
  split at created
  · cases created
  · cases created
    exact ⟨BucketIndex.empty, BucketIndex.empty, by simp, by simp, by simp⟩

namespace WellLinked

variable {wheel : TimerWheel}

theorem findNode_eq_some (linked : WellLinked wheel) {fd : Int} {address : Nat} :
    findNode wheel fd = some address ↔
      ∃ node, wheel.nodes address = some node ∧ node.fd = fd :=
  linked.chains.findName_eq_some linked.fd_injective

theorem findNode_eq_none (linked : WellLinked wheel) {fd : Int} :
    findNode wheel fd = none ↔
      ∀ address node, wheel.nodes address = some node → node.fd ≠ fd :=
  linked.chains.findName_eq_none

end WellLinked

section Discard

variable {wheel : TimerWheel} {address : Nat} {node : TimerNode}

theorem discardNode_eq (stored : wheel.nodes address = some node) :
    discardNode wheel address =
      { wheel with
        slots := Function.update wheel.slots node.slot
          ((wheel.slots node.slot).erase address)
        fdBuckets := Function.update wheel.fdBuckets (hashFd node.fd)
          ((wheel.fdBuckets (hashFd node.fd)).erase address)
        nodes := Function.update wheel.nodes address none
        size := wheel.size - 1 } := by
  simp [discardNode, unlinkSlot, unlinkHash, freeNode, stored]

theorem discardNode_nodes (stored : wheel.nodes address = some node)
    (other : Nat) (otherNode : TimerNode) :
    (discardNode wheel address).nodes other = some otherNode ↔
      other ≠ address ∧ wheel.nodes other = some otherNode := by
  rw [discardNode_eq stored]
  by_cases same : other = address <;> simp [same]

theorem WellLinked.discardNode (linked : WellLinked wheel)
    (stored : wheel.nodes address = some node) :
    WellLinked (discardNode wheel address) := by
  have survivors := discardNode_nodes stored
  constructor
  · rw [discardNode_eq stored]
    simp only [keyOf_update]
    exact linked.slots.erase (keyOf_eq_some.mpr ⟨node, stored, rfl⟩)
  · rw [discardNode_eq stored]
    simp only [keyOf_update]
    exact linked.chains.erase (keyOf_eq_some.mpr ⟨node, stored, rfl⟩)
  · intro other otherNode otherStored
    rw [discardNode_eq stored]
    exact linked.slot_eq other otherNode ((survivors _ _).mp otherStored).2
  · intro first second firstNode secondNode firstStored secondStored
    exact linked.fd_injective first second firstNode secondNode
      ((survivors _ _).mp firstStored).2 ((survivors _ _).mp secondStored).2
  · intro other otherFresh
    have unallocated : wheel.nodes other = none :=
      linked.fresh_free other (by simpa [discardNode_eq stored] using otherFresh)
    rw [Option.eq_none_iff_forall_not_mem]
    intro otherNode otherStored
    simp [((survivors _ _).mp otherStored).2] at unallocated

end Discard

section Relink

variable {wheel : TimerWheel} {address : Nat} {node : TimerNode}

/-- A node taken out of its slot and linked again for a deadline. -/
def relinkAt (wheel : TimerWheel) (address : Nat) (node : TimerNode)
    (deadline : Timespec) : TimerWheel :=
  let slot := deadlineTick deadline % wheel.slotCount
  let without := Function.update wheel.slots node.slot
    ((wheel.slots node.slot).erase address)
  { wheel with
    nodes := Function.update wheel.nodes address
      (some { node with deadline, slot })
    slots := Function.update without slot (address :: without slot) }

theorem linkSlot_unlinkSlot (stored : wheel.nodes address = some node) :
    linkSlot (unlinkSlot wheel address) address =
      relinkAt wheel address node node.deadline := by
  simp [linkSlot, unlinkSlot, relinkAt, stored]

/-- A touch links the node again for the new deadline. -/
theorem touchAt_eq {fd : Int} {now : Timespec} (valid : now.Valid)
    (found : findNode wheel fd = some address)
    (stored : wheel.nodes address = some node) :
    touchAt wheel fd now =
      (0, relinkAt wheel address node (now.addSeconds wheel.timeoutSeconds)) := by
  rw [touchAt, if_neg (not_not.mpr valid), found]
  simp [unlinkSlot, linkSlot, relinkAt, stored]

theorem relinkAt_nodes (wheel : TimerWheel) (address : Nat) (node : TimerNode)
    (deadline : Timespec) (other : Nat) (otherNode : TimerNode) :
    (relinkAt wheel address node deadline).nodes other = some otherNode ↔
      (other = address ∧ otherNode = ⟨node.fd, deadline,
        deadlineTick deadline % wheel.slotCount⟩) ∨
      (other ≠ address ∧ wheel.nodes other = some otherNode) := by
  by_cases same : other = address
  · simp [relinkAt, same, eq_comm]
  · simp [relinkAt, same]

theorem WellLinked.relinkAt (linked : WellLinked wheel)
    (stored : wheel.nodes address = some node) (deadline : Timespec) :
    WellLinked (relinkAt wheel address node deadline) := by
  have stores := relinkAt_nodes wheel address node deadline
  constructor
  · simp only [TimerWheel.relinkAt, keyOf_update]
    exact linked.slots.move (keyOf_eq_some.mpr ⟨node, stored, rfl⟩) _
  · have unchanged : keyOf (TimerWheel.relinkAt wheel address node deadline).nodes
        (fun node => hashFd node.fd) =
          keyOf wheel.nodes fun node => hashFd node.fd := by
      funext other
      by_cases same : other = address
      · subst same; simp [TimerWheel.relinkAt, keyOf, stored]
      · simp [TimerWheel.relinkAt, keyOf, Function.update_of_ne same]
    rw [unchanged]
    exact linked.chains
  · intro other otherNode otherStored
    rcases (stores _ _).mp otherStored with ⟨_, rfl⟩ | ⟨_, otherStored⟩
    · rfl
    · exact linked.slot_eq other otherNode otherStored
  · intro first second firstNode secondNode firstStored secondStored same
    rcases (stores _ _).mp firstStored with ⟨rfl, rfl⟩ | ⟨_, firstKept⟩ <;>
      rcases (stores _ _).mp secondStored with ⟨rfl, rfl⟩ | ⟨_, secondKept⟩
    · rfl
    · exact linked.fd_injective _ _ node secondNode stored secondKept same
    · exact linked.fd_injective _ _ firstNode node firstKept stored same
    · exact linked.fd_injective _ _ _ _ firstKept secondKept same
  · intro other otherFresh
    have unallocated := linked.fresh_free other otherFresh
    rw [Option.eq_none_iff_forall_not_mem]
    intro otherNode otherStored
    rcases (stores _ _).mp otherStored with ⟨rfl, _⟩ | ⟨_, otherStored⟩
    · simp [unallocated] at stored
    · simp [unallocated] at otherStored

end Relink

section Track

variable {wheel : TimerWheel} {fd : Int}

/-- The wheel after a node has been allocated for a descriptor and linked. -/
def withNode (wheel : TimerWheel) (fd : Int) (deadline : Timespec) : TimerWheel :=
  let slot := deadlineTick deadline % wheel.slotCount
  { wheel with
    nodes := Function.update wheel.nodes wheel.fresh
      (some { fd, deadline, slot })
    fdBuckets := Function.update wheel.fdBuckets (hashFd fd)
      (wheel.fresh :: wheel.fdBuckets (hashFd fd))
    slots := Function.update wheel.slots slot (wheel.fresh :: wheel.slots slot)
    size := wheel.size + 1
    fresh := wheel.fresh + 1 }

theorem trackLocked_eq (wheel : TimerWheel) (fd : Int) (now : Timespec)
    (allocated : Bool) :
    trackLocked wheel fd now allocated =
      if findNode wheel fd = none ∧ allocated = true then
        (0, withNode wheel fd (now.addSeconds wheel.timeoutSeconds))
      else (-1, wheel) := by
  cases found : findNode wheel fd <;> cases allocated <;>
    simp [trackLocked, found, linkSlot, withNode]

theorem WellLinked.withNode_nodes (linked : WellLinked wheel) (fd : Int)
    (deadline : Timespec) (other : Nat) (otherNode : TimerNode) :
    (withNode wheel fd deadline).nodes other = some otherNode ↔
      (other = wheel.fresh ∧ otherNode = ⟨fd, deadline,
        deadlineTick deadline % wheel.slotCount⟩) ∨
      wheel.nodes other = some otherNode := by
  by_cases same : other = wheel.fresh
  · simp [withNode, same, eq_comm, linked.fresh_free]
  · simp [withNode, same]

theorem WellLinked.withNode (linked : WellLinked wheel)
    (absent : findNode wheel fd = none) (deadline : Timespec) :
    WellLinked (withNode wheel fd deadline) := by
  have unallocated := linked.fresh_free wheel.fresh (Nat.le_refl _)
  have otherFd := linked.findNode_eq_none.mp absent
  have stores := linked.withNode_nodes fd deadline
  constructor
  · simp only [TimerWheel.withNode, keyOf_update]
    exact linked.slots.cons (keyOf_eq_none.mpr unallocated) _
  · simp only [TimerWheel.withNode, keyOf_update]
    exact linked.chains.cons (keyOf_eq_none.mpr unallocated) _
  · intro other otherNode otherStored
    rcases (stores _ _).mp otherStored with ⟨_, rfl⟩ | otherStored
    · rfl
    · exact linked.slot_eq other otherNode otherStored
  · intro first second firstNode secondNode firstStored secondStored same
    rcases (stores _ _).mp firstStored with ⟨rfl, rfl⟩ | firstKept <;>
      rcases (stores _ _).mp secondStored with ⟨rfl, rfl⟩ | secondKept
    · rfl
    · exact (otherFd _ _ secondKept same.symm).elim
    · exact (otherFd _ _ firstKept same).elim
    · exact linked.fd_injective _ _ _ _ firstKept secondKept same
  · intro other otherFresh
    have beyond : wheel.fresh + 1 ≤ other := otherFresh
    rw [Option.eq_none_iff_forall_not_mem]
    intro otherNode otherStored
    rcases (stores _ _).mp otherStored with ⟨rfl, _⟩ | otherStored
    · omega
    · simp [linked.fresh_free other (by omega)] at otherStored

end Track

end CloudDrive.TimerWheel
