import CloudDrive.TimerMemory
import CloudDrive.TimerWheelExpiry

/-!
# What the timing wheel represents

The links in memory string together the lists of the timing wheel, so every operation
does in memory what it does to the lists, and never goes wrong.
-/

namespace CloudDrive.TimerMemory

open TimerWheel (hashFd deadlineTick timespecCompare WellLinked)

/-- A memory holds a timing wheel: the links are its lists. -/
structure Depicts (memory : TimerMemory) (wheel : TimerWheel) : Prop where
  slotLists : DoublyChained memory.nextLinks memory.previousLinks memory.slots
    wheel.slots
  chains : Chained memory.hashLinks memory.fdBuckets wheel.fdBuckets
  nodes : keyOf memory.nodes TimerCell.node = wheel.nodes
  size : memory.size = wheel.size
  timeoutSeconds : memory.timeoutSeconds = wheel.timeoutSeconds
  slotCount : memory.slotCount = wheel.slotCount
  currentSecond : memory.currentSecond = wheel.currentSecond
  fresh : memory.fresh = wheel.fresh

/-- Nothing changes but the lists of the slots. -/
structure SameBesidesSlots (before after : TimerMemory) : Prop where
  hashLinks : after.hashLinks = before.hashLinks
  fdBuckets : after.fdBuckets = before.fdBuckets
  nodes : keyOf after.nodes TimerCell.node = keyOf before.nodes TimerCell.node
  size : after.size = before.size
  timeoutSeconds : after.timeoutSeconds = before.timeoutSeconds
  slotCount : after.slotCount = before.slotCount
  currentSecond : after.currentSecond = before.currentSecond
  fresh : after.fresh = before.fresh

theorem SameBesidesSlots.trans {before middle after : TimerMemory}
    (first : SameBesidesSlots before middle) (second : SameBesidesSlots middle after) :
    SameBesidesSlots before after where
  hashLinks := second.hashLinks.trans first.hashLinks
  fdBuckets := second.fdBuckets.trans first.fdBuckets
  nodes := second.nodes.trans first.nodes
  size := second.size.trans first.size
  timeoutSeconds := second.timeoutSeconds.trans first.timeoutSeconds
  slotCount := second.slotCount.trans first.slotCount
  currentSecond := second.currentSecond.trans first.currentSecond
  fresh := second.fresh.trans first.fresh

theorem SameBesidesSlots.isSome_nodes {before after : TimerMemory}
    (same : SameBesidesSlots before after) (address : Nat) :
    (after.nodes address).isSome = (before.nodes address).isSome := by
  have sameNode := congrArg Option.isSome (congrFun same.nodes address)
  rwa [keyOf, keyOf, Option.isSome_map, Option.isSome_map] at sameNode

section Writes

variable {memory : TimerMemory} {address : Nat} {change : TimerCell → TimerCell}

theorem writeNode_eq (stored : (memory.nodes address).isSome) :
    memory.writeNode address change = some (memory.modifyNode address change) :=
  if_pos stored

theorem isSome_nextLinks (memory : TimerMemory) (address : Nat) :
    (memory.nextLinks address).isSome = (memory.nodes address).isSome :=
  Option.isSome_map

theorem isSome_modifyNode (other : Nat) :
    ((memory.modifyNode address change).nodes other).isSome =
      (memory.nodes other).isSome := by
  by_cases same : other = address
  · subst same
    simp [modifyNode]
  · simp [modifyNode, Function.update_of_ne same]

theorem sameBesidesSlots_modifyNode
    (keptHash : ∀ cell, (change cell).hashNext = cell.hashNext)
    (keptNode : ∀ cell, (change cell).node = cell.node) :
    SameBesidesSlots memory (memory.modifyNode address change) where
  hashLinks := keyOf_modify _ _ keptHash
  fdBuckets := rfl
  nodes := keyOf_modify _ _ keptNode
  size := rfl
  timeoutSeconds := rfl
  slotCount := rfl
  currentSecond := rfl
  fresh := rfl

/-- The link before a node is written. -/
theorem writeSlotNext_works (slot : Nat) (value : Option Nat) {link : Option Nat}
    (stored : ∀ previous, link = some previous → (memory.nodes previous).isSome) :
    ∃ after, memory.writeSlotNext slot value link = some after ∧
      SameBesidesSlots memory after ∧
      after.nextLinks = setLink memory.nextLinks value link ∧
      after.previousLinks = memory.previousLinks ∧
      after.slots = (writeLink memory.nextLinks memory.slots slot value link).2 := by
  cases link with
  | none => exact ⟨_, rfl, ⟨rfl, rfl, rfl, rfl, rfl, rfl, rfl, rfl⟩, rfl, rfl, rfl⟩
  | some previous =>
      refine ⟨_, writeNode_eq (stored previous rfl), ?_, ?_, ?_, rfl⟩
      · exact sameBesidesSlots_modifyNode (fun _ => rfl) fun _ => rfl
      · exact keyOf_overwrite (stored previous rfl) fun _ => rfl
      · exact keyOf_modify _ _ fun _ => rfl

/-- The link behind a node is written. -/
theorem writeSlotPrevious_works (value : Option Nat) {link : Option Nat}
    (stored : ∀ next, link = some next → (memory.nodes next).isSome) :
    ∃ after, memory.writeSlotPrevious value link = some after ∧
      SameBesidesSlots memory after ∧ after.nextLinks = memory.nextLinks ∧
      after.previousLinks = setLink memory.previousLinks value link ∧
      after.slots = memory.slots := by
  cases link with
  | none => exact ⟨_, rfl, ⟨rfl, rfl, rfl, rfl, rfl, rfl, rfl, rfl⟩, rfl, rfl, rfl⟩
  | some next =>
      refine ⟨_, writeNode_eq (stored next rfl), ?_, ?_, ?_, rfl⟩
      · exact sameBesidesSlots_modifyNode (fun _ => rfl) fun _ => rfl
      · exact keyOf_modify _ _ fun _ => rfl
      · exact keyOf_overwrite (stored next rfl) fun _ => rfl

end Writes

namespace Depicts

variable {memory : TimerMemory} {wheel : TimerWheel} (depicts : Depicts memory wheel)

include depicts

theorem isSome_nodes (address : Nat) :
    (memory.nodes address).isSome = (wheel.nodes address).isSome := by
  rw [← depicts.nodes, keyOf, Option.isSome_map]

theorem cell_of_node {address : Nat} {node : TimerNode}
    (stored : wheel.nodes address = some node) :
    ∃ cell, memory.nodes address = some cell ∧ cell.node = node := by
  rw [← depicts.nodes] at stored
  exact keyOf_eq_some.mp stored

theorem node_of_cell {address : Nat} {cell : TimerCell}
    (stored : memory.nodes address = some cell) :
    wheel.nodes address = some cell.node := by
  rw [← depicts.nodes, keyOf, stored]
  rfl

/-- What changes only the lists of the slots. -/
theorem sameBesidesSlots {after : TimerMemory} {slots : Nat → List Nat}
    (same : SameBesidesSlots memory after)
    (chained : DoublyChained after.nextLinks after.previousLinks after.slots slots) :
    Depicts after { wheel with slots } where
  slotLists := chained
  chains := by
    rw [same.hashLinks, same.fdBuckets]
    exact depicts.chains
  nodes := same.nodes.trans depicts.nodes
  size := same.size.trans depicts.size
  timeoutSeconds := same.timeoutSeconds.trans depicts.timeoutSeconds
  slotCount := same.slotCount.trans depicts.slotCount
  currentSecond := same.currentSecond.trans depicts.currentSecond
  fresh := same.fresh.trans depicts.fresh

section Slots

variable (apart : Apart wheel.slots) {address : Nat}

include apart

/-- The node keeps no link to the list it is taken from. -/
theorem unlinkSlot {node : TimerNode} (stored : wheel.nodes address = some node)
    (listed : address ∈ wheel.slots node.slot) :
    ∃ after, memory.unlinkSlot address = some after ∧
      Depicts after (wheel.unlinkSlot address) ∧
      after.previousLinks address = some none := by
  obtain ⟨cell, isCell, rfl⟩ := depicts.cell_of_node stored
  obtain ⟨front, rest, split⟩ := List.append_of_mem listed
  have forward := depicts.slotLists.forward cell.node.slot
  rw [split] at forward
  have isNext : cell.slotNext = rest.head? := by
    have same := depicts.slotLists.next_eq split
    rw [nextLinks, keyOf, isCell] at same
    exact Option.some.inj same
  have isPrevious : cell.slotPrevious = front.getLast? := by
    have same := depicts.slotLists.previous_eq split
    rw [previousLinks, keyOf, isCell] at same
    exact Option.some.inj same
  have linkedBefore : ∀ previous, front.getLast? = some previous →
      (memory.nodes previous).isSome := by
    intro previous isLast
    rw [← isSome_nextLinks]
    exact forward.isSome_last isLast
  have linkedBehind : ∀ next, rest.head? = some next →
      (memory.nodes next).isSome := by
    intro next isFirst
    obtain ⟨following, isFollowing⟩ := forward.stored (List.mem_append_right _
      (List.mem_cons_of_mem address (List.mem_of_head? isFirst)))
    rw [← isSome_nextLinks, isFollowing]
    rfl
  obtain ⟨one, isOne, sameOne, nextOne, previousOne, slotsOne⟩ :=
    writeSlotNext_works cell.node.slot rest.head? linkedBefore
  have behindOne : ∀ next, rest.head? = some next → (one.nodes next).isSome := by
    intro next isFirst
    rw [sameOne.isSome_nodes]
    exact linkedBehind next isFirst
  obtain ⟨two, isTwo, sameTwo, nextTwo, previousTwo, slotsTwo⟩ :=
    writeSlotPrevious_works front.getLast? behindOne
  have storedTwo : (two.nodes address).isSome := by
    rw [sameTwo.isSome_nodes, sameOne.isSome_nodes, isCell]
    rfl
  let after := two.modifyNode address fun cell =>
    { cell with slotPrevious := none, slotNext := none }
  have sameAfter : SameBesidesSlots memory after :=
    (sameOne.trans sameTwo).trans
      (sameBesidesSlots_modifyNode (fun _ => rfl) fun _ => rfl)
  have nextAfter : after.nextLinks = Function.update
      (setLink memory.nextLinks rest.head? front.getLast?) address (some none) := by
    rw [← nextOne, ← nextTwo]
    exact keyOf_overwrite storedTwo fun _ => rfl
  have previousAfter : after.previousLinks = Function.update
      (setLink memory.previousLinks front.getLast? rest.head?) address (some none) := by
    rw [← previousOne, ← previousTwo]
    exact keyOf_overwrite storedTwo fun _ => rfl
  have slotsAfter : after.slots = (writeLink memory.nextLinks memory.slots cell.node.slot
      rest.head? front.getLast?).2 := slotsTwo.trans slotsOne
  have unlinked : wheel.unlinkSlot address =
      { wheel with
        slots := Function.update wheel.slots cell.node.slot (front ++ rest) } := by
    rw [TimerWheel.unlinkSlot, stored, ← forward.erase_node, ← split]
  refine ⟨after, ?_, ?_, ?_⟩
  · have isOne' : memory.writeSlotNext cell.slot cell.slotNext cell.slotPrevious =
        some one := by
      rw [isNext, isPrevious]
      exact isOne
    have isTwo' : one.writeSlotPrevious cell.slotPrevious cell.slotNext = some two := by
      rw [isNext, isPrevious]
      exact isTwo
    rw [TimerMemory.unlinkSlot, isCell]
    dsimp only
    rw [isOne', Option.bind_some, isTwo', Option.bind_some, writeNode_eq storedTwo]
  · rw [unlinked]
    apply depicts.sameBesidesSlots sameAfter
    rw [nextAfter, previousAfter, slotsAfter]
    apply (depicts.slotLists.unlink apart split).update_outside
    exact depicts.slotLists.forward.outside_unlinked apart split
  · rw [previousAfter]
    exact Function.update_self ..

/-- A node without a previous link is linked at the head of the list of its slot. -/
theorem linkSlot {node : TimerNode} (stored : wheel.nodes address = some node)
    (outside : ∀ slot, address ∉ wheel.slots slot)
    (unlinked : memory.previousLinks address = some none) :
    ∃ after, memory.linkSlot address = some after ∧
      Depicts after (wheel.linkSlot address) := by
  obtain ⟨cell, isCell, rfl⟩ := depicts.cell_of_node stored
  have isSome : (memory.nodes address).isSome := Option.isSome_of_eq_some isCell
  let slot := deadlineTick cell.deadline % wheel.slotCount
  let one := memory.modifyNode address fun cell =>
    { cell with slot, slotNext := memory.slots slot }
  have storedFirst : ∀ first, memory.slots slot = some first →
      (one.nodes first).isSome := by
    intro first isFirst
    have forward := depicts.slotLists.forward slot
    have listed := List.mem_of_head? (forward.head_eq.symm.trans isFirst)
    obtain ⟨next, isNext⟩ := forward.stored listed
    rw [isSome_modifyNode, ← isSome_nextLinks, isNext]
    rfl
  obtain ⟨two, isTwo, sameTwo, nextTwo, previousTwo, slotsTwo⟩ :=
    writeSlotPrevious_works (some address) storedFirst
  have nextOne : one.nextLinks = Function.update memory.nextLinks address
      (some (memory.slots slot)) := keyOf_overwrite isSome fun _ => rfl
  have previousOne : one.previousLinks = memory.previousLinks :=
    keyOf_modify _ _ fun _ => rfl
  have hashOne : one.hashLinks = memory.hashLinks := keyOf_modify _ _ fun _ => rfl
  have nodesOne : keyOf one.nodes TimerCell.node =
      Function.update wheel.nodes address (some { cell.node with slot }) := by
    rw [← depicts.nodes]
    change keyOf (Function.update memory.nodes address
      ((memory.nodes address).map _)) TimerCell.node = _
    rw [keyOf_update, isCell]
    rfl
  have pushed := depicts.slotLists.push apart outside unlinked slot
  have isLinked : memory.linkSlot address =
      some { two with slots := Function.update two.slots slot (some address) } := by
    rw [TimerMemory.linkSlot, isCell]
    dsimp only
    rw [depicts.slotCount, writeNode_eq isSome, Option.bind_some, isTwo]
    rfl
  refine ⟨_, isLinked, ?_⟩
  rw [TimerWheel.linkSlot, stored]
  constructor
  · change DoublyChained two.nextLinks two.previousLinks
      (Function.update two.slots slot (some address)) _
    rw [nextTwo, previousTwo, slotsTwo, nextOne, previousOne]
    exact pushed
  · change Chained two.hashLinks two.fdBuckets wheel.fdBuckets
    rw [sameTwo.hashLinks, sameTwo.fdBuckets, hashOne]
    exact depicts.chains
  · exact sameTwo.nodes.trans nodesOne
  · exact sameTwo.size.trans depicts.size
  · exact sameTwo.timeoutSeconds.trans depicts.timeoutSeconds
  · exact sameTwo.slotCount.trans depicts.slotCount
  · exact sameTwo.currentSecond.trans depicts.currentSecond
  · exact sameTwo.fresh.trans depicts.fresh

end Slots

/-- The steps that are given to a loop over nodes are enough. -/
theorem length_le_fresh {key : TimerCell → Option Nat} {head : Option Nat}
    {nodes : List Nat} (chain : Chain (keyOf memory.nodes key) head nodes)
    (free : ∀ address, wheel.fresh ≤ address → wheel.nodes address = none) :
    nodes.length ≤ memory.fresh := by
  refine chain.length_le fun address stored => ?_
  by_contra beyond
  rw [depicts.fresh, not_lt] at beyond
  rw [keyOf, Option.isSome_map, depicts.isSome_nodes, free address beyond] at stored
  cases stored

/-- `find_node` finds what is in the list. -/
theorem findNode_eq (linked : WellLinked wheel) (fd : Int) :
    memory.findNode fd = some (wheel.findNode fd) := by
  have chain := depicts.chains (hashFd fd)
  rw [TimerMemory.findNode, TimerWheel.findNode,
    chain.findNode_eq _ (depicts.length_le_fresh chain linked.fresh_free)]
  congr 2
  funext address
  rw [← depicts.nodes, keyOf, Option.any_map]
  rfl

section Hashing

variable {address : Nat}

theorem writeHashLink_eq {bucket : Nat} {value : Option Nat} {lists : Nat → List Nat}
    (link : Option Nat)
    (stored : ∀ {previous}, link = some previous → (memory.nodes previous).isSome)
    (chains : Chained
      (writeLink memory.hashLinks memory.fdBuckets bucket value link).1
      (writeLink memory.hashLinks memory.fdBuckets bucket value link).2 lists) :
    Depicts (memory.writeHashLink bucket value link)
      { wheel with fdBuckets := lists } := by
  cases link with
  | none => exact { depicts with chains }
  | some previous =>
      have hash_eq : (memory.writeHashLink bucket value (some previous)).hashLinks =
          Function.update memory.hashLinks previous (some value) :=
        keyOf_overwrite (stored rfl) fun _ => rfl
      have next_eq : (memory.writeHashLink bucket value (some previous)).nextLinks =
          memory.nextLinks := keyOf_modify _ _ fun _ => rfl
      have previous_eq :
          (memory.writeHashLink bucket value (some previous)).previousLinks =
            memory.previousLinks := keyOf_modify _ _ fun _ => rfl
      have nodes_eq :
          keyOf (memory.writeHashLink bucket value (some previous)).nodes
            TimerCell.node = keyOf memory.nodes TimerCell.node :=
        keyOf_modify _ _ fun _ => rfl
      refine { depicts with slotLists := ?_, chains := ?_, nodes := ?_ }
      · rw [next_eq, previous_eq]
        exact depicts.slotLists
      · rw [hash_eq]
        exact chains
      · rw [nodes_eq]
        exact depicts.nodes

theorem unlinkHash (apart : Apart wheel.fdBuckets)
    (free : ∀ address, wheel.fresh ≤ address → wheel.nodes address = none)
    {node : TimerNode} (stored : wheel.nodes address = some node)
    (listed : address ∈ wheel.fdBuckets (hashFd node.fd)) :
    ∃ after, memory.unlinkHash address = some after ∧
      Depicts after (wheel.unlinkHash address) := by
  obtain ⟨cell, isCell, rfl⟩ := depicts.cell_of_node stored
  obtain ⟨front, rest, split⟩ := List.append_of_mem listed
  have chain := depicts.chains (hashFd cell.node.fd)
  rw [split] at chain
  have enough := depicts.length_le_fresh chain free
  have isNext : memory.hashLinks address = some cell.hashNext := by
    rw [hashLinks, keyOf, isCell]
    rfl
  have isUnlinked : memory.unlinkHash address =
      some (memory.writeHashLink (hashFd cell.node.fd) cell.hashNext
        front.getLast?) := by
    have found : seekLink memory.hashLinks (memory.fdBuckets (hashFd cell.fd))
        (fun other => other = address) (memory.fresh + 1) none = some front.getLast? :=
      chain.seekLink_node enough
    rw [TimerMemory.unlinkHash, isCell]
    dsimp only
    rw [found]
    exact if_pos chain.linkValue_eq
  refine ⟨_, isUnlinked, ?_⟩
  rw [TimerWheel.unlinkHash, stored]
  dsimp only
  rw [split, chain.erase_node]
  apply depicts.writeHashLink_eq
  · intro previous isLast
    have isSome := chain.isSome_last isLast
    rwa [hashLinks, keyOf, Option.isSome_map] at isSome
  · exact depicts.chains.unlink apart split isNext

/-- A node outside of the lists is freed. -/
theorem freeNode (outsideSlots : ∀ slot, address ∉ wheel.slots slot)
    (outsideChains : ∀ bucket, address ∉ wheel.fdBuckets bucket) :
    Depicts (memory.freeNode address) (wheel.freeNode address) where
  slotLists := by
    rw [nextLinks, previousLinks, TimerMemory.freeNode, keyOf_update, keyOf_update]
    exact depicts.slotLists.update_outside outsideSlots _ _
  chains := by
    rw [hashLinks, TimerMemory.freeNode, keyOf_update]
    exact depicts.chains.update_outside outsideChains _
  nodes := by
    rw [TimerMemory.freeNode, keyOf_update, depicts.nodes]
    rfl
  size := depicts.size
  timeoutSeconds := depicts.timeoutSeconds
  slotCount := depicts.slotCount
  currentSecond := depicts.currentSecond
  fresh := depicts.fresh

end Hashing

/-- The deadline of a node is set. -/
theorem rearm (address : Nat) (deadline : Timespec) :
    Depicts (memory.modifyNode address fun cell => { cell with deadline })
      { wheel with
        nodes := Function.update wheel.nodes address
          ((wheel.nodes address).map fun node => { node with deadline }) } := by
  have next_eq : (memory.modifyNode address fun cell =>
      { cell with deadline }).nextLinks = memory.nextLinks :=
    keyOf_modify _ _ fun _ => rfl
  have previous_eq : (memory.modifyNode address fun cell =>
      { cell with deadline }).previousLinks = memory.previousLinks :=
    keyOf_modify _ _ fun _ => rfl
  have hash_eq : (memory.modifyNode address fun cell =>
      { cell with deadline }).hashLinks = memory.hashLinks :=
    keyOf_modify _ _ fun _ => rfl
  refine { depicts with slotLists := ?_, chains := ?_, nodes := ?_ }
  · rw [next_eq, previous_eq]
    exact depicts.slotLists
  · rw [hash_eq]
    exact depicts.chains
  · rw [modifyNode, keyOf_update, depicts.nodes, ← depicts.nodes, keyOf, Option.map_map,
      Option.map_map]
    rfl

section Nodes

variable (linked : WellLinked wheel) {address : Nat} {node : TimerNode}
  (stored : wheel.nodes address = some node)

include linked stored

/-- A node of the wheel is taken out of its slot. -/
theorem unlinkNode :
    ∃ after, memory.unlinkSlot address = some after ∧
      Depicts after (wheel.unlinkSlot address) ∧
      Apart (wheel.unlinkSlot address).slots ∧
      (∀ slot, address ∉ (wheel.unlinkSlot address).slots slot) ∧
      after.previousLinks address = some none := by
  have isKey : keyOf wheel.nodes TimerNode.slot address = some node.slot :=
    keyOf_eq_some.mpr ⟨node, stored, rfl⟩
  obtain ⟨after, isAfter, depictsAfter, unlinked⟩ := depicts.unlinkSlot
    linked.slots.apart stored ((linked.slots.mem_iff _ _).mpr isKey)
  refine ⟨after, isAfter, depictsAfter, ?_, ?_, unlinked⟩
  · rw [TimerWheel.unlinkSlot, stored]
    exact (linked.slots.erase isKey).apart
  · rw [TimerWheel.unlinkSlot, stored]
    exact linked.slots.outside_erase isKey

theorem discardNode :
    ∃ after, memory.discardNode address = some after ∧
      Depicts after (wheel.discardNode address) := by
  have isHash : keyOf wheel.nodes (fun node => hashFd node.fd) address =
      some (hashFd node.fd) := keyOf_eq_some.mpr ⟨node, stored, rfl⟩
  obtain ⟨one, isOne, depictsOne, -, outside, -⟩ := depicts.unlinkNode linked stored
  have unlinked : wheel.unlinkSlot address =
      { wheel with
        slots := Function.update wheel.slots node.slot
          ((wheel.slots node.slot).erase address) } := by
    rw [TimerWheel.unlinkSlot, stored]
  rw [unlinked] at depictsOne outside
  obtain ⟨two, isTwo, depictsTwo⟩ := depictsOne.unlinkHash linked.chains.apart
    linked.fresh_free stored ((linked.chains.mem_iff _ _).mpr isHash)
  rw [TimerWheel.unlinkHash, stored] at depictsTwo
  have freed := depictsTwo.freeNode outside (linked.chains.outside_erase isHash)
  refine ⟨{ two.freeNode address with size := two.size - 1 }, ?_, ?_⟩
  · rw [TimerMemory.discardNode, isOne, Option.bind_some, isTwo, Option.map_some]
  · rw [TimerWheel.discardNode_eq stored]
    exact { freed with size := congrArg (fun size => size - 1) freed.size }

/-- A node is taken out of its slot and linked again. -/
theorem relinkNode :
    ∃ after, ((memory.unlinkSlot address).bind fun unlinked =>
        unlinked.linkSlot address) = some after ∧
      Depicts after ((wheel.unlinkSlot address).linkSlot address) := by
  obtain ⟨one, isOne, depictsOne, apart, outside, unlinked⟩ :=
    depicts.unlinkNode linked stored
  have storedOne : (wheel.unlinkSlot address).nodes address = some node := by
    rw [TimerWheel.unlinkSlot, stored]
    exact stored
  obtain ⟨two, isTwo, depictsTwo⟩ :=
    depictsOne.linkSlot apart storedOne outside unlinked
  refine ⟨two, ?_, depictsTwo⟩
  rw [isOne, Option.bind_some, isTwo]

end Nodes

section Calls

omit depicts in
/-- In memory a call returns the same and leaves the wheel with the same lists. -/
def Simulates (result : Option (Int × TimerMemory)) (expected : Int × TimerWheel) :
    Prop :=
  ∃ after, result = some (expected.1, after) ∧ Depicts after expected.2

theorem simulates_failure : Simulates (some (-1, memory)) (-1, wheel) :=
  ⟨memory, rfl, depicts⟩

variable (linked : WellLinked wheel)

include linked

omit depicts in
theorem fresh_outside {key : TimerNode → Nat} {lists : Nat → List Nat}
    (index : BucketIndex lists (keyOf wheel.nodes key)) (bucket : Nat) :
    wheel.fresh ∉ lists bucket := by
  rw [index.mem_iff, keyOf, linked.fresh_free wheel.fresh (Nat.le_refl _)]
  intro isKey
  cases isKey

/-- A new node is linked into its hash chain only. -/
theorem hashNode (fd : Int) (deadline : Timespec) :
    Depicts (memory.hashNode fd deadline)
      { wheel with
        nodes := Function.update wheel.nodes wheel.fresh (some ⟨fd, deadline, 0⟩)
        fdBuckets := Function.update wheel.fdBuckets (hashFd fd)
          (wheel.fresh :: wheel.fdBuckets (hashFd fd))
        fresh := wheel.fresh + 1 } where
  slotLists := by
    rw [nextLinks, previousLinks, TimerMemory.hashNode, keyOf_update, keyOf_update,
      depicts.fresh]
    exact depicts.slotLists.update_outside (fresh_outside linked linked.slots) _ _
  chains := by
    rw [hashLinks, TimerMemory.hashNode, keyOf_update, depicts.fresh]
    exact depicts.chains.push (fresh_outside linked linked.chains) (hashFd fd)
  nodes := by
    rw [TimerMemory.hashNode, keyOf_update, depicts.nodes, depicts.fresh]
    rfl
  size := depicts.size
  timeoutSeconds := depicts.timeoutSeconds
  slotCount := depicts.slotCount
  currentSecond := depicts.currentSecond
  fresh := congrArg (fun fresh => fresh + 1) depicts.fresh

theorem trackLocked (fd : Int) (now : Timespec) (allocated : Bool) :
    Simulates (memory.trackLocked fd now allocated)
      (wheel.trackLocked fd now allocated) := by
  rw [TimerMemory.trackLocked, TimerWheel.trackLocked, depicts.findNode_eq linked]
  cases wheel.findNode fd with
  | some address => exact depicts.simulates_failure
  | none =>
      cases allocated with
      | false => exact depicts.simulates_failure
      | true =>
          have hashed := depicts.hashNode linked fd
            (now.addSeconds wheel.timeoutSeconds)
          have unlinked : (memory.hashNode fd
              (now.addSeconds wheel.timeoutSeconds)).previousLinks wheel.fresh =
                some none := by
            rw [← depicts.fresh, previousLinks, TimerMemory.hashNode, keyOf_update,
              Function.update_self]
            rfl
          obtain ⟨after, isAfter, depictsAfter⟩ := hashed.linkSlot linked.slots.apart
            (Function.update_self ..) (fresh_outside linked linked.slots) unlinked
          refine ⟨{ after with size := after.size + 1 }, ?_, ?_⟩
          · rw [depicts.timeoutSeconds, depicts.fresh]
            dsimp only
            rw [isAfter]
            rfl
          · exact { depictsAfter with
              size := congrArg (fun size => size + 1) depictsAfter.size }

theorem trackAt (fd : Int) (now : Timespec) (allocated : Bool) :
    Simulates (memory.trackAt fd now allocated) (wheel.trackAt fd now allocated) := by
  rw [TimerMemory.trackAt, TimerWheel.trackAt]
  split_ifs
  · exact depicts.simulates_failure
  · exact depicts.trackLocked linked fd now allocated

theorem trackAndPublish (fd : Int) (now : Timespec) (allocated published : Bool) :
    Simulates (memory.trackAndPublish fd (some now) allocated published)
      (wheel.trackAndPublish fd now allocated published) := by
  rw [TimerMemory.trackAndPublish, TimerWheel.trackAndPublish]
  by_cases negative : fd < 0
  · rw [if_pos negative, if_pos negative]
    exact depicts.simulates_failure
  rw [if_neg negative, if_neg negative]
  have linkedAfter := (linked.trackLocked fd now allocated).linked
  obtain ⟨tracked, isTracked, depictsTracked⟩ :=
    depicts.trackLocked linked fd now allocated
  dsimp only
  rw [isTracked, Option.bind_some]
  dsimp only
  by_cases failed : (wheel.trackLocked fd now allocated).1 = 0 ∧ published = false
  · rw [if_pos failed, if_pos failed, depictsTracked.findNode_eq linkedAfter]
    cases found : (wheel.trackLocked fd now allocated).2.findNode fd with
    | none =>
        rcases (linked.trackLocked fd now allocated).outcome with
          ⟨-, armed⟩ | ⟨refused, -⟩
        · have untracked := linkedAfter.findNode_eq_none_iff.mp found
          rw [armed, Function.update_self] at untracked
          cases untracked
        · rw [failed.1] at refused
          cases refused
    | some address =>
        obtain ⟨node, stored, -⟩ := linkedAfter.findNode_eq_some.mp found
        obtain ⟨after, isAfter, depictsAfter⟩ :=
          depictsTracked.discardNode linkedAfter stored
        refine ⟨after, ?_, depictsAfter⟩
        dsimp only
        rw [isAfter]
        rfl
  · rw [if_neg failed, if_neg failed]
    exact ⟨tracked, rfl, depictsTracked⟩

theorem touchAt (fd : Int) (now : Timespec) :
    Simulates (memory.touchAt fd now) (wheel.touchAt fd now) := by
  rw [TimerMemory.touchAt, TimerWheel.touchAt]
  by_cases invalid : ¬ now.Valid
  · rw [if_pos invalid, if_pos invalid]
    exact depicts.simulates_failure
  rw [if_neg invalid, if_neg invalid, depicts.findNode_eq linked]
  cases found : wheel.findNode fd with
  | none => exact depicts.simulates_failure
  | some address =>
      obtain ⟨node, stored, -⟩ := linked.findNode_eq_some.mp found
      obtain ⟨one, isOne, depictsOne, apart, outside, unlinked⟩ :=
        depicts.unlinkNode linked stored
      have isNode : (wheel.unlinkSlot address).nodes address = some node := by
        rw [TimerWheel.unlinkSlot, stored]
        exact stored
      have isSome : (one.nodes address).isSome := by
        rw [depictsOne.isSome_nodes, isNode]
        rfl
      have rearmed := depictsOne.rearm address (now.addSeconds wheel.timeoutSeconds)
      have isRearmed : Function.update (wheel.unlinkSlot address).nodes address
          (((wheel.unlinkSlot address).nodes address).map fun node =>
            { node with deadline := now.addSeconds wheel.timeoutSeconds }) address =
          some { node with deadline := now.addSeconds wheel.timeoutSeconds } := by
        rw [Function.update_self, isNode]
        rfl
      have stillUnlinked : (one.modifyNode address fun cell =>
          { cell with deadline := now.addSeconds wheel.timeoutSeconds }).previousLinks =
            one.previousLinks := keyOf_modify _ _ fun _ => rfl
      obtain ⟨after, isAfter, depictsAfter⟩ := rearmed.linkSlot apart isRearmed outside
        ((congrFun stillUnlinked address).trans unlinked)
      refine ⟨after, ?_, depictsAfter⟩
      dsimp only
      rw [isOne, Option.bind_some, writeNode_eq isSome, Option.bind_some,
        depicts.timeoutSeconds, isAfter]
      rfl

theorem remove (fd : Int) :
    ∃ after, memory.remove fd = some after ∧ Depicts after (wheel.remove fd) := by
  rw [TimerMemory.remove, TimerWheel.remove]
  by_cases negative : fd < 0
  · rw [if_pos negative, if_pos negative]
    exact ⟨memory, rfl, depicts⟩
  rw [if_neg negative, if_neg negative, depicts.findNode_eq linked]
  cases found : wheel.findNode fd with
  | none => exact ⟨memory, rfl, depicts⟩
  | some address =>
      obtain ⟨node, stored, -⟩ := linked.findNode_eq_some.mp found
      exact depicts.discardNode linked stored

end Calls

end Depicts

end CloudDrive.TimerMemory
