import CloudDrive.DoublyLinkedBuckets
import CloudDrive.TimerWheel

/-!
# The timing wheel in memory

`timer_wheel.c` with its pointers: the two arrays hold the heads of the hash chains and
of the doubly linked lists of the slots.  An access through a pointer to nothing has no
result, and neither has a loop that meets more nodes than have ever been allocated.
-/

namespace CloudDrive

/-- `timer_node_t`. -/
structure TimerCell where
  fd : Int
  deadline : Timespec
  slot : Nat
  slotPrevious : Option Nat
  slotNext : Option Nat
  hashNext : Option Nat

/-- The wheel with the allocated nodes. -/
structure TimerMemory where
  timeoutSeconds : Nat
  slotCount : Nat
  currentSecond : Nat
  slots : Nat → Option Nat
  fdBuckets : Nat → Option Nat
  size : Nat
  nodes : Nat → Option TimerCell
  fresh : Nat

/-- What a node holds besides its links. -/
def TimerCell.node (cell : TimerCell) : TimerNode :=
  ⟨cell.fd, cell.deadline, cell.slot⟩

/-- What the inner loop of `timer_wheel_advance_at` leaves: the wheel, the descriptors
handed to `expire`, and the nodes it has examined, in order. -/
structure SlotVisit where
  memory : TimerMemory
  expired : List Int
  examined : List Nat

namespace TimerMemory

open TimerWheel (hashFd deadlineTick timespecCompare)

def hashLinks (memory : TimerMemory) : Nat → Option (Option Nat) :=
  keyOf memory.nodes TimerCell.hashNext

def nextLinks (memory : TimerMemory) : Nat → Option (Option Nat) :=
  keyOf memory.nodes TimerCell.slotNext

def previousLinks (memory : TimerMemory) : Nat → Option (Option Nat) :=
  keyOf memory.nodes TimerCell.slotPrevious

/-- `find_node`. -/
def findNode (memory : TimerMemory) (fd : Int) : Option (Option Nat) :=
  CloudDrive.findNode memory.hashLinks
    (fun address => (memory.nodes address).any fun cell => cell.fd = fd)
    memory.fresh (memory.fdBuckets (hashFd fd))

def modifyNode (memory : TimerMemory) (address : Nat) (change : TimerCell → TimerCell) :
    TimerMemory :=
  { memory with
    nodes := Function.update memory.nodes address ((memory.nodes address).map change) }

/-- A write through a pointer. -/
def writeNode (memory : TimerMemory) (address : Nat) (change : TimerCell → TimerCell) :
    Option TimerMemory :=
  if (memory.nodes address).isSome then some (memory.modifyNode address change)
  else none

/-- `node->slot_previous->slot_next = value`, or the head of the slot's list. -/
def writeSlotNext (memory : TimerMemory) (slot : Nat) (value : Option Nat) :
    Option Nat → Option TimerMemory
  | none => some { memory with slots := Function.update memory.slots slot value }
  | some previous =>
      memory.writeNode previous fun cell => { cell with slotNext := value }

/-- `node->slot_next->slot_previous = value`, if there is a next node. -/
def writeSlotPrevious (memory : TimerMemory) (value : Option Nat) :
    Option Nat → Option TimerMemory
  | none => some memory
  | some next =>
      memory.writeNode next fun cell => { cell with slotPrevious := value }

/-- `unlink_slot`. -/
def unlinkSlot (memory : TimerMemory) (address : Nat) : Option TimerMemory :=
  match memory.nodes address with
  | none => none
  | some cell =>
      (memory.writeSlotNext cell.slot cell.slotNext cell.slotPrevious).bind
        fun forward =>
      (forward.writeSlotPrevious cell.slotPrevious cell.slotNext).bind fun unlinked =>
      unlinked.writeNode address fun cell =>
        { cell with slotPrevious := none, slotNext := none }

/-- `link_slot`; the previous link of the node stays as it is. -/
def linkSlot (memory : TimerMemory) (address : Nat) : Option TimerMemory :=
  match memory.nodes address with
  | none => none
  | some cell =>
      let slot := deadlineTick cell.deadline % memory.slotCount
      let head := memory.slots slot
      (memory.writeNode address fun cell => { cell with slot, slotNext := head }).bind
        fun forward =>
      (forward.writeSlotPrevious (some address) head).map fun linked =>
        { linked with slots := Function.update linked.slots slot (some address) }

/-- `*link = value`, where `link` points to a bucket or into a node. -/
def writeHashLink (memory : TimerMemory) (bucket : Nat) (value : Option Nat) :
    Option Nat → TimerMemory
  | none =>
      { memory with fdBuckets := Function.update memory.fdBuckets bucket value }
  | some address => memory.modifyNode address fun cell => { cell with hashNext := value }

/-- `unlink_hash`. -/
def unlinkHash (memory : TimerMemory) (address : Nat) : Option TimerMemory :=
  match memory.nodes address with
  | none => none
  | some cell =>
      let bucket := hashFd cell.fd
      let head := memory.fdBuckets bucket
      match seekLink memory.hashLinks head (fun other => other = address)
          (memory.fresh + 1) none with
      | none => none
      | some link =>
          if linkValue memory.hashLinks head link = some (some address) then
            some (memory.writeHashLink bucket cell.hashNext link)
          else some memory

/-- `free(node)`. -/
def freeNode (memory : TimerMemory) (address : Nat) : TimerMemory :=
  { memory with nodes := Function.update memory.nodes address none }

/-- The four statements that take a node out of the wheel. -/
def discardNode (memory : TimerMemory) (address : Nat) : Option TimerMemory :=
  (memory.unlinkSlot address).bind fun unlinked =>
  (unlinked.unlinkHash address).map fun unhashed =>
    { unhashed.freeNode address with size := unhashed.size - 1 }

/-- `timer_wheel_create` at the time the monotonic clock reads. -/
def create (timeoutSeconds : Nat) (now : Timespec) : Option TimerMemory :=
  if timeoutSeconds = 0 then none
  else some
    { timeoutSeconds
      slotCount := timeoutSeconds + 1
      currentSecond := now.tvSec
      slots := fun _ => none
      fdBuckets := fun _ => none
      size := 0
      nodes := fun _ => none
      fresh := 0 }

/-- A new node is allocated and linked into its hash chain. -/
def hashNode (memory : TimerMemory) (fd : Int) (deadline : Timespec) : TimerMemory :=
  { memory with
    nodes := Function.update memory.nodes memory.fresh
      (some
        { fd
          deadline
          slot := 0
          slotPrevious := none
          slotNext := none
          hashNext := memory.fdBuckets (hashFd fd) })
    fdBuckets := Function.update memory.fdBuckets (hashFd fd) (some memory.fresh)
    fresh := memory.fresh + 1 }

/-- `track_locked`; `allocated` tells whether `calloc` succeeds. -/
def trackLocked (memory : TimerMemory) (fd : Int) (now : Timespec)
    (allocated : Bool) : Option (Int × TimerMemory) :=
  match memory.findNode fd with
  | none => none
  | some (some _) => some (-1, memory)
  | some none =>
      if !allocated then some (-1, memory)
      else
        ((memory.hashNode fd (now.addSeconds memory.timeoutSeconds)).linkSlot
          memory.fresh).map fun linked => (0, { linked with size := linked.size + 1 })

/-- `timer_wheel_track_at`. -/
def trackAt (memory : TimerMemory) (fd : Int) (now : Timespec)
    (allocated : Bool) : Option (Int × TimerMemory) :=
  if fd < 0 ∨ ¬ now.Valid then some (-1, memory)
  else memory.trackLocked fd now allocated

/-- `timer_wheel_track_and_publish`; no time stands for a failing clock, `published`
tells whether the callback returns zero. -/
def trackAndPublish (memory : TimerMemory) (fd : Int) (now : Option Timespec)
    (allocated published : Bool) : Option (Int × TimerMemory) :=
  if fd < 0 then some (-1, memory)
  else
    match now with
    | none => some (-1, memory)
    | some now =>
        (memory.trackLocked fd now allocated).bind fun (result, tracked) =>
          if result = 0 ∧ published = false then
            match tracked.findNode fd with
            | some (some address) =>
                (tracked.discardNode address).map fun discarded => (-1, discarded)
            | _ => none
          else some (result, tracked)

/-- `timer_wheel_touch_at`. -/
def touchAt (memory : TimerMemory) (fd : Int) (now : Timespec) :
    Option (Int × TimerMemory) :=
  if ¬ now.Valid then some (-1, memory)
  else
    match memory.findNode fd with
    | none => none
    | some none => some (-1, memory)
    | some (some address) =>
        (memory.unlinkSlot address).bind fun unlinked =>
        (unlinked.writeNode address fun cell =>
          { cell with deadline := now.addSeconds memory.timeoutSeconds }).bind
            fun rearmed =>
        (rearmed.linkSlot address).map fun linked => (0, linked)

/-- `timer_wheel_remove`. -/
def remove (memory : TimerMemory) (fd : Int) : Option TimerMemory :=
  if fd < 0 then some memory
  else
    match memory.findNode fd with
    | none => none
    | some none => some memory
    | some (some address) => memory.discardNode address

/-- One iteration of the inner loop of `timer_wheel_advance_at`, for a node that has
been read. -/
def visitNode (now : Timespec) (memory : TimerMemory) (address : Nat)
    (cell : TimerCell) : Option (TimerMemory × List Int) :=
  if timespecCompare cell.deadline now ≤ 0 then
    (memory.discardNode address).map fun discarded => (discarded, [cell.fd])
  else
    (memory.unlinkSlot address).bind fun unlinked =>
    (unlinked.linkSlot address).map fun linked => (linked, [])

/-- The inner loop of `timer_wheel_advance_at`.  The next node is read before the
current one is unlinked. -/
def visitSlot (now : Timespec) :
    Nat → TimerMemory → Option Nat → Option SlotVisit
  | _, memory, none => some ⟨memory, [], []⟩
  | 0, _, some _ => none
  | steps + 1, memory, some address =>
      match memory.nodes address with
      | none => none
      | some cell =>
          (visitNode now memory address cell).bind fun (visited, expired) =>
          (visitSlot now steps visited cell.slotNext).map fun rest =>
            ⟨rest.memory, expired ++ rest.expired, address :: rest.examined⟩

/-- The clock of the wheel moves on. -/
def tick (memory : TimerMemory) : TimerMemory :=
  { memory with currentSecond := memory.currentSecond + 1 }

/-- The head of the list of the slot the clock points to. -/
def currentHead (memory : TimerMemory) : Option Nat :=
  memory.slots (memory.currentSecond % memory.slotCount)

/-- One iteration of the outer loop of `timer_wheel_advance_at`. -/
def advanceSecond (now : Timespec) (memory : TimerMemory) : Option SlotVisit :=
  visitSlot now memory.fresh memory.tick memory.tick.currentHead

/-- A number of iterations of the outer loop. -/
def advanceLoop (now : Timespec) :
    Nat → TimerMemory → Option (TimerMemory × List Int)
  | 0, memory => some (memory, [])
  | seconds + 1, memory =>
      (advanceSecond now memory).bind fun first =>
      (advanceLoop now seconds first.memory).map fun rest =>
        (rest.1, first.expired ++ rest.2)

/-- `timer_wheel_advance_at`, with the descriptors handed to `expire` in order. -/
def advanceAt (memory : TimerMemory) (now : Timespec) :
    Option (TimerMemory × List Int) :=
  advanceLoop now (now.tvSec - memory.currentSecond) memory

end TimerMemory

end CloudDrive
