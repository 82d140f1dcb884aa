import Mathlib.Logic.Function.Basic
import Mathlib.Data.List.Nodup
import Mathlib.Algebra.Ring.Int.Defs
import Mathlib.Tactic.Common

/-!
# The idle timing wheel

`timer_wheel.c` keeps one node for every idle control descriptor.  A node sits
in the hash chain of its descriptor and in the list of the slot its rounded-up
deadline selects.  The wheel has one slot more than the timeout has seconds,
so a slot is visited again long before the server stops.

The intrusive links of a chain or of a slot are modelled by the list of the
node addresses they string together, head first; the nodes themselves live in
a heap, so that both lists see one update of a node.
-/

namespace CloudDrive

/-- `struct timespec`, with a clock that never reads negative seconds. -/
structure Timespec where
  tvSec : Nat
  tvNsec : Int
deriving DecidableEq, Repr

namespace Timespec

/-- The nanoseconds the explicit-time entry points accept. -/
def Valid (time : Timespec) : Prop :=
  0 ≤ time.tvNsec ∧ time.tvNsec < 1000000000

instance (time : Timespec) : Decidable time.Valid :=
  inferInstanceAs (Decidable (_ ∧ _))

/-- The order of points in time. -/
def AtMost (left right : Timespec) : Prop :=
  left.tvSec < right.tvSec ∨
    left.tvSec = right.tvSec ∧ left.tvNsec ≤ right.tvNsec

instance (left right : Timespec) : Decidable (left.AtMost right) :=
  inferInstanceAs (Decidable (_ ∨ _))

def addSeconds (time : Timespec) (seconds : Nat) : Timespec :=
  { time with tvSec := time.tvSec + seconds }

@[simp]
theorem addSeconds_tvSec (time : Timespec) (seconds : Nat) :
    (time.addSeconds seconds).tvSec = time.tvSec + seconds :=
  rfl

@[simp]
theorem addSeconds_tvNsec (time : Timespec) (seconds : Nat) :
    (time.addSeconds seconds).tvNsec = time.tvNsec :=
  rfl

end Timespec

structure TimerNode where
  fd : Int
  deadline : Timespec
  slot : Nat
deriving DecidableEq, Repr

structure TimerWheel where
  timeoutSeconds : Nat
  slotCount : Nat
  currentSecond : Nat
  slots : Nat → List Nat
  fdBuckets : Nat → List Nat
  size : Nat
  /-- The allocated nodes by address. -/
  nodes : Nat → Option TimerNode
  /-- No address from here on has been handed out yet. -/
  fresh : Nat

namespace TimerWheel

def timerFdBucketCount : Nat := 1024

/-- `hash_fd`, with the conversion of the descriptor to `unsigned int`. -/
def hashFd (fd : Int) : Nat :=
  (fd % 2 ^ 32).toNat % timerFdBucketCount

def timespecCompare (left right : Timespec) : Int :=
  if left.tvSec ≠ right.tvSec then
    if left.tvSec < right.tvSec then -1 else 1
  else if left.tvNsec ≠ right.tvNsec then
    if left.tvNsec < right.tvNsec then -1 else 1
  else 0

/-- The deadline rounded up to a whole second. -/
def deadlineTick (deadline : Timespec) : Nat :=
  deadline.tvSec + if deadline.tvNsec ≠ 0 then 1 else 0

def findNode (wheel : TimerWheel) (fd : Int) : Option Nat :=
  (wheel.fdBuckets (hashFd fd)).find? fun address =>
    (wheel.nodes address).any fun node => node.fd = fd

def unlinkSlot (wheel : TimerWheel) (address : Nat) : TimerWheel :=
  match wheel.nodes address with
  | none => wheel
  | some node =>
      { wheel with
        slots := Function.update wheel.slots node.slot
          ((wheel.slots node.slot).erase address) }

def linkSlot (wheel : TimerWheel) (address : Nat) : TimerWheel :=
  match wheel.nodes address with
  | none => wheel
  | some node =>
      let slot := deadlineTick node.deadline % wheel.slotCount
      { wheel with
        nodes := Function.update wheel.nodes address (some { node with slot })
        slots := Function.update wheel.slots slot
          (address :: wheel.slots slot) }

def unlinkHash (wheel : TimerWheel) (address : Nat) : TimerWheel :=
  match wheel.nodes address with
  | none => wheel
  | some node =>
      { wheel with
        fdBuckets := Function.update wheel.fdBuckets (hashFd node.fd)
          ((wheel.fdBuckets (hashFd node.fd)).erase address) }

/-- `free(node)`. -/
def freeNode (wheel : TimerWheel) (address : Nat) : TimerWheel :=
  { wheel with nodes := Function.update wheel.nodes address none }

/-- The four statements that take a node out of the wheel, shared by
`timer_wheel_remove`, a failed publication and an expiry. -/
def discardNode (wheel : TimerWheel) (address : Nat) : TimerWheel :=
  let unlinked := freeNode (unlinkHash (unlinkSlot wheel address) address) address
  { unlinked with size := unlinked.size - 1 }

/-- `timer_wheel_create` at the time the monotonic clock reads. -/
def create (timeoutSeconds : Nat) (now : Timespec) : Option TimerWheel :=
  if timeoutSeconds = 0 then none
  else some
    { timeoutSeconds
      slotCount := timeoutSeconds + 1
      currentSecond := now.tvSec
      slots := fun _ => []
      fdBuckets := fun _ => []
      size := 0
      nodes := fun _ => none
      fresh := 0 }

/-- `track_locked`; `allocated` tells whether `calloc` succeeds. -/
def trackLocked (wheel : TimerWheel) (fd : Int) (now : Timespec)
    (allocated : Bool) : Int × TimerWheel :=
  if (findNode wheel fd).isSome then (-1, wheel)
  else if !allocated then (-1, wheel)
  else
    let node : TimerNode :=
      { fd, deadline := now.addSeconds wheel.timeoutSeconds, slot := 0 }
    let hashed :=
      { wheel with
        nodes := Function.update wheel.nodes wheel.fresh (some node)
        fdBuckets := Function.update wheel.fdBuckets (hashFd fd)
          (wheel.fresh :: wheel.fdBuckets (hashFd fd))
        fresh := wheel.fresh + 1 }
    let linked := linkSlot hashed wheel.fresh
    (0, { linked with size := linked.size + 1 })

/-- `timer_wheel_track`; no time stands for a failing clock. -/
def track (wheel : TimerWheel) (fd : Int) (now : Option Timespec)
    (allocated : Bool) : Int × TimerWheel :=
  if fd < 0 then (-1, wheel)
  else
    match now with
    | none => (-1, wheel)
    | some now => trackLocked wheel fd now allocated

/-- `timer_wheel_track_at`. -/
def trackAt (wheel : TimerWheel) (fd : Int) (now : Timespec)
    (allocated : Bool) : Int × TimerWheel :=
  if fd < 0 ∨ ¬ now.Valid then (-1, wheel)
  else trackLocked wheel fd now allocated

/-- `timer_wheel_track_and_publish`; `published` tells whether the callback
returns zero. -/
def trackAndPublish (wheel : TimerWheel) (fd : Int) (now : Timespec)
    (allocated published : Bool) : Int × TimerWheel :=
  if fd < 0 then (-1, wheel)
  else
    match trackLocked wheel fd now allocated with
    | (result, tracked) =>
        if result = 0 ∧ published = false then
          match findNode tracked fd with
          | none => (-1, tracked)
          | some address => (-1, discardNode tracked address)
        else (result, tracked)

def touchAt (wheel : TimerWheel) (fd : Int) (now : Timespec) :
    Int × TimerWheel :=
  if ¬ now.Valid then (-1, wheel)
  else
    match findNode wheel fd with
    | none => (-1, wheel)
    | some address =>
        let unlinked := unlinkSlot wheel address
        let rearmed :=
          { unlinked with
            nodes := Function.update unlinked.nodes address
              ((unlinked.nodes address).map fun node =>
                { node with
                  deadline := now.addSeconds wheel.timeoutSeconds }) }
        (0, linkSlot rearmed address)

def remove (wheel : TimerWheel) (fd : Int) : TimerWheel :=
  if fd < 0 then wheel
  else
    match findNode wheel fd with
    | none => wheel
    | some address => discardNode wheel address

/-- The `slot_next` link of a node, read off the list of its slot. -/
def slotNext (wheel : TimerWheel) (address : Nat) : Option Nat :=
  match wheel.nodes address with
  | none => none
  | some node =>
      ((wheel.slots node.slot).dropWhile (· ≠ address)).tail.head?

/-- One iteration of the inner loop of `timer_wheel_advance_at`: the node is
dropped and its descriptor handed to `expire`, or it is linked again. -/
def visitNode (now : Timespec) (wheel : TimerWheel) (address : Nat) :
    TimerWheel × List Int :=
  match wheel.nodes address with
  | none => (wheel, [])
  | some node =>
      if timespecCompare node.deadline now ≤ 0 then
        (discardNode wheel address, [node.fd])
      else
        (linkSlot (unlinkSlot wheel address) address, [])

/-- The inner loop of `timer_wheel_advance_at`.  The next node is read before
the current one is unlinked; `fuel` bounds the length of the slot's list. -/
def visitSlot (now : Timespec) :
    Nat → TimerWheel → Option Nat → TimerWheel × List Int
  | _, wheel, none => (wheel, [])
  | 0, wheel, some _ => (wheel, [])
  | fuel + 1, wheel, some address =>
      let next := slotNext wheel address
      let visited := visitNode now wheel address
      let rest := visitSlot now fuel visited.1 next
      (rest.1, visited.2 ++ rest.2)

/-- One iteration of the outer loop of `timer_wheel_advance_at`. -/
def advanceSecond (now : Timespec) (wheel : TimerWheel) :
    TimerWheel × List Int :=
  let second := wheel.currentSecond + 1
  let slot := second % wheel.slotCount
  visitSlot now (wheel.slots slot).length
    { wheel with currentSecond := second } (wheel.slots slot).head?

def advanceLoop (now : Timespec) : Nat → TimerWheel → TimerWheel × List Int
  | 0, wheel => (wheel, [])
  | seconds + 1, wheel =>
      let first := advanceSecond now wheel
      let rest := advanceLoop now seconds first.1
      (rest.1, first.2 ++ rest.2)

/-- `timer_wheel_advance_at`, with the descriptors handed to `expire` in
order.  The outer loop runs while `current_second < now->tv_sec`. -/
def advanceAt (wheel : TimerWheel) (now : Timespec) : TimerWheel × List Int :=
  advanceLoop now (now.tvSec - wheel.currentSecond) wheel

end TimerWheel

end CloudDrive
