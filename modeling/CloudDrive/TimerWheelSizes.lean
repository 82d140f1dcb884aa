import CloudDrive.TimerWheelExpiry

/-!
# The size of the timing wheel

The counter of the wheel is the number of its nodes: tracking adds one, every discarded
node takes one away, and relinking keeps the number.
-/

namespace CloudDrive.TimerWheel

/-- The counter is the number of the nodes. -/
def Counted (wheel : TimerWheel) : Prop :=
  Counts wheel.nodes wheel.size

namespace Counted

variable {wheel : TimerWheel} (counted : Counted wheel)

include counted

theorem discardNode {address : Nat} {node : TimerNode}
    (stored : wheel.nodes address = some node) :
    Counted (wheel.discardNode address) := by
  rw [discardNode_eq stored]
  exact counted.erase (Option.isSome_of_eq_some stored)

theorem relinkAt {address : Nat} {node : TimerNode}
    (stored : wheel.nodes address = some node) (deadline : Timespec) :
    Counted (wheel.relinkAt address node deadline) :=
  counted.replace (Option.isSome_of_eq_some stored) _

theorem withNode (linked : WellLinked wheel) (fd : Int) (deadline : Timespec) :
    Counted (wheel.withNode fd deadline) :=
  counted.insert (linked.fresh_free wheel.fresh (Nat.le_refl _)) _

section Calls

theorem trackLocked (linked : WellLinked wheel) (fd : Int) (now : Timespec)
    (allocated : Bool) : Counted (wheel.trackLocked fd now allocated).2 := by
  rw [trackLocked_eq]
  split
  · exact counted.withNode linked fd _
  · exact counted

theorem trackAt (linked : WellLinked wheel) (fd : Int) (now : Timespec)
    (allocated : Bool) : Counted (wheel.trackAt fd now allocated).2 := by
  rw [TimerWheel.trackAt]
  split
  · exact counted
  · exact counted.trackLocked linked fd now allocated

theorem trackAndPublish (linked : WellLinked wheel) (fd : Int) (now : Timespec)
    (allocated published : Bool) :
    Counted (wheel.trackAndPublish fd now allocated published).2 := by
  have tracked := counted.trackLocked linked fd now allocated
  have linkedAfter := (linked.trackLocked fd now allocated).linked
  rw [TimerWheel.trackAndPublish]
  split
  · exact counted
  · dsimp only
    split
    · cases found : (wheel.trackLocked fd now allocated).2.findNode fd with
      | none => exact tracked
      | some address =>
          obtain ⟨node, stored, -⟩ := linkedAfter.findNode_eq_some.mp found
          exact tracked.discardNode stored
    · exact tracked

theorem touchAt (linked : WellLinked wheel) (fd : Int) (now : Timespec) :
    Counted (wheel.touchAt fd now).2 := by
  by_cases valid : now.Valid
  · cases found : wheel.findNode fd with
    | none =>
        rw [TimerWheel.touchAt, if_neg (not_not.mpr valid), found]
        exact counted
    | some address =>
        obtain ⟨node, stored, -⟩ := linked.findNode_eq_some.mp found
        rw [touchAt_eq valid found stored]
        exact counted.relinkAt stored _
  · rw [TimerWheel.touchAt, if_pos valid]
    exact counted

theorem remove (linked : WellLinked wheel) (fd : Int) : Counted (wheel.remove fd) := by
  rw [TimerWheel.remove]
  split
  · exact counted
  · cases found : wheel.findNode fd with
    | none => exact counted
    | some address =>
        obtain ⟨node, stored, -⟩ := linked.findNode_eq_some.mp found
        exact counted.discardNode stored

end Calls

section Advances

theorem visitNode (now : Timespec) (address : Nat) :
    Counted (TimerWheel.visitNode now wheel address).1 := by
  rw [TimerWheel.visitNode]
  cases stored : wheel.nodes address with
  | none => exact counted
  | some node =>
      dsimp only
      split
      · exact counted.discardNode stored
      · rw [linkSlot_unlinkSlot stored]
        exact counted.relinkAt stored node.deadline

theorem visitSlot (now : Timespec) (fuel : Nat) (head : Option Nat) :
    Counted (TimerWheel.visitSlot now fuel wheel head).1 := by
  induction fuel generalizing wheel head with
  | zero => cases head <;> exact counted
  | succ fuel inductionHypothesis =>
      cases head with
      | none => exact counted
      | some address => exact inductionHypothesis (counted.visitNode now address) _

theorem advanceLoop (now : Timespec) (seconds : Nat) :
    Counted (TimerWheel.advanceLoop now seconds wheel).1 := by
  induction seconds generalizing wheel with
  | zero => exact counted
  | succ seconds inductionHypothesis =>
      apply inductionHypothesis
      have ticked : Counted { wheel with currentSecond := wheel.currentSecond + 1 } :=
        counted
      exact ticked.visitSlot now _ _

end Advances

end Counted

/-- A node that is discarded right after it was linked leaves nothing behind. -/
theorem WellLinked.discardNode_withNode {wheel : TimerWheel} (linked : WellLinked wheel)
    (fd : Int) (deadline : Timespec) :
    TimerWheel.discardNode (TimerWheel.withNode wheel fd deadline) wheel.fresh =
      { wheel with fresh := wheel.fresh + 1 } := by
  have stored := (linked.withNode_nodes fd deadline _ _).mpr (Or.inl ⟨rfl, rfl⟩)
  have unallocated := linked.fresh_free wheel.fresh (Nat.le_refl _)
  have nodes_eq : Function.update wheel.nodes wheel.fresh none = wheel.nodes := by
    rw [Function.update_eq_self_iff, unallocated]
  rw [discardNode_eq stored]
  simp [TimerWheel.withNode, nodes_eq]

/-- A failed publication leaves the wheel as it was. -/
theorem WellLinked.trackAndPublish_unpublished {wheel : TimerWheel}
    (linked : WellLinked wheel) (fd : Int) (now : Timespec) (allocated : Bool) :
    ∃ fresh, TimerWheel.trackAndPublish wheel fd now allocated false =
      (-1, { wheel with fresh }) := by
  rw [TimerWheel.trackAndPublish, trackLocked_eq]
  by_cases negative : fd < 0
  · rw [if_pos negative]
    exact ⟨wheel.fresh, rfl⟩
  rw [if_neg negative]
  by_cases free : findNode wheel fd = none ∧ allocated = true
  · have tracked := linked.withNode free.1 (now.addSeconds wheel.timeoutSeconds)
    have stored := (linked.withNode_nodes fd (now.addSeconds wheel.timeoutSeconds) _
      _).mpr (Or.inl ⟨rfl, rfl⟩)
    have found := tracked.findNode_eq_some.mpr ⟨_, stored, rfl⟩
    simp only [if_pos free, and_self, if_true, found, linked.discardNode_withNode]
    exact ⟨wheel.fresh + 1, rfl⟩
  · simp only [if_neg free]
    exact ⟨wheel.fresh, rfl⟩

end CloudDrive.TimerWheel
