import CloudDrive.TimerWheelLinks

/-!
# The deadlines the timing wheel stands for

To its users the wheel is a partial map from descriptors to deadlines.  This
file says how each operation changes that map, and that one call of
`timer_wheel_advance_at` reports exactly descriptors it drops, each of them
due, and none twice.
-/

namespace CloudDrive.TimerWheel

/-- The deadline of a tracked descriptor. -/
def deadlineOf (wheel : TimerWheel) (fd : Int) : Option Timespec :=
  ((findNode wheel fd).bind wheel.nodes).map TimerNode.deadline

theorem WellLinked.deadlineOf_eq_some {wheel : TimerWheel}
    (linked : WellLinked wheel) {fd : Int} {deadline : Timespec} :
    deadlineOf wheel fd = some deadline ↔
      ∃ address node, wheel.nodes address = some node ∧
        node.fd = fd ∧ node.deadline = deadline := by
  constructor
  · intro stored
    cases found : findNode wheel fd with
    | none => simp [deadlineOf, found] at stored
    | some address =>
        obtain ⟨node, nodeStored, same⟩ := linked.findNode_eq_some.mp found
        exact ⟨address, node, nodeStored, same,
          by simpa [deadlineOf, found, nodeStored] using stored⟩
  · rintro ⟨address, node, nodeStored, rfl, rfl⟩
    simp [deadlineOf, linked.findNode_eq_some.mpr ⟨node, nodeStored, rfl⟩,
      nodeStored]

theorem WellLinked.findNode_eq_none_iff {wheel : TimerWheel}
    (linked : WellLinked wheel) {fd : Int} :
    findNode wheel fd = none ↔ deadlineOf wheel fd = none := by
  constructor
  · intro missed
    simp [deadlineOf, missed]
  · intro untracked
    rw [linked.findNode_eq_none]
    intro address node stored same
    have tracked := linked.deadlineOf_eq_some.mpr
      ⟨address, node, stored, same, rfl⟩
    simp [untracked] at tracked

/-- What no operation but the outer loop of an advance changes. -/
structure SameClock (before after : TimerWheel) : Prop where
  timeoutSeconds_eq : after.timeoutSeconds = before.timeoutSeconds
  slotCount_eq : after.slotCount = before.slotCount
  currentSecond_eq : after.currentSecond = before.currentSecond

theorem SameClock.refl (wheel : TimerWheel) : SameClock wheel wheel :=
  ⟨rfl, rfl, rfl⟩

/-- The map of deadlines changes at one descriptor when only nodes of that
descriptor change. -/
theorem deadlineOf_eq_update {before after : TimerWheel}
    (linkedBefore : WellLinked before) (linkedAfter : WellLinked after)
    (fd : Int) (value : Option Timespec)
    (others : ∀ address node, node.fd ≠ fd →
      (after.nodes address = some node ↔ before.nodes address = some node))
    (self : ∀ address node, after.nodes address = some node → node.fd = fd →
      value = some node.deadline)
    (present : ∀ deadline, value = some deadline → ∃ address node,
      after.nodes address = some node ∧ node.fd = fd ∧
        node.deadline = deadline) :
    deadlineOf after = Function.update (deadlineOf before) fd value := by
  funext other
  ext deadline
  rw [linkedAfter.deadlineOf_eq_some]
  by_cases same : other = fd
  · subst same
    rw [Function.update_self]
    constructor
    · rintro ⟨address, node, stored, sameFd, rfl⟩
      exact self address node stored sameFd
    · exact present deadline
  · rw [Function.update_of_ne same, linkedBefore.deadlineOf_eq_some]
    constructor
    · rintro ⟨address, node, stored, rfl, rest⟩
      exact ⟨address, node, (others address node same).mp stored, rfl, rest⟩
    · rintro ⟨address, node, stored, rfl, rest⟩
      exact ⟨address, node, (others address node same).mpr stored, rfl, rest⟩

section Steps

variable {wheel : TimerWheel} {address : Nat} {node : TimerNode}

theorem WellLinked.deadlineOf_discardNode (linked : WellLinked wheel)
    (stored : wheel.nodes address = some node) :
    deadlineOf (TimerWheel.discardNode wheel address) =
      Function.update (deadlineOf wheel) node.fd none := by
  apply deadlineOf_eq_update linked (linked.discardNode stored)
  · intro other otherNode differs
    rw [discardNode_nodes stored]
    refine ⟨And.right, fun otherStored => ⟨?_, otherStored⟩⟩
    rintro rfl
    cases stored.symm.trans otherStored
    exact differs rfl
  · intro other otherNode otherStored sameFd
    obtain ⟨differs, kept⟩ := (discardNode_nodes stored _ _).mp otherStored
    exact (differs (linked.fd_injective _ _ _ _ kept stored sameFd)).elim
  · intro deadline impossible
    cases impossible

theorem WellLinked.deadlineOf_relinkAt (linked : WellLinked wheel)
    (stored : wheel.nodes address = some node) (deadline : Timespec) :
    deadlineOf (TimerWheel.relinkAt wheel address node deadline) =
      Function.update (deadlineOf wheel) node.fd (some deadline) := by
  apply deadlineOf_eq_update linked (linked.relinkAt stored deadline)
  · intro other otherNode differs
    rw [relinkAt_nodes]
    constructor
    · rintro (⟨_, rfl⟩ | ⟨_, kept⟩)
      · exact (differs rfl).elim
      · exact kept
    · intro otherStored
      refine Or.inr ⟨?_, otherStored⟩
      rintro rfl
      cases stored.symm.trans otherStored
      exact differs rfl
  · intro other otherNode otherStored sameFd
    rcases (relinkAt_nodes _ _ _ _ _ _).mp otherStored with
      ⟨_, rfl⟩ | ⟨differs, kept⟩
    · rfl
    · exact (differs (linked.fd_injective _ _ _ _ kept stored sameFd)).elim
  · rintro _ ⟨rfl⟩
    exact ⟨address, _, (relinkAt_nodes _ _ _ _ _ _).mpr (Or.inl ⟨rfl, rfl⟩),
      rfl, rfl⟩

theorem WellLinked.deadlineOf_withNode (linked : WellLinked wheel) {fd : Int}
    (absent : findNode wheel fd = none) (deadline : Timespec) :
    deadlineOf (TimerWheel.withNode wheel fd deadline) =
      Function.update (deadlineOf wheel) fd (some deadline) := by
  apply deadlineOf_eq_update linked (linked.withNode absent deadline)
  · intro other otherNode differs
    rw [linked.withNode_nodes]
    constructor
    · rintro (⟨_, rfl⟩ | kept)
      · exact (differs rfl).elim
      · exact kept
    · exact Or.inr
  · intro other otherNode otherStored sameFd
    rcases (linked.withNode_nodes _ _ _ _).mp otherStored with ⟨_, rfl⟩ | kept
    · rfl
    · exact (linked.findNode_eq_none.mp absent _ _ kept sameFd).elim
  · rintro _ ⟨rfl⟩
    exact ⟨wheel.fresh, _,
      (linked.withNode_nodes _ _ _ _).mpr (Or.inl ⟨rfl, rfl⟩), rfl, rfl⟩

end Steps

/-- What a call that may start tracking or refresh a descriptor does: it
reports success and sets the deadline, or reports failure and leaves the wheel
as it was. -/
structure Armed (before : TimerWheel) (fd : Int) (deadline : Timespec)
    (result : Int × TimerWheel) : Prop where
  linked : WellLinked result.2
  sameClock : SameClock before result.2
  outcome : result.1 = 0 ∧ deadlineOf result.2 =
      Function.update (deadlineOf before) fd (some deadline) ∨
    result.1 = -1 ∧ deadlineOf result.2 = deadlineOf before

section Operations

variable {wheel : TimerWheel}

theorem WellLinked.trackLocked (linked : WellLinked wheel) (fd : Int)
    (now : Timespec) (allocated : Bool) :
    Armed wheel fd (now.addSeconds wheel.timeoutSeconds)
      (TimerWheel.trackLocked wheel fd now allocated) := by
  rw [trackLocked_eq]
  split
  · rename_i free
    exact ⟨linked.withNode free.1 _, ⟨rfl, rfl, rfl⟩,
      Or.inl ⟨rfl, linked.deadlineOf_withNode free.1 _⟩⟩
  · exact ⟨linked, SameClock.refl wheel, Or.inr ⟨rfl, rfl⟩⟩

theorem WellLinked.trackAt (linked : WellLinked wheel) (fd : Int)
    (now : Timespec) (allocated : Bool) :
    Armed wheel fd (now.addSeconds wheel.timeoutSeconds)
      (TimerWheel.trackAt wheel fd now allocated) := by
  unfold TimerWheel.trackAt
  split
  · exact ⟨linked, SameClock.refl wheel, Or.inr ⟨rfl, rfl⟩⟩
  · exact linked.trackLocked fd now allocated

theorem WellLinked.discard_withNode (linked : WellLinked wheel) {fd : Int}
    (absent : findNode wheel fd = none) (deadline : Timespec) :
    deadlineOf (TimerWheel.discardNode
        (TimerWheel.withNode wheel fd deadline) wheel.fresh) =
      deadlineOf wheel := by
  have stored : (TimerWheel.withNode wheel fd deadline).nodes wheel.fresh =
      some ⟨fd, deadline, deadlineTick deadline % wheel.slotCount⟩ :=
    (linked.withNode_nodes _ _ _ _).mpr (Or.inl ⟨rfl, rfl⟩)
  rw [(linked.withNode absent deadline).deadlineOf_discardNode stored,
    linked.deadlineOf_withNode absent]
  simp [linked.findNode_eq_none_iff.mp absent]

theorem WellLinked.trackAndPublish (linked : WellLinked wheel) (fd : Int)
    (now : Timespec) (allocated published : Bool) :
    Armed wheel fd (now.addSeconds wheel.timeoutSeconds)
      (TimerWheel.trackAndPublish wheel fd now allocated published) := by
  unfold TimerWheel.trackAndPublish
  split
  · exact ⟨linked, SameClock.refl wheel, Or.inr ⟨rfl, rfl⟩⟩
  · rw [trackLocked_eq]
    by_cases free : findNode wheel fd = none ∧ allocated = true
    · have tracked := linked.withNode free.1
        (now.addSeconds wheel.timeoutSeconds)
      have stored := (linked.withNode_nodes fd
        (now.addSeconds wheel.timeoutSeconds) _ _).mpr (Or.inl ⟨rfl, rfl⟩)
      have found := tracked.findNode_eq_some.mpr ⟨_, stored, rfl⟩
      cases published with
      | true =>
          simp only [if_pos free]
          exact ⟨tracked, ⟨rfl, rfl, rfl⟩,
            Or.inl ⟨rfl, linked.deadlineOf_withNode free.1 _⟩⟩
      | false =>
          simp only [if_pos free, and_self, if_true, found]
          refine ⟨tracked.discardNode stored, ?_,
            Or.inr ⟨rfl, linked.discard_withNode free.1 _⟩⟩
          rw [discardNode_eq stored]
          exact ⟨rfl, rfl, rfl⟩
    · simp only [if_neg free]
      exact ⟨linked, SameClock.refl wheel, Or.inr ⟨rfl, rfl⟩⟩

theorem WellLinked.touchAt (linked : WellLinked wheel) (fd : Int)
    (now : Timespec) :
    Armed wheel fd (now.addSeconds wheel.timeoutSeconds)
      (TimerWheel.touchAt wheel fd now) := by
  by_cases valid : now.Valid
  · cases found : findNode wheel fd with
    | none =>
        rw [TimerWheel.touchAt, if_neg (not_not.mpr valid), found]
        exact ⟨linked, SameClock.refl wheel, Or.inr ⟨rfl, rfl⟩⟩
    | some address =>
        obtain ⟨node, stored, rfl⟩ := linked.findNode_eq_some.mp found
        rw [touchAt_eq valid found stored]
        exact ⟨linked.relinkAt stored _, ⟨rfl, rfl, rfl⟩,
          Or.inl ⟨rfl, linked.deadlineOf_relinkAt stored _⟩⟩
  · rw [TimerWheel.touchAt, if_pos valid]
    exact ⟨linked, SameClock.refl wheel, Or.inr ⟨rfl, rfl⟩⟩

theorem WellLinked.remove (linked : WellLinked wheel)
    {fd : Int} (nonneg : 0 ≤ fd) :
    WellLinked (TimerWheel.remove wheel fd) ∧
      SameClock wheel (TimerWheel.remove wheel fd) ∧
      deadlineOf (TimerWheel.remove wheel fd) =
        Function.update (deadlineOf wheel) fd none := by
  unfold TimerWheel.remove
  rw [if_neg (by omega)]
  cases found : findNode wheel fd with
  | none =>
      refine ⟨linked, SameClock.refl wheel, ?_⟩
      simp [linked.findNode_eq_none_iff.mp found]
  | some address =>
      obtain ⟨node, stored, rfl⟩ := linked.findNode_eq_some.mp found
      refine ⟨linked.discardNode stored, ?_, linked.deadlineOf_discardNode stored⟩
      change SameClock wheel (TimerWheel.discardNode wheel address)
      rw [discardNode_eq stored]
      exact ⟨rfl, rfl, rfl⟩

end Operations

end CloudDrive.TimerWheel
