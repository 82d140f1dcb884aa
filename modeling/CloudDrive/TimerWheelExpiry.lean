import CloudDrive.TimerWheelDeadlines

/-!
# Expiry of the timing wheel

An advance visits one slot for every second it moves over.  A visited slot may
hold nodes that are due in a later revolution, and these are linked again at
the head of the list that is being traversed.  The invariant that carries the
argument is `Ahead`: the rounded-up deadline of every tracked descriptor lies
beyond the second the wheel has reached.
-/

namespace CloudDrive.TimerWheel

theorem timespecCompare_le_zero (left right : Timespec) :
    timespecCompare left right ≤ 0 ↔ left.AtMost right := by
  unfold timespecCompare Timespec.AtMost
  split_ifs <;> omega

/-- A deadline whose rounded-up second has been reached is due. -/
theorem atMost_of_deadlineTick_le {deadline now : Timespec}
    (reached : deadlineTick deadline ≤ now.tvSec) (nonneg : 0 ≤ now.tvNsec) :
    deadline.AtMost now := by
  unfold deadlineTick at reached
  unfold Timespec.AtMost
  split_ifs at reached <;> omega

/-- What one or several steps of an advance to `now` do. -/
structure Advanced (now : Timespec) (before : TimerWheel)
    (result : TimerWheel × List Int) : Prop where
  linked : WellLinked result.1
  timeoutSeconds_eq : result.1.timeoutSeconds = before.timeoutSeconds
  slotCount_eq : result.1.slotCount = before.slotCount
  kept : ∀ fd, fd ∉ result.2 → deadlineOf result.1 fd = deadlineOf before fd
  dropped : ∀ fd ∈ result.2, deadlineOf result.1 fd = none
  due : ∀ fd ∈ result.2, ∃ deadline,
    deadlineOf before fd = some deadline ∧ deadline.AtMost now
  nodup : result.2.Nodup

theorem Advanced.refl {wheel : TimerWheel} (linked : WellLinked wheel)
    (now : Timespec) : Advanced now wheel (wheel, []) := by
  constructor <;> simp [linked]

theorem Advanced.trans {now : Timespec} {before middle after : TimerWheel}
    {first second : List Int} (one : Advanced now before (middle, first))
    (two : Advanced now middle (after, second)) :
    Advanced now before (after, first ++ second) := by
  have disjoint : ∀ fd ∈ first, fd ∉ second := by
    intro fd reported again
    obtain ⟨deadline, tracked, _⟩ := two.due fd again
    simp [one.dropped fd reported] at tracked
  constructor
  · exact two.linked
  · exact two.timeoutSeconds_eq.trans one.timeoutSeconds_eq
  · exact two.slotCount_eq.trans one.slotCount_eq
  · intro fd silent
    simp only [List.mem_append, not_or] at silent
    exact (two.kept fd silent.2).trans (one.kept fd silent.1)
  · intro fd reported
    rcases List.mem_append.mp reported with early | late
    · exact (two.kept fd (disjoint fd early)).trans (one.dropped fd early)
    · exact two.dropped fd late
  · intro fd reported
    rcases List.mem_append.mp reported with early | late
    · exact one.due fd early
    · obtain ⟨deadline, tracked, isDue⟩ := two.due fd late
      have silent : fd ∉ first := fun early => disjoint fd early late
      exact ⟨deadline, (one.kept fd silent).symm.trans tracked, isDue⟩
  · exact List.nodup_append.mpr ⟨one.nodup, two.nodup,
      fun fd early other late same => disjoint fd early (same ▸ late)⟩

section Slot

variable {now : Timespec} {wheel : TimerWheel} {address : Nat}
  {node : TimerNode}

theorem WellLinked.visitNode (linked : WellLinked wheel) (now : Timespec)
    (stored : wheel.nodes address = some node) :
    Advanced now wheel (TimerWheel.visitNode now wheel address) := by
  have deadlineStored : deadlineOf wheel node.fd = some node.deadline :=
    linked.deadlineOf_eq_some.mpr ⟨address, node, stored, rfl, rfl⟩
  simp only [TimerWheel.visitNode, stored]
  split
  · rename_i isDue
    have changed := linked.deadlineOf_discardNode stored
    constructor
    · exact linked.discardNode stored
    · simp [discardNode_eq stored]
    · simp [discardNode_eq stored]
    · intro fd silent
      have differs : fd ≠ node.fd := by simpa using silent
      rw [changed, Function.update_of_ne differs]
    · intro fd reported
      have same : fd = node.fd := by simpa using reported
      rw [changed, same, Function.update_self]
    · intro fd reported
      have same : fd = node.fd := by simpa using reported
      exact ⟨node.deadline, same ▸ deadlineStored,
        (timespecCompare_le_zero _ _).mp isDue⟩
    · simp
  · rw [linkSlot_unlinkSlot stored]
    constructor
    · exact linked.relinkAt stored _
    · rfl
    · rfl
    · intro fd _
      rw [linked.deadlineOf_relinkAt stored, ← deadlineStored,
        Function.update_eq_self]
    · simp
    · simp
    · simp

/-- After a visit the rest of the slot's list is still there, behind what has
been visited and kept. -/
theorem WellLinked.visitNode_slots (linked : WellLinked wheel) (now : Timespec)
    (stored : wheel.nodes address = some node) {visited pending : List Nat}
    (list : wheel.slots node.slot = visited ++ address :: pending) :
    ∃ visited', (TimerWheel.visitNode now wheel address).1.slots node.slot =
      visited' ++ pending := by
  have nodup := list ▸ linked.slots.nodup node.slot
  have unvisited : address ∉ visited := by
    intro early
    have := List.nodup_append.mp nodup
    exact this.2.2 address early address (by simp) rfl
  have without : (wheel.slots node.slot).erase address = visited ++ pending := by
    rw [list, List.erase_append_right _ unvisited]
    simp
  simp only [TimerWheel.visitNode, stored]
  split
  · exact ⟨visited, by simp [discardNode_eq stored, without]⟩
  · refine ⟨address :: visited, ?_⟩
    rw [linkSlot_unlinkSlot stored]
    have sameSlot := (linked.slot_eq address node stored).symm
    simp [TimerWheel.relinkAt, sameSlot, without]

/-- A visit changes no other node. -/
theorem visitNode_other (stored : wheel.nodes address = some node)
    {other : Nat} (differs : other ≠ address) :
    (TimerWheel.visitNode now wheel address).1.nodes other =
      wheel.nodes other := by
  simp only [TimerWheel.visitNode, stored]
  split
  · simp [discardNode_eq stored, differs]
  · simp [linkSlot_unlinkSlot stored, relinkAt, differs]

theorem visitNode_reports (stored : wheel.nodes address = some node)
    (isDue : node.deadline.AtMost now) :
    node.fd ∈ (TimerWheel.visitNode now wheel address).2 := by
  simp [TimerWheel.visitNode, stored, (timespecCompare_le_zero _ _).mpr isDue]

theorem visitNode_currentSecond (now : Timespec) (wheel : TimerWheel)
    (address : Nat) :
    (TimerWheel.visitNode now wheel address).1.currentSecond =
      wheel.currentSecond := by
  cases stored : wheel.nodes address with
  | none => simp [TimerWheel.visitNode, stored]
  | some node =>
      simp only [TimerWheel.visitNode, stored]
      split
      · simp [discardNode_eq stored]
      · simp [linkSlot_unlinkSlot stored, relinkAt]

theorem slotNext_eq (stored : wheel.nodes address = some node)
    {visited pending : List Nat}
    (list : wheel.slots node.slot = visited ++ address :: pending)
    (unvisited : address ∉ visited) :
    slotNext wheel address = pending.head? := by
  have skipped : (visited ++ address :: pending).dropWhile (· ≠ address) =
      address :: pending := by
    rw [List.dropWhile_append_of_pos]
    · simp
    · intro other early
      have : other ≠ address := fun same => unvisited (same ▸ early)
      simpa using this
  simp only [slotNext, stored, list, skipped, List.tail_cons]

/-- The inner loop started at the head of the pending part of a slot's list
reports every due node of that part. -/
theorem WellLinked.visitSlot {slot : Nat} {pending : List Nat} {fuel : Nat}
    {wheel : TimerWheel} (linked : WellLinked wheel) (now : Timespec)
    (visited : List Nat) (list : wheel.slots slot = visited ++ pending)
    (enough : pending.length ≤ fuel) :
      Advanced now wheel
          (TimerWheel.visitSlot now fuel wheel pending.head?) ∧
        (TimerWheel.visitSlot now fuel wheel pending.head?).1.currentSecond =
          wheel.currentSecond ∧
        ∀ address ∈ pending, ∀ node, wheel.nodes address = some node →
          node.deadline.AtMost now →
          node.fd ∈ (TimerWheel.visitSlot now fuel wheel pending.head?).2 := by
  induction pending generalizing fuel wheel visited with
  | nil =>
      have stop : TimerWheel.visitSlot now fuel wheel none = (wheel, []) := by
        cases fuel <;> rfl
      simp [stop, Advanced.refl linked]
  | cons address rest ih =>
      obtain ⟨node, stored, inSlot⟩ : ∃ node,
          wheel.nodes address = some node ∧ node.slot = slot := by
        apply keyOf_eq_some.mp
        apply (linked.slots.mem_iff slot address).mp
        simp [list]
      subst inSlot
      have nodup := List.nodup_append.mp (list ▸ linked.slots.nodup node.slot)
      have unvisited : address ∉ visited := fun early =>
        nodup.2.2 address early address (by simp) rfl
      obtain ⟨fuel, rfl⟩ : ∃ less, fuel = less + 1 :=
        ⟨fuel - 1, by simp at enough; omega⟩
      have one := linked.visitNode now stored
      obtain ⟨visited', list'⟩ := linked.visitNode_slots now stored list
      obtain ⟨two, clock, reports⟩ := ih one.linked visited' list'
        (by simpa using enough)
      simp only [List.head?_cons, TimerWheel.visitSlot,
        slotNext_eq stored list unvisited]
      refine ⟨one.trans two, clock.trans (visitNode_currentSecond _ _ _), ?_⟩
      intro other member otherNode otherStored isDue
      rcases List.mem_cons.mp member with rfl | later
      · cases stored.symm.trans otherStored
        exact List.mem_append_left _ (visitNode_reports stored isDue)
      · have differs : other ≠ address := fun same =>
          (List.nodup_cons.mp nodup.2.1).1 (same ▸ later)
        apply List.mem_append_right
        exact reports other later otherNode
          ((visitNode_other stored differs).trans otherStored) isDue

end Slot

/-- Every tracked deadline, rounded up, lies beyond the wheel's second. -/
def Ahead (wheel : TimerWheel) : Prop :=
  ∀ fd deadline, deadlineOf wheel fd = some deadline →
    wheel.currentSecond < deadlineTick deadline

section Advance

variable {now : Timespec} {wheel : TimerWheel}

/-- One second of an advance drops every due node of the slot it enters. -/
theorem WellLinked.advanceSecond (linked : WellLinked wheel)
    (now : Timespec) :
    Advanced now wheel (TimerWheel.advanceSecond now wheel) ∧
      (TimerWheel.advanceSecond now wheel).1.currentSecond =
        wheel.currentSecond + 1 ∧
      ∀ fd deadline, deadlineOf wheel fd = some deadline →
        deadlineTick deadline = wheel.currentSecond + 1 →
        deadline.AtMost now →
        fd ∈ (TimerWheel.advanceSecond now wheel).2 := by
  let ticked := { wheel with currentSecond := wheel.currentSecond + 1 }
  have linkedTicked : WellLinked ticked :=
    ⟨linked.slots, linked.chains, linked.slot_eq, linked.fd_injective,
      linked.fresh_free⟩
  let slot := (wheel.currentSecond + 1) % wheel.slotCount
  have list : ticked.slots slot = [] ++ wheel.slots slot := rfl
  obtain ⟨advanced, clock, reports⟩ :=
    linkedTicked.visitSlot now [] list (Nat.le_refl _)
  refine ⟨⟨advanced.linked, advanced.timeoutSeconds_eq, advanced.slotCount_eq,
    advanced.kept, advanced.dropped, advanced.due, advanced.nodup⟩, clock, ?_⟩
  intro fd deadline tracked reached isDue
  obtain ⟨address, node, stored, rfl, rfl⟩ :=
    linked.deadlineOf_eq_some.mp tracked
  refine reports address ?_ node stored isDue
  rw [linkedTicked.slots.mem_iff, keyOf_eq_some]
  exact ⟨node, stored, by rw [linked.slot_eq address node stored, reached]⟩

theorem Ahead.advanceSecond (ahead : Ahead wheel) (linked : WellLinked wheel)
    (nonneg : 0 ≤ now.tvNsec) (before : wheel.currentSecond < now.tvSec) :
    Ahead (TimerWheel.advanceSecond now wheel).1 := by
  obtain ⟨advanced, clock, reports⟩ := linked.advanceSecond now
  intro fd deadline tracked
  rw [clock]
  have silent : fd ∉ (TimerWheel.advanceSecond now wheel).2 := by
    intro reported
    simp [advanced.dropped fd reported] at tracked
  have trackedBefore := (advanced.kept fd silent).symm.trans tracked
  have beyond := ahead fd deadline trackedBefore
  by_contra notBeyond
  have reached : deadlineTick deadline = wheel.currentSecond + 1 := by omega
  exact silent (reports fd deadline trackedBefore reached
    (atMost_of_deadlineTick_le (by omega) nonneg))

theorem WellLinked.advanceLoop (now : Timespec) :
    ∀ (seconds : Nat) {wheel : TimerWheel}, WellLinked wheel →
      Advanced now wheel (TimerWheel.advanceLoop now seconds wheel) ∧
        (TimerWheel.advanceLoop now seconds wheel).1.currentSecond =
          wheel.currentSecond + seconds := by
  intro seconds
  induction seconds with
  | zero =>
      intro wheel linked
      exact ⟨Advanced.refl linked now, rfl⟩
  | succ seconds inductionHypothesis =>
      intro wheel linked
      obtain ⟨one, clock, _⟩ := linked.advanceSecond now
      obtain ⟨two, clockTwo⟩ := inductionHypothesis one.linked
      exact ⟨one.trans two, by
        simp only [TimerWheel.advanceLoop]
        omega⟩

/-- An advance to `now` drops only due descriptors and reports each of them
once. -/
theorem WellLinked.advanceAt (linked : WellLinked wheel) (now : Timespec) :
    Advanced now wheel (TimerWheel.advanceAt wheel now) ∧
      (TimerWheel.advanceAt wheel now).1.currentSecond =
        max wheel.currentSecond now.tvSec := by
  obtain ⟨advanced, clock⟩ := linked.advanceLoop now
    (now.tvSec - wheel.currentSecond)
  exact ⟨advanced, clock.trans (by omega)⟩

theorem Ahead.advanceLoop (nonneg : 0 ≤ now.tvNsec) :
    ∀ (seconds : Nat) {wheel : TimerWheel}, WellLinked wheel → Ahead wheel →
      wheel.currentSecond + seconds ≤ now.tvSec →
        Ahead (TimerWheel.advanceLoop now seconds wheel).1 := by
  intro seconds
  induction seconds with
  | zero =>
      intro wheel _ ahead _
      exact ahead
  | succ seconds inductionHypothesis =>
      intro wheel linked ahead within
      obtain ⟨one, clock, _⟩ := linked.advanceSecond now
      exact inductionHypothesis one.linked
        (ahead.advanceSecond linked nonneg (by omega)) (by omega)

/-- An advance leaves only deadlines whose rounded-up second is still to
come. -/
theorem Ahead.advanceAt (ahead : Ahead wheel) (linked : WellLinked wheel)
    (nonneg : 0 ≤ now.tvNsec) :
    Ahead (TimerWheel.advanceAt wheel now).1 := by
  unfold TimerWheel.advanceAt
  by_cases reached : now.tvSec ≤ wheel.currentSecond
  · rw [Nat.sub_eq_zero_of_le reached]
    exact ahead
  · exact ahead.advanceLoop nonneg _ linked (by omega)

end Advance

end CloudDrive.TimerWheel
