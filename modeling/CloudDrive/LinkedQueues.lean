import CloudDrive.LinkedChains

/-!
# Linked queues

A queue of nodes with a pointer to the first and one to the last, and the memory
its nodes lie in.
-/

namespace CloudDrive

structure LinkedNode (α : Type) where
  value : α
  next : Option Nat

/-- The two ends of a queue, and the nodes that are allocated, whether they are
queued or not. -/
structure LinkedQueue (α : Type) where
  nodes : Nat → Option (LinkedNode α)
  head : Option Nat
  tail : Option Nat

namespace LinkedQueue

variable {α : Type}

def empty : LinkedQueue α := ⟨fun _ => none, none, none⟩

def links (queue : LinkedQueue α) (address : Nat) : Option (Option Nat) :=
  (queue.nodes address).map LinkedNode.next

def valueAt (queue : LinkedQueue α) (address : Nat) : Option α :=
  (queue.nodes address).map LinkedNode.value

/-- A value is put into a node that is not linked. -/
def store (queue : LinkedQueue α) (address : Nat) (value : α) : LinkedQueue α :=
  { queue with nodes := Function.update queue.nodes address (some ⟨value, none⟩) }

/-- A value is put into a node behind the last one. -/
def enqueue (queue : LinkedQueue α) (address : Nat) (value : α) : LinkedQueue α :=
  let nodes := Function.update queue.nodes address (some ⟨value, none⟩)
  match queue.tail with
  | none => { nodes, head := some address, tail := some address }
  | some last =>
      { nodes := Function.update nodes last
          ((nodes last).map fun node => { node with next := some address })
        head := queue.head
        tail := some address }

/-- The first node is unlinked. -/
def dequeue (queue : LinkedQueue α) (first : LinkedNode α) : LinkedQueue α where
  nodes := queue.nodes
  head := first.next
  tail := if first.next = none then none else queue.tail

def free (queue : LinkedQueue α) (address : Nat) : LinkedQueue α :=
  { queue with nodes := Function.update queue.nodes address none }

/-- The queue is emptied and its nodes are freed. -/
def clear (queue : LinkedQueue α) (listed : List Nat) : LinkedQueue α where
  nodes := fun address => if address ∈ listed then none else queue.nodes address
  head := none
  tail := none

/-- The nodes of the queue, in the order from its head. -/
structure Holds (queue : LinkedQueue α) (listed : List Nat) : Prop where
  chain : Chain queue.links queue.head listed
  tail : queue.tail = listed.getLast?

/-- A value has been put behind the queue. -/
structure Appends (queue after : LinkedQueue α) (listed : List Nat) (address : Nat)
    (value : α) : Prop where
  holds : after.Holds (listed ++ [address])
  new : after.valueAt address = some value
  others : ∀ other, other ≠ address → after.valueAt other = queue.valueAt other

variable {queue after : LinkedQueue α} {listed : List Nat} {address : Nat}

theorem isSome_links : (queue.links address).isSome = (queue.valueAt address).isSome := by
  rw [links, valueAt, Option.isSome_map, Option.isSome_map]

theorem holds_empty : (empty : LinkedQueue α).Holds [] := ⟨.nil, rfl⟩

theorem Holds.valueAt (holds : queue.Holds listed) (inside : address ∈ listed) :
    ∃ value, queue.valueAt address = some value := by
  obtain ⟨next, stored⟩ := holds.chain.stored inside
  obtain ⟨node, stored, -⟩ := Option.map_eq_some_iff.mp stored
  exact ⟨node.value, by rw [LinkedQueue.valueAt, stored]; rfl⟩

theorem Holds.not_mem (holds : queue.Holds listed)
    (free : queue.valueAt address = none) : address ∉ listed := by
  intro inside
  obtain ⟨value, stored⟩ := holds.valueAt inside
  rw [free] at stored
  cases stored

theorem appends_enqueue (holds : queue.Holds listed) (fresh : address ∉ listed)
    (value : α) :
    queue.Appends (queue.enqueue address value) listed address value := by
  obtain ⟨chain, tail⟩ := holds
  rcases List.eq_nil_or_concat' listed with rfl | ⟨front, last, rfl⟩
  · have tail : queue.tail = none := tail
    simp only [enqueue, tail]
    refine ⟨⟨.cons ?_ .nil, rfl⟩, ?_, ?_⟩
    · simp [links]
    · simp [LinkedQueue.valueAt]
    · intro other different
      simp [LinkedQueue.valueAt, different]
  · have tail : queue.tail = some last := by simpa using tail
    have different : last ≠ address := fun same => fresh (by simp [same])
    have once := List.nodup_append.mp chain.nodup
    obtain ⟨next, stored⟩ := chain.stored (List.mem_append_right front
      (List.mem_singleton_self last))
    obtain ⟨node, found, -⟩ := Option.map_eq_some_iff.mp stored
    simp only [enqueue, tail]
    refine ⟨⟨chain.concat ?_ ?_ ?_, by simp⟩, ?_, ?_⟩
    · intro other inside
      have notLast : other ≠ last := fun same =>
        once.2.2 other inside last (List.mem_singleton_self last) same
      have notNew : other ≠ address := fun same =>
        fresh (List.mem_append_left [last] (same ▸ inside))
      simp [links, notLast, notNew]
    · simp [links, different, found]
    · simp [links, different.symm]
    · simp [LinkedQueue.valueAt, different.symm]
    · intro other notNew
      by_cases same : other = last
      · subst same
        simp [LinkedQueue.valueAt, notNew, found]
      · simp [LinkedQueue.valueAt, same, notNew]

/-- The head of a queue points to a node. -/
theorem Holds.first {rest : List Nat} (holds : queue.Holds (address :: rest)) :
    queue.head = some address ∧
      ∃ node, queue.nodes address = some node ∧ (queue.dequeue node).Holds rest := by
  obtain ⟨chain, tail⟩ := holds
  refine ⟨chain.head_eq, ?_⟩
  generalize queue.head = head at chain
  cases chain with
  | cons stored chain =>
      obtain ⟨node, found, rfl⟩ := Option.map_eq_some_iff.mp stored
      refine ⟨node, found, chain, ?_⟩
      simp only [dequeue, chain.head_eq, tail]
      cases rest <;> simp

theorem valueAt_free {other : Nat} (different : other ≠ address) :
    (queue.free address).valueAt other = queue.valueAt other := by
  simp [LinkedQueue.valueAt, free, different]

theorem Holds.free (holds : queue.Holds listed) (fresh : address ∉ listed) :
    (queue.free address).Holds listed where
  chain := by
    refine holds.chain.congr fun other inside => ?_
    have different : other ≠ address := by
      rintro rfl
      exact fresh inside
    simp [links, LinkedQueue.free, different]
  tail := holds.tail

theorem valueAt_store {value : α} :
    (queue.store address value).valueAt address = some value := by
  simp [LinkedQueue.valueAt, store]

theorem valueAt_store_ne {value : α} {other : Nat} (different : other ≠ address) :
    (queue.store address value).valueAt other = queue.valueAt other := by
  simp [LinkedQueue.valueAt, store, different]

theorem Holds.store (holds : queue.Holds listed) (fresh : address ∉ listed)
    (value : α) : (queue.store address value).Holds listed where
  chain := by
    refine holds.chain.congr fun other inside => ?_
    have different : other ≠ address := by
      rintro rfl
      exact fresh inside
    simp [links, LinkedQueue.store, different]
  tail := holds.tail

theorem free_store {value : α} (free : queue.valueAt address = none) :
    (queue.store address value).free address = queue := by
  have absent : queue.nodes address = none := by
    simpa [LinkedQueue.valueAt] using free
  rw [LinkedQueue.free, store]
  dsimp only
  rw [Function.update_idem, ← absent, Function.update_eq_self]

theorem valueAt_clear {other : Nat} (notListed : other ∉ listed) :
    (queue.clear listed).valueAt other = queue.valueAt other := by
  simp [LinkedQueue.valueAt, clear, notListed]

theorem valueAt_clear_of_mem {other : Nat} (inside : other ∈ listed) :
    (queue.clear listed).valueAt other = none := by
  simp [LinkedQueue.valueAt, clear, inside]

end LinkedQueue

end CloudDrive
