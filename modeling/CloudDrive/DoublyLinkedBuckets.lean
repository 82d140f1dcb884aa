import CloudDrive.ChainedBuckets

/-!
# Doubly linked buckets

Buckets whose nodes also point back: the previous links lead from the last node of a
bucket through the same nodes to the first one, and end there.  Pushing a node relies
on its previous link being null, which unlinking sees to.
-/

namespace CloudDrive

section Buckets

variable {κ : Type*}

/-- Every head leads through the next links to the nodes of its bucket, and the last
node of a bucket leads through the previous links to the same nodes in reverse. -/
structure DoublyChained (next previous : Nat → Option (Option Nat))
    (heads : κ → Option Nat) (buckets : κ → List Nat) : Prop where
  forward : Chained next heads buckets
  backward : Chained previous (fun bucket => (buckets bucket).getLast?)
    fun bucket => (buckets bucket).reverse

/-- Write the link in a node, if there is one. -/
def setLink (links : Nat → Option (Option Nat)) (value : Option Nat) :
    Option Nat → Nat → Option (Option Nat)
  | none => links
  | some address => Function.update links address (some value)

theorem Apart.reverse {buckets : κ → List Nat} (apart : Apart buckets) :
    Apart fun bucket => (buckets bucket).reverse := by
  intro first second address inFirst inSecond
  rw [List.mem_reverse] at inFirst inSecond
  exact apart first second address inFirst inSecond

namespace DoublyChained

variable {next previous : Nat → Option (Option Nat)} {heads : κ → Option Nat}
  {buckets : κ → List Nat} {target : Nat} {bucket : κ} {front rest : List Nat}
  (chained : DoublyChained next previous heads buckets)

include chained

theorem next_eq (split : buckets bucket = front ++ target :: rest) :
    next target = some rest.head? := by
  have chain := chained.forward bucket
  rw [split] at chain
  exact chain.links_eq

theorem previous_eq (split : buckets bucket = front ++ target :: rest) :
    previous target = some front.getLast? := by
  have chain := chained.backward bucket
  dsimp only at chain
  rw [split, List.reverse_append, List.reverse_cons, List.append_assoc] at chain
  rw [← List.head?_reverse]
  exact chain.links_eq

/-- A node outside of the buckets may change. -/
theorem update_outside (outside : ∀ bucket, target ∉ buckets bucket)
    (nextValue previousValue : Option (Option Nat)) :
    DoublyChained (Function.update next target nextValue)
      (Function.update previous target previousValue) heads buckets := by
  constructor
  · exact chained.forward.update_outside outside nextValue
  · apply chained.backward.update_outside
    intro bucket listed
    exact outside bucket (List.mem_reverse.mp listed)

variable [DecidableEq κ] (apart : Apart buckets)

include apart

/-- A node without a previous link is pushed to the head of a bucket. -/
theorem push (outside : ∀ bucket, target ∉ buckets bucket)
    (unlinked : previous target = some none) (bucket : κ) :
    DoublyChained (Function.update next target (some (heads bucket)))
      (setLink previous (some target) (heads bucket))
      (Function.update heads bucket (some target))
      (Function.update buckets bucket (target :: buckets bucket)) := by
  constructor
  · exact chained.forward.push outside bucket
  intro other
  dsimp only
  have chain := chained.backward other
  dsimp only at chain
  rw [(chained.forward bucket).head_eq]
  by_cases same : other = bucket
  · subst same
    rw [Function.update_self]
    cases isList : buckets other with
    | nil => exact .cons unlinked .nil
    | cons first rest =>
        have once := (chained.forward other).nodup
        have fresh := outside other
        rw [isList] at chain once fresh
        rw [List.reverse_cons] at chain
        rw [List.reverse_cons, List.reverse_cons, List.getLast?_cons_cons]
        apply chain.concat
        · intro address listed
          apply Function.update_of_ne
          rintro rfl
          exact (List.nodup_cons.mp once).1 (List.mem_reverse.mp listed)
        · exact Function.update_self ..
        · rw [List.head?_cons, setLink, Function.update_of_ne, unlinked]
          rintro rfl
          exact fresh List.mem_cons_self
  · rw [Function.update_of_ne same]
    cases isFirst : (buckets bucket).head? with
    | none => exact chain
    | some first =>
        refine chain.congr fun address listed => ?_
        apply Function.update_of_ne
        rintro rfl
        exact same (apart other bucket address (List.mem_reverse.mp listed)
          (List.mem_of_head? isFirst))

omit apart chained in
/-- The last nodes after an unlinking: only that of the bucket may change, when the
unlinked node was the last one. -/
theorem getLast?_unlinked (links : Nat → Option (Option Nat))
    (split : buckets bucket = front ++ target :: rest) :
    (fun other => (Function.update buckets bucket (front ++ rest) other).getLast?) =
      (writeLink links (fun other => (buckets other).getLast?) bucket front.getLast?
        rest.head?).2 := by
  funext other
  by_cases same : other = bucket
  · subst same
    cases rest with
    | nil => simp [writeLink]
    | cons second rest => simp [writeLink, split]
  · cases rest <;> simp [writeLink, Function.update_of_ne same]

/-- The nodes on both sides of a node are linked with each other. -/
theorem unlink (split : buckets bucket = front ++ target :: rest) :
    DoublyChained (setLink next rest.head? front.getLast?)
      (setLink previous front.getLast? rest.head?)
      (writeLink next heads bucket rest.head? front.getLast?).2
      (Function.update buckets bucket (front ++ rest)) := by
  have setLink_eq : ∀ (links : Nat → Option (Option Nat)) (heads : κ → Option Nat)
      (value link : Option Nat),
      (writeLink links heads bucket value link).1 = setLink links value link := by
    intro links heads value link
    cases link <;> rfl
  constructor
  · rw [← setLink_eq]
    exact chained.forward.unlink apart split (chained.next_eq split)
  · have splitReverse : (buckets bucket).reverse =
        rest.reverse ++ target :: front.reverse := by
      rw [split, List.reverse_append, List.reverse_cons, List.append_assoc,
        List.singleton_append]
    have reversed : (fun other =>
        (Function.update buckets bucket (front ++ rest) other).reverse) =
        Function.update (fun other => (buckets other).reverse) bucket
          (rest.reverse ++ front.reverse) := by
      rw [← List.reverse_append]
      exact Function.comp_update List.reverse buckets bucket (front ++ rest)
    have unlinked := chained.backward.unlink apart.reverse splitReverse
      (chained.previous_eq split)
    rw [List.getLast?_reverse, setLink_eq, ← getLast?_unlinked previous split,
      ← reversed] at unlinked
    exact unlinked

end DoublyChained

end Buckets

end CloudDrive
