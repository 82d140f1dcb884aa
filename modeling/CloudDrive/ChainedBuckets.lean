import CloudDrive.BucketIndex
import CloudDrive.LinkedChains

/-!
# Chained buckets

A bucket index as it lies in memory: a head pointer for each bucket, and a link in
each node to the next one of its bucket.  A loop over a bucket searches for a node;
writing the links pushes a node to the head of a bucket and unlinks a node from
anywhere in it.
-/

namespace CloudDrive

/-- The first node from a pointer on that has a property; without a result if a
pointer dangles. -/
def findNode (links : Nat → Option (Option Nat)) (holds : Nat → Bool) :
    Nat → Option Nat → Option (Option Nat)
  | _, none => some none
  | 0, some _ => none
  | steps + 1, some address =>
      match links address with
      | none => none
      | some next =>
          if holds address then some (some address)
          else findNode links holds steps next

namespace Chain

variable {links : Nat → Option (Option Nat)} {head : Option Nat} {nodes : List Nat}
  {steps : Nat}

theorem findNode_eq (chain : Chain links head nodes) (holds : Nat → Bool)
    (enough : nodes.length ≤ steps) :
    findNode links holds steps head = some (nodes.find? holds) := by
  induction chain generalizing steps with
  | nil => cases steps <;> rfl
  | @cons address next rest stored tail inductionHypothesis =>
      cases steps with
      | zero => simp at enough
      | succ steps =>
          rw [findNode, stored, List.find?_cons]
          dsimp only
          cases holds address with
          | true => rfl
          | false =>
              rw [if_neg Bool.false_ne_true, inductionHypothesis (by simpa using enough)]

end Chain

section Buckets

variable {κ : Type*}

/-- Every head leads to the nodes of its bucket. -/
def Chained (links : Nat → Option (Option Nat)) (heads : κ → Option Nat)
    (buckets : κ → List Nat) : Prop :=
  ∀ bucket, Chain links (heads bucket) (buckets bucket)

/-- No node is in two buckets. -/
def Apart (buckets : κ → List Nat) : Prop :=
  ∀ first second address, address ∈ buckets first → address ∈ buckets second →
    first = second

theorem BucketIndex.apart {buckets : κ → List Nat} {key : Nat → Option κ}
    (index : BucketIndex buckets key) : Apart buckets := by
  intro first second address inFirst inSecond
  exact Option.some.inj (((index.mem_iff first address).mp inFirst).symm.trans
    ((index.mem_iff second address).mp inSecond))

variable [DecidableEq κ]

/-- Every node is once on the chain of its key and on no other chain, and nothing else
is on a chain. -/
def FiledOnce (links : Nat → Option (Option Nat)) (heads : κ → Option Nat)
    (key : Nat → Option κ) : Prop :=
  ∃ buckets : κ → List Nat, Chained links heads buckets ∧ ∀ bucket address,
    (buckets bucket).count address = if key address = some bucket then 1 else 0

variable {links : Nat → Option (Option Nat)} {heads : κ → Option Nat}
  {buckets : κ → List Nat} {target : Nat}

theorem BucketIndex.count_eq {key : Nat → Option κ} (index : BucketIndex buckets key)
    (bucket : κ) (address : Nat) :
    (buckets bucket).count address = if key address = some bucket then 1 else 0 := by
  by_cases isKey : key address = some bucket
  · rw [if_pos isKey]
    exact List.count_eq_one_of_mem (index.nodup bucket)
      ((index.mem_iff bucket address).mpr isKey)
  · rw [if_neg isKey]
    exact List.count_eq_zero_of_not_mem (mt (index.mem_iff bucket address).mp isKey)

/-- An erased node is in no bucket any more. -/
theorem BucketIndex.outside_erase {key : Nat → Option κ} {bucket : κ} {address : Nat}
    (index : BucketIndex buckets key) (isKey : key address = some bucket) (other : κ) :
    address ∉ Function.update buckets bucket ((buckets bucket).erase address) other := by
  rw [(index.erase isKey).mem_iff, Function.update_self]
  exact nofun

theorem Chained.filedOnce {key : Nat → Option κ} (chained : Chained links heads buckets)
    (index : BucketIndex buckets key) : FiledOnce links heads key :=
  ⟨buckets, chained, index.count_eq⟩

omit [DecidableEq κ] in
/-- A node outside of the buckets may change. -/
theorem Chained.update_outside (chained : Chained links heads buckets)
    (outside : ∀ bucket, target ∉ buckets bucket) (value : Option (Option Nat)) :
    Chained (Function.update links target value) heads buckets := by
  intro bucket
  refine (chained bucket).congr fun address listed => ?_
  refine Function.update_of_ne ?_ _ _
  rintro rfl
  exact outside bucket listed

/-- Write the head of a bucket, or the link in a node. -/
def writeLink (links : Nat → Option (Option Nat)) (heads : κ → Option Nat)
    (bucket : κ) (value : Option Nat) :
    Option Nat → (Nat → Option (Option Nat)) × (κ → Option Nat)
  | none => (links, Function.update heads bucket value)
  | some address => (Function.update links address (some value), heads)

/-- A node is pushed to the head of a bucket. -/
theorem Chained.push (chained : Chained links heads buckets)
    (outside : ∀ bucket, target ∉ buckets bucket) (bucket : κ) :
    Chained (Function.update links target (some (heads bucket)))
      (Function.update heads bucket (some target))
      (Function.update buckets bucket (target :: buckets bucket)) := by
  have kept := chained.update_outside outside (some (heads bucket))
  intro other
  by_cases same : other = bucket
  · subst same
    rw [Function.update_self, Function.update_self]
    exact .cons (Function.update_self ..) (kept other)
  · rw [Function.update_of_ne same, Function.update_of_ne same]
    exact kept other

section Unlinking

variable {bucket : κ} {front rest : List Nat} {next : Option Nat}
  (chained : Chained links heads buckets) (apart : Apart buckets)
  (split : buckets bucket = front ++ target :: rest)

include chained apart split

/-- The link before a node takes the value of the node's link. -/
theorem Chained.unlink (stored : links target = some next) :
    Chained (writeLink links heads bucket next front.getLast?).1
      (writeLink links heads bucket next front.getLast?).2
      (Function.update buckets bucket (front ++ rest)) := by
  have chain := chained bucket
  rw [split] at chain
  intro other
  by_cases same : other = bucket
  · subst same
    rw [Function.update_self]
    refine chain.remove stored ?_ ?_ ?_
    · cases front.getLast? with
      | none => exact congrArg some (Function.update_self ..)
      | some last => exact Function.update_self ..
    · intro nonempty
      obtain ⟨last, isLast⟩ := Option.ne_none_iff_exists'.mp
        (mt List.getLast?_eq_none_iff.mp nonempty)
      rw [isLast]
      rfl
    · intro address _ notLast
      cases isLast : front.getLast? with
      | none => rfl
      | some last =>
          refine Function.update_of_ne ?_ _ _
          rintro rfl
          exact notLast isLast
  · rw [Function.update_of_ne same]
    cases isLast : front.getLast? with
    | none =>
        rw [writeLink]
        dsimp only
        rw [Function.update_of_ne same]
        exact chained other
    | some last =>
        refine (chained other).congr fun address listed => ?_
        refine Function.update_of_ne ?_ _ _
        rintro rfl
        refine same (apart other bucket address listed ?_)
        rw [split]
        exact List.mem_append_left _ (List.mem_of_getLast? isLast)

/-- The unlinked node is in no bucket any more. -/
theorem Chained.outside_unlinked (other : κ) :
    target ∉ Function.update buckets bucket (front ++ rest) other := by
  by_cases same : other = bucket
  · subst same
    have once := (chained other).nodup
    rw [split, List.nodup_middle] at once
    rw [Function.update_self]
    exact (List.nodup_cons.mp once).1
  · rw [Function.update_of_ne same]
    intro listed
    refine same (apart other bucket target listed ?_)
    rw [split]
    exact List.mem_append_right _ List.mem_cons_self

end Unlinking

end Buckets

end CloudDrive
