import Mathlib.Data.Finset.Range
import Mathlib.Data.Finset.Card
import Mathlib.Data.List.Nodup
import Mathlib.Logic.Function.Basic
import Mathlib.Tactic.Common

/-!
# Chains of linked nodes

A heap of nodes that point to each other, seen through its links: nothing where
no node is allocated, otherwise the pointer to the next node, which may be null.
A chain is the list of the nodes that are reached from a pointer.  Loops over a
chain are given a number of steps; a chain within an address space is shorter
than the space.
-/

namespace CloudDrive

/-- The nodes reached from a pointer up to the first null pointer. -/
inductive Chain (links : Nat → Option (Option Nat)) : Option Nat → List Nat → Prop where
  | nil : Chain links none []
  | cons {address : Nat} {next : Option Nat} {rest : List Nat}
      (stored : links address = some next) (tail : Chain links next rest) :
      Chain links (some address) (address :: rest)

/-- The nodes that a loop from a pointer to the next null pointer meets. -/
def follow (links : Nat → Option (Option Nat)) : Nat → Option Nat → Option (List Nat)
  | _, none => some []
  | 0, some _ => none
  | steps + 1, some address =>
      match links address with
      | none => none
      | some next => (follow links steps next).map (address :: ·)

/-- The value of a link: of the head or of the link in a node. -/
def linkValue (links : Nat → Option (Option Nat)) (head : Option Nat) :
    Option Nat → Option (Option Nat)
  | none => some head
  | some address => links address

/-- The first link from a given one on that points to a node with a property, or is
null. -/
def seekLink (links : Nat → Option (Option Nat)) (head : Option Nat)
    (stops : Nat → Bool) : Nat → Option Nat → Option (Option Nat)
  | 0, _ => none
  | steps + 1, link =>
      match linkValue links head link with
      | none => none
      | some none => some link
      | some (some address) =>
          if stops address then some link
          else seekLink links head stops steps (some address)

/-- The first link behind a given one that points to a node, or is null. -/
def findLink (links : Nat → Option (Option Nat)) (head : Option Nat) (target : Nat) :
    Nat → Option Nat → Option (Option Nat)
  | 0, _ => none
  | steps + 1, link =>
      match linkValue links head link with
      | none => none
      | some none => some link
      | some (some address) =>
          if address = target then some link
          else findLink links head target steps (some address)

namespace Chain

variable {links after : Nat → Option (Option Nat)} {head : Option Nat}
  {nodes : List Nat}

theorem head_eq (chain : Chain links head nodes) : head = nodes.head? := by
  cases chain <;> rfl

theorem stored (chain : Chain links head nodes) {address : Nat}
    (listed : address ∈ nodes) : ∃ next, links address = some next := by
  induction chain with
  | nil => cases listed
  | @cons first next rest stored tail inductionHypothesis =>
      rcases List.mem_cons.mp listed with rfl | later
      · exact ⟨next, stored⟩
      · exact inductionHypothesis later

/-- A pointer leads to one chain only. -/
theorem unique {other : List Nat} (chain : Chain links head nodes)
    (otherChain : Chain links head other) : nodes = other := by
  induction chain generalizing other with
  | nil => cases otherChain; rfl
  | cons stored tail inductionHypothesis =>
      cases otherChain with
      | cons otherStored otherTail =>
          cases stored.symm.trans otherStored
          rw [inductionHypothesis otherTail]

theorem suffix {before : List Nat} {address : Nat} {rest : List Nat}
    (chain : Chain links head (before ++ address :: rest)) :
    Chain links (some address) (address :: rest) := by
  induction before generalizing head with
  | nil =>
      cases chain with
      | cons stored tail => exact .cons stored tail
  | cons first before inductionHypothesis =>
      cases chain with
      | cons stored tail => exact inductionHypothesis tail

/-- The link in a node leads to the node behind it. -/
theorem links_eq {front rest : List Nat} {target : Nat}
    (chain : Chain links head (front ++ target :: rest)) :
    links target = some rest.head? := by
  have behind := chain.suffix
  cases behind with
  | cons stored tail => exact stored.trans (congrArg some tail.head_eq)

/-- The node before another one is stored. -/
theorem isSome_last {front rest : List Nat} {target last : Nat}
    (chain : Chain links head (front ++ target :: rest))
    (isLast : front.getLast? = some last) : (links last).isSome := by
  obtain ⟨next, stored⟩ := chain.stored
    (List.mem_append_left _ (List.mem_of_getLast? isLast))
  rw [stored]
  rfl

/-- A chain has no cycle: the nodes behind one of its nodes are determined by
it. -/
theorem nodup (chain : Chain links head nodes) : nodes.Nodup := by
  induction chain with
  | nil => exact List.nodup_nil
  | @cons address next rest stored tail inductionHypothesis =>
      refine List.nodup_cons.mpr ⟨fun listed => ?_, inductionHypothesis⟩
      obtain ⟨before, later, rfl⟩ := List.append_of_mem listed
      have lengths := congrArg List.length (tail.suffix.unique (.cons stored tail))
      simp only [List.length_append, List.length_cons] at lengths
      omega

theorem congr (chain : Chain links head nodes)
    (same : ∀ address ∈ nodes, after address = links address) :
    Chain after head nodes := by
  induction chain with
  | nil => exact .nil
  | cons stored tail inductionHypothesis =>
      refine .cons ((same _ List.mem_cons_self).trans stored) ?_
      exact inductionHypothesis fun address listed =>
        same address (List.mem_cons_of_mem _ listed)

theorem length_le {size : Nat} (chain : Chain links head nodes)
    (inside : ∀ address, (links address).isSome → address < size) :
    nodes.length ≤ size := by
  rw [← List.toFinset_card_of_nodup chain.nodup, ← Finset.card_range size]
  refine Finset.card_le_card fun address listed => ?_
  obtain ⟨next, stored⟩ := chain.stored (List.mem_toFinset.mp listed)
  exact Finset.mem_range.mpr (inside address (by simp [stored]))

theorem follow_eq (chain : Chain links head nodes) {steps : Nat}
    (enough : nodes.length ≤ steps) : follow links steps head = some nodes := by
  induction chain generalizing steps with
  | nil => rw [follow]
  | cons stored tail inductionHypothesis =>
      cases steps with
      | zero => simp at enough
      | succ steps =>
          rw [follow, stored]
          dsimp only
          rw [inductionHypothesis (by simpa using enough)]
          rfl

/-- A node is linked behind the last one. -/
theorem concat {front : List Nat} {last new : Nat}
    (chain : Chain links head (front ++ [last]))
    (same : ∀ address ∈ front, after address = links address)
    (linked : after last = some (some new)) (ended : after new = some none) :
    Chain after head (front ++ [last] ++ [new]) := by
  induction front generalizing head with
  | nil =>
      cases chain with
      | cons stored tail => exact .cons linked (.cons ended .nil)
  | cons first front inductionHypothesis =>
      cases chain with
      | cons stored tail =>
          refine .cons ((same _ List.mem_cons_self).trans stored) ?_
          exact inductionHypothesis tail fun address listed =>
            same address (List.mem_cons_of_mem _ listed)

section Removal

variable {target : Nat} {next : Option Nat} {front rest : List Nat}

theorem findLink_eq_seekLink (steps : Nat) (link : Option Nat) :
    findLink links head target steps link =
      seekLink links head (fun address => address = target) steps link := by
  induction steps generalizing link with
  | zero => rfl
  | succ steps inductionHypothesis =>
      rw [findLink, seekLink]
      simp only [decide_eq_true_eq, inductionHypothesis]

/-- The link to the first node with a property is the head or the one in the node
before it. -/
theorem seekLink_eq {pointer link : Option Nat} {steps : Nat} {stops : Nat → Bool}
    (chain : Chain links pointer (front ++ target :: rest))
    (value : linkValue links head link = some pointer)
    (passes : ∀ address ∈ front, stops address = false) (isTarget : stops target = true)
    (enough : front.length < steps) :
    seekLink links head stops steps link = some (front.getLast?.or link) := by
  induction front generalizing pointer link steps with
  | nil =>
      obtain ⟨steps, rfl⟩ := Nat.exists_eq_add_of_lt enough
      cases chain with
      | cons stored tail => simp [seekLink, value, isTarget]
  | cons first front inductionHypothesis =>
      obtain ⟨steps, rfl⟩ := Nat.exists_eq_add_of_lt enough
      obtain ⟨passesFirst, passesFront⟩ := List.forall_mem_cons.mp passes
      cases chain with
      | @cons _ next _ stored tail =>
          have following : linkValue links head (some first) = some next := stored
          have fewer : front.length < (first :: front).length + steps := by
            simp only [List.length_cons]
            omega
          rw [seekLink, value]
          dsimp only
          rw [passesFirst, if_neg Bool.false_ne_true,
            inductionHypothesis tail following passesFront fewer, List.getLast?_cons]
          cases front.getLast? <;> rfl

/-- Without such a node the link is the null one at the end. -/
theorem seekLink_end {pointer link : Option Nat} {steps : Nat} {stops : Nat → Bool}
    (chain : Chain links pointer nodes)
    (value : linkValue links head link = some pointer)
    (passes : ∀ address ∈ nodes, stops address = false)
    (enough : nodes.length < steps) :
    ∃ last, seekLink links head stops steps link = some last ∧
      linkValue links head last = some none := by
  induction chain generalizing link steps with
  | nil =>
      obtain ⟨steps, rfl⟩ := Nat.exists_eq_add_of_lt enough
      exact ⟨link, by simp [seekLink, value], value⟩
  | @cons address next rest stored tail inductionHypothesis =>
      obtain ⟨steps, rfl⟩ := Nat.exists_eq_add_of_lt enough
      obtain ⟨passesFirst, passesRest⟩ := List.forall_mem_cons.mp passes
      have fewer : rest.length < (address :: rest).length + steps := by
        simp only [List.length_cons]
        omega
      rw [seekLink, value]
      dsimp only
      rw [passesFirst, if_neg Bool.false_ne_true]
      exact inductionHypothesis stored passesRest fewer

/-- The link to a node is the head or the one in the node before it. -/
theorem findLink_eq {pointer link : Option Nat} {steps : Nat}
    (chain : Chain links pointer (front ++ target :: rest))
    (value : linkValue links head link = some pointer) (fresh : target ∉ front)
    (enough : front.length < steps) :
    findLink links head target steps link = some (front.getLast?.or link) := by
  rw [findLink_eq_seekLink]
  refine chain.seekLink_eq value ?_ (decide_eq_true rfl) enough
  intro address listed
  refine decide_eq_false ?_
  rintro rfl
  exact fresh listed

theorem notMem_front (chain : Chain links head (front ++ target :: rest)) :
    target ∉ front := by
  intro inFront
  exact List.disjoint_of_nodup_append chain.nodup inFront List.mem_cons_self

/-- The loop from the head to the link of a node of the chain. -/
theorem seekLink_node {steps : Nat} (chain : Chain links head (front ++ target :: rest))
    (enough : (front ++ target :: rest).length ≤ steps) :
    seekLink links head (fun address => address = target) (steps + 1) none =
      some front.getLast? := by
  have short : front.length < steps + 1 := by
    rw [List.length_append] at enough
    omega
  have passes : ∀ address ∈ front, decide (address = target) = false := by
    intro address listed
    refine decide_eq_false ?_
    rintro rfl
    exact chain.notMem_front listed
  have start : linkValue links head none = some head := rfl
  rw [chain.seekLink_eq start passes (decide_eq_true rfl) short, Option.or_none]

theorem erase_node (chain : Chain links head (front ++ target :: rest)) :
    (front ++ target :: rest).erase target = front ++ rest := by
  rw [List.erase_append_right _ chain.notMem_front, List.erase_cons_head]

/-- The link before a node points to it. -/
theorem linkValue_eq (chain : Chain links head (front ++ target :: rest)) :
    linkValue links head front.getLast? = some (some target) := by
  rcases List.eq_nil_or_concat' front with rfl | ⟨front, last, rfl⟩
  · exact congrArg some chain.head_eq
  · rw [List.append_assoc] at chain
    rw [List.getLast?_concat]
    exact chain.links_eq

/-- A node is unlinked: the link before it takes its value. -/
theorem remove {afterHead : Option Nat}
    (chain : Chain links head (front ++ target :: rest))
    (stored : links target = some next)
    (linked : linkValue after afterHead front.getLast? = some next)
    (sameHead : front ≠ [] → afterHead = head)
    (same : ∀ address ∈ front ++ rest, front.getLast? ≠ some address →
      after address = links address) :
    Chain after afterHead (front ++ rest) := by
  have once := chain.nodup
  induction front generalizing head afterHead with
  | nil =>
      cases linked
      cases chain with
      | cons otherStored tail =>
          cases stored.symm.trans otherStored
          exact tail.congr fun address listed => same address listed nofun
  | cons first front inductionHypothesis =>
      cases sameHead (List.cons_ne_nil first front)
      obtain ⟨fresh, once⟩ := List.nodup_cons.mp once
      have sameBehind : ∀ address ∈ front ++ rest, front.getLast? ≠ some address →
          after address = links address := by
        intro address listed notLast
        refine same address (List.mem_cons_of_mem first listed) fun isLast => ?_
        cases front with
        | nil =>
            cases isLast
            exact fresh (List.mem_cons_of_mem target listed)
        | cons second front => exact notLast (by simpa using isLast)
      cases chain with
      | @cons _ following _ firstStored tail =>
          cases front with
          | nil => exact .cons linked (inductionHypothesis tail rfl nofun sameBehind once)
          | cons second front =>
              have kept : after first = some following := by
                refine (same first List.mem_cons_self fun isLast => ?_).trans firstStored
                rw [List.getLast?_cons_cons] at isLast
                exact fresh (List.mem_append_left _ (List.mem_of_getLast? isLast))
              rw [List.getLast?_cons_cons] at linked
              refine .cons kept (inductionHypothesis tail ?_ (fun _ => rfl) sameBehind
                once)
              rw [List.getLast?_cons] at linked ⊢
              exact linked

end Removal

end Chain

end CloudDrive
