import Mathlib.Logic.Function.Basic
import Mathlib.Data.List.Nodup
import Mathlib.Tactic.Common

/-!
# Bucket indexes over a heap

A heap stores records by address.  A bucket index is a family of lists that
files every stored address under a key of its record: the chains of a hash
table, or the slots of a wheel.  The results say how an index follows the
allocation, the removal and the update of one record.
-/

namespace CloudDrive

section Heap

variable {α β κ : Type*}

/-- The key under which an address is filed, if anything is stored there. -/
def keyOf (heap : α → Option β) (key : β → κ) (address : α) : Option κ :=
  (heap address).map key

@[simp]
theorem keyOf_eq_some {heap : α → Option β} {key : β → κ} {address : α}
    {value : κ} : keyOf heap key address = some value ↔
      ∃ record, heap address = some record ∧ key record = value := by
  simp [keyOf, Option.map_eq_some_iff]

@[simp]
theorem keyOf_eq_none {heap : α → Option β} {key : β → κ} {address : α} :
    keyOf heap key address = none ↔ heap address = none := by
  simp [keyOf]

theorem keyOf_update [DecidableEq α] (heap : α → Option β) (key : β → κ) (address : α)
    (record : Option β) :
    keyOf (Function.update heap address record) key =
      Function.update (keyOf heap key) address (record.map key) := by
  funext other
  by_cases same : other = address
  · subst same; simp [keyOf]
  · simp [keyOf, Function.update_of_ne same]

/-- A change of a record that keeps its key. -/
theorem keyOf_modify [DecidableEq α] (heap : α → Option β) {key : β → κ} (address : α)
    {change : β → β} (kept : ∀ record, key (change record) = key record) :
    keyOf (Function.update heap address ((heap address).map change)) key =
      keyOf heap key := by
  rw [keyOf_update, Function.update_eq_self_iff, keyOf, Option.map_map]
  exact congrArg (fun image => (heap address).map image) (funext kept)

/-- A change of a record that sets its key. -/
theorem keyOf_overwrite [DecidableEq α] {heap : α → Option β} {key : β → κ} {address : α}
    {change : β → β} {value : κ} (stored : (heap address).isSome)
    (written : ∀ record, key (change record) = value) :
    keyOf (Function.update heap address ((heap address).map change)) key =
      Function.update (keyOf heap key) address (some value) := by
  obtain ⟨record, isRecord⟩ := Option.isSome_iff_exists.mp stored
  rw [keyOf_update, isRecord, Option.map_some, Option.map_some, written]

/-- The number of addresses at which a record is stored. -/
def Counts (heap : α → Option β) (count : Nat) : Prop :=
  ∃ live : List α, live.Nodup ∧ (∀ address, address ∈ live ↔ (heap address).isSome) ∧
    live.length = count

variable [DecidableEq α] {heap : α → Option β} {address : α} {value : Option β}

section Counting

variable {count : Nat} (counts : Counts heap count)

include counts

theorem Counts.insert (free : heap address = none) (record : β) :
    Counts (Function.update heap address (some record)) (count + 1) := by
  obtain ⟨live, once, isLive, counted⟩ := counts
  have unlisted : address ∉ live := by
    rw [isLive, free]
    exact Bool.false_ne_true
  refine ⟨address :: live, List.nodup_cons.mpr ⟨unlisted, once⟩, ?_, ?_⟩
  · intro other
    by_cases same : other = address
    · simp [same]
    · simp [same, isLive]
  · rw [List.length_cons, counted]

theorem Counts.erase (stored : (heap address).isSome) :
    Counts (Function.update heap address none) (count - 1) := by
  obtain ⟨live, once, isLive, counted⟩ := counts
  refine ⟨live.erase address, once.erase address, ?_, ?_⟩
  · intro other
    rw [once.mem_erase_iff, isLive]
    by_cases same : other = address
    · simp [same]
    · simp [same]
  · rw [List.length_erase_of_mem ((isLive address).mpr stored), counted]

theorem Counts.replace (stored : (heap address).isSome) (record : β) :
    Counts (Function.update heap address (some record)) count := by
  obtain ⟨live, once, isLive, counted⟩ := counts
  refine ⟨live, once, ?_, counted⟩
  intro other
  rw [isLive]
  by_cases same : other = address
  · subst same
    simp [stored]
  · simp [same]

omit [DecidableEq α] in
theorem Counts.of_keyOf {β' : Type*} {heap' : α → Option β'} {key : β' → β}
    (same : keyOf heap' key = heap) : Counts heap' count := by
  obtain ⟨live, once, isLive, counted⟩ := counts
  refine ⟨live, once, fun other => ?_, counted⟩
  rw [isLive, ← same, keyOf, Option.isSome_map]

end Counting

/-- A property of every record survives a change of one of them that has it. -/
theorem forall_update_heap {holds : α → β → Prop}
    (all : ∀ other record, heap other = some record → holds other record)
    (changed : ∀ record, value = some record → holds address record) :
    ∀ other record, Function.update heap address value other = some record →
      holds other record := by
  intro other record stored
  by_cases same : other = address
  · subst same
    exact changed record (by simpa using stored)
  · rw [Function.update_of_ne same] at stored
    exact all other record stored

/-- Names stay injective when a record keeps its name or takes an unused one. -/
theorem name_injective_update {name : β → κ}
    (injective : ∀ first second firstRecord secondRecord,
      heap first = some firstRecord → heap second = some secondRecord →
        name firstRecord = name secondRecord → first = second)
    (unused : ∀ record, value = some record → ∀ other otherRecord,
      heap other = some otherRecord → name otherRecord = name record →
        other = address) :
    ∀ first second firstRecord secondRecord,
      Function.update heap address value first = some firstRecord →
      Function.update heap address value second = some secondRecord →
        name firstRecord = name secondRecord → first = second := by
  intro first second firstRecord secondRecord firstStored secondStored same
  by_cases firstHere : first = address <;>
    by_cases secondHere : second = address
  · rw [firstHere, secondHere]
  · subst firstHere
    rw [Function.update_of_ne secondHere] at secondStored
    exact (unused firstRecord (by simpa using firstStored) second secondRecord
      secondStored same.symm).symm
  · subst secondHere
    rw [Function.update_of_ne firstHere] at firstStored
    exact unused secondRecord (by simpa using secondStored) first firstRecord
      firstStored same
  · rw [Function.update_of_ne firstHere] at firstStored
    rw [Function.update_of_ne secondHere] at secondStored
    exact injective first second firstRecord secondRecord firstStored
      secondStored same

end Heap

/-- The lists hold each filed address once, under its key and nowhere else. -/
structure BucketIndex {α κ : Type*} (buckets : κ → List α)
    (key : α → Option κ) : Prop where
  nodup : ∀ bucket, (buckets bucket).Nodup
  mem_iff : ∀ bucket address, address ∈ buckets bucket ↔
    key address = some bucket

namespace BucketIndex

variable {α κ : Type*} {buckets : κ → List α} {key : α → Option κ}

theorem empty : BucketIndex (fun _ : κ => ([] : List α)) fun _ => none :=
  ⟨fun _ => List.nodup_nil, fun _ _ => by simp⟩

variable [DecidableEq α] [DecidableEq κ]

/-- Unlinking an address from its bucket removes it from the index. -/
theorem erase (index : BucketIndex buckets key) {address : α} {bucket : κ}
    (filed : key address = some bucket) :
    BucketIndex
      (Function.update buckets bucket ((buckets bucket).erase address))
      (Function.update key address none) := by
  constructor
  · intro other
    by_cases same : other = bucket
    · subst same
      simpa using (index.nodup other).erase address
    · simpa [Function.update_of_ne same] using index.nodup other
  · intro other member
    by_cases moved : member = address
    · subst moved
      by_cases same : other = bucket
      · subst same
        simp [(index.nodup other).mem_erase_iff]
      · simp only [Function.update_of_ne same, index.mem_iff, filed]
        simpa using fun equal : bucket = other => same equal.symm
    · by_cases same : other = bucket
      · subst same
        simp [(index.nodup other).mem_erase_iff, moved, index.mem_iff]
      · simp [Function.update_of_ne same, moved, index.mem_iff]

/-- Linking an unfiled address at the head of a bucket files it there. -/
theorem cons (index : BucketIndex buckets key) {address : α}
    (unfiled : key address = none) (bucket : κ) :
    BucketIndex
      (Function.update buckets bucket (address :: buckets bucket))
      (Function.update key address (some bucket)) := by
  have outside : ∀ other, address ∉ buckets other := by
    intro other inside
    simp [(index.mem_iff other address).mp inside] at unfiled
  constructor
  · intro other
    by_cases same : other = bucket
    · subst same
      simpa using ⟨outside other, index.nodup other⟩
    · simpa [Function.update_of_ne same] using index.nodup other
  · intro other member
    by_cases moved : member = address
    · subst moved
      by_cases same : other = bucket
      · subst same; simp
      · have := outside other
        simpa [Function.update_of_ne same, this] using
          fun equal : bucket = other => same equal.symm
    · by_cases same : other = bucket
      · subst same; simp [moved, index.mem_iff]
      · simp [Function.update_of_ne same, moved, index.mem_iff]

/-- Moving an address to the head of a bucket, the one it is in or another. -/
theorem move (index : BucketIndex buckets key) {address : α} {bucket : κ}
    (filed : key address = some bucket) (target : κ) :
    BucketIndex
      (Function.update
        (Function.update buckets bucket ((buckets bucket).erase address))
        target
        (address :: Function.update buckets bucket
          ((buckets bucket).erase address) target))
      (Function.update key address (some target)) := by
  have unfiled : Function.update key address none address = none := by simp
  simpa using (index.erase filed).cons unfiled target

omit [DecidableEq α] [DecidableEq κ] in
/-- A search through the bucket of a key finds the one stored record whose
property determines both its key and its address. -/
theorem find?_eq_some (index : BucketIndex buckets key) {bucket : κ}
    {holds : α → Bool}
    (filed : ∀ address, holds address = true → (key address).isSome →
      key address = some bucket)
    (unique : ∀ first second, holds first = true → holds second = true →
      key first = some bucket → key second = some bucket → first = second)
    {address : α} :
    (buckets bucket).find? holds = some address ↔
      holds address = true ∧ (key address).isSome := by
  constructor
  · intro found
    have member := (index.mem_iff bucket address).mp
      (List.mem_of_find?_eq_some found)
    exact ⟨List.find?_some found, by simp [member]⟩
  · rintro ⟨property, stored⟩
    have here := filed address property stored
    cases found : (buckets bucket).find? holds with
    | none =>
        exact (List.find?_eq_none.mp found address
          ((index.mem_iff _ _).mpr here) property).elim
    | some other =>
        have there := (index.mem_iff bucket other).mp
          (List.mem_of_find?_eq_some found)
        rw [unique other address (List.find?_some found) property there here]

section Search

variable {β γ : Type*} [DecidableEq γ] {heap : α → Option β} {name : β → γ}
  {hash : γ → κ}

omit [DecidableEq α] [DecidableEq κ] in
/-- A hash table finds the record of a name when names determine records. -/
theorem findName_eq_some
    (index : BucketIndex buckets (keyOf heap fun record => hash (name record)))
    (injective : ∀ first second firstRecord secondRecord,
      heap first = some firstRecord → heap second = some secondRecord →
        name firstRecord = name secondRecord → first = second)
    {wanted : γ} {address : α} :
    ((buckets (hash wanted)).find? fun address =>
        (heap address).any fun record => name record = wanted) = some address ↔
      ∃ record, heap address = some record ∧ name record = wanted := by
  have stored : ∀ other : α,
      ((heap other).any fun record => decide (name record = wanted)) = true ↔
        ∃ record, heap other = some record ∧ name record = wanted := by
    intro other
    cases heap other <;> simp
  rw [index.find?_eq_some]
  · simp only [stored]
    constructor
    · exact And.left
    · rintro ⟨record, found, same⟩
      exact ⟨⟨record, found, same⟩, by simp [keyOf, found]⟩
  · intro other holds _
    obtain ⟨record, found, same⟩ := (stored other).mp holds
    exact keyOf_eq_some.mpr ⟨record, found, by rw [same]⟩
  · intro first second firstHolds secondHolds _ _
    obtain ⟨firstRecord, firstFound, firstSame⟩ := (stored first).mp firstHolds
    obtain ⟨secondRecord, secondFound, secondSame⟩ :=
      (stored second).mp secondHolds
    exact injective first second firstRecord secondRecord firstFound
      secondFound (firstSame.trans secondSame.symm)

omit [DecidableEq α] [DecidableEq κ] in
theorem findName_eq_none
    (index : BucketIndex buckets (keyOf heap fun record => hash (name record)))
    {wanted : γ} :
    ((buckets (hash wanted)).find? fun address =>
        (heap address).any fun record => name record = wanted) = none ↔
      ∀ address record, heap address = some record → name record ≠ wanted := by
  rw [List.find?_eq_none]
  constructor
  · intro missed address record stored same
    have filed := (index.mem_iff (hash wanted) address).mpr
      (keyOf_eq_some.mpr ⟨record, stored, by rw [same]⟩)
    exact missed address filed (by simp [stored, same])
  · intro absent address _ holds
    cases stored : heap address with
    | none => simp [stored] at holds
    | some record =>
        exact absent address record stored (by simpa [stored] using holds)

end Search

end BucketIndex

end CloudDrive
