import CloudDrive.Interaction
import CloudDrive.Runs
import Mathlib.Logic.Function.Basic

/-!
# Interleaved programs

Programs that share a state take turns, one call at a time, in any order.  Each
program carries a ghost that follows its own calls.  What every call keeps, for
a ghost that allows it, holds after every run.
-/

namespace CloudDrive

section Pools

variable {Op : Type} {Answer : Op → Type} {σ α ι φ γ : Type}

/-- Programs that share a state. -/
structure Pool (Answer : Op → Type) (σ α : Type) where
  shared : σ
  programs : List (Prog Answer α)

/-- A new program starts, or a program makes its next call. -/
inductive Move (ι φ : Type) where
  | start (new : ι)
  | call (index : Nat) (choice : φ)

namespace Pool

section Definitions

variable (program : ι → Prog Answer α)
  (perform : Nat → φ → (op : Op) → σ → Option (Answer op × σ))

/-- A call that the shared state refuses, and one of a finished program, is no
step. -/
def step (pool : Pool Answer σ α) : Move ι φ → Option (Pool Answer σ α)
  | .start new => some { pool with programs := pool.programs ++ [program new] }
  | .call index choice =>
      match pool.programs[index]? with
      | some (.call op next) =>
          match perform index choice op pool.shared with
          | some (answer, shared) =>
              some ⟨shared, pool.programs.set index (next answer)⟩
          | none => none
      | _ => none

/-- The call of a move meets a condition on the shared state before it. -/
def Meets (condition : Nat → φ → Op → σ → Prop) (pool : Pool Answer σ α) :
    Move ι φ → Prop
  | .start _ => True
  | .call index choice => ∀ op next,
      pool.programs[index]? = some (.call op next) →
        condition index choice op pool.shared

instance Meets.decidable (condition : Nat → φ → Op → σ → Prop)
    [∀ index choice op shared, Decidable (condition index choice op shared)]
    (pool : Pool Answer σ α) :
    ∀ move : Move ι φ, Decidable (pool.Meets condition move)
  | .start _ => isTrue trivial
  | .call index choice =>
      match current : pool.programs[index]? with
      | some (.call op next) =>
          decidable_of_iff (condition index choice op pool.shared)
            ⟨fun met _ _ same => by cases current.symm.trans same; exact met,
              fun met => met op next current⟩
      | some (.done _) | none => isTrue fun _ _ same => by
          cases current.symm.trans same

/-- Every program obeys its ghost, and the ghosts fit the shared state. -/
def Guarded (guard : γ → Op → Prop) (update : γ → (op : Op) → Answer op → γ)
    (initial : γ) (invariant : σ → (Nat → γ) → Prop)
    (pool : Pool Answer σ α) : Prop :=
  ∃ ghosts : Nat → γ,
    (∀ index, pool.programs[index]? = none → ghosts index = initial) ∧
    (∀ (index : Nat) (program : Prog Answer α),
      pool.programs[index]? = some program →
        program.Obeys guard update (ghosts index) fun _ _ => True) ∧
    invariant pool.shared ghosts

/-- Every program obeys its ghost up to a property of its end, and the ghosts fit
the shared state. -/
def GuardedTo (guard : γ → Op → Prop) (update : γ → (op : Op) → Answer op → γ)
    (initial : γ) (post : α → γ → Prop) (invariant : σ → (Nat → γ) → Prop)
    (pool : Pool Answer σ α) : Prop :=
  ∃ ghosts : Nat → γ,
    (∀ index, pool.programs[index]? = none → ghosts index = initial) ∧
    (∀ (index : Nat) (program : Prog Answer α),
      pool.programs[index]? = some program →
        program.Obeys guard update (ghosts index) post) ∧
    invariant pool.shared ghosts

/-- Every program obeys its ghost up to a property of its end. -/
structure Follows (guard : γ → Op → Prop) (update : γ → (op : Op) → Answer op → γ)
    (initial : γ) (post : α → γ → Prop) (pool : Pool Answer σ α)
    (ghosts : Nat → γ) : Prop where
  fresh : ∀ index, pool.programs[index]? = none → ghosts index = initial
  obeys : ∀ (index : Nat) (program : Prog Answer α),
    pool.programs[index]? = some program →
      program.Obeys guard update (ghosts index) post

end Definitions

variable {program : ι → Prog Answer α}
  {perform : Nat → φ → (op : Op) → σ → Option (Answer op × σ)}

theorem step_call {pool after : Pool Answer σ α} {index : Nat} {choice : φ} :
    pool.step program perform (.call index choice) = some after ↔
      ∃ op next answer shared,
        pool.programs[index]? = some (.call op next) ∧
        perform index choice op pool.shared = some (answer, shared) ∧
        after = ⟨shared, pool.programs.set index (next answer)⟩ := by
  rw [step]
  constructor
  · intro stepped
    split at stepped
    · rename_i op next current
      split at stepped
      · rename_i answer shared performed
        exact ⟨op, next, answer, shared, current, performed,
          (Option.some.inj stepped).symm⟩
      · cases stepped
    · cases stepped
  · rintro ⟨op, next, answer, shared, current, performed, rfl⟩
    rw [current]
    dsimp only
    rw [performed]

theorem meets_true (pool : Pool Answer σ α) (move : Move ι φ) :
    pool.Meets (fun _ _ _ _ => True) move := by
  cases move with
  | start new => trivial
  | call index choice => exact fun _ _ _ => trivial

variable {guard : γ → Op → Prop} {update : γ → (op : Op) → Answer op → γ}
  {initial : γ} {post : α → γ → Prop} {invariant : σ → (Nat → γ) → Prop}
  {condition : Nat → φ → Op → σ → Prop}

section Followers

variable {pool : Pool Answer σ α} {ghosts : Nat → γ}
  (follows : pool.Follows guard update initial post ghosts)

include follows

/-- A new program starts with a fresh ghost. -/
theorem Follows.start {new : Prog Answer α}
    (starts : new.Obeys guard update initial post) :
    Follows guard update initial post
      { pool with programs := pool.programs ++ [new] } ghosts := by
  refine ⟨fun index none => follows.fresh index ?_, ?_⟩
  · simp only [List.getElem?_eq_none_iff, List.length_append] at none ⊢
    omega
  · intro index current isProgram
    rcases Nat.lt_trichotomy index pool.programs.length with inside | rfl | outside
    · rw [List.getElem?_append_left inside] at isProgram
      exact follows.obeys index current isProgram
    · have isNew : new = current := by simpa using isProgram
      rw [← isNew, follows.fresh _ (by simp)]
      exact starts
    · rw [List.getElem?_eq_none_iff.mpr (by simp; omega)] at isProgram
      cases isProgram

/-- A program goes on with the answer to its call. -/
theorem Follows.call {index : Nat} {op : Op} {next : Answer op → Prog Answer α}
    (current : pool.programs[index]? = some (.call op next)) (answer : Answer op)
    (shared : σ) :
    Follows guard update initial post
      (⟨shared, pool.programs.set index (next answer)⟩ : Pool Answer σ α)
      (Function.update ghosts index (update (ghosts index) op answer)) := by
  refine ⟨?_, ?_⟩
  · intro other none
    rw [List.getElem?_eq_none_iff, List.length_set] at none
    have different : other ≠ index := by
      rintro rfl
      rw [List.getElem?_eq_none_iff.mpr none] at current
      cases current
    rw [Function.update_of_ne different]
    exact follows.fresh other (List.getElem?_eq_none_iff.mpr none)
  · intro other later isProgram
    by_cases same : other = index
    · subst same
      rw [Function.update_self]
      rw [List.getElem?_set_self (List.getElem?_eq_some_iff.mp current).1] at isProgram
      cases isProgram
      exact (follows.obeys other _ current).2 answer
    · rw [Function.update_of_ne same]
      rw [List.getElem?_set_ne (Ne.symm same)] at isProgram
      exact follows.obeys other later isProgram

end Followers

section Steps

variable
  (calls : ∀ index choice op shared ghosts answer after,
    invariant shared ghosts → guard (ghosts index) op →
    condition index choice op shared →
    perform index choice op shared = some (answer, after) →
      invariant after
        (Function.update ghosts index (update (ghosts index) op answer)))

include calls

theorem GuardedTo.step
    (starts : ∀ new, (program new).Obeys guard update initial post)
    {pool after : Pool Answer σ α} {move : Move ι φ}
    (guarded : pool.GuardedTo guard update initial post invariant)
    (met : pool.Meets condition move)
    (stepped : pool.step program perform move = some after) :
    after.GuardedTo guard update initial post invariant := by
  obtain ⟨ghosts, fresh, obeys, holds⟩ := guarded
  have follows : pool.Follows guard update initial post ghosts := ⟨fresh, obeys⟩
  cases move with
  | start new =>
      cases stepped
      obtain ⟨fresh, obeys⟩ := follows.start (starts new)
      exact ⟨ghosts, fresh, obeys, holds⟩
  | call index choice =>
      obtain ⟨op, next, answer, shared, current, performed, rfl⟩ :=
        step_call.mp stepped
      obtain ⟨fresh, laterObeys⟩ := follows.call current answer shared
      exact ⟨_, fresh, laterObeys, calls index choice op pool.shared ghosts answer
        shared holds (obeys index _ current).1 (met op next current) performed⟩

theorem GuardedTo.run
    (starts : ∀ new, (program new).Obeys guard update initial post)
    {pool last : Pool Answer σ α} {moves : List (Move ι φ)}
    (guarded : pool.GuardedTo guard update initial post invariant)
    (met : StepsMeet (Pool.step program perform) (Meets condition) pool moves)
    (reached : runFrom (Pool.step program perform) pool moves = some last) :
    last.GuardedTo guard update initial post invariant :=
  runFrom_invariant_of_stepsMeet
    (fun _ _ _ guarded met stepped => guarded.step calls starts met stepped)
    guarded met reached

end Steps

variable
  (starts : ∀ new,
    (program new).Obeys guard update initial fun _ _ => True)
  (calls : ∀ index choice op shared ghosts answer after,
    invariant shared ghosts → guard (ghosts index) op →
    condition index choice op shared →
    perform index choice op shared = some (answer, after) →
      invariant after
        (Function.update ghosts index (update (ghosts index) op answer)))

include starts calls

theorem Guarded.run {pool last : Pool Answer σ α} {moves : List (Move ι φ)}
    (guarded : pool.Guarded guard update initial invariant)
    (met : StepsMeet (Pool.step program perform) (Meets condition) pool moves)
    (reached : runFrom (Pool.step program perform) pool moves = some last) :
    last.Guarded guard update initial invariant :=
  GuardedTo.run calls starts guarded met reached

end Pool

end Pools

end CloudDrive
