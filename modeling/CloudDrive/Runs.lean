import Mathlib.Tactic.Common

/-!
# Runs of a labelled transition system

A system is a function that takes a state and an action to the next state, or
refuses the action.  A property that holds at the start and that every step
keeps holds after every run; where a step keeps it only under a condition, it
holds after every run whose steps meet the condition.
-/

namespace CloudDrive

section Runs

variable {σ α : Type*} (step : σ → α → Option σ)

/-- The state after a list of actions, if none is refused. -/
def runFrom : σ → List α → Option σ
  | state, [] => some state
  | state, action :: actions =>
      match step state action with
      | none => none
      | some next => runFrom next actions

/-- Every step of a run meets a condition on the state before it and its
action. -/
def StepsMeet (condition : σ → α → Prop) : σ → List α → Prop
  | _, [] => True
  | state, action :: actions =>
      condition state action ∧
        ∀ next, step state action = some next → StepsMeet condition next actions

instance StepsMeet.decidable (condition : σ → α → Prop)
    [∀ state action, Decidable (condition state action)] :
    ∀ state actions, Decidable (StepsMeet step condition state actions)
  | _, [] => isTrue trivial
  | state, action :: actions =>
      match stepped : step state action with
      | none =>
          decidable_of_iff (condition state action)
            ⟨fun met => ⟨met, fun _ some => by simp [stepped] at some⟩, And.left⟩
      | some next =>
          have := StepsMeet.decidable condition next actions
          decidable_of_iff
            (condition state action ∧ StepsMeet step condition next actions)
            (and_congr_right fun _ =>
              ⟨fun met other same => by cases stepped.symm.trans same; exact met,
                fun met => met next stepped⟩)

variable {step}

theorem runFrom_cons {state last : σ} {action : α} {actions : List α} :
    runFrom step state (action :: actions) = some last ↔
      ∃ next, step state action = some next ∧
        runFrom step next actions = some last := by
  rw [runFrom]
  cases step state action <;> simp

theorem runFrom_append {actions more : List α} {state last : σ} :
    runFrom step state (actions ++ more) = some last ↔
      ∃ middle, runFrom step state actions = some middle ∧
        runFrom step middle more = some last := by
  induction actions generalizing state with
  | nil => simp [runFrom]
  | cons action actions inductionHypothesis =>
      simp only [List.cons_append, runFrom_cons, inductionHypothesis]
      constructor
      · rintro ⟨next, first, middle, rest, final⟩
        exact ⟨middle, ⟨next, first, rest⟩, final⟩
      · rintro ⟨middle, ⟨next, first, rest⟩, final⟩
        exact ⟨next, first, middle, rest, final⟩

theorem stepsMeet_of_forall {condition : α → Prop} {actions : List α}
    (all : ∀ action ∈ actions, condition action) (state : σ) :
    StepsMeet step (fun _ action => condition action) state actions := by
  induction actions generalizing state with
  | nil => trivial
  | cons action actions inductionHypothesis =>
      refine ⟨all action List.mem_cons_self, fun next _ => ?_⟩
      exact inductionHypothesis
        (fun other listed => all other (List.mem_cons_of_mem _ listed)) next

theorem runFrom_invariant_of_stepsMeet {invariant : σ → Prop}
    {condition : σ → α → Prop}
    (preserved : ∀ state action next, invariant state →
      condition state action → step state action = some next → invariant next)
    {actions : List α} {state last : σ} (start : invariant state)
    (met : StepsMeet step condition state actions)
    (reached : runFrom step state actions = some last) : invariant last := by
  induction actions generalizing state with
  | nil =>
      cases reached
      exact start
  | cons action actions inductionHypothesis =>
      obtain ⟨next, first, rest⟩ := runFrom_cons.mp reached
      exact inductionHypothesis
        (preserved state action next start met.1 first) (met.2 next first) rest

theorem runFrom_invariant {invariant : σ → Prop}
    (preserved : ∀ state action next, invariant state →
      step state action = some next → invariant next)
    {actions : List α} {state last : σ} (start : invariant state)
    (reached : runFrom step state actions = some last) : invariant last := by
  induction actions generalizing state with
  | nil =>
      cases reached
      exact start
  | cons action actions inductionHypothesis =>
      obtain ⟨next, first, rest⟩ := runFrom_cons.mp reached
      exact inductionHypothesis (preserved state action next start first) rest

end Runs

end CloudDrive
