import Mathlib.Algebra.BigOperators.Group.List.Basic
import Mathlib.Algebra.Ring.Int.Defs
import Mathlib.Tactic.Common

/-!
# Interacting programs

A program calls operations of its environment and continues with their
answers.  What an operation does is left open: a trace allows every answer, an
evaluation performs the operations on a state one after the other, and a
scheduler may interleave the calls of several programs.

The rules for programs are stated over the tree of calls.  `Costs` weighs the
calls of every trace; `Obeys` runs a ghost automaton along them that may refuse
a call; `Always` is what every evaluation ends in, and `Throughout` also says
what each of its steps does.
-/

namespace CloudDrive

/-- A program that returns a value after finitely many calls. -/
inductive Prog {Op : Type} (Answer : Op → Type) (α : Type) : Type where
  | done (value : α)
  | call (op : Op) (next : Answer op → Prog Answer α)

namespace Prog

section Definitions

variable {Op : Type} {Answer : Op → Type} {α β : Type}

def bind : Prog Answer α → (α → Prog Answer β) → Prog Answer β
  | done value, rest => rest value
  | call op next, rest => call op fun answer => (next answer).bind rest

instance : Monad (Prog Answer) where
  pure := done
  bind := bind

/-- Perform one operation and return its answer. -/
def ask (op : Op) : Prog Answer (Answer op) := call op done

@[simp]
theorem pure_eq (value : α) : (pure value : Prog Answer α) = done value := rfl

@[simp]
theorem done_bind (value : α) (rest : α → Prog Answer β) :
    (done value >>= rest) = rest value := rfl

@[simp]
theorem call_bind (op : Op) (next : Answer op → Prog Answer α)
    (rest : α → Prog Answer β) :
    (call op next >>= rest) = call op fun answer => next answer >>= rest := rfl

@[simp]
theorem ask_bind (op : Op) (rest : Answer op → Prog Answer β) :
    (ask op >>= rest) = call op rest := rfl

@[simp]
theorem bind_bind {γ : Type} (program : Prog Answer α)
    (first : α → Prog Answer β) (second : β → Prog Answer γ) :
    (program >>= first >>= second) = program >>= fun value => first value >>= second := by
  induction program with
  | done value => rfl
  | call op next inductionHypothesis =>
      simp only [call_bind, inductionHypothesis]

theorem bind_pure (program : Prog Answer α) : (program >>= pure) = program := by
  induction program with
  | done value => rfl
  | call op next inductionHypothesis =>
      simp only [call_bind, inductionHypothesis]

/-- One call of a trace with its answer. -/
abbrev Exchange (Answer : Op → Type) := Σ op : Op, Answer op

/-- The exchanges of a complete execution, whatever the answers are. -/
inductive Trace : Prog Answer α → List (Exchange Answer) → α → Prop where
  | done (value : α) : Trace (done value) [] value
  | call {op : Op} {next : Answer op → Prog Answer α} (answer : Answer op)
      {exchanges : List (Exchange Answer)} {value : α}
      (rest : Trace (next answer) exchanges value) :
      Trace (call op next) (⟨op, answer⟩ :: exchanges) value

/-- Every trace has the same total weight. -/
def Costs (weight : (op : Op) → Answer op → Int) :
    Prog Answer α → Int → Prop
  | done _, total => total = 0
  | call op next, total =>
      ∀ answer, Costs weight (next answer) (total - weight op answer)

/-- The ghost automaton `update` never meets a call its `guard` refuses, and
ends with the property. -/
def Obeys {γ : Type} (guard : γ → Op → Prop)
    (update : γ → (op : Op) → Answer op → γ) :
    γ → Prog Answer α → (α → γ → Prop) → Prop
  | ghost, done value, post => post value ghost
  | ghost, call op next, post =>
      guard ghost op ∧
        ∀ answer, Obeys guard update (update ghost op answer) (next answer) post

/-- Every call is justified by the exchanges before it. -/
abbrev Justified (guard : List (Exchange Answer) → Op → Prop)
    (history : List (Exchange Answer)) (program : Prog Answer α)
    (post : α → List (Exchange Answer) → Prop) : Prop :=
  Obeys guard (fun history op answer => history ++ [⟨op, answer⟩]) history program
    post

section Evaluation

variable {σ φ : Type} (perform : φ → (op : Op) → σ → Answer op × σ)

/-- Perform the operations one after the other, each with the next choice of
the environment. -/
def eval : Prog Answer α → (Nat → φ) → σ → α × σ
  | done value, _, state => (value, state)
  | call op next, choices, state =>
      (next (perform (choices 0) op state).1).eval
        (fun index => choices (index + 1)) (perform (choices 0) op state).2

/-- The exchanges of an evaluation. -/
def exchanges : Prog Answer α → (Nat → φ) → σ → List (Exchange Answer)
  | done _, _, _ => []
  | call op next, choices, state =>
      ⟨op, (perform (choices 0) op state).1⟩ ::
        (next (perform (choices 0) op state).1).exchanges
          (fun index => choices (index + 1)) (perform (choices 0) op state).2

/-- The steps of an evaluation: the state before each call, its exchange and
the state after it. -/
def steps : Prog Answer α → (Nat → φ) → σ → List (σ × Exchange Answer × σ)
  | done _, _, _ => []
  | call op next, choices, state =>
      (state, ⟨op, (perform (choices 0) op state).1⟩,
          (perform (choices 0) op state).2) ::
        (next (perform (choices 0) op state).1).steps
          (fun index => choices (index + 1)) (perform (choices 0) op state).2

/-- Every step of every evaluation is allowed, and it ends with the property. -/
def Throughout (allowed : σ → Exchange Answer → σ → Prop) :
    Prog Answer α → σ → (α → σ → Prop) → Prop
  | done value, state, post => post value state
  | call op next, state, post =>
      ∀ choice,
        allowed state ⟨op, (perform choice op state).1⟩
          (perform choice op state).2 ∧
        Throughout allowed (next (perform choice op state).1)
          (perform choice op state).2 post

/-- Every evaluation ends in a value and a state with the property. -/
def Always : Prog Answer α → σ → (α → σ → Prop) → Prop
  | done value, state, post => post value state
  | call op next, state, post =>
      ∀ choice, Always (next (perform choice op state).1)
        (perform choice op state).2 post

end Evaluation

end Definitions

section Rules

variable {Op : Type} {Answer : Op → Type} {α β : Type}
  {weight : (op : Op) → Answer op → Int}

@[simp]
theorem costs_done {value : α} {total : Int} :
    Costs weight (done value : Prog Answer α) total ↔ total = 0 := Iff.rfl

theorem Costs.bind {program : Prog Answer α} {rest : α → Prog Answer β}
    {first second : Int} (costs : Costs weight program first)
    (costsRest : ∀ value, Costs weight (rest value) second) :
    Costs weight (program >>= rest) (first + second) := by
  induction program generalizing first with
  | done value =>
      rw [costs_done] at costs
      subst costs
      simpa using costsRest value
  | call op next inductionHypothesis =>
      intro answer
      have shifted : first + second - weight op answer =
          (first - weight op answer) + second := by omega
      rw [shifted]
      exact inductionHypothesis answer (costs answer)

/-- A call without weight may be left out of the account. -/
theorem Costs.ask_free {op : Op} {rest : Answer op → Prog Answer β}
    {total : Int} (free : ∀ answer, weight op answer = 0)
    (costsRest : ∀ answer, Costs weight (rest answer) total) :
    Costs weight (ask op >>= rest) total := by
  intro answer
  rw [free answer, Int.sub_zero]
  exact costsRest answer

variable {γ : Type} {guard : γ → Op → Prop}
  {update : γ → (op : Op) → Answer op → γ}

theorem Obeys.ask {op : Op} {rest : Answer op → Prog Answer β} {ghost : γ}
    {post : β → γ → Prop} (allowed : guard ghost op)
    (obeysRest : ∀ answer,
      Obeys guard update (update ghost op answer) (rest answer) post) :
    Obeys guard update ghost (ask op >>= rest) post :=
  ⟨allowed, obeysRest⟩

/-- The guard allows each call of a trace after the calls before it. -/
theorem Obeys.trace {program : Prog Answer α} {ghost : γ} {post : α → γ → Prop}
    {exchanges before after : List (Exchange Answer)} {exchange : Exchange Answer}
    {value : α} (obeys : Obeys guard update ghost program post)
    (trace : Trace program exchanges value)
    (split : exchanges = before ++ exchange :: after) :
    guard (before.foldl (fun ghost earlier => update ghost earlier.1 earlier.2) ghost)
      exchange.1 := by
  induction trace generalizing ghost before with
  | done value => simp at split
  | call answer rest inductionHypothesis =>
      cases before with
      | nil =>
          obtain ⟨rfl, -⟩ := List.cons.inj split
          exact obeys.1
      | cons earlier before =>
          obtain ⟨rfl, splitRest⟩ := List.cons.inj split
          rw [List.foldl_cons]
          exact inductionHypothesis (obeys.2 answer) splitRest

theorem Obeys.mono {program : Prog Answer α} {ghost : γ}
    {first second : α → γ → Prop} (obeys : Obeys guard update ghost program first)
    (weaker : ∀ value after, first value after → second value after) :
    Obeys guard update ghost program second := by
  induction program generalizing ghost with
  | done value => exact weaker value ghost obeys
  | call op next inductionHypothesis =>
      exact ⟨obeys.1, fun answer => inductionHypothesis answer (obeys.2 answer)⟩

theorem Obeys.bind {program : Prog Answer α} {rest : α → Prog Answer β}
    {ghost : γ} {middle : α → γ → Prop} {post : β → γ → Prop}
    (obeys : Obeys guard update ghost program middle)
    (obeysRest : ∀ value after, middle value after →
      Obeys guard update after (rest value) post) :
    Obeys guard update ghost (program >>= rest) post := by
  induction program generalizing ghost with
  | done value => exact obeysRest value ghost obeys
  | call op next inductionHypothesis =>
      exact ⟨obeys.1, fun answer => inductionHypothesis answer (obeys.2 answer)⟩

variable {σ φ : Type} {perform : φ → (op : Op) → σ → Answer op × σ}

theorem eval_of_perform {op : Op} {next : Answer op → Prog Answer α}
    {choices : Nat → φ} {state after : σ} {answer : Answer op}
    (performed : perform (choices 0) op state = (answer, after)) :
    (call op next).eval perform choices state =
      (next answer).eval perform (fun index => choices (index + 1)) after := by
  rw [eval, performed]

theorem exchanges_of_perform {op : Op} {next : Answer op → Prog Answer α}
    {choices : Nat → φ} {state after : σ} {answer : Answer op}
    (performed : perform (choices 0) op state = (answer, after)) :
    (call op next).exchanges perform choices state =
      ⟨op, answer⟩ ::
        (next answer).exchanges perform (fun index => choices (index + 1)) after := by
  rw [exchanges, performed]

/-- The exchanges of an evaluation before a call justify it. -/
theorem Justified.of_mem {justifies : List (Exchange Answer) → Op → Prop}
    {program : Prog Answer α} {history : List (Exchange Answer)}
    {post : α → List (Exchange Answer) → Prop}
    (justified : Justified justifies history program post)
    {choices : Nat → φ} {state : σ} {exchange : Exchange Answer}
    (made : exchange ∈ program.exchanges perform choices state) :
    ∃ before, before <+: program.exchanges perform choices state ∧
      justifies (history ++ before) exchange.1 := by
  induction program generalizing history choices state with
  | done value => cases made
  | call op next inductionHypothesis =>
      rw [exchanges] at made ⊢
      rcases List.mem_cons.mp made with rfl | later
      · exact ⟨[], List.nil_prefix, by simpa using justified.1⟩
      · obtain ⟨before, earlier, allowed⟩ :=
          inductionHypothesis _ (justified.2 _) later
        exact ⟨_ :: before, List.cons_prefix_cons.mpr ⟨rfl, earlier⟩,
          by simpa using allowed⟩

theorem Always.ask {op : Op} {rest : Answer op → Prog Answer β} {state : σ}
    {post : β → σ → Prop}
    (alwaysRest : ∀ choice, Always perform (rest (perform choice op state).1)
      (perform choice op state).2 post) :
    Always perform (ask op >>= rest) state post := alwaysRest

theorem Always.mono {program : Prog Answer α} {state : σ}
    {first second : α → σ → Prop} (always : Always perform program state first)
    (weaker : ∀ value after, first value after → second value after) :
    Always perform program state second := by
  induction program generalizing state with
  | done value => exact weaker value state always
  | call op next inductionHypothesis =>
      exact fun choice => inductionHypothesis _ (always choice)

theorem Always.bind {program : Prog Answer α} {rest : α → Prog Answer β}
    {state : σ} {middle : α → σ → Prop} {post : β → σ → Prop}
    (always : Always perform program state middle)
    (alwaysRest : ∀ value after, middle value after →
      Always perform (rest value) after post) :
    Always perform (program >>= rest) state post := by
  induction program generalizing state with
  | done value => exact alwaysRest value state always
  | call op next inductionHypothesis =>
      exact fun choice => inductionHypothesis _ (always choice)

theorem Always.eval {program : Prog Answer α} {state : σ}
    {post : α → σ → Prop} (always : Always perform program state post)
    (choices : Nat → φ) :
    post (program.eval perform choices state).1
      (program.eval perform choices state).2 := by
  induction program generalizing state choices with
  | done value => exact always
  | call op next inductionHypothesis =>
      exact inductionHypothesis _ (always (choices 0)) _

variable {allowed : σ → Exchange Answer → σ → Prop}

theorem Throughout.mono {program : Prog Answer α} {state : σ}
    {first second : α → σ → Prop}
    (throughout : Throughout perform allowed program state first)
    (weaker : ∀ value after, first value after → second value after) :
    Throughout perform allowed program state second := by
  induction program generalizing state with
  | done value => exact weaker value state throughout
  | call op next inductionHypothesis =>
      exact fun choice => ⟨(throughout choice).1,
        inductionHypothesis _ (throughout choice).2⟩

theorem Throughout.bind {program : Prog Answer α} {rest : α → Prog Answer β}
    {state : σ} {middle : α → σ → Prop} {post : β → σ → Prop}
    (throughout : Throughout perform allowed program state middle)
    (throughoutRest : ∀ value after, middle value after →
      Throughout perform allowed (rest value) after post) :
    Throughout perform allowed (program >>= rest) state post := by
  induction program generalizing state with
  | done value => exact throughoutRest value state throughout
  | call op next inductionHypothesis =>
      exact fun choice => ⟨(throughout choice).1,
        inductionHypothesis _ (throughout choice).2⟩

theorem Throughout.always {program : Prog Answer α} {state : σ}
    {post : α → σ → Prop}
    (throughout : Throughout perform allowed program state post) :
    Always perform program state post := by
  induction program generalizing state with
  | done value => exact throughout
  | call op next inductionHypothesis =>
      exact fun choice => inductionHypothesis _ (throughout choice).2

theorem Throughout.steps {program : Prog Answer α} {state : σ}
    {post : α → σ → Prop}
    (throughout : Throughout perform allowed program state post)
    (choices : Nat → φ) :
    ∀ step ∈ program.steps perform choices state,
      allowed step.1 step.2.1 step.2.2 := by
  induction program generalizing state choices with
  | done value => exact nofun
  | call op next inductionHypothesis =>
      rw [Prog.steps, List.forall_mem_cons]
      exact ⟨(throughout (choices 0)).1,
        inductionHypothesis _ (throughout (choices 0)).2 _⟩

/-- What every step does to the state, a whole evaluation does. -/
theorem eval_of_steps (relates : σ → σ → Prop) (refl : ∀ state, relates state state)
    (trans : ∀ {before middle after}, relates before middle →
      relates middle after → relates before after)
    {program : Prog Answer α} {choices : Nat → φ} {state : σ}
    (all : ∀ step ∈ program.steps perform choices state,
      relates step.1 step.2.2) :
    relates state (program.eval perform choices state).2 := by
  induction program generalizing choices state with
  | done value => exact refl state
  | call op next inductionHypothesis =>
      rw [steps, List.forall_mem_cons] at all
      exact trans all.1 (inductionHypothesis _ all.2)

end Rules

end Prog

end CloudDrive
