import CloudDrive.Interaction
import CloudDrive.Runs
import Mathlib.Order.GameAdd

/-!
# Dialogues

Two programs that exchange messages over a queue in each direction take turns
in any order.  A program that waits for a message is blocked until one arrives
or the other program has ended.

Turns of different programs commute, so it is enough to find one order in which
a dialogue comes to an end, for all choices of the environment: then it does so
in every order.
-/

namespace CloudDrive

namespace Prog

variable {Op : Type} {Answer : Op → Type} {α : Type}

/-- What is left of a program after its first call. -/
def IsRest (rest program : Prog Answer α) : Prop :=
  ∃ op next answer, program = .call op next ∧ rest = next answer

theorem wellFounded_rest : WellFounded (@IsRest Op Answer α) := by
  refine ⟨fun program => ?_⟩
  induction program with
  | done value => exact ⟨_, fun _ ⟨_, _, _, isCall, _⟩ => by cases isCall⟩
  | call op next inductionHypothesis =>
      refine ⟨_, ?_⟩
      rintro _ ⟨_, _, answer, isCall, rfl⟩
      cases isCall
      exact inductionHypothesis answer

end Prog

/-- What a call does at one end of a dialogue: it changes the state of that end
only, sends a message, or waits for one; nothing is received once the other end
has ended. -/
inductive Act (α σ μ : Type) where
  | inner (answer : α) (state : σ)
  | sends (message : μ) (answer : α) (state : σ)
  | receives (answer : Option μ → α)

/-- What holds after a call for the messages that have passed, whatever it
receives. -/
def Act.After {α σ μ : Type} (state : σ) (sent received : List μ)
    (post : α → σ → List μ → List μ → Prop) : Act α σ μ → Prop
  | .inner answer after => post answer after sent received
  | .sends message answer after => post answer after (sent ++ [message]) received
  | .receives answer =>
      post (answer none) state sent received ∧
        ∀ message, post (answer (some message)) state sent (received ++ [message])

/-- One end of a dialogue, with the messages that have passed through it. -/
structure Endpoint {Op : Type} (Answer : Op → Type) (α σ μ : Type) where
  program : Prog Answer α
  state : σ
  inbox : List μ
  sent : List μ
  received : List μ

namespace Endpoint

variable {Op : Type} {Answer : Op → Type} {α σ μ φ : Type}

/-- The start of a program. -/
def start (program : Prog Answer α) (state : σ) : Endpoint Answer α σ μ :=
  ⟨program, state, [], [], []⟩

def ended (endpoint : Endpoint Answer α σ μ) : Bool :=
  match endpoint.program with
  | .done _ => true
  | .call .. => false

def deliver (endpoint : Endpoint Answer α σ μ) (messages : List μ) :
    Endpoint Answer α σ μ :=
  { endpoint with inbox := endpoint.inbox ++ messages }

variable (act : φ → (op : Op) → σ → Act (Answer op) σ μ)

/-- The next call of an end and the messages it sends, if it is not blocked;
`closed` says whether the other end has ended. -/
def step (closed : Bool) (choice : φ) (endpoint : Endpoint Answer α σ μ) :
    Option (Endpoint Answer α σ μ × List μ) :=
  match endpoint.program with
  | .done _ => none
  | .call op next =>
      match act choice op endpoint.state with
      | .inner answer state =>
          some ({ endpoint with program := next answer, state }, [])
      | .sends message answer state =>
          some
            ({ endpoint with
                program := next answer, state
                sent := endpoint.sent ++ [message] }, [message])
      | .receives answer =>
          match endpoint.inbox with
          | message :: inbox =>
              some
                ({ endpoint with
                    program := next (answer (some message)), inbox
                    received := endpoint.received ++ [message] }, [])
          | [] =>
              if closed then
                some ({ endpoint with program := next (answer none) }, [])
              else none

@[simp]
theorem deliver_mk (program : Prog Answer α) (state : σ)
    (inbox sent received messages : List μ) :
    deliver ⟨program, state, inbox, sent, received⟩ messages =
      ⟨program, state, inbox ++ messages, sent, received⟩ := rfl

@[simp]
theorem deliver_nil (endpoint : Endpoint Answer α σ μ) :
    endpoint.deliver [] = endpoint := by
  simp [deliver]

@[simp]
theorem deliver_deliver (endpoint : Endpoint Answer α σ μ)
    (first second : List μ) :
    (endpoint.deliver first).deliver second = endpoint.deliver (first ++ second) := by
  simp [deliver]

@[simp]
theorem ended_deliver (endpoint : Endpoint Answer α σ μ) (messages : List μ) :
    (endpoint.deliver messages).ended = endpoint.ended := rfl

variable {act} {closed : Bool} {choice : φ} {endpoint after : Endpoint Answer α σ μ}
  {messages : List μ}

/-- What a step can do. -/
inductive StepCases (act : φ → (op : Op) → σ → Act (Answer op) σ μ)
    (closed : Bool) (choice : φ) (endpoint : Endpoint Answer α σ μ) :
    Endpoint Answer α σ μ → List μ → Prop where
  | inner {op : Op} {next : Answer op → Prog Answer α} {answer : Answer op}
      {state : σ} (calls : endpoint.program = .call op next)
      (acts : act choice op endpoint.state = .inner answer state) :
      StepCases act closed choice endpoint
        { endpoint with program := next answer, state } []
  | sends {op : Op} {next : Answer op → Prog Answer α} {answer : Answer op}
      {state : σ} {message : μ} (calls : endpoint.program = .call op next)
      (acts : act choice op endpoint.state = .sends message answer state) :
      StepCases act closed choice endpoint
        { endpoint with
          program := next answer, state
          sent := endpoint.sent ++ [message] } [message]
  | receives {op : Op} {next : Answer op → Prog Answer α}
      {answer : Option μ → Answer op} {message : μ} {inbox : List μ}
      (calls : endpoint.program = .call op next)
      (acts : act choice op endpoint.state = .receives answer)
      (arrived : endpoint.inbox = message :: inbox) :
      StepCases act closed choice endpoint
        { endpoint with
          program := next (answer (some message)), inbox
          received := endpoint.received ++ [message] } []
  | closes {op : Op} {next : Answer op → Prog Answer α}
      {answer : Option μ → Answer op} (calls : endpoint.program = .call op next)
      (acts : act choice op endpoint.state = .receives answer)
      (empty : endpoint.inbox = []) (isClosed : closed = true) :
      StepCases act closed choice endpoint
        { endpoint with program := next (answer none) } []

theorem step_eq_some :
    endpoint.step act closed choice = some (after, messages) ↔
      StepCases act closed choice endpoint after messages := by
  constructor
  · intro stepped
    rw [step] at stepped
    split at stepped
    · cases stepped
    · rename_i op next calls
      split at stepped
      · cases stepped
        exact .inner calls ‹_›
      · cases stepped
        exact .sends calls ‹_›
      · split at stepped
        · cases stepped
          exact .receives calls ‹_› ‹_›
        · split_ifs at stepped with isClosed
          cases stepped
          exact .closes calls ‹_› ‹_› isClosed
  · intro cases
    cases cases with
    | inner calls acts => simp [step, calls, acts]
    | sends calls acts => simp [step, calls, acts]
    | receives calls acts arrived => simp [step, calls, acts, arrived]
    | closes calls acts empty isClosed => simp [step, calls, acts, empty, isClosed]

/-- A step is no step of an end that has ended. -/
theorem not_ended_of_step
    (stepped : endpoint.step act closed choice = some (after, messages)) :
    endpoint.ended = false := by
  cases step_eq_some.mp stepped <;> simp [ended, *]

/-- An end that is not blocked goes on in the same way when more messages
arrive or the other end ends. -/
theorem step_deliver
    (stepped : endpoint.step act false choice = some (after, messages))
    (more : List μ) (closed : Bool) :
    (endpoint.deliver more).step act closed choice =
      some (after.deliver more, messages) := by
  rw [step_eq_some]
  cases step_eq_some.mp stepped with
  | inner calls acts => exact .inner calls acts
  | sends calls acts => exact .sends calls acts
  | receives calls acts arrived =>
      exact .receives calls acts (by simp [deliver, arrived])
  | closes calls acts empty isClosed => cases isClosed

theorem isRest_step
    (stepped : endpoint.step act closed choice = some (after, messages)) :
    after.program.IsRest endpoint.program := by
  cases step_eq_some.mp stepped with
  | inner calls acts | sends calls acts | receives calls acts arrived
  | closes calls acts empty isClosed => exact ⟨_, _, _, calls, rfl⟩

theorem sent_step
    (stepped : endpoint.step act closed choice = some (after, messages)) :
    endpoint.sent ++ messages = after.sent := by
  cases step_eq_some.mp stepped <;> simp

theorem received_step
    (stepped : endpoint.step act closed choice = some (after, messages)) :
    after.received ++ after.inbox = endpoint.received ++ endpoint.inbox := by
  cases step_eq_some.mp stepped <;> simp [*]

section Guarded

variable {γ : Type} {guard : γ → Op → Prop} {update : γ → (op : Op) → Answer op → γ}
  {invariant : γ → σ → List μ → List μ → Prop}

/-- The program obeys a ghost that fits the state and the messages that have
passed. -/
def Guarded (guard : γ → Op → Prop) (update : γ → (op : Op) → Answer op → γ)
    (invariant : γ → σ → List μ → List μ → Prop)
    (endpoint : Endpoint Answer α σ μ) : Prop :=
  ∃ ghost, endpoint.program.Obeys guard update ghost (fun _ _ => True) ∧
    invariant ghost endpoint.state endpoint.sent endpoint.received

theorem Guarded.deliver (guarded : endpoint.Guarded guard update invariant)
    (messages : List μ) :
    (endpoint.deliver messages).Guarded guard update invariant := guarded

/-- What every call keeps, for a ghost that allows it, is kept by a step. -/
theorem Guarded.step
    (calls : ∀ ghost choice op state sent received,
      invariant ghost state sent received → guard ghost op →
      (act choice op state).After state sent received fun answer =>
        invariant (update ghost op answer))
    (guarded : endpoint.Guarded guard update invariant)
    (stepped : endpoint.step act closed choice = some (after, messages)) :
    after.Guarded guard update invariant := by
  obtain ⟨ghost, obeys, holds⟩ := guarded
  have called := fun op => calls ghost choice op _ _ _ holds
  cases step_eq_some.mp stepped with
  | inner isCall acts =>
      rw [isCall] at obeys
      have holdsAfter := called _ obeys.1
      rw [acts] at holdsAfter
      exact ⟨_, obeys.2 _, holdsAfter⟩
  | sends isCall acts =>
      rw [isCall] at obeys
      have holdsAfter := called _ obeys.1
      rw [acts] at holdsAfter
      exact ⟨_, obeys.2 _, holdsAfter⟩
  | receives isCall acts arrived =>
      rw [isCall] at obeys
      have holdsAfter := called _ obeys.1
      rw [acts] at holdsAfter
      exact ⟨_, obeys.2 _, holdsAfter.2 _⟩
  | closes isCall acts empty isClosed =>
      rw [isCall] at obeys
      have holdsAfter := called _ obeys.1
      rw [acts] at holdsAfter
      exact ⟨_, obeys.2 _, holdsAfter.1⟩

end Guarded

end Endpoint

structure Dialogue {Op Op' : Type} (Answer : Op → Type) (Answer' : Op' → Type)
    (α β σ τ μ : Type) where
  left : Endpoint Answer α σ μ
  right : Endpoint Answer' β τ μ

/-- One of the two programs makes its next call. -/
inductive Turn (φ ψ : Type) where
  | left (choice : φ)
  | right (choice : ψ)

namespace Dialogue

variable {Op Op' : Type} {Answer : Op → Type} {Answer' : Op' → Type}
  {α β σ τ μ φ ψ : Type}

section Definitions

variable (actLeft : φ → (op : Op) → σ → Act (Answer op) σ μ)
  (actRight : ψ → (op : Op') → τ → Act (Answer' op) τ μ)

def step (dialogue : Dialogue Answer Answer' α β σ τ μ) :
    Turn φ ψ → Option (Dialogue Answer Answer' α β σ τ μ)
  | .left choice =>
      (dialogue.left.step actLeft dialogue.right.ended choice).map
        fun (left, messages) => ⟨left, dialogue.right.deliver messages⟩
  | .right choice =>
      (dialogue.right.step actRight dialogue.left.ended choice).map
        fun (right, messages) => ⟨dialogue.left.deliver messages, right⟩

variable (ordinary : Turn φ ψ → Prop)

/-- In every order of ordinary turns both programs end, and with the
property. -/
inductive Ends (post : Dialogue Answer Answer' α β σ τ μ → Prop) :
    Dialogue Answer Answer' α β σ τ μ → Prop where
  | ended {dialogue : Dialogue Answer Answer' α β σ τ μ}
      (left : dialogue.left.ended = true) (right : dialogue.right.ended = true)
      (holds : post dialogue) : Ends post dialogue
  | runs {dialogue : Dialogue Answer Answer' α β σ τ μ}
      (goesOn : ∃ turn next, ordinary turn ∧
        dialogue.step actLeft actRight turn = some next)
      (ends : ∀ turn next, ordinary turn →
        dialogue.step actLeft actRight turn = some next → Ends post next) :
      Ends post dialogue

/-- In some order of turns both programs end with the property, whatever the
ordinary choices are. -/
inductive Leads (post : Dialogue Answer Answer' α β σ τ μ → Prop) :
    Dialogue Answer Answer' α β σ τ μ → Prop where
  | ended {dialogue : Dialogue Answer Answer' α β σ τ μ}
      (left : dialogue.left.ended = true) (right : dialogue.right.ended = true)
      (holds : post dialogue) : Leads post dialogue
  | turnLeft {dialogue : Dialogue Answer Answer' α β σ τ μ}
      (next : φ → Dialogue Answer Answer' α β σ τ μ)
      (steps : ∀ choice, ordinary (.left choice) →
        dialogue.step actLeft actRight (.left choice) = some (next choice))
      (leads : ∀ choice, ordinary (.left choice) → Leads post (next choice)) :
      Leads post dialogue
  | turnRight {dialogue : Dialogue Answer Answer' α β σ τ μ}
      (next : ψ → Dialogue Answer Answer' α β σ τ μ)
      (steps : ∀ choice, ordinary (.right choice) →
        dialogue.step actLeft actRight (.right choice) = some (next choice))
      (leads : ∀ choice, ordinary (.right choice) → Leads post (next choice)) :
      Leads post dialogue

end Definitions

variable {actLeft : φ → (op : Op) → σ → Act (Answer op) σ μ}
  {actRight : ψ → (op : Op') → τ → Act (Answer' op) τ μ}
  {dialogue next other : Dialogue Answer Answer' α β σ τ μ}

theorem step_left {choice : φ} :
    dialogue.step actLeft actRight (.left choice) = some next ↔
      ∃ left messages,
        dialogue.left.step actLeft dialogue.right.ended choice =
          some (left, messages) ∧
        next = ⟨left, dialogue.right.deliver messages⟩ := by
  simp only [step, Option.map_eq_some_iff, Prod.exists, eq_comm (b := next)]

theorem step_right {choice : ψ} :
    dialogue.step actLeft actRight (.right choice) = some next ↔
      ∃ right messages,
        dialogue.right.step actRight dialogue.left.ended choice =
          some (right, messages) ∧
        next = ⟨dialogue.left.deliver messages, right⟩ := by
  simp only [step, Option.map_eq_some_iff, Prod.exists, eq_comm (b := next)]

/-- Turns of different programs commute. -/
theorem step_commutes {choiceLeft : φ} {choiceRight : ψ}
    (stepsLeft : dialogue.step actLeft actRight (.left choiceLeft) = some next)
    (stepsRight :
      dialogue.step actLeft actRight (.right choiceRight) = some other) :
    ∃ last, next.step actLeft actRight (.right choiceRight) = some last ∧
      other.step actLeft actRight (.left choiceLeft) = some last := by
  obtain ⟨left, sentLeft, movesLeft, rfl⟩ := step_left.mp stepsLeft
  obtain ⟨right, sentRight, movesRight, rfl⟩ := step_right.mp stepsRight
  rw [Endpoint.not_ended_of_step movesRight] at movesLeft
  rw [Endpoint.not_ended_of_step movesLeft] at movesRight
  refine ⟨⟨left.deliver sentRight, right.deliver sentLeft⟩, ?_, ?_⟩
  · exact step_right.mpr ⟨_, _, Endpoint.step_deliver movesRight _ _, rfl⟩
  · exact step_left.mpr ⟨_, _, Endpoint.step_deliver movesLeft _ _, rfl⟩

/-- No program that has ended takes a turn. -/
theorem step_ended (left : dialogue.left.ended = true)
    (right : dialogue.right.ended = true) (turn : Turn φ ψ) :
    dialogue.step actLeft actRight turn = none := by
  rw [Option.eq_none_iff_forall_ne_some]
  intro next stepped
  cases turn with
  | left choice =>
      obtain ⟨_, _, moves, -⟩ := step_left.mp stepped
      simp [Endpoint.not_ended_of_step moves] at left
  | right choice =>
      obtain ⟨_, _, moves, -⟩ := step_right.mp stepped
      simp [Endpoint.not_ended_of_step moves] at right

/-- A turn takes one of the programs to what is left of it. -/
theorem gameAdd_step {turn : Turn φ ψ}
    (stepped : dialogue.step actLeft actRight turn = some next) :
    Prod.GameAdd Prog.IsRest Prog.IsRest
      (next.left.program, next.right.program)
      (dialogue.left.program, dialogue.right.program) := by
  cases turn with
  | left choice =>
      obtain ⟨left, messages, moves, rfl⟩ := step_left.mp stepped
      exact .fst (Endpoint.isRest_step moves)
  | right choice =>
      obtain ⟨right, messages, moves, rfl⟩ := step_right.mp stepped
      exact .snd (Endpoint.isRest_step moves)

section Endings

variable {ordinary : Turn φ ψ → Prop}
  {post first second : Dialogue Answer Answer' α β σ τ μ → Prop}

/-- A dialogue that leads to an end does so after every turn. -/
theorem Leads.step
    (leads : Leads actLeft actRight ordinary post dialogue)
    {turn : Turn φ ψ} (isOrdinary : ordinary turn)
    (stepped : dialogue.step actLeft actRight turn = some next) :
    Leads actLeft actRight ordinary post next := by
  induction leads generalizing next turn with
  | ended left right holds =>
      rw [step_ended left right] at stepped
      cases stepped
  | @turnLeft dialogue after steps leads inductionHypothesis =>
      cases turn with
      | left choice =>
          cases (steps choice isOrdinary).symm.trans stepped
          exact leads choice isOrdinary
      | right choice =>
          have commutes := fun choiceLeft chosen =>
            step_commutes (steps choiceLeft chosen) stepped
          refine .turnLeft
            (fun choiceLeft =>
              (next.step actLeft actRight (.left choiceLeft)).getD next)
            (fun choiceLeft chosen => ?_) fun choiceLeft chosen => ?_
          · obtain ⟨last, -, second⟩ := commutes choiceLeft chosen
            rw [second, Option.getD_some]
          · obtain ⟨last, first, second⟩ := commutes choiceLeft chosen
            rw [second, Option.getD_some]
            exact inductionHypothesis choiceLeft chosen isOrdinary first
  | @turnRight dialogue after steps leads inductionHypothesis =>
      cases turn with
      | right choice =>
          cases (steps choice isOrdinary).symm.trans stepped
          exact leads choice isOrdinary
      | left choice =>
          have commutes := fun choiceRight chosen =>
            step_commutes stepped (steps choiceRight chosen)
          refine .turnRight
            (fun choiceRight =>
              (next.step actLeft actRight (.right choiceRight)).getD next)
            (fun choiceRight chosen => ?_) fun choiceRight chosen => ?_
          · obtain ⟨last, second, -⟩ := commutes choiceRight chosen
            rw [second, Option.getD_some]
          · obtain ⟨last, second, first⟩ := commutes choiceRight chosen
            rw [second, Option.getD_some]
            exact inductionHypothesis choiceRight chosen isOrdinary first

/-- Finding one order in which a dialogue ends is enough: programs make
finitely many calls, and no turn leads astray. -/
theorem Leads.ends (leads : Leads actLeft actRight ordinary post dialogue)
    (someLeft : ∃ choice, ordinary (.left choice))
    (someRight : ∃ choice, ordinary (.right choice)) :
    Ends actLeft actRight ordinary post dialogue := by
  suffices all : ∀ programs : Prog Answer α × Prog Answer' β,
      ∀ dialogue : Dialogue Answer Answer' α β σ τ μ,
        (dialogue.left.program, dialogue.right.program) = programs →
        Leads actLeft actRight ordinary post dialogue →
        Ends actLeft actRight ordinary post dialogue from
    all _ dialogue rfl leads
  intro programs
  induction programs using
    (Prog.wellFounded_rest.prod_gameAdd Prog.wellFounded_rest).induction with
  | h programs inductionHypothesis =>
      rintro dialogue rfl leads
      have further : ∀ turn next, ordinary turn →
          dialogue.step actLeft actRight turn = some next →
          Ends actLeft actRight ordinary post next :=
        fun turn next isOrdinary stepped => inductionHypothesis _
          (gameAdd_step stepped) next rfl (leads.step isOrdinary stepped)
      cases leads with
      | ended left right holds => exact .ended left right holds
      | turnLeft next steps _ =>
          obtain ⟨choice, chosen⟩ := someLeft
          exact .runs ⟨_, _, chosen, steps choice chosen⟩ further
      | turnRight next steps _ =>
          obtain ⟨choice, chosen⟩ := someRight
          exact .runs ⟨_, _, chosen, steps choice chosen⟩ further

theorem Leads.left {left : Endpoint Answer α σ μ} {right : Endpoint Answer' β τ μ}
    (moves : ∀ choice, ordinary (.left choice) → ∃ after messages,
      left.step actLeft right.ended choice = some (after, messages) ∧
        Leads actLeft actRight ordinary post ⟨after, right.deliver messages⟩) :
    Leads actLeft actRight ordinary post ⟨left, right⟩ := by
  refine .turnLeft
    (fun choice => (Dialogue.step actLeft actRight ⟨left, right⟩
      (.left choice)).getD ⟨left, right⟩)
    (fun choice chosen => ?_) fun choice chosen => ?_
  all_goals
    obtain ⟨after, messages, stepped, leads⟩ := moves choice chosen
    simp only [Dialogue.step, stepped, Option.map_some, Option.getD_some]
  exact leads

theorem Leads.right {left : Endpoint Answer α σ μ} {right : Endpoint Answer' β τ μ}
    (moves : ∀ choice, ordinary (.right choice) → ∃ after messages,
      right.step actRight left.ended choice = some (after, messages) ∧
        Leads actLeft actRight ordinary post ⟨left.deliver messages, after⟩) :
    Leads actLeft actRight ordinary post ⟨left, right⟩ := by
  refine .turnRight
    (fun choice => (Dialogue.step actLeft actRight ⟨left, right⟩
      (.right choice)).getD ⟨left, right⟩)
    (fun choice chosen => ?_) fun choice chosen => ?_
  all_goals
    obtain ⟨after, messages, stepped, leads⟩ := moves choice chosen
    simp only [Dialogue.step, stepped, Option.map_some, Option.getD_some]
  exact leads

theorem Ends.mono (ends : Ends actLeft actRight ordinary first dialogue)
    (weaker : ∀ last, first last → second last) :
    Ends actLeft actRight ordinary second dialogue := by
  induction ends with
  | ended left right holds => exact .ended left right (weaker _ holds)
  | runs goesOn _ inductionHypothesis => exact .runs goesOn inductionHypothesis

/-- Two properties of all ends hold together at some end. -/
theorem Ends.exists_and (ends : Ends actLeft actRight ordinary first dialogue)
    (endsToo : Ends actLeft actRight ordinary second dialogue) :
    ∃ last, first last ∧ second last := by
  induction ends with
  | @ended dialogue left right holds =>
      cases endsToo with
      | ended _ _ holdsToo => exact ⟨_, holds, holdsToo⟩
      | runs goesOn _ =>
          obtain ⟨turn, next, -, stepped⟩ := goesOn
          rw [step_ended left right] at stepped
          cases stepped
  | runs goesOn _ inductionHypothesis =>
      obtain ⟨turn, next, isOrdinary, stepped⟩ := goesOn
      cases endsToo with
      | ended left right _ =>
          rw [step_ended left right] at stepped
          cases stepped
      | runs _ endsToo =>
          exact inductionHypothesis turn next isOrdinary stepped
            (endsToo turn next isOrdinary stepped)

end Endings

section Runs

/-- What is received is what was sent, in the same order. -/
structure Faithful (dialogue : Dialogue Answer Answer' α β σ τ μ) : Prop where
  toRight : dialogue.right.received ++ dialogue.right.inbox = dialogue.left.sent
  toLeft : dialogue.left.received ++ dialogue.left.inbox = dialogue.right.sent

theorem Faithful.step (faithful : dialogue.Faithful) {turn : Turn φ ψ}
    (stepped : dialogue.step actLeft actRight turn = some next) :
    next.Faithful := by
  obtain ⟨toRight, toLeft⟩ := faithful
  cases turn with
  | left choice =>
      obtain ⟨left, messages, moves, rfl⟩ := step_left.mp stepped
      constructor
      · rw [← Endpoint.sent_step moves, ← toRight]
        exact (List.append_assoc _ _ _).symm
      · exact (Endpoint.received_step moves).trans toLeft
  | right choice =>
      obtain ⟨right, messages, moves, rfl⟩ := step_right.mp stepped
      constructor
      · exact (Endpoint.received_step moves).trans toRight
      · rw [← Endpoint.sent_step moves, ← toLeft]
        exact (List.append_assoc _ _ _).symm

variable {turns : List (Turn φ ψ)} {last : Dialogue Answer Answer' α β σ τ μ}

theorem Faithful.run (faithful : dialogue.Faithful)
    (reached : runFrom (Dialogue.step actLeft actRight) dialogue turns =
      some last) : last.Faithful :=
  runFrom_invariant (fun _ _ _ faithful stepped => faithful.step stepped) faithful
    reached

/-- What every step of the left program keeps, whatever it receives. -/
theorem run_left {holds : Endpoint Answer α σ μ → Prop}
    (delivered : ∀ endpoint messages, holds endpoint →
      holds (endpoint.deliver messages))
    (kept : ∀ closed choice endpoint after messages, holds endpoint →
      endpoint.step actLeft closed choice = some (after, messages) → holds after)
    (start : holds dialogue.left)
    (reached : runFrom (step actLeft actRight) dialogue turns = some last) :
    holds last.left := by
  refine @runFrom_invariant _ _ _ (fun dialogue => holds dialogue.left)
    (fun dialogue turn next holdsBefore stepped => ?_) _ _ _ start reached
  cases turn with
  | left choice =>
      obtain ⟨left, messages, moves, rfl⟩ := step_left.mp stepped
      exact kept _ _ _ _ _ holdsBefore moves
  | right choice =>
      obtain ⟨right, messages, moves, rfl⟩ := step_right.mp stepped
      exact delivered _ _ holdsBefore

/-- What every step of the right program keeps, whatever it receives. -/
theorem run_right {holds : Endpoint Answer' β τ μ → Prop}
    (delivered : ∀ endpoint messages, holds endpoint →
      holds (endpoint.deliver messages))
    (kept : ∀ closed choice endpoint after messages, holds endpoint →
      endpoint.step actRight closed choice = some (after, messages) → holds after)
    (start : holds dialogue.right)
    (reached : runFrom (step actLeft actRight) dialogue turns = some last) :
    holds last.right := by
  refine @runFrom_invariant _ _ _ (fun dialogue => holds dialogue.right)
    (fun dialogue turn next holdsBefore stepped => ?_) _ _ _ start reached
  cases turn with
  | left choice =>
      obtain ⟨left, messages, moves, rfl⟩ := step_left.mp stepped
      exact delivered _ _ holdsBefore
  | right choice =>
      obtain ⟨right, messages, moves, rfl⟩ := step_right.mp stepped
      exact kept _ _ _ _ _ holdsBefore moves

end Runs

end Dialogue

end CloudDrive
