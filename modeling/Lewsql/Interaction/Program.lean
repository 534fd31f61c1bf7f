import Mathlib.Logic.Function.Basic

/-!
# Programs over a signature of requests

A program is a tree of requests to its surroundings: it ends with a value, it
crashes for a reason, or it makes one request and continues with the reply.
The tree says nothing about who answers.  A `Handler` answers from a state and
makes `Program.run` a function; a relation between states, requests and replies
is treated in `Interaction.Logic`.
-/

namespace Interaction

/-- The requests a program can make and the type of the reply to each. -/
structure Signature where
  Request : Type
  Reply : Request → Type

/-- A terminating interaction with the requests of `S`. -/
inductive Program (S : Signature) (Crash Value : Type) where
  | done (value : Value)
  | crash (reason : Crash)
  | call (request : S.Request)
      (next : S.Reply request → Program S Crash Value)

inductive Outcome (Crash Value : Type) where
  | done (value : Value)
  | crashed (reason : Crash)
  deriving DecidableEq, Repr

namespace Program

variable {S : Signature} {Crash Value Next State : Type}

/-- Continue every finished branch with `next`; a crash stays a crash. -/
protected def bind :
    Program S Crash Value → (Value → Program S Crash Next) →
      Program S Crash Next
  | .done value, next => next value
  | .crash reason, _ => .crash reason
  | .call request rest, next =>
      .call request fun reply => (rest reply).bind next

instance : Monad (Program S Crash) where
  pure := .done
  bind := Program.bind

def perform (request : S.Request) :
    Program S Crash (S.Reply request) :=
  .call request .done

@[simp]
theorem pure_eq_done (value : Value) :
    (pure value : Program S Crash Value) = .done value :=
  rfl

@[simp]
theorem done_bind (value : Value) (next : Value → Program S Crash Next) :
    (Program.done value >>= next) = next value :=
  rfl

@[simp]
theorem crash_bind (reason : Crash) (next : Value → Program S Crash Next) :
    (Program.crash reason >>= next) = .crash reason :=
  rfl

@[simp]
theorem call_bind (request : S.Request)
    (rest : S.Reply request → Program S Crash Value)
    (next : Value → Program S Crash Next) :
    (Program.call request rest >>= next) =
      .call request fun reply => rest reply >>= next :=
  rfl

@[simp]
theorem perform_bind (request : S.Request)
    (next : S.Reply request → Program S Crash Next) :
    (perform request >>= next) = .call request next :=
  rfl

private theorem bind_done (program : Program S Crash Value) :
    program.bind .done = program := by
  induction program with
  | done value => rfl
  | crash reason => rfl
  | call request rest inductionHypothesis =>
      simp only [Program.bind, inductionHypothesis]

private theorem bind_assoc' {Last : Type}
    (program : Program S Crash Value)
    (next : Value → Program S Crash Next)
    (last : Next → Program S Crash Last) :
    (program.bind next).bind last =
      program.bind fun value => (next value).bind last := by
  induction program with
  | done value => rfl
  | crash reason => rfl
  | call request rest inductionHypothesis =>
      simp only [Program.bind, inductionHypothesis]

instance : LawfulMonad (Program S Crash) :=
  LawfulMonad.mk' _ bind_done (fun _ _ => rfl) bind_assoc'

@[simp]
theorem map_done (map : Value → Next) (value : Value) :
    map <$> (Program.done value : Program S Crash Value) =
      .done (map value) :=
  rfl

@[simp]
theorem map_crash (map : Value → Next) (reason : Crash) :
    map <$> (Program.crash reason : Program S Crash Value) =
      .crash reason :=
  rfl

@[simp]
theorem map_call (map : Value → Next) (request : S.Request)
    (rest : S.Reply request → Program S Crash Value) :
    map <$> Program.call request rest =
      .call request fun reply => map <$> rest reply :=
  rfl

end Program

/-- Monads in which a computation can end by crashing. -/
class MonadCrash (Crash : outParam Type) (M : Type → Type) where
  crash : {Value : Type} → Crash → M Value

export MonadCrash (crash)

instance {S : Signature} {Crash : Type} :
    MonadCrash Crash (Program S Crash) where
  crash := .crash

instance {Crash State : Type} {M : Type → Type} [Monad M]
    [MonadCrash Crash M] : MonadCrash Crash (StateT State M) where
  crash reason := fun _ => crash reason

@[simp]
theorem crash_program {S : Signature} {Crash Value : Type}
    (reason : Crash) :
    (crash reason : Program S Crash Value) = .crash reason :=
  rfl

@[simp]
theorem crash_run {Crash State Value : Type} {M : Type → Type} [Monad M]
    [MonadCrash Crash M] (reason : Crash) (state : State) :
    (crash reason : StateT State M Value).run state = crash reason :=
  rfl

/-! ## Deterministic surroundings -/

def Handler (S : Signature) (State : Type) : Type :=
  (request : S.Request) → State → S.Reply request × State

namespace Program

variable {S : Signature} {Crash Value Next State : Type}

def run (handler : Handler S State) :
    Program S Crash Value → State → Outcome Crash Value × State
  | .done value, state => (.done value, state)
  | .crash reason, state => (.crashed reason, state)
  | .call request next, state =>
      (next (handler request state).1).run handler
        (handler request state).2

variable (handler : Handler S State)

@[simp]
theorem run_done (value : Value) (state : State) :
    (Program.done value : Program S Crash Value).run handler state =
      (.done value, state) :=
  rfl

@[simp]
theorem run_crash (reason : Crash) (state : State) :
    (Program.crash reason : Program S Crash Value).run handler state =
      (.crashed reason, state) :=
  rfl

@[simp]
theorem run_call (request : S.Request)
    (next : S.Reply request → Program S Crash Value) (state : State) :
    (Program.call request next).run handler state =
      (next (handler request state).1).run handler
        (handler request state).2 :=
  rfl

def mapCrash {Other : Type} (rename : Crash → Other) :
    Program S Crash Value → Program S Other Value
  | .done value => .done value
  | .crash reason => .crash (rename reason)
  | .call request next => .call request fun reply =>
      (next reply).mapCrash rename

theorem run_mapCrash {Other : Type} (rename : Crash → Other)
    (program : Program S Crash Value) (state : State) :
    (program.mapCrash rename).run handler state =
      match program.run handler state with
      | (.done value, after) => (.done value, after)
      | (.crashed reason, after) => (.crashed (rename reason), after) := by
  induction program generalizing state with
  | done value => rfl
  | crash reason => rfl
  | call request rest inductionHypothesis =>
      simp only [mapCrash, run_call, inductionHypothesis]

/-- Running a sequence runs the first part, then the rest unless the first
part crashed. -/
theorem run_bind (program : Program S Crash Value)
    (next : Value → Program S Crash Next) (state : State) :
    (program >>= next).run handler state =
      match program.run handler state with
      | (.done value, after) => (next value).run handler after
      | (.crashed reason, after) => (.crashed reason, after) := by
  induction program generalizing state with
  | done value => rfl
  | crash reason => rfl
  | call request rest inductionHypothesis =>
      simp only [call_bind, run_call, inductionHypothesis]

theorem run_bind_of_done {program : Program S Crash Value}
    {state after : State} {value : Value}
    (finished : program.run handler state = (.done value, after))
    (next : Value → Program S Crash Next) :
    (program >>= next).run handler state =
      (next value).run handler after := by
  rw [run_bind, finished]

theorem run_bind_of_crashed {program : Program S Crash Value}
    {state after : State} {reason : Crash}
    (failed : program.run handler state = (.crashed reason, after))
    (next : Value → Program S Crash Next) :
    (program >>= next).run handler state =
      (.crashed reason, after) := by
  rw [run_bind, failed]

/-- A sequence that returns has a first part that returned. -/
theorem run_bind_eq_done {program : Program S Crash Value}
    {next : Value → Program S Crash Next} {state last : State}
    {result : Next}
    (finished :
      (program >>= next).run handler state = (.done result, last)) :
    ∃ value middle,
      program.run handler state = (.done value, middle) ∧
        (next value).run handler middle = (.done result, last) := by
  rw [run_bind] at finished
  cases first : program.run handler state with
  | mk outcome middle =>
      rw [first] at finished
      cases outcome with
      | done value => exact ⟨value, middle, rfl, finished⟩
      | crashed reason => cases finished

/-- Mapping over a program maps the value of its run. -/
theorem run_map_of_done {program : Program S Crash Value}
    {state after : State} {value : Value}
    (finished : program.run handler state = (.done value, after))
    (map : Value → Next) :
    (map <$> program).run handler state = (.done (map value), after) := by
  rw [map_eq_pure_bind, run_bind_of_done handler finished]
  rfl

end Program

end Interaction
