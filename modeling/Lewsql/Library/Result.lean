import Lewsql.Interaction.Logic

/-!
# `Result` and the propagation macros

`Result<R, E>` holds a value or an error.  `PROP_IF_ERROR` and
`UNWRAP_OR_PROP_ERROR` are macros, so their argument is evaluated again at every
place where it stands in the expansion; here the argument is a computation that
is bound as often as the text of the macro mentions it.
-/

namespace Lewsql

open Interaction

/-- The ways in which a call of the modelled code ends without returning. -/
inductive Crash where
  /-- `assert` in `Result::get_error`. -/
  | assertIsError
  /-- `std::bad_optional_access` out of a `noexcept` function. -/
  | badOptionalAccess
  /-- `default: assert(0)` in `DiskManagerError::what`. -/
  | assertWhat
  /-- `assert(0)` in `PosixDisk::get_disk_byte_size`. -/
  | assertFileSize
  /-- `assert(byte_size % get_page_size() == 0)` in `extend`. -/
  | assertByteSize
  | divisionByZero
  | signedOverflow
  deriving DecidableEq, Repr

/-- Error types with a `what()`, which may itself assert. -/
class Exception (E : Type) where
  what : E → Except Crash String

/-- What `get_value` returns after it logged an error: `void` needs no value, and
the optional of any other type is empty. -/
class ValueType (R : Type) where
  withoutValue : Option R

instance (priority := low) (R : Type) : ValueType R where
  withoutValue := none

/-- The specialisation `Result<void, E>`. -/
instance : ValueType Unit where
  withoutValue := some ()

/-- `Library::Result::Result<R, E>`. -/
inductive Result (R E : Type) where
  | value (value : R)
  | error (error : E)
  deriving DecidableEq, Repr

namespace Result

variable {R E : Type} {M : Type → Type} [Monad M] [MonadCrash Crash M]

/-- `VoidValue::Ok`. -/
@[reducible]
def ok : Result Unit E :=
  .value ()

def isError : Result R E → Bool
  | .value _ => false
  | .error _ => true

/-- `get_value`, which logs the message of an error first. -/
def getValue [Exception E] [ValueType R] : Result R E → M R
  | .value content => pure content
  | .error failure =>
      match Exception.what failure, (ValueType.withoutValue : Option R) with
      | .error reason, _ => crash reason
      | .ok _, some content => pure content
      | .ok _, none => crash .badOptionalAccess

def getError : Result R E → M E
  | .value _ => crash .assertIsError
  | .error failure => pure failure

@[simp]
theorem isError_value (content : R) :
    (Result.value content : Result R E).isError = false :=
  rfl

@[simp]
theorem isError_error (failure : E) :
    (Result.error failure : Result R E).isError = true :=
  rfl

@[simp]
theorem getValue_value [Exception E] [ValueType R] (content : R) :
    (Result.value content : Result R E).getValue = (pure content : M R) :=
  rfl

/-- The way in which unwrapping an error crashes where there is no value. -/
def unwrapCrash [Exception E] (failure : E) : Crash :=
  match Exception.what failure with
  | .ok _ => .badOptionalAccess
  | .error reason => reason

@[simp]
theorem getValue_error [Exception E] (failure : E) :
    (Result.error failure : Result R E).getValue =
      (crash (unwrapCrash failure) : M R) := by
  cases text : Exception.what failure with
  | ok message =>
      simp [getValue, unwrapCrash, text, ValueType.withoutValue]
  | error reason => simp [getValue, unwrapCrash, text]

def Yields [Exception E] [ValueType R] (content : R) : Result R E → Prop
  | .value other => other = content
  | .error failure =>
      (∃ message, Exception.what failure = .ok message) ∧
        ValueType.withoutValue = some content

theorem getValue_of_yields [Exception E] [ValueType R] {content : R}
    {evaluated : Result R E} (yields : evaluated.Yields content) :
    evaluated.getValue = (pure content : M R) := by
  cases evaluated with
  | value other =>
      change other = content at yields
      rw [getValue_value, yields]
  | error failure =>
      obtain ⟨⟨message, text⟩, returned⟩ := yields
      simp only [getValue]
      rw [text, returned]

/-- A `get_value` that returns did not crash. -/
theorem run_getValue_eq_done {C : Signature} {State : Type} [Exception E]
    [ValueType R] (handler : Handler C State) {state last : State}
    {content : R} {evaluated : Result R E}
    (returned :
      (evaluated.getValue : Program C Crash R).run handler state =
        (.done content, last)) :
    evaluated.Yields content ∧ last = state := by
  cases evaluated with
  | value other =>
      cases returned
      exact ⟨rfl, rfl⟩
  | error failure =>
      simp only [getValue] at returned
      cases text : Exception.what failure with
      | error reason =>
          rw [text] at returned
          cases returned
      | ok message =>
          cases found : (ValueType.withoutValue : Option R) with
          | none =>
              rw [text, found] at returned
              cases returned
          | some other =>
              rw [text, found] at returned
              cases returned
              exact ⟨⟨⟨message, text⟩, found⟩, rfl⟩

@[simp]
theorem getError_value (content : R) :
    (Result.value content : Result R E).getError =
      (crash .assertIsError : M E) :=
  rfl

@[simp]
theorem getError_error (failure : E) :
    (Result.error failure : Result R E).getError = (pure failure : M E) :=
  rfl

end Result

section Macros

variable {R S E : Type} {M : Type → Type} [Monad M] [MonadCrash Crash M]

/-- `PROP_IF_ERROR(result)` in front of `rest`, where the values of the
temporaries that `result` makes are given up by `dispose` at the end of the full
expression. -/
def propIfErrorTemporary (dispose : R → M Unit)
    (result : M (Result R E)) (rest : M (Result S E)) :
    M (Result S E) := do
  match ← result with
  | .value value =>
      dispose value
      rest
  | .error _ =>
      let error ← (← result).getError
      return .error error

/-- `PROP_IF_ERROR(result)` in front of `rest`. -/
def propIfError (result : M (Result R E)) (rest : M (Result S E)) :
    M (Result S E) := do
  if (← result).isError then
    let error ← (← result).getError
    return .error error
  else
    rest

/-- `UNWRAP_OR_PROP_ERROR(result)`, with its value passed to `rest`. -/
def unwrapOrPropError [Exception E] [ValueType R]
    (result : M (Result R E)) (rest : R → M (Result S E)) :
    M (Result S E) := do
  if (← result).isError then
    let error ← (← result).getError
    return .error error
  else
    rest (← (← result).getValue)

end Macros

/-! ## Normal forms of the macros -/

section NormalForms

variable {R S E T State : Type} {M : Type → Type} [Monad M]
variable [MonadCrash Crash M]

/-- Evaluate a result; after an error, evaluate it again for its error. -/
def propagate (result : M (Result R E)) (onError : E → M T)
    (onValue : R → M T) : M T := do
  match ← result with
  | .value value => onValue value
  | .error _ =>
      let error ← (← result).getError
      onError error

/-- Evaluate a result and evaluate it again for its value or its error. -/
def unwrap [Exception E] [ValueType R] (result : M (Result R E))
    (onError : E → M T) (onValue : R → M T) : M T := do
  if (← result).isError then
    let error ← (← result).getError
    onError error
  else
    onValue (← (← result).getValue)

theorem propIfError_eq (result : M (Result R E))
    (rest : M (Result S E)) :
    propIfError result rest =
      propagate result (fun error => pure (.error error))
        (fun _ => rest) := by
  simp only [propIfError, propagate]
  apply congrArg (result >>= ·)
  funext evaluated
  cases evaluated <;> rfl

theorem unwrapOrPropError_eq [Exception E] [ValueType R]
    (result : M (Result R E)) (rest : R → M (Result S E)) :
    unwrapOrPropError result rest =
      unwrap result (fun error => pure (.error error)) rest :=
  rfl

/-- Continuing after a propagation continues both of its ends. -/
theorem propagate_bind {C : Signature}
    (result : Program C Crash (Result R E))
    (onError : E → Program C Crash T) (onValue : R → Program C Crash T)
    (next : T → Program C Crash S) :
    propagate result onError onValue >>= next =
      propagate result (fun error => onError error >>= next)
        (fun value => onValue value >>= next) := by
  simp only [propagate]
  rw [bind_assoc]
  apply bind_congr
  intro evaluated
  cases evaluated with
  | value content => rfl
  | error failure =>
      rw [bind_assoc]
      apply bind_congr
      intro again
      cases again <;> rfl

/-- A propagated program that does not touch the local state. -/
theorem propIfError_lift_run {C : Signature}
    (result : Program C Crash (Result R E))
    (rest : StateT State (Program C Crash) (Result S E))
    (state : State) :
    (propIfError (monadLift result) rest).run state =
      propagate result (fun error => pure (.error error, state))
        (fun _ => rest.run state) := by
  simp only [propIfError, propagate]
  rw [StateT.run_bind, StateT.run_monadLift]
  simp only [bind_pure_comp, bind_map_left]
  apply bind_congr
  intro evaluated
  cases evaluated with
  | value content => rfl
  | error failure =>
      simp only [Result.isError_error, if_true, StateT.run_bind]
      rw [StateT.run_monadLift]
      simp only [bind_pure_comp, bind_map_left]
      apply bind_congr
      intro again
      cases again <;> rfl

end NormalForms

/-! ## Runs of the normal forms -/

section Runs

variable {C : Signature} {R E T State : Type}
variable (handler : Handler C State)
variable {result : Program C Crash (Result R E)}
variable {state after last : State}

theorem run_propagate_value {value : R}
    (first : result.run handler state = (.done (.value value), after))
    (onError : E → Program C Crash T) (onValue : R → Program C Crash T) :
    (propagate result onError onValue).run handler state =
      (onValue value).run handler after := by
  simp only [propagate]
  rw [Program.run_bind_of_done handler first]

theorem run_propagate_error {error again : E}
    (first : result.run handler state = (.done (.error error), after))
    (second : result.run handler after = (.done (.error again), last))
    (onError : E → Program C Crash T) (onValue : R → Program C Crash T) :
    (propagate result onError onValue).run handler state =
      (onError again).run handler last := by
  simp only [propagate]
  rw [Program.run_bind_of_done handler first]
  dsimp only
  rw [Program.run_bind_of_done handler second]
  rfl

theorem run_unwrap_value [Exception E] [ValueType R] {value again : R}
    (first : result.run handler state = (.done (.value value), after))
    (second : result.run handler after = (.done (.value again), last))
    (onError : E → Program C Crash T) (onValue : R → Program C Crash T) :
    (unwrap result onError onValue).run handler state =
      (onValue again).run handler last := by
  simp only [unwrap]
  rw [Program.run_bind_of_done handler first]
  simp only [Result.isError_value, Bool.false_eq_true, if_false]
  rw [Program.run_bind_of_done handler second]
  rfl

theorem run_unwrap_error [Exception E] [ValueType R] {error again : E}
    (first : result.run handler state = (.done (.error error), after))
    (second : result.run handler after = (.done (.error again), last))
    (onError : E → Program C Crash T) (onValue : R → Program C Crash T) :
    (unwrap result onError onValue).run handler state =
      (onError again).run handler last := by
  simp only [unwrap]
  rw [Program.run_bind_of_done handler first]
  simp only [Result.isError_error, if_true]
  rw [Program.run_bind_of_done handler second]
  rfl

/-- Unwrapping that returns evaluated its result twice and went on with the
second evaluation. -/
theorem run_unwrap_eq_done [Exception E]
    {onError : E → Program C Crash T} {onValue : R → Program C Crash T}
    {value : T}
    (finished :
      (unwrap result onError onValue).run handler state =
        (.done value, last)) :
    ∃ first again middle ending,
      result.run handler state = (.done first, middle) ∧
        result.run handler middle = (.done again, ending) ∧
        (match again with
          | .error error => onError error
          | .value content => onValue content).run handler ending =
            (.done value, last) := by
  simp only [unwrap] at finished
  obtain ⟨first, middle, evaluated, rest⟩ :=
    Program.run_bind_eq_done handler finished
  cases first with
  | error failure =>
      rw [Result.isError_error, if_pos rfl] at rest
      obtain ⟨again, ending, evaluatedAgain, rest⟩ :=
        Program.run_bind_eq_done handler rest
      cases again with
      | error failure =>
          exact ⟨_, _, _, _, evaluated, evaluatedAgain, rest⟩
      | value content => cases rest
  | value content =>
      rw [Result.isError_value, if_neg Bool.false_ne_true] at rest
      obtain ⟨again, ending, evaluatedAgain, rest⟩ :=
        Program.run_bind_eq_done handler rest
      cases again with
      | value content =>
          exact ⟨_, _, _, _, evaluated, evaluatedAgain, rest⟩
      | error failure =>
          rw [Result.getValue_error] at rest
          cases rest

end Runs

/-! ## Requests of the normal forms -/

section Requests

variable {C : Signature} {R E T : Type} {allowed : C.Request → Prop}
variable {result : Program C Crash (Result R E)}
variable {onError : E → Program C Crash T}
variable {onValue : R → Program C Crash T}

theorem makesOnly_propagate (only : result.makesOnly allowed)
    (onlyError : ∀ error, (onError error).makesOnly allowed)
    (onlyValue : ∀ value, (onValue value).makesOnly allowed) :
    (propagate result onError onValue).makesOnly allowed := by
  apply Program.makesOnly_bind only
  intro evaluated
  cases evaluated with
  | value content => exact onlyValue content
  | error failure =>
      apply Program.makesOnly_bind only
      intro again
      cases again with
      | value content => exact True.intro
      | error failure => exact onlyError failure

theorem makesOnly_unwrap [Exception E] (only : result.makesOnly allowed)
    (onlyError : ∀ error, (onError error).makesOnly allowed)
    (onlyValue : ∀ value, (onValue value).makesOnly allowed) :
    (unwrap result onError onValue).makesOnly allowed := by
  apply Program.makesOnly_bind only
  intro evaluated
  cases evaluated with
  | error failure =>
      apply Program.makesOnly_bind only
      intro again
      cases again with
      | value content => exact True.intro
      | error failure => exact onlyError failure
  | value content =>
      apply Program.makesOnly_bind only
      intro again
      cases again with
      | value content => exact onlyValue content
      | error failure =>
          rw [Result.getValue_error]
          exact True.intro

end Requests

/-! ## Weakest preconditions of the normal forms -/

section Wp

variable {C : Signature} {R E T State : Type}
variable {env guarantee : Transition C State}
variable {post : Outcome Crash T → State → Prop}

/-- A postcondition by cases on how a fallible program ends. -/
def ending (valuePost : R → State → Prop) (errorPost : E → State → Prop)
    (crashPost : Crash → State → Prop) :
    Outcome Crash (Result R E) → State → Prop
  | .done (.value value), state => valuePost value state
  | .done (.error error), state => errorPost error state
  | .crashed reason, state => crashPost reason state

variable {result : Program C Crash (Result R E)}
variable {onError : E → Program C Crash T}
variable {onValue : R → Program C Crash T}
variable {ready : State → Prop} {valuePost : R → State → Prop}
variable {errorPost : E → State → Prop}
variable {crashPost : Crash → State → Prop}

/-- Propagation, with one postcondition for each of the two evaluations. -/
theorem wp_propagate_twice {againValue : R → State → Prop}
    {againError : E → State → Prop} {state : State}
    (first :
      result.wp env guarantee (ending valuePost errorPost crashPost) state)
    (second : ∀ failure after, errorPost failure after →
      result.wp env guarantee (ending againValue againError crashPost)
        after)
    (value : ∀ content after, valuePost content after →
      (onValue content).wp env guarantee post after)
    (error : ∀ failure after, againError failure after →
      (onError failure).wp env guarantee post after)
    (crashed : ∀ reason after, crashPost reason after →
      post (.crashed reason) after)
    (asserted : ∀ content after, againValue content after →
      post (.crashed .assertIsError) after) :
    (propagate result onError onValue).wp env guarantee post state := by
  simp only [propagate]
  rw [Program.wp_bind]
  refine Program.wp_consequence first ?_
  intro outcome after ended
  rcases outcome with evaluated | reason
  · cases evaluated with
    | value content => exact value content after ended
    | error failure =>
        change (result >>= _).wp env guarantee post after
        rw [Program.wp_bind]
        refine Program.wp_consequence (second failure after ended) ?_
        intro outcome last endedAgain
        rcases outcome with again | reason
        · cases again with
          | value content => exact asserted content last endedAgain
          | error failure => exact error failure last endedAgain
        · exact crashed reason last endedAgain
  · exact crashed reason after ended

/-- Propagation, when an error leaves the result ready to be evaluated
again. -/
theorem wp_propagate
    (safe : ∀ state, ready state →
      result.wp env guarantee
        (ending valuePost
          (fun error after => ready after ∧ errorPost error after)
          crashPost)
        state)
    (value : ∀ content after, valuePost content after →
      (onValue content).wp env guarantee post after)
    (error : ∀ failure after, ready after → errorPost failure after →
      (onError failure).wp env guarantee post after)
    (crashed : ∀ reason after, crashPost reason after →
      post (.crashed reason) after)
    (asserted : ∀ content after, valuePost content after →
      post (.crashed .assertIsError) after)
    {state : State} (start : ready state) :
    (propagate result onError onValue).wp env guarantee post state :=
  wp_propagate_twice (safe state start)
    (fun _ after failed => safe after failed.1) value
    (fun failure after failed => error failure after failed.1 failed.2)
    crashed asserted

/-- Propagation of a result that has errors only where `broken` holds; an error
leaves it ready to be evaluated again. -/
theorem wp_propagate_when {broken : Prop}
    (safe : ∀ state, ready state →
      result.wp env guarantee
        (ending valuePost (fun _ after => ready after ∧ broken) crashPost)
        state)
    (value : ∀ content after, valuePost content after →
      (onValue content).wp env guarantee post after)
    (error : broken → ∀ failure after, ready after →
      (onError failure).wp env guarantee post after)
    (crashed : ∀ reason after, crashPost reason after →
      post (.crashed reason) after)
    (asserted : broken → ∀ content after, valuePost content after →
      post (.crashed .assertIsError) after)
    {state : State} (start : ready state) :
    (propagate result onError onValue).wp env guarantee post state := by
  have again (failure : E) (after : State)
      (failed : ready after ∧ broken) :
      result.wp env guarantee
        (ending (fun content last => broken ∧ valuePost content last)
          (fun _ last => ready last ∧ broken) crashPost)
        after := by
    refine Program.wp_consequence (safe after failed.1) ?_
    intro outcome last ended
    rcases outcome with (content | failureAgain) | reason
    · exact ⟨failed.2, ended⟩
    · exact ended
    · exact ended
  exact wp_propagate_twice (safe state start) again value
    (fun failure after failed => error failed.2 failure after failed.1)
    crashed
    (fun content after returned =>
      asserted returned.1 content after returned.2)

/-- Unwrapping, when both a value and an error leave the result ready to be
evaluated again. -/
theorem wp_unwrap [Exception E]
    (safe : ∀ state, ready state →
      result.wp env guarantee
        (ending (fun content after => ready after ∧ valuePost content after)
          (fun error after => ready after ∧ errorPost error after)
          crashPost)
        state)
    (value : ∀ content after, ready after → valuePost content after →
      (onValue content).wp env guarantee post after)
    (error : ∀ failure after, ready after → errorPost failure after →
      (onError failure).wp env guarantee post after)
    (crashed : ∀ reason after, crashPost reason after →
      post (.crashed reason) after)
    (asserted : ∀ failure before content after,
      errorPost failure before → ready after → valuePost content after →
        post (.crashed .assertIsError) after)
    (unwrapped : ∀ content before failure after,
      valuePost content before → ready after → errorPost failure after →
        post (.crashed (Result.unwrapCrash failure)) after)
    {state : State} (start : ready state) :
    (unwrap result onError onValue).wp env guarantee post state := by
  simp only [unwrap]
  rw [Program.wp_bind]
  refine Program.wp_consequence (safe state start) ?_
  intro outcome after ended
  rcases outcome with evaluated | reason
  · cases evaluated with
    | error failure =>
        change (result >>= _).wp env guarantee post after
        rw [Program.wp_bind]
        refine Program.wp_consequence (safe after ended.1) ?_
        intro outcome last endedAgain
        rcases outcome with again | reason
        · cases again with
          | value content =>
              exact asserted failure after content last ended.2
                endedAgain.1 endedAgain.2
          | error failure =>
              exact error failure last endedAgain.1 endedAgain.2
        · exact crashed reason last endedAgain
    | value content =>
        change (result >>= _).wp env guarantee post after
        rw [Program.wp_bind]
        refine Program.wp_consequence (safe after ended.1) ?_
        intro outcome last endedAgain
        rcases outcome with again | reason
        · cases again with
          | value content =>
              exact value content last endedAgain.1 endedAgain.2
          | error failure =>
              dsimp only
              rw [Result.getValue_error]
              exact unwrapped content after failure last ended.2
                endedAgain.1 endedAgain.2
        · exact crashed reason last endedAgain
  · exact crashed reason after ended

end Wp

end Lewsql
