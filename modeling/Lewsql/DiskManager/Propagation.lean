import Lewsql.DiskManager.PosixDisk

/-!
# Propagating a result that is evaluated once

The macros evaluate their argument again for its error or its value.  This shows
exactly where the second evaluation, made in the state that the first one left,
does not do the same again.
-/

namespace Lewsql

open Interaction Posix FileSystem

section Once

variable {C : Signature} {R S E State : Type}

/-- Evaluate a result once: return its error, or continue with its value. -/
def propagateOnce (result : Program C Crash (Result R E))
    (rest : R → Program C Crash (Result S E)) :
    Program C Crash (Result S E) := do
  match ← result with
  | .value value => rest value
  | .error error => return .error error

variable (handler : Handler C State)

/-- In this state `PROP_IF_ERROR(result)` has the effect of one evaluation,
whatever comes after it. -/
def PropagatesOnce (result : Program C Crash (Result R E))
    (state : State) : Prop :=
  ∀ (S : Type) (rest : Program C Crash (Result S E)),
    (propIfError result rest).run handler state =
      (propagateOnce result fun _ => rest).run handler state

/-- In this state `UNWRAP_OR_PROP_ERROR(result)` has the effect of one
evaluation, whatever comes after it. -/
def UnwrapsOnce [Exception E] [ValueType R]
    (result : Program C Crash (Result R E)) (state : State) : Prop :=
  ∀ (S : Type) (rest : R → Program C Crash (Result S E)),
    (unwrapOrPropError result rest).run handler state =
      (propagateOnce result rest).run handler state

/-- The result that an evaluation gives is given again, without a further
effect, by the next one. -/
def Repeats (result : Program C Crash (Result R E))
    (state : State) (evaluated : Result R E) : Prop :=
  ∀ after, result.run handler state = (.done evaluated, after) →
    result.run handler after = (.done evaluated, after)

/-- After a value the next evaluation has no further effect, and gives the value
again or, where none is needed, an error with a message. -/
def RepeatsValue [Exception E] [ValueType R]
    (result : Program C Crash (Result R E)) (state : State) : Prop :=
  ∀ content after,
    result.run handler state = (.done (.value content), after) →
      ∃ again, result.run handler after = (.done again, after) ∧
        again.Yields content

variable {handler} {result : Program C Crash (Result R E)}
variable {state after : State}

theorem run_propagateOnce_value {value : R}
    (first : result.run handler state = (.done (.value value), after))
    (rest : R → Program C Crash (Result S E)) :
    (propagateOnce result rest).run handler state =
      (rest value).run handler after := by
  simp only [propagateOnce]
  rw [Program.run_bind_of_done handler first]

theorem run_propagateOnce_error {failure : E}
    (first : result.run handler state = (.done (.error failure), after))
    (rest : R → Program C Crash (Result S E)) :
    (propagateOnce result rest).run handler state =
      (.done (.error failure), after) := by
  simp only [propagateOnce]
  rw [Program.run_bind_of_done handler first]
  rfl

/-- The second evaluation, for the error. -/
theorem run_getError_eq_done {failure : E} {last : State}
    (finished :
      (result >>= fun again => do
        let error ← again.getError
        return (.error error : Result S E)).run handler state =
        (.done (.error failure), last)) :
    result.run handler state = (.done (.error failure), last) := by
  obtain ⟨again, middle, evaluated, rest⟩ :=
    Program.run_bind_eq_done handler finished
  cases again with
  | value content => cases rest
  | error failureAgain =>
      cases rest
      exact evaluated

/-- The second evaluation, for the value. -/
theorem run_unwrapped_eq_done [Exception E] [ValueType R] {content : R}
    {last : State}
    (finished :
      (result >>= fun again => do
        let value ← again.getValue
        return (.value value : Result R E)).run handler state =
        (.done (.value content), last)) :
    ∃ again, result.run handler state = (.done again, last) ∧
      again.Yields content := by
  obtain ⟨again, middle, evaluated, rest⟩ :=
    Program.run_bind_eq_done handler finished
  obtain ⟨value, ending, returned, ended⟩ :=
    Program.run_bind_eq_done handler rest
  obtain ⟨yields, rfl⟩ := Result.run_getValue_eq_done handler returned
  cases ended
  exact ⟨again, evaluated, yields⟩

theorem propagatesOnce_iff :
    PropagatesOnce handler result state ↔
      ∀ failure, Repeats handler result state (.error failure) := by
  constructor
  · intro once failure after first
    have same := once Unit (return .ok)
    rw [run_propagateOnce_error first, propIfError,
      Program.run_bind_of_done handler first] at same
    exact run_getError_eq_done same
  · intro repeats S rest
    cases first : result.run handler state with
    | mk outcome after =>
        cases outcome with
        | crashed reason =>
            simp only [propIfError, propagateOnce]
            rw [Program.run_bind_of_crashed handler first,
              Program.run_bind_of_crashed handler first]
        | done evaluated =>
            cases evaluated with
            | value content =>
                rw [propIfError_eq, run_propagate_value handler first,
                  run_propagateOnce_value first]
            | error failure =>
                have second := repeats failure after first
                rw [propIfError_eq,
                  run_propagate_error handler first second,
                  run_propagateOnce_error first]
                rfl

theorem unwrapsOnce_iff [Exception E] [ValueType R] :
    UnwrapsOnce handler result state ↔
      (∀ failure, Repeats handler result state (.error failure)) ∧
        RepeatsValue handler result state := by
  constructor
  · intro once
    constructor
    · intro failure after first
      have same := once Unit fun _ => return .ok
      rw [run_propagateOnce_error first, unwrapOrPropError,
        Program.run_bind_of_done handler first] at same
      exact run_getError_eq_done same
    · intro content after first
      have same := once R fun value => return .value value
      rw [run_propagateOnce_value first, unwrapOrPropError,
        Program.run_bind_of_done handler first] at same
      exact run_unwrapped_eq_done same
  · intro repeats S rest
    cases first : result.run handler state with
    | mk outcome after =>
        cases outcome with
        | crashed reason =>
            simp only [unwrapOrPropError, propagateOnce]
            rw [Program.run_bind_of_crashed handler first,
              Program.run_bind_of_crashed handler first]
        | done evaluated =>
            cases evaluated with
            | value content =>
                obtain ⟨again, second, yields⟩ :=
                  repeats.2 content after first
                calc
                  _ = (do
                        let value ← (← result).getValue
                        rest value : Program C Crash (Result S E)).run
                        handler after := by
                    rw [unwrapOrPropError,
                      Program.run_bind_of_done handler first,
                      Result.isError_value, if_neg Bool.false_ne_true]
                  _ = (rest content).run handler after := by
                    rw [Program.run_bind_of_done handler second,
                      Result.getValue_of_yields yields, pure_bind]
                  _ = _ := (run_propagateOnce_value first rest).symm
            | error failure =>
                have second := repeats.1 failure after first
                rw [unwrapOrPropError_eq,
                  run_unwrap_error handler first second,
                  run_propagateOnce_error first]
                rfl

variable (handler result state) in
/-- `PROP_IF_ERROR` has the effect of one evaluation exactly where an error is
repeated, and `UNWRAP_OR_PROP_ERROR` exactly where an error is repeated and
`get_value` returns a value again. -/
theorem macros_evaluate_once_iff [Exception E] [ValueType R] :
    (PropagatesOnce handler result state ↔
      ∀ failure, Repeats handler result state (.error failure)) ∧
    (UnwrapsOnce handler result state ↔
      (∀ failure, Repeats handler result state (.error failure)) ∧
        RepeatsValue handler result state) :=
  ⟨propagatesOnce_iff, unwrapsOnce_iff⟩

/-- A `sync` that fails and would then succeed: the error is detected by the
first evaluation and asked of the second. -/
theorem sync_propagated_twice :
    ∃ state : FileSystem × (Nat → Fault),
      ((PosixDisk.new "d/a.disk" 0 2 8).sync.run servePlanned state).1 =
          .done (.error .unkownError) ∧
        ((propIfError (PosixDisk.new "d/a.disk" 0 2 8).sync
            (return (.ok : DiskResult Unit))).run servePlanned state).1 =
          .crashed .assertIsError ∧
        ¬ PropagatesOnce servePlanned
          (PosixDisk.new "d/a.disk" 0 2 8).sync state := by
  refine ⟨((FileSystem.empty id).setDescriptor 0 ⟨0, 0⟩,
    fun index => if index = 0 then .fail else .none), by decide,
    by decide, ?_⟩
  intro once
  have same := congrArg Prod.fst (once Unit (return .ok))
  revert same
  decide

end Once

end Lewsql
