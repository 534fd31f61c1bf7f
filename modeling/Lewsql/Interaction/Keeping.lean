import Mathlib.Tactic.Cases

/-!
# Invariants of programs with a state

A program passes a state on or fails.  What each part of it keeps, the whole
program keeps.
-/

namespace Interaction

section Keeping

variable {State Failure Value Other : Type}

/-- A program keeps a property of the state when it returns. -/
def Keeps (holds : State → Prop)
    (program : StateT State (Except Failure) Value) : Prop :=
  ∀ before value after, program.run before = .ok (value, after) →
    holds before → holds after

variable {holds : State → Prop}

theorem keeps_pure (value : Value) :
    Keeps holds (pure value : StateT State (Except Failure) Value) := by
  intro before result after ran held
  cases ran
  exact held

theorem keeps_throw (failure : Failure) :
    Keeps holds (throw failure : StateT State (Except Failure) Value) := by
  intro before value after ran _
  cases ran

theorem keeps_get :
    Keeps holds (get : StateT State (Except Failure) State) := by
  intro before value after ran held
  cases ran
  exact held

theorem keeps_bind {first : StateT State (Except Failure) Value}
    {next : Value → StateT State (Except Failure) Other}
    (keepsFirst : Keeps holds first)
    (keepsNext : ∀ value, Keeps holds (next value)) :
    Keeps holds (first >>= next) := by
  intro before other after ran held
  rw [StateT.run_bind] at ran
  cases firstRan : first.run before with
  | error failure =>
      rw [firstRan] at ran
      cases ran
  | ok pair =>
      rw [firstRan] at ran
      have middle := keepsFirst before pair.1 pair.2 firstRan held
      exact keepsNext pair.1 pair.2 other after ran middle

end Keeping

end Interaction
