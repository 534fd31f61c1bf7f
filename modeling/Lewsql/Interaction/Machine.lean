import Mathlib.Data.List.Basic

/-!
# Runs of labelled transition systems

A `Machine` has start states and steps that carry an event.  A run is the list
of its events with the state it ends in; it grows at its end, so that an
induction over a run looks at the last step.
-/

namespace Interaction

structure Machine (State Event : Type) where
  start : State → Prop
  step : State → Event → State → Prop

namespace Machine

variable {State Abstract Event : Type}
variable {machine : Machine State Event}

inductive Run (machine : Machine State Event) :
    List Event → State → Prop
  | start {state : State} :
      machine.start state → Run machine [] state
  | step {events : List Event} {before after : State} {event : Event} :
      Run machine events before →
      machine.step before event after →
      Run machine (events ++ [event]) after

/-- A property of the events so far and the state that holds at the start and
is kept by every step holds at the end of every run. -/
theorem Run.invariant (holds : List Event → State → Prop)
    (initially : ∀ state, machine.start state → holds [] state)
    (preserved : ∀ events before event after,
      machine.Run events before → holds events before →
        machine.step before event after →
          holds (events ++ [event]) after)
    {events : List Event} {state : State}
    (run : machine.Run events state) : holds events state := by
  induction run with
  | start started => exact initially _ started
  | step earlier stepped inductionHypothesis =>
      exact preserved _ _ _ _ earlier inductionHypothesis stepped

def whenever (machine : Machine State Event)
    (condition : State → Event → Prop) : Machine State Event where
  start := machine.start
  step before event after :=
    condition before event ∧ machine.step before event after

theorem Run.of_whenever {condition : State → Event → Prop}
    {events : List Event} {state : State}
    (run : (machine.whenever condition).Run events state) :
    machine.Run events state := by
  induction run with
  | start started => exact .start started
  | step _ stepped inductionHypothesis =>
      exact .step inductionHypothesis stepped.2

theorem Run.whenever {condition : State → Event → Prop}
    (met : ∀ state event, condition state event)
    {events : List Event} {state : State}
    (run : machine.Run events state) :
    (machine.whenever condition).Run events state := by
  induction run with
  | start started => exact .start started
  | step _ stepped inductionHypothesis =>
      exact .step inductionHypothesis ⟨met _ _, stepped⟩

inductive Path (machine : Machine State Event) (first : State) :
    List Event → State → Prop
  | refl : Path machine first [] first
  | step {events : List Event} {before after : State} {event : Event} :
      Path machine first events before →
      machine.step before event after →
      Path machine first (events ++ [event]) after

theorem Run.append {earlier later : List Event} {before after : State}
    (run : machine.Run earlier before)
    (path : machine.Path before later after) :
    machine.Run (earlier ++ later) after := by
  induction path with
  | refl =>
      rw [List.append_nil]
      exact run
  | step _ stepped inductionHypothesis =>
      rw [← List.append_assoc]
      exact .step inductionHypothesis stepped

/-- A forward simulation along the runs of a machine carries each of them to a
run with the same events. -/
theorem Run.simulate_along (abstract : Machine Abstract Event)
    (related : State → Abstract → Prop)
    (initially : ∀ state, machine.start state →
      ∃ image, abstract.start image ∧ related state image)
    (matched : ∀ events before image event after,
      machine.Run events before → related before image →
        machine.step before event after →
          ∃ next, abstract.step image event next ∧ related after next)
    {events : List Event} {state : State}
    (run : machine.Run events state) :
    ∃ image, abstract.Run events image ∧ related state image := by
  induction run with
  | start started =>
      obtain ⟨image, startedImage, relatedImage⟩ := initially _ started
      exact ⟨image, .start startedImage, relatedImage⟩
  | step earlier stepped inductionHypothesis =>
      obtain ⟨image, imageRun, relatedImage⟩ := inductionHypothesis
      obtain ⟨next, imageStep, relatedNext⟩ :=
        matched _ _ _ _ _ earlier relatedImage stepped
      exact ⟨next, .step imageRun imageStep, relatedNext⟩

/-- A forward simulation carries every run to a run with the same events. -/
theorem Run.simulate (abstract : Machine Abstract Event)
    (related : State → Abstract → Prop)
    (initially : ∀ state, machine.start state →
      ∃ image, abstract.start image ∧ related state image)
    (matched : ∀ before image event after,
      related before image → machine.step before event after →
        ∃ next, abstract.step image event next ∧ related after next)
    {events : List Event} {state : State}
    (run : machine.Run events state) :
    ∃ image, abstract.Run events image ∧ related state image :=
  run.simulate_along abstract related initially
    fun _ before image event after _ => matched before image event after

end Machine

/-! ## Conditions on what happened before -/

section Along

variable {Event : Type} (fine : List Event → Event → Prop)

/-- Each event is fine after the earlier ones and those before it. -/
def AlongFrom (earlier : List Event) : List Event → Prop
  | [] => True
  | event :: later =>
      fine earlier event ∧ AlongFrom (earlier ++ [event]) later

def Along (events : List Event) : Prop :=
  AlongFrom fine [] events

instance AlongFrom.decidable
    [∀ earlier event, Decidable (fine earlier event)] :
    ∀ earlier events, Decidable (AlongFrom fine earlier events)
  | _, [] => .isTrue True.intro
  | earlier, event :: later =>
      have := AlongFrom.decidable (earlier ++ [event]) later
      inferInstanceAs (Decidable (fine earlier event ∧ _))

instance [∀ earlier event, Decidable (fine earlier event)] :
    DecidablePred (Along fine) :=
  fun events => AlongFrom.decidable fine [] events

variable {fine} {events : List Event} {event : Event}

theorem alongFrom_append {earlier : List Event} :
    AlongFrom fine earlier (events ++ [event]) ↔
      AlongFrom fine earlier events ∧ fine (earlier ++ events) event := by
  induction events generalizing earlier with
  | nil => simp [AlongFrom]
  | cons first rest inductionHypothesis =>
      rw [List.cons_append, AlongFrom, AlongFrom, inductionHypothesis,
        List.append_assoc, List.singleton_append, and_assoc]

theorem along_append :
    Along fine (events ++ [event]) ↔
      Along fine events ∧ fine events event :=
  alongFrom_append

end Along

end Interaction
