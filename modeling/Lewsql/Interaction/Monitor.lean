import Lewsql.Interaction.Logic

/-!
# Monitors

A monitor follows the requests of a program, whatever the replies are, and says
of each whether it may be made.  A program that passes a monitor makes, in any
surroundings, only sequences of requests that the monitor accepts.
-/

namespace Interaction

structure Monitor (S : Signature) (Watch : Type) where
  allowed : Watch → S.Request → Prop
  next : Watch → S.Request → Watch

namespace Monitor

variable {S : Signature} {Crash Value Next State Watch : Type}
variable {monitor : Monitor S Watch} {watch : Watch}

inductive Accepts (monitor : Monitor S Watch) :
    Watch → List S.Request → Watch → Prop
  | nil (watch : Watch) : Accepts monitor watch [] watch
  | cons {watch last : Watch} {request : S.Request}
      {rest : List S.Request} :
      monitor.allowed watch request →
      Accepts monitor (monitor.next watch request) rest last →
      Accepts monitor watch (request :: rest) last

/-- What every request that may be made keeps holds after all of them. -/
theorem Accepts.invariant {holds : List S.Request → Watch → Prop}
    (kept : ∀ trace watch request, holds trace watch →
      monitor.allowed watch request →
        holds (trace ++ [request]) (monitor.next watch request))
    {watch last : Watch} {earlier trace : List S.Request}
    (accepted : monitor.Accepts watch trace last)
    (start : holds earlier watch) : holds (earlier ++ trace) last := by
  induction accepted generalizing earlier with
  | nil watch =>
      rw [List.append_nil]
      exact start
  | cons allowed later inductionHypothesis =>
      have longer := inductionHypothesis (kept _ _ _ start allowed)
      rwa [List.append_assoc, List.singleton_append] at longer

/-- Surroundings that reply anything. -/
def transition (monitor : Monitor S Watch) : Transition S Watch :=
  fun before request _ after => after = monitor.next before request

def guarantee (monitor : Monitor S Watch) : Transition S Watch :=
  fun before request _ _ => monitor.allowed before request

/-- The program makes only requests that it may make, and where it returns the
monitor is as `post` says. -/
def Passes (monitor : Monitor S Watch) (program : Program S Crash Value)
    (post : Value → Watch → Prop) (watch : Watch) : Prop :=
  program.wp monitor.transition monitor.guarantee
    (fun outcome after =>
      match outcome with
      | .done value => post value after
      | .crashed _ => True)
    watch

theorem passes_done {value : Value} {post : Value → Watch → Prop}
    (ended : post value watch) :
    monitor.Passes (.done value : Program S Crash Value) post watch :=
  ended

theorem passes_crash {reason : Crash} {post : Value → Watch → Prop} :
    monitor.Passes (.crash reason : Program S Crash Value) post watch :=
  True.intro

theorem passes_perform {request : S.Request}
    {post : S.Reply request → Watch → Prop}
    (allowed : monitor.allowed watch request)
    (ended : ∀ reply, post reply (monitor.next watch request)) :
    monitor.Passes
      (Program.perform request : Program S Crash (S.Reply request))
      post watch := by
  intro reply after moved
  subst moved
  exact ⟨allowed, ended reply⟩

theorem passes_bind {program : Program S Crash Value}
    {next : Value → Program S Crash Next}
    {middle : Value → Watch → Prop} {post : Next → Watch → Prop}
    (first : monitor.Passes program middle watch)
    (rest : ∀ value between, middle value between →
      monitor.Passes (next value) post between) :
    monitor.Passes (program >>= next) post watch := by
  simp only [Passes]
  rw [Program.wp_bind]
  refine Program.wp_consequence first ?_
  intro outcome after ended
  cases outcome with
  | done value => exact rest value after ended
  | crashed reason => exact True.intro

/-- What passing says of a course that returned. -/
theorem accepts_of_passes {env : Transition S State}
    {program : Program S Crash Value} {state last : State}
    {moves : List (Move S State)} {value : Value}
    {post : Value → Watch → Prop}
    (course : Execution env program state moves (.done value) last)
    (passes : monitor.Passes program post watch) :
    ∃ final,
      monitor.Accepts watch (moves.map Move.request) final ∧
        post value final := by
  generalize ending : Outcome.done value = outcome at course
  induction course generalizing watch with
  | done result state =>
      cases ending
      exact ⟨watch, .nil watch, passes⟩
  | crash reason state => cases ending
  | call moved rest inductionHypothesis =>
      obtain ⟨allowed, later⟩ := passes _ _ rfl
      obtain ⟨final, accepted, ended⟩ := inductionHypothesis later ending
      exact ⟨final, .cons allowed accepted, ended⟩

end Monitor

end Interaction
