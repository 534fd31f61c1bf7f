import Lewsql.Interaction.Program

/-!
# Programs in step

A pairing says which requests of two programs belong together, as a function of
what links the programs so far, and what links them after the replies.  Two
programs are in step when they make requests that belong together, whatever the
replies are, and end alike.
-/

namespace Interaction

/-- Which requests belong together, and what their replies link. -/
structure Pairing (S : Signature) (Link : Type) where
  asks : Link → S.Request → S.Request → Prop
  answers : Link → (left right : S.Request) → S.Reply left →
    S.Reply right → Link → Prop

namespace Program

variable {S : Signature} {Crash Value Other Next Last Link : Type}
variable {pairing : Pairing S Link}

/-- The programs are in step, and their values satisfy `post`. -/
def InStep (pairing : Pairing S Link)
    (post : Value → Other → Link → Prop) :
    Program S Crash Value → Program S Crash Other → Link → Prop
  | .done value, right, link =>
      ∃ other, right = .done other ∧ post value other link
  | .crash reason, right, _ => right = .crash reason
  | .call request next, right, link =>
      ∃ other rest, right = .call other rest ∧
        pairing.asks link request other ∧
        ∀ reply answer after,
          pairing.answers link request other reply answer after →
            (next reply).InStep pairing post (rest answer) after

theorem inStep_done {post : Value → Other → Link → Prop} {value : Value}
    {other : Other} {link : Link} (ended : post value other link) :
    (Program.done value : Program S Crash Value).InStep pairing post
      (.done other) link :=
  ⟨other, rfl, ended⟩

theorem inStep_crash {post : Value → Other → Link → Prop} {reason : Crash}
    {link : Link} :
    (Program.crash reason : Program S Crash Value).InStep pairing post
      (.crash reason) link :=
  rfl

theorem inStep_call {post : Value → Other → Link → Prop}
    {left right : S.Request} {next : S.Reply left → Program S Crash Value}
    {rest : S.Reply right → Program S Crash Other} {link : Link}
    (asked : pairing.asks link left right)
    (later : ∀ reply answer after,
      pairing.answers link left right reply answer after →
        (next reply).InStep pairing post (rest answer) after) :
    (Program.call left next).InStep pairing post (.call right rest) link :=
  ⟨right, rest, rfl, asked, later⟩

/-- A weaker postcondition. -/
theorem InStep.mono {post weaker : Value → Other → Link → Prop}
    {left : Program S Crash Value} {right : Program S Crash Other}
    {link : Link} (inStep : left.InStep pairing post right link)
    (weaken : ∀ value other link, post value other link →
      weaker value other link) :
    left.InStep pairing weaker right link := by
  induction left generalizing right link with
  | done value =>
      obtain ⟨other, same, ended⟩ := inStep
      exact ⟨other, same, weaken _ _ _ ended⟩
  | crash reason => exact inStep
  | call request next inductionHypothesis =>
      obtain ⟨other, rest, same, asked, later⟩ := inStep
      exact ⟨other, rest, same, asked,
        fun reply answer after linked =>
          inductionHypothesis reply (later reply answer after linked)⟩

/-- Sequences are in step when their parts are. -/
theorem InStep.bind {post : Next → Last → Link → Prop}
    {left : Program S Crash Value} {right : Program S Crash Other}
    {next : Value → Program S Crash Next}
    {rest : Other → Program S Crash Last} {link : Link}
    (inStep :
      left.InStep pairing
        (fun value other after =>
          (next value).InStep pairing post (rest other) after)
        right link) :
    (left >>= next).InStep pairing post (right >>= rest) link := by
  induction left generalizing right link with
  | done value =>
      obtain ⟨other, same, ended⟩ := inStep
      subst same
      exact ended
  | crash reason =>
      have same : right = .crash reason := inStep
      subst same
      exact inStep_crash
  | call request tail inductionHypothesis =>
      obtain ⟨other, after, same, asked, later⟩ := inStep
      subst same
      exact inStep_call asked fun reply answer link linked =>
        inductionHypothesis reply (later reply answer link linked)

theorem InStep.map {post : Next → Last → Link → Prop}
    {left : Program S Crash Value} {right : Program S Crash Other}
    {change : Value → Next} {alter : Other → Last} {link : Link}
    (inStep :
      left.InStep pairing
        (fun value other after => post (change value) (alter other) after)
        right link) :
    (change <$> left).InStep pairing post (alter <$> right) link := by
  rw [map_eq_pure_bind, map_eq_pure_bind]
  apply InStep.bind
  exact inStep.mono fun value other link ended => inStep_done ended

end Program

end Interaction
