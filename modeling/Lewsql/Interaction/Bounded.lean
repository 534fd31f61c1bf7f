import Lewsql.Interaction.Concurrent

/-!
# Programs with a bounded number of requests

Such a program ends after at most so many requests, whatever the replies are, and
only in certain ways.  So do the jobs of parties in every run, whatever the others
do: no party waits for another one.
-/

namespace Interaction

namespace Program

variable {S : Signature} {Crash Value Next : Type}

/-- Whatever the replies are, the program ends as `post` says after at most so many
requests. -/
def EndsWithin (post : Outcome Crash Value → Prop) :
    Nat → Program S Crash Value → Prop
  | _, .done value => post (.done value)
  | _, .crash reason => post (.crashed reason)
  | 0, .call _ _ => False
  | limit + 1, .call _ next => ∀ reply, EndsWithin post limit (next reply)

variable {post weaker : Outcome Crash Value → Prop} {limit more : Nat}
variable {program : Program S Crash Value}

@[simp]
theorem endsWithin_done {value : Value} :
    (Program.done value : Program S Crash Value).EndsWithin post limit ↔
      post (.done value) := by
  cases limit with
  | zero => exact Iff.rfl
  | succ limit => exact Iff.rfl

@[simp]
theorem endsWithin_crash {reason : Crash} :
    (Program.crash reason : Program S Crash Value).EndsWithin post limit ↔
      post (.crashed reason) := by
  cases limit with
  | zero => exact Iff.rfl
  | succ limit => exact Iff.rfl

/-- More requests, and other ways to end. -/
theorem EndsWithin.mono (within : program.EndsWithin post limit)
    (le : limit ≤ more)
    (weaken : ∀ outcome, post outcome → weaker outcome) :
    program.EndsWithin weaker more := by
  induction program generalizing limit more with
  | done value =>
      rw [endsWithin_done] at within ⊢
      exact weaken _ within
  | crash reason =>
      rw [endsWithin_crash] at within ⊢
      exact weaken _ within
  | call request next inductionHypothesis =>
      cases limit with
      | zero => exact within.elim
      | succ limit =>
          cases more with
          | zero => omega
          | succ more =>
              exact fun reply =>
                inductionHypothesis reply (within reply)
                  (Nat.le_of_succ_le_succ le)

theorem EndsWithin.bind {next : Value → Program S Crash Next}
    {final : Outcome Crash Next → Prop}
    (within :
      program.EndsWithin
        (fun outcome =>
          match outcome with
          | .done value => (next value).EndsWithin final more
          | .crashed reason => final (.crashed reason))
        limit) :
    (program >>= next).EndsWithin final (limit + more) := by
  induction program generalizing limit with
  | done value =>
      rw [endsWithin_done] at within
      exact within.mono (Nat.le_add_left _ _) fun _ same => same
  | crash reason =>
      rw [endsWithin_crash] at within
      exact endsWithin_crash.mpr within
  | call request rest inductionHypothesis =>
      cases limit with
      | zero => exact within.elim
      | succ limit =>
          rw [Nat.add_right_comm]
          exact fun reply => inductionHypothesis reply (within reply)

theorem EndsWithin.map {wrap : Value → Next}
    {final : Outcome Crash Next → Prop}
    (within :
      program.EndsWithin
        (fun outcome =>
          match outcome with
          | .done value => final (.done (wrap value))
          | .crashed reason => final (.crashed reason))
        limit) :
    (wrap <$> program).EndsWithin final limit := by
  have mapped :
      (program >>= fun value => pure (wrap value)).EndsWithin final
        (limit + 0) := by
    apply EndsWithin.bind
    refine within.mono (Nat.le_refl _) ?_
    intro outcome ended
    cases outcome with
    | done value => exact endsWithin_done.mpr ended
    | crashed reason => exact ended
  rw [map_eq_pure_bind]
  exact mapped

/-- Some replies lead the program to this end, after so many requests. -/
inductive Ends :
    Program S Crash Value → Nat → Outcome Crash Value → Prop
  | done {value : Value} : Ends (.done value) 0 (.done value)
  | crash {reason : Crash} : Ends (.crash reason) 0 (.crashed reason)
  | call {request : S.Request}
      {next : S.Reply request → Program S Crash Value} {count : Nat}
      {outcome : Outcome Crash Value} (reply : S.Reply request) :
      Ends (next reply) count outcome →
      Ends (.call request next) (count + 1) outcome

/-- The end of a run on a handler that counts the requests. -/
theorem ends_of_run {State : Type} {handler : Handler S State}
    {requests : State → Nat}
    (counts : ∀ request state,
      requests (handler request state).2 = requests state + 1)
    {state after : State} {outcome : Outcome Crash Value}
    (finished : program.run handler state = (outcome, after)) :
    ∃ count, requests after = requests state + count ∧
      program.Ends count outcome := by
  induction program generalizing state with
  | done value =>
      rw [run_done] at finished
      cases finished
      exact ⟨0, rfl, .done⟩
  | crash reason =>
      rw [run_crash] at finished
      cases finished
      exact ⟨0, rfl, .crash⟩
  | call request next inductionHypothesis =>
      rw [run_call] at finished
      obtain ⟨count, counted, ends⟩ :=
        inductionHypothesis _ finished
      refine ⟨count + 1, ?_, .call _ ends⟩
      rw [counted, counts]
      omega

end Program

section Runs

variable {S : Signature} {Crash Who Task Own Value State : Type}

def Occurrence.Within (limit : Who → Job Task Own → Nat)
    (post : Who → Job Task Own → Outcome Crash (Value × Own) → Prop) :
    Occurrence S Crash Who Task Own Value State → Prop
  | .begins _ _ => True
  | .calls who job earlier _ => earlier.length < limit who job
  | .ends who job moves outcome =>
      moves.length ≤ limit who job ∧ post who job outcome

variable [DecidableEq Who]
variable {parties : Parties S Crash Who Task Own Value State}
variable {limit : Who → Job Task Own → Nat}
variable {post : Who → Job Task Own → Outcome Crash (Value × Own) → Prop}
variable {before after : Scene S Crash Who Task Own Value State}
variable {event : Occurrence S Crash Who Task Own Value State}

/-- What is left of every job ends within what is left of its limit. -/
def Limited (limit : Who → Job Task Own → Nat)
    (post : Who → Job Task Own → Outcome Crash (Value × Own) → Prop)
    (scene : Scene S Crash Who Task Own Value State) : Prop :=
  ∀ who job moves rest, scene.activity who = .busy job moves rest →
    ∃ left, rest.EndsWithin (post who job) left ∧
      moves.length + left ≤ limit who job

theorem Limited.put_idle
    (limited : Limited limit post before) {who : Who}
    {activity : Activity S Crash Task Own Value State}
    (notBusy : ∀ job moves rest, activity ≠ .busy job moves rest) :
    Limited limit post (before.put who activity) := by
  intro other job moves rest working
  by_cases same : other = who
  · subst same
    rw [Scene.put_self] at working
    exact absurd working (notBusy job moves rest)
  · rw [Scene.put_other _ _ _ same] at working
    exact limited other job moves rest working

/-- A job that goes on. -/
theorem Limited.put_busy (limited : Limited limit post before)
    {state : State} {who : Who} {job : Job Task Own}
    {moves : List (Move S State)} {rest : Program S Crash (Value × Own)}
    {left : Nat} (within : rest.EndsWithin (post who job) left)
    (enough : moves.length + left ≤ limit who job) :
    Limited limit post
      (Scene.put ⟨state, before.activity⟩ who (.busy job moves rest)) := by
  intro other job' moves' rest' working
  by_cases same : other = who
  · subst same
    rw [Scene.put_self] at working
    cases working
    exact ⟨left, within, enough⟩
  · rw [Scene.put_other _ _ _ same] at working
    exact limited other job' moves' rest' working

theorem Limited.step
    (bounded : ∀ who job,
      (parties.body who job).EndsWithin (post who job) (limit who job))
    (limited : Limited limit post before)
    (stepped : parties.Step before event after) :
    event.Within limit post ∧ Limited limit post after := by
  cases stepped with
  | @begins who job ready =>
      refine ⟨True.intro, limited.put_busy (bounded who job) ?_⟩
      exact Nat.le_of_eq (Nat.zero_add _)
  | @calls who job earlier request next reply last asked moved =>
      obtain ⟨left, within, enough⟩ := limited _ _ _ _ asked
      cases left with
      | zero => exact within.elim
      | succ left =>
          refine ⟨?_, limited.put_busy (within reply) ?_⟩
          · change earlier.length < limit who job
            omega
          · rw [List.length_append, List.length_singleton]
            omega
  | @returns who job moves value own finished =>
      obtain ⟨left, within, enough⟩ := limited _ _ _ _ finished
      exact ⟨⟨by omega, Program.endsWithin_done.mp within⟩,
        limited.put_idle fun _ _ _ same => nomatch same⟩
  | @crashes who job moves reason failed =>
      obtain ⟨left, within, enough⟩ := limited _ _ _ _ failed
      exact ⟨⟨by omega, Program.endsWithin_crash.mp within⟩,
        limited.put_idle fun _ _ _ same => nomatch same⟩

/-- In every run, whatever the shared state answers and the others do, every job
ends within its limit if it goes on. -/
theorem Parties.within_of_run {starts : State → Prop}
    (bounded : ∀ who job,
      (parties.body who job).EndsWithin (post who job) (limit who job))
    {events : List (Occurrence S Crash Who Task Own Value State)}
    {scene : Scene S Crash Who Task Own Value State}
    (run : (parties.machine starts).Run events scene) :
    (∀ event ∈ events, event.Within limit post) ∧
      Limited limit post scene := by
  refine Machine.Run.invariant
    (fun events scene => (∀ event ∈ events, event.Within limit post) ∧
      Limited limit post scene) ?_ ?_ run
  · intro scene started
    refine ⟨fun _ impossible => absurd impossible List.not_mem_nil, ?_⟩
    intro who job moves rest working
    obtain ⟨own, resting⟩ := started.2 who
    rw [resting] at working
    cases working
  · intro events before event after _ known stepped
    obtain ⟨within, limited⟩ := known
    obtain ⟨now, still⟩ := limited.step bounded stepped
    refine ⟨?_, still⟩
    rw [List.forall_mem_append, List.forall_mem_singleton]
    exact ⟨within, now⟩

/-- Where every reply is possible, what is left of a job goes on to each of its
ends. -/
theorem Parties.run_of_busy {starts : State → Prop}
    (replies : ∀ before request reply,
      ∃ after, parties.env before request reply after)
    {who : Who} {job : Job Task Own}
    {rest : Program S Crash (Value × Own)} {count : Nat}
    {outcome : Outcome Crash (Value × Own)}
    (ends : rest.Ends count outcome)
    {events : List (Occurrence S Crash Who Task Own Value State)}
    {scene : Scene S Crash Who Task Own Value State}
    {moves : List (Move S State)}
    (run : (parties.machine starts).Run events scene)
    (working : scene.activity who = .busy job moves rest) :
    ∃ events last moves' tail,
      (parties.machine starts).Run events last ∧
        last.activity who = .busy job moves' tail ∧
        moves'.length = moves.length + count ∧ tail.Ends 0 outcome := by
  induction ends generalizing events scene moves with
  | done => exact ⟨events, scene, moves, _, run, working, rfl, .done⟩
  | crash => exact ⟨events, scene, moves, _, run, working, rfl, .crash⟩
  | @call request next count outcome reply ends inductionHypothesis =>
      obtain ⟨after, moved⟩ := replies scene.shared request reply
      have stepped := Parties.Step.calls working moved
      obtain ⟨events', last, moves', tail, ran, still, grown, ended⟩ :=
        inductionHypothesis (run.step stepped) (Scene.put_self _ _ _)
      refine ⟨events', last, moves', tail, ran, still, ?_, ended⟩
      rw [grown, List.length_append, List.length_singleton]
      omega

/-- Where every reply is possible, every end of a job is reached in a run. -/
theorem Parties.run_of_ends {starts : State → Prop} {state : State}
    (started : starts state)
    (replies : ∀ before request reply,
      ∃ after, parties.env before request reply after)
    {who : Who} {job : Job Task Own} {count : Nat}
    {outcome : Outcome Crash (Value × Own)}
    (ends : (parties.body who job).Ends count outcome) :
    ∃ events scene moves rest,
      (parties.machine starts).Run events scene ∧
        scene.activity who = .busy job moves rest ∧
        moves.length = count ∧ rest.Ends 0 outcome := by
  have begun :
      parties.Step ⟨state, fun _ => .idle job.own⟩ (.begins who job)
        (Scene.put ⟨state, fun _ => .idle job.own⟩ who
          (.busy job [] (parties.body who job))) :=
    .begins rfl
  have start :
      (parties.machine starts).Run [] ⟨state, fun _ => .idle job.own⟩ :=
    .start ⟨started, fun _ => ⟨job.own, rfl⟩⟩
  obtain ⟨events, scene, moves, rest, run, working, counted, ended⟩ :=
    Parties.run_of_busy replies ends (start.step begun)
      (Scene.put_self _ _ _)
  refine ⟨events, scene, moves, rest, run, working, ?_, ended⟩
  rw [counted, List.length_nil, Nat.zero_add]

theorem Parties.run_past_end {starts : State → Prop} {state : State}
    (started : starts state)
    (replies : ∀ before request reply,
      ∃ after, parties.env before request reply after)
    {who : Who} {job : Job Task Own} {count : Nat}
    {outcome : Outcome Crash (Value × Own)}
    (ends : (parties.body who job).Ends count outcome) :
    ∃ events scene moves,
      (parties.machine starts).Run events scene ∧
        Occurrence.ends who job moves outcome ∈ events := by
  obtain ⟨events, scene, moves, rest, run, working, _, ended⟩ :=
    Parties.run_of_ends started replies ends
  cases ended with
  | @done returned =>
      exact ⟨_, _, moves, run.step (.returns working), by simp⟩
  | crash => exact ⟨_, _, moves, run.step (.crashes working), by simp⟩

end Runs

end Interaction
