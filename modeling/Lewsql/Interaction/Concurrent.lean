import Lewsql.Interaction.Logic
import Lewsql.Interaction.Machine

/-!
# Parties that share a state

Each party works on one job after another.  A job is a program, and its requests
are served by a state that all parties share, so the requests of different
parties interleave in any order.  A run records when a job begins, every request
of it with the state around it, and how it ends.

To reason about one party, the others are replaced by a relation: `rely` says how
the shared state may change between two requests of a job, as a function of the
moves the job has made.
-/

namespace Interaction

/-- A task together with what its party knew when it began. -/
structure Job (Task Own : Type) where
  task : Task
  own : Own

/-- What the parties share and the programs of their jobs. -/
structure Parties (S : Signature) (Crash Who Task Own Value State : Type)
    where
  env : Transition S State
  body : Who → Job Task Own → Program S Crash (Value × Own)

inductive Activity (S : Signature) (Crash Task Own Value State : Type) where
  | idle (own : Own)
  | busy (job : Job Task Own) (moves : List (Move S State))
      (rest : Program S Crash (Value × Own))
  | stopped

structure Scene (S : Signature) (Crash Who Task Own Value State : Type)
    where
  shared : State
  activity : Who → Activity S Crash Task Own Value State

/-- What one step of one party was. -/
inductive Occurrence (S : Signature)
    (Crash Who Task Own Value State : Type) where
  | begins (who : Who) (job : Job Task Own)
  | calls (who : Who) (job : Job Task Own)
      (earlier : List (Move S State)) (move : Move S State)
  | ends (who : Who) (job : Job Task Own) (moves : List (Move S State))
      (outcome : Outcome Crash (Value × Own))

def Occurrence.who {S : Signature}
    {Crash Who Task Own Value State : Type} :
    Occurrence S Crash Who Task Own Value State → Who
  | .begins who _ => who
  | .calls who _ _ _ => who
  | .ends who _ _ _ => who

def Occurrence.job {S : Signature}
    {Crash Who Task Own Value State : Type} :
    Occurrence S Crash Who Task Own Value State → Job Task Own
  | .begins _ job => job
  | .calls _ job _ _ => job
  | .ends _ job _ _ => job

section

variable {S : Signature} {Crash Who Task Own Value State : Type}
variable [DecidableEq Who]

def Scene.put (scene : Scene S Crash Who Task Own Value State) (who : Who)
    (activity : Activity S Crash Task Own Value State) :
    Scene S Crash Who Task Own Value State :=
  { scene with activity := Function.update scene.activity who activity }

section Put

variable (scene : Scene S Crash Who Task Own Value State)
variable (who : Who) (activity : Activity S Crash Task Own Value State)

@[simp]
theorem Scene.put_self : (scene.put who activity).activity who = activity :=
  Function.update_self _ _ _

theorem Scene.put_other {other : Who} (different : other ≠ who) :
    (scene.put who activity).activity other = scene.activity other :=
  Function.update_of_ne different _ _

end Put

namespace Parties

variable (parties : Parties S Crash Who Task Own Value State)

inductive Step : Scene S Crash Who Task Own Value State →
    Occurrence S Crash Who Task Own Value State →
      Scene S Crash Who Task Own Value State → Prop
  | begins {scene : Scene S Crash Who Task Own Value State} {who : Who}
      {job : Job Task Own} :
      scene.activity who = .idle job.own →
      Step scene (.begins who job)
        (scene.put who (.busy job [] (parties.body who job)))
  | calls {scene : Scene S Crash Who Task Own Value State} {who : Who}
      {job : Job Task Own} {earlier : List (Move S State)}
      {request : S.Request}
      {next : S.Reply request → Program S Crash (Value × Own)}
      {reply : S.Reply request} {after : State} :
      scene.activity who = .busy job earlier (.call request next) →
      parties.env scene.shared request reply after →
      Step scene (.calls who job earlier ⟨scene.shared, request, reply, after⟩)
        (Scene.put ⟨after, scene.activity⟩ who
          (.busy job
            (earlier ++ [⟨scene.shared, request, reply, after⟩])
            (next reply)))
  | returns {scene : Scene S Crash Who Task Own Value State} {who : Who}
      {job : Job Task Own} {moves : List (Move S State)}
      {value : Value} {own : Own} :
      scene.activity who = .busy job moves (.done (value, own)) →
      Step scene (.ends who job moves (.done (value, own)))
        (scene.put who (.idle own))
  | crashes {scene : Scene S Crash Who Task Own Value State} {who : Who}
      {job : Job Task Own} {moves : List (Move S State)}
      {reason : Crash} :
      scene.activity who = .busy job moves (.crash reason) →
      Step scene (.ends who job moves (.crashed reason))
        (scene.put who .stopped)

/-- The parties from a state in which none of them has begun a job. -/
def machine (starts : State → Prop) :
    Machine (Scene S Crash Who Task Own Value State)
      (Occurrence S Crash Who Task Own Value State) where
  start scene :=
    starts scene.shared ∧ ∀ who, ∃ own, scene.activity who = .idle own
  step := parties.Step

def machineWhile (starts : State → Prop)
    (fine : Occurrence S Crash Who Task Own Value State → Prop) :
    Machine (Scene S Crash Who Task Own Value State)
      (Occurrence S Crash Who Task Own Value State) :=
  (parties.machine starts).whenever fun _ event => fine event

theorem Step.activity_other {parties : Parties S Crash Who Task Own Value State}
    {before after : Scene S Crash Who Task Own Value State}
    {event : Occurrence S Crash Who Task Own Value State}
    (stepped : parties.Step before event after) {other : Who}
    (different : other ≠ event.who) :
    after.activity other = before.activity other := by
  cases stepped with
  | begins ready => exact Scene.put_other _ _ _ different
  | calls asked moved => exact Scene.put_other _ _ _ different
  | returns done => exact Scene.put_other _ _ _ different
  | crashes failed => exact Scene.put_other _ _ _ different

/-! ## One party among the others -/

end Parties

/-- What a party may rely on between its moves, what it promises of each move,
and what holds where a job of it ends. -/
structure Contract (S : Signature) (Crash Task Own Value State : Type) where
  rely : Job Task Own → List (Move S State) → State → State → Prop
  guarantee : Job Task Own → Transition S (State × List (Move S State))
  post : Job Task Own → Outcome Crash (Value × Own) →
    State × List (Move S State) → Prop

namespace Parties

variable (parties : Parties S Crash Who Task Own Value State)

/-- The surroundings of a job: before each request the others may act, and the
request is one that is fine. -/
def around (fine : Occurrence S Crash Who Task Own Value State → Prop)
    (rely : Job Task Own → List (Move S State) → State → State → Prop)
    (who : Who) (job : Job Task Own) :
    Transition S (State × List (Move S State)) :=
  fun before request reply after =>
    ∃ middle, rely job before.2 before.1 middle ∧
      parties.env middle request reply after.1 ∧
      fine (.calls who job before.2
        ⟨middle, request, reply, after.1⟩) ∧
      after.2 = before.2 ++ [⟨middle, request, reply, after.1⟩]

/-- A program keeps the contract from a state and the moves so far on. -/
def Keeps (fine : Occurrence S Crash Who Task Own Value State → Prop)
    (contract : Contract S Crash Task Own Value State) (who : Who)
    (job : Job Task Own) (rest : Program S Crash (Value × Own))
    (state : State × List (Move S State)) : Prop :=
  rest.wp (parties.around fine contract.rely who job)
    (contract.guarantee job) (contract.post job) state

/-- What is left of the job of a party keeps the contract. -/
def Ongoing (fine : Occurrence S Crash Who Task Own Value State → Prop)
    (contract : Contract S Crash Task Own Value State) (who : Who)
    (scene : Scene S Crash Who Task Own Value State) : Prop :=
  ∀ job moves rest, scene.activity who = .busy job moves rest →
    ∃ seen, contract.rely job moves seen scene.shared ∧
      parties.Keeps fine contract who job rest (seen, moves)

variable {parties}
variable {fine : Occurrence S Crash Who Task Own Value State → Prop}
variable {contract : Contract S Crash Task Own Value State} {who : Who}
variable {before after : Scene S Crash Who Task Own Value State}

omit [DecidableEq Who] in
theorem Keeps.call {job : Job Task Own} {earlier : List (Move S State)}
    {seen middle last : State} {request : S.Request}
    {next : S.Reply request → Program S Crash (Value × Own)}
    {reply : S.Reply request}
    (kept :
      parties.Keeps fine contract who job (.call request next)
        (seen, earlier))
    (relied : contract.rely job earlier seen middle)
    (moved : parties.env middle request reply last)
    (allowed : fine (.calls who job earlier
      ⟨middle, request, reply, last⟩)) :
    contract.guarantee job (seen, earlier) request reply
        (last, earlier ++ [⟨middle, request, reply, last⟩]) ∧
      parties.Keeps fine contract who job (next reply)
        (last, earlier ++ [⟨middle, request, reply, last⟩]) :=
  kept reply (last, earlier ++ [⟨middle, request, reply, last⟩])
    ⟨middle, relied, moved, allowed, rfl⟩

/-- Every request of a party is made in a state it may rely on, and satisfies
its promise. -/
theorem Ongoing.calls (ongoing : parties.Ongoing fine contract who before)
    {job : Job Task Own} {earlier : List (Move S State)}
    {move : Move S State} (allowed : fine (.calls who job earlier move))
    (stepped : parties.Step before (.calls who job earlier move) after) :
    ∃ seen, contract.rely job earlier seen move.before ∧
      contract.guarantee job (seen, earlier) move.request move.reply
        (move.after, earlier ++ [move]) := by
  cases stepped with
  | calls asked moved =>
      obtain ⟨seen, relied, kept⟩ := ongoing _ _ _ asked
      exact ⟨seen, relied, (kept.call relied moved allowed).1⟩

/-- Where a job ends, its postcondition holds. -/
theorem Ongoing.ends (ongoing : parties.Ongoing fine contract who before)
    {job : Job Task Own} {moves : List (Move S State)}
    {outcome : Outcome Crash (Value × Own)}
    (stepped : parties.Step before (.ends who job moves outcome) after) :
    ∃ seen, contract.rely job moves seen before.shared ∧
      contract.post job outcome (seen, moves) := by
  cases stepped with
  | returns finished => exact ongoing _ _ _ finished
  | crashes failed => exact ongoing _ _ _ failed

/-- One step of any party, when the other parties keep to what this one relies
on. -/
theorem Ongoing.step
    (unmoved : ∀ job moves,
      contract.rely job moves after.shared after.shared)
    (begun : ∀ job, fine (.begins who job) →
      parties.Keeps fine contract who job (parties.body who job)
        (after.shared, []))
    (ongoing : parties.Ongoing fine contract who before)
    {event : Occurrence S Crash Who Task Own Value State}
    (allowed : fine event) (stepped : parties.Step before event after)
    (stable : event.who ≠ who → ∀ job moves rest,
      before.activity who = .busy job moves rest →
        ∀ seen, contract.rely job moves seen before.shared →
          contract.rely job moves seen after.shared) :
    parties.Ongoing fine contract who after := by
  by_cases own : event.who = who
  · intro job moves rest working
    subst own
    cases stepped with
    | begins ready =>
        have same := (Scene.put_self _ _ _).symm.trans working
        cases same
        exact ⟨_, unmoved _ _, begun _ allowed⟩
    | calls asked moved =>
        have same := (Scene.put_self _ _ _).symm.trans working
        cases same
        obtain ⟨seen, relied, kept⟩ := ongoing _ _ _ asked
        exact ⟨_, unmoved _ _, (kept.call relied moved allowed).2⟩
    | returns finished =>
        have same := (Scene.put_self _ _ _).symm.trans working
        cases same
    | crashes failed =>
        have same := (Scene.put_self _ _ _).symm.trans working
        cases same
  · intro job moves rest working
    rw [stepped.activity_other (Ne.symm own)] at working
    obtain ⟨seen, relied, kept⟩ := ongoing _ _ _ working
    exact ⟨seen, stable own _ _ _ working _ relied, kept⟩

/-- In every run what is left of the jobs of a party keeps its contract. -/
theorem ongoing_of_run {starts : State → Prop}
    (unmoved : ∀ job moves state, contract.rely job moves state state)
    (begun : ∀ job state, fine (.begins who job) →
      parties.Keeps fine contract who job (parties.body who job)
        (state, []))
    (stable : ∀ events before event after,
      (parties.machineWhile starts fine).Run events before →
        fine event → parties.Step before event after → event.who ≠ who →
          ∀ job moves rest, before.activity who = .busy job moves rest →
            ∀ seen, contract.rely job moves seen before.shared →
              contract.rely job moves seen after.shared)
    {events : List (Occurrence S Crash Who Task Own Value State)}
    {scene : Scene S Crash Who Task Own Value State}
    (run : (parties.machineWhile starts fine).Run events scene) :
    parties.Ongoing fine contract who scene := by
  refine Machine.Run.invariant
    (fun _ scene => parties.Ongoing fine contract who scene) ?_ ?_ run
  · intro scene started job moves rest working
    obtain ⟨own, resting⟩ := started.2 who
    rw [resting] at working
    cases working
  · intro events before event after earlier ongoing stepped
    exact ongoing.step (fun _ _ => unmoved _ _ _) (fun _ => begun _ _)
      stepped.1 stepped.2
      (stable _ _ _ _ earlier stepped.1 stepped.2)

/-! ## Playing a schedule -/

variable (parties)

/-- The next step of a party; an idle one begins a job with the given task. -/
def advance (handler : Handler S State) (who : Who) (task : Option Task)
    (scene : Scene S Crash Who Task Own Value State) :
    Option (Occurrence S Crash Who Task Own Value State ×
      Scene S Crash Who Task Own Value State) :=
  match scene.activity who, task with
  | .idle own, some task =>
      some (.begins who ⟨task, own⟩,
        scene.put who (.busy ⟨task, own⟩ [] (parties.body who ⟨task, own⟩)))
  | .busy job earlier (.call request next), none =>
      let (reply, after) := handler request scene.shared
      let move : Move S State := ⟨scene.shared, request, reply, after⟩
      some (.calls who job earlier move,
        Scene.put ⟨after, scene.activity⟩ who
          (.busy job (earlier ++ [move]) (next reply)))
  | .busy job moves (.done (value, own)), none =>
      some (.ends who job moves (.done (value, own)),
        scene.put who (.idle own))
  | .busy job moves (.crash reason), none =>
      some (.ends who job moves (.crashed reason),
        scene.put who .stopped)
  | _, _ => none

/-- The steps of a schedule, up to the first one that cannot be made. -/
def play (handler : Handler S State) :
    List (Who × Option Task) → Scene S Crash Who Task Own Value State →
      List (Occurrence S Crash Who Task Own Value State) ×
        Scene S Crash Who Task Own Value State
  | [], scene => ([], scene)
  | (who, task) :: rest, scene =>
      match parties.advance handler who task scene with
      | some (event, after) =>
          (event :: (play handler rest after).1, (play handler rest after).2)
      | none => ([], scene)

variable {parties} {handler : Handler S State}

theorem step_of_advance
    (served : ∀ request state,
      parties.env state request (handler request state).1
        (handler request state).2)
    {task : Option Task}
    {event : Occurrence S Crash Who Task Own Value State}
    (advanced :
      parties.advance handler who task before = some (event, after)) :
    parties.Step before event after := by
  simp only [advance] at advanced
  split at advanced
  · rename_i own task resting
    cases advanced
    exact .begins resting
  · rename_i job earlier request next asked
    cases advanced
    exact .calls asked (served request before.shared)
  · rename_i job moves value own finished
    cases advanced
    exact .returns finished
  · rename_i job moves reason failed
    cases advanced
    exact .crashes failed
  · cases advanced

/-- A schedule whose steps are fine continues a run. -/
theorem run_append_play {starts : State → Prop}
    (served : ∀ request state,
      parties.env state request (handler request state).1
        (handler request state).2)
    (schedule : List (Who × Option Task))
    {earlier : List (Occurrence S Crash Who Task Own Value State)}
    {scene : Scene S Crash Who Task Own Value State}
    (allowed : ∀ event ∈ (parties.play handler schedule scene).1,
      fine event)
    (run : (parties.machineWhile starts fine).Run earlier scene) :
    (parties.machineWhile starts fine).Run
      (earlier ++ (parties.play handler schedule scene).1)
      (parties.play handler schedule scene).2 := by
  induction schedule generalizing earlier scene with
  | nil =>
      rw [play, List.append_nil]
      exact run
  | cons choice rest inductionHypothesis =>
      obtain ⟨who, task⟩ := choice
      rw [play] at allowed ⊢
      cases advanced : parties.advance handler who task scene with
      | none =>
          rw [List.append_nil]
          exact run
      | some step =>
          obtain ⟨event, after⟩ := step
          rw [advanced] at allowed
          have stepped := step_of_advance served advanced
          have longer :=
            run.step ⟨allowed event List.mem_cons_self, stepped⟩
          have whole :=
            inductionHypothesis
              (fun later member =>
                allowed later (List.mem_cons_of_mem _ member))
              longer
          rw [List.append_assoc, List.singleton_append] at whole
          exact whole

end Parties

end

end Interaction
