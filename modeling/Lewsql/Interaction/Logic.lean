import Lewsql.Interaction.Program

/-!
# Weakest preconditions for interacting programs

The surroundings of a program are a relation: from a state, a request may be
answered by any reply and leave any state that the relation allows.  `Execution`
is one course of a program in such surroundings, with the moves it made.  `wp`
asks, of every course, that each move satisfies a guarantee and that the end
satisfies a postcondition.
-/

namespace Interaction

def Transition (S : Signature) (State : Type) : Type :=
  State → (request : S.Request) → S.Reply request → State → Prop

/-- One request that was answered, with the states around it. -/
structure Move (S : Signature) (State : Type) where
  before : State
  request : S.Request
  reply : S.Reply request
  after : State

def Move.Obeys {S : Signature} {State : Type}
    (move : Move S State) (relation : Transition S State) : Prop :=
  relation move.before move.request move.reply move.after

def Handler.transition {S : Signature} {State : Type}
    (handler : Handler S State) : Transition S State :=
  fun before request reply after =>
    handler request before = (reply, after)

def Transition.any {S : Signature} {State : Type} :
    Transition S State :=
  fun _ _ _ _ => True

/-- One course of a program in the surroundings `env`. -/
inductive Execution {S : Signature} {Crash Value State : Type}
    (env : Transition S State) :
    Program S Crash Value → State → List (Move S State) →
      Outcome Crash Value → State → Prop
  | done (value : Value) (state : State) :
      Execution env (.done value) state [] (.done value) state
  | crash (reason : Crash) (state : State) :
      Execution env (.crash reason) state [] (.crashed reason) state
  | call {request : S.Request}
      {next : S.Reply request → Program S Crash Value}
      {before after last : State} {reply : S.Reply request}
      {moves : List (Move S State)} {outcome : Outcome Crash Value} :
      env before request reply after →
      Execution env (next reply) after moves outcome last →
      Execution env (.call request next) before
        (⟨before, request, reply, after⟩ :: moves) outcome last

namespace Program

variable {S : Signature} {Crash Value Next State : Type}

/-- Every course of the program in `env` makes only moves that satisfy
`guarantee`, and ends in `post`. -/
def wp (env guarantee : Transition S State)
    (post : Outcome Crash Value → State → Prop) :
    Program S Crash Value → State → Prop
  | .done value, state => post (.done value) state
  | .crash reason, state => post (.crashed reason) state
  | .call request next, state =>
      ∀ reply after, env state request reply after →
        guarantee state request reply after ∧
          (next reply).wp env guarantee post after

variable {env guarantee : Transition S State}
variable {post : Outcome Crash Value → State → Prop}

@[simp]
theorem wp_done (value : Value) (state : State) :
    (Program.done value : Program S Crash Value).wp env guarantee post
        state ↔
      post (.done value) state :=
  Iff.rfl

@[simp]
theorem wp_crash (reason : Crash) (state : State) :
    (Program.crash reason : Program S Crash Value).wp env guarantee post
        state ↔
      post (.crashed reason) state :=
  Iff.rfl

theorem wp_call (request : S.Request)
    (next : S.Reply request → Program S Crash Value) (state : State) :
    (Program.call request next).wp env guarantee post state ↔
      ∀ reply after, env state request reply after →
        guarantee state request reply after ∧
          (next reply).wp env guarantee post after :=
  Iff.rfl

/-- Sequencing: the first part must end where the rest is safe. -/
theorem wp_bind (program : Program S Crash Value)
    (next : Value → Program S Crash Next)
    (post : Outcome Crash Next → State → Prop) (state : State) :
    (program >>= next).wp env guarantee post state ↔
      program.wp env guarantee
        (fun outcome after =>
          match outcome with
          | .done value => (next value).wp env guarantee post after
          | .crashed reason => post (.crashed reason) after)
        state := by
  induction program generalizing state with
  | done value => rfl
  | crash reason => rfl
  | call request rest inductionHypothesis =>
      simp only [call_bind, wp_call, inductionHypothesis]

theorem wp_map (program : Program S Crash Value) (map : Value → Next)
    (post : Outcome Crash Next → State → Prop) (state : State) :
    (map <$> program).wp env guarantee post state ↔
      program.wp env guarantee
        (fun outcome after =>
          match outcome with
          | .done value => post (.done (map value)) after
          | .crashed reason => post (.crashed reason) after)
        state := by
  rw [map_eq_pure_bind, wp_bind]
  rfl

/-- A weaker guarantee and postcondition, in surroundings that do less. -/
theorem wp_mono {env' guarantee' : Transition S State}
    {post' : Outcome Crash Value → State → Prop}
    {program : Program S Crash Value} {state : State}
    (fewer : ∀ before request reply after,
      env' before request reply after → env before request reply after)
    (weaker : ∀ before request reply after,
      env' before request reply after →
        guarantee before request reply after →
          guarantee' before request reply after)
    (weakerPost : ∀ outcome after,
      post outcome after → post' outcome after)
    (safe : program.wp env guarantee post state) :
    program.wp env' guarantee' post' state := by
  induction program generalizing state with
  | done value => exact weakerPost _ _ safe
  | crash reason => exact weakerPost _ _ safe
  | call request rest inductionHypothesis =>
      intro reply after moved
      have allowed := safe reply after (fewer _ _ _ _ moved)
      exact ⟨weaker _ _ _ _ moved allowed.1,
        inductionHypothesis reply allowed.2⟩

/-- The consequence rule for the postcondition alone. -/
theorem wp_consequence {post' : Outcome Crash Value → State → Prop}
    {program : Program S Crash Value} {state : State}
    (safe : program.wp env guarantee post state)
    (weakerPost : ∀ outcome after,
      post outcome after → post' outcome after) :
    program.wp env guarantee post' state :=
  wp_mono (fun _ _ _ _ moved => moved) (fun _ _ _ _ _ kept => kept)
    weakerPost safe

/-- Nothing is asked. -/
theorem wp_trivial (program : Program S Crash Value) (state : State) :
    program.wp env Transition.any (fun _ _ => True) state := by
  induction program generalizing state with
  | done value => exact True.intro
  | crash reason => exact True.intro
  | call request rest inductionHypothesis =>
      exact fun reply after _ =>
        ⟨True.intro, inductionHypothesis reply after⟩

/-- Soundness of `wp` for every course. -/
theorem wp_sound {program : Program S Crash Value}
    {state last : State} {moves : List (Move S State)}
    {outcome : Outcome Crash Value}
    (course : Execution env program state moves outcome last)
    (safe : program.wp env guarantee post state) :
    (∀ move ∈ moves, move.Obeys guarantee) ∧ post outcome last := by
  induction course with
  | done value state => exact ⟨by simp, safe⟩
  | crash reason state => exact ⟨by simp, safe⟩
  | @call request next before after last reply moves outcome moved rest
      inductionHypothesis =>
      have allowed := safe reply after moved
      obtain ⟨later, ended⟩ := inductionHypothesis allowed.2
      refine ⟨?_, ended⟩
      intro move member
      rcases List.mem_cons.mp member with first | inRest
      · subst first
        exact allowed.1
      · exact later move inRest

/-- Where every request is answered, every program has a course. -/
theorem exists_execution
    (answered : ∀ before request, ∃ reply after,
      env before request reply after)
    (program : Program S Crash Value) (state : State) :
    ∃ moves outcome last,
      Execution env program state moves outcome last := by
  induction program generalizing state with
  | done value => exact ⟨[], _, state, .done value state⟩
  | crash reason => exact ⟨[], _, state, .crash reason state⟩
  | call request rest inductionHypothesis =>
      obtain ⟨reply, after, moved⟩ := answered state request
      obtain ⟨moves, outcome, last, course⟩ :=
        inductionHypothesis reply after
      exact ⟨_, outcome, last, .call moved course⟩

/-- Where every request is answered, `wp` says no more than its courses. -/
theorem wp_complete
    (answered : ∀ before request, ∃ reply after,
      env before request reply after)
    {program : Program S Crash Value} {state : State}
    (every : ∀ moves outcome last,
      Execution env program state moves outcome last →
        (∀ move ∈ moves, move.Obeys guarantee) ∧ post outcome last) :
    program.wp env guarantee post state := by
  induction program generalizing state with
  | done value => exact (every _ _ _ (.done value state)).2
  | crash reason => exact (every _ _ _ (.crash reason state)).2
  | call request rest inductionHypothesis =>
      intro reply after moved
      constructor
      · obtain ⟨moves, outcome, last, course⟩ :=
          exists_execution answered (rest reply) after
        exact (every _ _ _ (.call moved course)).1 _ List.mem_cons_self
      · apply inductionHypothesis reply
        intro moves outcome last course
        obtain ⟨obeyed, ended⟩ := every _ _ _ (.call moved course)
        exact ⟨fun move member =>
          obeyed move (List.mem_cons_of_mem _ member), ended⟩

def moves (handler : Handler S State) :
    Program S Crash Value → State → List (Move S State)
  | .done _, _ => []
  | .crash _, _ => []
  | .call request next, state =>
      ⟨state, request, (handler request state).1,
          (handler request state).2⟩ ::
        (next (handler request state).1).moves handler
          (handler request state).2

/-- A deterministic run is a course of the handler's transitions. -/
theorem execution_moves (handler : Handler S State)
    (program : Program S Crash Value) (state : State) :
    Execution handler.transition program state
      (program.moves handler state) (program.run handler state).1
      (program.run handler state).2 := by
  induction program generalizing state with
  | done value => exact .done value state
  | crash reason => exact .crash reason state
  | call request rest inductionHypothesis =>
      have moved :
          handler.transition state request (handler request state).1
            (handler request state).2 := rfl
      exact .call moved (inductionHypothesis _ _)

theorem run_execution (handler : Handler S State)
    (program : Program S Crash Value) (state : State) :
    ∃ moves, Execution handler.transition program state moves
      (program.run handler state).1 (program.run handler state).2 :=
  ⟨_, execution_moves handler program state⟩

/-- Against a deterministic handler `wp` speaks about the run. -/
theorem wp_run {handler : Handler S State}
    {program : Program S Crash Value} {state : State}
    (safe : program.wp handler.transition guarantee post state) :
    post (program.run handler state).1 (program.run handler state).2 := by
  obtain ⟨moves, course⟩ := run_execution handler program state
  exact (wp_sound course safe).2

/-- A deterministic handler leaves one course to look at. -/
theorem wp_handler {handler : Handler S State}
    {program : Program S Crash Value} {state : State} :
    program.wp handler.transition Transition.any post state ↔
      post (program.run handler state).1 (program.run handler state).2 := by
  constructor
  · exact wp_run
  · induction program generalizing state with
    | done value => exact id
    | crash reason => exact id
    | call request rest inductionHypothesis =>
        intro ended reply after moved
        refine ⟨True.intro, inductionHypothesis reply ?_⟩
        have served : handler request state = (reply, after) := moved
        rw [run_call, served] at ended
        exact ended

end Program

/-! ## The requests a program can make -/

namespace Program

variable {S : Signature} {Crash Value Next State : Type}

/-- Whatever the replies, the program makes only allowed requests. -/
def makesOnly (allowed : S.Request → Prop) :
    Program S Crash Value → Prop
  | .done _ => True
  | .crash _ => True
  | .call request next =>
      allowed request ∧ ∀ reply, (next reply).makesOnly allowed

variable {allowed : S.Request → Prop}

@[simp]
theorem makesOnly_done (value : Value) :
    (Program.done value : Program S Crash Value).makesOnly allowed :=
  True.intro

@[simp]
theorem makesOnly_crash (reason : Crash) :
    (Program.crash reason : Program S Crash Value).makesOnly allowed :=
  True.intro

theorem makesOnly_bind {program : Program S Crash Value}
    {next : Value → Program S Crash Next}
    (first : program.makesOnly allowed)
    (rest : ∀ value, (next value).makesOnly allowed) :
    (program >>= next).makesOnly allowed := by
  induction program with
  | done value => exact rest value
  | crash reason => exact True.intro
  | call request later inductionHypothesis =>
      exact ⟨first.1, fun reply =>
        inductionHypothesis reply (first.2 reply)⟩

theorem makesOnly_mono {more : S.Request → Prop}
    {program : Program S Crash Value}
    (weaker : ∀ request, allowed request → more request)
    (only : program.makesOnly allowed) : program.makesOnly more := by
  induction program with
  | done value => exact True.intro
  | crash reason => exact True.intro
  | call request later inductionHypothesis =>
      exact ⟨weaker request only.1, fun reply =>
        inductionHypothesis reply (only.2 reply)⟩

/-- A property that every allowed request keeps. -/
theorem wp_of_makesOnly {env guarantee : Transition S State}
    {kept : State → Prop}
    (served : ∀ before request reply after, kept before →
      allowed request → env before request reply after →
        guarantee before request reply after ∧ kept after)
    {program : Program S Crash Value} (only : program.makesOnly allowed)
    {state : State} (start : kept state) :
    program.wp env guarantee (fun _ after => kept after) state := by
  induction program generalizing state with
  | done value => exact start
  | crash reason => exact start
  | call request later inductionHypothesis =>
      intro reply after moved
      obtain ⟨obeyed, stillKept⟩ :=
        served _ _ _ _ start only.1 moved
      exact ⟨obeyed, inductionHypothesis reply (only.2 reply) stillKept⟩

/-- A preorder that every allowed request keeps is kept by the run. -/
theorem run_keeps {handler : Handler S State}
    {kept : State → State → Prop} (same : ∀ state, kept state state)
    (chained : ∀ first second third,
      kept first second → kept second third → kept first third)
    (served : ∀ request state, allowed request →
      kept state (handler request state).2)
    {program : Program S Crash Value} (only : program.makesOnly allowed)
    (state : State) : kept state (program.run handler state).2 := by
  induction program generalizing state with
  | done value => exact same state
  | crash reason => exact same state
  | call request later inductionHypothesis =>
      exact chained _ _ _ (served request state only.1)
        (inductionHypothesis _ (only.2 _) _)

end Program

namespace Execution

variable {S : Signature} {Crash Value Next State : Type}
variable {env : Transition S State}

/-- A course in surroundings that may do more. -/
theorem mono {env' : Transition S State}
    (fewer : ∀ before request reply after,
      env before request reply after → env' before request reply after)
    {program : Program S Crash Value} {state last : State}
    {moves : List (Move S State)} {outcome : Outcome Crash Value}
    (course : Execution env program state moves outcome last) :
    Execution env' program state moves outcome last := by
  induction course with
  | done value state => exact .done value state
  | crash reason state => exact .crash reason state
  | call moved rest inductionHypothesis =>
      exact .call (fewer _ _ _ _ moved) inductionHypothesis

/-- A course seen through a function of its states. -/
theorem map {Seen : Type} {env' : Transition S Seen}
    (view : State → Seen)
    (seen : ∀ before request reply after,
      env before request reply after →
        env' (view before) request reply (view after))
    {program : Program S Crash Value} {state last : State}
    {moves : List (Move S State)} {outcome : Outcome Crash Value}
    (course : Execution env program state moves outcome last) :
    Execution env' program (view state)
      (moves.map fun move =>
        ⟨view move.before, move.request, move.reply, view move.after⟩)
      outcome (view last) := by
  induction course with
  | done value state => exact .done value _
  | crash reason state => exact .crash reason _
  | call moved rest inductionHypothesis =>
      exact .call (seen _ _ _ _ moved) inductionHypothesis

/-- A course of a sequence crashed in the first part, or is a course of that part
and then one of the rest. -/
theorem of_bind {program : Program S Crash Value}
    {next : Value → Program S Crash Next} {state last : State}
    {moves : List (Move S State)} {outcome : Outcome Crash Next}
    (course :
      Execution env (program >>= next) state moves outcome last) :
    (∃ reason, outcome = .crashed reason ∧
        Execution env program state moves (.crashed reason) last) ∨
      ∃ value middle earlier later,
        moves = earlier ++ later ∧
          Execution env program state earlier (.done value) middle ∧
          Execution env (next value) middle later outcome last := by
  induction program generalizing state moves with
  | done value =>
      exact Or.inr
        ⟨value, state, [], moves, rfl, .done value state, course⟩
  | crash reason =>
      cases course
      exact Or.inl ⟨reason, rfl, .crash reason _⟩
  | call request rest inductionHypothesis =>
      cases course with
      | call moved afterwards =>
          rcases inductionHypothesis _ afterwards with
            ⟨reason, crashed, first⟩ |
            ⟨value, middle, earlier, later, split, first, second⟩
          · exact Or.inl ⟨reason, crashed, .call moved first⟩
          · subst split
            exact Or.inr
              ⟨value, middle, _, later, rfl, .call moved first, second⟩

/-- Along a course whose moves keep `kept`, a property holds after every move
exactly when every move is fine, where a fine move is one that keeps it. -/
theorem holds_iff (kept holds : State → Prop)
    (fine : Move S State → Prop) {program : Program S Crash Value}
    {state last : State} {moves : List (Move S State)}
    {outcome : Outcome Crash Value}
    (course : Execution env program state moves outcome last)
    (moved : ∀ move ∈ moves, kept move.before →
      kept move.after ∧
        (holds move.before → (holds move.after ↔ fine move)))
    (start : kept state) :
    kept last ∧
      (holds state →
        ((∀ move ∈ moves, holds move.after) ↔ ∀ move ∈ moves, fine move) ∧
          ((∀ move ∈ moves, fine move) → holds last)) := by
  induction course with
  | done value state => exact ⟨start, fun held => ⟨by simp, fun _ => held⟩⟩
  | crash reason state =>
      exact ⟨start, fun held => ⟨by simp, fun _ => held⟩⟩
  | @call request next before after last reply moves outcome called rest
      inductionHypothesis =>
      obtain ⟨keptAfter, first⟩ := moved _ List.mem_cons_self start
      obtain ⟨keptLast, later⟩ :=
        inductionHypothesis
          (fun move member => moved move (List.mem_cons_of_mem _ member))
          keptAfter
      refine ⟨keptLast, fun held => ?_⟩
      simp only [List.forall_mem_cons]
      constructor
      · constructor
        · intro allHeld
          rcases allHeld with ⟨heldAfter, heldLater⟩
          exact ⟨(first held).mp heldAfter,
            (later heldAfter).1.mp heldLater⟩
        · intro allFine
          rcases allFine with ⟨fineFirst, fineLater⟩
          have heldAfter := (first held).mpr fineFirst
          exact ⟨heldAfter, (later heldAfter).1.mpr fineLater⟩
      · intro allFine
        rcases allFine with ⟨fineFirst, fineLater⟩
        exact (later ((first held).mpr fineFirst)).2 fineLater

end Execution

/-! ## Recorded moves -/

section Recorded

variable {S : Signature} {Crash Value State : Type}

/-- Surroundings that also write down the moves of the program.  Between two
moves others may change the state as `rely` allows after the moves so far. -/
def Transition.recorded (env : Transition S State)
    (rely : List (Move S State) → State → State → Prop) :
    Transition S (State × List (Move S State)) :=
  fun before request reply after =>
    ∃ middle, rely before.2 before.1 middle ∧
      env middle request reply after.1 ∧
      after.2 = before.2 ++ [⟨middle, request, reply, after.1⟩]

def alone : List (Move S State) → State → State → Prop :=
  fun _ before after => after = before

/-- Every course can be recorded. -/
theorem Execution.record {env : Transition S State}
    {program : Program S Crash Value} {state last : State}
    {moves : List (Move S State)} {outcome : Outcome Crash Value}
    (course : Execution env program state moves outcome last)
    (earlier : List (Move S State)) :
    ∃ recorded,
      Execution (env.recorded alone) program (state, earlier) recorded
        outcome (last, earlier ++ moves) := by
  induction course generalizing earlier with
  | done value state =>
      rw [List.append_nil]
      exact ⟨[], .done value _⟩
  | crash reason state =>
      rw [List.append_nil]
      exact ⟨[], .crash reason _⟩
  | @call request next before after last reply moves outcome moved rest
      inductionHypothesis =>
      obtain ⟨recorded, course⟩ :=
        inductionHypothesis (earlier ++ [⟨before, request, reply, after⟩])
      rw [List.append_assoc, List.singleton_append] at course
      exact ⟨_, .call ⟨before, rfl, moved, rfl⟩ course⟩

/-- What `wp` says of a course that is recorded after earlier moves. -/
theorem Execution.post_of_recorded_after {env : Transition S State}
    {guarantee : Transition S (State × List (Move S State))}
    {post : Outcome Crash Value → State × List (Move S State) → Prop}
    {program : Program S Crash Value} {state last : State}
    {moves earlier : List (Move S State)} {outcome : Outcome Crash Value}
    (course : Execution env program state moves outcome last)
    (safe :
      program.wp (env.recorded alone) guarantee post (state, earlier)) :
    post outcome (last, earlier ++ moves) := by
  obtain ⟨recorded, written⟩ := course.record earlier
  exact (Program.wp_sound written safe).2

/-- What `wp` says of a recorded course. -/
theorem Execution.post_of_recorded {env : Transition S State}
    {guarantee : Transition S (State × List (Move S State))}
    {post : Outcome Crash Value → State × List (Move S State) → Prop}
    {program : Program S Crash Value} {state last : State}
    {moves : List (Move S State)} {outcome : Outcome Crash Value}
    (course : Execution env program state moves outcome last)
    (safe :
      program.wp (env.recorded alone) guarantee post (state, [])) :
    post outcome (last, moves) :=
  course.post_of_recorded_after safe

end Recorded

/-! ## Watched moves -/

section Watched

variable {S : Signature} {Crash Value State Ghost : Type}
variable {env : Transition S State} {watch : Ghost → Move S State → Ghost}

/-- Surroundings with a ghost beside the state that watches every move. -/
def Transition.watched (env : Transition S State)
    (watch : Ghost → Move S State → Ghost) :
    Transition S (State × Ghost) :=
  fun before request reply after =>
    env before.1 request reply after.1 ∧
      after.2 = watch before.2 ⟨before.1, request, reply, after.1⟩

/-- A guarantee that says nothing about the ghost. -/
def Transition.beside (guarantee : Transition S State) :
    Transition S (State × Ghost) :=
  fun before request reply after =>
    guarantee before.1 request reply after.1

/-- What `wp` says of a course whose moves were watched. -/
theorem Execution.sound_of_watched {guarantee : Transition S State}
    {post : Outcome Crash Value → State × Ghost → Prop}
    {program : Program S Crash Value} {state last : State}
    {moves : List (Move S State)} {outcome : Outcome Crash Value}
    (course : Execution env program state moves outcome last)
    {ghost : Ghost}
    (safe :
      program.wp (env.watched watch) guarantee.beside post
        (state, ghost)) :
    (∀ move ∈ moves, move.Obeys guarantee) ∧
      post outcome (last, moves.foldl watch ghost) := by
  induction course generalizing ghost with
  | done value state => exact ⟨by simp, safe⟩
  | crash reason state => exact ⟨by simp, safe⟩
  | @call request next before after last reply moves outcome moved rest
      inductionHypothesis =>
      obtain ⟨obeyed, later⟩ :=
        safe reply (after, watch ghost ⟨before, request, reply, after⟩)
          ⟨moved, rfl⟩
      obtain ⟨others, ended⟩ := inductionHypothesis later
      exact ⟨List.forall_mem_cons.mpr ⟨obeyed, others⟩, ended⟩

/-- A course that was cut off: the moves made so far and the program left. -/
inductive Progress (env : Transition S State) :
    Program S Crash Value → State → List (Move S State) →
      Program S Crash Value → State → Prop
  | refl (program : Program S Crash Value) (state : State) :
      Progress env program state [] program state
  | call {request : S.Request}
      {next : S.Reply request → Program S Crash Value}
      {before after last : State} {reply : S.Reply request}
      {moves : List (Move S State)} {rest : Program S Crash Value} :
      env before request reply after →
      Progress env (next reply) after moves rest last →
      Progress env (.call request next) before
        (⟨before, request, reply, after⟩ :: moves) rest last

/-- What `wp` says of a course that was cut off while it was watched. -/
theorem Progress.sound_of_watched {guarantee : Transition S State}
    {post : Outcome Crash Value → State × Ghost → Prop}
    {program rest : Program S Crash Value} {state last : State}
    {moves : List (Move S State)}
    (progress : Progress env program state moves rest last)
    {ghost : Ghost}
    (safe :
      program.wp (env.watched watch) guarantee.beside post
        (state, ghost)) :
    (∀ move ∈ moves, move.Obeys guarantee) ∧
      rest.wp (env.watched watch) guarantee.beside post
        (last, moves.foldl watch ghost) := by
  induction progress generalizing ghost with
  | refl program state => exact ⟨by simp, safe⟩
  | @call request next before after last reply moves rest moved progress
      inductionHypothesis =>
      obtain ⟨obeyed, later⟩ :=
        safe reply (after, watch ghost ⟨before, request, reply, after⟩)
          ⟨moved, rfl⟩
      obtain ⟨others, left⟩ := inductionHypothesis later
      exact ⟨List.forall_mem_cons.mpr ⟨obeyed, others⟩, left⟩

/-- What every move keeps of the state and of the ghost holds where a course was
cut off. -/
theorem Progress.holds_of_watched {program rest : Program S Crash Value}
    {state last : State} {moves : List (Move S State)}
    (progress : Progress env program state moves rest last)
    (holds : State → Ghost → Prop)
    (kept : ∀ move ∈ moves, ∀ ghost, holds move.before ghost →
      holds move.after (watch ghost move))
    {ghost : Ghost} (start : holds state ghost) :
    holds last (moves.foldl watch ghost) := by
  induction progress generalizing ghost with
  | refl program state => exact start
  | call moved progress inductionHypothesis =>
      have first := kept _ List.mem_cons_self ghost start
      exact inductionHypothesis
        (fun move member => kept move (List.mem_cons_of_mem _ member))
        first

/-- A whole course is one that was cut off at its end. -/
theorem Execution.progress {program : Program S Crash Value}
    {state last : State} {moves : List (Move S State)}
    {outcome : Outcome Crash Value}
    (course : Execution env program state moves outcome last) :
    ∃ rest, Progress env program state moves rest last := by
  induction course with
  | done value state => exact ⟨_, .refl _ state⟩
  | crash reason state => exact ⟨_, .refl _ state⟩
  | call moved _ inductionHypothesis =>
      obtain ⟨rest, progress⟩ := inductionHypothesis
      exact ⟨rest, .call moved progress⟩

end Watched

end Interaction
