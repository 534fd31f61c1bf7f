import Lewsql.Interaction.Concurrent

/-!
# Jobs that take effect at once

An atomic object serves each job in one step between its begin and its end.
Parties whose jobs make many requests behave like the object when the requests of
every job fix its result at one of them: the runs of the parties are then runs of
the object with the same occurrences.
-/

namespace Interaction

inductive Stage (Task Own Value : Type) where
  | idle (own : Own)
  | invoked (job : Job Task Own)
  | committed (job : Job Task Own) (result : Value × Own)
  | stopped

structure AtomicScene (Who Task Own Value Content : Type) where
  content : Content
  stage : Who → Stage Task Own Value

/-- How a job changes the content, and its result. -/
structure AtomicObject (Who Task Own Value Content : Type) where
  serve : Who → Job Task Own → Content → Value × Own → Content → Prop

section

variable {S : Signature} {Crash Who Task Own Value State Content : Type}
variable [DecidableEq Who]

def AtomicScene.put (scene : AtomicScene Who Task Own Value Content)
    (who : Who) (stage : Stage Task Own Value) :
    AtomicScene Who Task Own Value Content :=
  { scene with stage := Function.update scene.stage who stage }

/-- A step of the object.  A job takes effect at one of its requests, and its
other requests change nothing. -/
inductive AtomicObject.Step
    (object : AtomicObject Who Task Own Value Content) :
    AtomicScene Who Task Own Value Content →
      Occurrence S Crash Who Task Own Value State →
        AtomicScene Who Task Own Value Content → Prop
  | begins {scene : AtomicScene Who Task Own Value Content} {who : Who}
      {job : Job Task Own} :
      scene.stage who = .idle job.own →
      Step object scene (.begins who job) (scene.put who (.invoked job))
  | silent {scene : AtomicScene Who Task Own Value Content} {who : Who}
      {job : Job Task Own} {earlier : List (Move S State)}
      {move : Move S State} :
      Step object scene (.calls who job earlier move) scene
  | commits {scene : AtomicScene Who Task Own Value Content} {who : Who}
      {job : Job Task Own} {earlier : List (Move S State)}
      {move : Move S State} {result : Value × Own} {content : Content} :
      scene.stage who = .invoked job →
      object.serve who job scene.content result content →
      Step object scene (.calls who job earlier move)
        (AtomicScene.put ⟨content, scene.stage⟩ who
          (.committed job result))
  | ends {scene : AtomicScene Who Task Own Value Content} {who : Who}
      {job : Job Task Own} {moves : List (Move S State)}
      {result : Value × Own} :
      scene.stage who = .committed job result →
      Step object scene (.ends who job moves (.done result))
        (scene.put who (.idle result.2))

/-- The object from some contents, with no job begun. -/
def AtomicObject.machine
    (object : AtomicObject Who Task Own Value Content)
    (starts : Content → Prop) :
    Machine (AtomicScene Who Task Own Value Content)
      (Occurrence S Crash Who Task Own Value State) where
  start scene :=
    starts scene.content ∧ ∀ who, ∃ own, scene.stage who = .idle own
  step := object.Step

/-! ## Parties that behave like an object -/

/-- The stage of a party, when `commit` tells the result that the moves of a job
have fixed. -/
def Activity.stage
    (commit : Job Task Own → List (Move S State) → Option (Value × Own)) :
    Activity S Crash Task Own Value State → Stage Task Own Value
  | .idle own => .idle own
  | .busy job moves _ =>
      match commit job moves with
      | none => .invoked job
      | some result => .committed job result
  | .stopped => .stopped

/-- What the parties look like when the object is watched. -/
def Scene.asAtomic (view : State → Content)
    (commit : Job Task Own → List (Move S State) → Option (Value × Own))
    (scene : Scene S Crash Who Task Own Value State) :
    AtomicScene Who Task Own Value Content where
  content := view scene.shared
  stage := fun who => (scene.activity who).stage commit

variable {view : State → Content}
variable {commit :
  Job Task Own → List (Move S State) → Option (Value × Own)}

theorem Scene.asAtomic_put
    (scene : Scene S Crash Who Task Own Value State) (who : Who)
    (activity : Activity S Crash Task Own Value State) :
    (scene.put who activity).asAtomic view commit =
      (scene.asAtomic view commit).put who (activity.stage commit) := by
  have stages :
      (fun other => ((scene.put who activity).activity other).stage
        commit) =
        Function.update
          (fun other => (scene.activity other).stage commit) who
          (activity.stage commit) := by
    funext other
    by_cases same : other = who
    · subst same
      rw [Scene.put_self, Function.update_self]
    · rw [Scene.put_other _ _ _ same, Function.update_of_ne same]
  simp only [Scene.asAtomic, AtomicScene.put]
  rw [stages]
  rfl

theorem AtomicScene.put_same
    {scene : AtomicScene Who Task Own Value Content} {who : Who}
    {stage : Stage Task Own Value} (same : scene.stage who = stage) :
    scene.put who stage = scene := by
  simp only [AtomicScene.put]
  rw [← same, Function.update_eq_self]

/-- How the requests of a job commit it. -/
structure Commits (object : AtomicObject Who Task Own Value Content)
    (view : State → Content)
    (commit : Job Task Own → List (Move S State) → Option (Value × Own))
    (who : Who) (job : Job Task Own) (earlier : List (Move S State))
    (move : Move S State) : Prop where
  kept : ∀ result, commit job earlier = some result →
    commit job (earlier ++ [move]) = some result ∧
      view move.after = view move.before
  silent : commit job (earlier ++ [move]) = none →
    view move.after = view move.before
  effect : ∀ result, commit job earlier = none →
    commit job (earlier ++ [move]) = some result →
      object.serve who job (view move.before) result (view move.after)

/-- What a request does to the object. -/
private theorem Commits.step
    {object : AtomicObject Who Task Own Value Content}
    {scene : Scene S Crash Who Task Own Value State} {who : Who}
    {job : Job Task Own} {earlier : List (Move S State)}
    {move : Move S State} {rest next : Program S Crash (Value × Own)}
    (begun : move.before = scene.shared)
    (working : scene.activity who = .busy job earlier rest)
    (commits : Commits object view commit who job earlier move) :
    object.Step (scene.asAtomic view commit)
      (Occurrence.calls who job earlier move :
        Occurrence S Crash Who Task Own Value State)
      ((Scene.put ⟨move.after, scene.activity⟩ who
        (.busy job (earlier ++ [move]) next)).asAtomic view commit) := by
  have stage :
      (scene.asAtomic view commit).stage who =
        match commit job earlier with
        | none => .invoked job
        | some result => .committed job result := by
    simp only [Scene.asAtomic]
    rw [working]
    rfl
  rw [Scene.asAtomic_put]
  cases committed : commit job earlier with
  | some result =>
      rw [committed] at stage
      obtain ⟨still, same⟩ := commits.kept result committed
      have unchanged :
          (Scene.asAtomic view commit
              ⟨move.after, scene.activity⟩).put who
              ((Activity.busy job (earlier ++ [move]) next).stage commit) =
            scene.asAtomic view commit := by
        simp only [Activity.stage]
        rw [still, Scene.asAtomic, same, begun]
        exact AtomicScene.put_same stage
      rw [unchanged]
      exact .silent
  | none =>
      rw [committed] at stage
      cases now : commit job (earlier ++ [move]) with
      | none =>
          have unchanged :
              (Scene.asAtomic view commit
                  ⟨move.after, scene.activity⟩).put who
                  ((Activity.busy job (earlier ++ [move]) next).stage
                    commit) =
                scene.asAtomic view commit := by
            simp only [Activity.stage]
            rw [now, Scene.asAtomic, commits.silent now, begun]
            exact AtomicScene.put_same stage
          rw [unchanged]
          exact .silent
      | some result =>
          have served := commits.effect result committed now
          rw [begun] at served
          simp only [Activity.stage]
          rw [now]
          exact .commits stage served

/-- When every request of every run commits its job at most once, and jobs end
with the result that they committed, the parties behave like the object. -/
theorem Parties.linearizable
    {parties : Parties S Crash Who Task Own Value State}
    {object : AtomicObject Who Task Own Value Content}
    {starts : State → Prop} {startsWith : Content → Prop}
    {fine : Occurrence S Crash Who Task Own Value State → Prop}
    (started : ∀ state, starts state → startsWith (view state))
    (pending : ∀ job, commit job [] = none)
    (commits : ∀ events before who job earlier move after,
      (parties.machineWhile starts fine).Run events before →
        fine (.calls who job earlier move) →
          parties.Step before (.calls who job earlier move) after →
            Commits object view commit who job earlier move)
    (ends : ∀ events before who job moves outcome after,
      (parties.machineWhile starts fine).Run events before →
        parties.Step before (.ends who job moves outcome) after →
          ∃ result, outcome = .done result ∧
            commit job moves = some result)
    {events : List (Occurrence S Crash Who Task Own Value State)}
    {scene : Scene S Crash Who Task Own Value State}
    (run : (parties.machineWhile starts fine).Run events scene) :
    (object.machine startsWith).Run events
      (scene.asAtomic view commit) := by
  have initially (scene : Scene S Crash Who Task Own Value State)
      (begun : (parties.machineWhile starts fine).start scene) :
      ∃ image, (object.machine startsWith :
          Machine _ (Occurrence S Crash Who Task Own Value State)).start
            image ∧
        image = scene.asAtomic view commit := by
    refine ⟨_, ⟨started _ begun.1, fun who => ?_⟩, rfl⟩
    obtain ⟨own, resting⟩ := begun.2 who
    refine ⟨own, ?_⟩
    simp only [Scene.asAtomic]
    rw [resting]
    rfl
  have matched
      (events : List (Occurrence S Crash Who Task Own Value State))
      (before : Scene S Crash Who Task Own Value State)
      (event : Occurrence S Crash Who Task Own Value State)
      (after : Scene S Crash Who Task Own Value State)
      (earlierRun : (parties.machineWhile starts fine).Run events before)
      (stepped : (parties.machineWhile starts fine).step before event
        after) :
      object.Step (before.asAtomic view commit) event
        (after.asAtomic view commit) := by
    obtain ⟨allowed, stepped⟩ := stepped
    have whole := stepped
    cases stepped with
    | begins resting =>
        rw [Scene.asAtomic_put]
        simp only [Activity.stage]
        rw [pending]
        apply AtomicObject.Step.begins
        simp only [Scene.asAtomic]
        rw [resting]
        rfl
    | calls asked moved =>
        exact (commits _ _ _ _ _ _ _ earlierRun allowed whole).step rfl
          asked
    | @returns who job moves value own finished =>
        obtain ⟨result, same, committed⟩ :=
          ends _ _ _ _ _ _ _ earlierRun whole
        cases same
        rw [Scene.asAtomic_put]
        apply AtomicObject.Step.ends
        simp only [Scene.asAtomic]
        rw [finished]
        simp only [Activity.stage]
        rw [committed]
    | crashes failed =>
        obtain ⟨result, same, _⟩ := ends _ _ _ _ _ _ _ earlierRun whole
        cases same
  obtain ⟨image, imageRun, rfl⟩ :=
    run.simulate_along (object.machine startsWith)
      (fun scene image => image = scene.asAtomic view commit) initially
      (fun events before image event after earlierRun related stepped =>
        ⟨_, related ▸ matched events before event after earlierRun stepped,
          rfl⟩)
  exact imageRun

end

end Interaction
