import Lewsql.Interaction.Concurrent
import Lewsql.Interaction.Pairing

/-!
# Parties that do not notice each other

Each party of a run is compared with a run of its own, from the same start and
without the others.  Both make their requests in step when the replies of the
shared state and of the state of its own belong together, and then the jobs of the
party begin and end in the same way in both.
-/

namespace Interaction

variable {S : Signature} {Crash Who Task Own Value State Link : Type}

inductive Boundary (Crash Task Own Value : Type) where
  | begins (job : Job Task Own)
  | ends (job : Job Task Own) (outcome : Outcome Crash (Value × Own))

def Occurrence.boundary :
    Occurrence S Crash Who Task Own Value State →
      Option (Boundary Crash Task Own Value)
  | .begins _ job => some (.begins job)
  | .calls _ _ _ _ => none
  | .ends _ job _ outcome => some (.ends job outcome)

/-- What the jobs of the party in a step are. -/
def Occurrence.Suits (suits : Who → Task → Prop) :
    Occurrence S Crash Who Task Own Value State → Prop
  | .begins who job => suits who job.task
  | .calls _ _ _ _ => True
  | .ends _ _ _ _ => True

instance {suits : Who → Task → Prop}
    [∀ who task, Decidable (suits who task)] :
    (event : Occurrence S Crash Who Task Own Value State) →
      Decidable (event.Suits suits)
  | .begins who job => inferInstanceAs (Decidable (suits who job.task))
  | .calls _ _ _ _ => inferInstanceAs (Decidable True)
  | .ends _ _ _ _ => inferInstanceAs (Decidable True)

/-- An activity beside the activity of the same party in another run. -/
def Activity.Beside (pairing : Pairing S Link) (sound : Own → Prop)
    (link : Link) :
    Activity S Crash Task Own Value State →
      Activity S Crash Task Own Value State → Prop
  | .idle own, .idle other => own = other ∧ sound own
  | .busy job _ rest, .busy other _ tail =>
      job = other ∧
        rest.InStep pairing
          (fun left right _ => left = right ∧ sound left.2) tail link
  | .stopped, .stopped => True
  | _, _ => False

section Beside

variable {pairing : Pairing S Link} {sound : Own → Prop} {link : Link}
variable {other : Activity S Crash Task Own Value State}

theorem beside_idle {own : Own}
    (beside :
      (Activity.idle own :
        Activity S Crash Task Own Value State).Beside pairing sound link
          other) :
    other = .idle own ∧ sound own := by
  cases other with
  | idle same =>
      obtain ⟨rfl, ownSound⟩ := beside
      exact ⟨rfl, ownSound⟩
  | busy _ _ _ => exact beside.elim
  | stopped => exact beside.elim

theorem beside_busy {job : Job Task Own} {moves : List (Move S State)}
    {rest : Program S Crash (Value × Own)}
    (beside :
      (Activity.busy job moves rest).Beside pairing sound link other) :
    ∃ moves' tail, other = .busy job moves' tail ∧
      rest.InStep pairing
        (fun left right _ => left = right ∧ sound left.2) tail link := by
  cases other with
  | idle _ => exact beside.elim
  | busy same moves' tail =>
      obtain ⟨rfl, inStep⟩ := beside
      exact ⟨moves', tail, rfl, inStep⟩
  | stopped => exact beside.elim

end Beside

variable [DecidableEq Who]

/-- The begins and ends of the jobs of one party. -/
def boundaries (who : Who)
    (events : List (Occurrence S Crash Who Task Own Value State)) :
    List (Boundary Crash Task Own Value) :=
  (events.filter fun event => event.who = who).filterMap
    Occurrence.boundary

theorem boundaries_append_own {who : Who}
    {events : List (Occurrence S Crash Who Task Own Value State)}
    {event : Occurrence S Crash Who Task Own Value State}
    (own : event.who = who) :
    boundaries who (events ++ [event]) =
      boundaries who events ++ event.boundary.toList := by
  simp only [boundaries]
  rw [List.filter_append, List.filterMap_append,
    List.filter_cons_of_pos (by simp [own]), List.filter_nil]
  apply congrArg
  cases event with
  | begins other job => rfl
  | calls other job earlier move => rfl
  | ends other job moves outcome => rfl

theorem boundaries_append_other {who : Who}
    {events : List (Occurrence S Crash Who Task Own Value State)}
    {event : Occurrence S Crash Who Task Own Value State}
    (other : event.who ≠ who) :
    boundaries who (events ++ [event]) = boundaries who events := by
  simp only [boundaries]
  rw [List.filter_append,
    List.filter_cons_of_neg (by simp [other]), List.filter_nil,
    List.append_nil]

namespace Parties

def onward (parties : Parties S Crash Who Task Own Value State)
    (first : Scene S Crash Who Task Own Value State) :
    Machine (Scene S Crash Who Task Own Value State)
      (Occurrence S Crash Who Task Own Value State) where
  start scene := scene = first
  step := parties.Step

/-- The same without the steps of the other parties. -/
def solo (parties : Parties S Crash Who Task Own Value State)
    (first : Scene S Crash Who Task Own Value State) (who : Who) :
    Machine (Scene S Crash Who Task Own Value State)
      (Occurrence S Crash Who Task Own Value State) :=
  (parties.onward first).whenever fun _ event => event.who = who

/-- Why the parties do not notice each other.  `apart` relates the shared state to
the states of the parties without the others, with what links each of them. -/
structure Separation (parties : Parties S Crash Who Task Own Value State)
    (pairing : Who → Pairing S Link) (idle : Link)
    (suits : Who → Task → Prop) (sound : Who → Own → Prop)
    (apart : (Who → Link) → State → (Who → State) → Prop) : Prop where
  body : ∀ who job, suits who job.task → sound who job.own →
    (parties.body who job).InStep (pairing who)
      (fun left right _ => left = right ∧ sound who left.2)
      (parties.body who job) idle
  rest : ∀ links shared alone who, apart links shared alone →
    apart (Function.update links who idle) shared alone
  move : ∀ links shared alone who left right reply after,
    apart links shared alone →
      (pairing who).asks (links who) left right →
        parties.env shared left reply after →
          ∃ answer last link,
            parties.env (alone who) right answer last ∧
              (pairing who).answers (links who) left right reply answer
                link ∧
              apart (Function.update links who link) after
                (Function.update alone who last)

/-- A party has a run of its own that stands beside what it did. -/
def Accompanied (parties : Parties S Crash Who Task Own Value State)
    (first : Scene S Crash Who Task Own Value State)
    (pairing : Pairing S Link) (sound : Own → Prop) (who : Who)
    (events : List (Occurrence S Crash Who Task Own Value State))
    (activity : Activity S Crash Task Own Value State) (link : Link)
    (last : State) : Prop :=
  ∃ events' scene', (parties.solo first who).Run events' scene' ∧
    boundaries who events' = boundaries who events ∧
    scene'.shared = last ∧
    activity.Beside pairing sound link (scene'.activity who)

section Runs

variable {parties : Parties S Crash Who Task Own Value State}
variable {first before after : Scene S Crash Who Task Own Value State}
variable {pairing : Who → Pairing S Link} {idle : Link}
variable {suits : Who → Task → Prop} {sound : Who → Own → Prop}
variable {apart : (Who → Link) → State → (Who → State) → Prop}
variable {events : List (Occurrence S Crash Who Task Own Value State)}
variable {event : Occurrence S Crash Who Task Own Value State}
variable {who : Who} {link next : Link} {state last : State}

/-- A step of the party in both runs. -/
theorem Accompanied.step
    {events' : List (Occurrence S Crash Who Task Own Value State)}
    {scene' : Scene S Crash Who Task Own Value State}
    (run : (parties.solo first who).Run events' scene')
    (same : boundaries who events' = boundaries who events)
    {event' : Occurrence S Crash Who Task Own Value State}
    {after' : Scene S Crash Who Task Own Value State}
    {activity : Activity S Crash Task Own Value State}
    (stepped : parties.Step scene' event' after')
    (own : event.who = who) (own' : event'.who = who)
    (boundary : event'.boundary = event.boundary)
    (shared : after'.shared = last)
    (beside :
      activity.Beside (pairing who) (sound who) link
        (after'.activity who)) :
    parties.Accompanied first (pairing who) (sound who) who
      (events ++ [event]) activity link last := by
  refine ⟨events' ++ [event'], after', .step run ⟨own', stepped⟩, ?_,
    shared, beside⟩
  rw [boundaries_append_own own', boundaries_append_own own, same, boundary]

/-- The other parties have nothing to do with a step. -/
theorem Accompanied.other {other : Who}
    {activity : Activity S Crash Task Own Value State}
    (accompanied :
      parties.Accompanied first (pairing other) (sound other) other events
        activity link state)
    (different : event.who ≠ other) :
    parties.Accompanied first (pairing other) (sound other) other
      (events ++ [event]) activity link state := by
  obtain ⟨events', scene', run, same, shared, beside⟩ := accompanied
  refine ⟨events', scene', run, ?_, shared, beside⟩
  rw [boundaries_append_other different, same]

/-- The step of one party, when it has made it in its own run as well. -/
theorem accompanied_step {links links' : Who → Link}
    {alone alone' : Who → State}
    (accompanied : ∀ other, parties.Accompanied first (pairing other)
      (sound other) other events (before.activity other) (links other)
      (alone other))
    (stepped : parties.Step before event after) (mine : event.who = who)
    (linkOf : ∀ other, other ≠ who → links' other = links other)
    (aloneOf : ∀ other, other ≠ who → alone' other = alone other)
    (own : parties.Accompanied first (pairing who) (sound who) who
      (events ++ [event]) (after.activity who) (links' who) (alone' who))
    (other : Who) :
    parties.Accompanied first (pairing other) (sound other) other
      (events ++ [event]) (after.activity other) (links' other)
      (alone' other) := by
  subst mine
  by_cases same : other = event.who
  · subst same
    exact own
  · rw [stepped.activity_other same, linkOf other same, aloneOf other same]
    exact (accompanied other).other (Ne.symm same)

/-- The own runs keep up with every step. -/
theorem Separation.step
    (separation : Separation parties pairing idle suits sound apart)
    {links : Who → Link} {alone : Who → State}
    (held : apart links before.shared alone)
    (accompanied : ∀ other, parties.Accompanied first (pairing other)
      (sound other) other events (before.activity other) (links other)
      (alone other))
    (suited : event.Suits suits)
    (stepped : parties.Step before event after) :
    ∃ links' alone', apart links' after.shared alone' ∧
      ∀ other, parties.Accompanied first (pairing other) (sound other)
        other (events ++ [event]) (after.activity other) (links' other)
        (alone' other) := by
  have whole := stepped
  cases stepped with
  | @begins who job ready =>
      obtain ⟨events', scene', run, same, shared, beside⟩ := accompanied who
      rw [ready] at beside
      obtain ⟨working, ownSound⟩ := beside_idle beside
      refine ⟨Function.update links who idle, alone,
        separation.rest _ _ _ who held, ?_⟩
      refine accompanied_step accompanied whole (show _ = who from rfl)
        (fun other different => Function.update_of_ne different _ _)
        (fun _ _ => rfl) ?_
      have begun :
          parties.Step scene' (.begins who job)
            (scene'.put who (.busy job [] (parties.body who job))) :=
        .begins working
      refine Accompanied.step run same begun rfl rfl rfl shared ?_
      rw [Scene.put_self, Scene.put_self]
      rw [Function.update_self]
      exact ⟨rfl, separation.body who job suited ownSound⟩
  | @calls who job earlier request tail reply last asked moved =>
      obtain ⟨events', scene', run, same, shared, beside⟩ := accompanied who
      rw [asked] at beside
      obtain ⟨earlier', _, working, other, more, rfl, asks, later⟩ :=
        beside_busy beside
      obtain ⟨answer, last', link, moved', answers, held'⟩ :=
        separation.move _ _ _ who _ _ _ _ held asks moved
      rw [← shared] at moved'
      refine ⟨Function.update links who link,
        Function.update alone who last', held', ?_⟩
      refine accompanied_step accompanied whole (show _ = who from rfl)
        (fun other different => Function.update_of_ne different _ _)
        (fun other different => Function.update_of_ne different _ _) ?_
      have called := Step.calls working moved'
      rw [Function.update_self, Function.update_self]
      refine Accompanied.step run same called rfl rfl rfl rfl ?_
      rw [Scene.put_self, Scene.put_self]
      exact ⟨rfl, later reply answer link answers⟩
  | @returns who job moves value own finished =>
      obtain ⟨events', scene', run, same, shared, beside⟩ := accompanied who
      rw [finished] at beside
      obtain ⟨moves', _, working, result, rfl, rfl, ownSound⟩ :=
        beside_busy beside
      refine ⟨links, alone, held, ?_⟩
      refine accompanied_step accompanied whole (show _ = who from rfl)
        (fun _ _ => rfl) (fun _ _ => rfl) ?_
      have returned :
          parties.Step scene' (.ends who job moves' (.done (value, own)))
            (scene'.put who (.idle own)) :=
        .returns working
      refine Accompanied.step run same returned rfl rfl rfl shared ?_
      rw [Scene.put_self, Scene.put_self]
      exact ⟨rfl, ownSound⟩
  | @crashes who job moves reason failed =>
      obtain ⟨events', scene', run, same, shared, beside⟩ := accompanied who
      rw [failed] at beside
      obtain ⟨moves', rest, working, crashed⟩ := beside_busy beside
      have crashed : rest = .crash reason := crashed
      subst crashed
      refine ⟨links, alone, held, ?_⟩
      refine accompanied_step accompanied whole (show _ = who from rfl)
        (fun _ _ => rfl) (fun _ _ => rfl) ?_
      have stopped :
          parties.Step scene' (.ends who job moves' (.crashed reason))
            (scene'.put who .stopped) :=
        .crashes working
      refine Accompanied.step run same stopped rfl rfl rfl shared ?_
      rw [Scene.put_self, Scene.put_self]
      exact True.intro

/-- In every run each party has a run of its own. -/
theorem Separation.accompanied
    (separation : Separation parties pairing idle suits sound apart)
    (started : apart (fun _ => idle) first.shared fun _ => first.shared)
    (resting : ∀ who, ∃ own, first.activity who = .idle own ∧
      sound who own)
    {scene : Scene S Crash Who Task Own Value State}
    (run :
      ((parties.onward first).whenever fun _ event =>
        event.Suits suits).Run events scene) :
    ∃ links alone, apart links scene.shared alone ∧
      ∀ who, parties.Accompanied first (pairing who) (sound who) who events
        (scene.activity who) (links who) (alone who) := by
  refine Machine.Run.invariant
    (fun events scene => ∃ links alone, apart links scene.shared alone ∧
      ∀ who, parties.Accompanied first (pairing who) (sound who) who events
        (scene.activity who) (links who) (alone who)) ?_ ?_ run
  · intro scene begun
    have same : scene = first := begun
    subst same
    refine ⟨fun _ => idle, fun _ => scene.shared, started, fun who => ?_⟩
    refine ⟨[], scene, .start rfl, rfl, rfl, ?_⟩
    obtain ⟨own, ready, ownSound⟩ := resting who
    rw [ready]
    exact ⟨rfl, ownSound⟩
  · intro events before event after _ known stepped
    obtain ⟨links, alone, held, accompanied⟩ := known
    exact separation.step held accompanied stepped.1 stepped.2

/-- The steps of a schedule continue a run of every machine that allows
them. -/
theorem append_play
    {machine : Machine (Scene S Crash Who Task Own Value State)
      (Occurrence S Crash Who Task Own Value State)}
    {handler : Handler S State}
    (served : ∀ request state,
      parties.env state request (handler request state).1
        (handler request state).2)
    {fine : Occurrence S Crash Who Task Own Value State → Prop}
    (permits : ∀ before event after, fine event →
      parties.Step before event after → machine.step before event after)
    (schedule : List (Who × Option Task))
    (allowed : ∀ event ∈ (parties.play handler schedule before).1,
      fine event)
    (run : machine.Run events before) :
    machine.Run (events ++ (parties.play handler schedule before).1)
      (parties.play handler schedule before).2 := by
  induction schedule generalizing events before with
  | nil =>
      rw [play, List.append_nil]
      exact run
  | cons choice rest inductionHypothesis =>
      obtain ⟨who, task⟩ := choice
      rw [play] at allowed ⊢
      cases advanced : parties.advance handler who task before with
      | none =>
          rw [List.append_nil]
          exact run
      | some step =>
          obtain ⟨event, after⟩ := step
          rw [advanced] at allowed
          have stepped := step_of_advance served advanced
          have longer :=
            run.step (permits _ _ _ (allowed event List.mem_cons_self)
              stepped)
          have whole :=
            inductionHypothesis
              (fun later member =>
                allowed later (List.mem_cons_of_mem _ member)) longer
          rw [List.append_assoc] at whole
          exact whole

end Runs

end Parties

end Interaction
