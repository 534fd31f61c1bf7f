import Lewsql.DiskManager.Managers
import Lewsql.DiskManager.World

/-!
# Creating a disk from several managers

`create` looks for the file with `access` and makes it with a separate `open`
that does not insist on a new file.  Two creates of one name can therefore both
see no file, and both report success.  While no `open` of a create finds the file
that another one made since its check, one create makes the disk and all others
report that it exists.
-/

namespace Lewsql

open Interaction Posix FileSystem

def Operation.CreatesAt (base : DiskManager) (resolve : String → String)
    (entry : String) : Operation → Prop
  | .create diskName => resolve (base.diskPath diskName) = entry
  | _ => False

instance (base : DiskManager) (resolve : String → String)
    (entry : String) : DecidablePred (Operation.CreatesAt base resolve entry)
  | .create diskName =>
      inferInstanceAs (Decidable (resolve (base.diskPath diskName) = entry))
  | .load _ => inferInstanceAs (Decidable False)
  | .exists _ => inferInstanceAs (Decidable False)
  | .unload _ => inferInstanceAs (Decidable False)
  | .destroy _ => inferInstanceAs (Decidable False)
  | .isLoaded _ => inferInstanceAs (Decidable False)
  | .loadedDiskName _ => inferInstanceAs (Decidable False)
  | .numLoadedDisks => inferInstanceAs (Decidable False)
  | .write _ _ _ => inferInstanceAs (Decidable False)
  | .read _ _ _ => inferInstanceAs (Decidable False)
  | .extend _ => inferInstanceAs (Decidable False)
  | .diskByteSize _ => inferInstanceAs (Decidable False)

def Operation.destroys : Operation → Bool
  | .destroy _ => true
  | _ => false

def Operation.creates : Operation → Bool
  | .create _ => true
  | _ => false

def Opening : Request → Bool
  | .openFile _ => true
  | _ => false

def hasOpened (moves : List (Move Posix.calls FileSystem)) : Bool :=
  moves.any fun move => Opening move.request

theorem hasOpened_append
    {moves : List (Move Posix.calls FileSystem)}
    {move : Move Posix.calls FileSystem} :
    hasOpened (moves ++ [move]) =
      (hasOpened moves || Opening move.request) := by
  simp only [hasOpened]
  rw [List.any_append, List.any_cons, List.any_nil, Bool.or_false]

section Statements

variable {Who : Type} (base : Who → DiskManager)
variable (resolve : String → String) (entry : String)

/-- Nobody destroys a disk, and nobody who creates one has used up its ids. -/
def CreatesOnly (event : ManagerEvent Who) : Prop :=
  event.job.task.destroys = false ∧
    (event.job.task.creates = true →
      event.job.own.curDiskId ≠ Int32.maxValue)

instance : DecidablePred (@CreatesOnly Who) := fun event =>
  inferInstanceAs (Decidable (event.job.task.destroys = false ∧
    (event.job.task.creates = true →
      event.job.own.curDiskId ≠ Int32.maxValue)))

/-- The first `open` of a create finds no file. -/
def OpensNew : ManagerEvent Who → Prop
  | .calls who job earlier move =>
      job.task.CreatesAt (base who) resolve entry →
        Opening move.request = true → hasOpened earlier = false →
          move.before.entry entry = none
  | .begins _ _ => True
  | .ends _ _ _ _ => True

instance : DecidablePred (OpensNew base resolve entry)
  | .calls who job earlier move =>
      inferInstanceAs (Decidable
        (job.task.CreatesAt (base who) resolve entry →
          Opening move.request = true → hasOpened earlier = false →
            move.before.entry entry = none))
  | .begins _ _ => inferInstanceAs (Decidable True)
  | .ends _ _ _ _ => inferInstanceAs (Decidable True)

def Created : ManagerEvent Who → Prop
  | .ends who job _ (.done (.diskId (.value _), _)) =>
      job.task.CreatesAt (base who) resolve entry
  | _ => False

instance : DecidablePred (Created base resolve entry)
  | .begins _ _ => inferInstanceAs (Decidable False)
  | .calls _ _ _ _ => inferInstanceAs (Decidable False)
  | .ends who job _ (.done (.diskId (.value _), _)) =>
      inferInstanceAs
        (Decidable (job.task.CreatesAt (base who) resolve entry))
  | .ends _ _ _ (.done (.diskId (.error _), _)) =>
      inferInstanceAs (Decidable False)
  | .ends _ _ _ (.done (.void _, _)) => inferInstanceAs (Decidable False)
  | .ends _ _ _ (.done (.buffer _ _, _)) =>
      inferInstanceAs (Decidable False)
  | .ends _ _ _ (.done (.cursor _, _)) => inferInstanceAs (Decidable False)
  | .ends _ _ _ (.done (.size _, _)) => inferInstanceAs (Decidable False)
  | .ends _ _ _ (.done (.flag _, _)) => inferInstanceAs (Decidable False)
  | .ends _ _ _ (.done (.name _, _)) => inferInstanceAs (Decidable False)
  | .ends _ _ _ (.crashed _) => inferInstanceAs (Decidable False)

end Statements

/-- A create relies on names to stay; once it opened, its file is there, and
without that it does not succeed. -/
def creation (base : DiskManager) : ManagerContract where
  rely _ _ before after := NamesStay before after
  guarantee job _ request _ after :=
    match job.task with
    | .create diskName =>
        Opening request = true →
          after.1.lookup (base.diskPath diskName) ≠ none
    | _ => True
  post job outcome state :=
    match job.task with
    | .create _ =>
        ∃ result own, outcome = .done (.diskId result, own) ∧
          match result with
          | .value _ => hasOpened state.2 = true
          | .error failure => failure = .diskAlreadyExists
    | _ => True

namespace PosixDiskManager

variable {Who : Type} {base : Who → DiskManager}
variable {fine : ManagerEvent Who → Prop} {who : Who} {job : ManagerJob}
variable {path : String}

private abbrev creating (base : Who → DiskManager)
    (fine : ManagerEvent Who → Prop) (who : Who) (job : ManagerJob) :
    Transition Posix.calls Recorded :=
  (managers serve.transition base).around fine (creation (base who)).rely
    who job

private def Present (path : String) (state : Recorded) : Prop :=
  state.1.lookup path ≠ none

private theorem Present.moved {before after : Recorded}
    {request : Request} {reply : Except Errno (Answer request)}
    (present : Present path before)
    (keeps : ∀ path, request ≠ .unlink path)
    (moved : creating base fine who job before request reply after) :
    Present path after := by
  obtain ⟨middle, stay, served, _, _⟩ := moved
  have kept := serve_namesStay request middle keeps
  rw [show serve request middle = (reply, after.1) from served] at kept
  intro absent
  cases found : before.1.lookup path with
  | none => exact present found
  | some inode =>
      rw [(stay.trans kept).lookup found] at absent
      cases absent

private theorem hasOpened_moved {before after : Recorded}
    {request : Request} {reply : Except Errno (Answer request)}
    (moved : creating base fine who job before request reply after) :
    hasOpened after.2 = (hasOpened before.2 || Opening request) := by
  obtain ⟨middle, _, _, _, recorded⟩ := moved
  rw [recorded, hasOpened_append]

private theorem access_moved {before after : Recorded}
    {reply : Except Errno Unit}
    (moved : creating base fine who job before (.access path) reply after) :
    match existenceOf reply with
    | .value exist => exist = true → Present path after
    | .error _ => False := by
  obtain ⟨middle, _, served, _, _⟩ := moved
  have answered : serve (.access path) middle = (reply, after.1) := served
  cases found : middle.lookup path with
  | none =>
      simp only [serve, found] at answered
      cases answered
      exact fun impossible => by cases impossible
  | some inode =>
      simp only [serve, found] at answered
      obtain ⟨rfl, same⟩ := Prod.mk.inj answered
      intro _ absent
      rw [← same, found] at absent
      cases absent

private theorem openFile_moved {before after : Recorded}
    {reply : Except Errno Nat}
    (moved :
      creating base fine who job before (.openFile path) reply after) :
    (∃ fd, reply = .ok fd) ∧ Present path after := by
  obtain ⟨middle, _, served, _, _⟩ := moved
  have answered : serve (.openFile path) middle = (reply, after.1) := served
  cases found : middle.lookup path with
  | none =>
      simp only [serve, found] at answered
      obtain ⟨rfl, same⟩ := Prod.mk.inj answered
      refine ⟨⟨_, rfl⟩, ?_⟩
      rw [Present, ← same, lookup_setDescriptor, lookup_link_self]
      exact Option.some_ne_none _
  | some inode =>
      simp only [serve, found] at answered
      obtain ⟨rfl, same⟩ := Prod.mk.inj answered
      refine ⟨⟨_, rfl⟩, ?_⟩
      rw [Present, ← same, lookup_setDescriptor, found]
      exact Option.some_ne_none _

private def makesFile (path : String) : Transition Posix.calls Recorded :=
  fun _ request _ after => Opening request = true → Present path after

private theorem makesFile_other {before after : Recorded}
    {request : Request} {reply : Except Errno (Answer request)}
    (other : Opening request = false) :
    makesFile path before request reply after := by
  intro opens
  rw [other] at opens
  cases opens

/-- A check of the path, which also tells whether the file is there. -/
private theorem checks_creating {ready : Recorded → Prop}
    (kept : ∀ before (reply : Except Errno Unit) after, ready before →
      creating base fine who job before (.access path) reply after →
        ready after) :
    Checks (creating base fine who job) (makesFile path) path ready
      (fun exist after => exist = true → Present path after) False := by
  intro before reply after start moved
  refine ⟨makesFile_other rfl,
    kept before reply after start moved, ?_⟩
  have answered := access_moved moved
  rcases reply with (_ | _) | ⟨⟩
  · exact answered
  · exact answered
  · exact answered

/-- The same once the file is there. -/
private theorem checks_present {ready : Recorded → Prop}
    (present : ∀ state, ready state → Present path state)
    (kept : ∀ before (reply : Except Errno Unit) after, ready before →
      creating base fine who job before (.access path) reply after →
        ready after) :
    Checks (creating base fine who job) (makesFile path) path ready
      (fun exist _ => exist = true) False := by
  intro before reply after start moved
  refine ⟨makesFile_other rfl,
    kept before reply after start moved, ?_⟩
  have still := present before start
  obtain ⟨middle, stay, served, _, _⟩ := moved
  have answered : serve (.access path) middle = (reply, after.1) := served
  cases found : before.1.lookup path with
  | none => exact absurd found still
  | some inode =>
      simp only [serve, stay.lookup found] at answered
      cases answered
      rfl

/-- The end of a create: it succeeds only after an `open`. -/
private def createEnds :
    Outcome Crash (DiskResult DiskId × PosixDiskManager) → Recorded → Prop
  | .done (.value _, _), after => hasOpened after.2 = true
  | .done (.error failure, _), _ => failure = .diskAlreadyExists
  | .crashed _, _ => False

private theorem wp_load_present {self : PosixDiskManager}
    {diskName : DiskName} {state : Recorded}
    (room : self.curDiskId ≠ Int32.maxValue)
    (present : Present ((base who).diskPath diskName) state)
    (opened : hasOpened state.2 = true) :
    ((load (base who) diskName).run self).wp (creating base fine who job)
      (makesFile ((base who).diskPath diskName)) createEnds state := by
  have checks :
      Checks (creating base fine who job)
        (makesFile ((base who).diskPath diskName))
        ((base who).diskPath diskName)
        (fun state => Present ((base who).diskPath diskName) state ∧
          hasOpened state.2 = true)
        (fun exist _ => exist = true) False := by
    refine checks_present (fun _ ready => ready.1) ?_
    intro before reply after ready moved
    rcases ready with ⟨present, opened⟩
    refine ⟨present.moved (fun _ same => by cases same) moved, ?_⟩
    rw [hasOpened_moved moved, opened, Bool.true_or]
  have opens :
      Opens (creating base fine who job)
        (makesFile ((base who).diskPath diskName)) (base who)
        ((base who).diskPath diskName) true
        (fun _ state => hasOpened state.2 = true)
        (fun _ _ => False) (fun _ _ => False) state := by
    refine PosixDisk.wp_init checks ?_ ?_ (fun broken => broken.elim)
      (fun broken => broken.elim) ⟨present, opened⟩
    · intro before reply after ready _ moved
      rcases ready with ⟨present, opened⟩
      obtain ⟨⟨fd, rfl⟩, still⟩ := openFile_moved moved
      refine ⟨fun _ => still, ?_⟩
      dsimp only
      rw [hasOpened_moved moved, opened, Bool.true_or]
    · intro after _ impossible
      cases impossible
  refine wp_load opens (fun _ _ impossible => impossible.elim)
    (fun _ _ impossible => impossible.elim)
    (fun _ _ full => absurd full room) ?_
  intro fd after hasRoom opened reply last moved
  refine ⟨makesFile_other rfl, ?_⟩
  change hasOpened last.2 = true
  rw [hasOpened_moved moved, opened, Bool.true_or]

/-- A create among others that keep the names. -/
private theorem wp_create_among {self : PosixDiskManager}
    {diskName : DiskName} {state : Recorded}
    (room : self.curDiskId ≠ Int32.maxValue) :
    ((create (base who) diskName).run self).wp
      (creating base fine who job)
      (makesFile ((base who).diskPath diskName)) createEnds state := by
  have first :
      Opens (creating base fine who job)
        (makesFile ((base who).diskPath diskName)) (base who)
        ((base who).diskPath diskName) false
        (fun _ state => Present ((base who).diskPath diskName) state ∧
          hasOpened state.2 = true)
        (fun _ state => Present ((base who).diskPath diskName) state)
        (fun _ _ => False) state := by
    refine PosixDisk.wp_init
      (checks_creating (fun _ _ _ _ _ => True.intro)) ?_ ?_
      (fun broken => broken.elim) (fun broken => broken.elim) True.intro
    · intro before reply after _ _ moved
      obtain ⟨⟨fd, rfl⟩, present⟩ := openFile_moved moved
      refine ⟨fun _ => present, present, ?_⟩
      rw [hasOpened_moved moved]
      exact Bool.or_true _
    · exact fun after _ saw => saw rfl
  have again (state : Recorded)
      (present : Present ((base who).diskPath diskName) state) :
      Opens (creating base fine who job)
        (makesFile ((base who).diskPath diskName)) (base who)
        ((base who).diskPath diskName) false (fun _ _ => False)
        (fun failure _ => failure = .diskAlreadyExists)
        (fun _ _ => False) state := by
    have checks :
        Checks (creating base fine who job)
          (makesFile ((base who).diskPath diskName))
          ((base who).diskPath diskName)
          (fun state => Present ((base who).diskPath diskName) state)
          (fun exist _ => exist = true) False := by
      refine checks_present (fun _ ready => ready) ?_
      intro before reply after present moved
      exact present.moved (fun _ same => by cases same) moved
    refine PosixDisk.wp_init checks ?_ (fun _ _ _ => rfl)
      (fun broken => broken.elim) (fun broken => broken.elim) present
    intro before reply after _ impossible
    cases impossible
  refine wp_create first (fun _ state present => again state present)
    (fun _ _ failed => failed) (fun _ _ impossible => impossible.elim)
    (fun _ _ impossible => impossible.elim) ?_
  intro fd before reply after ready moved
  rcases ready with ⟨present, opened⟩
  refine ⟨makesFile_other rfl, ?_⟩
  refine wp_load_present room
    (present.moved (fun _ same => by cases same) moved) ?_
  rw [hasOpened_moved moved, opened, Bool.true_or]

end PosixDiskManager

section Runs

variable {Who : Type} [DecidableEq Who] {base : Who → DiskManager}
variable {starts : FileSystem → Prop} {fine : ManagerEvent Who → Prop}
variable {resolve : String → String} {entry : String}
variable {events : List (ManagerEvent Who)}
variable {before after scene : ManagerScene Who}

omit [DecidableEq Who] in
private theorem keeps_creation {who : Who} {job : ManagerJob}
    (state : FileSystem)
    (allowed : CreatesOnly (.begins who job : ManagerEvent Who)) :
    (managers serve.transition base).Keeps fine (creation (base who)) who
      job ((managers serve.transition base).body who job) (state, []) := by
  obtain ⟨task, own⟩ := job
  cases task with
  | create diskName =>
      change
        ((PosixDiskManager.perform (base who) (.create diskName)).run
          own).wp _ _ _ _
      rw [PosixDiskManager.perform, StateT.run_map, Program.wp_map]
      refine Program.wp_consequence
        (PosixDiskManager.wp_create_among (allowed.2 rfl)) ?_
      intro outcome after ended
      rcases outcome with ⟨result, manager⟩ | reason
      · refine ⟨result, manager, rfl, ?_⟩
        cases result with
        | value diskId => exact ended
        | error failure => exact ended
      · exact ended.elim
  | _ => exact Program.wp_trivial _ _

/-- No step takes a name away. -/
private theorem namesStay_of_step
    (allowed : ∀ event, fine event → CreatesOnly event)
    (run :
      ((managers serve.transition base).machineWhile starts fine).Run
        events before)
    {event : ManagerEvent Who} (isFine : fine event)
    (stepped : (managers serve.transition base).Step before event after) :
    NamesStay before.shared after.shared := by
  cases stepped with
  | begins resting => exact .refl _
  | returns finished => exact .refl _
  | crashes failed => exact .refl _
  | @calls who job earlier request next reply last asked moved =>
      have disciplined :=
        disciplined_of_run run isFine (.calls asked moved)
      have keeps : ∀ path, request ≠ .unlink path := by
        intro path equal
        rcases equal with rfl
        obtain ⟨diskId, destroys⟩ := disciplined
        have never := allowed _ isFine
        have harmless : job.task.destroys = false := never.1
        rw [destroys] at harmless
        cases harmless
      have kept := serve_namesStay request before.shared keeps
      rw [show serve request before.shared = (reply, last) from moved]
        at kept
      exact kept

private theorem ongoing_creation
    (allowed : ∀ event, fine event → CreatesOnly event)
    (run :
      ((managers serve.transition base).machineWhile starts fine).Run
        events scene) (who : Who) :
    (managers serve.transition base).Ongoing fine (creation (base who))
      who scene := by
  refine Parties.ongoing_of_run (fun _ _ state => NamesStay.refl state)
    (fun job state isFine => keeps_creation state (allowed _ isFine)) ?_
    run
  intro events before event after earlier isFine stepped _ job moves rest
    _ seen stay
  exact stay.trans (namesStay_of_step allowed earlier isFine stepped)

variable (base resolve entry) in
/-- A create of the entry that has opened the file is under way. -/
private def Making (scene : ManagerScene Who) (who : Who) : Prop :=
  ∃ job moves rest, scene.activity who = .busy job moves rest ∧
    job.task.CreatesAt (base who) resolve entry ∧ hasOpened moves = true

variable (base resolve entry) in
private abbrev created (events : List (ManagerEvent Who)) : Nat :=
  events.countP fun event => decide (Created base resolve entry event)

omit [DecidableEq Who] in
private theorem created_append {event : ManagerEvent Who} :
    created base resolve entry (events ++ [event]) =
      created base resolve entry events +
        if Created base resolve entry event then 1 else 0 := by
  simp only [created]
  rw [List.countP_append, List.countP_singleton]
  simp only [decide_eq_true_eq]

omit [DecidableEq Who] in
private theorem createsAt_of_created {who : Who} {job : ManagerJob}
    {moves : List (Move Posix.calls FileSystem)}
    {outcome : Outcome Crash (Response × PosixDiskManager)}
    (success : Created base resolve entry (.ends who job moves outcome)) :
    job.task.CreatesAt (base who) resolve entry := by
  rcases outcome with ⟨response, own⟩ | reason
  · cases response with
    | diskId result =>
        cases result with
        | value diskId => exact success
        | error failure => exact success.elim
    | _ => exact success.elim
  · exact success.elim

omit [DecidableEq Who] in
/-- A create that succeeded had opened the file. -/
private theorem created_opened {who : Who} {job : ManagerJob}
    {moves : List (Move Posix.calls FileSystem)}
    {outcome : Outcome Crash (Response × PosixDiskManager)}
    {seen : FileSystem}
    (success : Created base resolve entry (.ends who job moves outcome))
    (ended : (creation (base who)).post job outcome (seen, moves)) :
    job.task.CreatesAt (base who) resolve entry ∧
      hasOpened moves = true := by
  obtain ⟨task, own⟩ := job
  cases task with
  | create diskName =>
      obtain ⟨result, own, rfl, opened⟩ := ended
      cases result with
      | value diskId => exact ⟨success, opened⟩
      | error failure => exact success.elim
  | _ => exact (createsAt_of_created success).elim

variable (base resolve entry) in
/-- At most one create has the file: it is under way, or it succeeded. -/
private structure Claimed (events : List (ManagerEvent Who))
    (scene : ManagerScene Who) : Prop where
  resolves : scene.shared.resolve = resolve
  few : created base resolve entry events ≤ 1
  spent : 0 < created base resolve entry events →
    ∀ who, ¬ Making base resolve entry scene who
  single : ∀ who other, Making base resolve entry scene who →
    Making base resolve entry scene other → who = other
  absent : scene.shared.entry entry = none →
    created base resolve entry events = 0 ∧
      ∀ who, ¬ Making base resolve entry scene who

omit [DecidableEq Who] in
/-- A step after which no more creates have the file than before. -/
private theorem Claimed.of_fewer
    (claimed : Claimed base resolve entry events before)
    {event : ManagerEvent Who}
    (stay : NamesStay before.shared after.shared)
    (same : ¬ Created base resolve entry event)
    (fewer : ∀ who, Making base resolve entry after who →
      Making base resolve entry before who) :
    Claimed base resolve entry (events ++ [event]) after := by
  have counted :
      created base resolve entry (events ++ [event]) =
        created base resolve entry events := by
    rw [created_append, if_neg same, Nat.add_zero]
  constructor
  · rw [stay.resolve]
    exact claimed.resolves
  · rw [counted]
    exact claimed.few
  · intro some who making
    rw [counted] at some
    exact claimed.spent some who (fewer who making)
  · intro who other making makingToo
    exact claimed.single who other (fewer who making)
      (fewer other makingToo)
  · intro absent
    have absentBefore : before.shared.entry entry = none := by
      cases found : before.shared.entry entry with
      | none => rfl
      | some inode =>
          rw [stay.entry _ _ found] at absent
          cases absent
    rw [counted]
    exact ⟨(claimed.absent absentBefore).1, fun who making =>
      (claimed.absent absentBefore).2 who (fewer who making)⟩

/-- A party that is given something else to do than a create with an open
file. -/
private theorem making_of_put {who other : Who} {last : FileSystem}
    {activity : Activity Posix.calls Crash Operation PosixDiskManager
      Response FileSystem}
    (nothing : ∀ job moves rest, activity = .busy job moves rest →
      job.task.CreatesAt (base who) resolve entry → hasOpened moves = true →
        Making base resolve entry before who)
    (making :
      Making base resolve entry
        (Scene.put ⟨last, before.activity⟩ who activity) other) :
    Making base resolve entry before other := by
  obtain ⟨job, moves, rest, working, creates, opened⟩ := making
  by_cases same : other = who
  · subst same
    rw [Scene.put_self] at working
    exact nothing _ _ _ working creates opened
  · rw [Scene.put_other _ _ _ same] at working
    exact ⟨job, moves, rest, working, creates, opened⟩

/-- The step in which a create ends with success. -/
private theorem Claimed.won
    (claimed : Claimed base resolve entry events before) {who : Who}
    {job : ManagerJob} {moves : List (Move Posix.calls FileSystem)}
    {value : Response} {own : PosixDiskManager} {seen : FileSystem}
    (finished : before.activity who = .busy job moves (.done (value, own)))
    (success :
      Created base resolve entry
        (.ends who job moves (.done (value, own))))
    (ended :
      (creation (base who)).post job (.done (value, own))
        (seen, moves)) :
    Claimed base resolve entry
      (events ++ [.ends who job moves (.done (value, own))])
      (before.put who (.idle own)) := by
  have making : Making base resolve entry before who :=
    ⟨job, moves, _, finished, created_opened success ended⟩
  have none : created base resolve entry events = 0 := by
    by_contra some
    exact claimed.spent (Nat.pos_of_ne_zero some) who making
  have counted :
      created base resolve entry
          (events ++ [.ends who job moves (.done (value, own))]) = 1 := by
    calc
      _ = created base resolve entry events + 1 := by
        rw [created_append, if_pos success]
      _ = 1 := by rw [none]
  have nobody (other : Who) :
      ¬ Making base resolve entry (before.put who (.idle own)) other := by
    intro makingAfter
    have makingBefore : Making base resolve entry before other := by
      refine making_of_put ?_ makingAfter
      intro job moves rest same
      cases same
    have same := claimed.single _ _ makingBefore making
    subst same
    obtain ⟨job, moves, rest, working, _⟩ := makingAfter
    rw [Scene.put_self] at working
    cases working
  constructor
  · exact claimed.resolves
  · exact Nat.le_of_eq counted
  · exact fun _ => nobody
  · exact fun other _ makingToo => (nobody other makingToo).elim
  · exact fun absent => ((claimed.absent absent).2 who making).elim

/-- The step in which a create opens its file first. -/
private theorem Claimed.taken
    (claimed : Claimed base resolve entry events before) {who : Who}
    {job : ManagerJob} {earlier : List (Move Posix.calls FileSystem)}
    {request : Request} {reply : Except Errno (Answer request)}
    {seen last : FileSystem} {rest : Effect (Response × PosixDiskManager)}
    (stay : NamesStay before.shared last)
    (creates : job.task.CreatesAt (base who) resolve entry)
    (opens : Opening request = true)
    (absent : before.shared.entry entry = none)
    (kept :
      (creation (base who)).guarantee job (seen, earlier) request reply
        (last,
          earlier ++ [⟨before.shared, request, reply, last⟩])) :
    Claimed base resolve entry
      (events ++
        [.calls who job earlier ⟨before.shared, request, reply, last⟩])
      (Scene.put ⟨last, before.activity⟩ who
        (.busy job (earlier ++ [⟨before.shared, request, reply, last⟩])
          rest)) := by
  obtain ⟨none, nobody⟩ := claimed.absent absent
  have counted :
      created base resolve entry
          (events ++
            [.calls who job earlier
              ⟨before.shared, request, reply, last⟩]) = 0 := by
    have unfinished :
        ¬ Created base resolve entry
            (.calls who job earlier
              ⟨before.shared, request, reply, last⟩) :=
      not_false
    rw [created_append, if_neg unfinished, none]
  have resolves : last.resolve = resolve :=
    stay.resolve.trans claimed.resolves
  have only (other : Who)
      (making :
        Making base resolve entry
          (Scene.put ⟨last, before.activity⟩ who
            (.busy job
              (earlier ++ [⟨before.shared, request, reply, last⟩]) rest))
          other) : other = who := by
    by_contra different
    obtain ⟨job, moves, rest, working, atEntry, opened⟩ := making
    rw [Scene.put_other _ _ _ different] at working
    exact nobody other ⟨job, moves, rest, working, atEntry, opened⟩
  have present : last.entry entry ≠ Option.none := by
    obtain ⟨task, own⟩ := job
    cases task with
    | create diskName =>
        have found := kept opens
        have atEntry : resolve ((base who).diskPath diskName) = entry :=
          creates
        simp only [FileSystem.lookup] at found
        rw [resolves, atEntry] at found
        exact found
    | _ => exact creates.elim
  constructor
  · exact resolves
  · rw [counted]
    exact Nat.zero_le 1
  · intro some
    rw [counted] at some
    exact absurd some (Nat.lt_irrefl 0)
  · intro first second making makingToo
    rw [only first making, only second makingToo]
  · exact fun gone => absurd gone present

private theorem Claimed.step
    (allowed : ∀ event, fine event →
      CreatesOnly event ∧ OpensNew base resolve entry event)
    (run :
      ((managers serve.transition base).machineWhile starts fine).Run
        events before)
    (claimed : Claimed base resolve entry events before)
    {event : ManagerEvent Who} (isFine : fine event)
    (stepped : (managers serve.transition base).Step before event after) :
    Claimed base resolve entry (events ++ [event]) after := by
  have creates : ∀ event, fine event → CreatesOnly event :=
    fun event isFine => (allowed event isFine).1
  have stay := namesStay_of_step creates run isFine stepped
  have ongoing := ongoing_creation creates run event.who
  cases stepped with
  | @begins who job resting =>
      refine claimed.of_fewer stay id ?_
      intro other making
      refine making_of_put ?_ making
      intro job moves rest same _ opened
      cases same
      cases opened
  | @crashes who job moves reason failed =>
      refine claimed.of_fewer stay id ?_
      intro other making
      refine making_of_put ?_ making
      intro job moves rest same
      cases same
  | @returns who job moves value own finished =>
      by_cases success :
          Created base resolve entry
            (.ends who job moves (.done (value, own)))
      · obtain ⟨seen, _, ended⟩ := ongoing.ends (.returns finished)
        exact claimed.won finished success ended
      · refine claimed.of_fewer stay success ?_
        intro other making
        refine making_of_put ?_ making
        intro job moves rest same
        cases same
  | @calls who job earlier request next reply last asked moved =>
      by_cases first :
          job.task.CreatesAt (base who) resolve entry ∧
            Opening request = true ∧ hasOpened earlier = false
      · obtain ⟨seen, _, kept⟩ := ongoing.calls isFine (.calls asked moved)
        exact claimed.taken stay first.1 first.2.1
          ((allowed _ isFine).2 first.1 first.2.1 first.2.2) kept
      · refine claimed.of_fewer stay id ?_
        intro other making
        refine making_of_put ?_ making
        intro job moves rest same creates opened
        cases same
        rw [hasOpened_append] at opened
        cases before : hasOpened earlier with
        | true => exact ⟨_, _, _, asked, creates, before⟩
        | false =>
            rw [before, Bool.false_or] at opened
            exact absurd ⟨creates, opened, before⟩ first

end Runs

/-! ## Two managers -/

def twoManagers : ManagerScene Bool :=
  ⟨FileSystem.empty id, fun _ => .idle PosixDiskManager.new⟩

def turns (who : Bool) (count : Nat) : List (Bool × Option Operation) :=
  List.replicate count (who, none)

end Lewsql
