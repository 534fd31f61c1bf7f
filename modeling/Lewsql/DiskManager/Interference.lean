import Lewsql.DiskManager.RacingDestroy

/-!
# What other managers do after a check

An operation relies on its last check of a path until it opens the file, and on
the file that it saw until it is done.  What the path names then depends on the
unlinks and creates of other managers in between.  As long as these spare the
operation, each call by path finds the file that the check saw.
-/

namespace Lewsql

open Interaction Posix FileSystem

/-- What the calls of others have made of a path. -/
inductive Fate where
  | kept
  | removed
  | made
  deriving DecidableEq, Repr

def Fate.after (fate : Fate) (path : String)
    (move : Move Posix.calls FileSystem) : Fate :=
  if unlinks path move then .removed
  else if makes path move then .made
  else fate

/-- What a call by path needs: an `open` needs the file to be there, and the
operations on contents need it to be the one that was seen. -/
def Needs (operation : Operation) (fate : String → Fate) : Request → Prop
  | .openFile path => fate path ≠ .removed ∧
      (operation.usesFile = true → fate path = .kept)
  | .stat path => operation.usesFile = true → fate path = .kept
  | .truncate path _ => operation.usesFile = true → fate path ≠ .made
  | .access _ => True
  | .close _ => True
  | .lseek _ _ => True
  | .write _ _ => True
  | .read _ _ => True
  | .fsync _ => True
  | .unlink _ => True

instance (operation : Operation) (fate : String → Fate) :
    DecidablePred (Needs operation fate)
  | .openFile path =>
      inferInstanceAs (Decidable (fate path ≠ .removed ∧
        (operation.usesFile = true → fate path = .kept)))
  | .stat path =>
      inferInstanceAs
        (Decidable (operation.usesFile = true → fate path = .kept))
  | .truncate path _ =>
      inferInstanceAs
        (Decidable (operation.usesFile = true → fate path ≠ .made))
  | .access _ => inferInstanceAs (Decidable True)
  | .close _ => inferInstanceAs (Decidable True)
  | .lseek _ _ => inferInstanceAs (Decidable True)
  | .write _ _ => inferInstanceAs (Decidable True)
  | .read _ _ => inferInstanceAs (Decidable True)
  | .fsync _ => inferInstanceAs (Decidable True)
  | .unlink _ => inferInstanceAs (Decidable True)

section Statements

variable {Who : Type} [DecidableEq Who]

/-- The fate of a path after one more step; a check of the manager itself starts
anew. -/
def Fate.next (who : Who) (path : String) (fate : Fate) :
    ManagerEvent Who → Fate
  | .calls other _ _ move =>
      if other = who then
        match move.request with
        | .access _ => .kept
        | _ => fate
      else fate.after path move
  | .begins _ _ => fate
  | .ends _ _ _ _ => fate

/-- What the other managers have made of a path since the last check of one. -/
def fateOf (events : List (ManagerEvent Who)) (who : Who)
    (path : String) : Fate :=
  events.foldl (Fate.next who path) .kept

/-- Since its last check the other managers have left an operation what its next
call by path needs, unless it is a `create`. -/
def LeftAlone (earlier : List (ManagerEvent Who)) : ManagerEvent Who → Prop
  | .calls who job _ move =>
      job.task.creates = false →
        Needs job.task (fateOf earlier who) move.request
  | .begins _ _ => True
  | .ends _ _ _ _ => True

instance (earlier : List (ManagerEvent Who)) :
    DecidablePred (LeftAlone earlier)
  | .calls who job _ move =>
      inferInstanceAs (Decidable (job.task.creates = false →
        Needs job.task (fateOf earlier who) move.request))
  | .begins _ _ => inferInstanceAs (Decidable True)
  | .ends _ _ _ _ => inferInstanceAs (Decidable True)

end Statements

/-! ## Calls by the path that was checked -/

def recheck (checked : Option String) :
    Move Posix.calls FileSystem → Option String
  | ⟨_, .access path, .ok _, _⟩ => some path
  | ⟨_, .access _, .error _, _⟩ => none
  | ⟨_, .unlink _, .ok _, _⟩ => none
  | _ => checked

/-- The path at which the last check found a file that was not unlinked since by
the operation itself. -/
def checkedPath (moves : List (Move Posix.calls FileSystem)) :
    Option String :=
  moves.foldl recheck none

theorem checkedPath_append {moves : List (Move Posix.calls FileSystem)}
    {move : Move Posix.calls FileSystem} :
    checkedPath (moves ++ [move]) = recheck (checkedPath moves) move := by
  simp only [checkedPath]
  rw [List.foldl_append]
  rfl

def ByCheckedPath (moves : List (Move Posix.calls FileSystem)) :
    Request → Prop
  | .openFile path => checkedPath moves = some path
  | .stat path => checkedPath moves = some path
  | .truncate path _ => checkedPath moves = some path
  | _ => True

def checksFirst : ManagerContract where
  rely _ _ _ _ := True
  guarantee job before request _ _ :=
    job.task.creates = false → ByCheckedPath before.2 request
  post _ _ _ := True

section Checks

variable {Who : Type} {base : Who → DiskManager}
variable {fine : ManagerEvent Who → Prop}

variable (base fine) in
private def checkPhases (who : Who) (job : ManagerJob) :
    Phases ((managers mayFail base).around fine checksFirst.rely who job)
      (checksFirst.guarantee job) job.task where
  idle _ := True
  checked exist path state :=
    exist = true → checkedPath state.2 = some path
  holding path _ state :=
    job.task.creates = false → checkedPath state.2 = some path
  removed _ := True
  access := by
    intro path before reply after _ moved
    rcases moved with ⟨middle, _, _, _, recorded⟩
    refine ⟨fun _ => True.intro, True.intro, ?_⟩
    rcases reply with (_ | _) | ⟨⟩
    · exact fun impossible => by cases impossible
    · exact True.intro
    · intro _
      rw [recorded, checkedPath_append]
      rfl
  openFile := by
    intro path shouldExist before reply after makes _ checked moved
    rcases moved with ⟨middle, _, _, _, recorded⟩
    have seen (others : job.task.creates = false) :
        checkedPath before.2 = some path := by
      cases shouldExist with
      | true => exact checked rfl
      | false =>
          obtain ⟨diskName, same⟩ := makes rfl
          rw [same] at others
          cases others
    refine ⟨seen, ?_⟩
    cases reply with
    | error number => exact True.intro
    | ok fd =>
        intro others
        rw [recorded, checkedPath_append]
        exact seen others
  transfer := by
    intro disk before request reply after holding transfers moved
    rcases moved with ⟨middle, _, _, _, recorded⟩
    constructor
    · intro others
      cases request with
      | stat path => exact transfers ▸ holding others
      | truncate path length => exact transfers ▸ holding others
      | openFile path => exact transfers.elim
      | _ => exact True.intro
    · intro others
      rw [recorded, checkedPath_append]
      cases request with
      | access path => exact transfers.elim
      | unlink path => exact transfers.elim
      | _ => exact holding others
  close := by
    intro path fd before reply after _ moved
    exact ⟨fun _ => True.intro, True.intro⟩
  unlink := by
    intro diskId path fd before reply after _ holding moved
    rcases moved with ⟨middle, _, _, _, recorded⟩
    refine ⟨fun _ => True.intro, ?_⟩
    cases reply with
    | ok answer => exact True.intro
    | error number =>
        intro others
        rw [recorded, checkedPath_append]
        exact holding others

/-- In every run the calls by path are about the path that was checked. -/
theorem byCheckedPath_of_run [DecidableEq Who]
    {starts : FileSystem → Prop} {events : List (ManagerEvent Who)}
    {scene after : ManagerScene Who}
    (run :
      ((managers mayFail base).machineWhile starts fine).Run events scene)
    {who : Who} {job : ManagerJob}
    {earlier : List (Move Posix.calls FileSystem)}
    {move : Move Posix.calls FileSystem}
    (allowed : fine (.calls who job earlier move))
    (stepped :
      (managers mayFail base).Step scene (.calls who job earlier move)
        after)
    (others : job.task.creates = false) :
    ByCheckedPath earlier move.request := by
  have ongoing :
      (managers mayFail base).Ongoing fine checksFirst who scene := by
    refine Parties.ongoing_of_run (fun _ _ _ => True.intro) ?_
      (fun _ _ _ _ _ _ _ _ _ _ _ _ _ _ => True.intro) run
    intro job state _
    have idle : (checkPhases base fine who job).idle (state, []) :=
      True.intro
    exact Program.wp_consequence (Phases.wp_perform _ idle)
      (fun _ _ _ => True.intro)
  obtain ⟨seen, _, checked⟩ := ongoing.calls allowed stepped
  exact checked others

end Checks

/-! ## What a fate tells -/

/-- What the path names, with what the check saw. -/
def Fate.Tells (now seen : Option Nat) : Fate → Prop
  | .kept => now = seen ∧ now ≠ none
  | .removed => now = none
  | .made => now ≠ none

section Fates

variable {fate : Fate} {path : String} {seen : Option Nat}
variable {before last : FileSystem} {request : Request}
variable {reply : Except Errno (Answer request)}

/-- The fate of a path follows the calls of the others. -/
theorem Fate.Tells.step (tells : fate.Tells (before.lookup path) seen)
    (moved : mayFail before request reply last) :
    (fate.after path ⟨before, request, reply, last⟩).Tells
      (last.lookup path) seen := by
  rw [mayFail_lookup moved path, Fate.after]
  cases unlinks path ⟨before, request, reply, last⟩ with
  | true => exact rfl
  | false =>
      cases makes path ⟨before, request, reply, last⟩ with
      | true => exact fun impossible => by cases impossible
      | false => exact tells

theorem Fate.Tells.ne_none (tells : fate.Tells (before.lookup path) seen)
    (there : fate ≠ .removed) : before.lookup path ≠ none := by
  cases fate with
  | kept => exact tells.2
  | removed => exact absurd rfl there
  | made => exact tells

theorem mayFail_access_ok
    (moved : mayFail before (.access path) (.ok ()) last) :
    before.lookup path ≠ none := by
  obtain ⟨fault, served⟩ := moved
  intro absent
  cases fault <;> simp only [serveWith, serve, absent] at served <;>
    cases served

/-- A call of the operation itself, other than a check, leaves the path that was
checked. -/
theorem lookup_checked {operation : Operation}
    {earlier : List (Move Posix.calls FileSystem)} {fate : String → Fate}
    (byPath : ByCheckedPath earlier request)
    (needs : Needs operation fate request)
    (tells : ∀ path, checkedPath earlier = some path →
      (fate path).Tells (before.lookup path) (lastSeen earlier))
    (moved : mayFail before request reply last)
    (checked :
      checkedPath (earlier ++ [⟨before, request, reply, last⟩]) =
        some path) :
    last.lookup path = before.lookup path := by
  rw [checkedPath_append] at checked
  rw [mayFail_lookup moved path]
  cases request with
  | openFile other =>
      have same := byPath.symm.trans checked
      cases same
      have there := (tells _ byPath).ne_none needs.1
      obtain ⟨inode, found⟩ := Option.ne_none_iff_exists'.mp there
      cases reply with
      | error number => rfl
      | ok fd => simp [unlinks, makes, found]
  | unlink other =>
      cases reply with
      | error number => rfl
      | ok answer => cases checked
  | _ => rfl

end Fates

/-! ## Runs -/

section Runs

variable {Who : Type} [DecidableEq Who] {base : Who → DiskManager}
variable {starts : FileSystem → Prop}
variable {events : List (ManagerEvent Who)}
variable {before after scene : ManagerScene Who}

private theorem fateOf_append {who : Who} {path : String}
    {event : ManagerEvent Who} :
    fateOf (events ++ [event]) who path =
      (fateOf events who path).next who path event := by
  simp only [fateOf]
  rw [List.foldl_append]
  rfl

private def Known (events : List (ManagerEvent Who))
    (scene : ManagerScene Who) : Prop :=
  ∀ who job moves rest path, scene.activity who = .busy job moves rest →
    job.task.creates = false → checkedPath moves = some path →
      (fateOf events who path).Tells (scene.shared.lookup path)
        (lastSeen moves)

/-- A step of a party that is given nothing checked. -/
private theorem Known.put (known : Known events before) {who : Who}
    {event : ManagerEvent Who}
    {activity : Activity Posix.calls Crash Operation PosixDiskManager
      Response FileSystem}
    (noCall : ∀ other path fate,
      Fate.next other path fate event = fate)
    (nothing : ∀ job moves rest,
      activity = .busy job moves rest → checkedPath moves = none) :
    Known (events ++ [event]) (before.put who activity) := by
  intro other job moves rest path working others checked
  rw [fateOf_append, noCall]
  by_cases same : other = who
  · subst same
    rw [Scene.put_self] at working
    rw [nothing _ _ _ working] at checked
    cases checked
  · rw [Scene.put_other _ _ _ same] at working
    exact known _ _ _ _ _ working others checked

/-- A call of the party that relies on the path. -/
private theorem tells_own {who : Who} {job : ManagerJob} {path : String}
    {earlier : List (Move Posix.calls FileSystem)} {request : Request}
    {reply : Except Errno (Answer request)} {fs last : FileSystem}
    (byPath : ByCheckedPath earlier request)
    (needs : Needs job.task (fateOf events who) request)
    (tells : ∀ path, checkedPath earlier = some path →
      (fateOf events who path).Tells (fs.lookup path) (lastSeen earlier))
    (moved : mayFail fs request reply last)
    (checked :
      checkedPath (earlier ++ [⟨fs, request, reply, last⟩]) =
        some path) :
    ((fateOf events who path).next who path
        (.calls who job earlier ⟨fs, request, reply, last⟩)).Tells
      (last.lookup path)
      (lastSeen (earlier ++ [⟨fs, request, reply, last⟩])) := by
  have kept := lookup_checked byPath needs tells moved checked
  rw [lastSeen_append, kept]
  rw [checkedPath_append] at checked
  simp only [Fate.next, if_true]
  cases request with
  | access other =>
      cases reply with
      | error number => cases checked
      | ok answer =>
          cases checked
          exact ⟨rfl, mayFail_access_ok moved⟩
  | unlink other =>
      cases reply with
      | error number => exact tells _ checked
      | ok answer => cases checked
  | _ => exact tells _ checked

private theorem Known.step
    (run :
      ((managers mayFail base).machineWhile starts fun _ => True).Run
        events before)
    (known : Known events before) {event : ManagerEvent Who}
    (spared : LeftAlone events event)
    (stepped : (managers mayFail base).Step before event after) :
    Known (events ++ [event]) after := by
  cases stepped with
  | begins resting =>
      refine known.put (fun _ _ _ => rfl) ?_
      intro job moves rest same
      cases same
      rfl
  | returns finished =>
      refine known.put (fun _ _ _ => rfl) ?_
      intro job moves rest same
      cases same
  | crashes failed =>
      refine known.put (fun _ _ _ => rfl) ?_
      intro job moves rest same
      cases same
  | @calls who job earlier request next reply last asked moved =>
      intro other task moves rest path working others checked
      rw [fateOf_append]
      by_cases same : other = who
      · subst same
        rw [Scene.put_self] at working
        cases working
        have byPath :=
          byCheckedPath_of_run run True.intro (.calls asked moved) others
        exact tells_own byPath (spared others)
          (fun path checked => known _ _ _ _ _ asked others checked)
          moved checked
      · rw [Scene.put_other _ _ _ same] at working
        simp only [Fate.next]
        rw [if_neg (Ne.symm same)]
        exact (known _ _ _ _ _ working others checked).step moved

private theorem known_of_run
    (run :
      ((managers mayFail base).machineWhile starts fun _ => True).Run
        events scene)
    (spared : Along LeftAlone events) : Known events scene := by
  refine Machine.Run.invariant
    (fun events scene => Along LeftAlone events → Known events scene)
    ?_ ?_ run spared
  · intro scene started _ who job moves rest path working
    obtain ⟨own, resting⟩ := started.2 who
    rw [resting] at working
    cases working
  · intro events before event after earlier known stepped spared
    obtain ⟨sparedBefore, sparedNow⟩ := along_append.mp spared
    exact (known sparedBefore).step earlier sparedNow stepped.2

/-- A call that the others leave alone finds what was seen. -/
private theorem findsSeen_of_known
    (run :
      ((managers mayFail base).machineWhile starts fun _ => True).Run
        events before)
    (known : Known events before) {event : ManagerEvent Who}
    (spared : LeftAlone events event)
    (stepped : (managers mayFail base).Step before event after) :
    FindsSeen event := by
  cases stepped with
  | begins resting => exact True.intro
  | returns finished => exact True.intro
  | crashes failed => exact True.intro
  | @calls who job earlier request next reply last asked moved =>
      intro others
      have byPath :=
        byCheckedPath_of_run run True.intro (.calls asked moved) others
      have needs := spared others
      have tells (path : String)
          (checked : checkedPath earlier = some path) :=
        known _ _ _ _ path asked others checked
      cases request with
      | openFile path =>
          have told := tells path byPath
          refine ⟨told.ne_none needs.1, fun uses => ?_⟩
          rw [needs.2 uses] at told
          exact told.1
      | stat path =>
          intro uses
          have told := tells path byPath
          rw [needs uses] at told
          exact told.1
      | truncate path length =>
          intro uses
          have told := tells path byPath
          have notMade := needs uses
          cases fate : fateOf events who path with
          | kept =>
              rw [fate] at told
              exact Or.inr told.1
          | removed =>
              rw [fate] at told
              exact Or.inl told
          | made => exact absurd fate notMade
      | _ => exact True.intro

/-- A run in which operations are left alone is one in which they find what they
saw. -/
private theorem run_findsSeen
    (run :
      ((managers mayFail base).machineWhile starts fun _ => True).Run
        events scene)
    (spared : Along LeftAlone events) :
    ((managers mayFail base).machineWhile starts FindsSeen).Run events
      scene := by
  refine Machine.Run.invariant
    (fun events scene => Along LeftAlone events →
      ((managers mayFail base).machineWhile starts FindsSeen).Run events
        scene)
    ?_ ?_ run spared
  · exact fun _ started _ => .start started
  intro events before event after earlier found stepped spared
  obtain ⟨sparedBefore, sparedNow⟩ := along_append.mp spared
  have known := known_of_run earlier sparedBefore
  have finds := findsSeen_of_known earlier known sparedNow stepped.2
  exact (found sparedBefore).step ⟨finds, stepped.2⟩

/-- While the other managers leave alone what an operation other than `create`
has checked, only creates bring names into existence, and every load, read or
write works on the file that it saw or reports that there is no disk. -/
theorem only_creates_make (base : Who → DiskManager)
    (run : ((managers mayFail base).machine starts).Run events scene)
    (spared : Along LeftAlone events) : OnlyCreatesMake events :=
  onlyCreatesMake_of_findsSeen base
    (run_findsSeen (run.whenever fun _ _ => True.intro) spared)

end Runs

/-! ## A load and a destroy -/

/-- The first manager makes a disk, the second begins to load it, the first
destroys it, and the second goes on. -/
private def destroyDuringLoad (before after : Nat) :
    List (Bool × Option Operation) :=
  (false, some (.create "a")) :: turns false 9 ++
    (true, some (.load "a")) :: turns true before ++
    (false, some (.destroy 0)) :: turns false 5 ++ turns true after

private theorem run_destroyDuringLoad (before after : Nat) :
    ((managers mayFail fun _ : Bool => smallBase).machine
        fun _ => True).Run
      ((managers mayFail fun _ : Bool => smallBase).play serve
        (destroyDuringLoad before after) twoManagers).1
      ((managers mayFail fun _ : Bool => smallBase).play serve
        (destroyDuringLoad before after) twoManagers).2 := by
  have begun :
      ((managers mayFail fun _ : Bool => smallBase).machineWhile
        (fun _ => True) fun _ => True).Run [] twoManagers :=
    .start ⟨True.intro, fun _ => ⟨_, rfl⟩⟩
  have served (request : Request) (fs : FileSystem) :
      mayFail fs request (serve request fs).1 (serve request fs).2 :=
    ⟨.none, rfl⟩
  have played :=
    Parties.run_append_play served (destroyDuringLoad before after)
      (fun _ _ => True.intro) begun
  exact played.of_whenever

/-- A load that has opened the file works on it although it is destroyed. -/
theorem only_creates_make_opened :
    ∃ events scene,
      ((managers mayFail fun _ : Bool => smallBase).machine
        fun _ => True).Run events scene ∧
      Along LeftAlone events ∧ OnlyCreatesMake events := by
  have run := run_destroyDuringLoad 3 2
  have spared :
      Along LeftAlone
        ((managers mayFail fun _ : Bool => smallBase).play serve
          (destroyDuringLoad 3 2) twoManagers).1 := by
    decide
  exact ⟨_, _, run, spared, only_creates_make _ run spared⟩

/-- A load that has only checked makes the file again after it is
destroyed. -/
theorem load_makes_file :
    ∃ events scene,
      ((managers mayFail fun _ : Bool => smallBase).machine
        fun _ => True).Run events scene ∧
      ¬ OnlyCreatesMake events := by
  have run := run_destroyDuringLoad 2 3
  refine ⟨_, _, run, fun only => ?_⟩
  have nothing := fun event member => (only event member).1 "d/a.disk"
  revert nothing
  decide

end Lewsql
