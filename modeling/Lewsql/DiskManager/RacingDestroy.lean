import Lewsql.DiskManager.ExclusiveCreation

/-!
# Operations that race with a destroy

Every operation on a disk checks for the file with `access` and then opens it
with `O_CREAT`, also where the disk should exist.  While each call by path still
finds the file of the last check, only creates make files, and a load, read or
write works on that file to its end or reports that there is none.  When a call
still finds it is the subject of `Interference`.
-/

namespace Lewsql

open Interaction Posix FileSystem

def Operation.usesFile : Operation → Bool
  | .load _ => true
  | .write _ _ _ => true
  | .read _ _ _ => true
  | _ => false

/-- The file that the last check of an operation saw. -/
def lastSeen (moves : List (Move Posix.calls FileSystem)) : Option Nat :=
  moves.foldl
    (fun seen move =>
      match move.request with
      | .access path => move.before.lookup path
      | _ => seen)
    none

/-- A call by path finds the file that was last seen.  A `truncate` may find
none, and then does nothing. -/
def StillFinds (operation : Operation)
    (earlier : List (Move Posix.calls FileSystem)) (fs : FileSystem) :
    Request → Prop
  | .openFile path => fs.lookup path ≠ none ∧
      (operation.usesFile = true → fs.lookup path = lastSeen earlier)
  | .stat path =>
      operation.usesFile = true → fs.lookup path = lastSeen earlier
  | .truncate path _ =>
      operation.usesFile = true →
        fs.lookup path = none ∨ fs.lookup path = lastSeen earlier
  | .access _ => True
  | .close _ => True
  | .lseek _ _ => True
  | .write _ _ => True
  | .read _ _ => True
  | .fsync _ => True
  | .unlink _ => True

instance (operation : Operation)
    (earlier : List (Move Posix.calls FileSystem)) (fs : FileSystem) :
    DecidablePred (StillFinds operation earlier fs)
  | .openFile path =>
      inferInstanceAs (Decidable (fs.lookup path ≠ none ∧
        (operation.usesFile = true → fs.lookup path = lastSeen earlier)))
  | .stat path =>
      inferInstanceAs (Decidable
        (operation.usesFile = true → fs.lookup path = lastSeen earlier))
  | .truncate path _ =>
      inferInstanceAs (Decidable (operation.usesFile = true →
        fs.lookup path = none ∨ fs.lookup path = lastSeen earlier))
  | .access _ => inferInstanceAs (Decidable True)
  | .close _ => inferInstanceAs (Decidable True)
  | .lseek _ _ => inferInstanceAs (Decidable True)
  | .write _ _ => inferInstanceAs (Decidable True)
  | .read _ _ => inferInstanceAs (Decidable True)
  | .fsync _ => inferInstanceAs (Decidable True)
  | .unlink _ => inferInstanceAs (Decidable True)

/-- A call that acts on one file, if on any, and leaves all others and the names
alone. -/
structure WorksOn (inode : Nat) (move : Move Posix.calls FileSystem) :
    Prop where
  acts : ActsOn inode move.before move.request
  others : ∀ other, other ≠ inode →
    move.after.file other = move.before.file other
  names : move.after.entry = move.before.entry

def WorksOnSeen (moves : List (Move Posix.calls FileSystem)) : Prop :=
  ∃ inode, lastSeen moves = some inode ∧
    ∀ move ∈ moves, WorksOn inode move

def Checking : Request → Prop
  | .access _ => True
  | _ => False

/-- The call failed for another reason than a missing file. -/
def Fails (move : Move Posix.calls FileSystem) : Prop :=
  move.reply = .error .other

def Response.error? : Response → Option DiskManagerErrorCode
  | .diskId (.error failure) => some failure
  | .void (.error failure) => some failure
  | .buffer (.error failure) _ => some failure
  | .cursor (.error failure) => some failure
  | .size (.error failure) => some failure
  | .flag (.error failure) => some failure
  | .name (.error failure) => some failure
  | _ => none

/-- Either everything was done on the file that was seen, or no file was touched
and an error reported: that there is no disk, unless a check failed. -/
def Sound {Value : Type} (error? : Value → Option DiskManagerErrorCode)
    (outcome : Outcome Crash Value)
    (moves : List (Move Posix.calls FileSystem)) : Prop :=
  WorksOnSeen moves ∨
    (∀ move ∈ moves, Checking move.request) ∧
      match outcome with
      | .done value => ∃ failure, error? value = some failure ∧
          (failure = .diskNotFound ∨ ∃ move ∈ moves, Fails move)
      | .crashed _ => ∃ move ∈ moves, Fails move

section Statements

variable {Who : Type}

/-- Calls by path of all operations but `create` find the file that was seen. -/
def FindsSeen : ManagerEvent Who → Prop
  | .calls _ job earlier move =>
      job.task.creates = false →
        StillFinds job.task earlier move.before move.request
  | .begins _ _ => True
  | .ends _ _ _ _ => True

instance : DecidablePred (@FindsSeen Who)
  | .calls _ job earlier move =>
      inferInstanceAs (Decidable (job.task.creates = false →
        StillFinds job.task earlier move.before move.request))
  | .begins _ _ => inferInstanceAs (Decidable True)
  | .ends _ _ _ _ => inferInstanceAs (Decidable True)

/-- A call of another operation than `create` does not bring a name into
existence. -/
def MakesNothing (name : String) : ManagerEvent Who → Prop
  | .calls _ job _ move =>
      job.task.creates = false → move.before.entry name = none →
        move.after.entry name = none
  | .begins _ _ => True
  | .ends _ _ _ _ => True

instance (name : String) : DecidablePred (@MakesNothing Who name)
  | .calls _ job _ move =>
      inferInstanceAs (Decidable
        (job.task.creates = false → move.before.entry name = none →
          move.after.entry name = none))
  | .begins _ _ => inferInstanceAs (Decidable True)
  | .ends _ _ _ _ => inferInstanceAs (Decidable True)

def EndsSound : ManagerEvent Who → Prop
  | .ends _ job moves outcome =>
      job.task.usesFile = true →
        Sound (fun returned => returned.1.error?) outcome moves
  | .begins _ _ => True
  | .calls _ _ _ _ => True

/-- Only creates bring names into existence, and loads, reads and writes end
soundly. -/
def OnlyCreatesMake (events : List (ManagerEvent Who)) : Prop :=
  ∀ event ∈ events,
    (∀ name, MakesNothing name event) ∧ EndsSound event

end Statements

/-! ## The calls of one operation among others -/

section Moves

variable {moves : List (Move Posix.calls FileSystem)}
variable {move : Move Posix.calls FileSystem} {inode : Nat}

theorem lastSeen_append :
    lastSeen (moves ++ [move]) =
      match move.request with
      | .access path => move.before.lookup path
      | _ => lastSeen moves := by
  simp only [lastSeen]
  rw [List.foldl_append]
  rfl

theorem lastSeen_append_of_not_checking
    (other : ¬ Checking move.request) :
    lastSeen (moves ++ [move]) = lastSeen moves := by
  rw [lastSeen_append]
  cases asked : move.request with
  | access path =>
      rw [asked] at other
      exact absurd True.intro other
  | _ => rfl

end Moves

def racing : ManagerContract where
  rely _ moves before after := ∀ descriptor,
    ledger moves = some [descriptor] →
      after.descriptors.lookup descriptor =
        before.descriptors.lookup descriptor
  guarantee _ _ _ _ _ := True
  post job outcome state :=
    job.task.usesFile = true →
      Sound (fun returned => returned.1.error?) outcome state.2

namespace PosixDiskManager

variable {Who : Type} {base : Who → DiskManager} {who : Who}
variable {job : ManagerJob} {path : String} {inode fd : Nat}
variable {before after : Recorded}

private abbrev among (base : Who → DiskManager) (who : Who)
    (job : ManagerJob) : Transition Posix.calls Recorded :=
  (managers mayFail base).around FindsSeen racing.rely who job

private structure Untouched (state : Recorded) : Prop where
  settled : ledger state.2 = some []
  checks : ∀ move ∈ state.2, Checking move.request
  works : ∀ inode, ∀ move ∈ state.2, WorksOn inode move

/-- The file that was seen is open, and nothing else was touched. -/
private structure Working (inode fd : Nat) (state : Recorded) : Prop where
  holds : ledger state.2 = some [fd]
  seen : lastSeen state.2 = some inode
  works : ∀ move ∈ state.2, WorksOn inode move
  isOpen : ∃ offset,
    state.1.descriptors.lookup fd = some ⟨inode, offset⟩

private theorem Working.worksOnSeen {state : Recorded}
    (working : Working inode fd state) : WorksOnSeen state.2 :=
  ⟨inode, working.seen, working.works⟩

/-- A call about the file that was seen adds to the work on it. -/
private theorem worksOn_append {request : Request}
    {reply : Except Errno (Answer request)} {middle last : FileSystem}
    {moves : List (Move Posix.calls FileSystem)}
    (works : ∀ move ∈ moves, WorksOn inode move)
    (acts : ActsOn inode middle request)
    (moved : mayFail middle request reply last) :
    ∀ move ∈ moves ++ [⟨middle, request, reply, last⟩],
      WorksOn inode move := by
  rw [List.forall_mem_append, List.forall_mem_singleton]
  have kept := mayFail_actsOn acts moved
  exact ⟨works, acts, kept.1, kept.2⟩

private theorem Untouched.access {reply : Except Errno Unit}
    (untouched : Untouched before)
    (moved : among base who job before (.access path) reply after) :
    Untouched after := by
  obtain ⟨middle, _, served, _, recorded⟩ := moved
  constructor
  · rw [recorded, ledger_append untouched.settled]
    rfl
  · rw [recorded, List.forall_mem_append, List.forall_mem_singleton]
    exact ⟨untouched.checks, True.intro⟩
  · intro inode
    rw [recorded]
    exact worksOn_append (untouched.works inode) True.intro served

/-- What a check tells. -/
private theorem access_answers {reply : Except Errno Unit}
    (moved : among base who job before (.access path) reply after) :
    match existenceOf reply with
    | .value exist =>
        exist = true → ∃ inode, lastSeen after.2 = some inode
    | .error _ => ∃ move ∈ after.2, Fails move := by
  obtain ⟨middle, _, ⟨fault, served⟩, _, recorded⟩ := moved
  have last :
      (⟨middle, .access path, reply, after.1⟩ :
        Move Posix.calls FileSystem) ∈ after.2 := by
    rw [recorded]
    exact List.mem_append_right _ List.mem_cons_self
  have seen : lastSeen after.2 = middle.lookup path := by
    rw [recorded, lastSeen_append]
  rcases reply with (_ | _) | ⟨⟩
  · exact fun impossible => by cases impossible
  · exact ⟨_, last, rfl⟩
  · intro _
    rw [seen]
    cases found : middle.lookup path with
    | some inode => exact ⟨inode, rfl⟩
    | none =>
        cases fault <;> simp only [serveWith, serve, found] at served <;>
          cases served

private theorem fails_stays {request : Request}
    {reply : Except Errno (Answer request)}
    (moved : among base who job before request reply after)
    (failed : ∃ move ∈ before.2, Fails move) :
    ∃ move ∈ after.2, Fails move := by
  obtain ⟨middle, _, _, _, recorded⟩ := moved
  obtain ⟨move, member, fails⟩ := failed
  rw [recorded]
  exact ⟨move, List.mem_append_left _ member, fails⟩

/-- Opening the file that was seen. -/
private theorem Untouched.openFile {reply : Except Errno Nat}
    (uses : job.task.usesFile = true) (others : job.task.creates = false)
    (untouched : Untouched before)
    (moved : among base who job before (.openFile path) reply after) :
    match reply with
    | .ok fd => ∃ inode, Working inode fd after
    | .error _ => WorksOnSeen after.2 := by
  obtain ⟨middle, _, served, finds, recorded⟩ := moved
  have stillThere :
      middle.lookup path ≠ none ∧
        (job.task.usesFile = true →
          middle.lookup path = lastSeen before.2) := finds others
  obtain ⟨inode, found⟩ := Option.ne_none_iff_exists'.mp stillThere.1
  have seen : lastSeen after.2 = some inode := by
    rw [recorded, lastSeen_append, ← found]
    exact (stillThere.2 uses).symm
  have works : ∀ move ∈ after.2, WorksOn inode move := by
    rw [recorded]
    exact worksOn_append (untouched.works inode) found served
  rcases mayFail_openFile found served with ⟨number, rfl, _⟩ | ⟨rfl, opened⟩
  · exact ⟨inode, seen, works⟩
  · refine ⟨inode, ?_, seen, works, 0, ?_⟩
    · rw [recorded, ledger_append untouched.settled]
      rfl
    · rw [opened]
      exact descriptors_setDescriptor _ _ _

/-- A call of the open disk. -/
private theorem Working.transfer {disk : PosixDisk} {request : Request}
    {reply : Except Errno (Answer request)}
    (uses : job.task.usesFile = true) (others : job.task.creates = false)
    (working : Working inode disk.fd before)
    (transfers : disk.Transfers request)
    (moved : among base who job before request reply after) :
    Working inode disk.fd after := by
  obtain ⟨middle, relied, served, finds, recorded⟩ := moved
  obtain ⟨offset, isOpen⟩ := working.isOpen
  have open' :
      middle.descriptors.lookup disk.fd = some ⟨inode, offset⟩ :=
    (relied _ working.holds).trans isOpen
  have acts : ActsOn inode middle request := by
    cases request with
    | stat path => exact (finds others uses).trans working.seen
    | truncate path length =>
        rcases finds others uses with absent | same
        · exact Or.inl absent
        · exact Or.inr (same.trans working.seen)
    | lseek other position => exact transfers ▸ ⟨offset, open'⟩
    | write other bytes => exact transfers ▸ ⟨offset, open'⟩
    | read other count => exact transfers ▸ ⟨offset, open'⟩
    | fsync other => exact transfers ▸ ⟨offset, open'⟩
    | access path => exact transfers.elim
    | openFile path => exact transfers.elim
    | close other => exact transfers.elim
    | unlink path => exact transfers.elim
  have notClose : request ≠ .close disk.fd := by
    intro equal
    rcases equal with rfl
    exact transfers
  have notCheck : ¬ Checking request := by
    cases request <;> first | exact id | exact transfers.elim
  constructor
  · rw [recorded, ledger_append working.holds]
    cases request <;> first | rfl | exact transfers.elim
  · rw [recorded, lastSeen_append_of_not_checking notCheck]
    exact working.seen
  · rw [recorded]
    exact worksOn_append working.works acts served
  · exact mayFail_stays served open' notClose

private theorem Working.close {reply : Except Errno Unit}
    (working : Working inode fd before)
    (moved : among base who job before (.close fd) reply after) :
    WorksOnSeen after.2 := by
  obtain ⟨middle, relied, served, _, recorded⟩ := moved
  obtain ⟨offset, isOpen⟩ := working.isOpen
  refine ⟨inode, ?_, ?_⟩
  · rw [recorded, lastSeen_append_of_not_checking id]
    exact working.seen
  · rw [recorded]
    exact worksOn_append working.works
      ⟨offset, (relied _ working.holds).trans isOpen⟩ served

/-- How an operation ends whose disk could not be opened. -/
private def Refused (failure : DiskManagerErrorCode)
    (state : Recorded) : Prop :=
  WorksOnSeen state.2 ∨
    (∀ move ∈ state.2, Checking move.request) ∧
      (failure = .diskNotFound ∨ ∃ move ∈ state.2, Fails move)

private def Broken (state : Recorded) : Prop :=
  (∀ move ∈ state.2, Checking move.request) ∧
    ∃ move ∈ state.2, Fails move

private theorem opens_racing {state : Recorded}
    (uses : job.task.usesFile = true) (others : job.task.creates = false)
    (untouched : Untouched state) :
    Opens (among base who job) Transition.any (base who) path true
      (fun fd after => ∃ inode, Working inode fd after) Refused
      (fun _ => Broken) state := by
  simp only [Opens]
  rw [PosixDisk.init_calls]
  intro first middle movedFirst
  refine ⟨True.intro, ?_⟩
  intro second last movedSecond
  refine ⟨True.intro, ?_⟩
  have stillUntouched := untouched.access movedFirst
  have unchanged := stillUntouched.access movedSecond
  have answered := access_answers movedFirst
  have answeredAgain := access_answers movedSecond
  dsimp only
  cases found : existenceOf first with
  | error failure =>
      rw [found] at answered
      have failed := fails_stays movedSecond answered
      cases foundAgain : existenceOf second with
      | error failureAgain =>
          have refused : Refused failureAgain last :=
            Or.inr ⟨unchanged.checks, Or.inr failed⟩
          exact refused
      | value exist =>
          have broken : Broken last := ⟨unchanged.checks, failed⟩
          exact broken
  | value found =>
      cases foundAgain : existenceOf second with
      | error failure =>
          rw [foundAgain] at answeredAgain
          have broken : Broken last := ⟨unchanged.checks, answeredAgain⟩
          exact broken
      | value exist =>
          cases exist with
          | false =>
              have refused : Refused .diskNotFound last :=
                Or.inr ⟨unchanged.checks, Or.inl rfl⟩
              exact refused
          | true =>
              rw [PosixDisk.afterChecks, if_pos rfl]
              intro reply after moved
              have opened := unchanged.openFile uses others moved
              refine ⟨True.intro, ?_⟩
              cases reply with
              | error number =>
                  have refused : Refused .createDiskError after :=
                    Or.inl opened
                  exact refused
              | ok fd => exact ⟨fd, rfl, opened⟩

/-- What a member function promises, with the error of its value. -/
private def Ends {Value : Type}
    (error? : Value → Option DiskManagerErrorCode)
    (outcome : Outcome Crash Value) (state : Recorded) : Prop :=
  Sound error? outcome state.2

private theorem Refused.ends {Value : Type} {state : Recorded}
    {error? : Value → Option DiskManagerErrorCode} {value : Value}
    {failure : DiskManagerErrorCode} (refused : Refused failure state)
    (reported : error? value = some failure) :
    Ends error? (.done value) state := by
  rcases refused with works | ⟨checks, why⟩
  · exact Or.inl works
  · exact Or.inr ⟨checks, failure, reported, why⟩

private theorem Broken.ends {Value : Type} {state : Recorded}
    {error? : Value → Option DiskManagerErrorCode} {reason : Crash}
    (broken : Broken state) : Ends error? (.crashed reason) state :=
  Or.inr broken

private theorem load_racing {self : PosixDiskManager}
    {diskName : DiskName} {state : Recorded}
    (uses : job.task.usesFile = true) (others : job.task.creates = false)
    (untouched : Untouched state) :
    ((load (base who) diskName).run self).wp (among base who job)
      Transition.any
      (Ends fun returned => (Response.diskId returned.1).error?)
      state := by
  refine wp_load (opens_racing uses others untouched)
    (fun _ _ refused => refused.ends rfl) (fun _ _ broken => broken.ends)
    (fun _ _ _ opened => ?_) ?_
  · obtain ⟨inode, working⟩ := opened
    exact Or.inl working.worksOnSeen
  · intro fd after room opened reply last moved
    rcases opened with ⟨inode, working⟩
    exact ⟨True.intro, Or.inl (working.close moved)⟩

private theorem withDisk_racing {Value : Type} {state : Recorded}
    {failed : DiskManagerErrorCode → Value}
    {body : PosixDisk → Effect Value}
    {error? : Value → Option DiskManagerErrorCode}
    (uses : job.task.usesFile = true) (others : job.task.creates = false)
    (transfers : ∀ posixDisk,
      (body posixDisk).makesOnly posixDisk.Transfers)
    (reported : ∀ failure, error? (failed failure) = some failure)
    (untouched : Untouched state) :
    (withDisk (base who) path failed body).wp (among base who job)
      Transition.any (Ends error?) state := by
  refine wp_withDisk (opens_racing uses others untouched)
    (fun failure _ refused => refused.ends (reported failure))
    (fun _ _ broken => broken.ends) ?_
  intro fd after opened
  rcases opened with ⟨inode, working⟩
  refine Program.wp_consequence
    (Program.wp_of_makesOnly ?_ (transfers _) working) ?_
  · intro before request reply after working allowed moved
    exact ⟨True.intro, working.transfer uses others allowed moved⟩
  · intro outcome last working
    rcases outcome with value | reason
    · exact fun _ _ moved => ⟨True.intro, Or.inl (working.close moved)⟩
    · exact Or.inl working.worksOnSeen

/-- The scope of a disk in an operation. -/
private theorem scope_racing {Value Next : Type} {state : Recorded}
    {failed : DiskManagerErrorCode → Value} {wrap : Value → Next}
    {body : PosixDisk → Effect Value}
    {error? : Next → Option DiskManagerErrorCode}
    (uses : job.task.usesFile = true) (others : job.task.creates = false)
    (transfers : ∀ posixDisk,
      (body posixDisk).makesOnly posixDisk.Transfers)
    (reported : ∀ failure, error? (wrap (failed failure)) = some failure)
    (untouched : Untouched state) :
    (withDisk (base who) path failed body >>= fun value =>
        Program.done (wrap value)).wp (among base who job)
      Transition.any (Ends error?) state := by
  have safe :
      (withDisk (base who) path failed body).wp (among base who job)
        Transition.any (Ends fun value => error? (wrap value)) state :=
    withDisk_racing uses others transfers reported untouched
  rw [Program.wp_bind]
  refine Program.wp_consequence safe ?_
  intro outcome after ended
  rcases outcome with value | reason
  · exact ended
  · exact ended

private theorem map_racing {Value : Type} {self : PosixDiskManager}
    {wrap : Value → Response} {member : Member Value} {state : Recorded}
    (safe :
      (member.run self).wp (among base who job) Transition.any
        (Ends fun returned => (wrap returned.1).error?) state) :
    ((wrap <$> member).run self).wp (among base who job) Transition.any
      (Ends fun returned => returned.1.error?) state := by
  rw [StateT.run_map, Program.wp_map]
  refine Program.wp_consequence safe ?_
  intro outcome after ended
  rcases outcome with value | reason
  · exact ended
  · exact ended

/-- An id that is not loaded. -/
private theorem notLoaded_racing {Value : Type} {value : Value}
    {state : Recorded} {error? : Value → Option DiskManagerErrorCode}
    (reported : error? value = some .diskNotFound)
    (untouched : Untouched state) :
    (Program.done value : Effect Value).wp (among base who job)
      Transition.any (Ends error?) state :=
  Or.inr ⟨untouched.checks, _, reported, Or.inl rfl⟩

private theorem perform_racing {self : PosixDiskManager}
    {operation : Operation} {state : Recorded}
    (uses : operation.usesFile = true) (same : job.task = operation)
    (untouched : Untouched state) :
    ((perform (base who) operation).run self).wp (among base who job)
      Transition.any (Ends fun returned => returned.1.error?) state := by
  subst same
  have others : job.task.creates = false := by
    cases task : job.task <;> rw [task] at uses <;> first | rfl | cases uses
  cases task : job.task with
  | load diskName => exact map_racing (load_racing uses others untouched)
  | write diskId cursor bytes =>
      apply map_racing
      rw [write_run]
      cases self.disks.lookup diskId with
      | none => exact notLoaded_racing rfl untouched
      | some fileName =>
          refine scope_racing uses others (fun posixDisk => ?_)
            (fun _ => rfl) untouched
          rw [propIfError_eq]
          exact makesOnly_propagate (posixDisk.write_transfers cursor bytes)
            (fun _ => True.intro) (fun _ => True.intro)
  | read diskId cursor buffer =>
      have safe :
          (((read (base who) diskId cursor).run buffer).run self).wp
            (among base who job) Transition.any
            (Ends fun returned =>
              (Response.buffer returned.1.1 returned.1.2).error?)
            state := by
        rw [read_run]
        cases self.disks.lookup diskId with
        | none => exact notLoaded_racing rfl untouched
        | some fileName =>
            exact scope_racing uses others
              (fun posixDisk =>
                posixDisk.propagated_read_transfers cursor buffer)
              (fun _ => rfl) untouched
      exact map_racing safe
  | _ =>
      rw [task] at uses
      cases uses

end PosixDiskManager

/-! ## Runs -/

section Runs

variable {Who : Type} [DecidableEq Who] {base : Who → DiskManager}
variable {starts : FileSystem → Prop}
variable {events : List (ManagerEvent Who)} {scene : ManagerScene Who}

private theorem ongoing_racing
    (run :
      ((managers mayFail base).machineWhile starts FindsSeen).Run events
        scene) (who : Who) :
    (managers mayFail base).Ongoing FindsSeen racing who scene := by
  refine Parties.ongoing_of_run (fun _ _ _ _ _ => rfl) ?_ ?_ run
  · intro job state _
    by_cases uses : job.task.usesFile = true
    · have untouched : PosixDiskManager.Untouched (state, []) := by
        constructor
        · rfl
        · exact fun _ impossible => absurd impossible List.not_mem_nil
        · exact fun _ _ impossible => absurd impossible List.not_mem_nil
      refine Program.wp_consequence
        (PosixDiskManager.perform_racing uses rfl untouched) ?_
      exact fun outcome after ended _ => ended
    · refine Program.wp_consequence (Program.wp_trivial _ _) ?_
      exact fun outcome after _ usesFile => absurd usesFile uses
  · intro events before event after earlier isFine stepped different job
      moves rest working seen relied descriptor held
    have kept :=
      undisturbed_of_run (fun _ _ _ _ moved => moved) earlier isFine
        stepped different ⟨job, moves, rest, working, held⟩
    exact kept.trans (relied descriptor held)

/-- While the calls by path of all operations but `create` find the file that the
last check saw, only creates bring names into existence, and every load, read or
write works on that file or reports that there is no disk. -/
theorem onlyCreatesMake_of_findsSeen (base : Who → DiskManager)
    (run :
      ((managers mayFail base).machineWhile starts FindsSeen).Run events
        scene) :
    OnlyCreatesMake events := by
  refine Machine.Run.invariant (fun events _ => OnlyCreatesMake events)
    (fun _ _ _ impossible => absurd impossible List.not_mem_nil) ?_ run
  intro events before event after earlier sound stepped
  simp only [OnlyCreatesMake]
  rw [List.forall_mem_append, List.forall_mem_singleton]
  refine ⟨sound, ?_⟩
  obtain ⟨isFine, stepped⟩ := stepped
  cases stepped with
  | begins resting => exact ⟨fun _ => True.intro, True.intro⟩
  | returns finished =>
      have ongoing := ongoing_racing earlier
      obtain ⟨seen, _, ended⟩ := (ongoing _).ends (.returns finished)
      exact ⟨fun _ => True.intro, ended⟩
  | crashes failed =>
      have ongoing := ongoing_racing earlier
      obtain ⟨seen, _, ended⟩ := (ongoing _).ends (.crashes failed)
      exact ⟨fun _ => True.intro, ended⟩
  | calls asked moved =>
      refine ⟨fun name others absent => ?_, True.intro⟩
      refine mayFail_makesNothing moved ?_ absent
      intro path equal
      rcases equal with rfl
      exact (isFine others).1

end Runs

end Lewsql
