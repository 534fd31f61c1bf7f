import Mathlib.Order.Bounds.Defs
import Lewsql.DiskManager.Endings

/-!
# Every end of an operation

Surroundings that lead each member function to each of its ends, and to as many
POSIX calls as it can make.
-/

namespace Lewsql

open Interaction Posix

/-- How the next call is answered. -/
inductive Cue where
  | good
  | missing
  | broken
  | sized (size : Nat)
  deriving DecidableEq, Repr

/-- What a call answers that succeeds, where files have a size. -/
def succeeds (size : Nat) : (request : Request) → Answer request
  | .access _ => ()
  | .openFile _ => 0
  | .close _ => ()
  | .stat _ => size
  | .truncate _ _ => ()
  | .lseek _ offset => offset
  | .write _ bytes => bytes.length
  | .read _ count => List.replicate count 0
  | .fsync _ => ()
  | .unlink _ => ()

def Cue.reply (request : Request) : Cue → Except Errno (Answer request)
  | .good => .ok (succeeds 2 request)
  | .missing => .error .enoent
  | .broken => .error .other
  | .sized size => .ok (succeeds size request)

/-- Answers by the cues, then well, and counts the calls. -/
def prompted : Handler Posix.calls (List Cue × Nat) :=
  fun request state =>
    ((state.1.headD .good).reply request, state.1.tail, state.2 + 1)

structure Setting where
  base : DiskManager
  self : PosixDiskManager
  cues : List Cue

def oneLoaded : PosixDiskManager :=
  PosixDiskManager.new.insert "a.disk" (by decide)

/-- No disk is loaded, and all ids are used up. -/
def usedUp : PosixDiskManager where
  curDiskId := Int32.maxValue
  disks := ∅
  id_lt := by simp

namespace MemberFunction

def sample : MemberFunction → Operation
  | .create => .create "a"
  | .load => .load "a"
  | .unload => .unload 0
  | .destroy => .destroy 0
  | .write => .write 0 0 [0, 0]
  | .read => .read 0 0 [0, 0]
  | .extend => .extend 0
  | .diskByteSize => .diskByteSize 0
  | .exists => .exists "a"
  | .isLoaded => .isLoaded 0
  | .loadedDiskName => .loadedDiskName 0
  | .numLoadedDisks => .numLoadedDisks

theorem memberFunction_sample (function : MemberFunction) :
    function.sample.memberFunction = function := by
  cases function <;> rfl

def opens : List Cue :=
  [.good, .good, .good]

def failing : MemberFunction → DiskManagerErrorCode → Setting
  | .create, .createDiskError =>
      ⟨⟨"d", 2, 8⟩, .new,
        [.missing, .missing, .broken, .missing, .missing, .broken]⟩
  | .create, .diskNotFound =>
      ⟨⟨"d", 2, 8⟩, .new,
        [.missing, .missing, .good, .good, .missing, .missing]⟩
  | .load, .diskNotFound => ⟨⟨"d", 2, 8⟩, .new, [.missing, .missing]⟩
  | _, .diskNotFound => ⟨⟨"d", 2, 8⟩, .new, []⟩
  | .extend, .getDiskSizeError =>
      ⟨⟨"d", 2, 8⟩, oneLoaded,
        opens ++ .broken :: .good :: opens ++ [.broken]⟩
  | _, .getDiskSizeError =>
      ⟨⟨"d", 2, 8⟩, oneLoaded, opens ++ List.replicate 8 .broken⟩
  | _, .unkownError =>
      ⟨⟨"d", 2, 8⟩, oneLoaded, List.replicate 4 .broken⟩
  | .extend, .createDiskError =>
      ⟨⟨"d", 2, 8⟩, oneLoaded,
        [.good, .good, .broken, .good, .good, .broken]⟩
  | _, .createDiskError =>
      ⟨⟨"d", 2, 8⟩, oneLoaded, [.good, .good, .broken]⟩
  | _, .destroyDiskError =>
      ⟨⟨"d", 2, 8⟩, oneLoaded, opens ++ [.broken, .broken]⟩
  | _, .readDiskError =>
      ⟨⟨"d", 2, 8⟩, oneLoaded,
        opens ++ .good :: .good :: .good :: .broken ::
          [.good, .good, .good, .broken]⟩
  | _, .diskExceedsMaxSize => ⟨⟨"d", 2, 0⟩, oneLoaded, []⟩
  | _, _ => ⟨⟨"d", 2, 8⟩, oneLoaded, []⟩

def crashing : MemberFunction → Crash → Setting
  | _, .assertIsError => ⟨⟨"d", 2, 8⟩, oneLoaded, [.broken, .good]⟩
  | _, .badOptionalAccess => ⟨⟨"d", 2, 8⟩, oneLoaded, [.good, .broken]⟩
  | .create, .signedOverflow =>
      ⟨⟨"d", 2, 8⟩, usedUp, [.missing, .missing]⟩
  | _, .signedOverflow => ⟨⟨"d", 2, 8⟩, usedUp, []⟩
  | .extend, .assertWhat =>
      ⟨⟨"d", 2, 8⟩, oneLoaded,
        opens ++ .good :: .good :: opens ++ [.broken]⟩
  | _, .assertWhat =>
      ⟨⟨"d", 2, 8⟩, oneLoaded, opens ++ [.good, .broken]⟩
  | _, .divisionByZero => ⟨⟨"d", 0, 8⟩, oneLoaded, []⟩
  | _, .assertFileSize => ⟨⟨"d", 2, 8⟩, oneLoaded, opens ++ [.sized 1]⟩
  | _, .assertByteSize =>
      -- A size whose low 32 bits are no number of pages.
      ⟨⟨"d", 3, 8⟩, oneLoaded,
        opens ++ .sized 4294967298 :: .good :: opens ++
          [.sized 4294967298]⟩

def returning : MemberFunction → Setting
  | .create => ⟨⟨"d", 2, 8⟩, .new, [.missing, .missing]⟩
  | _ => ⟨⟨"d", 2, 8⟩, oneLoaded, []⟩

def tiring : MemberFunction → Setting
  | .create => ⟨⟨"d", 2, 8⟩, .new, [.missing, .missing]⟩
  | .destroy =>
      ⟨⟨"d", 2, 8⟩, oneLoaded, opens ++ [.broken, .broken]⟩
  | .write =>
      ⟨⟨"d", 2, 8⟩, oneLoaded, opens ++ (List.replicate 4
        [.sized 0, .sized 0, .good, .broken, .broken, .broken,
          .broken]).flatten⟩
  | .read =>
      ⟨⟨"d", 2, 8⟩, oneLoaded, opens ++ (List.replicate 4
        [.sized 0, .sized 0, .good, .broken, .broken, .broken,
          .broken]).flatten⟩
  | _ => ⟨⟨"d", 2, 8⟩, oneLoaded, []⟩

/-- The end of the sample in a setting, and how many calls it made. -/
def play (function : MemberFunction) (setting : Setting) :
    Ending × Nat :=
  let ran :=
    ((PosixDiskManager.perform setting.base function.sample).run
      setting.self).run prompted (setting.cues, 0)
  (endingOf (fun returned => returned.1.error?) ran.1, ran.2.2)

theorem play_failing (function : MemberFunction) :
    ∀ failure ∈ function.errors,
      (function.play (function.failing failure)).1 =
        .done (some failure) := by
  cases function <;> decide

theorem play_crashing (function : MemberFunction) :
    ∀ reason ∈ function.crashes,
      (function.play (function.crashing reason)).1 = .crashed reason := by
  cases function <;> decide

theorem play_returning (function : MemberFunction) :
    (function.play function.returning).1 = .done none := by
  cases function <;> decide

theorem play_tiring (function : MemberFunction) :
    (function.play function.tiring).2 = function.mostCalls := by
  cases function <;> decide

end MemberFunction

/-! ## Runs -/

section Runs

variable {Who : Type} [DecidableEq Who]

/-- In a run of managers, on calls that behave in some way, an operation of the
member function makes this many calls. -/
def CanMake (who : Who) (function : MemberFunction) (count : Nat) : Prop :=
  ∃ (env : Transition Posix.calls FileSystem) (base : Who → DiskManager)
    (starts : FileSystem → Prop) (events : List (ManagerEvent Who))
    (scene : ManagerScene Who) (job : ManagerJob)
    (moves : List (Move Posix.calls FileSystem))
    (rest : Effect (Response × PosixDiskManager)),
    ((managers env base).machine starts).Run events scene ∧
      scene.activity who = .busy job moves rest ∧
      job.task.memberFunction = function ∧ moves.length = count

/-- In a run of managers, on calls that behave in some way, an operation of the
member function ends so. -/
def CanHappen (who : Who) (function : MemberFunction) (ending : Ending) :
    Prop :=
  ∃ (env : Transition Posix.calls FileSystem) (base : Who → DiskManager)
    (starts : FileSystem → Prop) (events : List (ManagerEvent Who))
    (scene : ManagerScene Who) (job : ManagerJob)
    (moves : List (Move Posix.calls FileSystem))
    (outcome : Outcome Crash (Response × PosixDiskManager)),
    ((managers env base).machine starts).Run events scene ∧
      .ends who job moves outcome ∈ events ∧
      job.task.memberFunction = function ∧
      endingOf (fun returned => returned.1.error?) outcome = ending

/-- Calls that answer anything and do anything. -/
def lawless : Transition Posix.calls FileSystem :=
  fun _ _ _ _ => True

theorem MemberFunction.ends_play (function : MemberFunction)
    (setting : Setting) :
    ∃ outcome,
      ((PosixDiskManager.perform setting.base function.sample).run
        setting.self).Ends (function.play setting).2 outcome ∧
        endingOf (fun returned => returned.1.error?) outcome =
          (function.play setting).1 := by
  simp only [MemberFunction.play]
  cases ran :
      ((PosixDiskManager.perform setting.base function.sample).run
        setting.self).run prompted (setting.cues, 0) with
  | mk outcome after =>
      obtain ⟨count, counted, ends⟩ :=
        @Program.ends_of_run _ _ _ _ _ prompted (fun state => state.2)
          (fun _ _ => rfl) _ _ _ ran
      refine ⟨outcome, ?_, rfl⟩
      rw [counted, Nat.zero_add]
      exact ends

theorem canMake_play (who : Who) (function : MemberFunction)
    (setting : Setting) : CanMake who function (function.play setting).2 := by
  obtain ⟨outcome, ends, _⟩ := function.ends_play setting
  obtain ⟨events, scene, moves, rest, run, working, counted, _⟩ :=
    @Parties.run_of_ends _ _ _ _ _ _ _ _
      (managers lawless fun _ : Who => setting.base) (fun _ => True)
      (FileSystem.empty id) True.intro
      (fun before _ _ => ⟨before, True.intro⟩) who
      ⟨function.sample, setting.self⟩ _ _ ends
  exact ⟨_, _, _, _, _, _, _, _, run, working,
    function.memberFunction_sample, counted⟩

theorem canHappen_play (who : Who) (function : MemberFunction)
    (setting : Setting) :
    CanHappen who function (function.play setting).1 := by
  obtain ⟨outcome, ends, same⟩ := function.ends_play setting
  obtain ⟨events, scene, moves, run, ended⟩ :=
    @Parties.run_past_end _ _ _ _ _ _ _ _
      (managers lawless fun _ : Who => setting.base) (fun _ => True)
      (FileSystem.empty id) True.intro
      (fun before _ _ => ⟨before, True.intro⟩) who
      ⟨function.sample, setting.self⟩ _ _ ends
  exact ⟨_, _, _, _, _, _, _, _, run, ended,
    function.memberFunction_sample, same⟩

def callLimit (_ : Who) (job : ManagerJob) : Nat :=
  job.task.memberFunction.mostCalls

/-- An operation ends as its tables say. -/
def EndsAsListed (_ : Who) (job : ManagerJob)
    (outcome : Outcome Crash (Response × PosixDiskManager)) : Prop :=
  job.task.memberFunction.CanEnd
    (endingOf (fun returned => returned.1.error?) outcome)

theorem endings_of_run {env : Transition Posix.calls FileSystem}
    {base : Who → DiskManager} {starts : FileSystem → Prop}
    {events : List (ManagerEvent Who)} {scene : ManagerScene Who}
    (run : ((managers env base).machine starts).Run events scene) :
    (∀ event ∈ events, event.Within callLimit EndsAsListed) ∧
      Limited callLimit EndsAsListed scene := by
  have bounded (who : Who) (job : ManagerJob) :
      ((managers env base).body who job).EndsWithin (EndsAsListed who job)
        (callLimit who job) :=
    PosixDiskManager.endsBy_perform
  exact Parties.within_of_run bounded run

/-- The member function ends exactly in the ways of its tables, over all runs of
managers whose POSIX calls answer and do anything. -/
theorem canHappen_iff (who : Who) (function : MemberFunction)
    (ending : Ending) :
    CanHappen who function ending ↔ function.CanEnd ending := by
  constructor
  · rintro ⟨env, base, starts, events, scene, job, moves, outcome, run,
      ended, rfl, rfl⟩
    exact ((endings_of_run run).1 _ ended).2
  · intro can
    cases ending with
    | done error =>
        cases error with
        | none =>
            have happens := canHappen_play who function function.returning
            rw [function.play_returning] at happens
            exact happens
        | some failure =>
            have happens :=
              canHappen_play who function (function.failing failure)
            rw [function.play_failing failure can] at happens
            exact happens
    | crashed reason =>
        have happens :=
          canHappen_play who function (function.crashing reason)
        rw [function.play_crashing reason can] at happens
        exact happens

/-- The most POSIX calls of an operation, over all runs of managers whose POSIX
calls answer and do anything. -/
theorem mostCalls_isGreatest (who : Who) (function : MemberFunction) :
    IsGreatest {count | CanMake who function count} function.mostCalls := by
  constructor
  · have makes := canMake_play who function function.tiring
    rw [function.play_tiring] at makes
    exact makes
  · rintro count ⟨env, base, starts, events, scene, job, moves, rest, run,
      working, rfl, rfl⟩
    obtain ⟨left, _, enough⟩ := (endings_of_run run).2 _ _ _ _ working
    exact Nat.le_trans (Nat.le_add_right _ _) enough

end Runs

end Lewsql
