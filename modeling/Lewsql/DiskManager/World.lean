import Lewsql.DiskManager.Operation
import Lewsql.Interaction.Machine

/-!
# Histories of one manager

A `World` is a manager and the file system it works on, and `step` runs one
operation in it with POSIX calls that do not fail.  A history is a run of
operations with their responses from an empty directory.  An operation that
crashes ends the process and is not part of a history.
-/

namespace Lewsql

open Interaction Posix FileSystem

structure World where
  manager : PosixDiskManager
  fileSystem : FileSystem

def World.Names (base : DiskManager) (world : World) (diskId : DiskId)
    (inode : Nat) : Prop :=
  ∃ fileName, world.manager.disks.lookup diskId = some fileName ∧
    world.fileSystem.lookup (base.getDiskPath fileName) = some inode

def World.named (base : DiskManager) (world : World) (diskId : DiskId) :
    Option Nat :=
  (world.manager.disks.lookup diskId).bind fun fileName =>
    world.fileSystem.lookup (base.getDiskPath fileName)

abbrev Event := Operation × Response

namespace World

def step (base : DiskManager) (operation : Operation) (world : World) :
    Outcome Crash Response × World :=
  match
    ((PosixDiskManager.perform base operation).run world.manager).run serve
      world.fileSystem
  with
  | (.done (response, manager), fileSystem) =>
      (.done response, ⟨manager, fileSystem⟩)
  | (.crashed reason, fileSystem) =>
      (.crashed reason, ⟨world.manager, fileSystem⟩)

section Step

variable {base : DiskManager} {operation : Operation} {world : World}
variable {Value : Type} {wrap : Value → Response}
variable {member : PosixDiskManager.Member Value}

/-- A step is the run of the member function it calls. -/
theorem step_of_done
    (called : PosixDiskManager.perform base operation = wrap <$> member)
    {value : Value} {manager : PosixDiskManager} {fileSystem : FileSystem}
    (finished :
      (member.run world.manager).run serve world.fileSystem =
        (.done (value, manager), fileSystem)) :
    world.step base operation =
      (.done (wrap value), ⟨manager, fileSystem⟩) := by
  simp only [step]
  rw [called, StateT.run_map, Program.run_map_of_done serve finished]

theorem step_of_crashed
    (called : PosixDiskManager.perform base operation = wrap <$> member)
    {reason : Crash} {fileSystem : FileSystem}
    (failed :
      (member.run world.manager).run serve world.fileSystem =
        (.crashed reason, fileSystem)) :
    world.step base operation =
      (.crashed reason, ⟨world.manager, fileSystem⟩) := by
  simp only [step]
  rw [called, StateT.run_map, map_eq_pure_bind,
    Program.run_bind_of_crashed serve failed]

/-- What a step returned is what the member function it calls returned. -/
theorem run_of_step
    (called : PosixDiskManager.perform base operation = wrap <$> member)
    {response : Response} {after : World}
    (returned : world.step base operation = (.done response, after)) :
    ∃ value,
      (member.run world.manager).run serve world.fileSystem =
          (.done (value, after.manager), after.fileSystem) ∧
        response = wrap value := by
  simp only [step] at returned
  rw [called, StateT.run_map, map_eq_pure_bind, Program.run_bind]
    at returned
  cases finished :
      (member.run world.manager).run serve world.fileSystem with
  | mk outcome fileSystem =>
      rw [finished] at returned
      cases outcome with
      | crashed reason => cases returned
      | done pair =>
          cases returned
          exact ⟨pair.1, rfl, rfl⟩

end Step

end World

/-- A disk name that is one path component when the suffix is added. -/
def PlainName (diskName : DiskName) : Prop :=
  ∀ character ∈ diskName.toList,
    character ≠ '/' ∧ character ≠ Char.ofNat 0

instance (diskName : DiskName) : Decidable (PlainName diskName) :=
  List.decidableBAll
    (fun character => character ≠ '/' ∧ character ≠ Char.ofNat 0)
    diskName.toList

/-- Pathname resolution keeps the plain names in the directory of the manager
apart, as it does when they are different entries of one directory. -/
def KeepsNamesApart (base : DiskManager)
    (resolve : String → String) : Prop :=
  ∀ diskName other, PlainName diskName → PlainName other →
    resolve (base.diskPath diskName) = resolve (base.diskPath other) →
      diskName = other

def EmptyDirectory (base : DiskManager) (fs : FileSystem) : Prop :=
  ∀ diskName, PlainName diskName →
    fs.lookup (base.diskPath diskName) = none

/-- One manager, just constructed on an empty directory that nobody else
changes, with operations from `allowed`. -/
def World.machine (base : DiskManager) (resolve : String → String)
    (allowed : Operation → Prop) : Machine World Event where
  start world :=
    world.manager = PosixDiskManager.new ∧
      world.fileSystem.resolve = resolve ∧
      EmptyDirectory base world.fileSystem
  step before event after :=
    allowed event.1 ∧
      before.step base event.1 = (.done event.2, after)

structure Passage where
  before : World
  operation : Operation
  response : Response
  after : World

def Passage.event (passage : Passage) : Event :=
  (passage.operation, passage.response)

/-- Any operations of one manager that nobody disturbs, from any directory. -/
def World.passages (base : DiskManager) : Machine World Passage where
  start world := world.manager = PosixDiskManager.new
  step before passage after :=
    passage.before = before ∧ passage.after = after ∧
      before.step base passage.operation = (.done passage.response, after)

namespace World

variable {base : DiskManager} {resolve : String → String}
variable {allowed : Operation → Prop}

def replay (base : DiskManager) :
    List Operation → World → List Passage × World
  | [], world => ([], world)
  | operation :: rest, world =>
      match world.step base operation with
      | (.done response, after) =>
          (⟨world, operation, response, after⟩ ::
              (replay base rest after).1,
            (replay base rest after).2)
      | (.crashed _, _) => ([], world)

/-- A replay is a run of every machine that allows its operations. -/
theorem run_append_replay (base : DiskManager) {Label : Type}
    {machine : Machine World Label} (label : Passage → Label)
    (operations : List Operation)
    (permitted : ∀ before operation response after,
      operation ∈ operations →
        before.step base operation = (.done response, after) →
          machine.step before (label ⟨before, operation, response, after⟩)
            after)
    {earlier : List Label} {before : World}
    (run : machine.Run earlier before) :
    machine.Run
      (earlier ++ (replay base operations before).1.map label)
      (replay base operations before).2 := by
  induction operations generalizing earlier before with
  | nil =>
      rw [replay, List.map_nil, List.append_nil]
      exact run
  | cons operation rest inductionHypothesis =>
      rw [replay]
      cases stepped : before.step base operation with
      | mk outcome after =>
          cases outcome with
          | crashed reason =>
              rw [List.map_nil, List.append_nil]
              exact run
          | done response =>
              have longer :=
                run.step
                  (permitted before operation response after
                    List.mem_cons_self stepped)
              have whole :=
                inductionHypothesis
                  (fun _ _ _ _ member =>
                    permitted _ _ _ _ (List.mem_cons_of_mem _ member))
                  longer
              rw [List.append_assoc] at whole
              exact whole

def fresh (resolve : String → String) : World :=
  ⟨PosixDiskManager.new, FileSystem.empty resolve⟩

theorem start_fresh :
    (machine base resolve allowed).start (fresh resolve) :=
  ⟨rfl, rfl, fun _ _ => rfl⟩

/-- What a replay from a fresh manager returned is a history. -/
theorem run_of_replay (operations : List Operation)
    (permitted : ∀ operation ∈ operations, allowed operation)
    {events : List Event}
    (replayed :
      (replay base operations (fresh resolve)).1.map Passage.event =
        events) :
    ∃ last, (machine base resolve allowed).Run events last := by
  subst events
  have begun : (machine base resolve allowed).Run [] (fresh resolve) :=
    .start start_fresh
  have run := by
    refine run_append_replay base Passage.event operations ?_ begun
    exact fun _ _ _ _ member stepped => ⟨permitted _ member, stepped⟩
  exact ⟨_, run⟩

/-- The same with the worlds around the operations. -/
theorem passages_of_replay (base : DiskManager)
    (resolve : String → String) (operations : List Operation) :
    (passages base).Run (replay base operations (fresh resolve)).1
      (replay base operations (fresh resolve)).2 := by
  have begun : (passages base).Run [] (fresh resolve) := .start rfl
  have run := by
    refine run_append_replay base id operations ?_ begun
    exact fun _ _ _ _ _ stepped => ⟨rfl, rfl, stepped⟩
  rw [List.nil_append, List.map_id] at run
  exact run

end World

/-- Paths that differ as strings are different entries. -/
theorem keepsNamesApart_id (base : DiskManager) :
    KeepsNamesApart base id := by
  intro diskName other _ _ same
  have paths :
      base.dirPath ++ "/" ++ (diskName ++ diskSuffix) =
        base.dirPath ++ "/" ++ (other ++ diskSuffix) := same
  rw [String.append_right_inj, String.append_left_inj] at paths
  exact paths

def Response.handsOut : Response → Bool
  | .diskId (.value _) => true
  | _ => false

def Response.failed : Response → Bool
  | .diskId result => result.isError
  | .void result => result.isError
  | .buffer result _ => result.isError
  | .cursor result => result.isError
  | .size result => result.isError
  | .flag result => result.isError
  | .name result => result.isError

def handedOut (events : List Event) : Nat :=
  events.countP fun event => event.2.handsOut

theorem handedOut_append (events : List Event) (event : Event) :
    handedOut (events ++ [event]) =
      handedOut events + if event.2.handsOut then 1 else 0 := by
  simp only [handedOut]
  rw [List.countP_append, List.countP_singleton]

def Operation.loads : Operation → Bool
  | .create _ => true
  | .load _ => true
  | _ => false

def Operation.givesUp : Operation → Bool
  | .unload _ => true
  | .destroy _ => true
  | _ => false

/-- Operations on names and ids, over plain names. -/
def Operation.OnTable : Operation → Prop
  | .create diskName => PlainName diskName
  | .load diskName => PlainName diskName
  | .exists diskName => PlainName diskName
  | .unload _ => True
  | .destroy _ => True
  | .isLoaded _ => True
  | .loadedDiskName _ => True
  | .numLoadedDisks => True
  | .write _ _ _ => False
  | .read _ _ _ => False
  | .extend _ => False
  | .diskByteSize _ => False

instance : DecidablePred Operation.OnTable
  | .create diskName => inferInstanceAs (Decidable (PlainName diskName))
  | .load diskName => inferInstanceAs (Decidable (PlainName diskName))
  | .exists diskName => inferInstanceAs (Decidable (PlainName diskName))
  | .unload _ => inferInstanceAs (Decidable True)
  | .destroy _ => inferInstanceAs (Decidable True)
  | .isLoaded _ => inferInstanceAs (Decidable True)
  | .loadedDiskName _ => inferInstanceAs (Decidable True)
  | .numLoadedDisks => inferInstanceAs (Decidable True)
  | .write _ _ _ => inferInstanceAs (Decidable False)
  | .read _ _ _ => inferInstanceAs (Decidable False)
  | .extend _ => inferInstanceAs (Decidable False)
  | .diskByteSize _ => inferInstanceAs (Decidable False)

/-- Four pages of two bytes would reach the limit. -/
def smallBase : DiskManager :=
  ⟨"d", 2, 8⟩

def World.smallDisk : World :=
  ((World.fresh id).step smallBase (.create "a")).2

end Lewsql
