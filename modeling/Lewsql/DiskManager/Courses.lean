import Lewsql.DiskManager.World

/-!
# Histories with their POSIX calls

A `Course` is an operation that returned, with the POSIX calls it made.  The
answers to the calls come from any transition relation, so calls may fail.
-/

namespace Lewsql

open Interaction Posix FileSystem

structure Course where
  before : World
  operation : Operation
  moves : List (Move Posix.calls FileSystem)
  response : Response
  after : World

namespace World

/-- One course of an operation, up to its end. -/
def Performs (base : DiskManager)
    (env : Transition Posix.calls FileSystem) (world : World)
    (operation : Operation) (moves : List (Move Posix.calls FileSystem))
    (outcome : Outcome Crash (Response × PosixDiskManager))
    (last : FileSystem) : Prop :=
  Execution env
    ((PosixDiskManager.perform base operation).run world.manager)
    world.fileSystem moves outcome last

def courses (base : DiskManager)
    (env : Transition Posix.calls FileSystem) (starts : World → Prop)
    (allowed : World → Operation → Prop) : Machine World Course where
  start := starts
  step before course after :=
    course.before = before ∧ course.after = after ∧
      allowed before course.operation ∧
      before.Performs base env course.operation course.moves
        (.done (course.response, after.manager)) after.fileSystem

/-- A run with planned faults is a course in which calls may fail. -/
theorem performs_of_planned {base : DiskManager} {world : World}
    {operation : Operation} (plan : Nat → Fault)
    {outcome : Outcome Crash (Response × PosixDiskManager)}
    {last : FileSystem × (Nat → Fault)}
    (ran :
      ((PosixDiskManager.perform base operation).run world.manager).run
          servePlanned (world.fileSystem, plan) =
        (outcome, last)) :
    ∃ moves,
      world.Performs base mayFail operation moves outcome last.1 := by
  obtain ⟨moves, course⟩ :=
    Program.run_execution servePlanned
      ((PosixDiskManager.perform base operation).run world.manager)
      (world.fileSystem, plan)
  rw [ran] at course
  refine ⟨_, course.map Prod.fst ?_⟩
  intro before request reply after moved
  have served :
      ((serveWith (before.2 0) request before.1).1,
        (serveWith (before.2 0) request before.1).2,
        fun index => before.2 (index + 1)) = (reply, after) := moved
  cases served
  exact ⟨before.2 0, rfl⟩

/-- One operation with planned faults that returns. -/
theorem courses_of_planned (base : DiskManager) (world : World)
    (operation : Operation) (response : Response) (plan : Nat → Fault)
    {manager : PosixDiskManager} {last : FileSystem × (Nat → Fault)}
    (ran :
      ((PosixDiskManager.perform base operation).run world.manager).run
          servePlanned (world.fileSystem, plan) =
        (.done (response, manager), last)) :
    ∃ moves,
      (courses base mayFail (fun _ => True) (fun _ _ => True)).Run
        [⟨world, operation, moves, response, ⟨manager, last.1⟩⟩]
        ⟨manager, last.1⟩ := by
  obtain ⟨moves, performed⟩ := performs_of_planned plan ran
  have begun :
      (courses base mayFail (fun _ => True) (fun _ _ => True)).Run []
        world :=
    .start True.intro
  exact ⟨moves, begun.step ⟨rfl, rfl, True.intro, performed⟩⟩

end World

end Lewsql
