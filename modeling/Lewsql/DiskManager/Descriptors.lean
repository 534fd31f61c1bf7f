import Lewsql.DiskManager.Courses
import Lewsql.DiskManager.Phases
import Lewsql.Posix.Faults

/-!
# Descriptors opened and closed

The ledger of an operation holds the descriptors that it opened and has not closed
yet.  The ledger is settled at the end of every operation that returns, whatever
calls failed, unless the operation removed a file: after `destroy` the destructor
of the disk does not close.
-/

namespace Lewsql

open Interaction Posix FileSystem

/-- One call in the ledger; closing something else than what is held spoils
it. -/
def settle (held : List Nat) :
    (request : Request) → Except Errno (Answer request) →
      Option (List Nat)
  | .openFile _, .ok descriptor => some (descriptor :: held)
  | .close descriptor, _ =>
      if descriptor ∈ held then some (held.erase descriptor) else none
  | _, _ => some held

/-- The descriptors held after the calls of an operation. -/
def ledger (moves : List (Move Posix.calls FileSystem)) :
    Option (List Nat) :=
  moves.foldl
    (fun held move => held.bind fun held =>
      settle held move.request move.reply)
    (some [])

/-- Every descriptor that was opened was closed, once, and no other one. -/
def Balanced (moves : List (Move Posix.calls FileSystem)) : Prop :=
  ledger moves = some []

def Removes : (request : Request) → Except Errno (Answer request) → Prop
  | .unlink _, .ok () => True
  | _, _ => False

def RemovesNothing (moves : List (Move Posix.calls FileSystem)) : Prop :=
  ∀ move ∈ moves, ¬ Removes move.request move.reply

def openDescriptors (fs : FileSystem) : Nat :=
  fs.descriptors.keys.length

section Ledger

variable {moves : List (Move Posix.calls FileSystem)}
variable {move : Move Posix.calls FileSystem} {held : List Nat}

theorem ledger_append (earlier : ledger moves = some held) :
    ledger (moves ++ [move]) = settle held move.request move.reply := by
  unfold ledger at *
  rw [List.foldl_append, earlier]
  rfl

theorem removesNothing_append :
    RemovesNothing (moves ++ [move]) ↔
      RemovesNothing moves ∧ ¬ Removes move.request move.reply := by
  simp only [RemovesNothing]
  rw [List.forall_mem_append, List.forall_mem_singleton]

end Ledger

/-- The file system and the calls of the operation so far. -/
abbrev Recorded := FileSystem × List (Move Posix.calls FileSystem)

abbrev recordedFaults : Transition Posix.calls Recorded :=
  mayFail.recorded alone

section Phases

variable (table : AList fun _ : Nat => OpenFile) (descriptor : Nat)

/-- The table of descriptors is the one of the start. -/
structure Idle (state : Recorded) : Prop where
  table : state.1.descriptors = table
  settled : ledger state.2 = some []
  nothing : RemovesNothing state.2

structure OneMore (state : Recorded) : Prop where
  free : descriptor ∉ table
  table : ∃ opened, state.1.descriptors = table.insert descriptor opened
  holds : ledger state.2 = some [descriptor]

/-- One descriptor is open, and no file was removed. -/
structure Holding (state : Recorded) : Prop extends
    OneMore table descriptor state where
  nothing : RemovesNothing state.2

/-- A file was removed, and its descriptor is still open. -/
def Leaked (state : Recorded) : Prop :=
  (∃ descriptor, OneMore table descriptor state) ∧
    ¬ RemovesNothing state.2

end Phases

section Calls

variable {table : AList fun _ : Nat => OpenFile} {fd : Nat}
variable {before after : Recorded} {path : String}

private theorem Idle.access {reply : Except Errno Unit}
    (idle : Idle table before)
    (moved : recordedFaults before (.access path) reply after) :
    Idle table after := by
  obtain ⟨_, rfl, served, recorded⟩ := moved
  constructor
  · rw [mayFail_keepsDescriptors served True.intro]
    exact idle.table
  · rw [recorded, ledger_append idle.settled]
    rfl
  · rw [recorded, removesNothing_append]
    exact ⟨idle.nothing, id⟩

private theorem Idle.openFile {reply : Except Errno Nat}
    (idle : Idle table before)
    (moved : recordedFaults before (.openFile path) reply after) :
    match reply with
    | .ok fd => Holding table fd after
    | .error _ => Idle table after := by
  obtain ⟨_, rfl, served, recorded⟩ := moved
  cases reply with
  | ok fd =>
      obtain ⟨free, opened, grown⟩ := mayFail_openFile_ok served
      rw [idle.table] at free grown
      refine ⟨⟨free, ⟨opened, grown⟩, ?_⟩, ?_⟩
      · rw [recorded, ledger_append idle.settled]
        rfl
      · rw [recorded, removesNothing_append]
        exact ⟨idle.nothing, id⟩
  | error number =>
      refine ⟨?_, ?_, ?_⟩
      · rw [mayFail_openFile_error served]
        exact idle.table
      · rw [recorded, ledger_append idle.settled]
        rfl
      · rw [recorded, removesNothing_append]
        exact ⟨idle.nothing, id⟩

private theorem Holding.transfer {disk : PosixDisk} {request : Request}
    {reply : Except Errno (Answer request)}
    (holding : Holding table disk.fd before)
    (transfers : disk.Transfers request)
    (moved : recordedFaults before request reply after) :
    Holding table disk.fd after := by
  obtain ⟨_, rfl, served, recorded⟩ := moved
  obtain ⟨opened, grown⟩ := holding.table
  have isOpen :
      before.1.descriptors.lookup disk.fd = some opened := by
    rw [grown]
    exact AList.lookup_insert _
  have settles : settle [disk.fd] request reply = some [disk.fd] := by
    cases request <;> first | rfl | exact transfers.elim
  have keeps : ¬ Removes request reply := by
    cases request <;> first | exact id | exact transfers.elim
  have still : ∃ opened,
      after.1.descriptors = table.insert disk.fd opened := by
    by_cases uses : MovesOffset disk.fd request
    · rcases mayFail_movesOffset served uses isOpen with
        same | ⟨offset, written⟩
      · rw [same]
        exact ⟨opened, grown⟩
      · rw [written, grown, AList.insert_insert]
        exact ⟨_, rfl⟩
    · have keepsTable : KeepsDescriptors request := by
        cases request <;>
          first | exact True.intro | exact transfers.elim |
            exact absurd transfers uses
      rw [mayFail_keepsDescriptors served keepsTable]
      exact ⟨opened, grown⟩
  refine ⟨⟨holding.free, still, ?_⟩, ?_⟩
  · rw [recorded, ledger_append holding.holds]
    exact settles
  · rw [recorded, removesNothing_append]
    exact ⟨holding.nothing, keeps⟩

private theorem Holding.close {reply : Except Errno Unit}
    (holding : Holding table fd before)
    (moved : recordedFaults before (.close fd) reply after) :
    Idle table after := by
  obtain ⟨_, rfl, served, recorded⟩ := moved
  obtain ⟨opened, grown⟩ := holding.table
  have isOpen : before.1.descriptors.lookup fd = some opened := by
    rw [grown]
    exact AList.lookup_insert _
  constructor
  · rw [mayFail_close served isOpen]
    change before.1.descriptors.erase fd = table
    rw [grown]
    exact erase_insert_of_notMem _ _ holding.free
  · rw [recorded, ledger_append holding.holds]
    simp [settle]
  · rw [recorded, removesNothing_append]
    exact ⟨holding.nothing, id⟩

private theorem Holding.unlink {reply : Except Errno Unit}
    (holding : Holding table fd before)
    (moved : recordedFaults before (.unlink path) reply after) :
    match reply with
    | .ok () => Leaked table after
    | .error _ => Holding table fd after := by
  obtain ⟨_, rfl, served, recorded⟩ := moved
  have kept : after.1.descriptors = before.1.descriptors :=
    mayFail_keepsDescriptors served True.intro
  have oneMore : OneMore table fd after := by
    refine ⟨holding.free, ?_, ?_⟩
    · rw [kept]
      exact holding.table
    · rw [recorded, ledger_append holding.holds]
      rfl
  cases reply with
  | ok answer =>
      refine ⟨⟨fd, oneMore⟩, ?_⟩
      rw [recorded, removesNothing_append]
      exact fun nothing => nothing.2 True.intro
  | error number =>
      refine ⟨oneMore, ?_⟩
      rw [recorded, removesNothing_append]
      exact ⟨holding.nothing, id⟩

end Calls

/-! ## Operations -/

/-- An operation that returns closed what it opened, or leaked the descriptor
of the file it removed. -/
def Closed {Value : Type} (table : AList fun _ : Nat => OpenFile) :
    Outcome Crash Value → Recorded → Prop
  | .done _, after => Idle table after ∨ Leaked table after
  | .crashed _, _ => True

private def phases (table : AList fun _ : Nat => OpenFile)
    (operation : Operation) :
    Phases recordedFaults Transition.any operation where
  idle := Idle table
  checked _ _ _ := True
  holding _ := Holding table
  removed := Leaked table
  access := by
    intro path before reply after idle moved
    refine ⟨True.intro, idle.access moved, ?_⟩
    cases existenceOf reply <;> exact True.intro
  openFile := by
    intro path shouldExist before reply after _ idle _ moved
    have opened := idle.openFile moved
    refine ⟨True.intro, ?_⟩
    cases reply with
    | ok fd => exact opened
    | error number => exact opened
  transfer _ _ _ _ _ holding transfers moved :=
    ⟨True.intro, holding.transfer transfers moved⟩
  close _ _ _ _ _ holding moved := ⟨True.intro, holding.close moved⟩
  unlink := by
    intro diskId path fd before reply after _ holding moved
    have unlinked := holding.unlink moved
    refine ⟨True.intro, ?_⟩
    cases reply with
    | ok answer => exact unlinked
    | error number => exact unlinked

/-- Every operation closes what it opens, except the descriptor of a file it
removes. -/
theorem PosixDiskManager.closed_perform {base : DiskManager}
    {self : PosixDiskManager} {table : AList fun _ : Nat => OpenFile}
    {state : Recorded} (idle : Idle table state) (operation : Operation) :
    ((perform base operation).run self).wp recordedFaults Transition.any
      (Closed table) state := by
  refine Program.wp_consequence
    ((phases table operation).wp_perform idle) ?_
  intro outcome after ended
  rcases outcome with value | reason
  · exact ended
  · exact True.intro

/-- In a run under faults every operation settles its descriptors, and as many
are open after it as before, exactly when no call of the run removed a
file. -/
theorem descriptors_balanced_iff (base : DiskManager)
    {courses : List Course} {world : World}
    (run :
      (World.courses base mayFail (fun _ => True)
        (fun _ _ => True)).Run courses world) :
    (∀ course ∈ courses, Balanced course.moves ∧
      openDescriptors course.after.fileSystem =
        openDescriptors course.before.fileSystem) ↔
      ∀ course ∈ courses, RemovesNothing course.moves := by
  have one : ∀ course ∈ courses,
      Balanced course.moves ∧
          openDescriptors course.after.fileSystem =
            openDescriptors course.before.fileSystem ↔
        RemovesNothing course.moves := by
    refine Machine.Run.invariant
      (fun courses _ => ∀ course ∈ courses,
        Balanced course.moves ∧
            openDescriptors course.after.fileSystem =
              openDescriptors course.before.fileSystem ↔
          RemovesNothing course.moves)
      (by simp) ?_ run
    intro earlier before course after _ inductionHypothesis step
    rcases step with ⟨rfl, rfl, _, performed⟩
    rw [List.forall_mem_append, List.forall_mem_singleton]
    refine ⟨inductionHypothesis, ?_⟩
    have begun :
        Idle course.before.fileSystem.descriptors
          (course.before.fileSystem, []) :=
      ⟨rfl, rfl, by simp [RemovesNothing]⟩
    have closed :=
      performed.post_of_recorded
        (PosixDiskManager.closed_perform begun course.operation)
    rcases closed with idle | leaked
    · refine iff_of_true ⟨idle.settled, ?_⟩ idle.nothing
      exact congrArg (fun table => table.keys.length) idle.table
    · obtain ⟨⟨descriptor, oneMore⟩, removed⟩ := leaked
      refine iff_of_false ?_ removed
      intro both
      rcases both with ⟨balanced, _⟩
      have holds := oneMore.holds
      rw [balanced] at holds
      cases holds
  constructor
  · exact fun settled course member =>
      (one course member).mp (settled course member)
  · exact fun nothing course member =>
      (one course member).mpr (nothing course member)

/-- A read of a new disk opens and closes one descriptor. -/
theorem descriptors_balanced_iff_small :
    ∃ moves world,
      (World.courses smallBase mayFail (fun _ => True)
          (fun _ _ => True)).Run
        [⟨World.smallDisk, .read 0 0 [1, 2], moves, .buffer .ok [0, 0],
          world⟩] world ∧
        ((∀ course ∈
            [Course.mk World.smallDisk (.read 0 0 [1, 2]) moves
              (.buffer .ok [0, 0]) world],
            Balanced course.moves ∧
              openDescriptors course.after.fileSystem =
                openDescriptors course.before.fileSystem) ↔
          ∀ course ∈
            [Course.mk World.smallDisk (.read 0 0 [1, 2]) moves
              (.buffer .ok [0, 0]) world],
            RemovesNothing course.moves) := by
  obtain ⟨moves, run⟩ :=
    World.courses_of_planned smallBase World.smallDisk (.read 0 0 [1, 2])
      (.buffer .ok [0, 0]) (fun _ => .none) rfl
  exact ⟨moves, _, run, descriptors_balanced_iff smallBase run⟩

/-- After a destroy one more descriptor is open than before. -/
theorem destroy_leaks_descriptor :
    ∃ moves world,
      (World.courses smallBase mayFail (fun _ => True)
          (fun _ _ => True)).Run
        [⟨World.smallDisk, .destroy 0, moves, .void .ok, world⟩] world ∧
        openDescriptors World.smallDisk.fileSystem = 0 ∧
        openDescriptors world.fileSystem = 1 := by
  obtain ⟨moves, run⟩ :=
    World.courses_of_planned smallBase World.smallDisk (.destroy 0)
      (.void .ok) (fun _ => .none) rfl
  exact ⟨moves, _, run, rfl, rfl⟩

end Lewsql
