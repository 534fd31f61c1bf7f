import Lewsql.DiskManager.Descriptors
import Lewsql.DiskManager.DiskRuns
import Lewsql.Interaction.Ownership

/-!
# Disks that are moved

Objects that `init` made are move-constructed, move-assigned, closed and
destructed in any order.  An object is responsible for its descriptor while its
`should_close` is set.
-/

namespace Lewsql

open Interaction Posix FileSystem

/-- The descriptor that a disk closes at its end. -/
def PosixDisk.responsible (self : PosixDisk) : Option Nat :=
  if self.shouldClose then some self.fd else none

/-- The live objects by place, and which of them were closed or moved from. -/
structure Objects where
  disks : Nat → Option PosixDisk
  spent : Nat → Bool
  fileSystem : FileSystem

inductive ObjectOperation where
  | init (place : Nat) (path : String) (shouldExist : Bool)
      (pageSize maxDiskSize : UInt32)
  | moveConstruct (place source : Nat)
  | moveAssign (target source : Nat)
  | close (place : Nat)
  | destruct (place : Nat)
  deriving DecidableEq, Repr

structure ObjectStep where
  before : Objects
  operation : ObjectOperation
  moves : List (Move Posix.calls FileSystem)
  after : Objects

namespace Objects

def construct (self : Objects) (place : Nat) (disk : PosixDisk) :
    Objects :=
  { self with
    disks := Function.update self.disks place (some disk)
    spent := Function.update self.spent place false }

/-- An object after it was closed or moved from. -/
def spend (self : Objects) (place : Nat) (disk : PosixDisk) : Objects :=
  { self with
    disks := Function.update self.disks place (some disk)
    spent := Function.update self.spent place true }

def assign (self : Objects) (place : Nat) (disk : PosixDisk) : Objects :=
  { self with disks := Function.update self.disks place (some disk) }

def remove (self : Objects) (place : Nat) : Objects :=
  { self with
    disks := Function.update self.disks place none
    spent := Function.update self.spent place false }

def owned (self : Objects) (place : Nat) : Option Nat :=
  (self.disks place).bind PosixDisk.responsible

/-- One operation, with calls that are answered as `env` allows. -/
def Performs (env : Transition Posix.calls FileSystem) (before : Objects)
    (operation : ObjectOperation)
    (moves : List (Move Posix.calls FileSystem)) (after : Objects) :
    Prop :=
  match operation with
  | .init place path shouldExist pageSize maxDiskSize =>
      before.disks place = none ∧
        ∃ result fileSystem,
          Execution env
            (PosixDisk.init path shouldExist pageSize maxDiskSize)
            before.fileSystem moves (.done result) fileSystem ∧
          after =
            match result with
            | .value disk =>
                { before with fileSystem := fileSystem }.construct place
                  disk
            | .error _ => { before with fileSystem := fileSystem }
  | .moveConstruct place source =>
      before.disks place = none ∧ moves = [] ∧
        ∃ disk, before.disks source = some disk ∧
          after =
            (before.spend source disk.moveConstruct.2).construct place
              disk.moveConstruct.1
  | .moveAssign target source =>
      moves = [] ∧
        ∃ disk moved, before.disks target = some disk ∧
          before.disks source = some moved ∧
          after =
            if target = source then before
            else
              (before.spend source (disk.moveAssign moved).2).assign
                target (disk.moveAssign moved).1
  | .close place =>
      ∃ disk closed result fileSystem,
        before.disks place = some disk ∧
          Execution env (PosixDisk.close.run disk) before.fileSystem moves
            (.done (result, closed)) fileSystem ∧
          after =
            { before with fileSystem := fileSystem }.spend place closed
  | .destruct place =>
      ∃ disk fileSystem, before.disks place = some disk ∧
        Execution env disk.destructor before.fileSystem moves (.done ())
          fileSystem ∧
        after = { before with fileSystem := fileSystem }.remove place

/-- Operations one after another, from no object at all. -/
def machine (env : Transition Posix.calls FileSystem) :
    Machine Objects ObjectStep where
  start state :=
    state.disks = (fun _ => none) ∧ state.spent = fun _ => false
  step before step after :=
    step.before = before ∧ step.after = after ∧
      before.Performs env step.operation step.moves after

/-- Only an object that is responsible for a descriptor is moved into a new
object or closed, and what is assigned is nothing of its own to a target that has
nothing else to close. -/
def Permitted (before : Objects) : ObjectOperation → Prop
  | .init _ _ _ _ _ => True
  | .moveConstruct _ source => before.owned source ≠ none
  | .moveAssign target source =>
      target = source ∨
        before.owned source = none ∧
          ∀ disk moved, before.disks target = some disk →
            before.disks source = some moved →
              disk.shouldClose = true → disk.fd = moved.fd
  | .close place => before.owned place ≠ none
  | .destruct _ => True

end Objects

def allMoves (steps : List ObjectStep) :
    List (Move Posix.calls FileSystem) :=
  steps.flatMap ObjectStep.moves

theorem allMoves_append (steps : List ObjectStep) (step : ObjectStep) :
    allMoves (steps ++ [step]) = allMoves steps ++ step.moves := by
  simp [allMoves]

/-- Each descriptor that was opened and not closed yet has one object that is
responsible for it, and nothing else was closed. -/
def InOrder (steps : List ObjectStep) (state : Objects) : Prop :=
  ∃ held, ledger (allMoves steps) = some held ∧
    OwnedInOrder state.owned held

/-! ## What the operations do -/

namespace Objects

section Owned

variable (self : Objects) (place : Nat) (disk : PosixDisk)

@[simp]
theorem owned_construct :
    (self.construct place disk).owned =
      Function.update self.owned place disk.responsible := by
  funext other
  by_cases same : other = place
  · simp [owned, construct, same]
  · simp [owned, construct, same]

@[simp]
theorem owned_spend :
    (self.spend place disk).owned =
      Function.update self.owned place disk.responsible := by
  funext other
  by_cases same : other = place
  · simp [owned, spend, same]
  · simp [owned, spend, same]

@[simp]
theorem owned_assign :
    (self.assign place disk).owned =
      Function.update self.owned place disk.responsible := by
  funext other
  by_cases same : other = place
  · simp [owned, assign, same]
  · simp [owned, assign, same]

@[simp]
theorem owned_remove :
    (self.remove place).owned = Function.update self.owned place none := by
  funext other
  by_cases same : other = place
  · simp [owned, remove, same]
  · simp [owned, remove, same]

variable {self place disk}

theorem owned_of_some (alive : self.disks place = some disk) :
    self.owned place = disk.responsible := by
  simp [owned, alive]

theorem owned_of_none (dead : self.disks place = none) :
    self.owned place = none := by
  simp [owned, dead]

/-- To take nothing away changes no responsibility. -/
theorem update_owned_none (idle : self.owned place = none) :
    Function.update self.owned place none = self.owned := by
  rw [← idle, Function.update_eq_self]

end Owned

end Objects

namespace PosixDisk

theorem responsible_of_owns {self : PosixDisk}
    (owns : self.shouldClose = true) : self.responsible = some self.fd :=
  if_pos owns

theorem responsible_of_not {self : PosixDisk}
    (idle : self.shouldClose = false) : self.responsible = none := by
  simp [responsible, idle]

section Courses

variable {env : Transition Posix.calls FileSystem} {self : PosixDisk}
variable {before after : FileSystem}
variable {moves : List (Move Posix.calls FileSystem)}

theorem close_run_eq :
    PosixDisk.close.run self =
      .call (.close self.fd) fun reply =>
        .done
          (match reply with
            | .ok () => .ok
            | .error _ => .error .closeDiskError,
            { self with shouldClose := false }) := by
  simp only [close, posix, Program.perform]
  simp
  funext reply
  cases reply <;> rfl

/-- An explicit close makes one call, whoever is responsible. -/
theorem close_course {result : DiskResult Unit} {closed : PosixDisk}
    (course :
      Execution env (PosixDisk.close.run self) before moves
        (.done (result, closed)) after) :
    closed = { self with shouldClose := false } ∧
      ∃ reply, env before (.close self.fd) reply after ∧
        moves = [⟨before, .close self.fd, reply, after⟩] := by
  rw [close_run_eq] at course
  cases course with
  | call moved rest =>
      cases rest with
      | done value state => exact ⟨rfl, _, moved, rfl⟩

/-- The destructor of an object that is responsible makes one call. -/
theorem destructor_course
    (course :
      Execution env self.destructor before moves (.done ()) after) :
    (self.responsible = some self.fd ∧
      ∃ reply, env before (.close self.fd) reply after ∧
        moves = [⟨before, .close self.fd, reply, after⟩]) ∨
    (self.responsible = none ∧ after = before ∧ moves = []) := by
  cases owns : self.shouldClose with
  | true =>
      rw [destructor_of_owns owns] at course
      cases course with
      | call moved rest =>
          cases rest with
          | done value state =>
              exact .inl ⟨responsible_of_owns owns, _, moved, rfl⟩
  | false =>
      have nothing : self.destructor = .done () := by
        simp [destructor, owns]
      rw [nothing] at course
      cases course with
      | done value state =>
          exact .inr ⟨responsible_of_not owns, rfl, rfl⟩

end Courses

end PosixDisk

/-- What an object is responsible for is its own descriptor. -/
theorem Objects.owned_eq_fd {self : Objects} {place : Nat}
    {disk : PosixDisk} (alive : self.disks place = some disk)
    (owns : self.owned place ≠ none) :
    self.owned place = some disk.fd := by
  have owned := owned_of_some alive
  cases should : disk.shouldClose with
  | true => rw [owned, PosixDisk.responsible_of_owns should]
  | false =>
      rw [PosixDisk.responsible_of_not should] at owned
      exact absurd owned owns

/-! ## An `init` in the middle of a run -/

section Init

variable {held : List Nat} {table : AList fun _ : Nat => OpenFile}

private structure At (table : AList fun _ : Nat => OpenFile)
    (held : List Nat) (state : Recorded) : Prop where
  table : state.1.descriptors = table
  settled : ledger state.2 = some held

private structure OpenedAt (table : AList fun _ : Nat => OpenFile)
    (held : List Nat) (fd : Nat) (state : Recorded) : Prop where
  free : fd ∉ table
  table : ∃ opened, state.1.descriptors = table.insert fd opened
  settled : ledger state.2 = some (fd :: held)

private theorem At.access {before after : Recorded} {path : String}
    {reply : Except Errno Unit} (here : At table held before)
    (moved : recordedFaults before (.access path) reply after) :
    At table held after := by
  obtain ⟨_, rfl, served, recorded⟩ := moved
  constructor
  · rw [mayFail_keepsDescriptors served True.intro]
    exact here.table
  · rw [recorded, ledger_append here.settled]
    rfl

private theorem At.openFile {before after : Recorded} {path : String}
    {reply : Except Errno Nat} (here : At table held before)
    (moved : recordedFaults before (.openFile path) reply after) :
    match reply with
    | .ok fd => OpenedAt table held fd after
    | .error _ => At table held after := by
  obtain ⟨_, rfl, served, recorded⟩ := moved
  cases reply with
  | ok fd =>
      obtain ⟨free, opened, grown⟩ := mayFail_openFile_ok served
      rw [here.table] at free grown
      refine ⟨free, ⟨opened, grown⟩, ?_⟩
      rw [recorded, ledger_append here.settled]
      rfl
  | error number =>
      constructor
      · rw [mayFail_openFile_error served]
        exact here.table
      · rw [recorded, ledger_append here.settled]
        rfl

private theorem init_course {path : String} {shouldExist : Bool}
    {pageSize maxDiskSize : UInt32} {before after : FileSystem}
    {earlier moves : List (Move Posix.calls FileSystem)}
    {result : DiskResult PosixDisk}
    (course :
      Execution mayFail
        (PosixDisk.init path shouldExist pageSize maxDiskSize) before
        moves (.done result) after)
    (settled : ledger earlier = some held) :
    match result with
    | .value disk =>
        ∃ fd, disk = PosixDisk.new path fd pageSize maxDiskSize ∧
          OpenedAt before.descriptors held fd (after, earlier ++ moves)
    | .error _ =>
        At before.descriptors held (after, earlier ++ moves) := by
  have here : At before.descriptors held (before, earlier) :=
    ⟨rfl, settled⟩
  have checks :
      Checks recordedFaults Transition.any path
        (At before.descriptors held) (fun _ _ => True) True := by
    intro first reply second here moved
    refine ⟨True.intro, here.access moved, ?_⟩
    rcases reply with (_ | _) | ⟨⟩ <;> exact True.intro
  have opens :
      Opens recordedFaults Transition.any ⟨"", pageSize, maxDiskSize⟩ path
        shouldExist (OpenedAt before.descriptors held)
        (fun _ => At before.descriptors held) (fun _ _ => True)
        (before, earlier) := by
    refine PosixDisk.wp_init checks ?_ (fun _ here _ => here)
      (fun _ _ here => here) (fun _ _ _ _ _ => True.intro) here
    intro first reply second here _ moved
    refine ⟨True.intro, ?_⟩
    have opened := here.openFile moved
    cases reply with
    | ok fd => exact opened
    | error number => exact opened
  have ended := course.post_of_recorded_after opens
  cases result with
  | value disk => exact ended
  | error failure => exact ended

end Init

/-! ## Runs in order -/

/-- The order of a moment, with what the next operations need. -/
structure Ordered (steps : List ObjectStep) (state : Objects)
    (held : List Nat) : Prop where
  settled : ledger (allMoves steps) = some held
  order : OwnedInOrder state.owned held
  isOpen : ∀ fd ∈ held, fd ∈ state.fileSystem.descriptors
  spent : ∀ place, state.spent place = true → state.owned place = none

section Steps

variable {steps : List ObjectStep} {before after : Objects}
variable {held : List Nat} {place source target : Nat}
variable {moves : List (Move Posix.calls FileSystem)}

theorem Ordered.inOrder (ordered : Ordered steps before held) :
    InOrder steps before :=
  ⟨held, ordered.settled, ordered.order⟩

/-- Closing takes a descriptor out of the ledger, or spoils it. -/
theorem ledger_close (settled : ledger moves = some held) (fd : Nat)
    (reply : Except Errno Unit) (first second : FileSystem) :
    ledger (moves ++ [⟨first, .close fd, reply, second⟩]) =
      if fd ∈ held then some (held.erase fd) else none :=
  ledger_append settled

theorem Ordered.init (ordered : Ordered steps before held)
    {path : String} {shouldExist : Bool} {pageSize maxDiskSize : UInt32}
    (performed :
      before.Performs mayFail
        (.init place path shouldExist pageSize maxDiskSize) moves after) :
    ∃ next, Ordered
      (steps ++ [⟨before,
        .init place path shouldExist pageSize maxDiskSize, moves, after⟩])
      after next := by
  obtain ⟨dead, result, fileSystem, course, rfl⟩ := performed
  have idle := Objects.owned_of_none dead
  have ended := init_course course ordered.settled
  cases result with
  | error failure =>
      refine ⟨held, ?_, ordered.order, ?_, ordered.spent⟩
      · rw [allMoves_append]
        exact ended.settled
      · intro fd member
        change fd ∈ fileSystem.descriptors
        rw [ended.table]
        exact ordered.isOpen fd member
  | value disk =>
      obtain ⟨fd, rfl, opened⟩ := ended
      have fresh : fd ∉ held :=
        fun member => opened.free (ordered.isOpen fd member)
      refine ⟨fd :: held, ?_, ?_, ?_, ?_⟩
      · rw [allMoves_append]
        exact opened.settled
      · dsimp only
        rw [Objects.owned_construct]
        exact ordered.order.acquire fresh idle
      · obtain ⟨file, grown⟩ := opened.table
        intro other member
        change other ∈ fileSystem.descriptors
        rw [grown, AList.mem_insert]
        rcases List.mem_cons.mp member with same | old
        · exact .inl same
        · exact .inr (ordered.isOpen other old)
      · intro other spent
        dsimp only at spent ⊢
        rw [Objects.owned_construct]
        by_cases same : other = place
        · simp [Objects.construct, same] at spent
        · simp only [Objects.construct, Function.update_of_ne same]
            at spent
          rw [Function.update_of_ne same]
          exact ordered.spent other spent

theorem Ordered.moveConstruct (ordered : Ordered steps before held)
    (performed :
      before.Performs mayFail (.moveConstruct place source) moves after)
    (permitted : before.Permitted (.moveConstruct place source)) :
    Ordered
      (steps ++ [⟨before, .moveConstruct place source, moves, after⟩])
      after held := by
  obtain ⟨dead, rfl, disk, alive, rfl⟩ := performed
  have idle := Objects.owned_of_none dead
  have owns := Objects.owned_eq_fd alive permitted
  refine ⟨?_, ?_, ordered.isOpen, ?_⟩
  · rw [allMoves_append, List.append_nil]
    exact ordered.settled
  · rw [Objects.owned_construct, Objects.owned_spend]
    exact ordered.order.transfer owns idle
  · intro other spent
    rw [Objects.owned_construct, Objects.owned_spend]
    by_cases same : other = place
    · simp [Objects.construct, same] at spent
    · rw [Function.update_of_ne same]
      by_cases moved : other = source
      · rw [moved, Function.update_self]
        rfl
      · simp only [Objects.construct, Objects.spend,
          Function.update_of_ne same, Function.update_of_ne moved]
          at spent
        rw [Function.update_of_ne moved]
        exact ordered.spent other spent

/-- A permitted assignment changes no responsibility. -/
theorem Objects.owned_moveAssign
    (performed :
      before.Performs mayFail (.moveAssign target source) moves after)
    (permitted : before.Permitted (.moveAssign target source)) :
    after.owned = before.owned := by
  obtain ⟨rfl, disk, moved, alive, aliveSource, rfl⟩ := performed
  by_cases same : target = source
  · rw [if_pos same]
  · rw [if_neg same, Objects.owned_assign, Objects.owned_spend]
    rcases permitted with equal | ⟨idle, sameFd⟩
    · exact absurd equal same
    · have kept :
          (disk.moveAssign moved).1.responsible = disk.responsible := by
        cases should : disk.shouldClose with
        | true =>
            have fd := sameFd disk moved alive aliveSource should
            simp [PosixDisk.responsible, PosixDisk.moveAssign, should, fd]
        | false =>
            simp [PosixDisk.responsible, PosixDisk.moveAssign, should]
      have gone : (disk.moveAssign moved).2.responsible = none := rfl
      calc
        _ = Function.update
              (Function.update before.owned source (before.owned source))
              target (before.owned target) := by
          rw [kept, gone, ← Objects.owned_of_some alive, ← idle]
        _ = before.owned := by
          rw [Function.update_eq_self, Function.update_eq_self]

theorem Ordered.moveAssign (ordered : Ordered steps before held)
    (performed :
      before.Performs mayFail (.moveAssign target source) moves after)
    (permitted : before.Permitted (.moveAssign target source)) :
    Ordered
      (steps ++ [⟨before, .moveAssign target source, moves, after⟩])
      after held := by
  have same := Objects.owned_moveAssign performed permitted
  obtain ⟨rfl, disk, moved, alive, aliveSource, rfl⟩ := performed
  refine ⟨?_, ?_, ?_, ?_⟩
  · rw [allMoves_append, List.append_nil]
    exact ordered.settled
  · rw [same]
    exact ordered.order
  · intro fd member
    have isOpen := ordered.isOpen fd member
    split_ifs
    · exact isOpen
    · exact isOpen
  · intro other spent
    rw [same]
    by_cases self : target = source
    · rw [if_pos self] at spent
      exact ordered.spent other spent
    · rw [if_neg self] at spent
      by_cases isSource : other = source
      · rw [isSource]
        rcases permitted with equal | ⟨idle, _⟩
        · exact absurd equal self
        · exact idle
      · simp only [Objects.assign, Objects.spend,
          Function.update_of_ne isSource] at spent
        exact ordered.spent other spent

/-- A call that closes what an object is responsible for. -/
theorem Ordered.closed (ordered : Ordered steps before held)
    {operation : ObjectOperation} {fd : Nat} {fileSystem : FileSystem}
    {reply : Except Errno Unit}
    (owns : before.owned place = some fd)
    (moved :
      mayFail before.fileSystem (.close fd) reply fileSystem)
    (owned : after.owned = Function.update before.owned place none)
    (kept : after.fileSystem = fileSystem)
    (spent : ∀ other, other ≠ place → after.spent other = true →
      before.spent other = true) :
    Ordered
      (steps ++ [⟨before, operation,
        [⟨before.fileSystem, .close fd, reply, fileSystem⟩], after⟩])
      after (held.erase fd) := by
  have member : fd ∈ held := (ordered.order.mem_iff fd).mpr ⟨place, owns⟩
  refine ⟨?_, ?_, ?_, ?_⟩
  · rw [allMoves_append, ledger_close ordered.settled, if_pos member]
  · rw [owned]
    exact ordered.order.release owns
  · intro other still
    obtain ⟨different, old⟩ :=
      ordered.order.nodup.mem_erase_iff.mp still
    obtain ⟨opened, isOpen⟩ := Option.isSome_iff_exists.mp
      (AList.lookup_isSome.mpr (ordered.isOpen fd member))
    rw [kept, mayFail_close moved isOpen]
    exact (AList.mem_erase.mpr ⟨different, ordered.isOpen other old⟩)
  · intro other isSpent
    rw [owned]
    by_cases same : other = place
    · rw [same, Function.update_self]
    · rw [Function.update_of_ne same]
      exact ordered.spent other (spent other same isSpent)

theorem Ordered.close (ordered : Ordered steps before held)
    (performed : before.Performs mayFail (.close place) moves after)
    (permitted : before.Permitted (.close place)) :
    ∃ next, Ordered (steps ++ [⟨before, .close place, moves, after⟩])
      after next := by
  obtain ⟨disk, closed, result, fileSystem, alive, course, rfl⟩ :=
    performed
  obtain ⟨rfl, reply, moved, rfl⟩ := PosixDisk.close_course course
  have owns := Objects.owned_eq_fd alive permitted
  refine ⟨_, ordered.closed owns moved ?_ rfl ?_⟩
  · rw [Objects.owned_spend]
    rfl
  · intro other different spent
    simp only [Objects.spend, Function.update_of_ne different] at spent
    exact spent

theorem Ordered.destruct (ordered : Ordered steps before held)
    (performed : before.Performs mayFail (.destruct place) moves after) :
    ∃ next, Ordered (steps ++ [⟨before, .destruct place, moves, after⟩])
      after next := by
  obtain ⟨disk, fileSystem, alive, course, rfl⟩ := performed
  have owned := Objects.owned_of_some alive
  have kept : ∀ other, other ≠ place →
      (Objects.remove { before with fileSystem := fileSystem }
        place).spent other = true → before.spent other = true := by
    intro other different spent
    simp only [Objects.remove, Function.update_of_ne different] at spent
    exact spent
  rcases PosixDisk.destructor_course course with
    ⟨owns, reply, moved, rfl⟩ | ⟨idle, rfl, rfl⟩
  · rw [owns] at owned
    exact ⟨_, ordered.closed owned moved (Objects.owned_remove _ _) rfl
      kept⟩
  · rw [idle] at owned
    have same :
        (Objects.remove before place).owned = before.owned := by
      rw [Objects.owned_remove, Objects.update_owned_none owned]
    refine ⟨held, ?_, ?_, ordered.isOpen, ?_⟩
    · rw [allMoves_append, List.append_nil]
      exact ordered.settled
    · exact same ▸ ordered.order
    · intro other spent
      have isSpent : (Objects.remove before place).spent other = true :=
        spent
      by_cases here : other = place
      · simp [Objects.remove, here] at isSpent
      · exact (congrFun same other).trans
          (ordered.spent other (kept other here isSpent))

/-! ### The condition is needed -/

theorem InOrder.moveConstruct (ordered : Ordered steps before held)
    (performed :
      before.Performs mayFail (.moveConstruct place source) moves after)
    (inOrder :
      InOrder
        (steps ++
          [⟨before, .moveConstruct place source, moves, after⟩]) after) :
    before.Permitted (.moveConstruct place source) := by
  obtain ⟨dead, rfl, disk, alive, rfl⟩ := performed
  obtain ⟨next, settled, order⟩ := inOrder
  rw [allMoves_append, List.append_nil, ordered.settled] at settled
  cases settled
  intro idle
  have gone : disk.moveConstruct.2.responsible = none := rfl
  have kept := Objects.update_owned_none idle
  rw [Objects.owned_construct, Objects.owned_spend, gone, kept] at order
  exact ordered.order.not_acquire (Objects.owned_of_none dead) order

theorem InOrder.moveAssign (ordered : Ordered steps before held)
    (performed :
      before.Performs mayFail (.moveAssign target source) moves after)
    (inOrder :
      InOrder
        (steps ++ [⟨before, .moveAssign target source, moves, after⟩])
        after) :
    before.Permitted (.moveAssign target source) := by
  obtain ⟨rfl, disk, moved, alive, aliveSource, rfl⟩ := performed
  obtain ⟨next, settled, order⟩ := inOrder
  rw [allMoves_append, List.append_nil, ordered.settled] at settled
  cases settled
  by_cases same : target = source
  · exact .inl same
  · have gone : (disk.moveAssign moved).2.responsible = none := rfl
    rw [if_neg same, Objects.owned_assign, Objects.owned_spend, gone]
      at order
    have ofTarget (should : disk.shouldClose = true) :
        moved.fd = disk.fd := by
      have owns : before.owned target = some disk.fd := by
        rw [Objects.owned_of_some alive,
          PosixDisk.responsible_of_owns should]
      have held := ordered.order.left_with order owns (.inl rfl)
      have holds :
          (disk.moveAssign moved).1.responsible = some moved.fd :=
        PosixDisk.responsible_of_owns should
      rw [holds] at held
      exact Option.some.inj held
    refine .inr ⟨?_, ?_⟩
    · cases owned : before.owned source with
      | none => rfl
      | some fd =>
          have held := ordered.order.left_with order owned (.inr rfl)
          cases should : disk.shouldClose with
          | false =>
              have nothing :
                  (disk.moveAssign moved).1.responsible = none :=
                PosixDisk.responsible_of_not should
              rw [nothing] at held
              cases held
          | true =>
              have holds :
                  (disk.moveAssign moved).1.responsible = some moved.fd :=
                PosixDisk.responsible_of_owns should
              have owns : before.owned target = some fd := by
                rw [Objects.owned_of_some alive,
                  PosixDisk.responsible_of_owns should,
                  ← ofTarget should, ← holds]
                exact held
              exact absurd (ordered.order.sole _ _ _ owns owned) same
    · intro other otherMoved aliveOther aliveMoved should
      cases alive.symm.trans aliveOther
      cases aliveSource.symm.trans aliveMoved
      exact (ofTarget should).symm

theorem InOrder.close (ordered : Ordered steps before held)
    (performed : before.Performs mayFail (.close place) moves after)
    (inOrder :
      InOrder (steps ++ [⟨before, .close place, moves, after⟩]) after) :
    before.Permitted (.close place) := by
  obtain ⟨disk, closed, result, fileSystem, alive, course, rfl⟩ :=
    performed
  obtain ⟨rfl, reply, moved, rfl⟩ := PosixDisk.close_course course
  obtain ⟨next, settled, order⟩ := inOrder
  intro idle
  rw [allMoves_append, ledger_close ordered.settled] at settled
  split_ifs at settled with member
  cases settled
  have kept := Objects.update_owned_none idle
  have still : disk.fd ∈ held.erase disk.fd := by
    rw [order.mem_iff, Objects.owned_spend]
    obtain ⟨keeper, owns⟩ := (ordered.order.mem_iff disk.fd).mp member
    refine ⟨keeper, ?_⟩
    change Function.update before.owned place none keeper = _
    rw [kept]
    exact owns
  exact (ordered.order.nodup.mem_erase_iff.mp still).1 rfl

end Steps

/-- An operation keeps the order exactly when it is permitted. -/
theorem Ordered.step {steps : List ObjectStep} {before after : Objects}
    {held : List Nat} {operation : ObjectOperation}
    {moves : List (Move Posix.calls FileSystem)}
    (ordered : Ordered steps before held)
    (performed : before.Performs mayFail operation moves after) :
    (before.Permitted operation →
      ∃ next,
        Ordered (steps ++ [⟨before, operation, moves, after⟩]) after
          next) ∧
    (InOrder (steps ++ [⟨before, operation, moves, after⟩]) after →
      before.Permitted operation) := by
  cases operation with
  | init place path shouldExist pageSize maxDiskSize =>
      exact ⟨fun _ => ordered.init performed, fun _ => True.intro⟩
  | moveConstruct place source =>
      exact ⟨fun permitted => ⟨_, ordered.moveConstruct performed permitted⟩,
        InOrder.moveConstruct ordered performed⟩
  | moveAssign target source =>
      exact ⟨fun permitted => ⟨_, ordered.moveAssign performed permitted⟩,
        InOrder.moveAssign ordered performed⟩
  | close place =>
      exact ⟨ordered.close performed, InOrder.close ordered performed⟩
  | destruct place =>
      exact ⟨fun _ => ordered.destruct performed, fun _ => True.intro⟩

/-! ## Responsibility over whole runs -/

/-- The operation may end the responsibility of the object at a place. -/
def ObjectOperation.Ends (operation : ObjectOperation) (place : Nat) :
    Prop :=
  operation = .close place ∨ operation = .destruct place

def ClosesNothing (moves : List (Move Posix.calls FileSystem)) : Prop :=
  ∀ move ∈ moves, ∀ fd, move.request ≠ .close fd

/-- At most one object is responsible for a descriptor, no descriptor is closed
that is not open, all are closed once the objects are gone, and an object that was
closed or moved from closes nothing. -/
structure OwnedOnce (steps : List ObjectStep) (state : Objects) :
    Prop where
  sole : ∀ place other fd, state.owned place = some fd →
    state.owned other = some fd → place = other
  settled : ∃ held, ledger (allMoves steps) = some held
  gone : (∀ place, state.disks place = none) →
    Balanced (allMoves steps)
  quiet : ∀ step ∈ steps, ∀ place, step.operation.Ends place →
    step.before.spent place = true → ClosesNothing step.moves

def Objects.permitted : Machine Objects ObjectStep :=
  (machine mayFail).whenever fun before step =>
    before.Permitted step.operation

section Runs

variable {steps : List ObjectStep} {state : Objects}

theorem ordered_of_run (run : Objects.permitted.Run steps state) :
    ∃ held, Ordered steps state held := by
  refine Machine.Run.invariant
    (fun steps state => ∃ held, Ordered steps state held) ?_ ?_ run
  · intro state started
    rcases started with ⟨nobody, unspent⟩
    have owned : state.owned = fun _ => none := by
      funext place
      exact Objects.owned_of_none (congrFun nobody place)
    refine ⟨[], rfl, ?_, by simp, ?_⟩
    · rw [owned]
      exact OwnedInOrder.nobody
    · intro place spent
      rw [unspent] at spent
      cases spent
  · intro earlier before step after _ ordered stepped
    rcases ordered with ⟨held, ordered⟩
    rcases stepped with ⟨permitted, rfl, rfl, performed⟩
    exact (ordered.step performed).1 permitted

/-- A spent object is destructed without a call, and not closed again. -/
theorem quiet_of_permitted {before after : Objects} {place : Nat}
    {operation : ObjectOperation}
    {moves : List (Move Posix.calls FileSystem)}
    (performed : before.Performs mayFail operation moves after)
    (permitted : before.Permitted operation)
    (ends : operation.Ends place) (idle : before.owned place = none) :
    ClosesNothing moves := by
  rcases ends with rfl | rfl
  · exact absurd idle permitted
  · obtain ⟨disk, fileSystem, alive, course, rfl⟩ := performed
    rw [Objects.owned_of_some alive] at idle
    rcases PosixDisk.destructor_course course with
      ⟨owns, _⟩ | ⟨_, _, rfl⟩
    · rw [owns] at idle
      cases idle
    · intro move member
      cases member

theorem quiet_of_run (run : Objects.permitted.Run steps state) :
    ∀ step ∈ steps, ∀ place, step.operation.Ends place →
      step.before.spent place = true → ClosesNothing step.moves := by
  refine Machine.Run.invariant
    (fun steps _ => ∀ step ∈ steps, ∀ place,
      step.operation.Ends place → step.before.spent place = true →
        ClosesNothing step.moves) ?_ ?_ run
  · intro _ _ step member
    cases member
  · intro earlier before step after run quiet stepped
    rcases stepped with ⟨permitted, rfl, rfl, performed⟩
    obtain ⟨held, ordered⟩ := ordered_of_run run
    rw [List.forall_mem_append, List.forall_mem_singleton]
    refine ⟨quiet, ?_⟩
    intro place ends spent
    exact quiet_of_permitted performed permitted ends
      (ordered.spent place spent)

/-- In a run of permitted operations every descriptor has one object that closes
it, once; and in such a run the next operation keeps that order exactly when it is
permitted. -/
theorem descriptors_owned_once
    (run : Objects.permitted.Run steps state) :
    OwnedOnce steps state ∧
      ∀ step after, (Objects.machine mayFail).step state step after →
        (InOrder (steps ++ [step]) after ↔
          state.Permitted step.operation) := by
  obtain ⟨held, ordered⟩ := ordered_of_run run
  refine ⟨⟨ordered.order.sole, ⟨held, ordered.settled⟩, ?_,
    quiet_of_run run⟩, ?_⟩
  · intro gone
    have none := ordered.order.eq_nil fun place =>
      Objects.owned_of_none (gone place)
    rw [Balanced, ordered.settled, none]
  · intro step after stepped
    rcases stepped with ⟨rfl, rfl, performed⟩
    obtain ⟨forwards, backwards⟩ := ordered.step performed
    constructor
    · exact backwards
    · intro permitted
      obtain ⟨next, nextOrdered⟩ := forwards permitted
      exact nextOrdered.inOrder

/-- A run in which no call fails is a course in which calls may fail. -/
theorem execution_of_run {Value : Type} {program : Effect Value}
    {fileSystem last : FileSystem} {outcome : Outcome Crash Value}
    (ran : program.run serve fileSystem = (outcome, last)) :
    Execution mayFail program fileSystem
      (program.moves serve fileSystem) outcome last := by
  have course := program.execution_moves serve fileSystem
  rw [ran] at course
  exact course.mono fun _ _ _ _ moved => ⟨.none, moved⟩

namespace Objects

def empty : Objects :=
  ⟨fun _ => none, fun _ => false, FileSystem.empty id⟩

def initStep (before : Objects) (place : Nat) (path : String) :
    ObjectStep where
  before := before
  operation := .init place path false 2 8
  moves := (PosixDisk.init path false 2 8).moves serve before.fileSystem
  after :=
    { before with
      fileSystem :=
        ((PosixDisk.init path false 2 8).run serve
          before.fileSystem).2 }.construct place
      (PosixDisk.new path before.fileSystem.freeDescriptor 2 8)

def destructStep (before : Objects) (place : Nat) (disk : PosixDisk) :
    ObjectStep where
  before := before
  operation := .destruct place
  moves := disk.destructor.moves serve before.fileSystem
  after :=
    { before with
      fileSystem :=
        (disk.destructor.run serve before.fileSystem).2 }.remove place

variable {before : Objects} {place : Nat} {path : String}

theorem performs_initStep (dead : before.disks place = none)
    (absent : before.fileSystem.lookup path = none) :
    before.Performs mayFail (before.initStep place path).operation
      (before.initStep place path).moves
      (before.initStep place path).after := by
  have ran := PosixDisk.run_init_fresh before.fileSystem path 2 8 absent
  refine ⟨dead, _, _, execution_of_run ran, ?_⟩
  simp only [initStep, ran]

theorem performs_destructStep {disk : PosixDisk}
    (alive : before.disks place = some disk)
    (returns :
      (disk.destructor.run serve before.fileSystem).1 = .done ()) :
    before.Performs mayFail (before.destructStep place disk).operation
      (before.destructStep place disk).moves
      (before.destructStep place disk).after :=
  ⟨disk, _, alive, execution_of_run (Prod.ext returns rfl), rfl⟩

end Objects

/-- An object made by `init` and then moved into another one. -/
theorem descriptors_owned_once_moved :
    ∃ steps state, Objects.permitted.Run steps state ∧
      steps.map ObjectStep.operation =
        [.init 0 "d/a.disk" false 2 8, .moveConstruct 1 0] ∧
      OwnedOnce steps state := by
  have begun : Objects.permitted.Run [] Objects.empty :=
    .start ⟨rfl, rfl⟩
  have made : Objects.permitted.Run [Objects.empty.initStep 0 "d/a.disk"]
      (Objects.empty.initStep 0 "d/a.disk").after :=
    begun.step ⟨True.intro, rfl, rfl,
      Objects.performs_initStep rfl (by decide)⟩
  have moved :
      Objects.permitted.step (Objects.empty.initStep 0 "d/a.disk").after
        ⟨_, .moveConstruct 1 0, [], _⟩ _ :=
    ⟨show (Objects.empty.initStep 0 "d/a.disk").after.owned 0 ≠ none by
        decide,
      rfl, rfl, rfl, rfl, _, rfl, rfl⟩
  exact ⟨_, _, made.step moved, rfl,
    (descriptors_owned_once (made.step moved)).1⟩

private def assignStep : ObjectStep where
  before :=
    ((Objects.empty.initStep 0 "d/a.disk").after.initStep 1
      "d/b.disk").after
  operation := .moveAssign 0 1
  moves := []
  after :=
    ((((Objects.empty.initStep 0 "d/a.disk").after.initStep 1
      "d/b.disk").after.spend 1 ⟨"d/b.disk", 1, 2, 8, false⟩).assign 0
        ⟨"d/b.disk", 1, 2, 8, true⟩)

/-- A move assignment onto a live object: the descriptor that the target had is
never closed. -/
theorem moveAssign_leaks :
    ∃ steps state, (Objects.machine mayFail).Run steps state ∧
      steps.map ObjectStep.operation =
        [.init 0 "d/a.disk" false 2 8, .init 1 "d/b.disk" false 2 8,
          .moveAssign 0 1, .destruct 0, .destruct 1] ∧
      (∀ place, state.disks place = none) ∧ ¬ OwnedOnce steps state := by
  have begun : (Objects.machine mayFail).Run [] Objects.empty :=
    .start ⟨rfl, rfl⟩
  have first := begun.step ⟨rfl, rfl,
    @Objects.performs_initStep _ 0 "d/a.disk" rfl (by decide)⟩
  have second := first.step ⟨rfl, rfl,
    @Objects.performs_initStep _ 1 "d/b.disk" rfl (by decide)⟩
  have assigned :
      (Objects.machine mayFail).step assignStep.before assignStep
        assignStep.after :=
    ⟨rfl, rfl, rfl, ⟨"d/a.disk", 0, 2, 8, true⟩,
      ⟨"d/b.disk", 1, 2, 8, true⟩, rfl, rfl, rfl⟩
  have third := second.step assigned
  have fourth := third.step ⟨rfl, rfl,
    @Objects.performs_destructStep _ 0 ⟨"d/b.disk", 1, 2, 8, true⟩ rfl
      (by decide)⟩
  have fifth := fourth.step ⟨rfl, rfl,
    @Objects.performs_destructStep _ 1 ⟨"d/b.disk", 1, 2, 8, false⟩ rfl
      (by decide)⟩
  have dead : ∀ place,
      ((assignStep.after.destructStep 0
        ⟨"d/b.disk", 1, 2, 8, true⟩).after.destructStep 1
          ⟨"d/b.disk", 1, 2, 8, false⟩).after.disks place = none := by
    intro place
    by_cases isOne : place = 1
    · rw [isOne]
      rfl
    · by_cases isZero : place = 0
      · rw [isZero]
        rfl
      · simp [Objects.destructStep, Objects.remove, assignStep,
          Objects.assign, Objects.spend, Objects.initStep,
          Objects.construct, Objects.empty, isOne, isZero]
  refine ⟨_, _, fifth, rfl, dead, ?_⟩
  intro claimed
  have balanced := claimed.gone dead
  cases balanced

end Runs

end Lewsql
