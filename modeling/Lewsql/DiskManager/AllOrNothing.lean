import Lewsql.DiskManager.Courses
import Lewsql.DiskManager.ManagerRuns
import Lewsql.DiskManager.Rules
import Lewsql.Posix.Faults

/-!
# Creating and destroying under faults

A plan says which of the calls of one operation fail.  `create` makes the file
with its third call and enters it into the table of the manager only at its end, so
a plan that lets the file be made and then fails in `load` leaves a file behind
that no id names.  `destroy` removes the file with its last effective call.
-/

namespace Lewsql

open Interaction Posix FileSystem

def laterFaults (plan : Nat → Fault) (count : Nat) : Nat → Fault :=
  fun index => plan (index + count)

abbrev Planned := FileSystem × (Nat → Fault)

/-- The answer of `exists` under a fault of its call. -/
def existenceUnder : Fault → Option Nat → DiskResult Bool
  | .fail, _ => .error .unkownError
  | .none, found => .value found.isSome
  | .short _, found => .value found.isSome

theorem PosixDisk.run_exists_planned (path : String) (fs : FileSystem)
    (plan : Nat → Fault) :
    (PosixDisk.exists path).run servePlanned (fs, plan) =
      (.done (existenceUnder (plan 0) (fs.lookup path)),
        (fs, laterFaults plan 1)) := by
  rw [PosixDisk.exists_eq]
  cases fault : plan 0 <;> cases found : fs.lookup path <;>
    simp only [Program.run_call, Program.run_done, servePlanned, serveWith,
      serve, fault, found] <;>
    rfl

theorem existenceUnder_fail {fault : Fault} {found : Option Nat}
    (fails : fault = .fail) :
    existenceUnder fault found = .error .unkownError := by
  rw [fails]
  rfl

theorem existenceUnder_of_ne {fault : Fault} {found : Option Nat}
    (works : fault ≠ .fail) :
    existenceUnder fault found = .value found.isSome := by
  cases fault with
  | fail => exact absurd rfl works
  | none => rfl
  | short count => rfl

/-- Calls that transfer no bytes, so that they fail or are served. -/
def TransfersNothing : Request → Prop
  | .write _ _ => False
  | .read _ _ => False
  | _ => True

theorem serveWith_of_ne {fault : Fault} {request : Request}
    {fs : FileSystem} (works : fault ≠ .fail)
    (whole : TransfersNothing request) :
    serveWith fault request fs = serve request fs := by
  cases fault with
  | fail => exact absurd rfl works
  | none => rfl
  | short count =>
      cases request <;> first | rfl | exact whole.elim

def opening (path : String) (fs : FileSystem) : FileSystem :=
  (serve (.openFile path) fs).2

/-- One of the two checks of `init` fails and the other does not. -/
def ChecksDiffer (plan : Nat → Fault) : Prop :=
  (plan 0 = .fail ∧ plan 1 ≠ .fail) ∨ (plan 0 ≠ .fail ∧ plan 1 = .fail)

def ReachesOpen (path : String) (shouldExist : Bool) (fs : FileSystem)
    (plan : Nat → Fault) : Prop :=
  plan 0 ≠ .fail ∧ plan 1 ≠ .fail ∧
    (fs.lookup path).isSome = shouldExist

/-- `init` under planned faults: it opens, it fails and leaves everything as it
was, or its two checks differ. -/
theorem opens_planned (base : DiskManager) (path : String)
    (shouldExist : Bool) (fs : FileSystem) (plan : Nat → Fault) :
    Opens servePlanned.transition Transition.any base path shouldExist
      (fun fd after =>
        ReachesOpen path shouldExist fs plan ∧ plan 2 ≠ .fail ∧
          fd = fs.freeDescriptor ∧
          after = (opening path fs, laterFaults plan 3))
      (fun _ after =>
        ¬ (ReachesOpen path shouldExist fs plan ∧ plan 2 ≠ .fail) ∧
          ¬ ChecksDiffer plan ∧ after.1 = fs)
      (fun _ _ => ChecksDiffer plan)
      (fs, plan) := by
  simp only [Opens]
  rw [Program.wp_handler, PosixDisk.init_eq]
  have first := PosixDisk.run_exists_planned path fs plan
  have second :=
    PosixDisk.run_exists_planned path fs (laterFaults plan 1)
  by_cases failsFirst : plan 0 = .fail
  · rw [existenceUnder_fail failsFirst] at first
    by_cases failsSecond : plan 1 = .fail
    · rw [existenceUnder_fail (by exact failsSecond)] at second
      rw [run_unwrap_error servePlanned first second]
      refine ⟨fun reached => reached.1.1 failsFirst, ?_, rfl⟩
      intro either
      rcases either with ⟨_, works⟩ | ⟨works, _⟩
      · exact works failsSecond
      · exact works failsFirst
    · rw [existenceUnder_of_ne (by exact failsSecond)] at second
      simp only [unwrap]
      rw [Program.run_bind_of_done servePlanned first, Result.isError_error,
        if_pos rfl, Program.run_bind_of_done servePlanned second]
      exact Or.inl ⟨failsFirst, failsSecond⟩
  · rw [existenceUnder_of_ne failsFirst] at first
    by_cases failsSecond : plan 1 = .fail
    · rw [existenceUnder_fail (by exact failsSecond)] at second
      simp only [unwrap]
      rw [Program.run_bind_of_done servePlanned first, Result.isError_value,
        if_neg Bool.false_ne_true,
        Program.run_bind_of_done servePlanned second,
        Result.getValue_error]
      exact Or.inr ⟨failsFirst, failsSecond⟩
    · rw [existenceUnder_of_ne (by exact failsSecond)] at second
      rw [run_unwrap_value servePlanned first second]
      have agree : ¬ ChecksDiffer plan := by
        intro either
        rcases either with ⟨fails, _⟩ | ⟨_, fails⟩
        · exact failsFirst fails
        · exact failsSecond fails
      by_cases asked : (fs.lookup path).isSome = shouldExist
      · rw [if_pos asked]
        by_cases failsOpen : plan 2 = .fail
        · have refused :
              servePlanned (.openFile path)
                  (fs, laterFaults (laterFaults plan 1) 1) =
                (.error .other, (fs, laterFaults plan 3)) := by
            change
              ((serveWith (plan 2) _ fs).1,
                (serveWith (plan 2) _ fs).2, _) = _
            rw [failsOpen]
            rfl
          rw [Program.run_call, refused]
          exact ⟨fun reached => reached.2 failsOpen, agree, rfl⟩
        · have opened :
              servePlanned (.openFile path)
                  (fs, laterFaults (laterFaults plan 1) 1) =
                (.ok fs.freeDescriptor,
                  (opening path fs, laterFaults plan 3)) := by
            change
              ((serveWith (plan 2) _ fs).1,
                (serveWith (plan 2) _ fs).2, _) = _
            rw [serveWith_of_ne failsOpen (by exact True.intro), opening]
            cases found : fs.lookup path <;> simp only [serve, found] <;>
              rfl
          rw [Program.run_call, opened]
          exact ⟨_, rfl, ⟨failsFirst, failsSecond, asked⟩, failsOpen, rfl,
            rfl⟩
      · rw [if_neg asked]
        exact ⟨fun reached => asked reached.1.2.2, agree, rfl⟩

/-! ## All or nothing -/

/-- Neither the table of loaded disks nor the directory changed. -/
def Unchanged (before after : World) : Prop :=
  after.manager.disks = before.manager.disks ∧
    after.fileSystem.resolve = before.fileSystem.resolve ∧
    after.fileSystem.entry = before.fileSystem.entry

/-- The disk did not exist and is there now, with an entry in the table under
an id that was not in use. -/
def Added (base : DiskManager) (diskName : DiskName) (diskId : DiskId)
    (before after : World) : Prop :=
  before.fileSystem.lookup (base.diskPath diskName) = none ∧
    (∃ inode, after.fileSystem.entry =
      Function.update before.fileSystem.entry
        (before.fileSystem.resolve (base.diskPath diskName))
        (some inode)) ∧
    diskId ∉ before.manager.disks ∧
    after.manager.disks =
      before.manager.disks.insert diskId (getDiskFullName diskName)

/-- The disk was loaded and existed, and neither is so any more. -/
def Removed (base : DiskManager) (diskId : DiskId)
    (before after : World) : Prop :=
  ∃ fileName inode,
    before.manager.disks.lookup diskId = some fileName ∧
      before.fileSystem.lookup (base.getDiskPath fileName) = some inode ∧
      after.manager.disks = before.manager.disks.erase diskId ∧
      after.fileSystem.entry =
        Function.update before.fileSystem.entry
          (before.fileSystem.resolve (base.getDiskPath fileName)) none

/-- A create without failing calls is not refused on account of what happened
since `before`. -/
def NotTaken (base : DiskManager) (diskName : DiskName)
    (before after : World) : Prop :=
  before.fileSystem.lookup (base.diskPath diskName) = none →
    (after.step base (.create diskName)).1 ≠
      .done (.diskId (.error .diskAlreadyExists))

def CreateAllOrNothing (base : DiskManager) (diskName : DiskName)
    (before : World) :
    Outcome Crash (DiskResult DiskId × PosixDiskManager) →
      FileSystem → Prop
  | .done (.value diskId, manager), after =>
      Added base diskName diskId before ⟨manager, after⟩
  | .done (.error _, manager), after =>
      Unchanged before ⟨manager, after⟩ ∧
        NotTaken base diskName before ⟨manager, after⟩
  | .crashed _, _ => True

def DestroyAllOrNothing (base : DiskManager) (diskId : DiskId)
    (before : World) :
    Outcome Crash (DiskResult Unit × PosixDiskManager) →
      FileSystem → Prop
  | .done (.value (), manager), after =>
      Removed base diskId before ⟨manager, after⟩
  | .done (.error _, manager), after => Unchanged before ⟨manager, after⟩
  | .crashed _, _ => True

/-- The plan lets `create` make its file and then fails in `load`. -/
def LeavesFile (base : DiskManager) (diskName : DiskName)
    (fs : FileSystem) (plan : Nat → Fault) : Prop :=
  fs.lookup (base.diskPath diskName) = none ∧
    (plan 0 ≠ .fail ∧ plan 1 ≠ .fail ∧ plan 2 ≠ .fail) ∧
    ((plan 4 = .fail ∧ plan 5 = .fail) ∨
      (plan 4 ≠ .fail ∧ plan 5 ≠ .fail ∧ plan 6 = .fail))

section Calls

variable {fs : FileSystem} {plan : Nat → Fault} {path : String}
variable {fd : Nat} {after : Planned}

/-- The plan moves on with every call. -/
private theorem served_planned {request : Request}
    {reply : Except Errno (Answer request)}
    (moved : servePlanned.transition (fs, plan) request reply after) :
    serveWith (plan 0) request fs = (reply, after.1) ∧
      after.2 = laterFaults plan 1 := by
  have served :
      ((serveWith (plan 0) request fs).1,
        (serveWith (plan 0) request fs).2, laterFaults plan 1) =
        (reply, after) := moved
  cases served
  exact ⟨rfl, rfl⟩

private theorem close_planned {reply : Except Errno Unit}
    {opened : OpenFile}
    (isOpen : fs.descriptors.lookup fd = some opened)
    (moved : servePlanned.transition (fs, plan) (.close fd) reply after) :
    after = (fs.release fd, laterFaults plan 1) := by
  obtain ⟨served, later⟩ := served_planned moved
  have closed : after.1 = fs.release fd :=
    mayFail_close ⟨plan 0, served⟩ isOpen
  exact Prod.ext closed later

private theorem opening_isOpen (fs : FileSystem) (path : String) :
    ∃ opened, (opening path fs).descriptors.lookup fs.freeDescriptor =
      some opened := by
  simp only [opening]
  cases found : fs.lookup path <;> simp only [serve, found] <;>
    exact ⟨_, descriptors_setDescriptor _ _ _⟩

private theorem release_opening (found : (fs.lookup path).isSome = true) :
    (opening path fs).release fs.freeDescriptor = fs := by
  simp only [opening]
  cases present : fs.lookup path with
  | none =>
      rw [present] at found
      cases found
  | some inode =>
      simp only [serve, present]
      exact release_setDescriptor _ _ _ (freeDescriptor_notMem fs)

private theorem release_opening_absent (absent : fs.lookup path = none) :
    (opening path fs).release fs.freeDescriptor = fs.link path := by
  simp only [opening]
  simp only [serve, absent]
  exact release_setDescriptor _ _ _ (freeDescriptor_notMem fs)

end Calls

/-- A create on a world that has no such file is not refused. -/
private theorem notTaken_of_unchanged {base : DiskManager}
    {diskName : DiskName} {before after : World}
    (same : Unchanged before after) : NotTaken base diskName before after := by
  intro absent refused
  have stillAbsent :
      after.fileSystem.lookup (base.diskPath diskName) = none := by
    simp only [FileSystem.lookup]
    rw [same.2.1, same.2.2]
    exact absent
  have fresh :=
    @PosixDiskManager.run_create_fresh base after.manager after.fileSystem
      diskName stillAbsent
  have made :
      (after.fileSystem.link (base.diskPath diskName)).lookup
          (base.diskPath diskName) =
        some after.fileSystem.nextInode :=
    lookup_link_self _ _
  by_cases room : after.manager.curDiskId = Int32.maxValue
  · have crashes := PosixDiskManager.run_load_overflow made room
    rw [World.step_of_crashed rfl (fresh.trans crashes)] at refused
    cases refused
  · have loads := PosixDiskManager.run_load made room
    rw [World.step_of_done rfl (fresh.trans loads)] at refused
    cases refused

namespace PosixDiskManager

variable {base : DiskManager} {self : PosixDiskManager}
variable {fs : FileSystem} {plan : Nat → Fault}
variable {diskName : DiskName} {diskId : DiskId}

/-- A load after the file was made. -/
private theorem load_planned {post :
      Outcome Crash (DiskResult DiskId × PosixDiskManager) → Planned → Prop}
    (absent : fs.lookup (base.diskPath diskName) = none)
    (works : plan 0 ≠ .fail ∧ plan 1 ≠ .fail ∧ plan 2 ≠ .fail)
    (error : LeavesFile base diskName fs plan → ∀ failure rest,
      post (.done (.error failure, self))
        (fs.link (base.diskPath diskName), rest))
    (crash : ¬ LeavesFile base diskName fs plan → ∀ reason after,
      post (.crashed reason) after)
    (value : ¬ LeavesFile base diskName fs plan → ∀ room rest,
      post (.done (.value self.curDiskId,
          self.insert (getDiskFullName diskName) room))
        (fs.link (base.diskPath diskName), rest)) :
    ((load base diskName).run self).wp servePlanned.transition
      Transition.any post
      (fs.link (base.diskPath diskName), laterFaults plan 4) := by
  have made :
      ((fs.link (base.diskPath diskName)).lookup
        (base.diskPath diskName)).isSome = true := by
    rw [lookup_link_self]
    rfl
  have kept (reached : ReachesOpen (base.diskPath diskName) true
        (fs.link (base.diskPath diskName)) (laterFaults plan 4))
      (opened : laterFaults plan 4 2 ≠ .fail) :
      ¬ LeavesFile base diskName fs plan := by
    intro given
    rcases given with ⟨_, _, ⟨fails, _⟩ | ⟨_, _, fails⟩⟩
    · exact reached.1 fails
    · exact opened fails
  refine wp_load (opens_planned base _ true _ _) ?_ ?_ ?_ ?_
  · intro failure returned failed
    rcases returned with ⟨_, rest⟩
    rcases failed with ⟨stopped, agree, rfl⟩
    refine error ⟨absent, works, ?_⟩ failure rest
    by_cases failsFirst : plan 4 = .fail
    · have failsSecond : plan 5 = .fail := by
        by_contra answered
        exact agree (Or.inl ⟨failsFirst, answered⟩)
      exact Or.inl ⟨failsFirst, failsSecond⟩
    · have answered : plan 5 ≠ .fail := by
        intro fails
        exact agree (Or.inr ⟨failsFirst, fails⟩)
      have failsOpen : plan 6 = .fail := by
        by_contra opened
        exact stopped ⟨⟨failsFirst, answered, made⟩, opened⟩
      exact Or.inr ⟨failsFirst, answered, failsOpen⟩
  · intro reason after differ
    refine crash ?_ reason after
    intro given
    rcases given with ⟨_, _, ⟨first, second⟩ | ⟨first, second, _⟩⟩
    · rcases differ with ⟨_, answered⟩ | ⟨answered, _⟩
      · exact answered second
      · exact answered first
    · rcases differ with ⟨fails, _⟩ | ⟨_, fails⟩
      · exact first fails
      · exact second fails
  · intro fd after _ ready
    rcases ready with ⟨reached, opened, _⟩
    exact crash (kept reached opened) _ after
  · intro fd after room ready reply last moved
    rcases ready with ⟨reached, opened, rfl, rfl⟩
    refine ⟨True.intro, ?_⟩
    obtain ⟨description, isOpen⟩ :=
      opening_isOpen (fs.link (base.diskPath diskName))
        (base.diskPath diskName)
    rw [close_planned isOpen moved, release_opening made]
    exact value (kept reached opened) room _

/-- A plan that makes no file or gets through its load. -/
private theorem not_leavesFile_of_not_opened {after : Planned}
    (stopped :
      ¬ (ReachesOpen (base.diskPath diskName) false fs plan ∧
        plan 2 ≠ .fail) ∧ ¬ ChecksDiffer plan ∧ after.1 = fs) :
    ¬ LeavesFile base diskName fs plan ∧ after.1 = fs := by
  refine ⟨?_, stopped.2.2⟩
  intro given
  rcases given with ⟨absent, ⟨first, second, third⟩, _⟩
  have missing :
      (fs.lookup (base.diskPath diskName)).isSome = false := by
    rw [absent]
    rfl
  exact stopped.1 ⟨⟨first, second, missing⟩, third⟩

private theorem not_leavesFile_of_differ (differ : ChecksDiffer plan) :
    ¬ LeavesFile base diskName fs plan := by
  intro given
  rcases given with ⟨_, ⟨first, second, _⟩, _⟩
  rcases differ with ⟨fails, _⟩ | ⟨_, fails⟩
  · exact first fails
  · exact second fails

private theorem id_notMem : self.curDiskId ∉ self.disks :=
  fun member => Int32.lt_irrefl (self.id_lt _ member)

/-- The first `init` of a create makes the file, or fails without a trace. -/
private theorem opens_new_planned (fs : FileSystem) (plan : Nat → Fault) :
    Opens servePlanned.transition Transition.any base
      (base.diskPath diskName) false
      (fun fd after =>
        fs.lookup (base.diskPath diskName) = none ∧
          (plan 0 ≠ .fail ∧ plan 1 ≠ .fail ∧ plan 2 ≠ .fail) ∧
          fd = fs.freeDescriptor ∧
          after =
            (opening (base.diskPath diskName) fs, laterFaults plan 3))
      (fun _ after =>
        ¬ LeavesFile base diskName fs plan ∧ after.1 = fs)
      (fun _ _ => ¬ LeavesFile base diskName fs plan)
      (fs, plan) := by
  refine
    (opens_planned base (base.diskPath diskName) false fs plan).mono ?_
      ?_ ?_
  · intro fd after ready
    obtain ⟨reached, opened, fdEq, afterEq⟩ := ready
    have absent : fs.lookup (base.diskPath diskName) = none :=
      Option.isNone_iff_eq_none.mp
        (Option.isSome_eq_false_iff.mp reached.2.2)
    exact ⟨absent, ⟨reached.1, reached.2.1, opened⟩, fdEq, afterEq⟩
  · intro failure after stopped
    exact not_leavesFile_of_not_opened stopped
  · intro reason after differ
    exact not_leavesFile_of_differ differ

/-- After a refusal another `init` leaves no trace of a failure either. -/
private theorem opens_again_planned {after : Planned}
    (refused : ¬ LeavesFile base diskName fs plan ∧ after.1 = fs) :
    Opens servePlanned.transition Transition.any base
      (base.diskPath diskName) false
      (fun _ _ => ¬ LeavesFile base diskName fs plan)
      (fun _ after =>
        ¬ LeavesFile base diskName fs plan ∧ after.1 = fs)
      (fun _ _ => ¬ LeavesFile base diskName fs plan)
      after := by
  refine
    (opens_planned base (base.diskPath diskName) false after.1
      after.2).mono ?_ ?_ ?_
  · intro fd last _
    exact refused.1
  · intro failure last stopped
    exact ⟨refused.1, stopped.2.2.trans refused.2⟩
  · intro reason last _
    exact refused.1

theorem create_planned (before : World) (plan : Nat → Fault) :
    ((create base diskName).run before.manager).wp
      servePlanned.transition Transition.any
      (fun outcome after =>
        CreateAllOrNothing base diskName before outcome after.1 ↔
          ¬ LeavesFile base diskName before.fileSystem plan)
      (before.fileSystem, plan) := by
  refine wp_create (opens_new_planned before.fileSystem plan)
    (fun _ _ refused => opens_again_planned refused) ?_ ?_ ?_ ?_
  · intro failure returned failed
    rcases returned with ⟨_, rest⟩
    rcases failed with ⟨kept, rfl⟩
    have same : Unchanged before ⟨before.manager, before.fileSystem⟩ :=
      ⟨rfl, rfl, rfl⟩
    exact iff_of_true ⟨same, notTaken_of_unchanged same⟩ kept
  · exact fun reason after kept => iff_of_true True.intro kept
  · exact fun fd after kept => iff_of_true True.intro kept
  · intro fd _ reply after ready moved
    rcases ready with ⟨absent, works, rfl, rfl⟩
    refine ⟨True.intro, ?_⟩
    obtain ⟨description, isOpen⟩ :=
      opening_isOpen before.fileSystem (base.diskPath diskName)
    rw [close_planned isOpen moved, release_opening_absent absent]
    refine load_planned absent works ?_ ?_ ?_
    · intro leaves failure rest
      refine iff_of_false ?_ (not_not.mpr leaves)
      intro both
      rcases both with ⟨same, _⟩
      have linked :
          (before.fileSystem.link (base.diskPath diskName)).lookup
              (base.diskPath diskName) =
            some before.fileSystem.nextInode :=
        lookup_link_self _ _
      simp only [FileSystem.lookup] at linked absent
      rw [same.2.2] at linked
      cases absent.symm.trans linked
    · exact fun kept reason after => iff_of_true True.intro kept
    · intro kept room rest
      exact iff_of_true
        ⟨absent, ⟨_, rfl⟩, id_notMem, rfl⟩ kept

theorem destroy_planned (before : World) (plan : Nat → Fault) :
    ((destroy base diskId).run before.manager).wp
      servePlanned.transition Transition.any
      (fun outcome after =>
        DestroyAllOrNothing base diskId before outcome after.1)
      (before.fileSystem, plan) := by
  cases loaded : before.manager.disks.lookup diskId with
  | none =>
      simp only [destroy_run, loaded]
      exact ⟨rfl, rfl, rfl⟩
  | some fileName =>
      have opens :
          Opens servePlanned.transition Transition.any base
            (base.getDiskPath fileName) true
            (fun fd after =>
              (before.fileSystem.lookup
                (base.getDiskPath fileName)).isSome = true ∧
                fd = before.fileSystem.freeDescriptor ∧
                after.1 =
                  opening (base.getDiskPath fileName) before.fileSystem)
            (fun _ after => after.1 = before.fileSystem)
            (fun _ _ => True)
            (before.fileSystem, plan) := by
        refine
          (opens_planned base (base.getDiskPath fileName) true
            before.fileSystem plan).mono ?_ ?_ ?_
        · intro fd after ready
          obtain ⟨reached, _, fdEq, afterEq⟩ := ready
          exact ⟨reached.2.2, fdEq, congrArg Prod.fst afterEq⟩
        · intro failure after stopped
          exact stopped.2.2
        · intro reason after _
          exact True.intro
      refine wp_destroy loaded opens ?_ (fun _ _ _ => True.intro) ?_ ?_
      · intro failure returned equal
        rcases returned with ⟨_, rest⟩
        rcases equal with rfl
        exact ⟨rfl, rfl, rfl⟩
      · intro fd returned reply after opened moved
        rcases returned with ⟨_, rest⟩
        rcases opened with ⟨found, rfl, rfl⟩
        refine ⟨True.intro, ?_⟩
        obtain ⟨served, _⟩ := served_planned moved
        obtain ⟨inode, present⟩ := Option.isSome_iff_exists.mp found
        have opened :
            opening (base.getDiskPath fileName) before.fileSystem =
              before.fileSystem.setDescriptor
                before.fileSystem.freeDescriptor ⟨inode, 0⟩ := by
          simp only [opening]
          simp only [serve, present]
        have stillPresent :
            (opening (base.getDiskPath fileName)
              before.fileSystem).lookup (base.getDiskPath fileName) =
                some inode := by
          rw [opened]
          exact present
        by_cases fails : rest 0 = .fail
        · change serveWith (rest 0) _ _ = _ at served
          rw [fails] at served
          obtain ⟨failed, same⟩ := Prod.mk.inj served
          subst failed
          exact ⟨found, rfl, same.symm⟩
        · change serveWith (rest 0) _ _ = _ at served
          rw [serveWith_of_ne fails (by exact True.intro)] at served
          simp only [serve, stillPresent] at served
          obtain ⟨answered, removed⟩ := Prod.mk.inj served
          subst answered
          refine ⟨⟨fileName, inode, loaded, present, rfl, ?_⟩, True.intro⟩
          change after.1.entry = _
          rw [← removed, opened]
          rfl
      · intro fd returned opened reply last moved
        rcases returned with ⟨_, rest⟩
        rcases opened with ⟨found, rfl, rfl⟩
        refine ⟨True.intro, ?_⟩
        obtain ⟨description, isOpen⟩ :=
          opening_isOpen before.fileSystem (base.getDiskPath fileName)
        rw [close_planned isOpen moved, release_opening found]
        exact ⟨rfl, rfl, rfl⟩

end PosixDiskManager

/-- A create under planned faults is all or nothing exactly when the plan does not
let it make its file and fail afterwards; a destroy always is. -/
theorem all_or_nothing_iff (base : DiskManager) (world : World)
    (plan : Nat → Fault) :
    (∀ diskName,
      CreateAllOrNothing base diskName world
          (((PosixDiskManager.create base diskName).run world.manager).run
            servePlanned (world.fileSystem, plan)).1
          (((PosixDiskManager.create base diskName).run world.manager).run
            servePlanned (world.fileSystem, plan)).2.1 ↔
        ¬ LeavesFile base diskName world.fileSystem plan) ∧
    ∀ diskId,
      DestroyAllOrNothing base diskId world
        (((PosixDiskManager.destroy base diskId).run world.manager).run
          servePlanned (world.fileSystem, plan)).1
        (((PosixDiskManager.destroy base diskId).run world.manager).run
          servePlanned (world.fileSystem, plan)).2.1 := by
  constructor
  · intro diskName
    exact Program.wp_run (PosixDiskManager.create_planned world plan)
  · intro diskId
    exact Program.wp_run (PosixDiskManager.destroy_planned world plan)

def failedCreate :
    Outcome Crash (DiskResult DiskId × PosixDiskManager) × Planned :=
  ((PosixDiskManager.create smallBase "a").run PosixDiskManager.new).run
    servePlanned
    (FileSystem.empty id, fun index => if index = 6 then .fail else .none)

/-- It reports an error, its file stays, and the next create of the same name is
refused. -/
theorem failed_create_leaves_file :
    failedCreate.1 =
        .done (.error .createDiskError, PosixDiskManager.new) ∧
      ¬ CreateAllOrNothing smallBase "a" (World.fresh id) failedCreate.1
        failedCreate.2.1 ∧
      ((World.mk PosixDiskManager.new failedCreate.2.1).step smallBase
        (.create "a")).1 = .done (.diskId (.error .diskAlreadyExists)) := by
  refine ⟨rfl, ?_, rfl⟩
  intro both
  rcases both with ⟨⟨_, _, same⟩, _⟩
  have left := congrFun same "d/a.disk"
  cases left

end Lewsql
