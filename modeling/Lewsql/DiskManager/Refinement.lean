import Lewsql.DiskManager.ManagerRuns
import Lewsql.DiskManager.Representation

/-!
# The manager refines the paged store

Every operation that the store has a step for either takes that step or
overflows the id counter, so every history is a run of the store.
-/

namespace Lewsql

open Interaction Posix FileSystem

/-! ## Every operation takes a step of the store -/

/-- Operations on names and ids, and accesses in range with a buffer of one
page. -/
def Operation.Proper (base : DiskManager) : Operation → Prop
  | .write _ cursor bytes =>
      InRange base.pageSize base.maxDiskByteSize cursor ∧
        bytes.length = base.pageSize.toNat
  | .read _ cursor buffer =>
      InRange base.pageSize base.maxDiskByteSize cursor ∧
        buffer.length = base.pageSize.toNat
  | operation => operation.OnTable

instance (base : DiskManager) : DecidablePred (Operation.Proper base)
  | .write _ _ _ => inferInstanceAs (Decidable (_ ∧ _))
  | .read _ _ _ => inferInstanceAs (Decidable (_ ∧ _))
  | .create diskName =>
      inferInstanceAs (Decidable (Operation.create diskName).OnTable)
  | .load diskName =>
      inferInstanceAs (Decidable (Operation.load diskName).OnTable)
  | .exists diskName =>
      inferInstanceAs (Decidable (Operation.exists diskName).OnTable)
  | .unload _ => inferInstanceAs (Decidable True)
  | .destroy _ => inferInstanceAs (Decidable True)
  | .isLoaded _ => inferInstanceAs (Decidable True)
  | .loadedDiskName _ => inferInstanceAs (Decidable True)
  | .numLoadedDisks => inferInstanceAs (Decidable True)
  | .extend _ => inferInstanceAs (Decidable False)
  | .diskByteSize _ => inferInstanceAs (Decidable False)

/-- The operation returns, and the store takes a step with its response; a
failing operation changes nothing at all. -/
def Advances (base : DiskManager) (resolve : String → String)
    (world : World) (store : PagedStore) (operation : Operation) : Prop :=
  ∃ response after next,
    world.step base operation = (.done response, after) ∧
      store.Step base.pageSize (operation, response) next ∧
      Represents base resolve after next ∧
      (response.failed = true → after = world)

private theorem Advances.unchanged {base : DiskManager}
    {resolve : String → String} {world : World} {store : PagedStore}
    {operation : Operation} {response : Response}
    (stepped : world.step base operation = (.done response, world))
    (taken : store.Step base.pageSize (operation, response) store)
    (represents : Represents base resolve world store) :
    Advances base resolve world store operation :=
  ⟨response, world, store, stepped, taken, represents, fun _ => rfl⟩

private theorem Advances.succeeded {base : DiskManager}
    {resolve : String → String} {world after : World}
    {store next : PagedStore} {operation : Operation}
    {response : Response}
    (stepped : world.step base operation = (.done response, after))
    (taken : store.Step base.pageSize (operation, response) next)
    (represents : Represents base resolve after next)
    (succeeded : response.failed = false) :
    Advances base resolve world store operation := by
  refine ⟨response, after, next, stepped, taken, represents, ?_⟩
  intro failed
  rw [succeeded] at failed
  cases failed

/-- The operation has no id left to hand out. -/
def Overflows (base : DiskManager) (world : World)
    (operation : Operation) : Prop :=
  operation.loads = true ∧ world.manager.curDiskId = Int32.maxValue ∧
    ∃ after, world.step base operation = (.crashed .signedOverflow, after)

section Progress

variable {base : DiskManager} {resolve : String → String}
variable {self : PosixDiskManager} {fs : FileSystem} {store : PagedStore}
variable {diskId : DiskId} {diskName : DiskName}
variable (apart : KeepsNamesApart base resolve)
variable (represents : Represents base resolve ⟨self, fs⟩ store)

include represents

private theorem advances_load (plain : PlainName diskName) :
    Advances base resolve ⟨self, fs⟩ store (.load diskName) ∨
      Overflows base ⟨self, fs⟩ (.load diskName) := by
  by_cases member : diskName ∈ store.table.names
  · obtain ⟨inode, found⟩ := represents.found_of_mem plain member
    by_cases room : self.curDiskId = Int32.maxValue
    · right
      exact ⟨rfl, room, _,
        World.step_of_crashed rfl
          (PosixDiskManager.run_load_overflow found room)⟩
    · left
      refine Advances.succeeded
        (World.step_of_done rfl (PosixDiskManager.run_load found room))
        ?_ (represents.handOut plain room) rfl
      constructor
      · rw [Table.Step, if_pos member]
        exact ⟨_, represents.notMem_returned, rfl, rfl⟩
      · rfl
  · left
    have absent := represents.absent_of_notMem plain member
    refine Advances.unchanged
      (World.step_of_done rfl (PosixDiskManager.run_load_missing absent))
      ?_ represents
    constructor
    · rw [Table.Step, if_neg member]
      exact ⟨rfl, rfl⟩
    · rfl

include apart in
private theorem advances_create (plain : PlainName diskName) :
    Advances base resolve ⟨self, fs⟩ store (.create diskName) ∨
      Overflows base ⟨self, fs⟩ (.create diskName) := by
  by_cases member : diskName ∈ store.table.names
  · left
    obtain ⟨inode, found⟩ := represents.found_of_mem plain member
    refine Advances.unchanged
      (World.step_of_done rfl (PosixDiskManager.run_create_taken found))
      ?_ represents
    constructor
    · rw [Table.Step, if_pos member]
      exact ⟨rfl, rfl⟩
    · rw [PagedStore.pagesAfter, if_pos member]
  · have absent := represents.absent_of_notMem plain member
    have found := lookup_link_self fs (base.diskPath diskName)
    have made :
        ((PosixDiskManager.create base diskName).run self).run serve fs =
          _ :=
      PosixDiskManager.run_create_fresh absent
    by_cases room : self.curDiskId = Int32.maxValue
    · right
      exact ⟨rfl, room, _,
        World.step_of_crashed rfl
          (made.trans (PosixDiskManager.run_load_overflow found room))⟩
    · left
      refine Advances.succeeded
        (World.step_of_done rfl
          (made.trans (PosixDiskManager.run_load found room)))
        ?_ ((represents.link apart plain absent).handOut plain room) rfl
      constructor
      · rw [Table.Step, if_neg member]
        exact ⟨_, represents.notMem_returned, rfl, rfl⟩
      · rw [PagedStore.pagesAfter, if_neg member]

private theorem advances_unload :
    Advances base resolve ⟨self, fs⟩ store (.unload diskId) := by
  by_cases loaded : diskId ∈ store.table.loaded
  · have member := represents.mem_disks_iff.mpr loaded
    have finished :
        ((PosixDiskManager.unload diskId).run self).run serve fs =
          (.done (.ok, self.erase diskId), fs) := by
      rw [PosixDiskManager.unload_run, if_pos member]
      rfl
    refine Advances.succeeded (World.step_of_done rfl finished) ?_
      represents.erase rfl
    constructor
    · rw [Table.Step, if_pos loaded]
      exact ⟨rfl, rfl⟩
    · rfl
  · have notMember : diskId ∉ self.disks := fun member =>
      loaded (represents.mem_disks_iff.mp member)
    have finished :
        ((PosixDiskManager.unload diskId).run self).run serve fs =
          (.done (.error .diskNotFound, self), fs) := by
      rw [PosixDiskManager.unload_run, if_neg notMember]
      rfl
    refine Advances.unchanged (World.step_of_done rfl finished) ?_
      represents
    constructor
    · rw [Table.Step, if_neg loaded]
      exact ⟨rfl, rfl⟩
    · rfl

include apart in
private theorem advances_destroy :
    Advances base resolve ⟨self, fs⟩ store (.destroy diskId) := by
  cases loaded : store.table.loaded.lookup diskId with
  | none =>
      have finished :
          ((PosixDiskManager.destroy base diskId).run self).run serve fs =
            (.done (.error .diskNotFound, self), fs) := by
        rw [PosixDiskManager.destroy_run, represents.lookup_none loaded]
        rfl
      refine Advances.unchanged (World.step_of_done rfl finished) ?_
        represents
      constructor
      · simp only [Table.Step, loaded, and_self]
      · rfl
  | some diskName =>
      have plain := represents.loaded_plain diskId diskName loaded
      have inDisks := represents.lookup_some loaded
      by_cases member : diskName ∈ store.table.names
      · obtain ⟨inode, found⟩ := represents.found_of_mem plain member
        refine Advances.succeeded
          (World.step_of_done rfl
            (PosixDiskManager.run_destroy inDisks found))
          ?_ (represents.unlink apart plain).erase rfl
        constructor
        · simp only [Table.Step, loaded, if_pos member, and_self]
        · rfl
      · have absent := represents.absent_of_notMem plain member
        refine Advances.unchanged
          (World.step_of_done rfl
            (PosixDiskManager.run_destroy_missing inDisks absent))
          ?_ represents
        constructor
        · simp only [Table.Step, loaded, if_neg member, and_self]
        · rfl

private theorem advances_exists (plain : PlainName diskName) :
    Advances base resolve ⟨self, fs⟩ store (.exists diskName) := by
  have same :
      (fs.lookup (base.diskPath diskName)).isSome =
        decide (diskName ∈ store.table.names) := by
    rw [Bool.eq_iff_iff, decide_eq_true_iff]
    exact (represents.names diskName plain).symm
  refine Advances.unchanged
    (World.step_of_done rfl PosixDiskManager.run_exists) ?_ represents
  constructor
  · rw [same]
    exact ⟨rfl, rfl⟩
  · rfl

private theorem advances_isLoaded :
    Advances base resolve ⟨self, fs⟩ store (.isLoaded diskId) := by
  have finished :
      ((PosixDiskManager.isLoaded diskId).run self).run serve fs =
        (.done (.value (decide (diskId ∈ self.disks)), self), fs) :=
    rfl
  refine Advances.unchanged (World.step_of_done rfl finished) ?_
    represents
  constructor
  · simp only [represents.mem_disks_iff]
    exact ⟨rfl, rfl⟩
  · rfl

private theorem advances_loadedDiskName :
    Advances base resolve ⟨self, fs⟩ store (.loadedDiskName diskId) := by
  have finished :
      ((PosixDiskManager.loadedDiskName diskId).run self).run serve fs =
        (.done (store.table.loadedName diskId, self), fs) := by
    rw [PosixDiskManager.loadedDiskName_run, Table.loadedName]
    cases loaded : store.table.loaded.lookup diskId with
    | none => rw [represents.lookup_none loaded]; rfl
    | some diskName => rw [represents.lookup_some loaded]; rfl
  exact Advances.unchanged (World.step_of_done rfl finished)
    ⟨⟨rfl, rfl⟩, rfl⟩ represents

private theorem disks_length :
    self.disks.entries.length = store.table.loaded.keys.card := by
  have sameKeys : self.disks.keys.toFinset = store.table.loaded.keys := by
    ext other
    rw [List.mem_toFinset, Finmap.mem_keys, ← represents.mem_disks_iff]
    exact AList.mem_keys.symm
  rw [← sameKeys, List.toFinset_card_of_nodup self.disks.keys_nodup]
  exact (List.length_map _).symm

private theorem advances_numLoadedDisks :
    Advances base resolve ⟨self, fs⟩ store .numLoadedDisks := by
  have finished :
      (PosixDiskManager.numLoadedDisks.run self).run serve fs =
        (.done
          (.value (UInt32.ofNat store.table.loaded.keys.card), self),
          fs) := by
    rw [← disks_length represents]
    rfl
  exact Advances.unchanged (World.step_of_done rfl finished)
    ⟨⟨rfl, rfl⟩, rfl⟩ represents

/-! ### Pages -/

variable (diskId) in
/-- What the table and the directory hold for an id. -/
private theorem diskOf_cases :
    (store.diskOf diskId = none ∧
        (self.disks.lookup diskId = none ∨
          ∃ fileName, self.disks.lookup diskId = some fileName ∧
            fs.lookup (base.getDiskPath fileName) = none)) ∨
      ∃ diskName inode, store.diskOf diskId = some diskName ∧
        PlainName diskName ∧
        self.disks.lookup diskId = some (getDiskFullName diskName) ∧
        fs.lookup (base.diskPath diskName) = some inode := by
  cases loaded : store.table.loaded.lookup diskId with
  | none =>
      left
      refine ⟨?_, Or.inl (represents.lookup_none loaded)⟩
      rw [PagedStore.diskOf, loaded]
      rfl
  | some diskName =>
      have plain := represents.loaded_plain diskId diskName loaded
      have inDisks := represents.lookup_some loaded
      by_cases member : diskName ∈ store.table.names
      · right
        obtain ⟨inode, found⟩ := represents.found_of_mem plain member
        refine ⟨diskName, inode, ?_, plain, inDisks, found⟩
        rw [PagedStore.diskOf, loaded]
        simp [member]
      · left
        refine ⟨?_, Or.inr ⟨_, inDisks,
          represents.absent_of_notMem plain member⟩⟩
        rw [PagedStore.diskOf, loaded]
        simp [member]

variable (positive : base.pageSize ≠ 0) {cursor : DiskPageCursor}
variable (inRange : InRange base.pageSize base.maxDiskByteSize cursor)
variable {bytes : List UInt8}
variable (full : bytes.length = base.pageSize.toNat)

include apart positive inRange full

private theorem advances_write :
    Advances base resolve ⟨self, fs⟩ store
      (.write diskId cursor bytes) := by
  rcases diskOf_cases diskId represents with
    ⟨noDisk, unloaded | ⟨fileName, loaded, absent⟩⟩ |
      ⟨diskName, inode, disk, plain, loaded, found⟩
  · have finished :
        ((PosixDiskManager.write base diskId cursor bytes).run self).run
            serve fs =
          (.done (.error .diskNotFound, self), fs) := by
      rw [PosixDiskManager.write_run, unloaded]
      rfl
    refine Advances.unchanged (World.step_of_done rfl finished) ?_
      represents
    simp only [PagedStore.Step, noDisk, and_self]
  · refine Advances.unchanged
      (World.step_of_done rfl
        (PosixDiskManager.run_write_missing loaded absent bytes))
      ?_ represents
    simp only [PagedStore.Step, noDisk, and_self]
  · have holds := represents.pages diskName inode plain found
    refine Advances.succeeded
      (World.step_of_done rfl
        (PosixDiskManager.run_write loaded found positive holds.aligned
          holds.bounded inRange full))
      ?_
      (represents.setFile apart plain found
        (holds.writePage inRange full))
      rfl
    simp only [PagedStore.Step, disk, true_and]
    rfl

private theorem advances_read :
    Advances base resolve ⟨self, fs⟩ store
      (.read diskId cursor bytes) := by
  rcases diskOf_cases diskId represents with
    ⟨noDisk, unloaded | ⟨fileName, loaded, absent⟩⟩ |
      ⟨diskName, inode, disk, plain, loaded, found⟩
  · have finished :
        (((PosixDiskManager.read base diskId cursor).run bytes).run
            self).run serve fs =
          (.done ((.error .diskNotFound, bytes), self), fs) := by
      rw [PosixDiskManager.read_run, unloaded]
      rfl
    refine Advances.unchanged (World.step_of_done rfl finished) ?_
      represents
    simp only [PagedStore.Step, noDisk, and_self]
  · refine Advances.unchanged
      (World.step_of_done rfl
        (PosixDiskManager.run_read_missing loaded absent bytes))
      ?_ represents
    simp only [PagedStore.Step, noDisk, and_self]
  · have holds := represents.pages diskName inode plain found
    have same : store =
        { store with
          pages :=
            Function.update store.pages diskName
              (store.pages diskName) } := by
      rw [Function.update_eq_self]
    have grown :
        Represents base resolve
          ⟨self,
            fs.setFile inode
              ((fs.file inode).grow
                (cursor.toNatClampNeg * base.pageSize.toNat +
                  base.pageSize.toNat))⟩
          store := by
      rw [same]
      exact represents.setFile apart plain found (holds.grow inRange)
    refine Advances.succeeded
      (World.step_of_done rfl
        (PosixDiskManager.run_read loaded found positive holds.aligned
          holds.bounded inRange full))
      ?_ grown rfl
    simp only [PagedStore.Step, disk, true_and]
    rw [← holds.page]

end Progress

section Histories

variable {base : DiskManager} {resolve : String → String}
variable {world after : World} {store : PagedStore}
variable {operation : Operation} {response : Response}

/-- An operation on the table takes a step of the store or overflows. -/
theorem progress_onTable (apart : KeepsNamesApart base resolve)
    (represents : Represents base resolve world store)
    (onTable : operation.OnTable) :
    Advances base resolve world store operation ∨
      Overflows base world operation := by
  obtain ⟨self, fs⟩ := world
  cases operation with
  | create diskName => exact advances_create apart represents onTable
  | load diskName => exact advances_load represents onTable
  | «exists» diskName =>
      exact Or.inl (advances_exists represents onTable)
  | unload diskId => exact Or.inl (advances_unload represents)
  | destroy diskId => exact Or.inl (advances_destroy apart represents)
  | isLoaded diskId => exact Or.inl (advances_isLoaded represents)
  | loadedDiskName diskId =>
      exact Or.inl (advances_loadedDiskName represents)
  | numLoadedDisks => exact Or.inl (advances_numLoadedDisks represents)
  | write diskId cursor bytes => exact onTable.elim
  | read diskId cursor buffer => exact onTable.elim
  | extend diskId => exact onTable.elim
  | diskByteSize diskId => exact onTable.elim

/-- A proper operation takes a step of the store or overflows. -/
theorem progress (apart : KeepsNamesApart base resolve)
    (positive : base.pageSize ≠ 0)
    (represents : Represents base resolve world store)
    (proper : operation.Proper base) :
    Advances base resolve world store operation ∨
      Overflows base world operation := by
  cases operation with
  | write diskId cursor bytes =>
      obtain ⟨inRange, full⟩ := proper
      exact Or.inl
        (advances_write apart represents positive inRange full)
  | read diskId cursor buffer =>
      obtain ⟨inRange, full⟩ := proper
      exact Or.inl
        (advances_read apart represents positive inRange full)
  | create diskName => exact progress_onTable apart represents proper
  | load diskName => exact progress_onTable apart represents proper
  | «exists» diskName => exact progress_onTable apart represents proper
  | unload diskId => exact progress_onTable apart represents proper
  | destroy diskId => exact progress_onTable apart represents proper
  | isLoaded diskId => exact progress_onTable apart represents proper
  | loadedDiskName diskId =>
      exact progress_onTable apart represents proper
  | numLoadedDisks => exact progress_onTable apart represents proper
  | extend diskId => exact proper.elim
  | diskByteSize diskId => exact proper.elim

/-- The step of the store that an operation which returned has taken. -/
theorem step_of_progress
    (advances : Advances base resolve world store operation ∨
      Overflows base world operation)
    (returned : world.step base operation = (.done response, after)) :
    ∃ next, store.Step base.pageSize (operation, response) next ∧
      Represents base resolve after next := by
  rcases advances with
    ⟨answer, last, next, stepped, taken, represents, _⟩ |
    ⟨_, _, last, failed⟩
  · rw [stepped] at returned
    cases returned
    exact ⟨next, taken, represents⟩
  · rw [failed] at returned
    cases returned

/-- A fresh manager on an empty directory is the empty store. -/
theorem represents_start {allowed : Operation → Prop}
    (started : (World.machine base resolve allowed).start world) :
    ∃ store, (PagedStore.machine base.pageSize).start store ∧
      Represents base resolve world store := by
  obtain ⟨self, fs⟩ := world
  obtain ⟨fresh, resolves, nothing⟩ := started
  dsimp only at fresh resolves nothing
  subst fresh
  refine ⟨⟨Table.empty, fun _ _ => []⟩, rfl, ?_⟩
  constructor
  · exact resolves
  · intro diskId
    rfl
  · intro diskId diskName loaded
    cases loaded
  · intro diskId member
    cases member
  · rfl
  · intro diskName plain
    rw [nothing diskName plain]
    simp [Table.empty]
  · intro diskName inode plain found
    rw [nothing diskName plain] at found
    cases found

/-- Fewer ids than there are positive `int32_t` leave room for one more. -/
theorem not_overflows {events : List Event}
    (represents : Represents base resolve world store)
    (counted : store.table.returned.card = handedOut events)
    (room : operation.loads = true → handedOut events + 1 < 2 ^ 31) :
    ¬ Overflows base world operation := by
  intro given
  rcases given with ⟨loads, full, _⟩
  have counter := represents.returned_card
  have below := room loads
  rw [full, counted] at counter
  have largest : Int32.maxValue.toInt = 2 ^ 31 - 1 := rfl
  omega

/-- Histories of one manager are runs of the paged store, and every proper
operation can follow as long as there are ids: every access to a loaded disk
that exists succeeds, and a read returns the page last written since the disk
was created. -/
theorem manager_refines_pagedStore {events : List Event}
    (positive : base.pageSize ≠ 0) (apart : KeepsNamesApart base resolve)
    (history :
      (World.machine base resolve (Operation.Proper base)).Run events
        world) :
    ∃ store, (PagedStore.machine base.pageSize).Run events store ∧
      ∀ operation : Operation, operation.Proper base →
        (operation.loads = true → handedOut events + 1 < 2 ^ 31) →
          ∃ response after next,
            world.step base operation = (.done response, after) ∧
              store.Step base.pageSize (operation, response) next := by
  obtain ⟨store, run, represents⟩ :=
    Machine.Run.simulate (PagedStore.machine base.pageSize)
      (Represents base resolve)
      (fun _ started => represents_start started)
      (fun _ _ _ _ represents stepped =>
        step_of_progress
          (progress apart positive represents stepped.1) stepped.2)
      history
  refine ⟨store, run, ?_⟩
  intro operation proper room
  rcases progress apart positive represents proper with
    ⟨response, after, next, stepped, taken, _⟩ | overflows
  · exact ⟨response, after, next, stepped, taken⟩
  · exact absurd overflows
      (not_overflows represents (PagedStore.returned_card_of_run run)
        room)

/-- Histories of names and ids are runs of the table, which answers
`loaded_disk_name` with the name and its suffix; every operation can follow as
long as there are ids, and one that fails changes nothing. -/
theorem manager_refines_table {events : List Event}
    (apart : KeepsNamesApart base resolve)
    (history :
      (World.machine base resolve Operation.OnTable).Run events world) :
    ∃ table, Table.machine.Run events table ∧
      ∀ operation : Operation, operation.OnTable →
        (operation.loads = true → handedOut events + 1 < 2 ^ 31) →
          ∃ response after next,
            world.step base operation = (.done response, after) ∧
              table.Step (operation, response) next ∧
              (response.failed = true → after = world) := by
  have simulated :
      ∃ table, Table.machine.Run events table ∧
        ∃ store, store.table = table ∧
          Represents base resolve world store := by
    refine Machine.Run.simulate Table.machine
      (fun world table => ∃ store : PagedStore, store.table = table ∧
        Represents base resolve world store)
      ?_ ?_ history
    · intro started isStart
      obtain ⟨store, blank, represents⟩ := represents_start isStart
      exact ⟨store.table, blank, store, rfl, represents⟩
    · intro before _ event after related step
      rcases event with ⟨operation, response⟩
      rcases related with ⟨store, rfl, represents⟩
      rcases step with ⟨onTable, stepped⟩
      obtain ⟨next, taken, representsNext⟩ :=
        step_of_progress (progress_onTable apart represents onTable)
          stepped
      exact ⟨next.table, PagedStore.Step.table onTable taken, next, rfl,
        representsNext⟩
  obtain ⟨_, run, store, rfl, represents⟩ := simulated
  refine ⟨store.table, run, ?_⟩
  intro operation onTable room
  rcases progress_onTable apart represents onTable with
    ⟨response, after, next, stepped, taken, _, unchanged⟩ | overflows
  · exact ⟨response, after, next.table, stepped,
      PagedStore.Step.table onTable taken, unchanged⟩
  · exact absurd overflows
      (not_overflows represents (Table.returned_card_of_run run) room)

end Histories

/-- A page written under one id is read under another id of its disk. -/
theorem manager_refines_pagedStore_small :
    ∃ store,
      (PagedStore.machine 2).Run
        [(.create "a", .diskId (.value 0)),
          (.write 0 2 [1, 2], .void .ok),
          (.load "a", .diskId (.value 1)),
          (.read 1 2 [9, 9], .buffer .ok [1, 2]),
          (.read 1 0 [9, 9], .buffer .ok [0, 0])]
        store := by
  have replayed :
      ∃ world,
        (World.machine smallBase id (Operation.Proper smallBase)).Run _
          world :=
    World.run_of_replay
      [.create "a", .write 0 2 [1, 2], .load "a", .read 1 2 [9, 9],
        .read 1 0 [9, 9]]
      (by decide) rfl
  obtain ⟨world, history⟩ := replayed
  obtain ⟨store, run, _⟩ :=
    manager_refines_pagedStore (by decide)
      (keepsNamesApart_id smallBase) history
  exact ⟨store, run⟩

/-- A disk is destroyed through one id and created again while another id
still stands for it. -/
theorem manager_refines_table_small :
    ∃ table,
      Table.machine.Run
        [(.create "a", .diskId (.value 0)),
          (.load "a", .diskId (.value 1)),
          (.destroy 0, .void .ok),
          (.load "a", .diskId (.error .diskNotFound)),
          (.create "a", .diskId (.value 2)),
          (.loadedDiskName 1, .name (.value "a.disk")),
          (.numLoadedDisks, .size (.value 2))]
        table := by
  have replayed :
      ∃ world,
        (World.machine smallBase id Operation.OnTable).Run _ world :=
    World.run_of_replay
      [.create "a", .load "a", .destroy 0, .load "a", .create "a",
        .loadedDiskName 1, .numLoadedDisks]
      (by decide) rfl
  obtain ⟨world, history⟩ := replayed
  obtain ⟨table, run, _⟩ :=
    manager_refines_table (keepsNamesApart_id smallBase) history
  exact ⟨table, run⟩

/-- The name of a loaded disk is not answered as it was given. -/
theorem loadedDiskName_not_given_name :
    ∃ diskId response world,
      (World.machine smallBase id Operation.OnTable).Run
          [(.create "a", .diskId (.value diskId)),
            (.loadedDiskName diskId, response)]
          world ∧
        response ≠ .name (.value "a") := by
  have replayed :
      ∃ world,
        (World.machine smallBase id Operation.OnTable).Run
          [(.create "a", .diskId (.value 0)),
            (.loadedDiskName 0, .name (.value "a.disk"))]
          world :=
    World.run_of_replay [.create "a", .loadedDiskName 0] (by decide) rfl
  obtain ⟨world, history⟩ := replayed
  exact ⟨0, _, world, history, by decide⟩

end Lewsql
