import Lewsql.Organizers.HeapRuns

/-!
# Constructing a heap

The constructor makes the file of the table or loads it, whichever the directory
allows, and then writes the root page from scratch in both cases.
-/

namespace Lewsql

open Interaction Bytes Posix FileSystem

/-- The world after a disk was loaded, with its file made if there was none. -/
def World.opened (base : DiskManager) (diskName : DiskName) (world : World)
    (room : world.manager.curDiskId ≠ Int32.maxValue) : World where
  manager := world.manager.insert (getDiskFullName diskName) room
  fileSystem :=
    if (world.fileSystem.lookup (base.diskPath diskName)).isSome then
      world.fileSystem
    else world.fileSystem.link (base.diskPath diskName)

namespace HeapWorld

def emptied (self : HeapWorld) (diskId : DiskId) : HeapWorld :=
  ((self.write diskId Heap.rootPage 0
      (littleEndian 4 Heap.pageStartStamp.toNat)).write diskId Heap.rootPage
      4 (pointerBytes (-1))).write diskId Heap.rootPage 8
    (pointerBytes (-1))

def opened (base : DiskManager) (diskName : DiskName) (self : HeapWorld)
    (room : self.world.manager.curDiskId ≠ Int32.maxValue) : HeapWorld :=
  { self with world := self.world.opened base diskName room }

section Emptied

variable {self : HeapWorld} {diskId : DiskId} {cursor : DiskPageCursor}

@[simp]
theorem world_emptied : (self.emptied diskId).world = self.world :=
  rfl

@[simp]
theorem extended_emptied : (self.emptied diskId).extended = self.extended :=
  rfl

@[simp]
theorem fileOf_emptied (other : DiskId) :
    (self.emptied diskId).fileOf other = self.fileOf other :=
  rfl

theorem page_emptied (data : cursor ≠ Heap.rootPage) :
    (self.emptied diskId).page diskId cursor = self.page diskId cursor := by
  unfold emptied
  rw [page_write, if_neg data, page_write, if_neg data, page_write,
    if_neg data]

theorem rootPage_emptied :
    (self.emptied diskId).page diskId Heap.rootPage =
      (((self.page diskId Heap.rootPage).write 0
          (littleEndian 4 Heap.pageStartStamp.toNat)).write
        4 (pointerBytes (-1))).write 8 (pointerBytes (-1)) := by
  unfold emptied
  rw [page_write, if_pos rfl, page_write, if_pos rfl, page_write,
    if_pos rfl]

theorem stamp_emptied :
    ((self.emptied diskId).page diskId Heap.rootPage).read 0 4 =
      littleEndian 4 Heap.pageStartStamp.toNat := by
  calc
    _ = (((self.page diskId Heap.rootPage).write 0
            (littleEndian 4 Heap.pageStartStamp.toNat)).write
          4 (pointerBytes (-1))).read 0 4 := by
      rw [rootPage_emptied, Memory.read_write_apart (Or.inl (by decide))]
    _ = ((self.page diskId Heap.rootPage).write 0
          (littleEndian 4 Heap.pageStartStamp.toNat)).read 0 4 :=
      Memory.read_write_apart (Or.inl (by decide))
    _ = littleEndian 4 Heap.pageStartStamp.toNat :=
      Memory.read_write_of_length (length_littleEndian _ _)

theorem freeHead_emptied : (self.emptied diskId).freeHead diskId = -1 := by
  calc
    (self.emptied diskId).freeHead diskId =
        pointerAt (((self.page diskId Heap.rootPage).write 0
            (littleEndian 4 Heap.pageStartStamp.toNat)).write
          4 (pointerBytes (-1))) 4 := by
      rw [freeHead, rootPage_emptied]
      exact pointerAt_write_apart (Or.inl (by decide))
    _ = -1 := pointerAt_write_self

theorem fullHead_emptied : (self.emptied diskId).fullHead diskId = -1 := by
  rw [fullHead, rootPage_emptied]
  exact pointerAt_write_self

end Emptied

end HeapWorld

namespace Heap

section Construct

variable {base : DiskManager} {before state after : HeapWorld}
variable {tableName : String} {pageSize : UInt32} {heap : Heap}

private theorem run_writeRoot (room : 12 ≤ base.pageSize.toNat)
    (diskId : DiskId) :
    (writeRoot diskId).run (serveHeap base) state =
      (.done (), state.emptied diskId) := by
  have stamp :
      firstPageHeapPageStampOffset.toNat + 4 ≤ base.pageSize.toNat := by
    change 0 + 4 ≤ _
    omega
  have free :
      firstPageFreeListOffset.toNat + 4 ≤ base.pageSize.toNat := by
    change 4 + 4 ≤ _
    omega
  have full :
      firstPageFullListOffset.toNat + 4 ≤ base.pageSize.toNat := by
    change 8 + 4 ≤ _
    omega
  simp only [writeRoot, BufferPage.storeInt32]
  rw [Program.run_bind_of_done _ run_pin,
    Program.run_bind_of_done _ (run_storeUInt32 stamp),
    Program.run_bind_of_done _ (run_storeUInt32 free),
    Program.run_bind_of_done _ (run_storeUInt32 full)]
  rfl

/-- A root page that was written has room for its pointers. -/
private theorem room_of_writeRoot {diskId : DiskId}
    (finished :
      (writeRoot diskId).run (serveHeap base) state = (.done (), after)) :
    12 ≤ base.pageSize.toNat := by
  by_contra short
  have outside :
      ¬ firstPageFullListOffset.toNat + 4 ≤ base.pageSize.toNat := by
    change ¬ 8 + 4 ≤ _
    omega
  simp only [writeRoot, BufferPage.storeInt32] at finished
  rw [Program.run_bind_of_done _ run_pin] at finished
  obtain ⟨_, first, _, stamped⟩ := Program.run_bind_eq_done _ finished
  obtain ⟨_, second, _, freed⟩ := Program.run_bind_eq_done _ stamped
  obtain ⟨_, third, stored, _⟩ := Program.run_bind_eq_done _ freed
  obtain ⟨failure, failed⟩ :=
    @run_storeUInt32_outside base second diskId rootPage
      firstPageFullListOffset (-1 : Int32).toUInt32 outside
  rw [failed] at stored
  cases stored

/-- Where the name is taken, the constructor is a load and then the writing of
the root page. -/
private theorem run_construct_taken {inode : Nat}
    (found :
      before.world.fileSystem.lookup
        (base.diskPath (tableName ++ heapDiskSuffix)) = some inode) :
    (construct tableName pageSize).run (serveHeap base) before =
      ((attempt .diskManager
          (before.world.call
            (PosixDiskManager.load base
              (tableName ++ heapDiskSuffix))).1 >>= unwrapped) >>=
        fun diskId => writeRoot diskId >>= fun _ =>
          .done ⟨tableName ++ heapDiskSuffix, diskId, pageSize⟩).run
        (serveHeap base)
        { before with
          world :=
            (before.world.call
              (PosixDiskManager.load base
                (tableName ++ heapDiskSuffix))).2 } := by
  have taken :
      before.world.call
          (PosixDiskManager.create base (tableName ++ heapDiskSuffix)) =
        (.ok (.error .diskAlreadyExists), before.world) := by
    simp only [World.call]
    rw [PosixDiskManager.run_create_taken found]
  simp only [construct]
  change
    ((attempt .diskManager
        (before.world.call (PosixDiskManager.create base
          (tableName ++ heapDiskSuffix))).1 >>= _ :
      HeapEffect Heap).run (serveHeap base)
        { before with
          world :=
            (before.world.call (PosixDiskManager.create base
              (tableName ++ heapDiskSuffix))).2 }) = _
  rw [taken]
  rfl

/-- The constructor is a create, or a load where the create fails, and then
the writing of the root page. -/
private theorem run_construct_opened
    (room : before.world.manager.curDiskId ≠ Int32.maxValue) :
    (construct tableName pageSize).run (serveHeap base) before =
      (writeRoot before.world.manager.curDiskId >>= fun _ =>
        .done ⟨tableName ++ heapDiskSuffix,
          before.world.manager.curDiskId, pageSize⟩).run (serveHeap base)
        (before.opened base (tableName ++ heapDiskSuffix) room) := by
  cases found :
      before.world.fileSystem.lookup
        (base.diskPath (tableName ++ heapDiskSuffix)) with
  | none =>
      have created :
          before.world.call
              (PosixDiskManager.create base
                (tableName ++ heapDiskSuffix)) =
            (.ok (.value before.world.manager.curDiskId),
              before.world.opened base (tableName ++ heapDiskSuffix)
                room) := by
        simp only [World.call, World.opened]
        rw [PosixDiskManager.run_create_fresh found,
          PosixDiskManager.run_load (lookup_link_self _ _) room, found]
        rfl
      simp only [construct]
      change
        ((attempt .diskManager
            (before.world.call (PosixDiskManager.create base
              (tableName ++ heapDiskSuffix))).1 >>= _ :
          HeapEffect Heap).run (serveHeap base)
            { before with
              world :=
                (before.world.call (PosixDiskManager.create base
                  (tableName ++ heapDiskSuffix))).2 }) = _
      rw [created]
      rfl
  | some inode =>
      have loaded :
          before.world.call
              (PosixDiskManager.load base (tableName ++ heapDiskSuffix)) =
            (.ok (.value before.world.manager.curDiskId),
              before.world.opened base (tableName ++ heapDiskSuffix)
                room) := by
        simp only [World.call, World.opened]
        rw [PosixDiskManager.run_load found room, found]
        rfl
      rw [run_construct_taken found, loaded]
      rfl

/-- Past the last id there is no heap. -/
private theorem run_construct_overflow
    (full : before.world.manager.curDiskId = Int32.maxValue) :
    ((construct tableName pageSize).run (serveHeap base) before).1 =
      .crashed (.diskManager .signedOverflow) := by
  cases found :
      before.world.fileSystem.lookup
        (base.diskPath (tableName ++ heapDiskSuffix)) with
  | none =>
      have failed :
          (before.world.call
            (PosixDiskManager.create base
              (tableName ++ heapDiskSuffix))).1 =
            .error .signedOverflow := by
        simp only [World.call]
        rw [PosixDiskManager.run_create_fresh found,
          PosixDiskManager.run_load_overflow (lookup_link_self _ _) full]
      simp only [construct]
      change
        ((attempt .diskManager
            (before.world.call (PosixDiskManager.create base
              (tableName ++ heapDiskSuffix))).1 >>= _ :
          HeapEffect Heap).run (serveHeap base) _).1 = _
      rw [failed]
      rfl
  | some inode =>
      have failed :
          (before.world.call
            (PosixDiskManager.load base
              (tableName ++ heapDiskSuffix))).1 =
            .error .signedOverflow := by
        simp only [World.call]
        rw [PosixDiskManager.run_load_overflow found full]
      rw [run_construct_taken found, failed]
      rfl

theorem run_construct (fits : 12 ≤ base.pageSize.toNat)
    (room : before.world.manager.curDiskId ≠ Int32.maxValue) :
    (construct tableName pageSize).run (serveHeap base) before =
      (.done ⟨tableName ++ heapDiskSuffix,
          before.world.manager.curDiskId, pageSize⟩,
        (before.opened base (tableName ++ heapDiskSuffix) room).emptied
          before.world.manager.curDiskId) := by
  rw [run_construct_opened room,
    Program.run_bind_of_done _ (run_writeRoot fits _)]
  rfl

/-- All that a constructor which returned can have done. -/
theorem construct_of_run
    (finished :
      (construct tableName pageSize).run (serveHeap base) before =
        (.done heap, after)) :
    12 ≤ base.pageSize.toNat ∧
      ∃ room : before.world.manager.curDiskId ≠ Int32.maxValue,
        heap =
            ⟨tableName ++ heapDiskSuffix, before.world.manager.curDiskId,
              pageSize⟩ ∧
          after =
            (before.opened base (tableName ++ heapDiskSuffix)
              room).emptied before.world.manager.curDiskId := by
  by_cases room : before.world.manager.curDiskId = Int32.maxValue
  · have failed :=
      @run_construct_overflow base before tableName pageSize room
    rw [finished] at failed
    cases failed
  · have written := finished
    rw [run_construct_opened room] at written
    obtain ⟨_, _, rooted, _⟩ := Program.run_bind_eq_done _ written
    have fits := room_of_writeRoot rooted
    rw [run_construct fits room] at finished
    cases finished
    exact ⟨fits, room, rfl, rfl⟩

end Construct

end Heap

end Lewsql
