import Lewsql.Organizers.NewHeap

/-!
# Opening a heap again

The constructor writes an empty root page also where it loads a heap that was
there before.  The data pages survive, the lists do not.
-/

namespace Lewsql

open Interaction Bytes Posix FileSystem

namespace Heap

/-- The lists and the data pages of a heap are the ones of an earlier heap. -/
structure SameContents (heap : Heap) (world : HeapWorld)
    (earlier : Heap) (earlierWorld : HeapWorld) : Prop where
  freeHead :
    world.freeHead heap.diskId = earlierWorld.freeHead earlier.diskId
  fullHead :
    world.fullHead heap.diskId = earlierWorld.fullHead earlier.diskId
  data : ∀ cursor, cursor ≠ rootPage →
    world.page heap.diskId cursor =
      earlierWorld.page earlier.diskId cursor

def reopening (manager : PosixDiskManager) (world : HeapWorld) :
    HeapWorld :=
  { world with world := ⟨manager, world.world.fileSystem⟩ }

section Reopen

variable {base : DiskManager} {storage : UInt32 → Nat}
variable {events : List HeapEvent} {state : HeapState}
variable {closed after : HeapWorld} {manager : PosixDiskManager}
variable {tableName : String} {pageSize : UInt32} {heap : Heap}

/-- The destructor returns and leaves the pages. -/
theorem run_destructor (self : Heap) (before : HeapWorld) :
    ∃ closed,
      self.destructor.run (serveHeap base) before = (.done (), closed) ∧
        closed.pages = before.pages := by
  have unloaded :
      ∃ result,
        (before.world.call (PosixDiskManager.unload self.diskId)).1 =
          .ok result := by
    simp only [World.call]
    rw [PosixDiskManager.unload_run]
    by_cases loaded : self.diskId ∈ before.world.manager.disks
    · rw [if_pos loaded]
      exact ⟨_, rfl⟩
    · rw [if_neg loaded]
      exact ⟨_, rfl⟩
  obtain ⟨result, returned⟩ := unloaded
  refine ⟨{ before with
      world :=
        (before.world.call (PosixDiskManager.unload self.diskId)).2 },
    ?_, rfl⟩
  simp only [destructor]
  change
    ((attempt .diskManager
        (before.world.call (PosixDiskManager.unload self.diskId)).1 >>= _ :
      HeapEffect Unit).run (serveHeap base) _) = _
  rw [returned]
  rfl

/-- Data pages are the ones that were stored for the file. -/
theorem page_reopened (run : (machine base storage).Run events state)
    (pages : closed.pages = state.world.pages)
    (name : tableName ++ heapDiskSuffix = state.heap.tableName)
    (reopened :
      (construct tableName pageSize).run (serveHeap base)
          (reopening manager closed) =
        (.done heap, after)) {cursor : DiskPageCursor}
    (data : cursor ≠ rootPage) :
    after.page heap.diskId cursor =
      state.world.page state.heap.diskId cursor := by
  have standing := standing_of_run run
  have sameName := (fileOf_construct reopened).2
  rw [page_construct reopened data, sameName, name]
  simp only [HeapWorld.page]
  rw [standing.file, ← pages]
  rfl

theorem heads_reopened
    (reopened :
      (construct tableName pageSize).run (serveHeap base)
          (reopening manager closed) =
        (.done heap, after)) :
    after.freeHead heap.diskId = -1 ∧ after.fullHead heap.diskId = -1 := by
  obtain ⟨_, room, sameHeap, sameWorld⟩ := construct_of_run reopened
  rw [sameHeap, sameWorld]
  exact ⟨HeapWorld.freeHead_emptied, HeapWorld.fullHead_emptied⟩

end Reopen

/-- A heap that is closed and opened again, by any manager of the directory, has
its lists and its pages back exactly if nothing was ever inserted; its data
pages always survive. -/
theorem reopened_same_iff {base : DiskManager} {storage : UInt32 → Nat}
    {events : List HeapEvent} {state : HeapState}
    (run : (machine base storage).Run events state) :
    ∃ closed,
      state.heap.destructor.run (serveHeap base) state.world =
          (.done (), closed) ∧
        ∀ manager tableName pageSize,
          tableName ++ heapDiskSuffix = state.heap.tableName →
            (manager.curDiskId ≠ Int32.maxValue →
              ∃ heap after,
                (construct tableName pageSize).run (serveHeap base)
                    (reopening manager closed) =
                  (.done heap, after)) ∧
            ∀ heap after,
              (construct tableName pageSize).run (serveHeap base)
                  (reopening manager closed) =
                (.done heap, after) →
              (∀ cursor, cursor ≠ rootPage →
                after.page heap.diskId cursor =
                  state.world.page state.heap.diskId cursor) ∧
              (SameContents heap after state.heap state.world ↔
                ¬ Inserts events) := by
  have standing := standing_of_run run
  obtain ⟨closed, destroyed, pages⟩ :=
    @run_destructor base state.heap state.world
  refine ⟨closed, destroyed, ?_⟩
  intro manager tableName pageSize name
  constructor
  · intro room
    exact ⟨_, _, run_construct standing.room room⟩
  intro heap after reopened
  have data {cursor : DiskPageCursor} (notRoot : cursor ≠ rootPage) :=
    page_reopened run pages name reopened notRoot
  obtain ⟨free, full⟩ := heads_reopened reopened
  refine ⟨fun _ => data, ?_⟩
  constructor
  · intro same inserted
    have head := same.freeHead
    rw [free, standing.listed inserted] at head
    exact standing.ne_end head.symm
  · intro none
    have unused := standing.unused none
    constructor
    · rw [free, unused.freeHead]
    · rw [full, unused.fullHead]
    · exact fun _ => data

/-- After one insert the page is in no list of the heap that was opened
again. -/
theorem inserted_page_lost :
    ∃ state closed heap after,
      (machine pageBase UInt32.toNat).Run [.insert oneCell] state ∧
        state.heap.destructor.run (serveHeap pageBase) state.world =
          (.done (), closed) ∧
        (construct "a" 20).run (serveHeap pageBase)
            (reopening PosixDiskManager.new closed) =
          (.done heap, after) ∧
        ¬ SameContents heap after state.heap state.world := by
  obtain ⟨last, middle, insertion, run⟩ :=
    @exists_first_insert pageBase UInt32.toNat (World.oneDisk pageBase)
      (by rw [World.curDiskId_oneDisk]; decide) "a" 20 oneCell (by decide)
      World.history_oneDisk World.absent_oneDisk
      (places_pageBase _ (by decide))
  have standing := standing_of_run run
  obtain ⟨closed, destroyed, _⟩ := @run_destructor pageBase _ last
  have fresh : PosixDiskManager.new.curDiskId ≠ Int32.maxValue := by decide
  have reopened :
      (construct "a" 20).run (serveHeap pageBase)
          (reopening PosixDiskManager.new closed) = _ :=
    run_construct standing.room fresh
  refine ⟨_, closed, _, _, run, destroyed, reopened, ?_⟩
  intro same
  have head := (heads_reopened reopened).1.symm.trans same.freeHead
  rw [standing.listed (inserts_append_insert [] oneCell)] at head
  exact standing.ne_end head.symm

/-- The heap of one insert, closed and opened by another manager. -/
theorem reopened_same_iff_oneCell :
    ∃ state closed heap after,
      (machine pageBase UInt32.toNat).Run [.insert oneCell] state ∧
        state.heap.destructor.run (serveHeap pageBase) state.world =
          (.done (), closed) ∧
        (construct "a" 20).run (serveHeap pageBase)
            (reopening PosixDiskManager.new closed) =
          (.done heap, after) ∧
        (SameContents heap after state.heap state.world ↔
          ¬ Inserts [.insert oneCell]) := by
  obtain ⟨last, middle, insertion, run⟩ :=
    @exists_first_insert pageBase UInt32.toNat (World.oneDisk pageBase)
      (by rw [World.curDiskId_oneDisk]; decide) "a" 20 oneCell (by decide)
      World.history_oneDisk World.absent_oneDisk
      (places_pageBase _ (by decide))
  obtain ⟨closed, destroyed, again⟩ := reopened_same_iff run
  obtain ⟨returns, keeps⟩ := again PosixDiskManager.new "a" 20 (by rfl)
  obtain ⟨heap, after, reopened⟩ := returns (by decide)
  exact ⟨_, closed, heap, after, run, destroyed, reopened,
    (keeps heap after reopened).2⟩

end Heap

end Lewsql
