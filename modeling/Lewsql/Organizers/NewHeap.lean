import Lewsql.Organizers.HeapMachine

/-!
# New heaps

Heaps just constructed for a table without a file, and the first insert into
them.
-/

namespace Lewsql

open Interaction Bytes Posix FileSystem

namespace World

/-- A manager with one disk loaded as `0`. -/
def oneDisk (base : DiskManager) : World :=
  ((fresh id).step base (.create "b")).2

section OneDisk

variable {base : DiskManager}

private theorem step_fresh :
    (fresh id).step base (.create "b") =
      (.done (.diskId (.value 0)),
        ⟨PosixDiskManager.new.insert (getDiskFullName "b") (by decide),
          (FileSystem.empty id).link (base.diskPath "b")⟩) := by
  have created :
      ((PosixDiskManager.create base "b").run PosixDiskManager.new).run
          serve (FileSystem.empty id) = _ :=
    PosixDiskManager.run_create_fresh rfl
  have loaded :
      ((PosixDiskManager.load base "b").run PosixDiskManager.new).run
          serve ((FileSystem.empty id).link (base.diskPath "b")) = _ :=
    PosixDiskManager.run_load (lookup_link_self _ _) (by decide)
  exact step_of_done rfl (created.trans loaded)

theorem curDiskId_oneDisk : (oneDisk base).manager.curDiskId = 1 := by
  simp only [oneDisk]
  rw [step_fresh]
  rfl

theorem history_oneDisk :
    ∃ passages, (World.passages base).Run passages (oneDisk base) := by
  have history := passages_of_replay base id [.create "b"]
  have same :
      (replay base [.create "b"] (fresh id)).2 = oneDisk base := by
    simp only [oneDisk]
    rw [replay, step_fresh]
    rfl
  rw [same] at history
  exact ⟨_, history⟩

theorem absent_oneDisk :
    (oneDisk base).fileSystem.lookup (base.diskPath "a.heap") = none := by
  have different : base.diskPath "a.heap" ≠ base.diskPath "b" := by
    intro same
    have names :=
      keepsNamesApart_id base "a.heap" "b" (by decide) (by decide) same
    exact absurd names (by decide)
  simp only [oneDisk]
  rw [step_fresh]
  exact lookup_link_of_ne _ _ _ different

end OneDisk

end World

namespace Heap

def newHeap (base : DiskManager) (world : World)
    (room : world.manager.curDiskId ≠ Int32.maxValue)
    (tableName : String) (pageSize : UInt32) : HeapState where
  heap := ⟨tableName ++ heapDiskSuffix, world.manager.curDiskId, pageSize⟩
  world :=
    (HeapWorld.opened base (tableName ++ heapDiskSuffix)
      ⟨world, fun _ _ _ => 0, []⟩ room).emptied world.manager.curDiskId

section NewHeap

variable {base : DiskManager} {storage : UInt32 → Nat} {world : World}
variable {room : world.manager.curDiskId ≠ Int32.maxValue}
variable {tableName : String} {pageSize : UInt32}

theorem start_newHeap (fits : 12 ≤ base.pageSize.toNat)
    (history : ∃ passages, (World.passages base).Run passages world)
    (absent :
      world.fileSystem.lookup
        (base.diskPath (tableName ++ heapDiskSuffix)) = none) :
    (machine base storage).start
      (newHeap base world room tableName pageSize) :=
  ⟨tableName, pageSize, ⟨world, fun _ _ _ => 0, []⟩,
    ⟨history, absent, fun _ => rfl, rfl⟩, run_construct fits room⟩

/-- The file of a new heap is empty, so `extend` hands out cursor `1`. -/
theorem extend_newHeap (fits : 12 ≤ base.pageSize.toNat)
    (absent :
      world.fileSystem.lookup
        (base.diskPath (tableName ++ heapDiskSuffix)) = none) :
    ((newHeap base world room tableName pageSize).world.extend base
      (newHeap base world room tableName pageSize).heap.diskId).1 =
        .ok (.value 1) := by
  have loaded :
      (newHeap base world room tableName pageSize).world.fileOf
          (newHeap base world room tableName pageSize).heap.diskId =
        some (getDiskFullName (tableName ++ heapDiskSuffix)) :=
    (fileOf_construct
      (@run_construct base ⟨world, fun _ _ _ => 0, []⟩ tableName pageSize
        fits room)).1
  have made :
      (newHeap base world room tableName pageSize).world.world.fileSystem =
        world.fileSystem.link
          (base.diskPath (tableName ++ heapDiskSuffix)) := by
    change
      (if (world.fileSystem.lookup
            (base.diskPath (tableName ++ heapDiskSuffix))).isSome then
          world.fileSystem
        else _) = _
    rw [absent]
    rfl
  have found :
      (newHeap base world room tableName
          pageSize).world.world.fileSystem.lookup
          (base.getDiskPath
            (getDiskFullName (tableName ++ heapDiskSuffix))) =
        some world.fileSystem.nextInode := by
    rw [made]
    exact lookup_link_self _ _
  have empty :
      ((newHeap base world room tableName
          pageSize).world.world.fileSystem.file
        world.fileSystem.nextInode).size = 0 := by
    rw [made, file_link_self]
    rfl
  have positive : base.pageSize ≠ 0 := by
    intro zero
    rw [zero] at fits
    exact absurd fits (by decide)
  have next :
      (newHeap base world room tableName pageSize).world.nextCursor base
          (newHeap base world room tableName pageSize).heap.diskId =
        1 := by
    simp only [HeapWorld.nextCursor, HeapWorld.byteSize]
    rw [loaded]
    dsimp only
    rw [found]
    dsimp only
    rw [empty]
    change (0 / base.pageSize + 1).toInt32 = 1
    rw [UInt32.zero_div]
    rfl
  have aligned :
      ((newHeap base world room tableName
          pageSize).world.world.fileSystem.file
        world.fileSystem.nextInode).size % base.pageSize.toNat = 0 := by
    rw [empty, Nat.zero_mod]
  have whole : UInt32.ofNat 0 % base.pageSize = 0 := UInt32.zero_mod
  have inside : ¬ UInt32.ofNat 0 > base.maxDiskByteSize :=
    UInt32.not_lt_zero
  rw [← empty] at whole inside
  rw [HeapWorld.extend_of_whole loaded found positive aligned whole inside,
    next]

end NewHeap

/-! ## Inserts that return -/

section Exists

variable {base : DiskManager} {storage : UInt32 → Nat} {fuel : Nat}
variable {before middle : HeapWorld} {heap : Heap} {tuple : Tuple}
variable {cursor : DiskPageCursor} {slot : Nat} {state : HeapState}

/-- The first slot of an empty page. -/
theorem places_zeros {limit : Nat} (stored : heap.Stored storage)
    (header : 8 + heap.bitmapBytes ≤ limit)
    (covers :
      heap.bitmapSize.toNat ≤ 8 * storage heap.bitmapSize)
    (small : heap.bitmapSize.toNat < 2 ^ 31)
    (positive : 0 < heap.bitmapSize.toNat)
    (inside : tuple.cells ≠ [] →
      heap.slotOffset 0 tuple + Tuple.extent tuple.cells ≤ limit) :
    Places storage limit heap tuple (fun _ => 0) 0 where
  stored := stored
  header := header
  covered := ⟨by rw [length_bitmapOf stored]; exact covers, small⟩
  lowest := lowestFree_zeros positive
  inside := inside

/-- While no page is full, an insert that finds a slot returns. -/
theorem exists_insertion (uses : UsesPage base heap before cursor middle)
    (notRoot : cursor ≠ rootPage)
    (places : Places storage base.pageSize.toNat heap tuple
      (before.page heap.diskId cursor) slot)
    (empty : before.fullHead heap.diskId = -1) :
    ∃ after,
      Insertion base storage fuel heap tuple before after cursor slot
        middle := by
  rw [← uses.page_of_ne notRoot] at places
  by_cases full :
      ((heap.bitmapOf storage (middle.page heap.diskId cursor)).withBit
        slot true).numFree = 0
  · have head :
        (middle.setPage heap.diskId cursor
            (heap.withTuple storage tuple
              (middle.page heap.diskId cursor) slot)).fullHead
          heap.diskId = -1 := by
      simp only [HeapWorld.fullHead] at empty ⊢
      rw [HeapWorld.page_setPage, if_neg (Ne.symm notRoot), uses.root_eq]
      split
      · rw [pointerAt_write_apart (Or.inr (by rfl))]
        exact empty
      · exact empty
    exact ⟨_, uses, notRoot, places,
      .moves full (by rw [HeapWorld.fullEnd, if_pos head])⟩
  · exact ⟨_, uses, notRoot, places, .stays full⟩

theorem step_of_insertion {after : HeapWorld}
    (room : 12 ≤ base.pageSize.toNat)
    (insertion : Insertion base storage fuel state.heap tuple state.world
      after cursor slot middle) :
    (machine base storage).step state (.insert tuple)
      ⟨state.heap, after⟩ :=
  ⟨rfl, fuel, run_insertTuple room insertion⟩

end Exists

section First

variable {base : DiskManager} {storage : UInt32 → Nat} {world : World}
variable {room : world.manager.curDiskId ≠ Int32.maxValue}
variable {tableName : String} {pageSize : UInt32} {tuple : Tuple}

/-- The first tuple of a new heap goes to page `1`. -/
theorem exists_first_insert (fits : 12 ≤ base.pageSize.toNat)
    (history : ∃ passages, (World.passages base).Run passages world)
    (absent :
      world.fileSystem.lookup
        (base.diskPath (tableName ++ heapDiskSuffix)) = none)
    (places : Places storage base.pageSize.toNat
      (newHeap base world room tableName pageSize).heap tuple
      (fun _ => 0) 0) :
    ∃ after middle,
      Insertion base storage 0
          (newHeap base world room tableName pageSize).heap tuple
          (newHeap base world room tableName pageSize).world after 1 0
          middle ∧
        (machine base storage).Run [.insert tuple]
          ⟨(newHeap base world room tableName pageSize).heap, after⟩ := by
  have started :
      (machine base storage).start
        (newHeap base world room tableName pageSize) :=
    start_newHeap fits history absent
  have unused := (standing_start started).unused (fun ⟨_, member⟩ =>
    nomatch member)
  have notRoot : (1 : DiskPageCursor) ≠ rootPage := by decide
  rw [← unused.zeros 1 notRoot] at places
  obtain ⟨after, insertion⟩ :=
    @exists_insertion base storage 0 _ _ _ tuple 1 0
      (.extended unused.freeHead (extend_newHeap fits absent)) notRoot
      places unused.fullHead
  exact ⟨after, _, insertion,
    .step (.start started) (step_of_insertion fits insertion)⟩

end First

/-! ## A heap on the second disk -/

/-- The world of a heap on the disk `1`, whose first page is page `1`. -/
def secondWorld (base : DiskManager) : HeapWorld :=
  (HeapWorld.opened base "a.heap"
      ⟨World.oneDisk base, fun _ _ _ => 0, []⟩
      (by rw [World.curDiskId_oneDisk]; decide)).emptied 1

def secondHeap (pageSize : UInt32) : Heap :=
  ⟨"a.heap", 1, pageSize⟩

section Second

variable {base : DiskManager} {storage : UInt32 → Nat}
variable {pageSize : UInt32}

private theorem newHeap_eq_second
    (room : (World.oneDisk base).manager.curDiskId ≠ Int32.maxValue) :
    newHeap base (World.oneDisk base) room "a" pageSize =
      ⟨secondHeap pageSize, secondWorld base⟩ := by
  have named : "a" ++ heapDiskSuffix = "a.heap" := rfl
  simp only [newHeap, secondHeap, secondWorld, named,
    World.curDiskId_oneDisk]

theorem start_second (fits : 12 ≤ base.pageSize.toNat) :
    (machine base storage).start
      ⟨secondHeap pageSize, secondWorld base⟩ := by
  rw [← newHeap_eq_second (by rw [World.curDiskId_oneDisk]; decide)]
  exact start_newHeap fits World.history_oneDisk World.absent_oneDisk

theorem unused_second (fits : 12 ≤ base.pageSize.toNat) :
    Unused (secondHeap pageSize) (secondWorld base) :=
  (standing_start (@start_second base UInt32.toNat pageSize fits)).unused
    fun ⟨_, member⟩ => nomatch member

theorem extend_second (fits : 12 ≤ base.pageSize.toNat) :
    ((secondWorld base).extend base 1).1 = .ok (.value 1) := by
  have extended :=
    @extend_newHeap base (World.oneDisk base)
      (by rw [World.curDiskId_oneDisk]; decide) "a" 0 fits
      World.absent_oneDisk
  rw [newHeap_eq_second] at extended
  exact extended

theorem uses_second (fits : 12 ≤ base.pageSize.toNat) :
    UsesPage base (secondHeap pageSize) (secondWorld base) 1
      (((secondWorld base).extend base 1).2.write 1 rootPage 4
        (pointerBytes 1)) :=
  .extended (unused_second fits).freeHead (extend_second fits)

/-- The first tuple goes to the first slot of page `1`. -/
theorem exists_insertion_second {tuple : Tuple} {fuel : Nat}
    (fits : 12 ≤ base.pageSize.toNat)
    (places : Places storage base.pageSize.toNat (secondHeap pageSize)
      tuple (fun _ => 0) 0) :
    ∃ after middle,
      Insertion base storage fuel (secondHeap pageSize) tuple
        (secondWorld base) after 1 0 middle := by
  have unused := @unused_second base pageSize fits
  have notRoot : (1 : DiskPageCursor) ≠ rootPage := by decide
  rw [← unused.zeros 1 notRoot] at places
  obtain ⟨after, insertion⟩ :=
    @exists_insertion base storage fuel _ _ _ tuple 1 0
      (uses_second fits) notRoot places unused.fullHead
  exact ⟨after, _, insertion⟩

end Second

/-- Pages of 20 bytes, which have 69 slots of which three fit. -/
def pageBase : DiskManager :=
  ⟨"d", 20, 80⟩

def oneCell : Tuple :=
  ⟨[.uint8TType 7]⟩

section PageBase

variable (diskId : DiskId)

theorem bitmapSize_pageBase :
    (⟨"a.heap", diskId, 20⟩ : Heap).bitmapSize = 69 := by
  change (20 : UInt32) - (4 + 4) + 1 * 57 = 69
  decide

theorem bitmapBytes_pageBase :
    (⟨"a.heap", diskId, 20⟩ : Heap).bitmapBytes = 9 := by
  simp only [bitmapBytes]
  rw [bitmapSize_pageBase]
  decide

theorem slotOffset_pageBase (slot : Nat) (tuple : Tuple) :
    (⟨"a.heap", diskId, 20⟩ : Heap).slotOffset slot tuple =
      (17 + UInt32.ofNat slot * tuple.size).toNat := by
  have first : firstTupleOffset (Bitmap.numBytesOf 69) = 17 := by decide
  simp only [slotOffset]
  rw [bitmapSize_pageBase, first]

theorem stored_pageBase :
    (⟨"a.heap", diskId, 20⟩ : Heap).Stored UInt32.toNat := by
  simp only [Stored]
  rw [bitmapBytes_pageBase, bitmapSize_pageBase]
  decide

/-- The first slot of an empty page of 20 bytes. -/
theorem places_pageBase {tuple : Tuple}
    (short : Tuple.extent tuple.cells ≤ 3) :
    Places UInt32.toNat pageBase.pageSize.toNat ⟨"a.heap", diskId, 20⟩
      tuple (fun _ => 0) 0 := by
  have header :
      8 + (⟨"a.heap", diskId, 20⟩ : Heap).bitmapBytes ≤
        pageBase.pageSize.toNat := by
    rw [bitmapBytes_pageBase]
    decide
  have start :
      (⟨"a.heap", diskId, 20⟩ : Heap).slotOffset 0 tuple = 17 := by
    rw [slotOffset_pageBase]
    change (17 + 0 * tuple.size).toNat = 17
    rw [UInt32.zero_mul]
    rfl
  apply places_zeros (stored_pageBase diskId) header
  · rw [bitmapSize_pageBase]
    decide
  · rw [bitmapSize_pageBase]
    decide
  · rw [bitmapSize_pageBase]
    decide
  · intro _
    rw [start]
    change 17 + _ ≤ 20
    omega

end PageBase

end Heap

end Lewsql
