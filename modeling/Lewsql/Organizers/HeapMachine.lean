import Lewsql.Organizers.Construction
import Lewsql.Organizers.Insertion

/-!
# Runs of inserts into a new heap

The machine of a heap starts with its construction for a table that has no file
yet, after any history of the disk manager.  Its steps are inserts that return
and transfers of pages by the buffer manager, which let the file grow and leave
the stored pages as they are.
-/

namespace Lewsql

open Interaction Bytes Posix FileSystem

structure HeapState where
  heap : Heap
  world : HeapWorld

inductive HeapEvent where
  | insert (tuple : Tuple)
  | transfer (operation : Operation)

/-- The operations by which the buffer manager moves a page. -/
def Operation.MovesPage : Operation → Prop
  | .write _ _ _ => True
  | .read _ _ _ => True
  | _ => False

/-- A table without a file, whose pages were never written. -/
structure NewTable (base : DiskManager) (tableName : String)
    (world : HeapWorld) : Prop where
  history : ∃ passages, (World.passages base).Run passages world.world
  absent :
    world.world.fileSystem.lookup
      (base.diskPath (tableName ++ Heap.heapDiskSuffix)) = none
  zeros : ∀ cursor,
    world.pages (some (getDiskFullName (tableName ++ Heap.heapDiskSuffix)))
      cursor = fun _ => 0
  unextended : world.extended = []

namespace Heap

def Step (base : DiskManager) (storage : UInt32 → Nat) (heap : Heap)
    (before : HeapWorld) : HeapEvent → HeapWorld → Prop
  | .insert tuple, after =>
      ∃ fuel,
        (heap.insertTuple storage fuel tuple).run (serveHeap base) before =
          (.done (), after)
  | .transfer operation, after =>
      operation.MovesPage ∧
        (∃ response,
          before.world.step base operation =
            (.done response, after.world)) ∧
        after.pages = before.pages ∧ after.extended = before.extended

def machine (base : DiskManager) (storage : UInt32 → Nat) :
    Machine HeapState HeapEvent where
  start state :=
    ∃ tableName pageSize before,
      NewTable base tableName before ∧
        (construct tableName pageSize).run (serveHeap base) before =
          (.done state.heap, state.world)
  step before event after :=
    after.heap = before.heap ∧
      Step base storage before.heap before.world event after.world

end Heap

def Inserts (events : List HeapEvent) : Prop :=
  ∃ tuple, HeapEvent.insert tuple ∈ events

section Inserts

variable {events : List HeapEvent}

theorem inserts_append_insert (events : List HeapEvent) (tuple : Tuple) :
    Inserts (events ++ [.insert tuple]) :=
  ⟨tuple, List.mem_append_right _ (List.mem_singleton_self _)⟩

theorem inserts_append_transfer (operation : Operation) :
    Inserts (events ++ [.transfer operation]) ↔ Inserts events := by
  constructor
  · intro ⟨tuple, member⟩
    rcases List.mem_append.mp member with old | last
    · exact ⟨tuple, old⟩
    · cases List.mem_singleton.mp last
  · intro ⟨tuple, member⟩
    exact ⟨tuple, List.mem_append_left _ member⟩

end Inserts

/-! ## What a step keeps -/

namespace HeapWorld

variable {self : HeapWorld} {diskId : DiskId}

def pageUsed (base : DiskManager) (diskId : DiskId)
    (self : HeapWorld) : DiskPageCursor :=
  if self.freeHead diskId = -1 then self.nextCursor base diskId
  else self.freeHead diskId

/-- A walk along the full list ends at the end marker. -/
theorem fullNext_of_lastFull {fuel : Nat}
    {cursor last : DiskPageCursor}
    (ends : self.lastFull diskId fuel cursor = some last) :
    self.fullNext diskId last = -1 := by
  induction fuel generalizing cursor with
  | zero => cases ends
  | succ fuel inductionHypothesis =>
      rw [lastFull] at ends
      by_cases marker : self.fullNext diskId cursor = -1
      · rw [if_pos marker] at ends
        cases ends
        exact marker
      · rw [if_neg marker] at ends
        exact inductionHypothesis ends

/-- The full list ends in the root page where it is empty, and behind another
page otherwise, as long as the free list is not empty. -/
theorem fullEnd_cases {fuel : Nat} {last : DiskPageCursor}
    {offset : UInt32} (listed : self.freeHead diskId ≠ -1)
    (ends : self.fullEnd diskId fuel = some (last, offset)) :
    last = Heap.rootPage ∧ offset.toNat = 8 ∨
      last ≠ Heap.rootPage ∧ offset.toNat = 4 := by
  simp only [fullEnd] at ends
  by_cases empty : self.fullHead diskId = -1
  · rw [if_pos empty] at ends
    cases ends
    exact Or.inl ⟨rfl, rfl⟩
  · rw [if_neg empty] at ends
    obtain ⟨cursor, found, same⟩ := Option.map_eq_some_iff.mp ends
    cases same
    refine Or.inr ⟨?_, rfl⟩
    intro root
    rw [root] at found
    exact listed (fullNext_of_lastFull found)

end HeapWorld

namespace Heap

section Frames

variable {base : DiskManager} {storage : UInt32 → Nat} {fuel : Nat}
variable {before middle after : HeapWorld} {heap : Heap}
variable {tuple : Tuple} {cursor other : DiskPageCursor} {slot : Nat}
variable {bitmap : Bitmap}

namespace UsesPage

theorem cursor_eq (uses : UsesPage base heap before cursor middle) :
    cursor = before.pageUsed base heap.diskId := by
  simp only [HeapWorld.pageUsed]
  cases uses with
  | listed head => rw [if_neg head]
  | extended head extended =>
      rw [if_pos head]
      exact HeapWorld.nextCursor_of_extend extended

theorem fileOf (uses : UsesPage base heap before cursor middle)
    (other : DiskId) : middle.fileOf other = before.fileOf other := by
  cases uses with
  | listed head => rfl
  | extended head extended =>
      rw [HeapWorld.fileOf_write, HeapWorld.fileOf_extend]

theorem page_of_ne (uses : UsesPage base heap before cursor middle)
    (data : other ≠ rootPage) :
    middle.page heap.diskId other = before.page heap.diskId other := by
  cases uses with
  | listed head => rfl
  | extended head extended =>
      rw [HeapWorld.page_write, if_neg data, HeapWorld.page_extend]

theorem root_eq (uses : UsesPage base heap before cursor middle) :
    middle.page heap.diskId rootPage =
      if before.freeHead heap.diskId = -1 then
        (before.page heap.diskId rootPage).write 4
          (pointerBytes heap.diskId)
      else before.page heap.diskId rootPage := by
  cases uses with
  | listed head => rw [if_neg head]
  | extended head extended =>
      rw [if_pos head, HeapWorld.page_write, if_pos rfl,
        HeapWorld.page_extend]

theorem freeHead (uses : UsesPage base heap before cursor middle) :
    middle.freeHead heap.diskId =
      if before.freeHead heap.diskId = -1 then heap.diskId
      else before.freeHead heap.diskId := by
  have root := uses.root_eq
  unfold HeapWorld.freeHead at root ⊢
  rw [root]
  split
  · exact pointerAt_write_self
  · rfl

theorem extended_eq (uses : UsesPage base heap before cursor middle) :
    middle.extended =
      if before.freeHead heap.diskId = -1 then
        before.extended ++ [(heap.diskId, cursor)]
      else before.extended := by
  cases uses with
  | listed head => rw [if_neg head]
  | extended head extended =>
      rw [if_pos head, HeapWorld.extended_write,
        HeapWorld.extended_extend extended]

end UsesPage

namespace MovesIfFull

theorem fileOf (moves : MovesIfFull fuel heap cursor bitmap before after)
    (other : DiskId) : after.fileOf other = before.fileOf other := by
  cases moves with
  | stays free => rfl
  | moves full ends => rfl

theorem extended_eq
    (moves : MovesIfFull fuel heap cursor bitmap before after) :
    after.extended = before.extended := by
  cases moves with
  | stays free => rfl
  | moves full ends => rfl

theorem eq_of_free
    (moves : MovesIfFull fuel heap cursor bitmap before after)
    (free : bitmap.numFree ≠ 0) : after = before := by
  cases moves with
  | stays _ => rfl
  | moves full ends => exact absurd full free

/-- As long as the free list is not empty, a move keeps its head. -/
theorem freeHead_of_listed
    (moves : MovesIfFull fuel heap cursor bitmap before after)
    (listed : before.freeHead heap.diskId ≠ -1) :
    after.freeHead heap.diskId = before.freeHead heap.diskId := by
  cases moves with
  | stays free => rfl
  | @moves last offset full ends =>
      simp only [HeapWorld.freeHead]
      rcases HeapWorld.fullEnd_cases listed ends with
        ⟨root, past⟩ | ⟨data, _⟩
      · rw [HeapWorld.page_write, root, if_pos rfl, past,
          pointerAt_write_apart (Or.inl (by omega))]
      · rw [HeapWorld.page_write, if_neg (Ne.symm data)]

end MovesIfFull

namespace Insertion

theorem fileOf
    (insertion : Insertion base storage fuel heap tuple before after cursor
      slot middle) (other : DiskId) :
    after.fileOf other = before.fileOf other := by
  rw [insertion.moves.fileOf, HeapWorld.fileOf_setPage,
    insertion.uses.fileOf]

theorem extended_eq
    (insertion : Insertion base storage fuel heap tuple before after cursor
      slot middle) :
    after.extended =
      if before.freeHead heap.diskId = -1 then
        before.extended ++ [(heap.diskId, cursor)]
      else before.extended := by
  rw [insertion.moves.extended_eq, HeapWorld.extended_setPage,
    insertion.uses.extended_eq]

/-- The bitmap of the page in front of the insert. -/
theorem covered
    (insertion : Insertion base storage fuel heap tuple before after cursor
      slot middle) :
    (heap.bitmapOf storage (before.page heap.diskId cursor)).Covered := by
  rw [← insertion.uses.page_of_ne insertion.notRoot]
  exact insertion.places.covered

theorem lowestFree
    (insertion : Insertion base storage fuel heap tuple before after cursor
      slot middle) :
    (heap.bitmapOf storage (before.page heap.diskId cursor)).lowestFree =
      some slot := by
  rw [← insertion.uses.page_of_ne insertion.notRoot]
  exact insertion.places.lowest

/-- The head of the free list is set once and for all. -/
theorem freeHead
    (insertion : Insertion base storage fuel heap tuple before after cursor
      slot middle) (positive : heap.diskId ≠ -1) :
    after.freeHead heap.diskId =
      if before.freeHead heap.diskId = -1 then heap.diskId
      else before.freeHead heap.diskId := by
  have placed :
      (middle.setPage heap.diskId cursor
          (heap.withTuple storage tuple (middle.page heap.diskId cursor)
            slot)).freeHead heap.diskId =
        middle.freeHead heap.diskId := by
    simp only [HeapWorld.freeHead]
    rw [HeapWorld.page_setPage, if_neg (Ne.symm insertion.notRoot)]
  have head := insertion.uses.freeHead
  have listed : middle.freeHead heap.diskId ≠ -1 := by
    rw [head]
    split
    · exact positive
    · assumption
  rw [insertion.moves.freeHead_of_listed (by rw [placed]; exact listed),
    placed, head]

/-- An insert that leaves a free slot writes to the page it uses only. -/
theorem page_of_free
    (insertion : Insertion base storage fuel heap tuple before after cursor
      slot middle)
    (free :
      ((heap.bitmapOf storage (before.page heap.diskId cursor)).withBit
        slot true).numFree ≠ 0) (other : DiskPageCursor) :
    after.page heap.diskId other =
      if other = cursor then
        heap.withTuple storage tuple (before.page heap.diskId cursor) slot
      else middle.page heap.diskId other := by
  have same := insertion.uses.page_of_ne insertion.notRoot
  have stayed := insertion.moves.eq_of_free (by rw [same]; exact free)
  rw [stayed, HeapWorld.page_setPage, same]

end Insertion

/-- A transfer keeps the files behind the ids. -/
theorem fileOf_of_transfer {operation : Operation}
    (stepped : Step base storage heap before (.transfer operation) after)
    (other : DiskId) : after.fileOf other = before.fileOf other := by
  obtain ⟨moves, ⟨response, returned⟩, _, _⟩ := stepped
  have same : after.world.manager = before.world.manager := by
    obtain ⟨world, pages, extended⟩ := before
    obtain ⟨last, _, _⟩ := after
    have change := World.change_of_step returned
    cases change with
    | untouched same => exact same.1
    | load => cases moves
    | create => cases moves
    | unload => cases moves
    | destroy => cases moves
  simp only [HeapWorld.fileOf]
  rw [same]

theorem page_of_transfer {operation : Operation}
    (stepped : Step base storage heap before (.transfer operation) after)
    (diskId : DiskId) (cursor : DiskPageCursor) :
    after.page diskId cursor = before.page diskId cursor := by
  simp only [HeapWorld.page]
  rw [fileOf_of_transfer stepped, stepped.2.2.1]

end Frames

end Heap

/-- No id is negative. -/
theorem World.curDiskId_nonneg {base : DiskManager}
    {passages : List Passage} {world : World}
    (history : (World.passages base).Run passages world) :
    0 ≤ world.manager.curDiskId.toInt := by
  refine Machine.Run.invariant
    (fun _ world => 0 ≤ world.manager.curDiskId.toInt) ?_ ?_ history
  · intro start fresh
    have new : start.manager = PosixDiskManager.new := fresh
    rw [new]
    exact le_refl _
  · intro earlier before passage after _ nonneg stepped
    obtain ⟨rfl, rfl, returned⟩ := stepped
    have grows (room :
        passage.before.manager.curDiskId ≠ Int32.maxValue) :
        0 ≤ (passage.before.manager.curDiskId + 1).toInt := by
      rw [PosixDiskManager.toInt_succ_of_ne_maxValue room]
      omega
    have change := World.change_of_step returned
    obtain ⟨before, operation, response, after⟩ := passage
    cases change with
    | untouched same => rw [same.1]; exact nonneg
    | load room => exact grows room
    | create room => exact grows room
    | unload => exact nonneg
    | destroy => exact nonneg

/-! ## What holds along every run -/

namespace Heap

structure Unused (heap : Heap) (world : HeapWorld) : Prop where
  stamp :
    (world.page heap.diskId rootPage).read 0 4 =
      littleEndian 4 pageStartStamp.toNat
  freeHead : world.freeHead heap.diskId = -1
  fullHead : world.fullHead heap.diskId = -1
  unextended : world.extended = []
  zeros : ∀ cursor, cursor ≠ rootPage →
    world.page heap.diskId cursor = fun _ => 0

/-- The first insert sets the head of the free list to the id of the disk, where
it stays. -/
structure Standing (base : DiskManager) (events : List HeapEvent)
    (state : HeapState) : Prop where
  room : 12 ≤ base.pageSize.toNat
  nonneg : 0 ≤ state.heap.diskId.toInt
  file :
    state.world.fileOf state.heap.diskId =
      some (getDiskFullName state.heap.tableName)
  listed : Inserts events →
    state.world.freeHead state.heap.diskId = state.heap.diskId
  unused : ¬ Inserts events → Unused state.heap state.world

theorem Standing.ne_end {base : DiskManager} {events : List HeapEvent}
    {state : HeapState} (standing : Standing base events state) :
    state.heap.diskId ≠ -1 := by
  intro same
  have nonneg := standing.nonneg
  rw [same] at nonneg
  exact absurd nonneg (by decide)

section Standing

variable {base : DiskManager} {storage : UInt32 → Nat}
variable {before after : HeapWorld} {tableName : String} {heap : Heap}
variable {pageSize : UInt32} {events : List HeapEvent}
variable {state : HeapState}

/-- The file that the constructor loaded. -/
theorem fileOf_construct
    (finished :
      (construct tableName pageSize).run (serveHeap base) before =
        (.done heap, after)) :
    after.fileOf heap.diskId = some (getDiskFullName heap.tableName) ∧
      heap.tableName = tableName ++ heapDiskSuffix := by
  obtain ⟨_, room, sameHeap, sameWorld⟩ := construct_of_run finished
  subst sameHeap sameWorld
  refine ⟨?_, rfl⟩
  rw [HeapWorld.fileOf_emptied]
  exact AList.lookup_insert _

/-- The constructor writes the root page and no other. -/
theorem page_construct
    (finished :
      (construct tableName pageSize).run (serveHeap base) before =
        (.done heap, after)) {cursor : DiskPageCursor}
    (data : cursor ≠ rootPage) :
    after.page heap.diskId cursor =
      before.pages (some (getDiskFullName heap.tableName)) cursor := by
  have file := (fileOf_construct finished).1
  obtain ⟨_, room, sameHeap, sameWorld⟩ := construct_of_run finished
  subst sameHeap sameWorld
  rw [HeapWorld.fileOf_emptied] at file
  rw [HeapWorld.page_emptied data]
  simp only [HeapWorld.page]
  rw [file]
  rfl

theorem standing_start (started : (machine base storage).start state) :
    Standing base [] state := by
  obtain ⟨tableName, pageSize, before, new, finished⟩ := started
  obtain ⟨passages, history⟩ := new.history
  obtain ⟨file, name⟩ := fileOf_construct finished
  obtain ⟨room, notFull, sameHeap, sameWorld⟩ := construct_of_run finished
  constructor
  · exact room
  · rw [sameHeap]
    exact World.curDiskId_nonneg history
  · exact file
  · intro ⟨tuple, member⟩
    cases member
  · intro _
    constructor
    · rw [sameWorld, sameHeap]
      exact HeapWorld.stamp_emptied
    · rw [sameWorld, sameHeap]
      exact HeapWorld.freeHead_emptied
    · rw [sameWorld, sameHeap]
      exact HeapWorld.fullHead_emptied
    · rw [sameWorld, HeapWorld.extended_emptied]
      exact new.unextended
    · intro cursor data
      rw [page_construct finished data, name]
      exact new.zeros cursor

theorem Standing.step_insert {tuple : Tuple} {fuel : Nat}
    {next : HeapState} (standing : Standing base events state)
    (sameHeap : next.heap = state.heap)
    (finished :
      (state.heap.insertTuple storage fuel tuple).run (serveHeap base)
          state.world =
        (.done (), next.world)) :
    Standing base (events ++ [.insert tuple]) next := by
  obtain ⟨cursor, slot, middle, insertion⟩ :=
    insertion_of_run standing.room finished
  constructor
  · exact standing.room
  · rw [sameHeap]
    exact standing.nonneg
  · rw [sameHeap, insertion.fileOf]
    exact standing.file
  · intro _
    rw [sameHeap, insertion.freeHead standing.ne_end]
    by_cases inserted : Inserts events
    · rw [standing.listed inserted]
      exact ite_self _
    · rw [if_pos (standing.unused inserted).freeHead]
  · intro none
    exact absurd (inserts_append_insert events tuple) none

theorem Standing.step_transfer {operation : Operation}
    {next : HeapState} (standing : Standing base events state)
    (sameHeap : next.heap = state.heap)
    (stepped :
      Step base storage state.heap state.world (.transfer operation)
        next.world) :
    Standing base (events ++ [.transfer operation]) next := by
  have page (cursor : DiskPageCursor) :
      next.world.page next.heap.diskId cursor =
        state.world.page state.heap.diskId cursor := by
    rw [sameHeap]
    exact page_of_transfer stepped _ cursor
  have heads :
      next.world.freeHead next.heap.diskId =
          state.world.freeHead state.heap.diskId ∧
        next.world.fullHead next.heap.diskId =
          state.world.fullHead state.heap.diskId := by
    simp only [HeapWorld.freeHead, HeapWorld.fullHead]
    rw [page]
    exact ⟨rfl, rfl⟩
  constructor
  · exact standing.room
  · rw [sameHeap]
    exact standing.nonneg
  · rw [sameHeap, fileOf_of_transfer stepped]
    exact standing.file
  · intro inserted
    rw [heads.1, sameHeap]
    exact standing.listed ((inserts_append_transfer operation).mp inserted)
  · intro none
    have unused :=
      standing.unused (mt (inserts_append_transfer operation).mpr none)
    constructor
    · rw [page]
      exact unused.stamp
    · exact heads.1.trans unused.freeHead
    · exact heads.2.trans unused.fullHead
    · exact stepped.2.2.2.trans unused.unextended
    · intro cursor data
      rw [page]
      exact unused.zeros cursor data

theorem standing_of_run (run : (machine base storage).Run events state) :
    Standing base events state := by
  refine Machine.Run.invariant (Standing base) ?_ ?_ run
  · intro start started
    exact standing_start started
  · intro earlier before event after _ standing stepped
    obtain ⟨sameHeap, step⟩ := stepped
    cases event with
    | insert tuple =>
        obtain ⟨fuel, finished⟩ := step
        exact standing.step_insert sameHeap finished
    | transfer operation => exact standing.step_transfer sameHeap step

end Standing

end Heap

end Lewsql
