import Lewsql.Organizers.PageStore

/-!
# Runs of the heap over a page store

What each member function of the heap returns and leaves, as long as the pointers
of a root page fit the page.
-/

namespace Lewsql

open Interaction Bytes Posix FileSystem

namespace HeapWorld

def freeHead (self : HeapWorld) (diskId : DiskId) : DiskPageCursor :=
  pointerAt (self.page diskId Heap.rootPage) 4

def fullHead (self : HeapWorld) (diskId : DiskId) : DiskPageCursor :=
  pointerAt (self.page diskId Heap.rootPage) 8

def fullNext (self : HeapWorld) (diskId : DiskId)
    (cursor : DiskPageCursor) : DiskPageCursor :=
  pointerAt (self.page diskId cursor) 4

/-- The page at the end of the full list from a cursor on, in so many rounds. -/
def lastFull (self : HeapWorld) (diskId : DiskId) :
    Nat → DiskPageCursor → Option DiskPageCursor
  | 0, _ => none
  | fuel + 1, cursor =>
      if self.fullNext diskId cursor = -1 then some cursor
      else self.lastFull diskId fuel (self.fullNext diskId cursor)

def fullEnd (self : HeapWorld) (diskId : DiskId) (fuel : Nat) :
    Option (DiskPageCursor × UInt32) :=
  if self.fullHead diskId = -1 then
    some (Heap.rootPage, Heap.firstPageFullListOffset)
  else
    (self.lastFull diskId fuel (self.fullHead diskId)).map
      fun cursor => (cursor, Heap.fullListOffset)

end HeapWorld

section Accesses

variable {base : DiskManager} {state : HeapWorld} {diskId : DiskId}
variable {cursor : DiskPageCursor} {offset value : UInt32}

theorem run_pin :
    (pin diskId cursor).run (serveHeap base) state =
      (.done ⟨diskId, cursor, base.pageSize⟩, state) :=
  rfl

theorem run_unpin :
    (unpin diskId cursor).run (serveHeap base) state = (.done (), state) :=
  rfl

theorem run_readBytes {start count : Nat}
    (inside : start + count ≤ base.pageSize.toNat) :
    ((⟨diskId, cursor, base.pageSize⟩ : BufferPage).readBytes start
        count).run (serveHeap base) state =
      (.done ((state.page diskId cursor).read start count), state) := by
  have served :
      serveHeap base (.readPage diskId cursor start count) state =
        (some ((state.page diskId cursor).read start count), state) :=
    if_pos inside
  change
    ((inPage (serveHeap base (.readPage diskId cursor start count)
        state).1).run (serveHeap base)
      (serveHeap base (.readPage diskId cursor start count) state).2) = _
  rw [served]
  rfl

theorem run_readBytes_outside {start count : Nat}
    (outside : ¬ start + count ≤ base.pageSize.toNat) :
    ((⟨diskId, cursor, base.pageSize⟩ : BufferPage).readBytes start
        count).run (serveHeap base) state =
      (.crashed .outsidePage, state) := by
  have served :
      serveHeap base (.readPage diskId cursor start count) state =
        (none, state) :=
    if_neg outside
  change
    ((inPage (serveHeap base (.readPage diskId cursor start count)
        state).1).run (serveHeap base)
      (serveHeap base (.readPage diskId cursor start count) state).2) = _
  rw [served]
  rfl

theorem run_writeBytes {start : Nat} {bytes : List UInt8}
    (inside : start + bytes.length ≤ base.pageSize.toNat) :
    ((⟨diskId, cursor, base.pageSize⟩ : BufferPage).writeBytes start
        bytes).run (serveHeap base) state =
      (.done (), state.write diskId cursor start bytes) := by
  have served :
      serveHeap base (.writePage diskId cursor start bytes) state =
        (some (), state.write diskId cursor start bytes) :=
    if_pos inside
  change
    ((inPage (serveHeap base (.writePage diskId cursor start bytes)
        state).1).run (serveHeap base)
      (serveHeap base (.writePage diskId cursor start bytes) state).2) = _
  rw [served]
  rfl

theorem run_writeBytes_outside {start : Nat} {bytes : List UInt8}
    (outside : ¬ start + bytes.length ≤ base.pageSize.toNat) :
    ((⟨diskId, cursor, base.pageSize⟩ : BufferPage).writeBytes start
        bytes).run (serveHeap base) state =
      (.crashed .outsidePage, state) := by
  have served :
      serveHeap base (.writePage diskId cursor start bytes) state =
        (none, state) :=
    if_neg outside
  change
    ((inPage (serveHeap base (.writePage diskId cursor start bytes)
        state).1).run (serveHeap base)
      (serveHeap base (.writePage diskId cursor start bytes) state).2) = _
  rw [served]
  rfl

theorem run_toPtr (inside : offset < base.pageSize) :
    ((⟨diskId, cursor, base.pageSize⟩ : BufferPage).toPtr offset).run
        (serveHeap base) state =
      (.done offset.toNat, state) := by
  simp only [BufferPage.toPtr]
  rw [if_neg (UInt32.not_le.mpr inside)]
  rfl

theorem run_loadInt32
    (inside : offset.toNat + 4 ≤ base.pageSize.toNat) :
    ((⟨diskId, cursor, base.pageSize⟩ : BufferPage).loadInt32 offset).run
        (serveHeap base) state =
      (.done (pointerAt (state.page diskId cursor) offset.toNat),
        state) := by
  have below : offset < base.pageSize := by
    rw [UInt32.lt_iff_toNat_lt]
    omega
  simp only [BufferPage.loadInt32]
  rw [Program.run_bind_of_done _ (run_toPtr below),
    Program.run_bind_of_done _ (run_readBytes inside)]
  rfl

theorem run_storeUInt32
    (inside : offset.toNat + 4 ≤ base.pageSize.toNat) :
    ((⟨diskId, cursor, base.pageSize⟩ : BufferPage).storeUInt32 offset
        value).run (serveHeap base) state =
      (.done (),
        state.write diskId cursor offset.toNat
          (littleEndian 4 value.toNat)) := by
  have below : offset < base.pageSize := by
    rw [UInt32.lt_iff_toNat_lt]
    omega
  simp only [BufferPage.storeUInt32]
  rw [Program.run_bind_of_done _ (run_toPtr below)]
  apply run_writeBytes
  rw [length_littleEndian]
  exact inside

theorem run_storeUInt32_outside
    (outside : ¬ offset.toNat + 4 ≤ base.pageSize.toNat) :
    ∃ failure,
      ((⟨diskId, cursor, base.pageSize⟩ : BufferPage).storeUInt32 offset
          value).run (serveHeap base) state =
        (.crashed failure, state) := by
  simp only [BufferPage.storeUInt32]
  by_cases below : offset < base.pageSize
  · refine ⟨.outsidePage, ?_⟩
    rw [Program.run_bind_of_done _ (run_toPtr below)]
    apply run_writeBytes_outside
    rw [length_littleEndian]
    exact outside
  · refine ⟨.thrown .outOfPageBounds, ?_⟩
    apply Program.run_bind_of_crashed
    simp only [BufferPage.toPtr]
    rw [if_pos (UInt32.not_lt.mp below)]
    rfl

end Accesses

namespace Heap

section Runs

variable {base : DiskManager} {state : HeapWorld} {self : Heap}
variable (room : 12 ≤ base.pageSize.toNat)

include room

theorem run_findFreePage :
    self.findFreePage.run (serveHeap base) state =
      (.done
        (if state.freeHead self.diskId = -1 then none
          else some (state.freeHead self.diskId).toUInt32),
        state) := by
  have inside :
      firstPageFreeListOffset.toNat + 4 ≤ base.pageSize.toNat := by
    change 4 + 4 ≤ _
    omega
  simp only [findFreePage]
  rw [Program.run_bind_of_done _ run_pin,
    Program.run_bind_of_done _ (run_loadInt32 inside),
    Program.run_bind_of_done _ run_unpin]
  change
    (if state.freeHead self.diskId = -1 then
        (Program.done none : HeapEffect (Option UInt32))
      else .done (some (state.freeHead self.diskId).toUInt32)).run
        (serveHeap base) state = _
  split <;> rfl

theorem run_lastFullPage (fuel : Nat) (cursor : DiskPageCursor) :
    (self.lastFullPage fuel cursor).run (serveHeap base) state =
      match state.lastFull self.diskId fuel cursor with
      | some last => (.done ⟨self.diskId, last, base.pageSize⟩, state)
      | none => (.crashed .outOfFuel, state) := by
  have inside : fullListOffset.toNat + 4 ≤ base.pageSize.toNat := by
    change 4 + 4 ≤ _
    omega
  induction fuel generalizing cursor with
  | zero => rfl
  | succ fuel inductionHypothesis =>
      rw [lastFullPage, HeapWorld.lastFull,
        Program.run_bind_of_done _ run_pin,
        Program.run_bind_of_done _ (run_loadInt32 inside)]
      change
        (if state.fullNext self.diskId cursor = -1 then _ else _ :
          HeapEffect BufferPage).run (serveHeap base) state = _
      by_cases ends : state.fullNext self.diskId cursor = -1
      · rw [if_pos ends, if_pos ends]
        rfl
      · rw [if_neg ends, if_neg ends,
          Program.run_bind_of_done _ (run_loadInt32 inside),
          Program.run_bind_of_done _ run_unpin]
        exact inductionHypothesis _

theorem run_endOfFullList (fuel : Nat) :
    (self.endOfFullList fuel).run (serveHeap base) state =
      match state.fullEnd self.diskId fuel with
      | some (last, offset) =>
          (.done (⟨self.diskId, last, base.pageSize⟩, offset), state)
      | none => (.crashed .outOfFuel, state) := by
  have inside :
      firstPageFullListOffset.toNat + 4 ≤ base.pageSize.toNat := by
    change 8 + 4 ≤ _
    omega
  simp only [endOfFullList, HeapWorld.fullEnd]
  rw [Program.run_bind_of_done _ run_pin,
    Program.run_bind_of_done _ (run_loadInt32 inside)]
  change
    (if state.fullHead self.diskId = -1 then _ else _ :
      HeapEffect (BufferPage × UInt32)).run (serveHeap base) state = _
  by_cases empty : state.fullHead self.diskId = -1
  · rw [if_pos empty, if_pos empty]
    rfl
  · have walked :=
      @run_lastFullPage base state self room fuel
        (state.fullHead self.diskId)
    rw [if_neg empty, if_neg empty,
      Program.run_bind_of_done _ (run_loadInt32 inside),
      Program.run_bind_of_done _ run_unpin]
    cases ends :
        state.lastFull self.diskId fuel (state.fullHead self.diskId) with
    | none =>
        rw [ends] at walked
        exact Program.run_bind_of_crashed _ walked _
    | some last =>
        rw [ends] at walked
        exact Program.run_bind_of_done _ walked _

theorem run_appendToFullPages (fuel : Nat) (cursor : DiskPageCursor) :
    (self.appendToFullPages fuel cursor).run (serveHeap base) state =
      match state.fullEnd self.diskId fuel with
      | some (last, offset) =>
          (.done (),
            state.write self.diskId last offset.toNat
              (pointerBytes cursor))
      | none => (.crashed .outOfFuel, state) := by
  simp only [appendToFullPages]
  rw [Program.run_bind, run_endOfFullList room]
  cases ends : state.fullEnd self.diskId fuel with
  | none => rfl
  | some last =>
      have inside : last.2.toNat + 4 ≤ base.pageSize.toNat := by
        simp only [HeapWorld.fullEnd] at ends
        split at ends
        · cases ends
          change 8 + 4 ≤ _
          omega
        · obtain ⟨cursor, _, same⟩ := Option.map_eq_some_iff.mp ends
          rw [← same]
          change 4 + 4 ≤ _
          omega
      change
        ((⟨self.diskId, last.1, base.pageSize⟩ : BufferPage).storeUInt32
            last.2 cursor.toUInt32 >>= _).run (serveHeap base) state = _
      rw [Program.run_bind_of_done _ (run_storeUInt32 inside)]
      rfl

/-- An extend that returned a cursor leaves it and the id in the root page. -/
theorem run_extendFreeList {cursor : DiskPageCursor}
    (extended :
      (state.extend base self.diskId).1 = .ok (.value cursor)) :
    self.extendFreeList.run (serveHeap base) state =
      (.done cursor,
        (state.extend base self.diskId).2.write self.diskId rootPage 4
          (pointerBytes self.diskId)) := by
  have inside :
      firstPageFreeListOffset.toNat + 4 ≤ base.pageSize.toNat := by
    change 4 + 4 ≤ _
    omega
  simp only [extendFreeList]
  change
    ((attempt .diskManager (state.extend base self.diskId).1 >>= _ :
        HeapEffect DiskPageCursor).run (serveHeap base)
      (state.extend base self.diskId).2) = _
  rw [extended]
  change
    ((⟨self.diskId, rootPage, base.pageSize⟩ : BufferPage).storeUInt32
        firstPageFreeListOffset self.diskId.toUInt32 >>= _ :
      HeapEffect DiskPageCursor).run (serveHeap base) _ = _
  rw [Program.run_bind_of_done _ (run_storeUInt32 inside)]
  rfl

end Runs

/-- An extend that does not return a cursor ends the insert in the disk
manager. -/
theorem run_extendFreeList_failed {base : DiskManager}
    {state : HeapWorld} {self : Heap}
    (failed : ∀ cursor,
      (state.extend base self.diskId).1 ≠ .ok (.value cursor)) :
    ∃ reason,
      self.extendFreeList.run (serveHeap base) state =
        (.crashed (.diskManager reason),
          (state.extend base self.diskId).2) := by
  simp only [extendFreeList]
  change
    ∃ reason,
      ((attempt .diskManager (state.extend base self.diskId).1 >>= _ :
          HeapEffect DiskPageCursor).run (serveHeap base)
        (state.extend base self.diskId).2) = _
  cases reply : (state.extend base self.diskId).1 with
  | error reason => exact ⟨reason, rfl⟩
  | ok result =>
      cases result with
      | value cursor => exact absurd reply (failed cursor)
      | error failure => exact ⟨_, rfl⟩

end Heap

end Lewsql
