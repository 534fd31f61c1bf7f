import Lewsql.Organizers.HeapRuns

/-!
# What `insert_tuple` does to the pages

An insert that returned found a page, took the lowest free slot of it, wrote the
tuple there and, if that was the last free slot, hung the page at the end of the
full list.  `Insertion` says this of the worlds before and after, and it holds of
exactly the inserts that return.
-/

namespace Lewsql

open Interaction Bytes Posix FileSystem

namespace Heap

/-! ## Writing a tuple -/

section Serialize

variable {base : DiskManager} {state : HeapWorld} {diskId : DiskId}
variable {cursor : DiskPageCursor} {cells : List Cell} {offset : Nat}

theorem run_serializeCells
    (inside : cells ≠ [] →
      offset + Tuple.extent cells ≤ base.pageSize.toNat) :
    (Tuple.serializeCells
        (⟨diskId, cursor, base.pageSize⟩ : BufferPage).writeBytes cells
        offset).run (serveHeap base) state =
      (.done (),
        state.write diskId cursor offset (Tuple.image cells)) := by
  induction cells generalizing offset state with
  | nil =>
      rw [Tuple.image, HeapWorld.write_nil]
      rfl
  | cons cell rest inductionHypothesis =>
      have inside := inside (List.cons_ne_nil cell rest)
      rw [Tuple.extent] at inside
      have positive := cell.width_pos
      have own : offset + cell.bytes.length ≤ base.pageSize.toNat := by
        rw [Cell.length_bytes]
        omega
      have within : 1 ≤ cell.bytes.length := by
        rw [Cell.length_bytes]
        exact positive
      rw [Tuple.image, ← HeapWorld.write_write_within within,
        Tuple.serializeCells, Cell.size_eq]
      refine (Program.run_bind_of_done _ (run_writeBytes own) _).trans
        (inductionHypothesis fun _ => ?_)
      change offset + 1 + _ ≤ _
      omega

theorem run_serializeCells_outside (some : cells ≠ [])
    (outside : ¬ offset + Tuple.extent cells ≤ base.pageSize.toNat) :
    ∃ after,
      (Tuple.serializeCells
          (⟨diskId, cursor, base.pageSize⟩ : BufferPage).writeBytes cells
          offset).run (serveHeap base) state =
        (.crashed .outsidePage, after) := by
  induction cells generalizing offset state with
  | nil => exact absurd rfl some
  | cons cell rest inductionHypothesis =>
      rw [Tuple.extent] at outside
      have positive := cell.width_pos
      rw [Tuple.serializeCells, Cell.size_eq]
      by_cases own : offset + cell.bytes.length ≤ base.pageSize.toNat
      · have later : rest ≠ [] := by
          intro nothing
          rw [nothing, Tuple.extent] at outside
          rw [Cell.length_bytes] at own
          omega
        have width := cell.length_bytes
        obtain ⟨after, failed⟩ :=
          @inductionHypothesis
            (state.write diskId cursor offset cell.bytes) (offset + 1)
            later (by omega)
        exact ⟨after,
          (Program.run_bind_of_done _ (run_writeBytes own) _).trans failed⟩
      · exact ⟨state,
          Program.run_bind_of_crashed _ (run_writeBytes_outside own) _⟩

end Serialize

/-! ## Using a page -/

/-- A slot in which `insert_tuple` can place a tuple on a page. -/
structure Places (storage : UInt32 → Nat) (limit : Nat) (heap : Heap)
    (tuple : Tuple) (page : Memory) (slot : Nat) : Prop where
  stored : heap.Stored storage
  header : 8 + heap.bitmapBytes ≤ limit
  covered : (heap.bitmapOf storage page).Covered
  lowest : (heap.bitmapOf storage page).lowestFree = some slot
  inside : tuple.cells ≠ [] →
    heap.slotOffset slot tuple + Tuple.extent tuple.cells ≤ limit

section Place

variable {base : DiskManager} {state after : HeapWorld} {self : Heap}
variable {storage : UInt32 → Nat} {tuple : Tuple} {diskId : DiskId}
variable {cursor : DiskPageCursor} {slot : Nat} {bitmap : Bitmap}

/-- The steps of `placeTuple` up to the slot. -/
private theorem run_placeTuple_reads (stored : self.Stored storage)
    (header : 8 + self.bitmapBytes ≤ base.pageSize.toNat) :
    (self.placeTuple storage tuple
        ⟨diskId, cursor, base.pageSize⟩).run (serveHeap base) state =
      (do
        let (slot, bitmap) ←
          attempt id
            (takeSlot
              (self.bitmapOf storage (state.page diskId cursor)))
        let bytes ← attempt .bitmap bitmap.serialize
        (⟨diskId, cursor, base.pageSize⟩ : BufferPage).writeBytes
          bitmapOffset.toNat bytes
        tuple.serialize
          (⟨diskId, cursor, base.pageSize⟩ : BufferPage).writeBytes
          (tupleOffsetWithinPage bitmap slot tuple).toNat
        return bitmap : HeapEffect Bitmap).run (serveHeap base) state := by
  simp only [placeTuple]
  rw [construct_of_stored stored]
  change
    ((⟨diskId, cursor, base.pageSize⟩ : BufferPage).readBytes 8
        self.bitmapBytes >>= _ :
      HeapEffect Bitmap).run (serveHeap base) state = _
  rw [Program.run_bind_of_done _ (run_readBytes header),
    deserialize_of_stored stored]
  rfl

/-- The bytes of the bitmap that are written back fit where they were read. -/
private theorem copied_inside {limit : Nat} {page : Memory} {slot : Nat}
    (stored : self.Stored storage) (header : 8 + self.bitmapBytes ≤ limit) :
    8 +
        (((self.bitmapOf storage page).withBit slot true).bytes.take
          self.bitmapBytes).length ≤
      limit := by
  rw [length_copied stored]
  exact header

theorem run_placeTuple
    (places : Places storage base.pageSize.toNat self tuple
      (state.page diskId cursor) slot) :
    (self.placeTuple storage tuple
        ⟨diskId, cursor, base.pageSize⟩).run (serveHeap base) state =
      (.done
        ((self.bitmapOf storage (state.page diskId cursor)).withBit slot
          true),
        state.setPage diskId cursor
          (self.withTuple storage tuple (state.page diskId cursor)
            slot)) := by
  have header := places.header
  have copied :=
    @copied_inside _ _ _ (state.page diskId cursor) slot places.stored
      header
  have offset :
      (tupleOffsetWithinPage
          ((self.bitmapOf storage (state.page diskId cursor)).withBit slot
            true) (UInt32.ofNat slot) tuple).toNat =
        self.slotOffset slot tuple := rfl
  rw [run_placeTuple_reads places.stored header,
    takeSlot_of_free places.covered places.lowest]
  change
    ((attempt .bitmap
        ((self.bitmapOf storage (state.page diskId cursor)).withBit slot
          true).serialize >>= _ : HeapEffect Bitmap)).run
      (serveHeap base) state = _
  rw [serialize_withBit places.stored]
  change
    ((⟨diskId, cursor, base.pageSize⟩ : BufferPage).writeBytes 8 _ >>= _ :
      HeapEffect Bitmap).run (serveHeap base) state = _
  rw [Program.run_bind_of_done _ (run_writeBytes copied)]
  simp only [Tuple.serialize]
  rw [offset, Program.run_bind_of_done _
    (run_serializeCells places.inside)]
  apply congrArg (Prod.mk _)
  simp only [HeapWorld.write, withTuple, withBitmap]
  rw [HeapWorld.page_setPage, if_pos rfl]
  unfold HeapWorld.setPage
  congr 1
  funext file other
  by_cases same : file = state.fileOf diskId ∧ other = cursor
  · rw [if_pos same]
    exact if_pos same
  · rw [if_neg same]
    exact (if_neg same).trans (if_neg same)

/-- Without a slot the placing fails, and at an assert only for a full page. -/
theorem run_placeTuple_failed
    (nowhere : ∀ slot,
      ¬ Places storage base.pageSize.toNat self tuple
        (state.page diskId cursor) slot) :
    ∃ failure after,
      (self.placeTuple storage tuple
          ⟨diskId, cursor, base.pageSize⟩).run (serveHeap base) state =
        (.crashed failure, after) ∧
      (failure.isAssert = true →
        (self.bitmapOf storage (state.page diskId cursor)).numFree =
          0) := by
  by_cases stored : self.Stored storage
  swap
  · refine ⟨.bitmap .outOfBounds, state, ?_, fun assert => nomatch assert⟩
    simp only [placeTuple]
    rw [construct_of_not_stored stored]
    rfl
  by_cases header : 8 + self.bitmapBytes ≤ base.pageSize.toNat
  swap
  · refine ⟨.outsidePage, state, ?_, fun assert => nomatch assert⟩
    have failed :
        ((⟨diskId, cursor, base.pageSize⟩ : BufferPage).readBytes 8
            self.bitmapBytes).run (serveHeap base) state =
          (.crashed .outsidePage, state) :=
      run_readBytes_outside header
    simp only [placeTuple]
    rw [construct_of_stored stored]
    exact Program.run_bind_of_crashed (serveHeap base) failed _
  rw [run_placeTuple_reads stored header]
  cases taken :
      takeSlot (self.bitmapOf storage (state.page diskId cursor)) with
  | error failure =>
      exact ⟨failure, state, rfl, takeSlot_eq_assert taken⟩
  | ok pair =>
      obtain ⟨covered, lowest, bitmapEq⟩ := takeSlot_eq_ok taken
      have noPlace := nowhere pair.1.toNat
      have outside :
          tuple.cells ≠ [] ∧
            ¬ self.slotOffset pair.1.toNat tuple +
              Tuple.extent tuple.cells ≤ base.pageSize.toNat := by
        by_contra inside
        refine noPlace ⟨stored, header, covered, lowest, fun some => ?_⟩
        by_contra past
        exact inside ⟨some, past⟩
      have copied :=
        @copied_inside _ _ _ (state.page diskId cursor) pair.1.toNat stored
          header
      have offset :
          (tupleOffsetWithinPage
              ((self.bitmapOf storage (state.page diskId cursor)).withBit
                pair.1.toNat true) pair.1 tuple).toNat =
            self.slotOffset pair.1.toNat tuple := by
        simp only [slotOffset]
        rw [UInt32.ofNat_toNat]
        rfl
      obtain ⟨last, failed⟩ :=
        @run_serializeCells_outside base
          (state.write diskId cursor 8
            (((self.bitmapOf storage (state.page diskId cursor)).withBit
              pair.1.toNat true).bytes.take self.bitmapBytes))
          diskId cursor tuple.cells _ outside.1 outside.2
      refine ⟨.outsidePage, last, ?_, fun assert => nomatch assert⟩
      change
        ((attempt .bitmap pair.2.serialize >>= _ : HeapEffect Bitmap)).run
          (serveHeap base) state = _
      rw [bitmapEq, serialize_withBit stored]
      change
        ((⟨diskId, cursor, base.pageSize⟩ : BufferPage).writeBytes 8 _ >>=
          _ : HeapEffect Bitmap).run (serveHeap base) state = _
      rw [Program.run_bind_of_done _ (run_writeBytes copied)]
      simp only [Tuple.serialize]
      rw [offset]
      exact Program.run_bind_of_crashed _ failed _

end Place

/-! ## The whole insert -/

/-- The page that `insert_tuple` uses, with the world in which it uses it. -/
inductive UsesPage (base : DiskManager) (heap : Heap)
    (before : HeapWorld) : DiskPageCursor → HeapWorld → Prop
  | listed :
      before.freeHead heap.diskId ≠ -1 →
      UsesPage base heap before (before.freeHead heap.diskId) before
  | extended {cursor : DiskPageCursor} :
      before.freeHead heap.diskId = -1 →
      (before.extend base heap.diskId).1 = .ok (.value cursor) →
      UsesPage base heap before cursor
        ((before.extend base heap.diskId).2.write heap.diskId rootPage 4
          (pointerBytes heap.diskId))

/-- The page with this bitmap is hung at the end of the full list if no bit is
free. -/
inductive MovesIfFull (fuel : Nat) (heap : Heap)
    (cursor : DiskPageCursor) (bitmap : Bitmap) (before : HeapWorld) :
    HeapWorld → Prop
  | stays :
      bitmap.numFree ≠ 0 → MovesIfFull fuel heap cursor bitmap before before
  | moves {last : DiskPageCursor} {offset : UInt32} :
      bitmap.numFree = 0 →
      before.fullEnd heap.diskId fuel = some (last, offset) →
      MovesIfFull fuel heap cursor bitmap before
        (before.write heap.diskId last offset.toNat (pointerBytes cursor))

structure Insertion (base : DiskManager) (storage : UInt32 → Nat)
    (fuel : Nat) (heap : Heap) (tuple : Tuple)
    (before after : HeapWorld) (cursor : DiskPageCursor) (slot : Nat)
    (middle : HeapWorld) : Prop where
  uses : UsesPage base heap before cursor middle
  notRoot : cursor ≠ rootPage
  places : Places storage base.pageSize.toNat heap tuple
    (middle.page heap.diskId cursor) slot
  moves : MovesIfFull fuel heap cursor
    ((heap.bitmapOf storage (middle.page heap.diskId cursor)).withBit slot
      true)
    (middle.setPage heap.diskId cursor
      (heap.withTuple storage tuple (middle.page heap.diskId cursor)
        slot))
    after

section Insert

variable {base : DiskManager} {before middle after : HeapWorld}
variable {heap : Heap} {storage : UInt32 → Nat} {fuel : Nat}
variable {tuple : Tuple} {cursor : DiskPageCursor} {slot : Nat}
variable {bitmap : Bitmap} (room : 12 ≤ base.pageSize.toNat)

include room

theorem run_pageToUse (uses : UsesPage base heap before cursor middle) :
    heap.pageToUse.run (serveHeap base) before =
      (.done cursor, middle) := by
  simp only [pageToUse]
  rw [Program.run_bind_of_done _ (run_findFreePage room)]
  cases uses with
  | listed head =>
      rw [if_neg head]
      change
        (Program.done (before.freeHead heap.diskId).toUInt32.toInt32 :
          HeapEffect DiskPageCursor).run _ _ = _
      rw [Int32.toInt32_toUInt32]
      rfl
  | extended head extended =>
      rw [if_pos head]
      exact run_extendFreeList room extended

/-- Without a page to use the insert fails in the disk manager. -/
theorem run_pageToUse_failed
    (none : ∀ cursor middle, ¬ UsesPage base heap before cursor middle) :
    ∃ reason after,
      heap.pageToUse.run (serveHeap base) before =
        (.crashed (.diskManager reason), after) := by
  have head : before.freeHead heap.diskId = -1 := by
    by_contra listed
    exact none _ _ (.listed listed)
  obtain ⟨reason, failed⟩ :=
    run_extendFreeList_failed fun cursor extended =>
      none _ _ (.extended head extended)
  refine ⟨reason, (before.extend base heap.diskId).2, ?_⟩
  simp only [pageToUse]
  rw [Program.run_bind_of_done _ (run_findFreePage room), if_pos head]
  exact failed

theorem run_moveIfFull (covered : bitmap.Covered)
    (moves : MovesIfFull fuel heap cursor bitmap before after) :
    (heap.moveIfFull fuel cursor bitmap).run (serveHeap base) before =
      (.done (), after) := by
  have count :
      UInt32.ofNat bitmap.numFree = 0 ↔ bitmap.numFree = 0 := by
    rw [← UInt32.toNat_inj, covered.toNat_count]
    rfl
  simp only [moveIfFull]
  rw [Bitmap.getNumFreeBits_eq covered]
  change
    (if UInt32.ofNat bitmap.numFree = 0 then _ else _ :
      HeapEffect Unit).run (serveHeap base) before = _
  cases moves with
  | stays free =>
      rw [if_neg (mt count.mp free)]
      rfl
  | moves full ends =>
      rw [if_pos (count.mpr full), run_appendToFullPages room, ends]

/-- A move that does not return is a walk that does not end. -/
theorem run_moveIfFull_failed (covered : bitmap.Covered)
    (none : ∀ after, ¬ MovesIfFull fuel heap cursor bitmap before after) :
    (heap.moveIfFull fuel cursor bitmap).run (serveHeap base) before =
      (.crashed .outOfFuel, before) := by
  have full : bitmap.numFree = 0 := by
    by_contra free
    exact none _ (.stays free)
  have ends : before.fullEnd heap.diskId fuel = Option.none := by
    cases ends : before.fullEnd heap.diskId fuel with
    | none => rfl
    | some last => exact absurd (.moves full ends) (none _)
  simp only [moveIfFull]
  rw [Bitmap.getNumFreeBits_eq covered, full]
  change (heap.appendToFullPages fuel cursor).run _ before = _
  rw [run_appendToFullPages room, ends]

theorem run_insertTuple
    (insertion : Insertion base storage fuel heap tuple before after cursor
      slot middle) :
    (heap.insertTuple storage fuel tuple).run (serveHeap base) before =
      (.done (), after) := by
  have moved :=
    run_moveIfFull room (insertion.places.covered.withBit true)
      insertion.moves
  simp only [insertTuple]
  rw [Program.run_bind_of_done _ (run_pageToUse room insertion.uses),
    if_neg insertion.notRoot, Program.run_bind_of_done _ run_pin,
    Program.run_bind_of_done _ (run_placeTuple insertion.places),
    Program.run_bind_of_done _ moved]
  rfl

/-- Every insert that returned is an insert into a slot, and an assert of an
insert fails for the root page or a full page. -/
theorem run_insertTuple_cases
    (heap : Heap) (storage : UInt32 → Nat) (fuel : Nat) (tuple : Tuple)
    (before : HeapWorld) :
    (∃ cursor slot middle after,
      Insertion base storage fuel heap tuple before after cursor slot
        middle) ∨
    ∃ failure after,
      (heap.insertTuple storage fuel tuple).run (serveHeap base) before =
        (.crashed failure, after) ∧
      (failure.isAssert = true →
        ∃ cursor middle,
          UsesPage base heap before cursor middle ∧
            (cursor = rootPage ∨
              (heap.bitmapOf storage
                (middle.page heap.diskId cursor)).numFree = 0)) := by
  by_cases found :
      ∃ cursor middle, UsesPage base heap before cursor middle
  swap
  · simp only [not_exists] at found
    obtain ⟨reason, last, failed⟩ := run_pageToUse_failed room found
    exact Or.inr ⟨_, last, Program.run_bind_of_crashed _ failed _,
      fun assert => nomatch assert⟩
  obtain ⟨cursor, middle, uses⟩ := found
  have started := run_pageToUse room uses
  by_cases root : cursor = rootPage
  · refine Or.inr ⟨.assertNotRoot, middle, ?_,
      fun _ => ⟨cursor, middle, uses, Or.inl root⟩⟩
    simp only [insertTuple]
    rw [Program.run_bind_of_done _ started, if_pos root]
    rfl
  by_cases placed :
      ∃ slot,
        Places storage base.pageSize.toNat heap tuple
          (middle.page heap.diskId cursor) slot
  swap
  · rw [not_exists] at placed
    obtain ⟨failure, last, failed, full⟩ := run_placeTuple_failed placed
    refine Or.inr ⟨failure, last, ?_,
      fun assert => ⟨cursor, middle, uses, Or.inr (full assert)⟩⟩
    simp only [insertTuple]
    rw [Program.run_bind_of_done _ started, if_neg root,
      Program.run_bind_of_done _ run_pin]
    exact Program.run_bind_of_crashed _ failed _
  obtain ⟨slot, places⟩ := placed
  by_cases moved :
      ∃ after,
        MovesIfFull fuel heap cursor
          ((heap.bitmapOf storage
            (middle.page heap.diskId cursor)).withBit slot true)
          (middle.setPage heap.diskId cursor
            (heap.withTuple storage tuple
              (middle.page heap.diskId cursor) slot))
          after
  · obtain ⟨after, moves⟩ := moved
    exact Or.inl ⟨cursor, slot, middle, after, uses, root, places, moves⟩
  · rw [not_exists] at moved
    have failed :=
      run_moveIfFull_failed room (places.covered.withBit true) moved
    refine Or.inr ⟨.outOfFuel,
      middle.setPage heap.diskId cursor
        (heap.withTuple storage tuple (middle.page heap.diskId cursor)
          slot),
      ?_, fun assert => nomatch assert⟩
    simp only [insertTuple]
    rw [Program.run_bind_of_done _ started, if_neg root,
      Program.run_bind_of_done _ run_pin,
      Program.run_bind_of_done _ (run_placeTuple places)]
    exact Program.run_bind_of_crashed _ failed _

theorem insertion_of_run
    (finished :
      (heap.insertTuple storage fuel tuple).run (serveHeap base) before =
        (.done (), after)) :
    ∃ cursor slot middle,
      Insertion base storage fuel heap tuple before after cursor slot
        middle := by
  rcases run_insertTuple_cases room heap storage fuel tuple before with
    ⟨cursor, slot, middle, last, insertion⟩ | ⟨failure, last, failed, _⟩
  · have same := (run_insertTuple room insertion).symm.trans finished
    cases same
    exact ⟨cursor, slot, middle, insertion⟩
  · rw [failed] at finished
    cases finished

end Insert

end Heap

end Lewsql
