import Lewsql.Organizers.FullList
import Lewsql.Organizers.Slots

/-!
# Tuples stay where they were written

The slots of a page are as far apart as a tuple has cells.  A tuple whose cells
end where the next slot starts is not overwritten by later inserts, as long as
the bit of its slot is among the copied bits of the bitmap.
-/

namespace Lewsql

open Interaction Bytes Posix FileSystem

namespace Heap

/-- A tuple that was written is still in its slot, with the list pointers of its
page and the bits of the slots up to its own as they were then. -/
structure TupleKept (storage : UInt32 → Nat) (heap : Heap)
    (tuple : Tuple) (cursor : DiskPageCursor) (slot : Nat)
    (written world : HeapWorld) : Prop where
  bytes :
    (world.page heap.diskId cursor).read (heap.slotOffset slot tuple)
        (Tuple.extent tuple.cells) =
      Tuple.image tuple.cells
  pointers :
    (world.page heap.diskId cursor).read 0 8 =
      (written.page heap.diskId cursor).read 0 8
  bits : ∀ index ≤ slot,
    (heap.bitmapOf storage (world.page heap.diskId cursor)).bit index =
      (heap.bitmapOf storage (written.page heap.diskId cursor)).bit index

/-- An insert that does no harm to the tuples of its page: the bit of its slot is
copied to the page, and its cells end before the next slot unless it is alone in
the page. -/
structure KeepsTuples (base : DiskManager) (storage : UInt32 → Nat)
    (heap : Heap) (world : HeapWorld) (tuple : Tuple) : Prop where
  copied : tuple.cells ≠ [] → ∀ slot,
    (heap.bitmapOf storage
        (world.page heap.diskId
          (world.pageUsed base heap.diskId))).lowestFree = some slot →
      slot / 8 < heap.bitmapBytes
  narrow : ∀ slot,
    (heap.bitmapOf storage
        (world.page heap.diskId
          (world.pageUsed base heap.diskId))).lowestFree = some slot →
      slot = 0 ∨
        ∀ index (inside : index < tuple.cells.length),
          index + tuple.cells[index].width ≤ tuple.cells.length

def keepsTuples (base : DiskManager) (storage : UInt32 → Nat)
    (sample : Tuple) (state : HeapState) : HeapEvent → Prop
  | .insert tuple =>
      Tuple.SameTypes sample tuple ∧
        KeepsTuples base storage state.heap state.world tuple
  | .transfer _ => True

/-- In every data page the header is zero, and the slots that are taken lie
inside the page one behind another. -/
structure RowsInPlace (base : DiskManager) (storage : UInt32 → Nat)
    (sample : Tuple) (heap : Heap) (world : HeapWorld) : Prop where
  header : ∀ cursor, cursor ≠ rootPage → ∀ index < 8,
    world.page heap.diskId cursor index = 0
  rows : heap.Stored storage → sample.cells ≠ [] →
    ∀ cursor, cursor ≠ rootPage → ∀ index,
      (heap.bitmapOf storage (world.page heap.diskId cursor)).bit index =
          true →
        8 + heap.bitmapBytes + index * sample.cells.length +
            Tuple.extent sample.cells ≤
          base.pageSize.toNat

section Rows

variable {base : DiskManager} {storage : UInt32 → Nat} {fuel : Nat}
variable {before middle after world : HeapWorld} {heap : Heap}
variable {sample tuple : Tuple} {cursor other : DiskPageCursor}
variable {slot index : Nat} {events : List HeapEvent}

theorem length_of_sameTypes (same : Tuple.SameTypes sample tuple) :
    tuple.cells.length = sample.cells.length := by
  have lengths := congrArg List.length same
  rw [List.length_map, List.length_map] at lengths
  exact lengths.symm

/-- The slot of a tuple, with no wrap. -/
theorem RowsInPlace.offset_eq
    (rows : RowsInPlace base storage sample heap before)
    (same : Tuple.SameTypes sample tuple)
    (insertion : Insertion base storage fuel heap tuple before after cursor
      slot middle) :
    heap.slotOffset slot tuple =
        8 + heap.bitmapBytes + slot * sample.cells.length ∧
      (sample.cells ≠ [] →
        8 + heap.bitmapBytes + slot * sample.cells.length +
            Tuple.extent sample.cells ≤
          base.pageSize.toNat) := by
  have length := length_of_sameTypes same
  have extent := Tuple.extent_of_types same
  have short := Tuple.length_le_extent sample.cells
  have header := insertion.places.header
  have bound := base.pageSize.toNat_lt
  have start :
      8 + heap.bitmapBytes + slot * sample.cells.length < 2 ^ 32 := by
    by_cases cells : sample.cells = []
    · rw [cells, List.length_nil, Nat.mul_zero]
      omega
    · cases slot with
      | zero => omega
      | succ lower =>
          obtain ⟨_, _, taken⟩ :=
            Bitmap.lowestFree_eq_some_iff.mp insertion.lowestFree
          have earlier :=
            rows.rows insertion.places.stored cells cursor
              insertion.notRoot lower (taken lower (Nat.lt_succ_self lower))
          rw [Nat.succ_mul]
          omega
  rw [← length] at start ⊢
  have offset := slotOffset_eq start
  refine ⟨offset, ?_⟩
  intro cells
  have some : tuple.cells ≠ [] := by
    intro none
    rw [none, List.length_nil] at length
    exact cells (List.length_eq_zero_iff.mp length.symm)
  have inside := insertion.places.inside some
  rw [offset, ← extent] at inside
  exact inside

/-- The tuple is written behind the bitmap. -/
theorem RowsInPlace.behind
    (rows : RowsInPlace base storage sample heap before)
    (same : Tuple.SameTypes sample tuple)
    (insertion : Insertion base storage fuel heap tuple before after cursor
      slot middle) :
    8 + heap.bitmapBytes ≤ heap.slotOffset slot tuple := by
  rw [(rows.offset_eq same insertion).1]
  omega

/-- A write behind the bitmap keeps the header of a page. -/
theorem withTuple_header {page : Memory}
    (behind : 8 + heap.bitmapBytes ≤ heap.slotOffset slot tuple)
    (inside : index < 8) :
    heap.withTuple storage tuple page slot index = page index := by
  simp only [withTuple, withBitmap]
  rw [Memory.write_outside (Or.inl (by omega)),
    Memory.write_outside (Or.inl inside)]

/-- With zero headers in the data pages, the walk along the full list never ends
in a data page. -/
theorem lastFull_of_zeros {fuel : Nat}
    (listed : world.freeHead heap.diskId ≠ -1)
    (header : ∀ cursor, cursor ≠ rootPage → ∀ index < 8,
      world.page heap.diskId cursor index = 0)
    (start : DiskPageCursor) :
    world.lastFull heap.diskId fuel start = none := by
  cases ends : world.lastFull heap.diskId fuel start with
  | none => rfl
  | some last =>
      have marker := HeapWorld.fullNext_of_lastFull ends
      by_cases root : last = rootPage
      · rw [root] at marker
        exact absurd marker listed
      · have zero :
            (world.page heap.diskId last).read 4 4 =
              Memory.read (fun _ => 0) 4 4 := by
          apply Memory.read_congr
          intro address inside
          exact header last root (4 + address) (by omega)
        have pointer : world.fullNext heap.diskId last = 0 := by
          simp only [HeapWorld.fullNext, pointerAt]
          rw [zero]
          exact @pointerAt_zero 4
        rw [pointer] at marker
        exact absurd marker (by decide)

/-- An insert writes to the page it uses and to no other data page. -/
theorem RowsInPlace.page_after
    (rows : RowsInPlace base storage sample heap before)
    (same : Tuple.SameTypes sample tuple) (positive : heap.diskId ≠ -1)
    (insertion : Insertion base storage fuel heap tuple before after cursor
      slot middle) (data : other ≠ rootPage) :
    after.page heap.diskId other =
      if other = cursor then
        heap.withTuple storage tuple (before.page heap.diskId cursor) slot
      else before.page heap.diskId other := by
  have behind := rows.behind same insertion
  have used := insertion.uses.page_of_ne insertion.notRoot
  have placed (page : DiskPageCursor) (notRoot : page ≠ rootPage) :
      (middle.setPage heap.diskId cursor
          (heap.withTuple storage tuple (middle.page heap.diskId cursor)
            slot)).page heap.diskId page =
        if page = cursor then
          heap.withTuple storage tuple (before.page heap.diskId cursor)
            slot
        else before.page heap.diskId page := by
    rw [HeapWorld.page_setPage, used, insertion.uses.page_of_ne notRoot]
  have moves := insertion.moves
  cases moves with
  | stays free => exact placed other data
  | @moves last offset full ends =>
      have listed :
          (middle.setPage heap.diskId cursor
            (heap.withTuple storage tuple
              (middle.page heap.diskId cursor) slot)).freeHead
            heap.diskId ≠ -1 := by
        simp only [HeapWorld.freeHead]
        rw [HeapWorld.page_setPage, if_neg (Ne.symm insertion.notRoot)]
        have head := insertion.uses.freeHead
        unfold HeapWorld.freeHead at head
        rw [head]
        split
        · exact positive
        · assumption
      have header (page : DiskPageCursor) (notRoot : page ≠ rootPage)
          (index : Nat) (inside : index < 8) :
          (middle.setPage heap.diskId cursor
            (heap.withTuple storage tuple
              (middle.page heap.diskId cursor) slot)).page heap.diskId
            page index = 0 := by
        rw [placed page notRoot]
        split
        · rw [withTuple_header behind inside]
          exact rows.header cursor insertion.notRoot index inside
        · exact rows.header page notRoot index inside
      have root : last = rootPage := by
        simp only [HeapWorld.fullEnd] at ends
        rw [lastFull_of_zeros listed header] at ends
        split at ends
        · cases ends
          rfl
        · cases ends
      rw [HeapWorld.page_write, root, if_neg data]
      exact placed other data

theorem rowsInPlace_of_zeros
    (zeros : ∀ cursor, cursor ≠ rootPage →
      world.page heap.diskId cursor = fun _ => 0) :
    RowsInPlace base storage sample heap world := by
  constructor
  · intro cursor data index _
    rw [zeros cursor data]
  · intro stored _ cursor data index taken
    rw [zeros cursor data, bit_zeros] at taken
    cases taken

theorem RowsInPlace.step
    (rows : RowsInPlace base storage sample heap before)
    (same : Tuple.SameTypes sample tuple) (positive : heap.diskId ≠ -1)
    (insertion : Insertion base storage fuel heap tuple before after cursor
      slot middle) :
    RowsInPlace base storage sample heap after := by
  have behind := rows.behind same insertion
  have stored := insertion.places.stored
  constructor
  · intro page data index inside
    rw [rows.page_after same positive insertion data]
    split
    · rw [withTuple_header behind inside]
      exact rows.header cursor insertion.notRoot index inside
    · exact rows.header page data index inside
  · intro _ cells page data index taken
    rw [rows.page_after same positive insertion data] at taken
    by_cases used : page = cursor
    · rw [if_pos used, bit_withTuple stored behind] at taken
      have covered := insertion.covered
      obtain ⟨below, _, _⟩ := Bitmap.lowestFree_eq_some_iff.mp
        insertion.lowestFree
      split at taken
      · rw [Bitmap.bit_withBit (covered.index_lt below)] at taken
        by_cases own : index = slot
        · rw [own]
          exact (rows.offset_eq same insertion).2 cells
        · rw [if_neg own] at taken
          exact rows.rows stored cells cursor insertion.notRoot index taken
      · cases taken
    · rw [if_neg used] at taken
      exact rows.rows stored cells page data index taken

end Rows

/-! ## A later insert -/

/-- A tuple that was written, in front of a later insert. -/
structure Placed (storage : UInt32 → Nat) (sample : Tuple) (heap : Heap)
    (tuple : Tuple) (cursor : DiskPageCursor) (slot : Nat)
    (written : HeapWorld) : Prop where
  types : Tuple.SameTypes sample tuple
  data : cursor ≠ rootPage
  stored : heap.Stored storage
  offset :
    heap.slotOffset slot tuple =
      8 + heap.bitmapBytes + slot * sample.cells.length
  taken : ∀ index ≤ slot, index / 8 < heap.bitmapBytes →
    (heap.bitmapOf storage (written.page heap.diskId cursor)).bit index =
      true

section Later

variable {base : DiskManager} {storage : UInt32 → Nat} {fuel : Nat}
variable {before middle after written : HeapWorld} {heap : Heap}
variable {sample tuple later : Tuple} {cursor used : DiskPageCursor}
variable {slot next : Nat}

/-- A tuple just written is in its slot. -/
theorem placed_of_insertion
    (rows : RowsInPlace base storage sample heap before)
    (same : Tuple.SameTypes sample tuple) (positive : heap.diskId ≠ -1)
    (insertion : Insertion base storage fuel heap tuple before after cursor
      slot middle) :
    Placed storage sample heap tuple cursor slot after ∧
      TupleKept storage heap tuple cursor slot after after := by
  have behind := rows.behind same insertion
  have stored := insertion.places.stored
  have page := rows.page_after same positive insertion insertion.notRoot
  rw [if_pos rfl] at page
  obtain ⟨below, _, lower⟩ :=
    Bitmap.lowestFree_eq_some_iff.mp insertion.lowestFree
  constructor
  · refine ⟨same, insertion.notRoot, stored,
      (rows.offset_eq same insertion).1, ?_⟩
    intro index upTo copied
    rw [page, bit_withTuple stored behind, if_pos copied,
      Bitmap.bit_withBit (insertion.covered.index_lt below)]
    by_cases own : index = slot
    · rw [if_pos own]
    · rw [if_neg own]
      exact lower index (by omega)
  · refine ⟨?_, rfl, fun _ _ => rfl⟩
    rw [page]
    simp only [withTuple]
    exact Memory.read_write_of_length (Tuple.length_image _)

/-- The next tuple on the page goes to a later slot. -/
theorem slot_lt_of_placed
    (placed : Placed storage sample heap tuple cursor slot written)
    (kept : TupleKept storage heap tuple cursor slot written before)
    (insertion : Insertion base storage fuel heap later before after cursor
      next middle) (copied : next / 8 < heap.bitmapBytes) :
    slot < next := by
  by_contra upTo
  have taken := placed.taken next (by omega) copied
  obtain ⟨_, free, _⟩ :=
    Bitmap.lowestFree_eq_some_iff.mp insertion.lowestFree
  rw [← kept.bits next (by omega), free] at taken
  cases taken

/-- The slots of tuples on one page are apart. -/
theorem offset_le_of_placed
    (placed : Placed storage sample heap tuple cursor slot written)
    (kept : TupleKept storage heap tuple cursor slot written before)
    (rows : RowsInPlace base storage sample heap before)
    (same : Tuple.SameTypes sample later)
    (keeps : KeepsTuples base storage heap before later)
    (insertion : Insertion base storage fuel heap later before after cursor
      next middle) (cells : later.cells ≠ []) :
    heap.slotOffset slot tuple + Tuple.extent tuple.cells ≤
      heap.slotOffset next later := by
  have copied := keeps.copied cells next
  have narrow := keeps.narrow next
  rw [← insertion.uses.cursor_eq] at copied narrow
  have after := slot_lt_of_placed placed kept insertion
    (copied insertion.lowestFree)
  have short : Tuple.extent later.cells ≤ later.cells.length := by
    rcases narrow insertion.lowestFree with first | every
    · omega
    · exact Tuple.extent_le_iff.mpr every
  have extent :
      Tuple.extent tuple.cells = Tuple.extent later.cells :=
    (Tuple.extent_of_types placed.types).symm.trans
      (Tuple.extent_of_types same)
  have length := length_of_sameTypes same
  have apart :
      (slot + 1) * sample.cells.length ≤ next * sample.cells.length :=
    Nat.mul_le_mul_right _ after
  rw [Nat.succ_mul] at apart
  rw [placed.offset, (rows.offset_eq same insertion).1]
  omega

/-- A later insert keeps the tuple. -/
theorem TupleKept.step
    (kept : TupleKept storage heap tuple cursor slot written before)
    (placed : Placed storage sample heap tuple cursor slot written)
    (rows : RowsInPlace base storage sample heap before)
    (same : Tuple.SameTypes sample later)
    (keeps : KeepsTuples base storage heap before later)
    (positive : heap.diskId ≠ -1)
    (insertion : Insertion base storage fuel heap later before after used
      next middle) :
    TupleKept storage heap tuple cursor slot written after := by
  have page := rows.page_after same positive insertion placed.data
  by_cases elsewhere : cursor ≠ used
  · rw [if_neg elsewhere] at page
    constructor
    · rw [page]
      exact kept.bytes
    · rw [page]
      exact kept.pointers
    · intro index upTo
      rw [page]
      exact kept.bits index upTo
  · have here : cursor = used := not_not.mp elsewhere
    subst here
    rw [if_pos rfl] at page
    have behind := rows.behind same insertion
    have copy := @length_copied storage heap (before.page heap.diskId cursor)
      next placed.stored
    obtain ⟨below, _, _⟩ :=
      Bitmap.lowestFree_eq_some_iff.mp insertion.lowestFree
    constructor
    · rw [page, ← kept.bytes]
      by_cases none : later.cells = []
      · have empty : Tuple.extent tuple.cells = 0 := by
          rw [← Tuple.extent_of_types placed.types,
            Tuple.extent_of_types same, none]
          rfl
        rw [empty]
        rfl
      · have apart :=
          offset_le_of_placed placed kept rows same keeps insertion none
        simp only [withTuple, withBitmap]
        rw [Memory.read_write_apart (Or.inl apart),
          Memory.read_write_apart (Or.inr ?_)]
        rw [copy, placed.offset]
        omega
    · rw [page, ← kept.pointers]
      simp only [withTuple, withBitmap]
      rw [Memory.read_write_apart (Or.inl (by omega)),
        Memory.read_write_apart (Or.inl (by omega))]
    · intro index upTo
      rw [page, ← kept.bits index upTo, bit_withTuple placed.stored behind,
        Bitmap.bit_withBit (insertion.covered.index_lt below)]
      by_cases copied : index / 8 < heap.bitmapBytes
      · have other : index ≠ next := by
          intro own
          rw [own] at copied upTo
          have after := slot_lt_of_placed placed kept insertion copied
          omega
        rw [if_pos copied, if_neg other]
      · rw [if_neg copied, bit_bitmapOf, if_neg copied]

end Later

/-! ## Runs -/

def sampleMachine (base : DiskManager) (storage : UInt32 → Nat)
    (sample : Tuple) : Machine HeapState HeapEvent :=
  (machine base storage).whenever (keepsTuples base storage sample)

section Runs

variable {base : DiskManager} {storage : UInt32 → Nat}
variable {sample tuple : Tuple} {events later : List HeapEvent}
variable {state before written after : HeapState}

theorem rowsInPlace_of_run
    (run : (sampleMachine base storage sample).Run events state) :
    RowsInPlace base storage sample state.heap state.world := by
  refine Machine.Run.invariant
    (fun _ state =>
      RowsInPlace base storage sample state.heap state.world) ?_ ?_ run
  · intro start started
    exact rowsInPlace_of_zeros
      ((@standing_start base storage start started).unused
        fun ⟨_, member⟩ => nomatch member).zeros
  · intro earlier before event after earlierRun rows stepped
    obtain ⟨keeps, sameHeap, step⟩ := stepped
    have standing := standing_of_run earlierRun.of_whenever
    rw [sameHeap]
    cases event with
    | insert tuple =>
        obtain ⟨fuel, finished⟩ := step
        obtain ⟨cursor, slot, middle, insertion⟩ :=
          insertion_of_run standing.room finished
        exact rows.step keeps.1 standing.ne_end insertion
    | transfer operation =>
        constructor
        · intro cursor data index inside
          rw [page_of_transfer step]
          exact rows.header cursor data index inside
        · intro stored cells cursor data index taken
          rw [page_of_transfer step] at taken
          exact rows.rows stored cells cursor data index taken

/-- A tuple stays placed and kept along every path. -/
theorem tupleKept_of_path {cursor : DiskPageCursor} {slot : Nat}
    (run : (sampleMachine base storage sample).Run events written)
    (placed : Placed storage sample written.heap tuple cursor slot
      written.world)
    (kept : TupleKept storage written.heap tuple cursor slot written.world
      written.world)
    (path : (sampleMachine base storage sample).Path written later after) :
    after.heap = written.heap ∧
      TupleKept storage written.heap tuple cursor slot written.world
        after.world := by
  induction path with
  | refl => exact ⟨rfl, kept⟩
  | @step earlier middle last event path stepped inductionHypothesis =>
      obtain ⟨sameHeap, keptThere⟩ := inductionHypothesis
      have running := run.append path
      have standing := standing_of_run running.of_whenever
      have rows := rowsInPlace_of_run running
      have positive := standing.ne_end
      obtain ⟨keeps, sameAgain, step⟩ := stepped
      refine ⟨sameAgain.trans sameHeap, ?_⟩
      rw [sameHeap] at rows positive step
      cases event with
      | insert other =>
          obtain ⟨sameTypes, keeps⟩ := keeps
          rw [sameHeap] at keeps
          obtain ⟨fuel, finished⟩ := step
          obtain ⟨used, next, between, insertion⟩ :=
            insertion_of_run standing.room finished
          exact keptThere.step placed rows sameTypes keeps positive
            insertion
      | transfer operation =>
          constructor
          · rw [page_of_transfer step]
            exact keptThere.bytes
          · rw [page_of_transfer step]
            exact keptThere.pointers
          · intro index upTo
            rw [page_of_transfer step]
            exact keptThere.bits index upTo

end Runs

/-- In every run of inserts that keep the tuples, a tuple that was inserted stays
in its slot behind the bitmap with the header and the bits before it, and every
later tuple on its page starts behind it. -/
theorem tuple_kept_of_keeps {base : DiskManager} {storage : UInt32 → Nat}
    {sample tuple : Tuple} {events later : List HeapEvent}
    {before written after : HeapState}
    (run : (sampleMachine base storage sample).Run events before)
    (inserted : (sampleMachine base storage sample).step before
      (.insert tuple) written)
    (path : (sampleMachine base storage sample).Path written later
      after) :
    ∃ slot,
      (before.heap.bitmapOf storage
          (before.world.page before.heap.diskId
            (before.world.pageUsed base before.heap.diskId))).lowestFree =
          some slot ∧
        8 + before.heap.bitmapBytes ≤ before.heap.slotOffset slot tuple ∧
        TupleKept storage before.heap tuple
          (before.world.pageUsed base before.heap.diskId) slot
          written.world after.world ∧
        ∀ other next otherSlot,
          other.cells ≠ [] →
          (sampleMachine base storage sample).step after (.insert other)
            next →
          after.world.pageUsed base before.heap.diskId =
            before.world.pageUsed base before.heap.diskId →
          (before.heap.bitmapOf storage
              (after.world.page before.heap.diskId
                (after.world.pageUsed base
                  before.heap.diskId))).lowestFree = some otherSlot →
            before.heap.slotOffset slot tuple +
                Tuple.extent tuple.cells ≤
              before.heap.slotOffset otherSlot other := by
  have standing := standing_of_run run.of_whenever
  have rows := rowsInPlace_of_run run
  obtain ⟨keeps, sameHeap, fuel, finished⟩ := id inserted
  obtain ⟨cursor, slot, middle, insertion⟩ :=
    insertion_of_run standing.room finished
  obtain ⟨placed, kept⟩ :=
    placed_of_insertion rows keeps.1 standing.ne_end insertion
  rw [← sameHeap] at placed kept
  obtain ⟨heapAfter, keptAfter⟩ :=
    tupleKept_of_path (run.step inserted) placed kept path
  rw [sameHeap] at placed keptAfter heapAfter
  rw [← insertion.uses.cursor_eq]
  refine ⟨slot, insertion.lowestFree, rows.behind keeps.1 insertion,
    keptAfter, ?_⟩
  intro other next otherSlot cells stepped samePage lowest
  obtain ⟨⟨types, keepsOther⟩, _, again, finishedOther⟩ := stepped
  have rowsAfter := rowsInPlace_of_run ((run.step inserted).append path)
  rw [heapAfter] at rowsAfter keepsOther finishedOther
  obtain ⟨used, found, between, insertionOther⟩ :=
    insertion_of_run standing.room finishedOther
  have sameCursor : used = cursor :=
    insertionOther.uses.cursor_eq.trans samePage
  have sameSlot : found = otherSlot := by
    rw [← insertionOther.uses.cursor_eq, insertionOther.lowestFree]
      at lowest
    exact Option.some.inj lowest
  subst sameCursor sameSlot
  exact offset_le_of_placed placed keptAfter rowsAfter types keepsOther
    insertionOther cells

section Small

variable {tuple first second : Tuple} {slot : Nat}

/-- The slots of a page of 20 bytes for tuples of one cell. -/
theorem slotOffset_oneCell (one : tuple.cells.length = 1)
    (small : slot < 69) :
    (secondHeap 20).slotOffset slot tuple = 17 + slot := by
  have bytes : (secondHeap 20).bitmapBytes = 9 := bitmapBytes_pageBase 1
  rw [slotOffset_eq (by rw [one, bytes]; omega), one, bytes]
  omega

/-- Two tuples of one cell, one after the other in the first page. -/
private theorem exists_two_inserts (one : first.cells.length = 1)
    (short : Tuple.extent first.cells ≤ 2)
    (oneAgain : second.cells.length = 1)
    (shortAgain : Tuple.extent second.cells ≤ 2) :
    ∃ written after between,
      Insertion pageBase UInt32.toNat 0 (secondHeap 20) first
          (secondWorld pageBase) written 1 0 between ∧
        Insertion pageBase UInt32.toNat 0 (secondHeap 20) second written
          after 1 1 written := by
  have fits : 12 ≤ pageBase.pageSize.toNat := by decide
  have unused := @unused_second pageBase 20 fits
  have zeros : (secondWorld pageBase).page 1 1 = fun _ => 0 :=
    unused.zeros 1 (by decide)
  have bytes : (secondHeap 20).bitmapBytes = 9 := bitmapBytes_pageBase 1
  have behind :
      8 + (secondHeap 20).bitmapBytes ≤
        (secondHeap 20).slotOffset 0 first := by
    rw [slotOffset_oneCell one (by omega), bytes]
  have taken : TakenBelow 0 ((secondWorld pageBase).page 1 1) := by
    rw [zeros]
    exact takenBelow_zeros
  obtain ⟨written, between, insertion⟩ :=
    @exists_insertion_second pageBase UInt32.toNat 20 first 0 fits
      (places_pageBase 1 (by omega))
  have run :
      (machine pageBase UInt32.toNat).Run [.insert first]
        ⟨secondHeap 20, written⟩ :=
    .step (.start (start_second fits)) (step_of_insertion fits insertion)
  obtain ⟨empty, takenOne⟩ :=
    taken.step (by omega) behind unused.fullHead insertion
  have places :
      Places UInt32.toNat pageBase.pageSize.toNat (secondHeap 20) second
        (written.page 1 1) 1 := by
    apply takenOne.places (by omega)
    intro _
    rw [slotOffset_oneCell oneAgain (by omega)]
    omega
  obtain ⟨after, again, _⟩ :=
    exists_next run (inserts_append_insert [] first) places empty
  exact ⟨written, after, between, insertion, again⟩

/-- A narrow cell keeps the tuples of a page of 20 bytes. -/
private theorem keepsTuples_oneCell (world : HeapWorld) :
    KeepsTuples pageBase UInt32.toNat (secondHeap 20) world oneCell := by
  have bytes : (secondHeap 20).bitmapBytes = 9 := bitmapBytes_pageBase 1
  have size : (secondHeap 20).bitmapSize.toNat = 69 :=
    congrArg UInt32.toNat (bitmapSize_pageBase 1)
  constructor
  · intro _ slot lowest
    have below := (Bitmap.lowestFree_eq_some_iff.mp lowest).1
    change slot < (secondHeap 20).bitmapSize.toNat at below
    omega
  · intro slot _
    exact Or.inr (by decide)

end Small

/-- The first of two tuples of a narrow cell is kept. -/
theorem tuple_kept_of_keeps_oneCell :
    ∃ before written after slot,
      (machine pageBase UInt32.toNat).start before ∧
        (machine pageBase UInt32.toNat).Path before
          [.insert oneCell, .insert oneCell] after ∧
        TupleKept UInt32.toNat before.heap oneCell
          (before.world.pageUsed pageBase before.heap.diskId) slot
          written after.world := by
  have fits : 12 ≤ pageBase.pageSize.toNat := by decide
  obtain ⟨written, after, between, insertion, again⟩ :=
    @exists_two_inserts oneCell oneCell rfl (by decide) rfl (by decide)
  have started := @start_second pageBase UInt32.toNat 20 fits
  have first :
      (sampleMachine pageBase UInt32.toNat oneCell).step
        ⟨secondHeap 20, secondWorld pageBase⟩ (.insert oneCell)
        ⟨secondHeap 20, written⟩ :=
    ⟨⟨rfl, keepsTuples_oneCell _⟩, step_of_insertion fits insertion⟩
  have second :
      (sampleMachine pageBase UInt32.toNat oneCell).step
        ⟨secondHeap 20, written⟩ (.insert oneCell)
        ⟨secondHeap 20, after⟩ :=
    ⟨⟨rfl, keepsTuples_oneCell _⟩, step_of_insertion fits again⟩
  obtain ⟨slot, _, _, kept, _⟩ :=
    tuple_kept_of_keeps (.start started) first (.step .refl second)
  exact ⟨_, written, ⟨secondHeap 20, after⟩, slot, started,
    .step (.step .refl first.2) second.2, kept⟩

def wideOnes : Tuple :=
  ⟨[.uint16TType 65535]⟩

def wideZeros : Tuple :=
  ⟨[.uint16TType 0]⟩

/-- The second tuple of a wide cell overwrites a byte of the first. -/
theorem wide_tuple_overwritten :
    ∃ before written after,
      (machine pageBase UInt32.toNat).start before ∧
        (machine pageBase UInt32.toNat).step before (.insert wideOnes)
          written ∧
        (machine pageBase UInt32.toNat).step written (.insert wideZeros)
          after ∧
        Tuple.SameTypes wideOnes wideZeros ∧
        ∀ slot,
          (before.heap.bitmapOf UInt32.toNat
              (before.world.page before.heap.diskId
                (before.world.pageUsed pageBase
                  before.heap.diskId))).lowestFree = some slot →
            ¬ TupleKept UInt32.toNat before.heap wideOnes
              (before.world.pageUsed pageBase before.heap.diskId) slot
              written.world after.world := by
  have fits : 12 ≤ pageBase.pageSize.toNat := by decide
  obtain ⟨written, after, between, insertion, again⟩ :=
    @exists_two_inserts wideOnes wideZeros rfl (by decide) rfl (by decide)
  have started := @start_second pageBase UInt32.toNat 20 fits
  have positive : (secondHeap 20).diskId ≠ -1 := by decide
  have rows :
      RowsInPlace pageBase UInt32.toNat wideOnes (secondHeap 20)
        (secondWorld pageBase) :=
    rowsInPlace_of_zeros (unused_second fits).zeros
  have page :=
    (rows.step rfl positive insertion).page_after
      (show Tuple.SameTypes wideOnes wideZeros from rfl) positive again
      again.notRoot
  rw [if_pos rfl] at page
  refine ⟨⟨secondHeap 20, secondWorld pageBase⟩, ⟨secondHeap 20, written⟩,
    ⟨secondHeap 20, after⟩, started, step_of_insertion fits insertion,
    step_of_insertion fits again, rfl, ?_⟩
  intro slot lowest kept
  rw [← insertion.uses.cursor_eq] at lowest kept
  have zero : slot = 0 :=
    Option.some.inj (lowest.symm.trans insertion.lowestFree)
  subst zero
  have bytes := kept.bytes
  rw [page, slotOffset_oneCell rfl (by omega)] at bytes
  have changed := (Memory.read_eq_iff.mp bytes).2 1 (by decide)
  simp only [withTuple] at changed
  rw [slotOffset_oneCell rfl (by omega),
    show 17 + 0 + 1 = 17 + 1 + 0 from rfl,
    Memory.write_inside (by decide)] at changed
  exact absurd changed (by decide)

end Heap

end Lewsql
