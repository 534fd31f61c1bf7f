import Lewsql.Organizers.StoredTuples

/-!
# Where the rows of a heap are

Rows with the same column types are inserted into a heap that was constructed with
the page size of its disks.  The first row goes to the page that was appended for
it, and every later one to the page whose cursor is the id of the disk, each to
the next slot.  A slot is as wide as the row has cells, so of a row that is
followed by another one the low bytes of its cells are left.
-/

namespace Lewsql

open Interaction Bytes Posix FileSystem

/-- The byte of a cell that `serialize` writes first. -/
def Cell.lowByte (self : Cell) : UInt8 :=
  self.bytes.headD 0

namespace Heap

def rowsOf : List HeapEvent → List Tuple :=
  List.filterMap fun event =>
    match event with
    | .insert tuple => some tuple
    | .transfer _ => none

/-- The page and the slot of a row, counted from zero, when the first one went to
the page `first`. -/
def placeOf (heap : Heap) (first : DiskPageCursor) :
    Nat → DiskPageCursor × Nat
  | 0 => (first, 0)
  | index + 1 =>
      (heap.diskId, if first = heap.diskId then index + 1 else index)

def countOn (heap : Heap) (first : DiskPageCursor) (count : Nat)
    (cursor : DiskPageCursor) : Nat :=
  (List.range count).countP fun index =>
    (heap.placeOf first index).1 = cursor

/-- Where a slot for rows of so many cells starts. -/
def slotStart (heap : Heap) (width slot : Nat) : Nat :=
  8 + heap.bitmapBytes + slot * width

/-- The rows are in their places, and nothing else takes a slot. -/
structure LaidOut (base : DiskManager) (storage : UInt32 → Nat)
    (sample : Tuple) (heap : Heap) (first : DiskPageCursor)
    (rows : List Tuple) (world : HeapWorld) : Prop where
  fullHead : world.fullHead heap.diskId = -1
  extended : rows ≠ [] → world.extended = [(heap.diskId, first)]
  data : ∀ index < rows.length,
    (heap.placeOf first index).1 ≠ rootPage
  taken : heap.Stored storage → ∀ cursor, cursor ≠ rootPage → ∀ slot,
    (heap.bitmapOf storage (world.page heap.diskId cursor)).bit slot =
      decide (slot < heap.countOn first rows.length cursor)
  inside : ∀ index < rows.length,
    heap.slotStart sample.cells.length (heap.placeOf first index).2 +
        Tuple.extent sample.cells ≤
      base.pageSize.toNat
  types : ∀ row ∈ rows, Tuple.SameTypes sample row
  low : ∀ index (row : Tuple), rows[index]? = some row →
    ∀ position cell, row.cells[position]? = some cell →
      world.page heap.diskId (heap.placeOf first index).1
          (heap.slotStart sample.cells.length
              (heap.placeOf first index).2 + position) =
        cell.lowByte

def ofTypes (sample : Tuple) (_ : HeapState) : HeapEvent → Prop
  | .insert tuple => Tuple.SameTypes sample tuple
  | .transfer _ => True

def rowMachine (base : DiskManager) (storage : UInt32 → Nat)
    (sample : Tuple) : Machine HeapState HeapEvent :=
  (machine base storage).whenever (ofTypes sample)

/-! ## Places -/

section Places

variable {heap : Heap} {first cursor : DiskPageCursor} {count index : Nat}

theorem countOn_succ :
    heap.countOn first (count + 1) cursor =
      heap.countOn first count cursor +
        if (heap.placeOf first count).1 = cursor then 1 else 0 := by
  simp only [countOn]
  rw [List.range_succ, List.countP_append, List.countP_singleton]
  simp

/-- Each row takes the next slot of its page. -/
theorem placeOf_slot :
    (heap.placeOf first index).2 =
      heap.countOn first index (heap.placeOf first index).1 := by
  cases index with
  | zero => rfl
  | succ index =>
      have later (count : Nat) :
          heap.countOn first (count + 1) heap.diskId =
            (if first = heap.diskId then count + 1 else count) := by
        induction count with
        | zero =>
            rw [countOn_succ, placeOf]
            split <;> rfl
        | succ count inductionHypothesis =>
            rw [countOn_succ, inductionHypothesis, placeOf, if_pos rfl]
            split <;> rfl
      rw [placeOf, later]

theorem countOn_mono {more : Nat} (le : count ≤ more) :
    heap.countOn first count cursor ≤ heap.countOn first more cursor := by
  induction le with
  | refl => exact Nat.le_refl _
  | step _ inductionHypothesis =>
      rw [countOn_succ]
      omega

/-- An earlier row on the same page is in an earlier slot. -/
theorem placeOf_slot_lt (earlier : index < count)
    (same : (heap.placeOf first index).1 = cursor) :
    (heap.placeOf first index).2 < heap.countOn first count cursor := by
  have own := @countOn_succ heap first cursor index
  have le : heap.countOn first (index + 1) cursor ≤
      heap.countOn first count cursor :=
    countOn_mono earlier
  rw [if_pos same] at own
  rw [placeOf_slot, same]
  omega

/-- No two rows are in one place. -/
theorem placeOf_injective : Function.Injective (heap.placeOf first) := by
  have lt (index count : Nat) (earlier : index < count) :
      heap.placeOf first index ≠ heap.placeOf first count := by
    intro same
    have slots := @placeOf_slot_lt heap first _ _ _ earlier rfl
    rw [same, ← placeOf_slot] at slots
    exact Nat.lt_irrefl _ slots
  intro index count same
  rcases Nat.lt_trichotomy index count with before | here | behind
  · exact absurd same (lt _ _ before)
  · exact here
  · exact absurd same.symm (lt _ _ behind)

end Places

/-! ## Sizes -/

section Sizes

variable {heap : Heap}

/-- The number of slots of a page, which has more slots than bytes. -/
theorem toNat_bitmapSize (header : 8 ≤ heap.pageSize.toNat)
    (small : heap.pageSize.toNat < 2 ^ 31) :
    heap.bitmapSize.toNat = heap.pageSize.toNat + 49 := by
  have fits : (4 + 4 : UInt32) ≤ heap.pageSize :=
    UInt32.le_iff_toNat_le.mpr header
  simp only [bitmapSize]
  rw [UInt32.toNat_add, UInt32.toNat_sub_of_le _ _ fits]
  change (heap.pageSize.toNat - 8 + 57) % 2 ^ 32 = _
  omega

theorem bitmapSize_le :
    heap.bitmapSize.toNat ≤ 8 * heap.bitmapBytes + 7 := by
  have limit := heap.bitmapSize.toNat_lt
  simp only [bitmapBytes, Bitmap.numBytesOf]
  split
  · rw [UInt32.toNat_add, UInt32.toNat_div]
    change _ ≤ 8 * ((heap.bitmapSize.toNat / 8 + 1) % 2 ^ 32) + 7
    omega
  · rw [UInt32.toNat_div]
    change _ ≤ 8 * (heap.bitmapSize.toNat / 8) + 7
    omega

/-- A slot whose row ends inside the page has a bit that is copied to the page,
and another slot behind it. -/
theorem slot_bounds {width extent slot : Nat} (some : 0 < extent)
    (wide : 0 < width) (small : heap.pageSize.toNat < 2 ^ 31)
    (inside :
      heap.slotStart width slot + extent ≤ heap.pageSize.toNat) :
    slot / 8 < heap.bitmapBytes ∧ slot + 1 < heap.bitmapSize.toNat := by
  have bytes := @bitmapSize_le heap
  have enough : slot ≤ slot * width := Nat.le_mul_of_pos_right _ wide
  simp only [slotStart] at inside
  rw [toNat_bitmapSize (by omega) small] at bytes ⊢
  constructor
  · omega
  · omega

end Sizes

/-! ## One insert -/

section Step

variable {base : DiskManager} {storage : UInt32 → Nat} {fuel : Nat}
variable {before middle after : HeapWorld} {heap : Heap}
variable {sample tuple : Tuple} {cursor first : DiskPageCursor}
variable {slot : Nat} {rows : List Tuple}

/-- The low bytes of the cells come first in what a row leaves. -/
theorem image_lowByte {cells : List Cell} {position : Nat} {cell : Cell}
    (found : cells[position]? = some cell) :
    (Tuple.image cells)[position]? = some cell.lowByte := by
  induction cells generalizing position with
  | nil => cases found
  | cons head rest inductionHypothesis =>
      have one : (head.bytes.take 1).length = 1 := by
        have positive := head.width_pos
        rw [List.length_take, Cell.length_bytes]
        omega
      rw [Tuple.image, List.append_assoc]
      cases position with
      | zero =>
          cases found
          rw [List.getElem?_append_left (by omega)]
          cases cell <;> rfl
      | succ position =>
          have later : rest[position]? = some cell := found
          have low := inductionHypothesis later
          have inside : position < (Tuple.image rest).length := by
            rw [List.getElem?_eq_some_iff] at low
            exact low.1
          rw [List.getElem?_append_right (by omega), one,
            Nat.add_sub_cancel, List.getElem?_append_left inside]
          exact low

/-- Of a heap without rows it does not matter which page is the first. -/
theorem LaidOut.of_nil {other : DiskPageCursor}
    (laid : LaidOut base storage sample heap first [] before) :
    LaidOut base storage sample heap other [] before where
  fullHead := laid.fullHead
  extended none := absurd rfl none
  data _ impossible := absurd impossible (Nat.not_lt_zero _)
  taken := laid.taken
  inside _ impossible := absurd impossible (Nat.not_lt_zero _)
  types _ member := by cases member
  low _ _ found := by cases found

/-- The lowest free slot is the number of rows on the page. -/
theorem LaidOut.slot_eq
    (laid : LaidOut base storage sample heap first rows before)
    (insertion : Insertion base storage fuel heap tuple before after cursor
      slot middle) :
    slot = heap.countOn first rows.length cursor := by
  have taken :=
    laid.taken insertion.places.stored cursor insertion.notRoot
  obtain ⟨_, free, lower⟩ :=
    Bitmap.lowestFree_eq_some_iff.mp insertion.lowestFree
  rw [taken] at free
  have notBelow := of_decide_eq_false free
  by_contra different
  have set := lower (heap.countOn first rows.length cursor) (by omega)
  rw [taken] at set
  exact absurd (of_decide_eq_true set) (Nat.lt_irrefl _)

/-- The insert of the next row, which leaves a free slot on its page. -/
private structure NextRow (base : DiskManager) (storage : UInt32 → Nat)
    (sample : Tuple) (heap : Heap) (first : DiskPageCursor)
    (rows : List Tuple) (before : HeapWorld) (tuple : Tuple)
    (cursor : DiskPageCursor) (slot : Nat) (after : HeapWorld) : Prop where
  page : (heap.placeOf first rows.length).1 = cursor
  place : (heap.placeOf first rows.length).2 = slot
  notRoot : cursor ≠ rootPage
  stored : heap.Stored storage
  offset :
    heap.slotOffset slot tuple = heap.slotStart sample.cells.length slot
  inside :
    heap.slotStart sample.cells.length slot +
        Tuple.extent sample.cells ≤
      base.pageSize.toNat
  copied : slot / 8 < heap.bitmapBytes
  pages : ∀ other, other ≠ rootPage →
    after.page heap.diskId other =
      if other = cursor then
        heap.withTuple storage tuple (before.page heap.diskId cursor) slot
      else before.page heap.diskId other

namespace NextRow

private theorem array
    (next : NextRow base storage sample heap first rows before tuple cursor
      slot after) :
    slot / 8 <
      (heap.bitmapOf storage
        (before.page heap.diskId cursor)).bytes.length := by
  rw [length_bitmapOf next.stored]
  exact Nat.lt_of_lt_of_le next.copied next.stored

private theorem data_append
    (next : NextRow base storage sample heap first rows before tuple cursor
      slot after)
    (laid : LaidOut base storage sample heap first rows before)
    {index : Nat} (below : index < rows.length + 1) :
    (heap.placeOf first index).1 ≠ rootPage := by
  rcases Nat.lt_or_eq_of_le (Nat.le_of_lt_succ below) with old | rfl
  · exact laid.data index old
  · rw [next.page]
    exact next.notRoot

private theorem inside_append
    (next : NextRow base storage sample heap first rows before tuple cursor
      slot after)
    (laid : LaidOut base storage sample heap first rows before)
    {index : Nat} (below : index < rows.length + 1) :
    heap.slotStart sample.cells.length (heap.placeOf first index).2 +
        Tuple.extent sample.cells ≤
      base.pageSize.toNat := by
  rcases Nat.lt_or_eq_of_le (Nat.le_of_lt_succ below) with old | rfl
  · exact laid.inside index old
  · rw [next.place]
    exact next.inside

/-- The slots up to the new one are taken. -/
private theorem taken_append
    (next : NextRow base storage sample heap first rows before tuple cursor
      slot after)
    (laid : LaidOut base storage sample heap first rows before)
    {other : DiskPageCursor} (data : other ≠ rootPage) (index : Nat) :
    (heap.bitmapOf storage (after.page heap.diskId other)).bit index =
      decide (index < heap.countOn first (rows.length + 1) other) := by
  have taken := laid.taken next.stored
  rw [countOn_succ, next.pages other data, next.page]
  by_cases here : cursor = other
  · subst here
    have behind :
        8 + heap.bitmapBytes ≤ heap.slotOffset slot tuple := by
      rw [next.offset, slotStart]
      omega
    have count : heap.countOn first rows.length cursor = slot := by
      rw [← next.place, placeOf_slot, next.page]
    have copied := next.copied
    rw [if_pos rfl, if_pos rfl, bit_withTuple next.stored behind,
      Bitmap.bit_withBit next.array, taken cursor data, count]
    by_cases lower : index ≤ slot
    · rw [if_pos (show index / 8 < heap.bitmapBytes by omega),
        decide_eq_true (show index < slot + 1 by omega)]
      split
      · rfl
      · exact decide_eq_true (by omega)
    · rw [decide_eq_false (show ¬ index < slot + 1 by omega)]
      split
      · rw [if_neg (by omega)]
        exact decide_eq_false (by omega)
      · rfl
  · rw [if_neg (Ne.symm here), if_neg here, Nat.add_zero]
    exact taken other data index

/-- The new row leaves the first bytes of an earlier one. -/
private theorem low_of_old
    (next : NextRow base storage sample heap first rows before tuple cursor
      slot after)
    (laid : LaidOut base storage sample heap first rows before)
    {index position : Nat} {row : Tuple} {cell : Cell}
    (old : index < rows.length) (found : rows[index]? = some row)
    (cellFound : row.cells[position]? = some cell) :
    after.page heap.diskId (heap.placeOf first index).1
        (heap.slotStart sample.cells.length
            (heap.placeOf first index).2 + position) =
      cell.lowByte := by
  have wasLow := laid.low index row found position cell cellFound
  rw [next.pages _ (laid.data index old)]
  by_cases here : (heap.placeOf first index).1 = cursor
  · have lower := placeOf_slot_lt old (here.trans next.page.symm)
    rw [← placeOf_slot, next.place] at lower
    have narrow : position < sample.cells.length := by
      rw [← length_of_sameTypes
        (laid.types row (List.mem_of_getElem? found))]
      exact (List.getElem?_eq_some_iff.mp cellFound).1
    have apart :
        ((heap.placeOf first index).2 + 1) * sample.cells.length ≤
          slot * sample.cells.length :=
      Nat.mul_le_mul_right _ lower
    rw [Nat.add_mul] at apart
    have copy :=
      @length_copied storage heap (before.page heap.diskId cursor) slot
        next.stored
    rw [if_pos here]
    simp only [withTuple, withBitmap, next.offset, slotStart]
    rw [Memory.write_outside (Or.inl (by omega)),
      Memory.write_outside (Or.inr (by omega)), ← here]
    exact wasLow
  · rw [if_neg here]
    exact wasLow

private theorem low_of_new
    (next : NextRow base storage sample heap first rows before tuple cursor
      slot after)
    {position : Nat} {cell : Cell}
    (cellFound : tuple.cells[position]? = some cell) :
    after.page heap.diskId (heap.placeOf first rows.length).1
        (heap.slotStart sample.cells.length
            (heap.placeOf first rows.length).2 + position) =
      cell.lowByte := by
  obtain ⟨within, low⟩ :=
    List.getElem?_eq_some_iff.mp (image_lowByte cellFound)
  rw [next.page, next.place, next.pages cursor next.notRoot, if_pos rfl,
    withTuple, ← next.offset, Memory.write_inside within]
  exact low

private theorem low_append
    (next : NextRow base storage sample heap first rows before tuple cursor
      slot after)
    (laid : LaidOut base storage sample heap first rows before)
    {index position : Nat} {row : Tuple} {cell : Cell}
    (found : (rows ++ [tuple])[index]? = some row)
    (cellFound : row.cells[position]? = some cell) :
    after.page heap.diskId (heap.placeOf first index).1
        (heap.slotStart sample.cells.length
            (heap.placeOf first index).2 + position) =
      cell.lowByte := by
  by_cases old : index < rows.length
  · rw [List.getElem?_append_left old] at found
    exact next.low_of_old laid old found cellFound
  · rw [List.getElem?_append_right (Nat.not_lt.mp old),
      List.getElem?_singleton] at found
    split at found
    · rename_i last
      cases found
      have same : index = rows.length := by omega
      subst same
      exact next.low_of_new cellFound
    · cases found

end NextRow

/-- The insert of a row whose page still has a free slot. -/
private theorem LaidOut.nextRow
    (laid : LaidOut base storage sample heap first rows before)
    (inPlace : RowsInPlace base storage sample heap before)
    (same : Tuple.SameTypes sample tuple) (cells : sample.cells ≠ [])
    (own : heap.pageSize = base.pageSize)
    (small : base.pageSize.toNat < 2 ^ 31)
    (page : (heap.placeOf first rows.length).1 = cursor)
    (insertion : Insertion base storage fuel heap tuple before after cursor
      slot middle) :
    NextRow base storage sample heap first rows before tuple cursor slot
        after ∧
      ((heap.bitmapOf storage (before.page heap.diskId cursor)).withBit
        slot true).numFree ≠ 0 := by
  have stored := insertion.places.stored
  have slotEq := laid.slot_eq insertion
  have width : 0 < sample.cells.length := List.length_pos_iff.mpr cells
  have extent := Tuple.length_le_extent sample.cells
  obtain ⟨offset, inside⟩ := inPlace.offset_eq same insertion
  have inside := inside cells
  obtain ⟨copied, another⟩ :=
    @slot_bounds heap sample.cells.length _ slot (by omega) width
      (own ▸ small) (own ▸ inside)
  have free :
      ((heap.bitmapOf storage (before.page heap.diskId cursor)).withBit
        slot true).numFree ≠ 0 := by
    have taken := laid.taken stored cursor insertion.notRoot
    apply Nat.pos_iff_ne_zero.mp
    apply Bitmap.numFree_pos_iff.mpr
    refine ⟨slot + 1, another, ?_⟩
    rw [Bitmap.bit_withBit
      (insertion.covered.index_lt (by exact Nat.lt_of_succ_lt another)),
      if_neg (by omega), taken]
    exact decide_eq_false (by omega)
  refine ⟨?_, free⟩
  constructor
  case page => exact page
  case place => rw [placeOf_slot, page, slotEq]
  case notRoot => exact insertion.notRoot
  case stored => exact stored
  case offset => exact offset
  case inside => exact inside
  case copied => exact copied
  case pages =>
    intro other data
    rw [insertion.page_of_free free, insertion.uses.page_of_ne data]

/-- The next row takes the next slot of its page. -/
theorem LaidOut.step
    (laid : LaidOut base storage sample heap first rows before)
    (inPlace : RowsInPlace base storage sample heap before)
    (same : Tuple.SameTypes sample tuple) (cells : sample.cells ≠ [])
    (own : heap.pageSize = base.pageSize)
    (small : base.pageSize.toNat < 2 ^ 31)
    (page : (heap.placeOf first rows.length).1 = cursor)
    (extended : after.extended = [(heap.diskId, first)])
    (insertion : Insertion base storage fuel heap tuple before after cursor
      slot middle) :
    LaidOut base storage sample heap first (rows ++ [tuple]) after := by
  obtain ⟨next, free⟩ :=
    laid.nextRow inPlace same cells own small page insertion
  have length : (rows ++ [tuple]).length = rows.length + 1 :=
    List.length_append
  constructor
  case fullHead => exact (insertion.fullHead_of_free free).trans laid.fullHead
  case extended => exact fun _ => extended
  case data =>
    intro index below
    exact next.data_append laid (length ▸ below)
  case taken =>
    intro _ other data index
    rw [length]
    exact next.taken_append laid data index
  case inside =>
    intro index below
    exact next.inside_append laid (length ▸ below)
  case types =>
    intro row member
    rcases List.mem_append.mp member with old | new
    · exact laid.types row old
    · rw [List.mem_singleton.mp new]
      exact same
  case low =>
    intro index row found position cell cellFound
    exact next.low_append laid found cellFound

end Step

/-! ## Runs -/

section Runs

variable {base : DiskManager} {storage : UInt32 → Nat}
variable {sample : Tuple} {events : List HeapEvent} {state : HeapState}

theorem rowsOf_append_insert (tuple : Tuple) :
    rowsOf (events ++ [.insert tuple]) = rowsOf events ++ [tuple] := by
  simp only [rowsOf]
  rw [List.filterMap_append]
  rfl

theorem rowsOf_append_transfer (operation : Operation) :
    rowsOf (events ++ [.transfer operation]) = rowsOf events := by
  simp only [rowsOf]
  rw [List.filterMap_append]
  exact List.append_nil _

theorem rowsOf_ne_nil : rowsOf events ≠ [] ↔ Inserts events := by
  rw [ne_eq, rowsOf, List.filterMap_eq_nil_iff]
  constructor
  · intro some
    by_contra none
    refine some fun event member => ?_
    cases event with
    | insert tuple => exact absurd ⟨tuple, member⟩ none
    | transfer operation => rfl
  · intro ⟨tuple, member⟩ none
    cases none _ member

theorem rowsInPlace_of_rows
    (run : (rowMachine base storage sample).Run events state) :
    RowsInPlace base storage sample state.heap state.world := by
  refine Machine.Run.invariant
    (fun _ state =>
      RowsInPlace base storage sample state.heap state.world) ?_ ?_ run
  · intro start started
    exact rowsInPlace_of_zeros
      ((@standing_start base storage start started).unused
        fun ⟨_, member⟩ => nomatch member).zeros
  · intro earlier before event after earlierRun rows stepped
    obtain ⟨types, sameHeap, step⟩ := stepped
    have standing := standing_of_run earlierRun.of_whenever
    rw [sameHeap]
    cases event with
    | insert tuple =>
        obtain ⟨fuel, finished⟩ := step
        obtain ⟨cursor, slot, middle, insertion⟩ :=
          insertion_of_run standing.room finished
        exact rows.step types standing.ne_end insertion
    | transfer operation =>
        constructor
        · intro cursor data index inside
          rw [page_of_transfer step]
          exact rows.header cursor data index inside
        · intro stored cells cursor data index taken
          rw [page_of_transfer step] at taken
          exact rows.rows stored cells cursor data index taken

/-- A heap that was just constructed. -/
private theorem LaidOut.of_unused {heap : Heap} {world : HeapWorld}
    (unused : Unused heap world) :
    LaidOut base storage sample heap 0 [] world where
  fullHead := unused.fullHead
  extended none := absurd rfl none
  data _ impossible := absurd impossible (Nat.not_lt_zero _)
  taken := by
    intro stored cursor data slot
    rw [unused.zeros cursor data, bit_zeros]
    rfl
  inside _ impossible := absurd impossible (Nat.not_lt_zero _)
  types _ member := by cases member
  low _ _ found := by cases found

private theorem LaidOut.transfer {heap : Heap} {first : DiskPageCursor}
    {rows : List Tuple} {before after : HeapWorld} {operation : Operation}
    (laid : LaidOut base storage sample heap first rows before)
    (step : Step base storage heap before (.transfer operation) after) :
    LaidOut base storage sample heap first rows after where
  fullHead := by
    have full := laid.fullHead
    simp only [HeapWorld.fullHead] at full ⊢
    rw [page_of_transfer step]
    exact full
  extended some := step.2.2.2.trans (laid.extended some)
  data := laid.data
  taken := by
    intro stored cursor data slot
    rw [page_of_transfer step]
    exact laid.taken stored cursor data slot
  inside := laid.inside
  types := laid.types
  low := by
    intro index row found position cell cellFound
    rw [page_of_transfer step]
    exact laid.low index row found position cell cellFound

/-- The layout is kept by every run. -/
theorem LaidOut.of_run (cells : sample.cells ≠ [])
    (small : base.pageSize.toNat < 2 ^ 31)
    (run : (rowMachine base storage sample).Run events state)
    (own : state.heap.pageSize = base.pageSize) :
    ∃ first, LaidOut base storage sample state.heap first (rowsOf events)
      state.world := by
  revert own
  refine Machine.Run.invariant
    (fun events state => state.heap.pageSize = base.pageSize →
      ∃ first, LaidOut base storage sample state.heap first
        (rowsOf events) state.world) ?_ ?_ run
  · intro start started _
    exact ⟨0, .of_unused
      ((@standing_start base storage start started).unused
        fun ⟨_, member⟩ => nomatch member)⟩
  · intro earlier before event after earlierRun known stepped own
    have standing := standing_of_run earlierRun.of_whenever
    have inPlace := rowsInPlace_of_rows earlierRun
    obtain ⟨types, sameHeap, step⟩ := stepped
    rw [sameHeap] at own ⊢
    obtain ⟨first, laid⟩ := known own
    cases event with
    | transfer operation =>
        rw [rowsOf_append_transfer]
        exact ⟨first, laid.transfer step⟩
    | insert tuple =>
        rw [rowsOf_append_insert]
        obtain ⟨fuel, finished⟩ := step
        obtain ⟨cursor, slot, middle, insertion⟩ :=
          insertion_of_run standing.room finished
        have used := insertion.uses.cursor_eq
        have extended := insertion.extended_eq
        simp only [HeapWorld.pageUsed] at used
        by_cases inserted : Inserts earlier
        · have head := standing.listed inserted
          have listed : before.world.freeHead before.heap.diskId ≠ -1 := by
            rw [head]
            exact standing.ne_end
          have some := rowsOf_ne_nil.mpr inserted
          rw [if_neg listed] at used extended
          refine ⟨first, laid.step inPlace types cells own small ?_
            (extended.trans (laid.extended some)) insertion⟩
          rw [used, head]
          obtain ⟨count, length⟩ :=
            Nat.exists_eq_succ_of_ne_zero
              (mt List.length_eq_zero_iff.mp some)
          rw [length]
          rfl
        · have unused := standing.unused inserted
          have none : rowsOf earlier = [] := by
            by_contra some
            exact inserted (rowsOf_ne_nil.mp some)
          rw [if_pos unused.freeHead, unused.unextended] at extended
          rw [none] at laid ⊢
          exact ⟨cursor, laid.of_nil.step inPlace types cells own small rfl
            extended insertion⟩

/-- In every run of inserts of rows with the same column types and at least one
cell, every row is in a place of its own with the low bytes of its cells, the bits
of these places are the ones that are set, at most one page was appended, and the
full list is empty. -/
theorem rows_laid_out (cells : sample.cells ≠ [])
    (small : base.pageSize.toNat < 2 ^ 31)
    (run : (rowMachine base storage sample).Run events state)
    (own : state.heap.pageSize = base.pageSize) :
    ∃ first,
      LaidOut base storage sample state.heap first (rowsOf events)
          state.world ∧
        Function.Injective (state.heap.placeOf first) := by
  obtain ⟨first, laid⟩ := LaidOut.of_run cells small run own
  exact ⟨first, laid, placeOf_injective⟩

end Runs

/-- One row in a heap on the second disk. -/
private theorem exists_oneCell :
    ∃ after,
      (rowMachine pageBase UInt32.toNat oneCell).Run [.insert oneCell]
        ⟨secondHeap 20, after⟩ := by
  have fits : 12 ≤ pageBase.pageSize.toNat := by decide
  obtain ⟨after, middle, insertion⟩ :=
    @exists_insertion_second pageBase UInt32.toNat 20 oneCell 0 fits
      (places_pageBase 1 (by decide))
  have started :
      (rowMachine pageBase UInt32.toNat oneCell).Run []
        ⟨secondHeap 20, secondWorld pageBase⟩ :=
    .start (@start_second pageBase UInt32.toNat 20 fits)
  exact ⟨after, started.step ⟨rfl, step_of_insertion fits insertion⟩⟩

/-- One row takes the first slot. -/
theorem rows_laid_out_second :
    ∃ world first,
      (rowMachine pageBase UInt32.toNat oneCell).Run [.insert oneCell]
          ⟨secondHeap 20, world⟩ ∧
        LaidOut pageBase UInt32.toNat oneCell (secondHeap 20) first
          [oneCell] world := by
  obtain ⟨world, run⟩ := exists_oneCell
  obtain ⟨first, laid, _⟩ := rows_laid_out (by decide) (by decide) run rfl
  exact ⟨world, first, run, laid⟩

section Room

variable {base : DiskManager} {storage : UInt32 → Nat}
variable {sample tuple : Tuple} {events : List HeapEvent}
variable {state : HeapState} {first : DiskPageCursor} {rows : List Tuple}
variable {heap : Heap} {world : HeapWorld}

/-- The bitmaps of a heap into which something was inserted. -/
theorem covered_of_rows
    (run : (rowMachine base storage sample).Run events state)
    (inserted : Inserts events) :
    state.heap.Stored storage ∧
      ∀ page, (state.heap.bitmapOf storage page).Covered := by
  revert inserted
  refine Machine.Run.invariant
    (fun events state => Inserts events →
      state.heap.Stored storage ∧
        ∀ page, (state.heap.bitmapOf storage page).Covered) ?_ ?_ run
  · intro start _ ⟨_, member⟩
    cases member
  · intro earlier before event after earlierRun known stepped inserted
    have standing := standing_of_run earlierRun.of_whenever
    obtain ⟨_, sameHeap, step⟩ := stepped
    rw [sameHeap]
    cases event with
    | transfer operation =>
        exact known ((inserts_append_transfer operation).mp inserted)
    | insert tuple =>
        obtain ⟨fuel, finished⟩ := step
        obtain ⟨cursor, slot, middle, insertion⟩ :=
          insertion_of_run standing.room finished
        have stored := insertion.places.stored
        have covered := insertion.places.covered
        refine ⟨stored, fun page => ⟨?_, covered.small⟩⟩
        have inside := covered.inside
        rw [length_bitmapOf stored] at inside ⊢
        exact inside

/-- A slot behind all rows of a page. -/
private theorem LaidOut.places
    (laid : LaidOut base storage sample heap first rows world)
    (stored : heap.Stored storage)
    (covered : ∀ page, (heap.bitmapOf storage page).Covered)
    (same : Tuple.SameTypes sample tuple) (cells : sample.cells ≠ [])
    (own : heap.pageSize = base.pageSize)
    (small : base.pageSize.toNat < 2 ^ 31) {cursor : DiskPageCursor}
    (data : cursor ≠ rootPage)
    (inside :
      heap.slotStart sample.cells.length
            (heap.countOn first rows.length cursor) +
          Tuple.extent sample.cells ≤
        base.pageSize.toNat) :
    Places storage base.pageSize.toNat heap tuple
      (world.page heap.diskId cursor)
      (heap.countOn first rows.length cursor) := by
  have width : 0 < sample.cells.length := List.length_pos_iff.mpr cells
  have extent := Tuple.length_le_extent sample.cells
  have taken := laid.taken stored cursor data
  obtain ⟨_, another⟩ :=
    @slot_bounds heap sample.cells.length _
      (heap.countOn first rows.length cursor) (by omega) width
      (own ▸ small) (own ▸ inside)
  simp only [slotStart] at inside
  have offset :
      heap.slotOffset (heap.countOn first rows.length cursor) tuple =
        8 + heap.bitmapBytes +
          heap.countOn first rows.length cursor * sample.cells.length := by
    rw [← length_of_sameTypes same]
    apply slotOffset_eq
    rw [length_of_sameTypes same]
    omega
  constructor
  · exact stored
  · omega
  · exact covered _
  · apply Bitmap.lowestFree_eq_some_iff.mpr
    refine ⟨Nat.lt_of_succ_lt another, ?_, fun lower below => ?_⟩
    · rw [taken]
      exact decide_eq_false (Nat.lt_irrefl _)
    · rw [taken]
      exact decide_eq_true below
  · intro _
    rw [offset, ← Tuple.extent_of_types same]
    exact inside

/-- Another row is taken exactly if the disk is not the first one and the row
ends inside the page of the free list, behind the rows that are there. -/
theorem row_taken_iff (cells : sample.cells ≠ [])
    (small : base.pageSize.toNat < 2 ^ 31)
    (run : (rowMachine base storage sample).Run events state)
    (own : state.heap.pageSize = base.pageSize)
    (inserted : Inserts events)
    (types : Tuple.SameTypes sample tuple) :
    ∃ first, state.world.extended = [(state.heap.diskId, first)] ∧
      ((∃ next, (rowMachine base storage sample).step state
            (.insert tuple) next) ↔
        state.heap.diskId ≠ rootPage ∧
          state.heap.slotStart sample.cells.length
                (state.heap.countOn first (rowsOf events).length
                  state.heap.diskId) +
              Tuple.extent sample.cells ≤
            base.pageSize.toNat) := by
  obtain ⟨first, laid⟩ := LaidOut.of_run cells small run own
  have standing := standing_of_run run.of_whenever
  have head := standing.listed inserted
  have listed : state.world.freeHead state.heap.diskId ≠ -1 := by
    rw [head]
    exact standing.ne_end
  refine ⟨first, laid.extended (rowsOf_ne_nil.mpr inserted), ?_, ?_⟩
  · intro taken
    obtain ⟨next, _, _, fuel, finished⟩ := taken
    obtain ⟨cursor, slot, middle, insertion⟩ :=
      insertion_of_run standing.room finished
    have used := insertion.uses.cursor_eq
    simp only [HeapWorld.pageUsed] at used
    rw [if_neg listed, head] at used
    subst used
    have inside :=
      ((rowsInPlace_of_rows run).offset_eq types insertion).2 cells
    refine ⟨insertion.notRoot, ?_⟩
    rw [← laid.slot_eq insertion]
    exact inside
  · intro room
    obtain ⟨data, inside⟩ := room
    obtain ⟨stored, covered⟩ := covered_of_rows run inserted
    have uses :
        UsesPage base state.heap state.world
          (state.world.freeHead state.heap.diskId) state.world :=
      .listed listed
    rw [head] at uses
    obtain ⟨after, insertion⟩ :=
      @exists_insertion base storage 0 _ _ _ tuple _ _ uses data
        (laid.places stored covered types cells own small data inside)
        laid.fullHead
    exact ⟨_, types, step_of_insertion standing.room insertion⟩

end Room

/-- There is room for a second row. -/
theorem row_taken_iff_second :
    ∃ world next,
      (rowMachine pageBase UInt32.toNat oneCell).Run [.insert oneCell]
          ⟨secondHeap 20, world⟩ ∧
        (rowMachine pageBase UInt32.toNat oneCell).step
          ⟨secondHeap 20, world⟩ (.insert oneCell) next := by
  obtain ⟨world, run⟩ := exists_oneCell
  obtain ⟨first, _, taken⟩ :=
    @row_taken_iff _ _ oneCell oneCell _ _ (by decide) (by decide) run rfl
      ⟨oneCell, List.mem_singleton_self _⟩ rfl
  have bytes : (secondHeap 20).bitmapBytes = 9 := bitmapBytes_pageBase 1
  have few :
      (secondHeap 20).countOn first 1 (secondHeap 20).diskId ≤ 1 :=
    List.countP_le_length
  have data : (secondHeap 20).diskId ≠ rootPage := by decide
  have inside :
      8 + (secondHeap 20).bitmapBytes +
            (secondHeap 20).countOn first 1 (secondHeap 20).diskId * 1 +
          1 ≤
        20 := by
    omega
  obtain ⟨next, stepped⟩ := taken.mpr ⟨data, inside⟩
  exact ⟨world, next, run, stepped⟩

end Heap

end Lewsql
